/-
# Proofs.Location -- locations are read back from what is written for them

A location is written as an object with objects in it, and read back by names.  Each of the four records has a shape, which
says what stands under its names, and stages, which say what has been collected from the names that were seen.  What is
written has the shape (`presents_of_toJson?`), the shape is kept when fields are moved or added (`stable_shape`), and from
every object of the shape the record is read (`decoder_of_presents`).

The kind of a node is written as its tag.  Every tag is that of the kind that it is read as (`tag_ofTag`), so a kind that was
read from some tag is read back.  A path is written as the text that spells it; without one the location is not written at
all (`isSome_toJson?`).  `ofJson_of_varied` puts these together.
-/
import SolidityNav.Location
import SolidityNav.Proofs.Json.Variation
import SolidityNav.Proofs.Path

namespace SolidityNav

set_option autoImplicit false

open SolidityNav.Ast (NodeType)
open SolidityNav.Json (Decoder Doc Optional Presents Shape Slot Stable)

/-! ## Kinds -/

namespace Ast.NodeType

/-- **A kind has the tag that it was read from.** -/
theorem tag_ofTag (tag : String) : (ofTag tag).tag = tag := by
  rw [ofTag]
  cases found : known.find? fun kind => kind.tag == tag with
  | none => rfl
  | some kind => simpa using List.find?_some found

theorem ofTag_injective : Function.Injective ofTag :=
  Function.LeftInverse.injective tag_ofTag

-- Not every kind is read from its tag: this one has the tag of a known kind.
example : ofTag (NodeType.other "Identifier").tag ≠ .other "Identifier" := by decide

end Ast.NodeType

/-! ## Positions -/

namespace Position

def shape (position : Position) : Shape :=
  [("line", (· = .nat position.line.toNat)), ("character", (· = .nat position.character.toNat))]

def stage (position : Position) (seen : List String) : Draft where
  line := if "line" ∈ seen then some position.line else none
  character := if "character" ∈ seen then some position.character else none

theorem presents_toJson (position : Position) : Presents position.shape position.toJson :=
  ⟨_, rfl, by simp [Table.keys], by simp [shape, Table.find?]⟩

theorem stable_shape (position : Position) : Stable (Presents position.shape) := by
  apply Json.stable_presents
  simp only [shape, List.forall_mem_cons]
  exact ⟨Json.stable_eq rfl rfl, Json.stable_eq rfl rfl, by simp⟩

theorem decoder_of_presents {position : Position} {value : Json} (presented : Presents position.shape value) :
    decoder none (Doc.ofJson value) = .ok position := by
  unfold decoder
  refine Json.record_of_presents position.stage ⟨?_, .cons ?_ (.cons ?_ .nil)⟩ rfl ?_ presented
  · intro name seen unnamed
    simp_all [Slot.of, stage]
  · exact Json.takes_of position.line Decoder.uint32_of_eq (by simp +contextual [stage]) (by simp [stage])
  · exact Json.takes_of position.character Decoder.uint32_of_eq (by simp +contextual [stage]) (by simp [stage])
  · intro names seen
    simp_all [Slot.of, stage]

end Position

/-! ## Regions -/

namespace Region

def shape (region : Region) : Shape :=
  [("start", Presents region.start.shape), ("end", Presents region.stop.shape)]

def stage (region : Region) (seen : List String) : Draft where
  start := if "start" ∈ seen then some region.start else none
  stop := if "end" ∈ seen then some region.stop else none

theorem presents_toJson (region : Region) : Presents region.shape region.toJson :=
  ⟨_, rfl, by simp [Table.keys], by simp [shape, Table.find?, Position.presents_toJson]⟩

theorem stable_shape (region : Region) : Stable (Presents region.shape) := by
  apply Json.stable_presents
  simp [shape, Position.stable_shape]

theorem decoder_of_presents {region : Region} {value : Json} (presented : Presents region.shape value) :
    decoder none (Doc.ofJson value) = .ok region := by
  unfold decoder
  refine Json.record_of_presents region.stage ⟨?_, .cons ?_ (.cons ?_ .nil)⟩ rfl ?_ presented
  · intro name seen unnamed
    simp_all [Slot.of, stage]
  · exact Json.takes_of region.start (fun _ => Position.decoder_of_presents) (by simp +contextual [stage]) (by simp [stage])
  · exact Json.takes_of region.stop (fun _ => Position.decoder_of_presents) (by simp +contextual [stage]) (by simp [stage])
  · intro names seen
    simp_all [Slot.of, stage]

end Region

/-! ## Spans -/

namespace Span

def shape (span : Span) : Shape :=
  [("start", (· = .int span.start.toInt)), ("length", (· = .int span.length.toInt)),
    ("fileIndex", (· = .int span.file.toInt))]

def stage (span : Span) (seen : List String) : Draft where
  start := if "start" ∈ seen then some span.start else none
  length := if "length" ∈ seen then some span.length else none
  file := if "fileIndex" ∈ seen then some span.file else none

theorem presents_toJson (span : Span) : Presents span.shape span.toJson :=
  ⟨_, rfl, by simp [Table.keys], by simp [shape, Table.find?]⟩

theorem stable_shape (span : Span) : Stable (Presents span.shape) := by
  apply Json.stable_presents
  simp only [shape, List.forall_mem_cons]
  exact ⟨Json.stable_eq rfl rfl, Json.stable_eq rfl rfl, Json.stable_eq rfl rfl, by simp⟩

theorem decoder_of_presents {span : Span} {value : Json} (presented : Presents span.shape value) :
    decoder none (Doc.ofJson value) = .ok span := by
  unfold decoder
  refine Json.record_of_presents span.stage ⟨?_, .cons ?_ (.cons ?_ (.cons ?_ .nil))⟩ rfl ?_ presented
  · intro name seen unnamed
    simp_all [Slot.of, stage]
  · exact Json.takes_of span.start Decoder.int64_of_eq (by simp +contextual [stage]) (by simp [stage])
  · exact Json.takes_of span.length Decoder.int64_of_eq (by simp +contextual [stage]) (by simp [stage])
  · exact Json.takes_of span.file Decoder.int64_of_eq (by simp +contextual [stage]) (by simp [stage])
  · intro names seen
    simp_all [Slot.of, stage]

end Span

/-! ## Locations -/

namespace Location

/-- The value is a text that spells the path. -/
def Spells (path : Path) (value : Json) : Prop :=
  ∃ text, Path.ofText text = path ∧ value = .string text

theorem optional_spells {path : Option Path} {text : Option String} (spelled : path.mapM Path.text? = some text) :
    Optional Spells path (Json.option .string text) := by
  cases path with
  | none =>
      cases spelled
      rfl
  | some path =>
      obtain ⟨text, given, rfl⟩ := Option.map_eq_some_iff.mp spelled
      exact ⟨text, Path.text?_eq_some_iff.mp given, rfl⟩

theorem stable_spells (path : Path) : Stable (Spells path) := by
  rintro value other change ⟨text, spelled, same⟩
  have kept : Stable (· = .string text) := Json.stable_eq rfl rfl
  exact ⟨text, spelled, kept value other change same⟩

def shape (location : Location) : Shape :=
  [("id", (· = .int location.id.toInt)), ("node_type", (· = .string location.nodeType.tag)),
    ("name", Optional (fun name value => value = .string name) location.name),
    ("src", Presents location.src.shape),
    ("path", Optional Spells location.path),
    ("range", Optional (fun region => Presents region.shape) location.region)]

def stage (location : Location) (seen : List String) : Draft where
  id := if "id" ∈ seen then some location.id else none
  nodeType := if "node_type" ∈ seen then some location.nodeType else none
  name := if "name" ∈ seen then some location.name else none
  src := if "src" ∈ seen then some location.src else none
  path := if "path" ∈ seen then some location.path else none
  region := if "range" ∈ seen then some location.region else none

theorem presents_of_toJson? {location : Location} {written : Json} (given : location.toJson? = some written) :
    Presents location.shape written := by
  obtain ⟨text, spelled, same⟩ := Option.bind_eq_some_iff.mp given
  cases same
  refine ⟨_, rfl, by simp [Table.keys], ?_⟩
  simp only [shape, List.forall_mem_cons]
  refine ⟨⟨_, rfl, rfl⟩, ⟨_, rfl, rfl⟩, ⟨_, rfl, ?_⟩, ⟨_, rfl, location.src.presents_toJson⟩,
    ⟨_, rfl, optional_spells spelled⟩, ⟨_, rfl, ?_⟩, by simp⟩
  · apply Json.optional_option
    exact fun name => rfl
  · exact Json.optional_option Region.presents_toJson location.region

/-- A location is written unless no text spells its path. -/
theorem isSome_toJson? {location : Location} :
    location.toJson?.isSome = true ↔ ∀ path, location.path = some path → ∃ text, Path.ofText text = path := by
  rw [toJson?]
  cases location.path with
  | none => simp
  | some path =>
      simp only [Option.some.injEq, forall_eq', ← Path.text?_eq_some_iff, ← Option.isSome_iff_exists]
      cases spelled : path.text? <;> simp [spelled]

theorem stable_shape (location : Location) : Stable (Presents location.shape) := by
  apply Json.stable_presents
  simp only [shape, List.forall_mem_cons]
  exact ⟨Json.stable_eq rfl rfl, Json.stable_eq rfl rfl, Json.stable_optional (fun _ => Json.stable_eq rfl rfl) _,
    location.src.stable_shape, Json.stable_optional stable_spells _, Json.stable_optional Region.stable_shape _, by simp⟩

/-- The kind is read back if it was read from a tag. -/
theorem nodeTypeDecoder_of_eq {kind : NodeType} {tag : String} (read : kind = .ofTag tag) (value : Json)
    (same : value = .string kind.tag) : nodeTypeDecoder none (Doc.ofJson value) = .ok kind := by
  subst same read
  show Except.ok (NodeType.ofTag (NodeType.ofTag tag).tag) = .ok (NodeType.ofTag tag)
  rw [NodeType.tag_ofTag]

theorem decoder_of_presents {location : Location} {tag : String} (kind : location.nodeType = .ofTag tag) {value : Json}
    (presented : Presents location.shape value) : decoder none (Doc.ofJson value) = .ok location := by
  unfold decoder
  refine Json.record_of_presents location.stage ⟨?_, .cons ?_ (.cons ?_ (.cons ?_ (.cons ?_ (.cons ?_ (.cons ?_ .nil)))))⟩
    rfl ?_ presented
  · intro name seen unnamed
    simp_all [Slot.of, stage]
  · exact Json.takes_of location.id Decoder.int64_of_eq (by simp +contextual [stage]) (by simp [stage])
  · exact Json.takes_of location.nodeType (nodeTypeDecoder_of_eq kind) (by simp +contextual [stage]) (by simp [stage])
  · refine Json.takes_of location.name (Decoder.option_of_optional ?_ ?_) (by simp +contextual [stage]) (by simp [stage])
    · rintro name _ rfl
      rfl
    · rintro name _ rfl
      exact nofun
  · exact Json.takes_of location.src (fun _ => Span.decoder_of_presents) (by simp +contextual [stage]) (by simp [stage])
  · refine Json.takes_of location.path (Decoder.option_of_optional ?_ ?_) (by simp +contextual [stage]) (by simp [stage])
    · rintro _ _ ⟨text, rfl, rfl⟩
      rfl
    · rintro path _ ⟨text, -, rfl⟩
      exact nofun
  · refine Json.takes_of location.region (Decoder.option_of_optional ?_ ?_) (by simp +contextual [stage]) (by simp [stage])
    · exact fun region value => Region.decoder_of_presents
    · exact fun region value => Presents.ne_null
  · intro names seen
    -- The tag stays out of this: rewriting with it would take the location apart.
    simp [Slot.of] at seen
    simp [stage, seen]

/-- **A location is read back from what was written for it**, also after fields were moved and added. -/
theorem ofJson_of_varied {location : Location} {tag : String} (kind : location.nodeType = .ofTag tag) {written value : Json}
    (given : location.toJson? = some written) (varied : Json.Varied written value) : ofJson value = .ok location := by
  have presented := location.stable_shape.of_varied varied (presents_of_toJson? given)
  rw [ofJson, Decoder.fromValue, decoder_of_presents kind presented]
  rfl

end Location

end SolidityNav
