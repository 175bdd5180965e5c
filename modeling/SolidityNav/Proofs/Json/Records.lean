/-
# Proofs.Json.Records -- records are read whatever else their object holds

An object presents a record when it has each name once and holds, under each name of a shape, what the shape asks for
(`Presents`).  The order of its fields and the fields beyond the shape are left open.

Reading such an object goes through the fields as they come, so what has been collected at any time depends on the names
that were seen.  `Stages` says what a draft is after any names; then the record is read from every object that presents it
(`record_of_presents`).
-/
import Mathlib.Data.List.Forall2
import SolidityNav.Json.Decode
import SolidityNav.Proofs.Table

namespace SolidityNav.Json

set_option autoImplicit false

/-! ## Values without faults -/

mutual

theorem skip_ofJson : ∀ value : Json, (Doc.ofJson value).skip = .ok ()
  | .null | .bool _ | .number _ | .string _ => rfl
  | .array items => by
      rw [Doc.ofJson, Doc.skip, skipItems_ofItems items]
      rfl
  | .object fields => by
      rw [Doc.ofJson, Doc.skip, skipMembers_ofFields fields]
      rfl

theorem skipItems_ofItems : ∀ items : List Json, Doc.skipItems (Doc.ofItems items) = .ok ()
  | [] => rfl
  | item :: rest => by
      rw [Doc.ofItems, Doc.skipItems, skip_ofJson item, skipItems_ofItems rest]
      rfl

theorem skipMembers_ofFields : ∀ fields : List (String × Json), Doc.skipMembers (Doc.ofFields fields) = .ok ()
  | [] => rfl
  | (name, value) :: rest => by
      rw [Doc.ofFields, Doc.skipMembers, skip_ofJson value, skipMembers_ofFields rest]
      rfl

end

namespace Decoder

theorem int64_of_eq {n : Int64} (value : Json) (same : value = .int n.toInt) : int64 none (Doc.ofJson value) = .ok n := by
  have bounds : -0x8000000000000000 ≤ n.toInt ∧ n.toInt ≤ 0x7FFFFFFFFFFFFFFF := by
    have lower := n.le_toInt
    have upper := n.toInt_lt
    omega
  simp [same, int64, integer, Doc.ofJson, Json.int, bounds, Except.map]

theorem uint32_of_eq {n : UInt32} (value : Json) (same : value = .nat n.toNat) :
    uint32 none (Doc.ofJson value) = .ok n := by
  have bounds : 0 ≤ (n.toNat : Int) ∧ (n.toNat : Int) ≤ 0xFFFFFFFF := by
    have upper := n.toNat_lt
    omega
  simp [same, uint32, integer, Doc.ofJson, Json.nat, bounds, Except.map]

end Decoder

/-! ## Shapes -/

abbrev Shape := List (String × (Json → Prop))

/-- The value is an object with each name once that holds what the shape asks for. -/
def Presents (shape : Shape) (value : Json) : Prop :=
  ∃ fields : Table String Json, value = .object fields ∧ fields.keys.Nodup ∧
    ∀ entry ∈ shape, ∃ held, Table.find? entry.1 fields = some held ∧ entry.2 held

theorem Presents.ne_null {shape : Shape} {value : Json} (presented : Presents shape value) : value ≠ .null := by
  obtain ⟨fields, rfl, -⟩ := presented
  exact nofun

section Optional

variable {α : Type} {asks : α → Json → Prop}

def Optional (asks : α → Json → Prop) : Option α → Json → Prop
  | none => (· = .null)
  | some content => asks content

theorem optional_option {encode : α → Json} (meets : ∀ content, asks content (encode content)) (content : Option α) :
    Optional asks content (Json.option encode content) := by
  cases content with
  | none => rfl
  | some content => exact meets content

/-- What is there is read, if it does not look like what is missing. -/
theorem Decoder.option_of_optional {decoder : Decoder α}
    (reads : ∀ content value, asks content value → decoder none (Doc.ofJson value) = .ok content)
    (present : ∀ content value, asks content value → value ≠ .null) {content : Option α} (value : Json)
    (meets : Optional asks content value) : Decoder.option decoder none (Doc.ofJson value) = .ok content := by
  cases content with
  | none =>
      obtain rfl : value = .null := meets
      rfl
  | some content =>
      have read := congrArg (Except.map some) (reads content value meets)
      cases value with
      | null => exact absurd rfl (present content _ meets)
      | _ => exact read

end Optional

/-! ## Collecting -/

section Stages

variable {σ α : Type} {slots : List (Slot σ)} {shape : Shape} {stage : List String → σ}

/-- A slot takes the field that an entry of a shape asks for, and brings the draft to its next stage, when the name was not
seen before. -/
def Takes (stage : List String → σ) (slot : Slot σ) (entry : String × (Json → Prop)) : Prop :=
  slot.name = entry.1 ∧ ∀ value seen, entry.2 value → slot.name ∉ seen →
    slot.filled (stage seen) = false ∧ slot.fill (stage seen) none (Doc.ofJson value) = .ok (stage (slot.name :: seen))

theorem takes_of {name : String} {get : σ → Option α} {set : σ → α → σ} {decoder : Decoder α} {defaulted : Bool}
    {asks : Json → Prop} (content : α) (reads : ∀ value, asks value → decoder none (Doc.ofJson value) = .ok content)
    (blank : ∀ seen, name ∉ seen → get (stage seen) = none)
    (sets : ∀ seen, set (stage seen) content = stage (name :: seen)) :
    Takes stage (.of name get set decoder defaulted) (name, asks) := by
  refine ⟨rfl, fun value seen meets fresh => ⟨?_, ?_⟩⟩
  · show (get (stage seen)).isSome = false
    rw [blank seen fresh]
    rfl
  · show (decoder none (Doc.ofJson value)).map (set (stage seen)) = .ok (stage (name :: seen))
    rw [reads value meets, ← sets seen]
    rfl

/-- The drafts that are collected from objects of a shape, by the names that were seen. -/
structure Stages (slots : List (Slot σ)) (shape : Shape) (stage : List String → σ) : Prop where
  /-- A name that no slot has changes nothing. -/
  passes : ∀ name seen, (∀ slot ∈ slots, slot.name ≠ name) → stage (name :: seen) = stage seen
  takes : List.Forall₂ (Takes stage) slots shape

theorem exists_takes {slot : Slot σ} (takes : List.Forall₂ (Takes stage) slots shape) (member : slot ∈ slots) :
    ∃ entry ∈ shape, Takes stage slot entry := by
  induction takes with
  | nil => cases member
  | @cons first entry others entries here _ ih =>
      rcases List.mem_cons.mp member with rfl | later
      · exact ⟨entry, List.mem_cons_self, here⟩
      · obtain ⟨found, listed, taken⟩ := ih later
        exact ⟨found, List.mem_cons_of_mem entry listed, taken⟩

/-- One field takes the draft to its next stage. -/
theorem Stages.fromMembers_cons (stages : Stages slots shape stage) {name : String} {value : Json} {seen : List String}
    (fresh : name ∉ seen) (meets : ∀ entry ∈ shape, entry.1 = name → entry.2 value) (rest : List (Key × Doc)) :
    Slot.fromMembers slots none (stage seen) ((.ok name, Doc.ofJson value) :: rest) =
      Slot.fromMembers slots none (stage (name :: seen)) rest := by
  cases found : slots.find? (·.name == name) with
  | none =>
      have unnamed : ∀ slot ∈ slots, slot.name ≠ name := by simpa using List.find?_eq_none.mp found
      rw [stages.passes name seen unnamed]
      simp [Slot.fromMembers, found, skip_ofJson, bind, Except.bind]
  | some slot =>
      obtain rfl : slot.name = name := by simpa using List.find?_some found
      obtain ⟨entry, listed, named, takes⟩ := exists_takes stages.takes (List.mem_of_find?_eq_some found)
      obtain ⟨unfilled, filled⟩ := takes value seen (meets entry listed named.symm) fresh
      simp [Slot.fromMembers, found, unfilled, filled, bind, Except.bind]

/-- The fields of an object take the draft to the stage of their names, whatever their order. -/
theorem Stages.fromMembers_ofFields (stages : Stages slots shape stage) {fields : Table String Json}
    (distinct : fields.keys.Nodup) (meets : ∀ field ∈ fields, ∀ entry ∈ shape, entry.1 = field.1 → entry.2 field.2)
    {seen : List String} (fresh : ∀ name ∈ fields.keys, name ∉ seen) :
    Slot.fromMembers slots none (stage seen) (Doc.ofFields fields) = .ok (stage (fields.keys.reverse ++ seen)) := by
  -- A draft is known by the names seen so far alone, so the fields behind it may start from any names but their own.
  induction fields generalizing seen with
  | nil => rfl
  | cons field rest ih =>
      obtain ⟨name, value⟩ := field
      obtain ⟨freshName, distinctRest⟩ := List.nodup_cons.mp distinct
      obtain ⟨meetsFirst, meetsRest⟩ := List.forall_mem_cons.mp meets
      have here := stages.fromMembers_cons (fresh name List.mem_cons_self) meetsFirst (Doc.ofFields rest)
      have later : ∀ other ∈ Table.keys rest, other ∉ name :: seen := by
        intro other member
        rw [List.mem_cons, not_or]
        exact ⟨fun same => freshName (same ▸ member), fresh other (List.mem_cons_of_mem name member)⟩
      rw [Doc.ofFields, here, ih distinctRest meetsRest later]
      simp [Table.keys]

/-- **A record is read from every object that presents it.** -/
theorem record_of_presents (stage : List String → σ) (stages : Stages slots shape stage) {empty : σ}
    (start : stage [] = empty) {complete : σ → Option α} {result : α}
    (done : ∀ names, (∀ slot ∈ slots, slot.name ∈ names) → complete (stage names) = some result) {value : Json}
    (presented : Presents shape value) : Decoder.record slots empty complete none (Doc.ofJson value) = .ok result := by
  obtain ⟨fields, rfl, distinct, present⟩ := presented
  subst start
  have meets : ∀ field ∈ fields, ∀ entry ∈ shape, entry.1 = field.1 → entry.2 field.2 := by
    intro field member entry listed named
    obtain ⟨held, found, asked⟩ := present entry listed
    rw [named, (Table.find?_eq_some_iff distinct).mpr member] at found
    cases found
    exact asked
  have collected : Slot.fromMembers slots none (stage []) (Doc.ofFields fields) = .ok (stage fields.keys.reverse) := by
    rw [stages.fromMembers_ofFields distinct meets (by simp), List.append_nil]
  have whole : complete (stage fields.keys.reverse) = some result := by
    apply done
    intro slot member
    obtain ⟨entry, listed, named, -⟩ := exists_takes stages.takes member
    obtain ⟨held, found, -⟩ := present entry listed
    rw [named]
    exact List.mem_reverse.mpr (List.mem_map_of_mem (Table.mem_of_find? found))
  simp [Decoder.record, Doc.ofJson, Room.enter, closed, bind, Except.bind, pure, Except.pure, collected, whole]

end Stages

end SolidityNav.Json
