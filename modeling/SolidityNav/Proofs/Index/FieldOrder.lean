/-
# Proofs.Index.FieldOrder -- the order of fields does not change what is found

Everything in an index is collected in the order in which the walk leaves the nodes, and the order of the fields decides
this order at every level.  Still two ASTs that differ in nothing else have indexes of the same content: the same nodes
with the same links and stamps, the same starts, and the same entries and uses in some order (`Matches`).  A lookup may
take another one of several nodes with one start and one length; these two it always finds alike.

All of it is read off the surveys of the two ASTs, which are permutations of one another.  A structural node of the one
has its twin in the other, and whatever depends on the summary alone is the same for both (`twin_of_mem_visits`,
`filterMap_postorder_perm`).
-/
import Mathlib.Data.List.Sort
import SolidityNav.Proofs.Index.Survey
import SolidityNav.Proofs.Index.Tightest
import SolidityNav.Proofs.Index.Uses

namespace SolidityNav

set_option autoImplicit false

open SolidityNav.Ast (Node NodeId RawNode)
open SolidityNav.Ast.RawNode (Summary Visit)

namespace Index

/-! ## Two indexes of one content -/

/-- Two nodes agree in all but the order of their children and the fields that were kept as they were. -/
structure Resembles (node twin : Node) : Prop where
  id : node.id = twin.id
  nodeType : node.nodeType = twin.nodeType
  src : node.src = twin.src
  parent : node.parent = twin.parent
  contract : node.contract = twin.contract
  callable : node.callable = twin.callable
  children : node.children.Perm twin.children

def extent (node : Node) : Int64 × Int64 :=
  (node.src.start, node.src.length)

/-- Two indexes have the same content, up to the order in which it was collected. -/
structure Matches (first second : Index) : Prop where
  root : first.root = second.root
  ids : ∀ id, id ∈ first.nodes ↔ id ∈ second.nodes
  nodes : ∀ id node twin, first.node? id = some node → second.node? id = some twin → Resembles node twin
  starts : first.offsets.starts = second.offsets.starts
  buckets : ∀ start, (first.offsets.bucket start).Perm (second.offsets.bucket start)
  uses : ∀ declaration, (first.uses.getD declaration #[]).toList.Perm (second.uses.getD declaration #[]).toList
  atOffset : ∀ offset, (first.atOffset? offset).map extent = (second.atOffset? offset).map extent
  atSpan : ∀ span, (first.atSpan? span).map extent = (second.atSpan? span).map extent

/-! ## Structural nodes and their twins -/

section Twins

variable {root twin : RawNode} (alike : (root.survey []).Perm (twin.survey []))
include alike

theorem twin_of_mem_visits {visit : Visit} (member : visit ∈ root.visits []) :
    ∃ other ∈ twin.visits [], other.summary = visit.summary := by
  have listed : visit.summary ∈ twin.survey [] := alike.mem_iff.mp (List.mem_map_of_mem member)
  exact List.mem_map.mp listed

/-- What is selected by the summaries alone is selected in both, in some order. -/
theorem filterMap_postorder_perm {γ : Type} (select : RawNode → Option γ) (read : Summary → Option γ)
    (same : ∀ visit : Visit, select visit.raw = read visit.summary) :
    (root.postorder.filterMap select).Perm (twin.postorder.filterMap select) := by
  have surveyed (raw : RawNode) : raw.postorder.filterMap select = (raw.survey []).filterMap read := by
    rw [← raw.map_raw_visits [], RawNode.survey, List.filterMap_map, List.filterMap_map]
    exact List.filterMap_congr fun visit _ => same visit
  rw [surveyed, surveyed]
  exact alike.filterMap read

theorem ids_postorder_perm : (root.postorder.map RawNode.id).Perm (twin.postorder.map RawNode.id) := by
  have ids := filterMap_postorder_perm alike (fun raw => some raw.id) (fun summary => some summary.id) fun _ => rfl
  simpa only [List.filterMap_eq_map'] using ids

theorem spans_perm : root.spans.Perm twin.spans :=
  (filterMap_postorder_perm alike RawNode.span? (fun summary => (Span.parse summary.src).toOption) fun _ => rfl).filter _

theorem filable_of_alike (filable : root.Filable) : twin.Filable where
  readable := by
    intro raw member
    rw [← twin.map_raw_visits []] at member
    obtain ⟨visit, visited, rfl⟩ := List.mem_map.mp member
    obtain ⟨other, visitedOther, same⟩ := twin_of_mem_visits alike.symm visited
    have readable := filable.readable other.raw (RawNode.raw_mem_postorder visitedOther)
    rwa [RawNode.span?, show other.raw.src = visit.raw.src from congrArg Summary.src same] at readable
  distinct := (ids_postorder_perm alike).nodup_iff.mp filable.distinct

theorem starts_eq : root.index.offsets.starts = twin.index.offsets.starts := by
  apply Array.toList_inj.mp
  apply (starts_index_ascending root).eq_of_mem_iff (starts_index_ascending twin)
  intro start
  rw [Array.mem_toList_iff, Array.mem_toList_iff, mem_starts_index_iff_spans, mem_starts_index_iff_spans]
  exact exists_congr fun own => and_congr_left fun _ => (spans_perm alike).mem_iff

theorem bucket_perm (start : Nat) :
    (root.index.offsets.bucket start).Perm (twin.index.offsets.bucket start) := by
  rw [bucket_index, bucket_index]
  -- An entry is made of the span and the id, so a node without fields has the same one.
  exact filterMap_postorder_perm alike (RawNode.entryAt? start)
    (fun summary => RawNode.entryAt? start ⟨summary.id, summary.tag, summary.src, []⟩) fun _ => rfl

end Twins

/-! ## Nodes -/

/-- Visits of one summary are indexed alike. -/
theorem resembles_of_summary {visit other : Visit} {node twin : Node} (same : visit.summary = other.summary)
    (indexed : visit.node? = some node) (indexedOther : other.node? = some twin) : Resembles node twin := by
  obtain ⟨id, tag, src, parent, scope, -, children⟩ := Summary.mk.inj same
  obtain ⟨ownId, ownType, ownSrc, ownParent, ownChildren⟩ := fields_of_node? indexed
  obtain ⟨twinId, twinType, twinSrc, twinParent, twinChildren⟩ := fields_of_node? indexedOther
  obtain ⟨ownContract, ownCallable⟩ := scope_of_node? indexed
  obtain ⟨twinContract, twinCallable⟩ := scope_of_node? indexedOther
  have kind : visit.raw.nodeType = other.raw.nodeType := congrArg Ast.NodeType.ofTag tag
  have span : visit.raw.span? = other.raw.span? := by rw [RawNode.span?, src]; rfl
  have ids := (Multiset.coe_eq_coe.mp children).map Prod.snd
  simp only [RawNode.idsByField, List.map_map] at ids
  exact {
    id := by rw [ownId, twinId, id]
    nodeType := by rw [ownType, twinType, kind]
    src := Option.some.inj (by rw [← ownSrc, ← twinSrc, span])
    parent := by rw [ownParent, twinParent, parent]
    contract := by rw [ownContract, twinContract, kind, scope]
    callable := by rw [ownCallable, twinCallable, kind, scope]
    children := by
      rw [ownChildren, twinChildren]
      exact ids }

section Alike

variable {root twin : RawNode} (alike : (root.survey []).Perm (twin.survey [])) (filable : root.Filable)
include alike filable

/-- Under one id the indexes hold nodes that resemble each other. -/
theorem resembles_of_node? {id : NodeId} {node other : Node} (found : root.index.node? id = some node)
    (foundTwin : twin.index.node? id = some other) : Resembles node other := by
  have filableTwin := filable_of_alike alike filable
  obtain ⟨visit, visited, indexed, rfl⟩ := (node?_index_eq_some_iff filable).mp found
  obtain ⟨near, visitedNear, indexedNear, sameId⟩ := (node?_index_eq_some_iff filableTwin).mp foundTwin
  obtain ⟨far, visitedFar, same⟩ := twin_of_mem_visits alike visited
  have farId : far.raw.id = visit.raw.id := congrArg Summary.id same
  -- Ids are distinct, so the node of this id is the twin of the node.
  obtain rfl := eq_of_raw_id_eq filableTwin visitedNear visitedFar (sameId.trans farId.symm)
  exact resembles_of_summary same.symm indexed indexedNear

theorem mem_nodes_iff_of_alike (id : NodeId) : id ∈ root.index.nodes ↔ id ∈ twin.index.nodes := by
  rw [← Std.ExtTreeMap.mem_keys, ← Std.ExtTreeMap.mem_keys, (keys_index_perm filable).mem_iff,
    (keys_index_perm (filable_of_alike alike filable)).mem_iff, (ids_postorder_perm alike).mem_iff]

theorem uses_perm (declaration : NodeId) :
    (root.index.uses.getD declaration #[]).toList.Perm (twin.index.uses.getD declaration #[]).toList := by
  have selected (raw : RawNode) : (raw.referring declaration).map RawNode.id =
      raw.postorder.filterMap fun node => if node.reference? = some declaration then some node.id else none := by
    rw [RawNode.referring, ← List.filterMap_eq_map, List.filterMap_filter]
    simp
  rw [uses_index filable, uses_index (filable_of_alike alike filable), selected, selected]
  exact filterMap_postorder_perm alike _
    (fun summary => if summary.reference = some declaration then some summary.id else none) fun _ => rfl

/-! ## Lookups -/

section Lookup

variable {offset : Nat} {covers : Nat → Entry → Bool} (reaches : Int → Bool)
  (same : ∀ (start : Nat) (entry : Entry), covers start entry = reaches ((start : Int) + entry.length))
include same

/-- When the one index finds a node the other finds one of the same start and length. -/
theorem exists_tightest?_of_alike {node : Node}
    (answer : (root.index.offsets.tightest? offset covers).bind root.index.node? = some node) :
    ∃ other, (twin.index.offsets.tightest? offset covers).bind twin.index.node? = some other ∧
      extent other = extent node := by
  have filableTwin := filable_of_alike alike filable
  obtain ⟨start, raw, searched, found⟩ := exists_found_of_tightest? filable same answer
  have starts := found.starts
  have searchedTwin : twin.index.offsets.searchedStart? offset = some start := by
    rwa [OffsetIndex.searchedStart?, ← starts_eq alike]
  have present := (spans_perm alike).mem_iff.mp found.src_mem_spans
  have answered : ((twin.index.offsets.tightest? offset covers).bind twin.index.node?).isSome = true := by
    obtain ⟨entry, inBucket, length⟩ := exists_entry_of_mem_spans present
    rw [starts, Int.toNat_natCast] at inBucket
    rw [Closed.isSome_bind_node? fun id => (closed_index filableTwin).mem_nodes_of_tightest?,
      Option.isSome_iff_ne_none]
    intro missed
    have short := OffsetIndex.tightest?_eq_none_iff.mp missed start searchedTwin entry inBucket
    rw [same, length, found.reached] at short
    cases short
  obtain ⟨other, answerTwin⟩ := Option.isSome_iff_exists.mp answered
  obtain ⟨_, rawTwin, searchedAgain, foundTwin⟩ := exists_found_of_tightest? filableTwin same answerTwin
  obtain rfl := Option.some.inj (searchedTwin.symm.trans searchedAgain)
  have startsTwin := foundTwin.starts
  -- Either node is among those from which the other was chosen as the shortest.
  have notLonger := found.shortest other.src ((spans_perm alike).mem_iff.mpr foundTwin.src_mem_spans) startsTwin
    foundTwin.reached
  have notShorter := foundTwin.shortest node.src present starts found.reached
  refine ⟨other, answerTwin, Prod.ext ?_ ?_⟩
  · exact Int64.toInt_inj.mp (startsTwin.trans starts.symm)
  · exact Int64.toInt_inj.mp (Int.le_antisymm notShorter notLonger)

theorem extent_tightest?_of_alike :
    ((root.index.offsets.tightest? offset covers).bind root.index.node?).map extent =
      ((twin.index.offsets.tightest? offset covers).bind twin.index.node?).map extent := by
  cases answer : (root.index.offsets.tightest? offset covers).bind root.index.node? with
  | some node =>
      obtain ⟨other, answerTwin, sameExtent⟩ := exists_tightest?_of_alike alike filable reaches same answer
      rw [answerTwin, Option.map_some, Option.map_some, sameExtent]
  | none =>
      cases answerTwin : (twin.index.offsets.tightest? offset covers).bind twin.index.node? with
      | none => rfl
      | some other =>
          obtain ⟨node, found, -⟩ :=
            exists_tightest?_of_alike alike.symm (filable_of_alike alike filable) reaches same answerTwin
          rw [answer] at found
          cases found

end Lookup

/-- **Indexes of alike surveys match.** -/
theorem matches_of_alike (sameRoot : root.id = twin.id) : Matches root.index twin.index where
  root := sameRoot
  ids := mem_nodes_iff_of_alike alike filable
  nodes _ _ _ := resembles_of_node? alike filable
  starts := starts_eq alike
  buckets := bucket_perm alike
  uses := uses_perm alike filable
  atOffset offset := by
    refine extent_tightest?_of_alike alike filable (fun stop => (offset : Int) < stop) fun start entry => ?_
    rw [decide_eq_decide]
    omega
  atSpan span := by
    simp only [atSpan?, OffsetIndex.atSpan?]
    cases span.stop? with
    | none => rfl
    | some stop => exact extent_tightest?_of_alike alike filable (stop.toInt ≤ ·) fun _ _ => rfl

end Alike

theorem exists_build_of_interchangeable {ast other : Json} (same : RawNode.Interchangeable ast other) {first : Index}
    (built : build ast = .ok first) : ∃ second, build other = .ok second ∧ first.Matches second := by
  obtain ⟨root, read, filable, rfl⟩ := build_eq_ok_iff.mp built
  obtain ⟨twin, readTwin, sameRoot, alike⟩ := same.exists_twin read
  exact ⟨twin.index, build_eq_ok_iff.mpr ⟨twin, readTwin, filable_of_alike alike filable, rfl⟩,
    matches_of_alike alike filable sameRoot⟩

/-- **The order of fields does not change what is found.**  Of two ASTs that are reorderings of one another both have an
index or neither has one, and their indexes match. -/
theorem build_matches {ast other : Json} (reordered : ast.Reordered other) :
    (build ast).isOk = (build other).isOk ∧
    ∀ first second, build ast = .ok first → build other = .ok second → first.Matches second := by
  have same := RawNode.interchangeable_of_reordered reordered
  constructor
  · rw [Bool.eq_iff_iff]
    constructor
    · intro success
      obtain ⟨first, built⟩ := exists_of_isOk success
      obtain ⟨second, builtOther, -⟩ := exists_build_of_interchangeable same built
      rw [builtOther]
      rfl
    · intro success
      obtain ⟨second, builtOther⟩ := exists_of_isOk success
      obtain ⟨first, built, -⟩ := exists_build_of_interchangeable same.symm builtOther
      rw [built]
      rfl
  · intro first second built builtOther
    obtain ⟨found, builtFound, matched⟩ := exists_build_of_interchangeable same built
    rwa [Except.ok.inj (builtOther.symm.trans builtFound)]

/-! ## A node with two children of one span -/

/-- A conditional whose two branches have the same span, the fields of the whole and of one branch given in an order. -/
def forkAst (order : List (String × Json) → List (String × Json)) : Json :=
  .object (order [
    ("id", .int 1), ("nodeType", .string "Conditional"), ("src", .string "0:9:0"),
    ("trueExpression", .object (order [
      ("id", .int 2), ("nodeType", .string "Identifier"), ("src", .string "0:4:0"), ("referencedDeclaration", .int 3)])),
    ("falseExpression", .object [("id", .int 3), ("nodeType", .string "Identifier"), ("src", .string "0:4:0")])])

/-- With the fields the other way round the same extent is found, but as the other branch. -/
theorem build_matches_fork :
    (forkAst id).Reordered (forkAst List.reverse) ∧
    ∃ first second, build (forkAst id) = .ok first ∧ build (forkAst List.reverse) = .ok second ∧
      first.Matches second ∧
      (first.atOffset? 1).map Node.id = some 2 ∧ (second.atOffset? 1).map Node.id = some 3 := by
  have reordered : (forkAst id).Reordered (forkAst List.reverse) := by
    have turned (fields : List (String × Json)) : fields.Perm fields.reverse := (List.reverse_perm fields).symm
    apply Json.Reordered.trans
    · exact .field [_, _, _] "trueExpression" [_] (.fields (by decide) (turned _))
    · exact .fields (by decide) (turned _)
  have found : ∀ first ∈ (build (forkAst id)).toOption, ∀ second ∈ (build (forkAst List.reverse)).toOption,
      (first.atOffset? 1).map Node.id = some 2 ∧ (second.atOffset? 1).map Node.id = some 3 := by
    decide +kernel
  obtain ⟨first, built⟩ : ∃ first, build (forkAst id) = .ok first := exists_of_isOk (by decide +kernel)
  obtain ⟨second, builtOther⟩ : ∃ second, build (forkAst List.reverse) = .ok second := exists_of_isOk (by decide +kernel)
  refine ⟨reordered, first, second, built, builtOther, (build_matches reordered).2 first second built builtOther, ?_⟩
  exact found first (by rw [built]; rfl) second (by rw [builtOther]; rfl)

end Index

end SolidityNav
