/-
# Proofs.Index.Building -- what a build gives

Building files the structural nodes of an AST in postorder and stops at the first one that cannot be filed: its span
cannot be read, or a node before it has its id.  `build_eq` says so as an equation.  Its success case is
`RawNode.index`, the index that the steps of the tour add up to, so that everything about a built index is a
statement about folds over lists:

* `nodes_index`: the nodes by id are the indexed forms of the visits;
* `offsets_index`: the offset index holds the spans of the structural nodes, in postorder.

`build_outcome` is the same for a reader of errors: which values have an index, and which failure any other value gets.
-/
import SolidityNav.Ast.Walk
import SolidityNav.Index
import SolidityNav.Proofs.Ast.Walk
import SolidityNav.Proofs.Index.Offsets

namespace SolidityNav

set_option autoImplicit false

open SolidityNav.Index (Draft Scope indexer)

namespace Ast.RawNode

/-! ## Nodes that cannot be filed -/

def span? (raw : RawNode) : Option Span :=
  (Span.parse raw.src).toOption

theorem span?_eq_some_iff {raw : RawNode} {span : Span} : raw.span? = some span ↔ Span.parse raw.src = .ok span := by
  unfold span?
  cases Span.parse raw.src <;> simp [Except.toOption]

/-- A text that is no span is carried by the failure to read it. -/
theorem span?_eq_none_iff {raw : RawNode} : raw.span? = none ↔ Span.parse raw.src = .error ⟨raw.src⟩ := by
  unfold span? Span.parse
  cases Span.read? raw.src.toList <;> simp [Except.toOption]

theorem span?_ne_none_iff {raw : RawNode} : raw.span? ≠ none ↔ ∃ span, Span.parse raw.src = .ok span := by
  rw [Option.ne_none_iff_exists']
  exact exists_congr fun _ => span?_eq_some_iff

/-- After `earlier` the node cannot be filed: it has no span, or a node before it has its id. -/
def Offends (earlier : List RawNode) (raw : RawNode) : Prop :=
  raw.span? = none ∨ ∃ other ∈ earlier, other.id = raw.id

instance (earlier : List RawNode) (raw : RawNode) : Decidable (raw.Offends earlier) :=
  inferInstanceAs (Decidable (_ ∨ _))

/-- The failure that a node which cannot be filed gives; its span is looked at first. -/
def blame (raw : RawNode) : Failure :=
  if raw.span? = none then .src ⟨raw.src⟩ else .malformedAst (.duplicateId raw.id)

/-- `raw` stands behind `earlier` in the list, offends there, and no node before it does so at its own place. -/
def FirstOffender (nodes : List RawNode) (raw : RawNode) : Prop :=
  ∃ earlier later, nodes = earlier ++ raw :: later ∧ raw.Offends earlier ∧
    ∀ before other after, earlier = before ++ other :: after → ¬ other.Offends before

/-- The first of the nodes that offends, when those of `filed` came before them. -/
def offender? (filed : List RawNode) : List RawNode → Option RawNode
  | [] => none
  | raw :: rest => if raw.Offends filed then some raw else offender? (filed ++ [raw]) rest

theorem offender?_eq_some_iff {filed nodes : List RawNode} {raw : RawNode} :
    offender? filed nodes = some raw ↔
      ∃ earlier later, nodes = earlier ++ raw :: later ∧ raw.Offends (filed ++ earlier) ∧
        ∀ before other after, earlier = before ++ other :: after → ¬ other.Offends (filed ++ before) := by
  induction nodes generalizing filed with
  | nil => simp [offender?]
  | cons node rest ih =>
      rw [offender?]
      by_cases offends : node.Offends filed
      · rw [if_pos offends]
        constructor
        · intro same
          cases same
          exact ⟨[], rest, rfl, by simpa using offends, by simp⟩
        · rintro ⟨earlier, later, split, -, clean⟩
          cases earlier with
          | nil => cases split; rfl
          | cons first others =>
              cases split
              exact absurd offends (by simpa using clean [] node others rfl)
      · rw [if_neg offends, ih]
        constructor
        · rintro ⟨earlier, later, rfl, bad, clean⟩
          refine ⟨node :: earlier, later, rfl, by simpa using bad, ?_⟩
          intro before other after split
          cases before with
          | nil => cases split; simpa using offends
          | cons first others =>
              cases split
              simpa using clean others other after rfl
        · rintro ⟨earlier, later, split, bad, clean⟩
          cases earlier with
          | nil => cases split; exact absurd (by simpa using bad) offends
          | cons first others =>
              cases split
              refine ⟨others, later, rfl, by simpa using bad, ?_⟩
              intro before other after split
              simpa using clean (node :: before) other after (by rw [split]; rfl)

theorem offender?_eq_none_iff {filed nodes : List RawNode} :
    offender? filed nodes = none ↔
      (∀ raw ∈ nodes, raw.span? ≠ none) ∧ (nodes.map RawNode.id).Nodup ∧
        ∀ raw ∈ nodes, ∀ other ∈ filed, other.id ≠ raw.id := by
  induction nodes generalizing filed with
  | nil => simp [offender?]
  | cons node rest ih =>
      rw [offender?]
      by_cases offends : node.Offends filed
      · rw [if_pos offends]
        constructor
        · intro impossible
          cases impossible
        · rintro ⟨readable, -, fresh⟩
          rcases offends with unreadable | ⟨other, inFiled, same⟩
          · exact absurd unreadable (readable node List.mem_cons_self)
          · exact absurd same (fresh node List.mem_cons_self other inFiled)
      · rw [if_neg offends, ih]
        simp only [Offends, not_or, not_exists, not_and] at offends
        constructor
        · rintro ⟨readable, distinct, fresh⟩
          have unlike : node.id ∉ rest.map RawNode.id := by
            intro member
            obtain ⟨raw, inRest, same⟩ := List.mem_map.mp member
            exact fresh raw inRest node (by simp) same.symm
          refine ⟨List.forall_mem_cons.mpr ⟨offends.1, readable⟩, List.nodup_cons.mpr ⟨unlike, distinct⟩,
            List.forall_mem_cons.mpr ⟨offends.2, fun raw inRest other inFiled => ?_⟩⟩
          exact fresh raw inRest other (List.mem_append_left _ inFiled)
        · rintro ⟨readable, distinct, fresh⟩
          obtain ⟨unlike, distinct⟩ := List.nodup_cons.mp distinct
          refine ⟨(List.forall_mem_cons.mp readable).2, distinct, fun raw inRest other member => ?_⟩
          rcases List.mem_append.mp member with inFiled | last
          · exact fresh raw (List.mem_cons_of_mem node inRest) other inFiled
          · rw [List.mem_singleton.mp last]
            intro same
            exact unlike (same ▸ List.mem_map_of_mem inRest)

end Ast.RawNode

/-! ## Running the steps of a tour -/

namespace Index

open SolidityNav.Ast (Node NodeId RawNode Tree)
open SolidityNav.Ast.RawNode (Step Visit)

def Scope.inside (raw : RawNode) (scope : Scope) : Scope :=
  match raw.nodeType with
  | .contractDefinition => { contract := some (raw.name?.getD ""), callable := none }
  | .functionDefinition | .eventDefinition => { scope with callable := some (raw.name?.getD "") }
  | _ => scope

def opened (symbols : Symbols) (raw : RawNode) (scope : Scope) : Symbols :=
  match entering? raw.nodeType with
  | some entering => (entering symbols raw scope).1
  | none => symbols

theorem entering_snd {raw : RawNode} {entering : Entering} (found : entering? raw.nodeType = some entering)
    (symbols : Symbols) (scope : Scope) : (entering symbols raw scope).2 = Scope.inside raw scope := by
  unfold Scope.inside
  cases kind : raw.nodeType <;> rw [kind] at found <;> cases found <;> rfl

theorem inside_of_entering?_none {raw : RawNode} (missing : entering? raw.nodeType = none) (scope : Scope) :
    Scope.inside raw scope = scope := by
  unfold Scope.inside
  cases kind : raw.nodeType <;> rw [kind] at missing <;> first | rfl | cases missing

def Draft.enter (draft : Draft) (raw : RawNode) (parent : Option RawNode) (scope : Scope) : Draft :=
  { draft with
    root := if parent.isNone then some raw.id else draft.root
    symbols := opened draft.symbols raw scope }

theorem enterNode_run (raw : RawNode) (parent : Option RawNode) (scope : Scope) (draft : Draft) :
    (enterNode raw parent scope).run draft = .ok (Scope.inside raw scope, draft.enter raw parent scope) := by
  cases found : entering? raw.nodeType with
  | none =>
      cases parent <;>
        simp [enterNode, found, Draft.enter, opened, inside_of_entering?_none found] <;> rfl
  | some entering =>
      cases parent <;>
        simp [enterNode, found, Draft.enter, opened, ← entering_snd found draft.symbols scope] <;> rfl

theorem leaveNode_run (raw : RawNode) (parent : Option RawNode) (children : List (String × RawNode)) (scope : Scope)
    (draft : Draft) :
    (leaveNode raw parent children scope).run draft =
      match raw.span? with
      | none => .error raw.blame
      | some src =>
          if raw.id ∈ draft.nodes then .error raw.blame
          else .ok ((), draft.file raw (stamped raw src parent children scope) parent scope) := by
  unfold leaveNode
  cases read : raw.span? with
  | none =>
      rw [RawNode.blame, if_pos read, RawNode.span?_eq_none_iff.mp read]
      rfl
  | some src =>
      rw [RawNode.blame, if_neg (by simp [read]), RawNode.span?_eq_some_iff.mp read]
      by_cases taken : raw.id ∈ draft.nodes
      · simp only [Std.ExtTreeMap.contains_iff_mem, StateT.run_bind, StateT.run_get, pure_bind, taken, ↓reduceIte,
          StateT.run_throw, bind_pure_comp, StateT.run_set, Functor.map_map]
        rfl
      · simp only [Std.ExtTreeMap.contains_iff_mem, StateT.run_bind, StateT.run_get, pure_bind, taken, ↓reduceIte,
          StateT.run_set]
        rfl

end Index

namespace Ast.RawNode.Visit

def scope (visit : Visit) : Scope :=
  scopeOf Scope.inside {} (visit.raw :: visit.above)

def node? (visit : Visit) : Option Node :=
  visit.raw.span?.map fun src => Index.stamped visit.raw src visit.parent? visit.raw.children visit.scope

end Ast.RawNode.Visit

namespace Index

open SolidityNav.Ast (Node NodeId RawNode Tree scopeOf)
open SolidityNav.Ast.RawNode (Step Visit)

theorem indexer_scopedBy : indexer.ScopedBy Scope.inside := by
  intro raw parent scope
  funext draft
  have run := enterNode_run raw parent scope draft
  show (enterNode raw parent scope).run draft = ((fun _ => Scope.inside raw scope) <$> enterNode raw parent scope).run draft
  rw [StateT.run_map, run]
  rfl

def Draft.advance (draft : Draft) : Step → Draft
  | .enter visit => draft.enter visit.raw visit.parent? (scopeOf Scope.inside {} visit.above)
  | .leave visit =>
      match visit.node? with
      | some node => draft.file visit.raw node visit.parent? visit.scope
      | none => draft

@[simp] theorem stamped_id (raw : RawNode) (src : Span) (parent : Option RawNode)
    (children : List (String × RawNode)) (scope : Scope) : (stamped raw src parent children scope).id = raw.id := by
  unfold stamped
  dsimp only
  split <;> rfl

@[simp] theorem stamped_src (raw : RawNode) (src : Span) (parent : Option RawNode)
    (children : List (String × RawNode)) (scope : Scope) : (stamped raw src parent children scope).src = src := by
  unfold stamped
  dsimp only
  split <;> rfl

theorem act_enter_run (visit : Visit) (draft : Draft) :
    (indexer.act Scope.inside {} (.enter visit)).run draft = .ok ((), draft.advance (.enter visit)) := by
  have run := enterNode_run visit.raw visit.parent? (scopeOf Scope.inside {} visit.above) draft
  show (do let _ ← enterNode visit.raw visit.parent? (scopeOf Scope.inside {} visit.above) : Build PUnit).run draft = _
  rw [StateT.run_bind, run]
  rfl

theorem act_leave_run (visit : Visit) (draft : Draft) (filed : List RawNode)
    (same : ∀ id, id ∈ draft.nodes ↔ ∃ other ∈ filed, other.id = id) :
    (indexer.act Scope.inside {} (.leave visit)).run draft =
      if visit.raw.Offends filed then .error visit.raw.blame else .ok ((), draft.advance (.leave visit)) := by
  have run := leaveNode_run visit.raw visit.parent? visit.raw.children visit.scope draft
  show (leaveNode visit.raw visit.parent? visit.raw.children visit.scope).run draft = _
  rw [run, Draft.advance, Visit.node?]
  cases read : visit.raw.span? with
  | none =>
      have offends : visit.raw.Offends filed := Or.inl read
      rw [if_pos offends]
  | some src =>
      have offends : visit.raw.Offends filed ↔ visit.raw.id ∈ draft.nodes := by
        rw [RawNode.Offends, same]
        simp [read]
      simp only [offends]
      rfl

theorem mem_nodes_advance_leave {visit : Visit} {filed : List RawNode} {draft : Draft}
    (clean : ¬ visit.raw.Offends filed) (same : ∀ id, id ∈ draft.nodes ↔ ∃ other ∈ filed, other.id = id)
    (id : NodeId) :
    id ∈ (draft.advance (.leave visit)).nodes ↔ ∃ other ∈ filed ++ [visit.raw], other.id = id := by
  rw [RawNode.Offends, not_or] at clean
  obtain ⟨src, read⟩ := Option.ne_none_iff_exists'.mp clean.1
  simp only [Draft.advance, Visit.node?, read, Option.map_some, Draft.file, Std.ExtTreeMap.mem_insert,
    Std.LawfulEqCmp.compare_eq_iff_eq, stamped_id, same, List.mem_append, List.mem_singleton, or_and_right, exists_or,
    exists_eq_left]
  exact Or.comm

/-- The steps of a walk stop at the first node that offends, and otherwise each advances the draft. -/
theorem forM_act_run (steps : List Step) (draft : Draft) (filed : List RawNode)
    (same : ∀ id, id ∈ draft.nodes ↔ ∃ other ∈ filed, other.id = id) :
    (steps.forM (indexer.act Scope.inside {})).run draft =
      match RawNode.offender? filed ((steps.filterMap Step.left?).map Visit.raw) with
      | some raw => .error raw.blame
      | none => .ok ((), steps.foldl Draft.advance draft) := by
  induction steps generalizing draft filed with
  | nil => rfl
  | cons step rest ih =>
      rw [List.forM_eq_forM, List.forM_cons, StateT.run_bind, List.foldl_cons]
      cases step with
      | enter visit =>
          rw [act_enter_run, List.filterMap_cons_none rfl]
          exact ih (draft.advance (.enter visit)) filed same
      | leave visit =>
          rw [act_leave_run visit draft filed same, List.filterMap_cons_some (f := Step.left?) rfl, List.map_cons,
            RawNode.offender?]
          by_cases offends : visit.raw.Offends filed
          · rw [if_pos offends, if_pos offends]
            rfl
          · rw [if_neg offends, if_neg offends]
            exact ih (draft.advance (.leave visit)) (filed ++ [visit.raw]) (mem_nodes_advance_leave offends same)

/-! ## The index of a node -/

theorem root_foldl_advance (steps : List Step) (draft : Draft)
    (below : ∀ visit, Step.enter visit ∈ steps → visit.above ≠ []) :
    (steps.foldl Draft.advance draft).root = draft.root := by
  induction steps generalizing draft with
  | nil => rfl
  | cons step rest ih =>
      rw [List.foldl_cons, ih _ fun visit member => below visit (List.mem_cons_of_mem step member)]
      cases step with
      | enter visit =>
          obtain ⟨parent, path, above⟩ := List.exists_cons_of_ne_nil (below visit List.mem_cons_self)
          simp [Draft.advance, Draft.enter, Visit.parent?, above]
      | leave visit =>
          rw [Draft.advance]
          split <;> rfl

theorem nodes_foldl_advance (steps : List Step) (draft : Draft) :
    (steps.foldl Draft.advance draft).nodes =
      draft.nodes.insertMany ((steps.filterMap Step.left?).filterMap fun visit =>
        visit.node?.map fun node => (node.id, node)) := by
  induction steps generalizing draft with
  | nil => simp
  | cons step rest ih =>
      rw [List.foldl_cons, ih]
      cases step with
      | enter visit => rw [List.filterMap_cons_none rfl]; rfl
      | leave visit =>
          rw [List.filterMap_cons_some (f := Step.left?) rfl, Draft.advance]
          cases indexed : visit.node? with
          | none => rw [List.filterMap_cons_none (by rw [indexed]; rfl)]
          | some node =>
              rw [List.filterMap_cons_some (by rw [indexed]; rfl), Std.ExtTreeMap.insertMany_cons]
              rfl

theorem offsets_foldl_advance (steps : List Step) (draft : Draft) :
    (steps.foldl Draft.advance draft).offsets =
      draft.offsets.insertAll ((steps.filterMap Step.left?).filterMap fun visit =>
        visit.raw.span?.map fun span => (span, visit.raw.id)) := by
  induction steps generalizing draft with
  | nil => rfl
  | cons step rest ih =>
      rw [List.foldl_cons, ih]
      cases step with
      | enter visit => rw [List.filterMap_cons_none rfl]; rfl
      | leave visit =>
          rw [List.filterMap_cons_some (f := Step.left?) rfl, Draft.advance, Visit.node?]
          cases read : visit.raw.span? with
          | none => rw [List.filterMap_cons_none (by rw [read]; rfl)]; rfl
          | some span =>
              rw [List.filterMap_cons_some (by rw [read]; rfl)]
              simp [OffsetIndex.insertAll, Draft.file]

end Index

namespace Ast.RawNode

/-- What a walk from a node collects when nothing stops it. -/
def draft (raw : RawNode) : Draft :=
  (raw.tour []).foldl Draft.advance {}

/-- The index of a node whose structural nodes can all be filed. -/
def index (raw : RawNode) : Index where
  root := raw.id
  nodes := raw.draft.nodes
  offsets := raw.draft.offsets.finish
  uses := raw.draft.uses
  symbols := raw.draft.symbols

/-- All structural nodes can be filed: each has a span, and no two have the same id. -/
structure Filable (root : RawNode) : Prop where
  readable : ∀ raw ∈ root.postorder, raw.span? ≠ none
  distinct : (root.postorder.map RawNode.id).Nodup

theorem root_draft (raw : RawNode) : raw.draft.root = some raw.id := by
  rw [draft, tour_eq, List.foldl_cons, Index.root_foldl_advance]
  · rfl
  · intro visit member
    rw [List.mem_append, List.mem_flatMap, List.mem_singleton] at member
    rcases member with ⟨child, -, below⟩ | same
    · exact above_ne_nil_of_mem_tour (List.cons_ne_nil raw []) below
    · cases same

theorem finish_draft (raw : RawNode) : raw.draft.finish = .ok raw.index := by
  rw [Draft.finish, root_draft]
  rfl

def entries (raw : RawNode) : List (NodeId × Node) :=
  (raw.visits []).filterMap fun visit => visit.node?.map fun node => (node.id, node)

theorem nodes_index (raw : RawNode) : raw.index.nodes = Std.ExtTreeMap.ofList raw.entries := by
  rw [Std.ExtTreeMap.ofList_eq_insertMany_empty]
  exact Index.nodes_foldl_advance (raw.tour []) {}

theorem offsets_index (raw : RawNode) :
    raw.index.offsets =
      (Index.OffsetIndex.empty.insertAll
        (raw.postorder.filterMap fun node => node.span?.map fun span => (span, node.id))).finish := by
  show raw.draft.offsets.finish = _
  rw [draft, Index.offsets_foldl_advance, ← map_raw_visits raw [], List.filterMap_map]
  rfl

end Ast.RawNode

namespace Index

open SolidityNav.Ast (RawNode Tree scopeOf)

/-- Building is a walk with the indexer. -/
theorem build_eq_walk (ast : Json) :
    build ast = ((Ast.walk indexer ast).run {} >>= fun walked => walked.2.finish) := by
  rw [build, Ast.walk]
  cases Tree.ofJson? ast <;> rfl

theorem walk_indexer_run (raw : RawNode) :
    (raw.tree.walk indexer none {}).run {} =
      match RawNode.offender? [] raw.postorder with
      | some offender => .error offender.blame
      | none => .ok (raw.postorder.length, raw.draft) := by
  have steps := forM_act_run (raw.tour []) {} [] (by simp)
  rw [← RawNode.visits, RawNode.map_raw_visits] at steps
  show (raw.tree.walk indexer ([] : List RawNode).head? (scopeOf Scope.inside {} [])).run {} = _
  rw [Ast.walk_eq_forM_tour {} indexer_scopedBy raw [], StateT.run_bind, steps]
  cases RawNode.offender? [] raw.postorder <;> rfl

theorem ofTree_tree (raw : RawNode) :
    ofTree raw.tree =
      match RawNode.offender? [] raw.postorder with
      | some offender => .error offender.blame
      | none => .ok raw.index := by
  rw [ofTree, walk_indexer_run]
  cases RawNode.offender? [] raw.postorder with
  | some offender => rfl
  | none => exact raw.finish_draft

/-- **Building files the structural nodes in postorder** and stops at the first one that offends. -/
theorem build_eq (ast : Json) :
    build ast =
      match RawNode.ofJson? ast with
      | none => .error (.malformedAst .rootNotNode)
      | some raw =>
          match RawNode.offender? [] raw.postorder with
          | some offender => .error offender.blame
          | none => .ok raw.index := by
  rw [build, Tree.ofJson?_eq]
  cases RawNode.ofJson? ast with
  | none => rfl
  | some raw => exact ofTree_tree raw

/-- A value has an index as soon as its structural nodes can all be filed. -/
theorem build_eq_ok_iff {ast : Json} {index : Index} :
    build ast = .ok index ↔
      ∃ root, RawNode.ofJson? ast = some root ∧ root.Filable ∧ root.index = index := by
  rw [build_eq]
  cases RawNode.ofJson? ast with
  | none => simp
  | some root =>
      simp only [Option.some.injEq, exists_eq_left']
      cases outcome : RawNode.offender? [] root.postorder with
      | none =>
          obtain ⟨readable, distinct, -⟩ := RawNode.offender?_eq_none_iff.mp outcome
          have filable : root.Filable := ⟨readable, distinct⟩
          simp [filable]
      | some offender =>
          constructor
          · intro impossible
            cases impossible
          · rintro ⟨filable, -⟩
            have clean : RawNode.offender? [] root.postorder = none :=
              RawNode.offender?_eq_none_iff.mpr ⟨filable.readable, filable.distinct, by simp⟩
            rw [outcome] at clean
            cases clean

theorem build_eq_error_iff {ast : Json} {failure : Failure} :
    build ast = .error failure ↔
      (RawNode.ofJson? ast = none ∧ failure = .malformedAst .rootNotNode) ∨
      ∃ root offender, RawNode.ofJson? ast = some root ∧ RawNode.FirstOffender root.postorder offender ∧
        failure = offender.blame := by
  rw [build_eq]
  cases RawNode.ofJson? ast with
  | none => simp [eq_comm]
  | some root =>
      have first : ∀ offender, RawNode.offender? [] root.postorder = some offender ↔
          RawNode.FirstOffender root.postorder offender := fun _ => RawNode.offender?_eq_some_iff
      cases outcome : RawNode.offender? [] root.postorder <;> simp [← first, outcome, eq_comm]

/-- **Which values have an index, and which failure the others get.**  A value that is no node fails as a root; any
other failure is that of the first node in postorder that cannot be filed after those before it. -/
theorem build_outcome (ast : Json) :
    ((∃ index, build ast = .ok index) ↔
      ∃ root, RawNode.ofJson? ast = some root ∧
        (∀ raw ∈ root.postorder, ∃ span, Span.parse raw.src = .ok span) ∧
        (root.postorder.map RawNode.id).Nodup) ∧
    (∀ failure, build ast = .error failure ↔
      (RawNode.ofJson? ast = none ∧ failure = .malformedAst .rootNotNode) ∨
      ∃ root offender, RawNode.ofJson? ast = some root ∧ RawNode.FirstOffender root.postorder offender ∧
        failure = offender.blame) ∧
    ∀ text, build ast ≠ .error (.internal text) := by
  refine ⟨?_, fun _ => build_eq_error_iff, ?_⟩
  · simp only [build_eq_ok_iff, ← RawNode.span?_ne_none_iff]
    constructor
    · rintro ⟨_, root, read, filable, -⟩
      exact ⟨root, read, filable.readable, filable.distinct⟩
    · rintro ⟨root, read, readable, distinct⟩
      exact ⟨root.index, root, read, ⟨readable, distinct⟩, rfl⟩
  · intro text failed
    rcases build_eq_error_iff.mp failed with ⟨-, impossible⟩ | ⟨-, offender, -, -, blamed⟩
    · cases impossible
    · rw [RawNode.blame] at blamed
      split at blamed <;> cases blamed

/-! ## A small AST -/

/-- The AST of `uint x;` on one line and `x` on the next, with a generated node. -/
def sampleAst : Json :=
  .object [
    ("id", .int 9), ("nodeType", .string "SourceUnit"), ("src", .string "0:9:0"),
    ("typeDescriptions", .object [("typeString", .string "unit")]),
    ("nodes", .array [
      .int 7,
      .object [
        ("id", .int 3), ("nodeType", .string "VariableDeclaration"), ("src", .string "0:6:0"), ("name", .string "x"),
        ("typeName", .object [
          ("id", .int 2), ("nodeType", .string "ElementaryTypeName"), ("src", .string "0:4:0")])],
      .object [
        ("id", .int 5), ("nodeType", .string "Identifier"), ("src", .string "8:1:0"), ("name", .string "x"),
        ("referencedDeclaration", .int 3),
        ("parent", .object [("id", .int 9), ("nodeType", .string "SourceUnit"), ("src", .string "0:9:0")])],
      .object [("id", .int 6), ("nodeType", .string "Block"), ("src", .string "-1:-1:-1")]])]

theorem exists_of_isOk {ε α : Type} {result : Except ε α} (success : result.isOk = true) :
    ∃ value, result = .ok value := by
  cases result with
  | ok value => exact ⟨value, rfl⟩
  | error failure => cases success

theorem sampleAst_build : ∃ index, build sampleAst = .ok index :=
  exists_of_isOk (by decide +kernel)

end Index

end SolidityNav
