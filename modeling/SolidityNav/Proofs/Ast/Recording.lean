/-
# Proofs.Ast.Recording -- a visitor that fails cuts the walk short

A visitor that records what it is shown leaves the list of its events behind, also when it fails.  With one that never
fails this is the tour of the AST (`Toured`): each structural node is entered, then its children are toured in their
order, then it is left.  A visitor that fails at some events leaves the events before the first of these, and nothing is
recorded behind it: no node that was entered on the way there is left any more (`Truncates`).

A walk with a recording visitor is the list of its events, noted one by one (`record_eq`), so both are statements about
lists: `run_forM_note_of_refused` says what a failure does, whatever is pending.

A value that is no node has no tour, and a walk over it fails although there is no event to fail at (`walk_truncates`,
`rootless_not_truncated`).
-/
import SolidityNav.Ast.Walk
import SolidityNav.Proofs.Ast.Walk

namespace SolidityNav.Ast

set_option autoImplicit false

/-! ## Events -/

/-- What a visitor is shown: a node with its parent and its depth before the children, and after them the depth at which
they stand and the children themselves. -/
inductive Event where
  | enter (raw : RawNode) (parent : Option RawNode) (depth : Nat)
  | leave (raw : RawNode) (parent : Option RawNode) (depth : Nat) (children : List (String × RawNode))

namespace Event

def entered? : Event → Option RawNode
  | .enter raw _ _ => some raw
  | .leave _ _ _ _ => none

def left? : Event → Option RawNode
  | .enter _ _ _ => none
  | .leave raw _ _ _ => some raw

def ofStep : RawNode.Step → Event
  | .enter visit => .enter visit.raw visit.parent? visit.above.length
  | .leave visit => .leave visit.raw visit.parent? (visit.above.length + 1) visit.raw.children

theorem entered?_ofStep (step : RawNode.Step) : (ofStep step).entered? = step.entered?.map RawNode.Visit.raw := by
  cases step <;> rfl

theorem left?_ofStep (step : RawNode.Step) : (ofStep step).left? = step.left?.map RawNode.Visit.raw := by
  cases step <;> rfl

end Event

mutual

/-- The events are the tour of a node below `parent`: it is entered, its children are toured, and it is left. -/
inductive Toured : Option RawNode → Nat → RawNode → List Event → Prop
  | node {parent : Option RawNode} {depth : Nat} {raw : RawNode} {inner : List Event} :
      TouredAll raw (depth + 1) raw.children inner →
      Toured parent depth raw (.enter raw parent depth :: (inner ++ [.leave raw parent (depth + 1) raw.children]))

inductive TouredAll : RawNode → Nat → List (String × RawNode) → List Event → Prop
  | nil {parent : RawNode} {depth : Nat} : TouredAll parent depth [] []
  | cons {parent : RawNode} {depth : Nat} {child : String × RawNode} {rest : List (String × RawNode)}
      {first others : List Event} :
      Toured (some parent) depth child.2 first → TouredAll parent depth rest others →
      TouredAll parent depth (child :: rest) (first ++ others)

end

namespace RawNode

def events (above : List RawNode) (raw : RawNode) : List Event :=
  (raw.tour above).map Event.ofStep

theorem events_eq (above : List RawNode) (raw : RawNode) :
    raw.events above =
      .enter raw above.head? above.length ::
        ((raw.children.flatMap fun child => child.2.events (raw :: above)) ++
          [.leave raw above.head? (above.length + 1) raw.children]) := by
  rw [events, tour_eq, List.map_cons, List.map_append, List.map_flatMap]
  rfl

theorem touredAll_flatMap {parent : RawNode} {depth : Nat} {children : List (String × RawNode)}
    {tourOf : RawNode → List Event}
    (each : ∀ child ∈ children, Toured (some parent) depth child.2 (tourOf child.2)) :
    TouredAll parent depth children (children.flatMap fun child => tourOf child.2) := by
  induction children with
  | nil => exact .nil
  | cons child rest ih =>
      obtain ⟨first, others⟩ := List.forall_mem_cons.mp each
      rw [List.flatMap_cons]
      exact .cons first (ih others)

/-- **The events of a walk are a tour.** -/
theorem toured_events (raw : RawNode) (above : List RawNode) :
    Toured above.head? above.length raw (raw.events above) := by
  induction raw using childInduction generalizing above with
  | step raw ih =>
      rw [events_eq]
      exact .node (touredAll_flatMap fun child member => ih child member (raw :: above))

/-- Each structural node is left once. -/
theorem filterMap_left?_events (raw : RawNode) (above : List RawNode) :
    (raw.events above).filterMap Event.left? = raw.postorder := by
  rw [← map_raw_visits raw above, visits, List.map_filterMap, events, List.filterMap_map]
  exact List.filterMap_congr fun step _ => Event.left?_ofStep step

/-- Each structural node is entered once. -/
theorem filterMap_entered?_events (raw : RawNode) (above : List RawNode) :
    ((raw.events above).filterMap Event.entered?).Perm raw.postorder := by
  have arrived : (raw.events above).filterMap Event.entered? = (raw.arrivals above).map Visit.raw := by
    rw [arrivals, List.map_filterMap, events, List.filterMap_map]
    exact List.filterMap_congr fun step _ => Event.entered?_ofStep step
  rw [arrived, ← map_raw_visits raw above]
  exact (arrivals_perm_visits raw above).map Visit.raw

end RawNode

/-! ## Recording -/

abbrev Recording := ExceptT Failure (StateM (List Event))

def note (refuses : Event → Option Failure) (event : Event) : Recording PUnit :=
  match refuses event with
  | some failure => throw failure
  | none => modify (· ++ [event])

/-- The visitor that records all it is shown and fails at the events that `refuses` has a failure for. -/
def recorder (refuses : Event → Option Failure) : Visitor Recording Nat where
  enter raw parent depth := do
    note refuses (.enter raw parent depth)
    return depth + 1
  leave raw parent children depth := note refuses (.leave raw parent depth children)

def record (refuses : Event → Option Failure) (value : Json) : Except Failure Nat × List Event :=
  (walk (recorder refuses) value).run.run []

section Recorder

variable {refuses : Event → Option Failure}

/-- What follows a recorded event goes on from there. -/
theorem run_note_of_accepted {α : Type} {event : Event} (accepted : refuses event = none) (next : Recording α)
    (log : List Event) :
    (note refuses event >>= fun _ => next).run.run log = next.run.run (log ++ [event]) := by
  rw [note, accepted]
  rfl

/-- What follows a failure does not happen. -/
theorem run_note_of_refused {α : Type} {event : Event} {failure : Failure} (refused : refuses event = some failure)
    (next : Recording α) (log : List Event) :
    (note refuses event >>= fun _ => next).run.run log = (Except.error failure, log) := by
  rw [note, refused]
  rfl

/-- Events that are none to fail at are recorded in their order, and the run goes on. -/
theorem run_forM_note_of_accepted {α : Type} {events : List Event} (accepted : ∀ event ∈ events, refuses event = none)
    (next : Recording α) (log : List Event) :
    (forM events (note refuses) >>= fun _ => next).run.run log = next.run.run (log ++ events) := by
  induction events generalizing log with
  | nil => simp
  | cons event rest ih =>
      obtain ⟨first, others⟩ := List.forall_mem_cons.mp accepted
      rw [List.forM_cons, bind_assoc, run_note_of_accepted first, ih others, List.append_assoc, List.singleton_append]

/-- **The first failure ends the run**, with the events before it recorded and whatever was pending dropped. -/
theorem run_forM_note_of_refused {α : Type} {before : List Event} {event : Event} {failure : Failure}
    (accepted : ∀ earlier ∈ before, refuses earlier = none) (refused : refuses event = some failure)
    (after : List Event) (next : Recording α) (log : List Event) :
    (forM (before ++ event :: after) (note refuses) >>= fun _ => next).run.run log =
      (Except.error failure, log ++ before) := by
  rw [List.forM_append, bind_assoc, run_forM_note_of_accepted accepted, List.forM_cons, bind_assoc,
    run_note_of_refused refused]

theorem scopeOf_depth (above : List RawNode) : scopeOf (fun _ depth => depth + 1) 0 above = above.length := by
  induction above with
  | nil => rfl
  | cons raw above ih => rw [scopeOf_cons, ih, List.length_cons]

theorem scopedBy_recorder (refuses : Event → Option Failure) : (recorder refuses).ScopedBy fun _ depth => depth + 1 := by
  intro raw parent depth
  simp [recorder]

theorem act_recorder (refuses : Event → Option Failure) (step : RawNode.Step) :
    (recorder refuses).act (fun _ depth => depth + 1) 0 step = note refuses (Event.ofStep step) := by
  cases step with
  | enter visit => simp [Visitor.act, recorder, Event.ofStep, scopeOf_depth]
  | leave visit => simp [Visitor.act, recorder, Event.ofStep, scopeOf_depth]

/-- **A walk with the recorder notes its events one by one.** -/
theorem record_eq {value : Json} {root : RawNode} (read : RawNode.ofJson? value = some root) :
    record refuses value =
      (forM (root.events []) (note refuses) >>= fun _ => pure root.postorder.length).run.run [] := by
  have steps : forM (root.tour []) ((recorder refuses).act (fun _ depth => depth + 1) 0) =
      forM (root.events []) (note refuses) := by
    rw [RawNode.events, List.forM_map]
    exact congrArg _ (funext (act_recorder refuses))
  have walked : walk (recorder refuses) value = root.tree.walk (recorder refuses) none 0 := by
    rw [walk, Tree.ofJson?_eq, read]
    rfl
  rw [record, walked, ← steps]
  exact congrArg (fun run => run.run.run []) (walk_eq_forM_tour 0 (scopedBy_recorder refuses) root [])

theorem record_of_accepted {value : Json} {root : RawNode} (read : RawNode.ofJson? value = some root)
    (accepted : ∀ event ∈ root.events [], refuses event = none) :
    record refuses value = (Except.ok root.postorder.length, root.events []) := by
  rw [record_eq read, run_forM_note_of_accepted accepted]
  rfl

theorem record_of_refused {value : Json} {root : RawNode} (read : RawNode.ofJson? value = some root)
    {before after : List Event} {event : Event} {failure : Failure} (split : root.events [] = before ++ event :: after)
    (accepted : ∀ earlier ∈ before, refuses earlier = none) (refused : refuses event = some failure) :
    record refuses value = (Except.error failure, before) := by
  rw [record_eq read, split, run_forM_note_of_refused accepted refused, List.nil_append]

theorem record_of_no_node {value : Json} (unread : RawNode.ofJson? value = none) :
    record refuses value = (Except.error (.malformedAst .rootNotNode), []) := by
  rw [record, walk, Tree.ofJson?_eq, unread]
  rfl

end Recorder

/-! ## Where a walk stops -/

/-- A walk ended as the events up to the first at which the visitor fails: they are what was recorded, and the failure
is returned.  Without such an event all are recorded, and the nodes that were entered are counted. -/
structure Truncates (refuses : Event → Option Failure) (events : List Event)
    (outcome : Except Failure Nat × List Event) : Prop where
  whole : (∀ event ∈ events, refuses event = none) → outcome = (.ok (events.filterMap Event.entered?).length, events)
  cut : ∀ before event after failure, events = before ++ event :: after →
    (∀ earlier ∈ before, refuses earlier = none) → refuses event = some failure → outcome = (.error failure, before)
  fails : outcome.1.isOk = false ↔ ∃ event ∈ events, (refuses event).isSome

/-- The first event at which a visitor fails, if there is one. -/
theorem exists_first_refused {refuses : Event → Option Failure} {events : List Event}
    (refusal : ∃ event ∈ events, (refuses event).isSome) :
    ∃ before event after failure, events = before ++ event :: after ∧
      (∀ earlier ∈ before, refuses earlier = none) ∧ refuses event = some failure := by
  have found : (events.find? fun event => (refuses event).isSome).isSome := by
    simpa using refusal
  obtain ⟨event, first⟩ := Option.isSome_iff_exists.mp found
  obtain ⟨refused, before, after, split, accepted⟩ := List.find?_eq_some_iff_append.mp first
  obtain ⟨failure, same⟩ := Option.isSome_iff_exists.mp refused
  exact ⟨before, event, after, failure, split, fun earlier member => by simpa using accepted earlier member, same⟩

theorem truncates_record {value : Json} {root : RawNode} (read : RawNode.ofJson? value = some root)
    (refuses : Event → Option Failure) : Truncates refuses (root.events []) (record refuses value) where
  whole accepted := by
    rw [record_of_accepted read accepted, (root.filterMap_entered?_events []).length_eq]
  cut _ _ _ _ split accepted refused := record_of_refused read split accepted refused
  fails := by
    constructor
    · intro failed
      by_contra unrefused
      have accepted : ∀ event ∈ root.events [], refuses event = none := by
        simpa using unrefused
      rw [record_of_accepted read accepted] at failed
      cases failed
    · intro refusal
      obtain ⟨before, event, after, failure, split, accepted, refused⟩ := exists_first_refused refusal
      rw [record_of_refused read split accepted refused]
      rfl

/-- **A walk stops right before the first event at which its visitor fails.**  A visitor that never fails records the
tour of the AST, in which each structural node is entered once and left once; any other visitor records this tour up to
its first failure and returns that, or counts the nodes when there is none.  A value that is no node is refused before the
visitor is shown anything. -/
theorem walk_truncates (refuses : Event → Option Failure) (value : Json) :
    (RawNode.ofJson? value = none → record refuses value = (.error (.malformedAst .rootNotNode), [])) ∧
    ∀ root, RawNode.ofJson? value = some root →
      ∃ events, Toured none 0 root events ∧
        (events.filterMap Event.entered?).Perm root.postorder ∧
        events.filterMap Event.left? = root.postorder ∧
        record (fun _ => none) value = (.ok root.postorder.length, events) ∧
        Truncates refuses events (record refuses value) := by
  refine ⟨record_of_no_node, fun root read => ?_⟩
  exact ⟨root.events [], root.toured_events [], root.filterMap_entered?_events [], root.filterMap_left?_events [],
    record_of_accepted read fun _ _ => rfl, truncates_record read refuses⟩

/-- Fails on entering one node and on leaving another, both given by their ids. -/
def stopsAt (onEnter onLeave : Option NodeId) : Event → Option Failure
  | .enter raw _ _ => if onEnter = some raw.id then some (.internal "stopped on enter") else none
  | .leave raw _ _ _ => if onLeave = some raw.id then some (.internal "stopped on leave") else none

/-- An AST in which two nodes have the id 3, the first of them below another node. -/
def twinAst : Json :=
  .object [("id", .int 1), ("nodeType", .string "SourceUnit"), ("src", .string "0:9:0"), ("nodes", .array [
    .object [("id", .int 2), ("nodeType", .string "Block"), ("src", .string "0:4:0"), ("statements", .array [
      .object [("id", .int 3), ("nodeType", .string "Return"), ("src", .string "1:2:0")]])],
    .object [("id", .int 3), ("nodeType", .string "Block"), ("src", .string "5:4:0")]])]

/-- The first of the two nodes ends a walk that is to fail on leaving it: nothing above it is left, and the second one is
never entered. -/
theorem walk_truncates_twin :
    ((record (stopsAt none (some 3)) twinAst).2.filterMap Event.entered?).map RawNode.id = [1, 2, 3] ∧
    (record (stopsAt none (some 3)) twinAst).2.filterMap Event.left? = [] ∧
    ∃ root events, RawNode.ofJson? twinAst = some root ∧ Toured none 0 root events ∧
      Truncates (stopsAt none (some 3)) events (record (stopsAt none (some 3)) twinAst) := by
  refine ⟨by decide +kernel, rfl, ?_⟩
  obtain ⟨root, read⟩ : ∃ root, RawNode.ofJson? twinAst = some root := ⟨_, rfl⟩
  obtain ⟨events, toured, -, -, -, truncated⟩ := (walk_truncates (stopsAt none (some 3)) twinAst).2 root read
  exact ⟨root, events, read, toured, truncated⟩

/-- An object that lacks an id, and so is no node. -/
def rootless : Json :=
  .object [("nodeType", .string "SourceUnit")]

/-- A walk over an object without an id has no events, and it fails with a visitor that fails at none of them. -/
theorem rootless_not_truncated :
    (record (stopsAt none none) rootless).2 = [] ∧
    ¬ Truncates (stopsAt (some 1) none) (record (stopsAt none none) rootless).2
      (record (stopsAt (some 1) none) rootless) := by
  have unseen : (record (stopsAt none none) rootless).2 = [] := rfl
  refine ⟨unseen, fun truncated => ?_⟩
  rw [unseen] at truncated
  cases congrArg (fun outcome => outcome.1.isOk) (truncated.whole nofun)

end SolidityNav.Ast
