/-
# Proofs.Ast.Walk -- a walk is its tour, step by step

A visitor whose scopes depend only on the nodes above (`Visitor.ScopedBy`) acts on one step of a tour at a time, with the
scope read off the path (`Visitor.act`).  A walk with it is then the list of its steps run in order
(`walk_eq_forM_tour`), in any lawful monad: effects and failures happen exactly as along the list.  What a walk does to a
state is therefore proved by induction over a list and not over nested values.
-/
import SolidityNav.Proofs.Ast.Structure

namespace SolidityNav.Ast

set_option autoImplicit false

section Walk

variable {m : Type → Type} [Monad m] {Scope : Type}

/-- The scope that a path opens, from the scope around its root. -/
def scopeOf (inside : RawNode → Scope → Scope) (start : Scope) (path : List RawNode) : Scope :=
  path.foldr inside start

theorem scopeOf_cons (inside : RawNode → Scope → Scope) (start : Scope) (raw : RawNode) (above : List RawNode) :
    scopeOf inside start (raw :: above) = inside raw (scopeOf inside start above) :=
  rfl

/-- The scope of the children of a node depends on nothing but the node and the scope around it. -/
def Visitor.ScopedBy (visitor : Visitor m Scope) (inside : RawNode → Scope → Scope) : Prop :=
  ∀ raw parent scope, visitor.enter raw parent scope = (fun _ => inside raw scope) <$> visitor.enter raw parent scope

def Visitor.act (visitor : Visitor m Scope) (inside : RawNode → Scope → Scope) (start : Scope) :
    RawNode.Step → m PUnit
  | .enter visit => do
      let _ ← visitor.enter visit.raw visit.parent? (scopeOf inside start visit.above)
  | .leave visit =>
      visitor.leave visit.raw visit.parent? visit.raw.children (scopeOf inside start (visit.raw :: visit.above))

variable [LawfulMonad m] {visitor : Visitor m Scope} {inside : RawNode → Scope → Scope} (start : Scope)

theorem Visitor.ScopedBy.enter_bind {α : Type} (fixed : visitor.ScopedBy inside) (raw : RawNode)
    (parent : Option RawNode) (scope : Scope) (next : Scope → m α) :
    visitor.enter raw parent scope >>= next = visitor.enter raw parent scope >>= fun _ => next (inside raw scope) := by
  rw [fixed raw parent scope, bind_map_left, bind_map_left]

theorem walkBranches_eq_forM_tour (raw : RawNode) (above : List RawNode) (scope : Scope)
    (children : List (String × RawNode))
    (each : ∀ child ∈ children, child.2.tree.walk visitor (some raw) scope = do
      (child.2.tour (raw :: above)).forM (visitor.act inside start)
      return child.2.postorder.length) :
    Tree.walkBranches visitor raw scope (children.map fun child => (child.1, child.2.tree)) = do
      (children.flatMap fun child => child.2.tour (raw :: above)).forM (visitor.act inside start)
      return (children.flatMap fun child => child.2.postorder).length := by
  induction children with
  | nil => simp [Tree.walkBranches]
  | cons child rest ih =>
      rw [List.map_cons, Tree.walkBranches, each child List.mem_cons_self,
        ih fun other member => each other (List.mem_cons_of_mem child member)]
      simp

/-- **A walk runs the steps of its tour in order** and counts the structural nodes. -/
theorem walk_eq_forM_tour (fixed : visitor.ScopedBy inside) (raw : RawNode) (above : List RawNode) :
    raw.tree.walk visitor above.head? (scopeOf inside start above) = do
      (raw.tour above).forM (visitor.act inside start)
      return raw.postorder.length := by
  induction raw using RawNode.childInduction generalizing above with
  | step raw ih =>
      have branches := walkBranches_eq_forM_tour start raw above (scopeOf inside start (raw :: above)) raw.children
        fun child member => ih child member (raw :: above)
      rw [RawNode.tree_eq, Tree.walk, fixed.enter_bind, RawNode.map_raw_branches, ← scopeOf_cons inside start, branches,
        RawNode.tour_eq, RawNode.postorder_eq]
      simp [Visitor.act, RawNode.Visit.parent?]

end Walk

end SolidityNav.Ast
