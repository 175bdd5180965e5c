/-
# Proofs.Index.Scope -- the scope of a node is read off the path above it

A walk hands scopes down: entering a contract, a function or an event opens one, and leaving it closes it again.  What a
node sees is therefore decided by the nodes above it alone.  `Visit.contract?` and `Visit.callable?` read it off the path,
as the nearest contract and the nearest function or event that no contract stands in front of; `Visit.scope_eq` says that
this is what the walk hands down.
-/
import SolidityNav.Proofs.Index.Building

namespace SolidityNav

set_option autoImplicit false

open SolidityNav.Ast (RawNode scopeOf)
open SolidityNav.Ast.RawNode (Visit)
open SolidityNav.Index (Scope)

namespace Ast.RawNode

/-! ## The nearest scopes -/

def opensScope (raw : RawNode) : Bool :=
  raw.nodeType ∈ [.contractDefinition, .functionDefinition, .eventDefinition]

def label (raw : RawNode) : String :=
  raw.name?.getD ""

namespace Visit

def path (visit : Visit) : List RawNode :=
  visit.raw :: visit.above

def contract? (visit : Visit) : Option String :=
  (visit.path.find? fun raw => raw.nodeType = .contractDefinition).map label

/-- The name of the nearest node on the path that opens a scope, unless that is a contract. -/
def callable? (visit : Visit) : Option String :=
  (visit.path.find? opensScope).bind fun raw =>
    if raw.nodeType = .contractDefinition then none else some raw.label

end Visit

/-- What the nodes of a path hand down is what the nearest of them say. -/
theorem scopeOf_eq (path : List RawNode) :
    scopeOf Scope.inside {} path =
      { contract := (path.find? fun raw => raw.nodeType = .contractDefinition).map label
        callable := (path.find? opensScope).bind fun raw =>
          if raw.nodeType = .contractDefinition then none else some raw.label } := by
  induction path with
  | nil => rfl
  | cons raw above ih =>
      rw [scopeOf_cons, ih, Scope.inside]
      cases kind : raw.nodeType <;> simp [opensScope, kind, label]

theorem Visit.scope_eq (visit : Visit) : visit.scope = ⟨visit.contract?, visit.callable?⟩ :=
  scopeOf_eq visit.path

end Ast.RawNode

end SolidityNav
