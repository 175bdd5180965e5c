/-
# Proofs.Index.Scoping -- what an index says about scopes

Two parts of an index depend on the scopes of its nodes: the stamps of the nodes that open a scope, and the keys of the
types of variables.  `Scoped root index` reads both off the paths to the nodes, and `build_scoped` says so of every index
that is built.
-/
import SolidityNav.Proofs.Index.Symbols

namespace SolidityNav

set_option autoImplicit false

open SolidityNav.Ast (Node RawNode)
open SolidityNav.Ast.RawNode (Visit)

def Ast.RawNode.varTypes (root : RawNode) : List (String × String) :=
  (root.visits []).filterMap Visit.varType?

namespace Index

/-! ## Stamps -/

theorem isSome_entering?_iff {raw : RawNode} : (entering? raw.nodeType).isSome = true ↔ raw.opensScope = true := by
  rw [RawNode.opensScope]
  cases raw.nodeType <;> simp [entering?]

/-- A node is stamped with its scope when it opens one, and not at all otherwise. -/
theorem stamps_of_node? {visit : Visit} {node : Node} (indexed : visit.node? = some node) :
    node.contract = (if visit.raw.opensScope then visit.contract? else none) ∧
      node.callable = if visit.raw.opensScope then visit.callable? else none := by
  obtain ⟨contract, callable⟩ := scope_of_node? indexed
  rw [contract, callable, visit.scope_eq]
  simp only [isSome_entering?_iff, and_self]

/-! ## Types of variables -/

theorem varTypes_index {root : RawNode} (filable : root.Filable) :
    root.index.symbols.varTypes = Table.insertAll [] root.varTypes := by
  rw [symbols_index filable]
  rfl

/-! ## Scopes of a built index -/

/-- The index reads the scopes of the structural nodes of `root` off the paths to them. -/
structure Scoped (root : RawNode) (index : Index) : Prop where
  /-- The nodes that open a scope are stamped with it. -/
  stamped : ∀ visit ∈ root.visits [], visit.raw.opensScope = true →
    ∃ node, index.node? visit.raw.id = some node ∧ node.contract = visit.contract? ∧ node.callable = visit.callable?
  /-- No other node is stamped. -/
  unstamped : ∀ visit ∈ root.visits [], visit.raw.opensScope = false →
    ∃ node, index.node? visit.raw.id = some node ∧ node.contract = none ∧ node.callable = none
  /-- A key has the type of the last variable in postorder with that key. -/
  types : ∀ key, Table.find? key index.symbols.varTypes =
    (root.varTypes.filter (·.1 = key)).getLast?.map Prod.snd
  /-- The keys are those of the variables, by their first occurrence in postorder. -/
  keys : index.symbols.varTypes.keys = (root.varTypes.map Prod.fst).eraseDups

theorem scoped_index {root : RawNode} (filable : root.Filable) : Scoped root root.index where
  stamped := by
    intro visit visited opens
    obtain ⟨node, indexed⟩ := exists_node_of_mem_visits filable visited
    have stamps := stamps_of_node? indexed
    rw [if_pos opens, if_pos opens] at stamps
    exact ⟨node, (node?_index_eq_some_iff filable).mpr ⟨visit, visited, indexed, rfl⟩, stamps⟩
  unstamped := by
    intro visit visited closed
    obtain ⟨node, indexed⟩ := exists_node_of_mem_visits filable visited
    have stamps := stamps_of_node? indexed
    rw [closed] at stamps
    exact ⟨node, (node?_index_eq_some_iff filable).mpr ⟨visit, visited, indexed, rfl⟩, stamps⟩
  types key := by
    rw [varTypes_index filable]
    exact (Table.collects_insertAll root.varTypes).last key
  keys := by
    rw [varTypes_index filable]
    exact (Table.collects_insertAll root.varTypes).first

/-- **Scopes are decided by the path to a node**: in a built index the stamps of the nodes and the keys of the types of
variables name the nearest contract and the nearest function or event above. -/
theorem build_scoped {ast : Json} {index : Index} (built : build ast = .ok index) :
    ∃ root, RawNode.ofJson? ast = some root ∧ Scoped root index := by
  obtain ⟨root, read, filable, rfl⟩ := build_eq_ok_iff.mp built
  exact ⟨root, read, scoped_index filable⟩

/-! ## A contract inside a function -/

def declarationAst (id : Int) (name typeString : String) : Json :=
  .object [
    ("id", .int id), ("nodeType", .string "VariableDeclaration"), ("src", .string "0:1:0"), ("name", .string name),
    ("typeDescriptions", .object [("typeString", .string typeString)])]

/-- A function with a contract without a name inside, and a variable and an event behind the function.  All variables
have one name, and two of them have one key. -/
def nestedAst : Json :=
  .object [
    ("id", .int 9), ("nodeType", .string "SourceUnit"), ("src", .string "0:90:0"),
    ("nodes", .array [
      .object [
        ("id", .int 8), ("nodeType", .string "ContractDefinition"), ("src", .string "0:80:0"), ("name", .string "C"),
        ("nodes", .array [
          .object [
            ("id", .int 5), ("nodeType", .string "FunctionDefinition"), ("src", .string "9:50:0"), ("name", .string "f"),
            ("parameters", .array [declarationAst 1 "x" "uint256"]),
            ("body", .object [
              ("id", .int 4), ("nodeType", .string "ContractDefinition"), ("src", .string "20:30:0"),
              ("nodes", .array [declarationAst 2 "x" "bool"])]),
            ("returnParameters", .array [declarationAst 3 "x" "string"])],
          declarationAst 6 "x" "address",
          .object [
            ("id", .int 7), ("nodeType", .string "EventDefinition"), ("src", .string "62:9:0"), ("name", .string "e")]])]])]

/-- The inner contract hides the function, and neither is seen behind it. -/
theorem build_scoped_nested :
    ∃ index root, build nestedAst = .ok index ∧ RawNode.ofJson? nestedAst = some root ∧ Scoped root index ∧
      index.symbols.varTypes = [("C.f.x", "string"), ("..x", "bool"), ("C..x", "address")] ∧
      (index.node? 4).map (fun node => (node.contract, node.callable)) = some (some "", none) ∧
      (index.node? 7).map (fun node => (node.contract, node.callable)) = some (some "C", some "e") := by
  obtain ⟨index, built⟩ : ∃ index, build nestedAst = .ok index := exists_of_isOk (by decide +kernel)
  obtain ⟨root, read, scopes⟩ := build_scoped built
  have computed : ∀ index ∈ (build nestedAst).toOption,
      index.symbols.varTypes = [("C.f.x", "string"), ("..x", "bool"), ("C..x", "address")] ∧
      (index.node? 4).map (fun node => (node.contract, node.callable)) = some (some "", none) ∧
      (index.node? 7).map (fun node => (node.contract, node.callable)) = some (some "C", some "e") := by
    decide +kernel
  rw [built] at computed
  exact ⟨index, root, built, read, scopes, computed index rfl⟩

end Index

end SolidityNav
