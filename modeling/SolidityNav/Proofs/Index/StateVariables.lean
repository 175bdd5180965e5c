/-
# Proofs.Index.StateVariables -- the entry of a state variable

The type of a state variable `x` of a contract `C` is kept under `C..x`, with nothing between the dots, since no function or
event is around it.  The entry is not its own: whatever else of that name is declared in the contract outside of named
functions and events has the same key, such as the members of a struct, and the last declaration in postorder has the say.
A struct behind the variable takes the entry over (`member_takes_over`).

`build_stateVariable` says when the entry is that of the variable: when no later declaration has its key.  As long as names
have no dots in them, `varKey?_eq_iff` tells which declarations these are.
-/
import SolidityNav.Proofs.Index.Scoping
import SolidityNav.Proofs.Text

namespace SolidityNav

set_option autoImplicit false

open SolidityNav.Ast (RawNode)
open SolidityNav.Ast.RawNode (Visit)

namespace Ast.RawNode

/-- The name has no dot in it, as no identifier has. -/
def undotted (name : String) : Bool :=
  '.' ∉ name.toList

namespace Visit

/-- The visit is that of a variable with a name right below a contract with the name of its owner. -/
def isStateVariable (owner name : String) (visit : Visit) : Bool :=
  visit.raw.nodeType = .variableDeclaration && visit.raw.name? = some name &&
    visit.parent?.any fun contract => contract.nodeType = .contractDefinition && contract.label = owner

def varKey? (visit : Visit) : Option String :=
  visit.varType?.map Prod.fst

theorem isStateVariable_iff {owner name : String} {visit : Visit} :
    visit.isStateVariable owner name = true ↔ visit.raw.nodeType = .variableDeclaration ∧
      visit.raw.name? = some name ∧ ∃ contract rest, visit.above = contract :: rest ∧
        contract.nodeType = .contractDefinition ∧ contract.label = owner := by
  rw [isStateVariable, parent?]
  cases visit.above <;> simp [and_assoc]

theorem label_of_name? {raw : RawNode} {name : String} (named : raw.name? = some name) : raw.label = name := by
  rw [label, named]
  rfl

/-- A key without a function or an event has nothing between the dots. -/
theorem key_outside (owner name : String) : owner ++ "." ++ "" ++ "." ++ name = owner ++ ".." ++ name := by
  rw [← String.toList_inj]
  simp

theorem varType?_of_isStateVariable {owner name : String} {visit : Visit}
    (state : visit.isStateVariable owner name = true) :
    visit.varType? = some (owner ++ ".." ++ name, visit.raw.typeString?.getD "") := by
  obtain ⟨kind, named, contract, rest, path, contractKind, label⟩ := isStateVariable_iff.mp state
  have inContract : visit.contract? = some owner := by
    simp [contract?, Visit.path, path, kind, contractKind, label]
  have outside : visit.callable? = none := by
    simp [callable?, Visit.path, path, opensScope, kind, contractKind]
  simp [varType?, kind, named, inContract, outside, ← key_outside]

end Visit

/-! ## Which declarations share a key -/

/-- A key falls apart into its three names. -/
theorem split_key {contract callable name : String} (first : undotted contract) (second : undotted callable)
    (third : undotted name) :
    Text.split '.' (contract ++ "." ++ callable ++ "." ++ name).toList =
      [contract.toList, callable.toList, name.toList] := by
  have parts : (contract ++ "." ++ callable ++ "." ++ name).toList =
      contract.toList ++ '.' :: (callable.toList ++ '.' :: name.toList) := by
    simp
  rw [parts, Text.split_append (of_decide_eq_true first), Text.split_append (of_decide_eq_true second),
    Text.split_of_not_mem (of_decide_eq_true third)]

theorem key_inj {contract callable name contract' callable' name' : String} (first : undotted contract)
    (second : undotted callable) (third : undotted name) (first' : undotted contract') (second' : undotted callable')
    (third' : undotted name') :
    contract ++ "." ++ callable ++ "." ++ name = contract' ++ "." ++ callable' ++ "." ++ name' ↔
      contract = contract' ∧ callable = callable' ∧ name = name' := by
  constructor
  · intro same
    -- Both keys are split at their dots, which gives the names back.
    have parts := split_key first second third
    rw [same, split_key first' second' third'] at parts
    simpa only [List.cons.injEq, String.toList_inj, and_true, eq_comm] using parts
  · rintro ⟨rfl, rfl, rfl⟩
    rfl

section Plain

variable {root : RawNode} (plain : ∀ raw ∈ root.postorder, undotted raw.label = true) {visit : Visit}
  (visited : visit ∈ root.visits [])
include plain visited

theorem undotted_contract : undotted (visit.contract?.getD "") = true := by
  rw [Visit.contract?]
  cases found : visit.path.find? fun raw => raw.nodeType = .contractDefinition with
  | none => rfl
  | some raw => exact plain raw (mem_postorder_of_mem_path _ _ visited raw (List.mem_of_find?_eq_some found))

theorem undotted_callable : undotted (visit.callable?.getD "") = true := by
  rw [Visit.callable?]
  cases found : visit.path.find? opensScope with
  | none => rfl
  | some raw =>
      rw [Option.bind_some]
      split
      · rfl
      · exact plain raw (mem_postorder_of_mem_path _ _ visited raw (List.mem_of_find?_eq_some found))

theorem undotted_name {name : String} (named : visit.raw.name? = some name) : undotted name = true :=
  Visit.label_of_name? named ▸ plain visit.raw (raw_mem_postorder visited)

/-- **Without dots in names, a key says who has it**: the variables of that name in contracts of the owner's name, outside
of functions and events that have a name. -/
theorem varKey?_eq_iff {owner name : String} (undottedOwner : undotted owner = true)
    (undottedName : undotted name = true) :
    visit.varKey? = some (owner ++ ".." ++ name) ↔ visit.raw.nodeType = .variableDeclaration ∧
      visit.raw.name? = some name ∧ visit.contract?.getD "" = owner ∧ visit.callable?.getD "" = "" := by
  rw [Visit.varKey?, Visit.varType?, ← Visit.key_outside]
  split
  · rename_i kind
    cases called : visit.raw.name? with
    | none => simp
    | some own =>
        have parts := key_inj (undotted_contract plain visited) (undotted_callable plain visited)
          (undotted_name plain visited called) undottedOwner (by decide : undotted "") undottedName
        simp only [Option.map_some, Option.some.injEq, parts, kind, true_and]
        exact ⟨fun same => ⟨same.2.2, same.1, same.2.1⟩, fun same => ⟨same.2.1, same.2.2, same.1⟩⟩
  · rename_i other
    simp [other]

end Plain

end Ast.RawNode

namespace Index

/-! ## The last declaration has the say -/

theorem getLast?_of_behind (front : List Visit) {back : List Visit} {visit : Visit} {key type : String}
    (declares : visit.varType? = some (key, type)) (behind : ∀ other ∈ back, other.varKey? ≠ some key) :
    (((front ++ visit :: back).filterMap Visit.varType?).filter (·.1 = key)).getLast? = some (key, type) := by
  have nothing : (back.filterMap Visit.varType?).filter (·.1 = key) = [] := by
    rw [List.filter_eq_nil_iff]
    intro entry member same
    obtain ⟨other, inBack, declared⟩ := List.mem_filterMap.mp member
    apply behind other inBack
    rw [Visit.varKey?, declared, Option.map_some, of_decide_eq_true same]
  rw [List.filterMap_append, List.filterMap_cons_some declares, List.filter_append,
    List.filter_cons_of_pos (by simp), nothing]
  simp

/-- The entry of a variable is its own when no later declaration has its key. -/
theorem find?_varTypes_of_last {root : RawNode} (filable : root.Filable) {place : Nat} {visit : Visit}
    (placed : (root.visits [])[place]? = some visit) {key type : String} (declares : visit.varType? = some (key, type))
    (behind : ∀ other ∈ (root.visits []).drop (place + 1), other.varKey? ≠ some key) :
    Table.find? key root.index.symbols.varTypes = some type := by
  obtain ⟨inside, same⟩ := List.getElem?_eq_some_iff.mp placed
  obtain ⟨front, split⟩ : ∃ front, root.visits [] = front ++ visit :: (root.visits []).drop (place + 1) := by
    refine ⟨(root.visits []).take place, ?_⟩
    rw [← same, List.getElem_cons_drop, List.take_append_drop]
  have last := getLast?_of_behind front declares behind
  rw [← split] at last
  rw [(scoped_index filable).types, RawNode.varTypes, last]
  rfl

/-- **The entry of a state variable is its type as long as no later declaration has its key.**  Where names have no dots in
them, the declarations with this key are the variables of the same name in contracts of the same name that stand in no
function or event, or in one without a name. -/
theorem build_stateVariable {ast : Json} {index : Index} (built : build ast = .ok index) :
    ∃ root, RawNode.ofJson? ast = some root ∧
      ∀ owner name place visit, (root.visits [])[place]? = some visit → visit.isStateVariable owner name = true →
        ((∀ other ∈ (root.visits []).drop (place + 1), other.varKey? ≠ some (owner ++ ".." ++ name)) →
          Table.find? (owner ++ ".." ++ name) index.symbols.varTypes = some (visit.raw.typeString?.getD "")) ∧
        ((∀ raw ∈ root.postorder, RawNode.undotted raw.label = true) → ∀ other ∈ root.visits [],
          (other.varKey? = some (owner ++ ".." ++ name) ↔ other.raw.nodeType = .variableDeclaration ∧
            other.raw.name? = some name ∧ other.contract?.getD "" = owner ∧ other.callable?.getD "" = "")) := by
  obtain ⟨root, read, filable, rfl⟩ := build_eq_ok_iff.mp built
  refine ⟨root, read, fun owner name place visit placed state => ⟨?_, ?_⟩⟩
  · exact find?_varTypes_of_last filable placed (Visit.varType?_of_isStateVariable state)
  · intro plain other visited
    have variable_ : visit ∈ root.visits [] := List.mem_of_getElem? placed
    obtain ⟨-, named, contract, rest, path, -, label⟩ := Visit.isStateVariable_iff.mp state
    have undottedOwner : RawNode.undotted owner = true := by
      rw [← label]
      exact plain contract (RawNode.mem_postorder_of_mem_path _ _ variable_ contract (by simp [path]))
    exact RawNode.varKey?_eq_iff plain visited undottedOwner (RawNode.undotted_name plain variable_ named)

/-! ## A struct beside a state variable -/

def contractAst (declarations : List Json) : Json :=
  .object [
    ("id", .int 9), ("nodeType", .string "SourceUnit"), ("src", .string "0:90:0"),
    ("nodes", .array [
      .object [
        ("id", .int 8), ("nodeType", .string "ContractDefinition"), ("src", .string "0:80:0"), ("name", .string "C"),
        ("nodes", .array declarations)]])]

def memberAst : Json :=
  .object [
    ("id", .int 3), ("nodeType", .string "StructDefinition"), ("src", .string "20:20:0"), ("name", .string "S"),
    ("members", .array [declarationAst 2 "x" "bool"])]

/-- A struct in front of a state variable leaves the entry to it, though its member has the same key. -/
theorem build_stateVariable_front :
    ∃ index root visit member, build (contractAst [memberAst, declarationAst 1 "x" "uint256"]) = .ok index ∧
      RawNode.ofJson? (contractAst [memberAst, declarationAst 1 "x" "uint256"]) = some root ∧
      (root.visits [])[2]? = some visit ∧ visit.isStateVariable "C" "x" = true ∧
      (∀ other ∈ (root.visits []).drop 3, other.varKey? ≠ some "C..x") ∧
      Table.find? "C..x" index.symbols.varTypes = some "uint256" ∧
      (∀ raw ∈ root.postorder, RawNode.undotted raw.label = true) ∧
      member ∈ root.visits [] ∧ member.raw.id = 2 ∧ member.varKey? = some "C..x" ∧
      member.contract?.getD "" = "C" ∧ member.callable?.getD "" = "" := by
  obtain ⟨index, built⟩ : ∃ index, build (contractAst [memberAst, declarationAst 1 "x" "uint256"]) = .ok index :=
    exists_of_isOk (by decide +kernel)
  obtain ⟨root, read, entries⟩ := build_stateVariable built
  have placing : ∀ root ∈ RawNode.ofJson? (contractAst [memberAst, declarationAst 1 "x" "uint256"]),
      (∃ visit ∈ (root.visits [])[2]?, visit.isStateVariable "C" "x" = true ∧
        visit.raw.typeString?.getD "" = "uint256") ∧
      ∀ other ∈ (root.visits []).drop 3, other.varKey? ≠ some "C..x" := by
    decide +kernel
  have sharing : ∀ root ∈ RawNode.ofJson? (contractAst [memberAst, declarationAst 1 "x" "uint256"]),
      (∀ raw ∈ root.postorder, RawNode.undotted raw.label = true) ∧
      ∃ member ∈ root.visits [], member.raw.id = 2 ∧ member.varKey? = some "C..x" := by
    decide +kernel
  obtain ⟨⟨visit, placed, state, type⟩, behind⟩ := placing root read
  obtain ⟨plain, member, visited, id, key⟩ := sharing root read
  obtain ⟨entry, shares⟩ := entries "C" "x" 2 visit placed state
  have found := entry behind
  rw [type] at found
  obtain ⟨-, -, contract, callable⟩ := (shares plain member visited).mp key
  exact ⟨index, root, visit, member, built, read, placed, state, behind, found, plain, visited, id, key, contract, callable⟩

/-- **A struct behind a state variable takes its entry over**, though no other state variable of that name is in a contract
of that name. -/
theorem member_takes_over :
    ∃ index root visit, build (contractAst [declarationAst 1 "x" "uint256", memberAst]) = .ok index ∧
      RawNode.ofJson? (contractAst [declarationAst 1 "x" "uint256", memberAst]) = some root ∧
      visit ∈ root.visits [] ∧ visit.isStateVariable "C" "x" = true ∧
      (∀ other ∈ root.visits [], other.isStateVariable "C" "x" = true → other.raw.id = visit.raw.id) ∧
      visit.raw.typeString?.getD "" = "uint256" ∧
      Table.find? "C..x" index.symbols.varTypes = some "bool" := by
  have entry : ∀ index ∈ (build (contractAst [declarationAst 1 "x" "uint256", memberAst])).toOption,
      Table.find? "C..x" index.symbols.varTypes = some "bool" := by
    decide +kernel
  have shape : ∀ root ∈ RawNode.ofJson? (contractAst [declarationAst 1 "x" "uint256", memberAst]),
      ∃ visit ∈ root.visits [], visit.isStateVariable "C" "x" = true ∧
        (∀ other ∈ root.visits [], other.isStateVariable "C" "x" = true → other.raw.id = visit.raw.id) ∧
        visit.raw.typeString?.getD "" = "uint256" := by
    decide +kernel
  obtain ⟨index, built⟩ : ∃ index, build (contractAst [declarationAst 1 "x" "uint256", memberAst]) = .ok index :=
    exists_of_isOk (by decide +kernel)
  obtain ⟨root, read, -, -⟩ := build_eq_ok_iff.mp built
  obtain ⟨visit, visited, state, alone, type⟩ := shape root read
  rw [built] at entry
  exact ⟨index, root, visit, built, read, visited, state, alone, type, entry index rfl⟩

end Index

end SolidityNav
