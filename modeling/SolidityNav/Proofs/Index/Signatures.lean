/-
# Proofs.Index.Signatures -- signatures and the names of scopes

Functions and events declare their signatures when they are entered, so the tables of signatures follow the preorder of
the tree: a key is listed where it first occurs, and the last definition with that key has the say.  The names of the nodes
that open a scope are kept in the same order.

A signature is read off the object of its definition before anything below it is indexed.  It agrees with the index all the
same: the parameters are called what the index calls the nodes below the list (`Enumerates`).

`Catalogues root index` lists all this, and `build_catalogues` says so of every index that is built.
-/
import SolidityNav.Proofs.Index.Below
import SolidityNav.Proofs.Index.Symbols

namespace SolidityNav

set_option autoImplicit false

open SolidityNav.Ast (Node NodeType RawNode)
open SolidityNav.Ast.RawNode (Visit)
open SolidityNav.Index (Param Signature)

namespace Ast.RawNode

def signatures (root : RawNode) (kind : NodeType) : List (String × Signature) :=
  (root.arrivals []).filterMap (Visit.signature? kind)

/-- The names of the nodes of a kind, in preorder; a node without a name has the empty one. -/
def labels (root : RawNode) (kind : NodeType) : List String :=
  (root.arrivals []).filterMap fun visit => if visit.raw.nodeType = kind then some visit.raw.label else none

end Ast.RawNode

namespace Index

/-! ## Names of scopes -/

def scopeKinds : List NodeType :=
  [.contractDefinition, .functionDefinition, .eventDefinition]

theorem opensScope_iff {raw : RawNode} : raw.opensScope = true ↔ raw.nodeType ∈ scopeKinds :=
  decide_eq_true_iff

/-- Of the names of scopes, those under a kind are the names of the nodes of that kind, if it opens scopes. -/
theorem map_filter_scopeName? (root : RawNode) (kind : NodeType) :
    (((root.arrivals []).filterMap Visit.scopeName?).filter (·.1 = kind)).map Prod.snd =
      if kind ∈ scopeKinds then root.labels kind else [] := by
  rw [List.filter_filterMap, List.map_filterMap]
  split
  · rename_i opens
    refine List.filterMap_congr fun visit _ => ?_
    by_cases here : visit.raw.nodeType = kind
    · simp [Visit.scopeName?, opensScope_iff, here, opens]
    · by_cases other : visit.raw.opensScope = true <;> simp [Visit.scopeName?, other, here]
  · rename_i closed
    rw [List.filterMap_eq_nil_iff]
    intro visit _
    by_cases other : visit.raw.opensScope = true
    · have unlike : visit.raw.nodeType ≠ kind := fun same => closed (same ▸ opensScope_iff.mp other)
      simp [Visit.scopeName?, other, unlike]
    · simp [Visit.scopeName?, other]

theorem namesOf?_index {root : RawNode} (filable : root.Filable) (kind : NodeType) :
    root.index.symbols.namesOf? kind =
      if kind ∈ scopeKinds ∧ root.labels kind ≠ [] then some (root.labels kind).eraseDups else none := by
  rw [Symbols.namesOf?, symbols_index filable]
  show Table.find? kind (noteAll [] ((root.arrivals []).filterMap Visit.scopeName?)) = _
  have occurs : kind ∈ ((root.arrivals []).filterMap Visit.scopeName?).map Prod.fst ↔
      kind ∈ scopeKinds ∧ root.labels kind ≠ [] := by
    rw [← not_iff_not, ← Table.filter_eq_nil_iff, ← List.map_eq_nil_iff (f := Prod.snd), map_filter_scopeName?]
    by_cases opens : kind ∈ scopeKinds <;> simp [opens]
  rw [find?_noteAll, map_filter_scopeName?]
  simp only [occurs]
  split
  · rename_i both
    rw [if_pos both.1]
  · rfl

/-- The kinds with names are those of the nodes that open a scope, as they occur first in preorder. -/
theorem keys_namesByType_index {root : RawNode} (filable : root.Filable) :
    root.index.symbols.namesByType.keys =
      (((root.arrivals []).filter fun visit => visit.raw.opensScope).map fun visit => visit.raw.nodeType).eraseDups := by
  have kinds : ((root.arrivals []).filterMap Visit.scopeName?).map Prod.fst =
      ((root.arrivals []).filter fun visit => visit.raw.opensScope).map fun visit => visit.raw.nodeType := by
    rw [List.map_filterMap, ← List.filterMap_eq_map, List.filterMap_filter]
    refine List.filterMap_congr fun visit _ => ?_
    by_cases opens : visit.raw.opensScope = true <;> simp [Visit.scopeName?, opens]
  rw [symbols_index filable]
  show (noteAll [] ((root.arrivals []).filterMap Visit.scopeName?)).keys = _
  rw [noteAll, Table.keys_foldl_update (fun name names => Names.add (names.getD []) name), kinds]
  simp [Table.keys]

/-! ## Parameters -/

/-- The parameters in the list node under a field of a definition, as the index has them. -/
structure Enumerates (index : Index) (definition : RawNode) (field : String) (params : List Param) : Prop where
  /-- Their names are those of the nodes below the list, in their order.  The object of the list has each field once, as
  one made of a map does. -/
  listed : ∀ list items, definition.child? field = some list → list.field? "parameters" = some (.array items) →
    (list.fields.map Prod.fst).Nodup →
    ∃ node, index.node? list.id = some node ∧ node.parent = some definition.id ∧
      (params.map fun param => some param.name) =
        (node.childField "parameters").map fun id => (index.node? id).map fun param => param.name?.getD ""
  /-- Without a node under the field there are none. -/
  missing : definition.child? field = none → params = []

theorem enumerates_paramsUnder {root : RawNode} (filable : root.Filable) {visit : Visit}
    (visited : visit ∈ root.visits []) {field : String} (free : field ∉ Ast.scalarFields) :
    Enumerates root.index visit.raw field (paramsUnder visit.raw field) where
  listed := by
    intro list items found array distinct
    have isChild := RawNode.mem_children_of_child? free found
    have below := RawNode.child_mem_visits visited isChild
    obtain ⟨node, indexed⟩ := exists_node_of_mem_visits filable below
    obtain ⟨-, -, -, parent, -⟩ := fields_of_node? indexed
    refine ⟨node, (node?_index_eq_some_iff filable).mpr ⟨_, below, indexed, rfl⟩, parent, ?_⟩
    -- The signature was read off the items of the list, and these are the children that the index has under the field.
    have names := map_name?_childField_of_array filable below indexed distinct (by decide) array
    have called := congrArg (List.map (Option.map fun name : Option String => name.getD "")) names
    rw [List.map_map, List.map_map] at called
    rw [paramsUnder, found, List.map_map]
    simpa [Function.comp_def] using called.symm
  missing := by
    intro absent
    rw [paramsUnder, absent]

/-! ## The tables of a built index -/

/-- The tables of signatures and of names of scopes are those of the tree below `root`. -/
structure Catalogues (root : RawNode) (index : Index) : Prop where
  functions : Table.Collects (root.signatures .functionDefinition) index.symbols.functions
  events : Table.Collects (root.signatures .eventDefinition) index.symbols.events
  /-- A kind that opens scopes and occurs has its names, each where it comes first. -/
  names : ∀ kind ∈ scopeKinds, root.labels kind ≠ [] →
    index.symbols.namesOf? kind = some (root.labels kind).eraseDups
  /-- No other kind has names. -/
  nameless : ∀ kind, kind ∉ scopeKinds ∨ root.labels kind = [] → index.symbols.namesOf? kind = none
  /-- The kinds with names are those that open a scope and occur, by their first occurrence. -/
  kinds : index.symbols.namesByType.keys =
    (((root.arrivals []).filter fun visit => visit.raw.opensScope).map fun visit => visit.raw.nodeType).eraseDups
  /-- The parameters of a definition are those of the index. -/
  params : ∀ visit ∈ root.arrivals [], visit.raw.nodeType.isSignature = true →
    Enumerates index visit.raw "parameters" (signatureOf visit.raw).params
  /-- So is what it gives back. -/
  returns : ∀ visit ∈ root.arrivals [], visit.raw.nodeType.isSignature = true →
    Enumerates index visit.raw "returnParameters" (signatureOf visit.raw).returns

theorem catalogues_index {root : RawNode} (filable : root.Filable) : Catalogues root root.index where
  functions := by
    rw [symbols_index filable]
    exact Table.collects_insertAll (root.signatures .functionDefinition)
  events := by
    rw [symbols_index filable]
    exact Table.collects_insertAll (root.signatures .eventDefinition)
  names := by
    intro kind opens occurs
    rw [namesOf?_index filable, if_pos ⟨opens, occurs⟩]
  nameless := by
    intro kind other
    rw [namesOf?_index filable, if_neg fun both => other.elim (absurd both.1) both.2]
  kinds := keys_namesByType_index filable
  params := by
    intro visit entered _
    exact enumerates_paramsUnder filable ((root.arrivals_perm_visits []).mem_iff.mp entered) (by decide)
  returns := by
    intro visit entered _
    exact enumerates_paramsUnder filable ((root.arrivals_perm_visits []).mem_iff.mp entered) (by decide)

/-- **The tables of signatures are those of the tree**: each key has the signature of the last definition in preorder, and
the parameters in it are called what the index calls their nodes. -/
theorem build_catalogues {ast : Json} {index : Index} (built : build ast = .ok index) :
    ∃ root, RawNode.ofJson? ast = some root ∧ Catalogues root index := by
  obtain ⟨root, read, filable, rfl⟩ := build_eq_ok_iff.mp built
  exact ⟨root, read, catalogues_index filable⟩

/-! ## Two functions with one name -/

def parameterListAst (id : Int) (parameters : List Json) : Json :=
  .object [
    ("id", .int id), ("nodeType", .string "ParameterList"), ("src", .string "0:1:0"), ("parameters", .array parameters)]

/-- A contract with two functions of one name, an event, and a function without a name behind it.  In the list of the
second function stands something that is no node, and its last parameter has no name. -/
def overloadedAst : Json :=
  .object [
    ("id", .int 20), ("nodeType", .string "SourceUnit"), ("src", .string "0:90:0"),
    ("nodes", .array [
      .object [
        ("id", .int 15), ("nodeType", .string "ContractDefinition"), ("src", .string "0:80:0"), ("name", .string "C"),
        ("nodes", .array [
          .object [
            ("id", .int 5), ("nodeType", .string "FunctionDefinition"), ("src", .string "9:10:0"), ("name", .string "f"),
            ("parameters", parameterListAst 2 [.object [
              ("id", .int 1), ("nodeType", .string "VariableDeclaration"), ("src", .string "0:1:0"),
              ("name", .string "a")]]),
            ("returnParameters", parameterListAst 3 [])],
          .object [
            ("id", .int 9), ("nodeType", .string "FunctionDefinition"), ("src", .string "20:10:0"), ("name", .string "f"),
            ("parameters", parameterListAst 8 [
              .int 7,
              .object [
                ("id", .int 6), ("nodeType", .string "VariableDeclaration"), ("src", .string "0:1:0"),
                ("name", .string "b"), ("typeDescriptions", .object [("typeString", .string "bool")])],
              .object [
                ("id", .int 7), ("nodeType", .string "VariableDeclaration"), ("src", .string "0:1:0")]])],
          .object [
            ("id", .int 12), ("nodeType", .string "EventDefinition"), ("src", .string "40:9:0"),
            ("name", .string "E")]])],
      .object [
        ("id", .int 16), ("nodeType", .string "FunctionDefinition"), ("src", .string "81:9:0")]])]

/-- The second function has the say under the key of both, and its parameters are those of the index. -/
theorem build_catalogues_overloaded :
    ∃ index root, build overloadedAst = .ok index ∧ RawNode.ofJson? overloadedAst = some root ∧
      Catalogues root index ∧
      index.symbols.functions = [("C.f", ⟨[⟨"b", "bool"⟩, ⟨"", ""⟩], []⟩), (".", ⟨[], []⟩)] ∧
      index.symbols.events = [("C.E", ⟨[], []⟩)] ∧
      index.symbols.namesOf? .functionDefinition = some ["f", ""] ∧
      ∃ visit ∈ root.arrivals [], visit.raw.id = 9 ∧
        Enumerates index visit.raw "parameters" (signatureOf visit.raw).params ∧
        ∃ node, index.node? 8 = some node ∧ node.childField "parameters" = [6, 7] ∧
          ([6, 7].map fun id => (index.node? id).map fun param => param.name?.getD "") = [some "b", some ""] := by
  obtain ⟨index, built⟩ : ∃ index, build overloadedAst = .ok index := exists_of_isOk (by decide +kernel)
  obtain ⟨root, read, catalogued⟩ := build_catalogues built
  have computed : ∀ index ∈ (build overloadedAst).toOption,
      index.symbols.functions = [("C.f", ⟨[⟨"b", "bool"⟩, ⟨"", ""⟩], []⟩), (".", ⟨[], []⟩)] ∧
      index.symbols.events = [("C.E", ⟨[], []⟩)] ∧
      index.symbols.namesOf? .functionDefinition = some ["f", ""] := by
    decide +kernel
  have entered : ∀ root ∈ RawNode.ofJson? overloadedAst, ∃ visit ∈ root.arrivals [], visit.raw.id = 9 ∧
      visit.raw.nodeType.isSignature = true := by
    decide +kernel
  have below : ∀ index ∈ (build overloadedAst).toOption, ∃ node ∈ index.node? 8,
      node.childField "parameters" = [6, 7] ∧
      ([6, 7].map fun id => (index.node? id).map fun param => param.name?.getD "") = [some "b", some ""] := by
    decide +kernel
  rw [built] at computed below
  obtain ⟨functions, events, names⟩ := computed index rfl
  obtain ⟨visit, member, id, declares⟩ := entered root read
  obtain ⟨node, stored, children, called⟩ := below index rfl
  exact ⟨index, root, built, read, catalogued, functions, events, names, visit, member, id,
    catalogued.params visit member declares, node, stored, children, called⟩

end Index

end SolidityNav
