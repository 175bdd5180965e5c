/-
# Proofs.Index.Survey -- what reordered fields leave as it was

A walk visits the nodes of an AST in the order of the fields.  `Visit.summary` is what of a visit has nothing to do with
this order: the node's own texts, its parent and scope, what it refers to, and its children as a multiset.  The list of
all summaries is the survey of a node (`RawNode.survey`), and surveys of reordered ASTs are permutations of one another
(`interchangeable_of_reordered`, `Interchangeable.exists_twin`).

The path above a node enters its survey only through the nearest id and the scope that the path opens (`pathContext`),
so the path itself may change when objects on it are reordered (`survey_congr`).  `Interchangeable` is what is kept of a
value in each single reordering, and it composes along the steps of `Json.Reordered`.
-/
import Mathlib.Data.Multiset.Defs
import SolidityNav.Proofs.Index.Attributes
import SolidityNav.Proofs.Json.Reordering

namespace SolidityNav

set_option autoImplicit false

open SolidityNav.Ast (NodeId RawNode scalarFields scopeOf)
open SolidityNav.Index (Scope)

namespace Ast.RawNode

/-! ## Surveys -/

/-- What is shown of a visited node in whatever order its fields and those of the nodes around it are. -/
structure Summary where
  id : NodeId
  tag : String
  src : String
  parent : Option NodeId
  /-- The scope inside the node. -/
  scope : Scope
  reference : Option NodeId
  /-- The ids of the children with the fields they stand under. -/
  children : Multiset (String × NodeId)

def idsByField (children : List (String × RawNode)) : List (String × NodeId) :=
  children.map fun child => (child.1, child.2.id)

def Visit.summary (visit : Visit) : Summary where
  id := visit.raw.id
  tag := visit.raw.tag
  src := visit.raw.src
  parent := visit.parent?.map RawNode.id
  scope := visit.scope
  reference := visit.raw.reference?
  children := idsByField visit.raw.children

def survey (above : List RawNode) (raw : RawNode) : List Summary :=
  (raw.visits above).map Visit.summary

theorem survey_eq (above : List RawNode) (raw : RawNode) :
    raw.survey above =
      (raw.children.flatMap fun child => child.2.survey (raw :: above)) ++ [Visit.summary ⟨raw, above⟩] := by
  rw [survey, visits_eq, List.map_append, List.map_flatMap]
  rfl

/-- What a path decides about the nodes below it. -/
def pathContext (above : List RawNode) : Option NodeId × Scope :=
  (above.head?.map RawNode.id, scopeOf Scope.inside {} above)

/-- The summary of a node depends on the path only as far as the path's context goes. -/
theorem summary_congr (raw : RawNode) {above other : List RawNode} (same : pathContext above = pathContext other) :
    Visit.summary ⟨raw, above⟩ = Visit.summary ⟨raw, other⟩ := by
  obtain ⟨parent, scope⟩ := Prod.mk.inj same
  simp only [Visit.summary, Visit.parent?, Visit.scope, scopeOf_cons, parent, scope]

theorem pathContext_cons_congr {raw twin : RawNode} {above other : List RawNode} (id : raw.id = twin.id)
    (inside : ∀ scope, Scope.inside raw scope = Scope.inside twin scope)
    (same : pathContext above = pathContext other) : pathContext (raw :: above) = pathContext (twin :: other) := by
  have scope := (Prod.mk.inj same).2
  simp only [pathContext, List.head?_cons, Option.map_some, scopeOf_cons, id, inside, scope]

theorem survey_congr (raw : RawNode) {above other : List RawNode} (same : pathContext above = pathContext other) :
    raw.survey above = raw.survey other := by
  induction raw using childInduction generalizing above other with
  | step raw ih =>
      have below := pathContext_cons_congr rfl (fun scope => (rfl : Scope.inside raw scope = _)) same
      rw [survey_eq, survey_eq, summary_congr raw same]
      congr 1
      exact List.flatMap_congr fun child member => ih child member below

/-! ## Lists of children -/

/-- Two lists of children show the same, wherever they stand. -/
structure Mirrors (first second : List (String × RawNode)) : Prop where
  ids : (idsByField first).Perm (idsByField second)
  surveys : ∀ above other, pathContext above = pathContext other →
    (first.flatMap fun child => child.2.survey above).Perm (second.flatMap fun child => child.2.survey other)

namespace Mirrors

variable {first second third : List (String × RawNode)}

theorem of_perm (moved : first.Perm second) : Mirrors first second where
  ids := moved.map _
  surveys above other same := by
    have each : (first.flatMap fun child => child.2.survey above) = first.flatMap fun child => child.2.survey other :=
      List.flatMap_congr fun child _ => survey_congr child.2 same
    rw [each]
    exact moved.flatMap_right _

theorem refl (children : List (String × RawNode)) : Mirrors children children :=
  of_perm (List.Perm.refl children)

theorem symm (mirrors : Mirrors first second) : Mirrors second first where
  ids := mirrors.ids.symm
  surveys above other same := (mirrors.surveys other above same.symm).symm

theorem trans (early : Mirrors first second) (late : Mirrors second third) : Mirrors first third where
  ids := early.ids.trans late.ids
  surveys above other same := (early.surveys above other same).trans (late.surveys other other rfl)

theorem append {more others : List (String × RawNode)} (front : Mirrors first second) (back : Mirrors more others) :
    Mirrors (first ++ more) (second ++ others) where
  ids := by
    simp only [RawNode.idsByField, List.map_append]
    exact front.ids.append back.ids
  surveys above other same := by
    rw [List.flatMap_append, List.flatMap_append]
    exact (front.surveys above other same).append (back.surveys above other same)

/-- Under one field there are children in both lists or in none. -/
theorem mem_names_iff (mirrors : Mirrors first second) (name : String) :
    name ∈ first.map Prod.fst ↔ name ∈ second.map Prod.fst := by
  have names (children : List (String × RawNode)) :
      children.map Prod.fst = (RawNode.idsByField children).map Prod.fst := by
    rw [RawNode.idsByField, List.map_map]
    rfl
  rw [names first, names second, (mirrors.ids.map Prod.fst).mem_iff]

end Mirrors

/-! ## Objects -/

def childrenIn (fields : List (String × Json)) : List (String × RawNode) :=
  fields.flatMap fun field => if field.1 ∈ scalarFields then [] else (held field.2).map (Prod.mk field.1)

theorem children_eq (raw : RawNode) : raw.children = childrenIn raw.fields :=
  List.flatMap_congr fun _ _ => rfl

/-- Two lists of fields make the same node, up to the order of its children. -/
structure Agree (before after : List (String × Json)) : Prop where
  texts : ∀ name, (Table.find? name before).bind Json.string? = (Table.find? name after).bind Json.string?
  numbers : ∀ name, (Table.find? name before).bind Json.int64? = (Table.find? name after).bind Json.int64?
  children : Mirrors (childrenIn before) (childrenIn after)

namespace Agree

variable {before after : List (String × Json)} (agree : Agree before after)
include agree

theorem symm : Agree after before where
  texts name := (agree.texts name).symm
  numbers name := (agree.numbers name).symm
  children := agree.children.symm

/-- The node of the one list is that of the other but for its fields. -/
theorem ofFields? {raw : RawNode} (read : ofFields? before = some raw) :
    RawNode.ofFields? after = some { raw with fields := after } := by
  obtain ⟨id, tag, src, -⟩ := ofFields?_eq_some_iff.mp read
  rw [agree.numbers] at id
  rw [agree.texts] at tag src
  exact ofFields?_eq_some_iff.mpr ⟨id, tag, src, rfl⟩

theorem inside (raw : RawNode) (same : raw.fields = before) (scope : Scope) :
    Scope.inside raw scope = Scope.inside { raw with fields := after } scope := by
  have name : raw.name? = RawNode.name? { raw with fields := after } := by
    have texts := agree.texts "name"
    rwa [← same] at texts
  rw [Scope.inside, name]
  rfl

theorem reference? (raw : RawNode) (same : raw.fields = before) :
    raw.reference? = RawNode.reference? { raw with fields := after } := by
  have numbers := agree.numbers "referencedDeclaration"
  have names := agree.children.mem_names_iff "referencedDeclaration"
  rw [← same, ← children_eq] at names
  rw [← same] at numbers
  rw [RawNode.reference?, RawNode.reference?, children_eq { raw with fields := after }]
  simp only [names]
  split
  · rfl
  · exact numbers

/-- A node shows the same with its fields replaced. -/
theorem mirrors_node (name : String) (raw : RawNode) (same : raw.fields = before) :
    Mirrors [(name, raw)] [(name, { raw with fields := after })] where
  ids := List.Perm.refl _
  surveys above other context := by
    have children : Mirrors raw.children (RawNode.children { raw with fields := after }) := by
      rw [children_eq, children_eq, same]
      exact agree.children
    -- Below the node the path has changed as well, since the node on it has its new fields.
    have below : pathContext (raw :: above) = pathContext ({ raw with fields := after } :: other) :=
      pathContext_cons_congr rfl (agree.inside raw same) context
    have summary : Visit.summary ⟨raw, above⟩ = Visit.summary ⟨{ raw with fields := after }, other⟩ := by
      rw [summary_congr raw context]
      simp only [Visit.summary, Visit.scope, scopeOf_cons, agree.inside raw same, agree.reference? raw same]
      congr 1
      exact Multiset.coe_eq_coe.mpr children.ids
    rw [List.flatMap_singleton, List.flatMap_singleton, survey_eq, survey_eq, summary]
    exact (children.surveys _ _ below).append_right _

/-- Both lists of fields make a node that shows the same, or neither makes one. -/
theorem mirrors_ofFields? (name : String) :
    Mirrors ((RawNode.ofFields? before).toList.map (Prod.mk name))
      ((RawNode.ofFields? after).toList.map (Prod.mk name)) := by
  cases read : RawNode.ofFields? before with
  | some raw =>
      rw [agree.ofFields? read]
      exact agree.mirrors_node name raw (fields_of_ofFields? read)
  | none =>
      cases readAfter : RawNode.ofFields? after with
      | none => exact Mirrors.refl []
      | some raw =>
          rw [agree.symm.ofFields? readAfter] at read
          cases read

end Agree

theorem childrenIn_append (front back : List (String × Json)) :
    childrenIn (front ++ back) = childrenIn front ++ childrenIn back :=
  List.flatMap_append

theorem childrenIn_cons (field : String × Json) (rest : List (String × Json)) :
    childrenIn (field :: rest) = childrenIn [field] ++ childrenIn rest :=
  childrenIn_append [field] rest

/-- Fields that are read alike after they moved. -/
theorem agree_of_perm {before after : List (String × Json)} (distinct : (before.map Prod.fst).Nodup)
    (moved : before.Perm after) : Agree before after where
  texts name := by rw [Table.find?_of_perm distinct moved]
  numbers name := by rw [Table.find?_of_perm distinct moved]
  children := Mirrors.of_perm (moved.flatMap_right _)

/-! ## Values -/

/-- Two values show the same, as a node and as what a field holds. -/
structure Interchangeable (value other : Json) : Prop where
  text : value.string? = other.string?
  number : value.int64? = other.int64?
  node : ∀ name, Mirrors ((ofJson? value).toList.map (Prod.mk name)) ((ofJson? other).toList.map (Prod.mk name))
  held : ∀ name, Mirrors ((held value).map (Prod.mk name)) ((held other).map (Prod.mk name))

/-- Objects are interchangeable as soon as their fields agree. -/
theorem Agree.interchangeable {before after : List (String × Json)} (agree : Agree before after) :
    Interchangeable (.object before) (.object after) where
  text := rfl
  number := rfl
  node := agree.mirrors_ofFields?
  held := agree.mirrors_ofFields?

namespace Interchangeable

theorem refl (value : Json) : Interchangeable value value :=
  ⟨rfl, rfl, fun _ => Mirrors.refl _, fun _ => Mirrors.refl _⟩

theorem trans {first second third : Json} (early : Interchangeable first second)
    (late : Interchangeable second third) : Interchangeable first third where
  text := early.text.trans late.text
  number := early.number.trans late.number
  node name := (early.node name).trans (late.node name)
  held name := (early.held name).trans (late.held name)

variable {value other : Json} (same : Interchangeable value other)
include same

theorem symm : Interchangeable other value where
  text := same.text.symm
  number := same.number.symm
  node name := (same.node name).symm
  held name := (same.held name).symm

/-- When one is a node the other is one too, with the same id and the same survey. -/
theorem exists_twin {root : RawNode} (read : ofJson? value = some root) :
    ∃ twin, ofJson? other = some twin ∧ root.id = twin.id ∧ (root.survey []).Perm (twin.survey []) := by
  have mirrors := same.node ""
  rw [read] at mirrors
  cases readOther : ofJson? other with
  | none =>
      rw [readOther] at mirrors
      exact absurd mirrors.ids.length_eq (by simp [idsByField])
  | some twin =>
      rw [readOther] at mirrors
      have ids := List.perm_singleton.mp mirrors.ids.symm
      have surveys := mirrors.surveys [] [] rfl
      simp only [Option.toList_some, List.map_singleton, List.flatMap_singleton] at surveys
      exact ⟨twin, rfl, by simpa [idsByField, eq_comm] using ids, surveys⟩

/-- One may stand for the other in a field. -/
theorem field (front : List (String × Json)) (name : String) (back : List (String × Json)) :
    Interchangeable (.object (front ++ (name, value) :: back)) (.object (front ++ (name, other) :: back)) := by
  apply Agree.interchangeable
  have here : Mirrors (childrenIn [(name, value)]) (childrenIn [(name, other)]) := by
    simp only [childrenIn, List.flatMap_singleton]
    split
    · exact Mirrors.refl []
    · exact same.held name
  exact {
    texts := Table.bind_find?_of_eq Json.string? same.text name front back
    numbers := Table.bind_find?_of_eq Json.int64? same.number name front back
    children := by
      rw [childrenIn_append, childrenIn_append, childrenIn_cons, childrenIn_cons (name, other)]
      exact (Mirrors.refl _).append (here.append (Mirrors.refl _)) }

/-- One may stand for the other in a list. -/
theorem item (front back : List Json) :
    Interchangeable (.array (front ++ value :: back)) (.array (front ++ other :: back)) where
  text := rfl
  number := rfl
  node _ := Mirrors.refl []
  held name := by
    have listed (items : List Json) : (RawNode.held (.array items)).map (Prod.mk name) =
        items.flatMap fun item => (ofJson? item).toList.map (Prod.mk name) := by
      rw [RawNode.held, List.filterMap_eq_flatMap_toList, List.map_flatMap]
    simp only [listed, List.flatMap_append, List.flatMap_cons]
    exact (Mirrors.refl _).append ((same.node name).append (Mirrors.refl _))

end Interchangeable

/-- **Reordered values show the same.** -/
theorem interchangeable_of_reordered {value other : Json} (reordered : value.Reordered other) :
    Interchangeable value other := by
  induction reordered with
  | refl value => exact .refl value
  | trans _ _ early late => exact early.trans late
  | fields distinct moved => exact (agree_of_perm distinct moved).interchangeable
  | field front name back _ same => exact same.field front name back
  | item front back _ same => exact same.item front back

end Ast.RawNode

end SolidityNav
