/-
# Proofs.Json.Reordering -- values that differ in the order of fields

Two values are reorderings of one another when one becomes the other by moving the fields of objects around, at any depth
and any number of times (`Reordered`).  Lists keep their order, and an object whose fields move has each name once: among
fields of one name the first is the one that is read.

What is read under a name does not depend on the order then (`find?_of_perm`), and a reading that does not tell two
values apart does not tell apart the objects that hold them in one field either (`bind_find?_of_eq`).
-/
import SolidityNav.Json.Basic
import SolidityNav.Proofs.Table

namespace SolidityNav

set_option autoImplicit false

/-- One value becomes the other by reordering the fields of objects in it. -/
inductive Json.Reordered : Json → Json → Prop
  | refl (value : Json) : Reordered value value
  | trans {first second third : Json} : Reordered first second → Reordered second third → Reordered first third
  /-- The fields of the object itself are put into another order. -/
  | fields {before after : List (String × Json)} (distinct : (before.map Prod.fst).Nodup) (moved : before.Perm after) :
      Reordered (.object before) (.object after)
  /-- Somewhere in the value of one field. -/
  | field {value other : Json} (front : List (String × Json)) (name : String) (back : List (String × Json)) :
      Reordered value other →
      Reordered (.object (front ++ (name, value) :: back)) (.object (front ++ (name, other) :: back))
  /-- Somewhere in one item of a list. -/
  | item {value other : Json} (front back : List Json) :
      Reordered value other → Reordered (.array (front ++ value :: back)) (.array (front ++ other :: back))

namespace Table

variable {κ α : Type} [DecidableEq κ]

/-- With each key once, the order of the entries does not matter. -/
theorem find?_of_perm {table other : Table κ α} (distinct : table.keys.Nodup) (moved : table.Perm other) (key : κ) :
    find? key table = find? key other := by
  have distinctOther : other.keys.Nodup := (moved.map Prod.fst).nodup_iff.mp distinct
  apply Option.ext
  intro value
  rw [find?_eq_some_iff distinct, find?_eq_some_iff distinctOther, moved.mem_iff]

/-- Two values that are read alike may stand for one another in an entry. -/
theorem bind_find?_of_eq {β : Type} (read : α → Option β) {value other : α} (alike : read value = read other) (name : κ)
    (front back : Table κ α) (key : κ) :
    (find? key (front ++ (name, value) :: back)).bind read = (find? key (front ++ (name, other) :: back)).bind read := by
  induction front with
  | nil =>
      rw [List.nil_append, List.nil_append, find?, find?]
      split
      · exact alike
      · rfl
  | cons entry rest ih =>
      rw [List.cons_append, List.cons_append, find?, find?]
      split
      · rfl
      · exact ih

end Table

end SolidityNav
