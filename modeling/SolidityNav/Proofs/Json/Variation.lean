/-
# Proofs.Json.Variation -- values with moved and additional fields

What was written as a record may come back changed: its fields in another order, and with fields that the record does not
have.  A `Variation` is one such change, anywhere in a value, and a value is `Varied` by any number of them.  A field that is
added has a name that its object does not have, and an object that was written has all the names of its record; so what is
added there is unknown to the record.

What an object presents, it presents after every variation (`stable_presents`).
-/
import Mathlib.Data.List.Nodup
import Mathlib.Logic.Relation
import SolidityNav.Proofs.Json.Records
import SolidityNav.Proofs.Json.Reordering

namespace SolidityNav.Json

set_option autoImplicit false

/-- One value becomes the other by one change to the fields of an object in it. -/
inductive Variation : Json → Json → Prop
  /-- The fields are put into another order. -/
  | moved {before after : List (String × Json)} (moved : before.Perm after) : Variation (.object before) (.object after)
  /-- A field with a new name is added. -/
  | added (front : List (String × Json)) (name : String) (value : Json) (back : List (String × Json))
      (fresh : name ∉ (front ++ back).map Prod.fst) :
      Variation (.object (front ++ back)) (.object (front ++ (name, value) :: back))
  /-- Somewhere in the value of one field. -/
  | field {value other : Json} (front : List (String × Json)) (name : String) (back : List (String × Json)) :
      Variation value other →
      Variation (.object (front ++ (name, value) :: back)) (.object (front ++ (name, other) :: back))
  /-- Somewhere in one item of a list. -/
  | item {value other : Json} (front back : List Json) :
      Variation value other → Variation (.array (front ++ value :: back)) (.array (front ++ other :: back))

def Varied : Json → Json → Prop :=
  Relation.ReflTransGen Variation

def Stable (asks : Json → Prop) : Prop :=
  ∀ value other, Variation value other → asks value → asks other

theorem Stable.of_varied {asks : Json → Prop} (stable : Stable asks) {value other : Json} (varied : Varied value other)
    (meets : asks value) : asks other := by
  induction varied with
  | refl => exact meets
  | tail _ change ih => exact stable _ _ change ih

/-- In a value that is neither an object nor a list nothing can be changed. -/
theorem stable_eq {scalar : Json} (fieldless : scalar.fields? = none) (itemless : scalar.items? = none) :
    Stable (· = scalar) := by
  rintro value other change rfl
  cases change with
  | moved | added | field => cases fieldless
  | item => cases itemless

theorem stable_optional {α : Type} {asks : α → Json → Prop} (each : ∀ content, Stable (asks content))
    (content : Option α) : Stable (Optional asks content) := by
  cases content with
  | none => exact stable_eq rfl rfl
  | some content => exact each content

/-- **What an object presents, it presents after every change**, if what is asked of its fields is kept too. -/
theorem stable_presents {shape : Shape} (each : ∀ entry ∈ shape, Stable entry.2) :
    Stable (Presents shape) := by
  rintro value other change ⟨fields, rfl, distinct, present⟩
  cases change with
  | moved moved =>
      refine ⟨_, rfl, (moved.map Prod.fst).nodup_iff.mp distinct, fun entry asked => ?_⟩
      rw [← Table.find?_of_perm distinct moved]
      exact present entry asked
  | added front added value back fresh =>
      have distinctLarger : Table.keys (front ++ (added, value) :: back) |>.Nodup := by
        rw [Table.keys, List.map_append, List.map_cons, List.nodup_middle, ← List.map_append]
        exact List.nodup_cons.mpr ⟨fresh, distinct⟩
      refine ⟨_, rfl, distinctLarger, fun entry asked => ?_⟩
      obtain ⟨held, found, meets⟩ := present entry asked
      have member : (entry.1, held) ∈ front ++ back := Table.mem_of_find? found
      refine ⟨held, (Table.find?_eq_some_iff distinctLarger).mpr ?_, meets⟩
      rw [List.mem_append] at member ⊢
      exact member.imp_right (List.mem_cons_of_mem _)
  | @field value other front changed back inner =>
      have sameKeys : Table.keys (front ++ (changed, value) :: back) = Table.keys (front ++ (changed, other) :: back) := by
        simp [Table.keys]
      have distinctOther := sameKeys ▸ distinct
      refine ⟨_, rfl, distinctOther, fun entry asked => ?_⟩
      obtain ⟨held, found, meets⟩ := present entry asked
      have member := Table.mem_of_find? found
      simp only [List.mem_append, List.mem_cons] at member
      rcases member with inFront | here | inBack
      · exact ⟨held, (Table.find?_eq_some_iff distinctOther).mpr (by simp [inFront]), meets⟩
      · obtain ⟨rfl, rfl⟩ := Prod.mk.inj here
        exact ⟨other, (Table.find?_eq_some_iff distinctOther).mpr (by simp), each entry asked _ _ inner meets⟩
      · exact ⟨held, (Table.find?_eq_some_iff distinctOther).mpr (by simp [inBack]), meets⟩

end SolidityNav.Json
