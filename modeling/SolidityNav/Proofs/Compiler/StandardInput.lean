/-
# Proofs.Compiler.StandardInput -- what overrides make of a request

A request is made in two steps that may both touch its settings: the fields of the overrides are stored one after another,
and the settings that come out of this may be told to recover from errors.  `Merges` says what the request is in the end.
The generated names come first, whether they were overridden or not, and the further names of the overrides follow in
their order.  Under each name stands what the overrides give, else what was generated; only the settings may differ from
that, by one entry (`Recovers`).

Overrides may be any value.  What is no object overrides nothing, and of several fields with one name the last one counts.
-/
import SolidityNav.Compiler.StandardInput
import SolidityNav.Proofs.Compiler.Version
import SolidityNav.Proofs.Table

namespace SolidityNav.Compiler

set_option autoImplicit false

/-! ## Overrides -/

/-- The fields that are overridden: those of an object, and none otherwise. -/
def overridden (overrides : Json) : Table String Json :=
  overrides.fields?.getD []

def given? (overrides : Json) (name : String) : Option Json :=
  ((overridden overrides).filter (·.1 = name)).getLast?.map Prod.snd

theorem given?_of_mem {overrides : Json} (distinct : (overridden overrides).keys.Nodup) {name : String} {value : Json}
    (member : (name, value) ∈ overridden overrides) : given? overrides name = some value := by
  have listed : (name, value) ∈ (overridden overrides).filter (·.1 = name) := by simp [member]
  cases final : ((overridden overrides).filter (·.1 = name)).getLast? with
  | none =>
      rw [List.getLast?_eq_none_iff.mp final] at listed
      cases listed
  | some last =>
      obtain ⟨among, here⟩ := List.mem_filter.mp (List.mem_of_getLast? final)
      obtain rfl : last.1 = name := of_decide_eq_true here
      have same : some last.2 = some value :=
        ((Table.find?_eq_some_iff distinct).mpr among).symm.trans ((Table.find?_eq_some_iff distinct).mpr member)
      simpa [given?, final] using same

def generatedNames : List String :=
  ["language", "sources", "settings"]

theorem keys_generatedInput (path content : String) : Table.keys (generatedInput path content) = generatedNames :=
  rfl

/-- What stands under a name after the overrides: what they give, else what was generated. -/
def merged? (path content : String) (overrides : Json) (name : String) : Option Json :=
  (given? overrides name).or (Table.find? name (generatedInput path content))

theorem find?_insertAll_overridden (path content : String) (overrides : Json) (name : String) :
    Table.find? name (Table.insertAll (generatedInput path content) (overridden overrides)) =
      merged? path content overrides name :=
  Table.find?_insertAll _ _ name

/-! ## Error recovery -/

/-- What becomes of settings that are told to recover from errors: an object has one entry replaced where it stands, or one
more at its end, and anything else stays as it is. -/
inductive Recovers : Json → Json → Prop
  | replaced (before : List (String × Json)) (old : Json) (after : List (String × Json))
      (first : "parserErrorRecovery" ∉ before.map Prod.fst) :
      Recovers (.object (before ++ ("parserErrorRecovery", old) :: after))
        (.object (before ++ ("parserErrorRecovery", .bool true) :: after))
  | appended (entries : List (String × Json)) (absent : "parserErrorRecovery" ∉ entries.map Prod.fst) :
      Recovers (.object entries) (.object (entries ++ [("parserErrorRecovery", .bool true)]))
  | kept (value : Json) (noObject : value.fields? = none) : Recovers value value

theorem recovers_insert (entries : Table String Json) :
    Recovers (.object entries) (.object (Table.insert "parserErrorRecovery" (.bool true) entries)) := by
  by_cases present : "parserErrorRecovery" ∈ entries.keys
  · obtain ⟨before, old, after, rfl, first⟩ := Table.exists_append_cons_of_mem present
    rw [Table.insert_append_cons first]
    exact .replaced before old after first
  · rw [Table.insert_of_not_mem present]
    exact .appended entries present

/-- There is one way to recover. -/
theorem Recovers.eq_insert {entries : Table String Json} {requested : Json}
    (recovers : Recovers (.object entries) requested) :
    requested = .object (Table.insert "parserErrorRecovery" (.bool true) entries) := by
  generalize settings : Json.object entries = value at recovers
  cases recovers with
  | replaced before old after first =>
      cases settings
      rw [Table.insert_append_cons first]
  | appended entries absent =>
      cases settings
      rw [Table.insert_of_not_mem absent]
  | kept value noObject =>
      cases settings
      cases noObject

/-- Only the settings are told to recover, and they stay where they are. -/
theorem withRecovery_spec {fields : Table String Json} {settings : Json}
    (held : Table.find? "settings" fields = some settings) :
    (withRecovery fields).keys = fields.keys ∧
      (∀ name, name ≠ "settings" → Table.find? name (withRecovery fields) = Table.find? name fields) ∧
      ∃ requested, Table.find? "settings" (withRecovery fields) = some requested ∧ Recovers settings requested := by
  have present : "settings" ∈ fields.keys := by
    apply Decidable.by_contra
    intro absent
    rw [Table.find?_eq_none_iff.mpr absent] at held
    cases held
  unfold withRecovery
  rw [held]
  split
  · rename_i entries isObject
    cases isObject
    refine ⟨by rw [Table.keys_insert, if_pos present], fun name other => ?_, _, ?_, recovers_insert entries⟩
    · rw [Table.find?_insert, if_neg (Ne.symm other)]
    · rw [Table.find?_insert, if_pos rfl]
  · rename_i noObject
    refine ⟨rfl, fun name other => rfl, settings, held, .kept settings ?_⟩
    cases settings with
    | object entries => exact absurd rfl (noObject entries)
    | _ => rfl

/-! ## Requests -/

/-- The compiler can be told to recover from errors: it reports a version that is 0.5.10 or newer. -/
def CanRecover (version : String) : Prop :=
  ∃ reported, Version.parse? version = some reported ∧ (⟨0, 5, 10⟩ : Version).key ≤ reported.key

theorem isAtLeast_recoveringVersion {version : String} :
    Version.isAtLeast version recoveringVersion = true ↔ CanRecover version :=
  Version.isAtLeast_iff

structure Merges (path content version : String) (overrides : Json) (fields : Table String Json) : Prop where
  /-- The generated names, and then the others in the order of the overrides. -/
  names : fields.keys = generatedNames ++ ((overridden overrides).keys.removeAll generatedNames).eraseDups
  values : ∀ name, name ≠ "settings" → Table.find? name fields = merged? path content overrides name
  settings : ∃ settings requested, merged? path content overrides "settings" = some settings ∧
    Table.find? "settings" fields = some requested ∧
    (CanRecover version → Recovers settings requested) ∧ (¬ CanRecover version → requested = settings)

theorem exists_merged_settings (path content : String) (overrides : Json) :
    ∃ settings, merged? path content overrides "settings" = some settings := by
  rw [merged?]
  cases given? overrides "settings" with
  | none => exact ⟨_, rfl⟩
  | some value => exact ⟨value, rfl⟩

theorem exists_merges (path content version : String) (overrides : Json) :
    ∃ fields, standardInput path content version overrides = .object fields ∧
      Merges path content version overrides fields := by
  obtain ⟨settings, merged⟩ := exists_merged_settings path content overrides
  have names := Table.keys_insertAll (generatedInput path content) (overridden overrides)
  rw [keys_generatedInput] at names
  have values := find?_insertAll_overridden path content overrides
  have held := (values "settings").trans merged
  refine ⟨_, rfl, ?_⟩
  by_cases recent : CanRecover version
  · rw [if_pos (isAtLeast_recoveringVersion.mpr recent)]
    obtain ⟨sameNames, others, requested, found, recovers⟩ := withRecovery_spec held
    exact {
      names := sameNames.trans names
      values := fun name other => (others name other).trans (values name)
      settings := ⟨settings, requested, merged, found, fun _ => recovers, fun old => absurd recent old⟩ }
  · rw [if_neg (mt isAtLeast_recoveringVersion.mp recent)]
    exact {
      names := names
      values := fun name _ => values name
      settings := ⟨settings, settings, merged, held, fun young => absurd young recent, fun _ => rfl⟩ }

/-- Overrides that replace the settings, name the generated text and add a field of their own. -/
def customized : Json :=
  .object [
    ("remappings", .array []),
    ("settings", .object [("parserErrorRecovery", .bool false), ("evmVersion", .string "paris")]),
    ("language", .string "Yul")]

end SolidityNav.Compiler
