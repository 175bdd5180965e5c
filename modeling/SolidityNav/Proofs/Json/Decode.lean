/-
# Proofs.Json.Decode -- what holds of everything that is read

A record is collected field by field.  What holds of the empty draft and is kept by the reading of each field holds of
every draft that is completed, whether the record was written as an object or as a list (`holds_of_record`).  A table
that was read has each key once (`nodup_keys_of_table`).
-/
import SolidityNav.Json.Decode
import SolidityNav.Proofs.Table

namespace SolidityNav

set_option autoImplicit false

/-! ## Results -/

theorem exists_of_bind_eq_ok {ε α β : Type} {first : Except ε α} {next : α → Except ε β} {result : β}
    (done : first >>= next = .ok result) : ∃ value, first = .ok value ∧ next value = .ok result := by
  cases first with
  | error failure => cases done
  | ok value => exact ⟨value, rfl, done⟩

theorem exists_of_map_eq_ok {ε α β : Type} {first : Except ε α} {change : α → β} {result : β}
    (done : first.map change = .ok result) : ∃ value, first = .ok value ∧ change value = result := by
  cases first with
  | error failure => cases done
  | ok value => exact ⟨value, rfl, Except.ok.inj done⟩

theorem eq_ok_of_mapError_eq_ok {ε δ α : Type} {first : Except ε α} {change : ε → δ} {result : α}
    (done : first.mapError change = .ok result) : first = .ok result := by
  cases first with
  | error failure => cases done
  | ok value => exact congrArg Except.ok (Except.ok.inj done)

namespace Json

/-! ## Tables -/

theorem Decoder.nodup_keys_of_entries {α : Type} {decoder : Decoder α} {room : Room} {members : List (Key × Doc)}
    {before table : Table String α} (distinct : before.keys.Nodup)
    (read : entries decoder room before members = .ok table) : table.keys.Nodup := by
  induction members generalizing before with
  | nil =>
      cases read
      exact distinct
  | cons member rest ih =>
      obtain ⟨name, -, named⟩ := exists_of_bind_eq_ok read
      obtain ⟨value, -, others⟩ := exists_of_bind_eq_ok named
      exact ih (Table.nodup_keys_insert name value distinct) others

theorem Decoder.nodup_keys_of_table {α : Type} {decoder : Decoder α} {room : Room} {doc : Doc} {table : Table String α}
    (read : Decoder.table decoder room doc = .ok table) : table.keys.Nodup := by
  cases doc with
  | object members ending =>
      obtain ⟨inner, -, opened⟩ := exists_of_bind_eq_ok read
      obtain ⟨values, collected, rest⟩ := exists_of_bind_eq_ok opened
      obtain ⟨-, -, same⟩ := exists_of_bind_eq_ok rest
      cases same
      have none_yet : (Table.keys ([] : Table String α)).Nodup := List.nodup_nil
      exact nodup_keys_of_entries none_yet collected
  | _ => cases read

/-! ## Records -/

section Records

variable {σ α : Type} {slots : List (Slot σ)} {holds : σ → Prop}

/-- Reading a field keeps what holds of a draft. -/
def Slot.Keeps (holds : σ → Prop) (slot : Slot σ) : Prop :=
  ∀ draft room doc next, holds draft → slot.fill draft room doc = .ok next → holds next

theorem Slot.holds_of_fromMembers (keeps : ∀ slot ∈ slots, slot.Keeps holds) {room : Room}
    {members : List (Key × Doc)} {draft result : σ} (start : holds draft)
    (read : Slot.fromMembers slots room draft members = .ok result) : holds result := by
  induction members generalizing draft with
  | nil =>
      cases read
      exact start
  | cons member rest ih =>
      obtain ⟨name, -, named⟩ := exists_of_bind_eq_ok read
      cases found : slots.find? (·.name == name) with
      | none =>
          rw [found] at named
          obtain ⟨-, -, others⟩ := exists_of_bind_eq_ok named
          exact ih start others
      | some slot =>
          rw [found] at named
          dsimp only at named
          split at named
          · cases named
          · obtain ⟨next, filled, others⟩ := exists_of_bind_eq_ok named
            exact ih (keeps slot (List.mem_of_find?_eq_some found) _ _ _ _ start filled) others

theorem Slot.holds_of_fromItems (keeps : ∀ slot ∈ slots, slot.Keeps holds) {room : Room} {ending : Option Break}
    {items : List Doc} {draft result : σ} (start : holds draft)
    (read : Slot.fromItems room ending slots draft items = .ok result) : holds result := by
  induction slots generalizing draft items with
  | nil =>
      cases items with
      | nil =>
          obtain ⟨-, -, same⟩ := exists_of_bind_eq_ok read
          cases same
          exact start
      | cons item rest => cases read
  | cons slot others ih =>
      obtain ⟨keepsFirst, keepsOthers⟩ := List.forall_mem_cons.mp keeps
      cases items with
      | nil =>
          obtain ⟨-, -, left⟩ := exists_of_bind_eq_ok read
          split at left
          · exact ih keepsOthers start left
          · cases left
      | cons item rest =>
          obtain ⟨next, filled, left⟩ := exists_of_bind_eq_ok read
          exact ih keepsOthers (keepsFirst _ _ _ _ start filled) left

/-- **What the reading of each field keeps holds of the draft of a record.** -/
theorem Decoder.holds_of_record (keeps : ∀ slot ∈ slots, slot.Keeps holds) {empty : σ} (start : holds empty)
    {complete : σ → Option α} {room : Room} {doc : Doc} {value : α}
    (read : Decoder.record slots empty complete room doc = .ok value) :
    ∃ draft, holds draft ∧ complete draft = some value := by
  unfold Decoder.record at read
  cases doc with
  | object members ending =>
      obtain ⟨inner, -, opened⟩ := exists_of_bind_eq_ok read
      obtain ⟨draft, filled, rest⟩ := exists_of_bind_eq_ok opened
      obtain ⟨-, -, completed⟩ := exists_of_bind_eq_ok rest
      refine ⟨draft, Slot.holds_of_fromMembers keeps start filled, ?_⟩
      cases found : complete draft with
      | none => simp [found] at completed
      | some other => simpa [found] using completed
  | array items ending =>
      obtain ⟨inner, -, opened⟩ := exists_of_bind_eq_ok read
      obtain ⟨draft, filled, completed⟩ := exists_of_bind_eq_ok opened
      refine ⟨draft, Slot.holds_of_fromItems keeps start filled, ?_⟩
      cases found : complete draft with
      | none => simp [found] at completed
      | some other => simpa [found] using completed
  | _ => cases read

end Records

end Json

end SolidityNav
