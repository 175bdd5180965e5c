/-
# Proofs.Table -- reading a table after it was written

A table is read by key.  After an insertion the key reads the new value and every other key what it read before
(`find?_insert`), and all other entries stay where they are (`insert_append_cons`, `insert_of_not_mem`); entries that are
left out by their keys are read as if the others were alone (`find?_filter`).  A table that was filled by insertions has
each key once (`nodup_keys_insert`).  After many insertions a key reads the last value that was inserted under it
(`find?_insertAll`), and the keys stand in the order of their first insertion (`keys_insertAll`); `Collects` says both of
a table.  Values may also grow with every update (`find?_foldl_gather`, `keys_foldl_update`), and names are added once each
(`Names.addAll_eq`).
-/
import SolidityNav.Table

namespace SolidityNav

set_option autoImplicit false

namespace Table

variable {κ α : Type} [DecidableEq κ]

theorem find?_insert (key other : κ) (value : α) (table : Table κ α) :
    find? other (insert key value table) = if key = other then some value else find? other table := by
  induction table with
  | nil => rfl
  | cons entry rest ih =>
      obtain ⟨first, old⟩ := entry
      rw [insert]
      by_cases here : first = key
      · subst here
        rw [if_pos rfl, find?, find?]
        split <;> rfl
      · rw [if_neg here, find?, find?, ih]
        by_cases asked : first = other
        · have apart : key ≠ other := fun same => here (asked.trans same.symm)
          rw [if_pos asked, if_pos asked, if_neg apart]
        · rw [if_neg asked, if_neg asked]

theorem find?_update (key other : κ) (change : Option α → α) (table : Table κ α) :
    find? other (update key change table) =
      if key = other then some (change (find? key table)) else find? other table :=
  find?_insert key other _ table

theorem find?_filter (keep : κ → Bool) (key : κ) (table : Table κ α) :
    find? key (table.filter fun entry => keep entry.1) = if keep key then find? key table else none := by
  induction table with
  | nil => simp [find?]
  | cons entry rest ih =>
      obtain ⟨first, value⟩ := entry
      rw [List.filter_cons, find?]
      by_cases asked : first = key
      · subst asked
        cases kept : keep first <;> simp [find?, ih, kept]
      · cases kept : keep first <;> simp [find?, ih, asked]

theorem keys_insert (key : κ) (value : α) (table : Table κ α) :
    (insert key value table).keys = if key ∈ table.keys then table.keys else table.keys ++ [key] := by
  induction table with
  | nil => rfl
  | cons entry rest ih =>
      obtain ⟨first, old⟩ := entry
      simp only [keys, List.map_cons, List.mem_cons] at ih ⊢
      by_cases here : first = key
      · simp [insert, here]
      · rw [insert, if_neg here, List.map_cons, ih]
        by_cases later : key ∈ List.map Prod.fst rest
        · simp [later]
        · simp [later, Ne.symm here]

theorem nodup_keys_insert (key : κ) (value : α) {table : Table κ α} (distinct : table.keys.Nodup) :
    (insert key value table).keys.Nodup := by
  rw [keys_insert]
  split
  · exact distinct
  · rename_i fresh
    have apart : ∀ other ∈ table.keys, ∀ last ∈ [key], other ≠ last := by
      intro other member last isKey same
      exact fresh (List.mem_singleton.mp isKey ▸ same ▸ member)
    exact List.nodup_append.mpr ⟨distinct, by simp, apart⟩

/-- A value is stored in place of the first one with its key. -/
theorem insert_append_cons {key : κ} {value old : α} {before after : Table κ α} (first : key ∉ keys before) :
    insert key value (before ++ (key, old) :: after) = before ++ (key, value) :: after := by
  induction before with
  | nil => simp [insert]
  | cons entry rest ih =>
      rw [keys, List.map_cons, List.mem_cons, not_or] at first
      rw [List.cons_append, insert, if_neg (Ne.symm first.1), ih first.2]
      rfl

/-- A value with a new key is stored at the end. -/
theorem insert_of_not_mem {key : κ} {value : α} {table : Table κ α} (absent : key ∉ table.keys) :
    insert key value table = table ++ [(key, value)] := by
  induction table with
  | nil => rfl
  | cons entry rest ih =>
      rw [keys, List.map_cons, List.mem_cons, not_or] at absent
      rw [insert, if_neg (Ne.symm absent.1), ih absent.2]
      rfl

omit [DecidableEq κ] in
theorem exists_append_cons_of_mem {key : κ} {table : Table κ α} (present : key ∈ table.keys) :
    ∃ before old after, table = before ++ (key, old) :: after ∧ key ∉ keys before := by
  obtain ⟨front, back, split, fresh⟩ := List.eq_append_cons_of_mem present
  obtain ⟨before, rest, rfl, rfl, held⟩ := List.map_eq_append_iff.mp split
  obtain ⟨entry, after, rfl, rfl, -⟩ := List.map_eq_cons_iff.mp held
  exact ⟨before, entry.2, after, rfl, fresh⟩

/-- What is read is an entry. -/
theorem mem_of_find? {key : κ} {value : α} {table : Table κ α} (found : find? key table = some value) :
    (key, value) ∈ table := by
  induction table with
  | nil => cases found
  | cons entry rest ih =>
      obtain ⟨first, held⟩ := entry
      rw [find?] at found
      split at found
      · rename_i here
        cases found
        rw [here]
        exact List.mem_cons_self
      · exact List.mem_cons_of_mem _ (ih found)

/-- Nothing is read under a key that has no entry, and only there. -/
theorem find?_eq_none_iff {key : κ} {table : Table κ α} : find? key table = none ↔ key ∉ table.keys := by
  induction table with
  | nil => simp [find?, keys]
  | cons entry rest ih =>
      obtain ⟨first, held⟩ := entry
      rw [find?, keys, List.map_cons, List.mem_cons, not_or]
      by_cases here : first = key
      · simp [here]
      · rw [if_neg here, ih, keys]
        simp [Ne.symm here]

/-- With each key once, an entry is read under its key. -/
theorem find?_eq_some_iff {table : Table κ α} (distinct : table.keys.Nodup) {key : κ} {value : α} :
    find? key table = some value ↔ (key, value) ∈ table := by
  induction table with
  | nil => simp [find?]
  | cons entry rest ih =>
      obtain ⟨first, held⟩ := entry
      obtain ⟨fresh, distinctRest⟩ := List.nodup_cons.mp distinct
      rw [find?, List.mem_cons]
      by_cases here : first = key
      · subst here
        have elsewhere : (first, value) ∉ rest := fun member => fresh (List.mem_map.mpr ⟨_, member, rfl⟩)
        simp [elsewhere, eq_comm]
      · have other : (key, value) ≠ (first, held) := fun same => here (congrArg Prod.fst same).symm
        simp [here, other, ih distinctRest]

/-! ## Many insertions -/

theorem insertAll_cons (table : Table κ α) (first : κ × α) (rest : List (κ × α)) :
    table.insertAll (first :: rest) = insertAll (insert first.1 first.2 table) rest :=
  rfl

/-- **The last entry with a key is read**, and without one what the table had before. -/
theorem find?_insertAll (table : Table κ α) (entries : List (κ × α)) (key : κ) :
    find? key (table.insertAll entries) =
      ((entries.filter (·.1 = key)).getLast?.map Prod.snd).or (find? key table) := by
  induction entries generalizing table with
  | nil => rfl
  | cons first rest ih =>
      rw [insertAll_cons, ih, find?_insert, List.filter_cons]
      by_cases here : first.1 = key
      · simp only [here, if_true, decide_true, List.getLast?_cons, Option.map_some]
        cases (rest.filter (·.1 = key)).getLast? <;> rfl
      · simp [here]

/-- No entry has a key that is none of theirs. -/
theorem filter_eq_nil_iff {β : Type} {entries : List (κ × β)} {key : κ} :
    entries.filter (·.1 = key) = [] ↔ key ∉ entries.map Prod.fst := by
  rw [List.filter_eq_nil_iff, List.mem_map, not_exists]
  exact forall_congr' fun entry => by simp

/-- **A value that grows is made up of what was added under its key**, in that order. -/
theorem find?_foldl_gather {β : Type} (add : α → β → α) (empty : α) (entries : List (κ × β)) (table : Table κ α)
    (key : κ) :
    find? key (entries.foldl
        (fun built entry => update entry.1 (fun held => add (held.getD empty) entry.2) built) table) =
      if key ∈ entries.map Prod.fst then
        some (((entries.filter (·.1 = key)).map Prod.snd).foldl add ((find? key table).getD empty))
      else find? key table := by
  induction entries generalizing table with
  | nil => rfl
  | cons first rest ih =>
      rw [List.foldl_cons, ih, find?_update]
      by_cases here : first.1 = key
      · by_cases later : key ∈ rest.map Prod.fst
        · simp [here, later]
        -- This is the last update under the key, so what it makes of the old value is all there is.
        · simp [here, later, filter_eq_nil_iff.mpr later]
      · simp only [List.map_cons, List.mem_cons, Ne.symm here, here, false_or, if_false, List.filter_cons, decide_false,
          Bool.false_eq_true]

/-- What is added once each, in the order of its first occurrence. -/
theorem foldl_addNew (known more : List κ) :
    more.foldl (fun known key => if key ∈ known then known else known ++ [key]) known =
      known ++ (more.removeAll known).eraseDups := by
  induction more generalizing known with
  | nil => simp
  | cons key rest ih =>
      rw [List.foldl_cons, ih]
      by_cases old : key ∈ known
      · simp [List.removeAll, old]
      · simp [List.removeAll, old, List.eraseDups_cons, List.filter_filter, Bool.and_comm]
        rfl

theorem eraseDups_of_nodup {keys : List κ} (distinct : keys.Nodup) : keys.eraseDups = keys := by
  induction keys with
  | nil => rfl
  | cons key rest ih =>
      obtain ⟨fresh, distinctRest⟩ := List.nodup_cons.mp distinct
      have kept : rest.filter (fun other => !other == key) = rest := by
        rw [List.filter_eq_self]
        intro other member
        have apart : other ≠ key := fun same => fresh (same ▸ member)
        simpa using apart
      rw [List.eraseDups_cons, kept, ih distinctRest]

/-- **New keys follow in the order of their first update.** -/
theorem keys_foldl_update {β : Type} (change : β → Option α → α) (entries : List (κ × β)) (table : Table κ α) :
    (entries.foldl (fun built entry => update entry.1 (change entry.2) built) table).keys =
      table.keys ++ ((entries.map Prod.fst).removeAll table.keys).eraseDups := by
  rw [← foldl_addNew]
  induction entries generalizing table with
  | nil => rfl
  | cons first rest ih =>
      rw [List.foldl_cons, ih, update, keys_insert, List.map_cons, List.foldl_cons]

theorem nodup_keys_foldl_update {β : Type} (change : β → Option α → α) (entries : List (κ × β)) (table : Table κ α)
    (distinct : table.keys.Nodup) :
    (entries.foldl (fun built entry => update entry.1 (change entry.2) built) table).keys.Nodup := by
  induction entries generalizing table with
  | nil => exact distinct
  | cons first rest ih => exact ih _ (nodup_keys_insert first.1 _ distinct)

/-- **New keys follow in the order of their first insertion.** -/
theorem keys_insertAll (table : Table κ α) (entries : List (κ × α)) :
    (table.insertAll entries).keys = table.keys ++ ((entries.map Prod.fst).removeAll table.keys).eraseDups :=
  keys_foldl_update (fun value _ => value) entries table

theorem insertAll_append (table : Table κ α) (front back : List (κ × α)) :
    table.insertAll (front ++ back) = (table.insertAll front).insertAll back :=
  List.foldl_append

/-- The table holds the last value of each key of the entries, the keys by their first occurrence. -/
structure Collects (entries : List (κ × α)) (table : Table κ α) : Prop where
  last : ∀ key, find? key table = (entries.filter (·.1 = key)).getLast?.map Prod.snd
  first : table.keys = (entries.map Prod.fst).eraseDups

theorem collects_insertAll (entries : List (κ × α)) : Collects entries (insertAll [] entries) where
  last key := by
    rw [find?_insertAll]
    exact Option.or_none
  first := by
    rw [keys_insertAll]
    simp [keys]

end Table

/-! ## Names -/

namespace Names

def addAll (names : Names) (more : List String) : Names :=
  more.foldl add names

theorem addAll_eq (names : Names) (more : List String) : names.addAll more = names ++ (more.removeAll names).eraseDups :=
  Table.foldl_addNew names more

theorem addAll_nil (more : List String) : addAll [] more = more.eraseDups := by
  rw [addAll_eq]
  simp

theorem addAll_append (names : Names) (front back : List String) :
    names.addAll (front ++ back) = (names.addAll front).addAll back :=
  List.foldl_append

end Names

end SolidityNav
