/-
# Proofs.Compiler.Sources -- the sources of a compilation by path and by number

Only the sources with an AST count for navigation; they are the units of an answer.  A unit is found under its key, since
an answer that was read has each key once (`nodup_keys_of_ofJson`), and its path is found under its number.  The list of
paths can be made unless a number is too large (`isSome_sourceList?`).  It holds at each place the last unit with this number
(`join_of_sourceList?`), and ends with the greatest of them (`length_of_sourceList?`).  When no two units share a number it
leads back from numbers to paths (`join_eq_some_iff_of_sourceList?`), whatever the order of the sources
(`sourceList?_of_perm`).
-/
import Mathlib.Data.List.Nodup
import Mathlib.Data.Nat.Basic
import Mathlib.Order.Basic
import SolidityNav.Compiler.Output
import SolidityNav.Proofs.Ast.Structure
import SolidityNav.Proofs.Json.Decode
import SolidityNav.Proofs.Path

namespace SolidityNav.Compiler

set_option autoImplicit false

open SolidityNav.Ast (RawNode)

/-! ## Units -/

/-- A source of a compilation that has an AST. -/
structure SourceUnit where
  key : String
  number : Int64
  ast : Json

def SourceUnit.path (unit : SourceUnit) : Path :=
  .ofText unit.key

/-- The structural nodes of a unit; none when the AST is no node. -/
def SourceUnit.nodes (unit : SourceUnit) : List RawNode :=
  ((RawNode.ofJson? unit.ast).map RawNode.postorder).getD []

theorem SourceUnit.nodes_of_ofJson? {unit : SourceUnit} {root : RawNode} (read : RawNode.ofJson? unit.ast = some root) :
    unit.nodes = root.postorder := by
  rw [nodes, read]
  rfl

namespace Output

def units (output : Output) : List SourceUnit :=
  output.sources.filterMap fun (key, source) => source.ast.map fun ast => ⟨key, source.id, ast⟩

theorem mem_units {output : Output} {unit : SourceUnit} :
    unit ∈ output.units ↔ (unit.key, (⟨unit.number, some unit.ast⟩ : Source)) ∈ output.sources := by
  rw [units, List.mem_filterMap]
  constructor
  · rintro ⟨⟨key, number, ast?⟩, member, selected⟩
    obtain ⟨ast, rfl, rfl⟩ := Option.map_eq_some_iff.mp selected
    exact member
  · intro member
    exact ⟨_, member, rfl⟩

theorem source?_ofText (output : Output) (key : String) :
    output.source? (.ofText key) = Table.find? key output.sources := by
  rw [source?, Path.text_ofText]

/-- The source of a path is a unit when it has an AST. -/
theorem mem_units_of_source? {output : Output} {path : Path} {number : Int64} {ast : Json}
    (found : output.source? path = some ⟨number, some ast⟩) : ⟨path.text, number, ast⟩ ∈ output.units :=
  mem_units.mpr (Table.mem_of_find? found)

/-- With each key once, a unit is what its key names. -/
theorem find?_of_mem_units {output : Output} (distinct : output.sources.keys.Nodup) {unit : SourceUnit}
    (member : unit ∈ output.units) : Table.find? unit.key output.sources = some ⟨unit.number, some unit.ast⟩ :=
  (Table.find?_eq_some_iff distinct).mpr (mem_units.mp member)

theorem unit_eq_of_key_eq {output : Output} (distinct : output.sources.keys.Nodup) {a b : SourceUnit}
    (inFirst : a ∈ output.units) (inSecond : b ∈ output.units) (same : a.key = b.key) : a = b := by
  have first := find?_of_mem_units distinct inFirst
  have second := find?_of_mem_units distinct inSecond
  rw [same, second] at first
  obtain ⟨key, number, ast⟩ := a
  obtain ⟨other, _, _⟩ := b
  cases first
  cases same
  rfl

/-! ## Answers that were read -/

def Draft.Distinct (draft : Draft) : Prop :=
  ∀ sources, draft.sources = some sources → sources.keys.Nodup

/-- **An answer that was read has each path once.** -/
theorem nodup_keys_of_ofJson {value : Json} {output : Output} (read : ofJson value = .ok output) :
    output.sources.keys.Nodup := by
  have decoded : decoder none (Json.Doc.ofJson value) = .ok output :=
    eq_ok_of_mapError_eq_ok (eq_ok_of_mapError_eq_ok read)
  have start : Draft.Distinct {} := nofun
  -- Only the field for the sources is of interest, and what is read for it is a table.
  have keepsSources : Json.Slot.Keeps Draft.Distinct
      (.of "sources" Draft.sources (fun draft sources => { draft with sources := some sources })
        (Json.Decoder.table Source.decoder) true) := by
    intro draft room doc next _ filled
    obtain ⟨sources, table, rfl⟩ := exists_of_map_eq_ok filled
    rintro _ ⟨⟩
    exact Json.Decoder.nodup_keys_of_table table
  have keepsDiagnostics : Json.Slot.Keeps Draft.Distinct
      (.of "errors" Draft.diagnostics (fun draft diagnostics => { draft with diagnostics := some diagnostics })
        (Json.Decoder.list Diagnostic.decoder) true) := by
    intro draft room doc next before filled
    obtain ⟨diagnostics, -, rfl⟩ := exists_of_map_eq_ok filled
    exact before
  obtain ⟨draft, kept, completed⟩ := Json.Decoder.holds_of_record (by simp [keepsSources, keepsDiagnostics]) start decoded
  cases completed
  cases given : draft.sources with
  | none => exact List.nodup_nil
  | some sources => exact kept sources given

/-! ## Entering a unit -/

/-- The list of paths with a unit put in its place, if it has one. -/
def enter? (list : List (Option Path)) (unit : SourceUnit) : Option (List (Option Path)) :=
  if 0 ≤ unit.number then place? list unit.number.toInt.toNat unit.path else some list

theorem sourceList?_eq_foldlM_enter? (output : Output) : output.sourceList? = output.units.foldlM enter? [] := by
  rw [sourceList?, units, List.foldlM_filterMap]
  congr 1
  funext list entry
  obtain ⟨key, number, ast?⟩ := entry
  cases ast? <;> simp [enter?, SourceUnit.path]

theorem eq_of_place? {list next : List (Option Path)} {i : Nat} {path : Path} (placed : place? list i path = some next) :
    (list ++ List.replicate (i + 1 - list.length) none).set i (some path) = next :=
  Option.some.inj (Option.ite_none_right_eq_some.mp placed).2

theorem join_of_place? {list next : List (Option Path)} {i : Nat} {path : Path} (placed : place? list i path = some next)
    (j : Nat) : next[j]?.join = if i = j then some path else list[j]?.join := by
  rw [← eq_of_place? placed, List.getElem?_set]
  by_cases here : i = j
  · subst here
    have inside : i < (list ++ List.replicate (i + 1 - list.length) none).length := by
      rw [List.length_append, List.length_replicate]
      omega
    rw [if_pos rfl, if_pos rfl, if_pos inside]
    rfl
  · rw [if_neg here, if_neg here, List.getElem?_append]
    split
    · rfl
    · rename_i outside
      rw [List.getElem?_eq_none (by omega : list.length ≤ j), List.getElem?_replicate]
      split <;> rfl

theorem length_of_place? {list next : List (Option Path)} {i : Nat} {path : Path} (placed : place? list i path = some next) :
    next.length = max list.length (i + 1) := by
  simp only [← eq_of_place? placed, List.length_set, List.length_append, List.length_replicate]
  omega

theorem join_of_enter? {list next : List (Option Path)} {unit : SourceUnit} (entered : enter? list unit = some next)
    (i : Nat) :
    next[i]?.join = if 0 ≤ unit.number && unit.number.toInt.toNat == i then some unit.path else list[i]?.join := by
  rw [enter?] at entered
  split at entered
  · rename_i counted
    simp [join_of_place? entered, counted]
  · rename_i uncounted
    cases entered
    simp [uncounted]

theorem lt_length_of_enter? {list next : List (Option Path)} {unit : SourceUnit} (entered : enter? list unit = some next)
    (i : Nat) : i < next.length ↔ i < list.length ∨ 0 ≤ unit.number ∧ i ≤ unit.number.toInt.toNat := by
  rw [enter?] at entered
  split at entered
  · rename_i counted
    simp only [length_of_place? entered, counted, true_and]
    omega
  · rename_i uncounted
    cases entered
    simp [uncounted]

theorem isSome_enter? (list : List (Option Path)) (unit : SourceUnit) :
    (enter? list unit).isSome = true ↔ (0 ≤ unit.number → unit.number.toInt.toNat < longestList) := by
  rw [enter?]
  split
  · rename_i counted
    rw [place?]
    split <;> simp_all
  · rename_i uncounted
    simp [uncounted]

/-! ## Entering all units -/

def unitsAt (units : List SourceUnit) (i : Nat) : List SourceUnit :=
  units.filter fun unit => 0 ≤ unit.number && unit.number.toInt.toNat == i

theorem join_of_foldlM_enter? {units : List SourceUnit} {list filled : List (Option Path)}
    (done : units.foldlM enter? list = some filled) (i : Nat) :
    filled[i]?.join = ((unitsAt units i).getLast?.map SourceUnit.path).or list[i]?.join := by
  induction units generalizing list with
  | nil =>
      cases done
      rfl
  | cons unit rest ih =>
      obtain ⟨next, entered, further⟩ := Option.bind_eq_some_iff.mp done
      rw [ih further, join_of_enter? entered, unitsAt, unitsAt, List.filter_cons]
      split
      · rw [List.getLast?_cons]
        cases (List.filter _ rest).getLast? <;> rfl
      · rfl

theorem lt_length_of_foldlM_enter? {units : List SourceUnit} {list filled : List (Option Path)}
    (done : units.foldlM enter? list = some filled) (i : Nat) :
    i < filled.length ↔ i < list.length ∨ ∃ unit ∈ units, 0 ≤ unit.number ∧ i ≤ unit.number.toInt.toNat := by
  induction units generalizing list with
  | nil =>
      cases done
      simp
  | cons unit rest ih =>
      obtain ⟨next, entered, further⟩ := Option.bind_eq_some_iff.mp done
      rw [ih further, lt_length_of_enter? entered, List.exists_mem_cons_iff, or_assoc]

theorem isSome_foldlM_enter? (units : List SourceUnit) (list : List (Option Path)) :
    (units.foldlM enter? list).isSome = true ↔
      ∀ unit ∈ units, 0 ≤ unit.number → unit.number.toInt.toNat < longestList := by
  induction units generalizing list with
  | nil => simp
  | cons unit rest ih =>
      rw [List.foldlM_cons, List.forall_mem_cons, ← isSome_enter? list]
      cases enter? list unit with
      | none => exact iff_of_false nofun fun fits => Bool.false_ne_true fits.1
      | some next => exact (ih next).trans (and_iff_right rfl).symm

/-! ## Numbers -/

def counted (output : Output) : List SourceUnit :=
  output.units.filter fun unit => 0 ≤ unit.number

/-- The numbers that are places of the list. -/
def numbers (output : Output) : List Nat :=
  output.counted.map fun unit => unit.number.toInt.toNat

theorem mem_counted {output : Output} {unit : SourceUnit} :
    unit ∈ output.counted ↔ unit ∈ output.units ∧ 0 ≤ unit.number := by
  simp [counted]

theorem mem_unitsAt {output : Output} {unit : SourceUnit} {i : Nat} :
    unit ∈ unitsAt output.units i ↔ unit ∈ output.counted ∧ unit.number.toInt.toNat = i := by
  simp [unitsAt, counted, and_assoc]

/-- The list of paths can be made long enough for every number. -/
def Listable (output : Output) : Prop :=
  ∀ n ∈ output.numbers, n < longestList

instance (output : Output) : Decidable output.Listable :=
  inferInstanceAs (Decidable (∀ n ∈ output.numbers, n < longestList))

/-- **There is a list of paths unless a number is too large for it.** -/
theorem isSome_sourceList? {output : Output} : output.sourceList?.isSome = true ↔ output.Listable := by
  simp only [sourceList?_eq_foldlM_enter?, isSome_foldlM_enter?, Listable, numbers, List.forall_mem_map, mem_counted,
    and_imp]

theorem sourceList?_eq_none_iff {output : Output} : output.sourceList? = none ↔ ¬ output.Listable := by
  rw [← isSome_sourceList?, Option.not_isSome_iff_eq_none]

theorem Listable.exists_sourceList? {output : Output} (listable : output.Listable) :
    ∃ list, output.sourceList? = some list :=
  Option.isSome_iff_exists.mp (isSome_sourceList?.mpr listable)

theorem nodup_numbers {output : Output} (distinct : (output.units.map SourceUnit.number).Nodup) :
    output.numbers.Nodup := by
  have distinctUnits : output.counted.Nodup := (List.Nodup.of_map _ distinct).filter _
  refine List.Nodup.map_on ?_ distinctUnits
  intro unit inCounted other inCounted' samePlace
  obtain ⟨member, counted⟩ := mem_counted.mp inCounted
  obtain ⟨member', counted'⟩ := mem_counted.mp inCounted'
  have sameNumber : unit.number = other.number := by
    rw [Int64.le_iff_toInt_le, Int64.toInt_zero] at counted counted'
    apply Int64.toInt_inj.mp
    omega
  exact List.inj_on_of_nodup_map distinct member member' sameNumber

/-! ## The list of paths -/

section SourceList

variable {output : Output} {list : List (Option Path)} (listed : output.sourceList? = some list)
include listed

/-- **The list of paths holds the last unit with each number.** -/
theorem join_of_sourceList? (i : Nat) : list[i]?.join = (unitsAt output.units i).getLast?.map SourceUnit.path := by
  rw [sourceList?_eq_foldlM_enter?] at listed
  rw [join_of_foldlM_enter? listed]
  simp

/-- The list reaches up to every number and no further. -/
theorem lt_length_of_sourceList? {i : Nat} : i < list.length ↔ ∃ n ∈ output.numbers, i ≤ n := by
  rw [sourceList?_eq_foldlM_enter?] at listed
  rw [lt_length_of_foldlM_enter? listed]
  simp [numbers, mem_counted, and_assoc]

/-- **The list ends with the greatest number**, and is empty without one. -/
theorem length_of_sourceList? : list.length = (output.numbers.max?.map (· + 1)).getD 0 := by
  cases greatest : output.numbers.max? with
  | none =>
      have reach (i : Nat) : ¬ i < list.length := by
        simp [lt_length_of_sourceList? listed, List.max?_eq_none_iff.mp greatest]
      exact Nat.eq_zero_of_not_pos (reach 0)
  | some last =>
      obtain ⟨member, bound⟩ := List.max?_eq_some_iff.mp greatest
      have inside : last < list.length := (lt_length_of_sourceList? listed).mpr ⟨last, member, Nat.le_refl last⟩
      have outside : ¬ last + 1 < list.length := by
        intro further
        obtain ⟨n, among, above⟩ := (lt_length_of_sourceList? listed).mp further
        have := bound n among
        omega
      show list.length = last + 1
      omega

/-- Up to its end the list holds the last unit with each number, and nothing where no unit has the number. -/
theorem getElem?_of_sourceList? {i : Nat} (inside : i < list.length) :
    list[i]? = some ((unitsAt output.units i).getLast?.map SourceUnit.path) := by
  rw [← join_of_sourceList? listed, List.getElem?_eq_getElem inside]
  rfl

/-- A path in the list is that of a unit with the number of its place. -/
theorem exists_counted_of_join {i : Nat} {path : Path} (held : list[i]?.join = some path) :
    ∃ unit ∈ output.counted, unit.path = path ∧ unit.number.toInt.toNat = i := by
  rw [join_of_sourceList? listed] at held
  obtain ⟨unit, last, rfl⟩ := Option.map_eq_some_iff.mp held
  obtain ⟨member, here⟩ := mem_unitsAt.mp (List.mem_of_getLast? last)
  exact ⟨unit, member, rfl, here⟩

/-- **With each number once, the list of paths leads from the number of a unit to its path**, and from nothing else. -/
theorem join_eq_some_iff_of_sourceList? (distinct : output.numbers.Nodup) {i : Nat} {path : Path} :
    list[i]?.join = some path ↔ ∃ unit ∈ output.counted, unit.path = path ∧ unit.number.toInt.toNat = i := by
  refine ⟨exists_counted_of_join listed, ?_⟩
  rintro ⟨unit, member, rfl, rfl⟩
  rw [join_of_sourceList? listed]
  have among := mem_unitsAt.mpr ⟨member, rfl⟩
  cases last : (unitsAt output.units unit.number.toInt.toNat).getLast? with
  | none =>
      rw [List.getLast?_eq_none_iff.mp last] at among
      cases among
  | some other =>
      obtain ⟨inCounted, samePlace⟩ := mem_unitsAt.mp (List.mem_of_getLast? last)
      rw [List.inj_on_of_nodup_map distinct inCounted member samePlace]
      rfl

theorem join_of_mem_units (distinct : output.numbers.Nodup) {unit : SourceUnit} (member : unit ∈ output.units)
    (counted : 0 ≤ unit.number) : list[unit.number.toInt.toNat]?.join = some unit.path :=
  (join_eq_some_iff_of_sourceList? listed distinct).mpr ⟨unit, mem_counted.mpr ⟨member, counted⟩, rfl, rfl⟩

/-- With each number once, the order of the sources does not matter. -/
theorem sourceList?_of_perm {other : Output} (distinct : output.numbers.Nodup)
    (moved : other.sources.Perm output.sources) : other.sourceList? = some list := by
  have same : other.counted.Perm output.counted := (moved.filterMap _).filter _
  have distinctOther : other.numbers.Nodup := (same.map _).nodup_iff.mpr distinct
  have listable : other.Listable := by
    intro n member
    have bounded : output.Listable := isSome_sourceList?.mp (by rw [listed]; rfl)
    exact bounded n ((same.map _).mem_iff.mp member)
  obtain ⟨moved, listedOther⟩ := listable.exists_sourceList?
  have ends : moved.length = list.length := by
    apply eq_of_forall_lt_iff
    intro i
    simp only [lt_length_of_sourceList? listed, lt_length_of_sourceList? listedOther, numbers, (same.map _).mem_iff]
  have paths (i : Nat) : moved[i]?.join = list[i]?.join := by
    apply Option.ext
    intro path
    simp only [join_eq_some_iff_of_sourceList? listed distinct,
      join_eq_some_iff_of_sourceList? listedOther distinctOther, same.mem_iff]
  rw [listedOther, Option.some.injEq]
  apply List.ext_getElem ends
  intro i inside inside'
  simpa [inside, inside'] using paths i

end SourceList

end Output

end SolidityNav.Compiler
