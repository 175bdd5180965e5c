/-
# Proofs.Compiler.Version -- the texts that report a version

Compilers write their version in many ways: with blanks around it, with `v` in front, with build metadata behind, with
zeros in front of the numbers, with more than three numbers.  `Reports` is the whole grammar.  The text without its blanks
is marks, a core and metadata (`HasCore`), and the core starts with three numbers that have points between them.  Exactly
these texts are read, each as the three numbers in it (`parse?_eq_some_iff`).

Versions are compared number by number (`le_iff`), as triples of naturals are in their lexicographic order and not as
texts are, so that a text that reports a newer version passes every bound that an older one passes.
-/
import Mathlib.Data.Nat.Basic
import Mathlib.Data.Prod.Lex
import SolidityNav.Compiler.Version
import SolidityNav.Proofs.Text
import SolidityNav.Proofs.Text.Numeral

namespace SolidityNav.Compiler.Version

set_option autoImplicit false

/-! ## Numbers -/

/-- A number of a version: one or more digits whose value is below 2^64. -/
def Number (digits : List Char) (n : Nat) : Prop :=
  Text.Digits digits ∧ Text.placeValue digits = n ∧ n < UInt64.size

theorem number?_eq_some_iff {text : List Char} {n : Nat} : number? text = some n ↔ Number text n := by
  simp only [number?, Option.bind_eq_bind, Option.bind_eq_some_iff, Text.readNat?_eq_some_iff]
  constructor
  · rintro ⟨value, ⟨digits, rfl⟩, bounded⟩
    split at bounded
    · rename_i small
      cases bounded
      exact ⟨digits, rfl, small⟩
    · cases bounded
  · rintro ⟨digits, rfl, small⟩
    exact ⟨_, ⟨digits, rfl⟩, if_pos small⟩

theorem number_writeNat {n : Nat} (small : n < UInt64.size) : Number (Text.writeNat n) n :=
  ⟨Text.digits_writeNat n, Text.placeValue_writeNat n, small⟩

theorem Number.not_mem {digits : List Char} {n : Nat} (number : Number digits n) {c : Char} (other : c.isDigit = false) :
    c ∉ digits := by
  intro member
  rw [number.1.decimal c member] at other
  cases other

/-! ## The core -/

/-- Build metadata: nothing, or a text that starts with a plus or a minus. -/
def Metadata (text : List Char) : Prop :=
  ∀ c ∈ text.head?, c = '+' ∨ c = '-'

/-- Without the blanks around it, the text is any number of `v`, the core, and build metadata.  The core has no sign in it,
and no further `v` follows the marks. -/
def HasCore (text core : List Char) : Prop :=
  ∃ marks metadata, Text.Trimmed text (marks ++ (core ++ metadata)) ∧ (∀ c ∈ marks, c = 'v') ∧
    (core ++ metadata).head? ≠ some 'v' ∧ '+' ∉ core ∧ '-' ∉ core ∧ Metadata metadata

theorem core_eq_iff {text body : List Char} : core text = body ↔ HasCore text body := by
  have unsigned : (∀ c ∈ body, (c != '+' && c != '-') = true) ↔ '+' ∉ body ∧ '-' ∉ body := by
    simp only [Bool.and_eq_true, bne_iff_ne]
    constructor
    · intro each
      exact ⟨fun plus => (each '+' plus).1 rfl, fun minus => (each '-' minus).2 rfl⟩
    · rintro ⟨plusless, minusless⟩ c member
      exact ⟨fun plus => plusless (plus ▸ member), fun minus => minusless (minus ▸ member)⟩
  have signed (metadata : List Char) :
      (∀ c ∈ metadata.head?, (c != '+' && c != '-') = false) ↔ Metadata metadata := by
    simp [Metadata, Decidable.or_iff_not_imp_left]
  have unmarked (bare : List Char) : (∀ c ∈ bare.head?, (c == 'v') = false) ↔ bare.head? ≠ some 'v' := by
    cases bare <;> simp
  simp only [core, Text.takeWhile_eq_iff, Text.dropWhile_eq_iff, Text.trim_eq_iff, unsigned, signed, unmarked, beq_iff_eq]
  constructor
  · rintro ⟨metadata, ⟨marks, trimmed, vs, stops⟩, ⟨plusless, minusless⟩, behind⟩
    exact ⟨marks, metadata, trimmed, vs, stops, plusless, minusless, behind⟩
  · rintro ⟨marks, metadata, trimmed, vs, stops, plusless, minusless, behind⟩
    exact ⟨metadata, ⟨marks, trimmed, vs, stops⟩, ⟨plusless, minusless⟩, behind⟩

/-! ## Three numbers -/

/-- The core starts with three parts; what follows them, if anything, is set off by another point. -/
def Parts (core major minor patch : List Char) : Prop :=
  ∃ more, core = major ++ '.' :: (minor ++ '.' :: (patch ++ more)) ∧ ∀ c ∈ more.head?, c = '.'

theorem exists_split_iff_parts {core major minor patch : List Char}
    (free : '.' ∉ major ∧ '.' ∉ minor ∧ '.' ∉ patch) :
    (∃ rest, Text.split '.' core = major :: minor :: patch :: rest) ↔ Parts core major minor patch := by
  simp only [Text.split_eq_cons_iff, free, not_false_eq_true, true_and, Parts]
  constructor
  · rintro ⟨rest, ⟨-, impossible⟩ | ⟨behindMajor, rfl, ⟨-, impossible⟩ | ⟨behindMinor, rfl, ending⟩⟩⟩
    · cases impossible
    · cases impossible
    · rcases ending with ⟨rfl, -⟩ | ⟨behindPatch, rfl, -⟩
      · exact ⟨[], by simp, by simp⟩
      · exact ⟨'.' :: behindPatch, rfl, by simp⟩
  · rintro ⟨more, rfl, pointed⟩
    cases more with
    | nil => exact ⟨[], Or.inr ⟨_, rfl, Or.inr ⟨_, rfl, Or.inl ⟨by simp, rfl⟩⟩⟩⟩
    | cons c tail =>
        obtain rfl : c = '.' := pointed c rfl
        exact ⟨_, Or.inr ⟨_, rfl, Or.inr ⟨_, rfl, Or.inr ⟨tail, rfl, rfl⟩⟩⟩⟩

/-- The text reports the version: its core starts with the three numbers. -/
def Reports (text : List Char) (version : Version) : Prop :=
  ∃ core major minor patch, HasCore text core ∧ Parts core major minor patch ∧
    Number major version.major ∧ Number minor version.minor ∧ Number patch version.patch

/-- **Exactly the texts that report a version are read**, each as this version. -/
theorem parse?_eq_some_iff {text : String} {version : Version} :
    parse? text = some version ↔ Reports text.toList version := by
  constructor
  · intro read
    unfold parse? at read
    split at read
    · rename_i major minor patch rest parted
      simp only [Option.bind_eq_bind, Option.bind_eq_some_iff, Option.pure_def, Option.some.injEq, number?_eq_some_iff]
        at read
      obtain ⟨_, majorRead, _, minorRead, _, patchRead, rfl⟩ := read
      have free : '.' ∉ major ∧ '.' ∉ minor ∧ '.' ∉ patch :=
        ⟨majorRead.not_mem rfl, minorRead.not_mem rfl, patchRead.not_mem rfl⟩
      exact ⟨core text.toList, major, minor, patch, core_eq_iff.mp rfl, (exists_split_iff_parts free).mp ⟨rest, parted⟩,
        majorRead, minorRead, patchRead⟩
    · cases read
  · rintro ⟨body, major, minor, patch, cored, parts, majorHeld, minorHeld, patchHeld⟩
    have free : '.' ∉ major ∧ '.' ∉ minor ∧ '.' ∉ patch :=
      ⟨majorHeld.not_mem rfl, minorHeld.not_mem rfl, patchHeld.not_mem rfl⟩
    obtain ⟨rest, parted⟩ := (exists_split_iff_parts free).mpr parts
    rw [parse?, core_eq_iff.mpr cored, parted]
    simp [number?_eq_some_iff.mpr majorHeld, number?_eq_some_iff.mpr minorHeld, number?_eq_some_iff.mpr patchHeld]

/-! ## Written versions -/

def digits (version : Version) : List Char :=
  Text.writeNat version.major ++ '.' :: (Text.writeNat version.minor ++ '.' :: Text.writeNat version.patch)

structure Fits (version : Version) : Prop where
  major : version.major < UInt64.size
  minor : version.minor < UInt64.size
  patch : version.patch < UInt64.size

theorem mem_digits {version : Version} {c : Char} (member : c ∈ version.digits) : c.isDigit = true ∨ c = '.' := by
  simp only [digits, List.mem_append, List.mem_cons] at member
  rcases member with inMajor | rfl | inMinor | rfl | inPatch
  · exact Or.inl ((Text.digits_writeNat _).decimal c inMajor)
  · exact Or.inr rfl
  · exact Or.inl ((Text.digits_writeNat _).decimal c inMinor)
  · exact Or.inr rfl
  · exact Or.inl ((Text.digits_writeNat _).decimal c inPatch)

theorem isBlank_of_mem_digits {version : Version} {c : Char} (member : c ∈ version.digits) : Text.isBlank c = false := by
  rcases mem_digits member with digit | rfl
  · exact Text.isBlank_of_isNumeric (by simp [Text.isNumeric, digit])
  · decide

theorem not_mem_digits {version : Version} {c : Char} (other : c.isDigit = false) (pointless : c ≠ '.') :
    c ∉ version.digits := by
  intro member
  rcases mem_digits member with digit | point
  · rw [other] at digit
    cases digit
  · exact pointless point

/-- Metadata without the blanks it ends with is metadata. -/
theorem Metadata.exists_kept {suffix : List Char} (behind : Metadata suffix) :
    ∃ kept after, suffix = kept ++ after ∧ Metadata kept ∧ (∀ c ∈ after, Text.isBlank c = true) ∧
      ∀ c ∈ kept.getLast?, Text.isBlank c = false := by
  obtain ⟨before, after, padded, blankBefore, blankAfter⟩ := Text.exists_trim suffix
  cases before with
  | nil =>
      refine ⟨Text.trim suffix, after, by simpa using padded, ?_, blankAfter, Text.getLast_trim suffix⟩
      intro c first
      apply behind
      rw [padded, List.nil_append, List.head?_append, Option.mem_def.mp first]
      rfl
  | cons c rest =>
      -- Metadata starts with a sign, which is no blank.
      have sign := behind c (by rw [padded]; rfl)
      have blank := blankBefore c List.mem_cons_self
      rcases sign with rfl | rfl <;> cases blank

theorem hasCore_digits (version : Version) {suffix : List Char} (behind : Metadata suffix) :
    HasCore (version.digits ++ suffix) version.digits := by
  obtain ⟨kept, after, rfl, keptBehind, blankAfter, last⟩ := behind.exists_kept
  have nonempty : version.digits ≠ [] := by simp [digits]
  have starts : (version.digits ++ kept).head? = version.digits.head? := List.head?_append_of_ne_nil _ nonempty
  refine ⟨[], kept, ⟨[], after, by simp, by simp, blankAfter, ?_, ?_⟩, by simp, ?_, not_mem_digits rfl (by decide),
    not_mem_digits rfl (by decide), keptBehind⟩
  · intro c first
    rw [List.nil_append, starts] at first
    exact isBlank_of_mem_digits (List.mem_of_mem_head? first)
  · intro c final
    rw [List.nil_append, List.getLast?_append, Option.mem_def, Option.or_eq_some_iff] at final
    rcases final with inKept | ⟨-, inDigits⟩
    · exact last c inKept
    · exact isBlank_of_mem_digits (List.mem_of_mem_getLast? inDigits)
  · rw [starts]
    intro marked
    exact not_mem_digits rfl (by decide) (List.mem_of_mem_head? marked)

/-- **A version is read back from its numbers in decimal**, whatever build metadata follows. -/
theorem parse?_digits {version : Version} (fits : version.Fits) {suffix : List Char} (behind : Metadata suffix) :
    parse? (String.ofList (version.digits ++ suffix)) = some version := by
  rw [parse?_eq_some_iff, String.toList_ofList]
  exact ⟨version.digits, _, _, _, hasCore_digits version behind, ⟨[], by simp [digits], by simp⟩,
    number_writeNat fits.major, number_writeNat fits.minor, number_writeNat fits.patch⟩

/-! ## Order -/

def key (version : Version) : Lex (Nat × Lex (Nat × Nat)) :=
  toLex (version.major, toLex (version.minor, version.patch))

theorem le_iff {a b : Version} : a.le b = true ↔ a.key ≤ b.key := by
  simp [le, key, Prod.Lex.toLex_le_toLex]

theorem isAtLeast_iff {text : String} {minimum : Version} :
    isAtLeast text minimum = true ↔ ∃ version, parse? text = some version ∧ minimum.key ≤ version.key := by
  rw [isAtLeast]
  cases parse? text with
  | none => simp
  | some version => simp [le_iff]

/-- **What a text reports.**  A version is read from exactly the texts that report it; so its numbers in decimal are read as
the version, also with build metadata behind them.  A text passes a bound when it reports a version that is not below it in
the order of the three numbers.  Then it passes every lower bound, and so does every text that reports a version not below
its own. -/
theorem parse?_iff_reports (text : String) :
    (∀ version, parse? text = some version ↔ Reports text.toList version) ∧
    (∀ version suffix, version.Fits → Metadata suffix →
      parse? (String.ofList (version.digits ++ suffix)) = some version) ∧
    (∀ minimum, isAtLeast text minimum = true ↔ ∃ version, parse? text = some version ∧ minimum.key ≤ version.key) ∧
    (∀ lower upper, lower.key ≤ upper.key → isAtLeast text upper = true → isAtLeast text lower = true) ∧
    ∀ other older newer minimum, parse? text = some older → parse? other = some newer → older.key ≤ newer.key →
      isAtLeast text minimum = true → isAtLeast other minimum = true := by
  refine ⟨fun version => parse?_eq_some_iff, fun version suffix fits behind => parse?_digits fits behind,
    fun minimum => isAtLeast_iff, ?_, ?_⟩
  · intro lower upper below passes
    obtain ⟨version, read, above⟩ := isAtLeast_iff.mp passes
    exact isAtLeast_iff.mpr ⟨version, read, below.trans above⟩
  · intro other older newer minimum readOlder readNewer below passes
    obtain ⟨version, read, above⟩ := isAtLeast_iff.mp passes
    obtain rfl : version = older := Option.some.inj (read.symm.trans readOlder)
    exact isAtLeast_iff.mpr ⟨newer, readNewer, above.trans below⟩

/-- Blanks, several marks, zeros in front, a fourth number and metadata with points in it are no hindrance; a number of
2^64 is one.  The bound 0.5.9 is below 0.5.10, though not as a text. -/
theorem parse?_iff_reports_nightly :
    Reports " vv0.08.26.1-nightly.2024.5.1\n".toList ⟨0, 8, 26⟩ ∧
    (∀ version, ¬ Reports "0.8.18446744073709551616".toList version) ∧
    parse? (String.ofList ((⟨0, 8, 18446744073709551615⟩ : Version).digits ++ "+commit.7dd6d404 ".toList)) =
      some ⟨0, 8, 18446744073709551615⟩ ∧
    isAtLeast "0.5.10" ⟨0, 5, 9⟩ = true ∧ isAtLeast "v0.8.0" ⟨0, 5, 9⟩ = true := by
  obtain ⟨-, written, -, lowered, raised⟩ := parse?_iff_reports "0.5.10"
  have passes : isAtLeast "0.5.10" ⟨0, 5, 9⟩ = true := by
    refine lowered _ ⟨0, 5, 10⟩ ?_ (by decide)
    exact le_iff.mp (by decide)
  refine ⟨((parse?_iff_reports _).1 _).mp (by decide), fun version reports => ?_, ?_, passes, ?_⟩
  · have read := ((parse?_iff_reports _).1 _).mpr reports
    exact absurd ((by decide : parse? "0.8.18446744073709551616" = none).symm.trans read) nofun
  · refine written _ _ ⟨by decide, by decide, by decide⟩ ?_
    rintro c ⟨⟩
    exact Or.inl rfl
  · exact raised "v0.8.0" ⟨0, 5, 10⟩ ⟨0, 8, 0⟩ _ (by decide) (by decide) (le_iff.mp (by decide)) passes

end SolidityNav.Compiler.Version
