/-
# Proofs.Span.Reading -- the texts that are read as spans

Compilers write spans in one way, but more texts are read.  `Written` is the whole grammar: three parts with colons between
them, and in each of them a numeral with blanks around it, whose value is a word.  Exactly these texts are read, each as the
three words that stand in it (`parse_eq_ok_iff`), and for all others the failure carries the text (`parse_eq_error_iff`).

Of the texts of a span, `Span.text` is the one whose parts are plain numerals: it is read back (`parse_text`), and a text
that is read with plain parts only is the text of its span (`Written.eq_text`).
-/
import SolidityNav.Proofs.Span
import SolidityNav.Proofs.Text
import SolidityNav.Proofs.Text.Numeral

namespace SolidityNav.Span

set_option autoImplicit false

/-! ## Three parts -/

/-- The text has exactly these three parts between its colons. -/
structure Parts (text start length file : List Char) : Prop where
  joined : text = start ++ ':' :: (length ++ ':' :: file)
  free : ':' ∉ start ∧ ':' ∉ length ∧ ':' ∉ file

theorem split_eq_iff_parts {text start length file : List Char} :
    Text.split ':' text = [start, length, file] ↔ Parts text start length file := by
  constructor
  · intro parted
    have joined := Text.intercalate_split ':' text
    rw [parted] at joined
    have free : ∀ part ∈ [start, length, file], ':' ∉ part := by
      intro part member
      rw [← parted] at member
      exact Text.not_mem_of_mem_split member
    exact ⟨by simpa using joined.symm, free start (by simp), free length (by simp), free file (by simp)⟩
  · intro parts
    rw [parts.joined, Text.split_append parts.free.1, Text.split_append parts.free.2.1,
      Text.split_of_not_mem parts.free.2.2]

/-! ## Components -/

/-- The text holds a numeral of the word, with blanks around it. -/
def Component (text : List Char) (word : Int64) : Prop :=
  ∃ before core after, text = before ++ core ++ after ∧ (∀ c ∈ before, Text.isBlank c = true) ∧
    (∀ c ∈ after, Text.isBlank c = true) ∧ Text.Numeral core word.toInt

theorem component?_eq_some_iff {text : List Char} {word : Int64} :
    component? text = some word ↔ Component text word := by
  have read : component? text = some word ↔ Text.Numeral (Text.trim text) word.toInt := by
    rw [component?, Option.bind_eq_bind, Option.bind_eq_some_iff]
    constructor
    · rintro ⟨value, numeral, held⟩
      rw [Word.int64?_eq_some_iff.mp held]
      exact Text.readInt?_eq_some_iff.mp numeral
    · intro numeral
      exact ⟨word.toInt, Text.readInt?_eq_some_iff.mpr numeral, Word.int64?_eq_some_iff.mpr rfl⟩
  rw [read]
  constructor
  · intro numeral
    obtain ⟨before, after, padded, blankBefore, blankAfter⟩ := Text.exists_trim text
    exact ⟨before, Text.trim text, after, padded, blankBefore, blankAfter, numeral⟩
  · rintro ⟨before, core, after, rfl, blankBefore, blankAfter, numeral⟩
    have clean : ∀ c ∈ core, Text.isBlank c = false := fun c member =>
      Text.isBlank_of_isNumeric (numeral.isNumeric_of_mem member)
    rwa [Text.trim_of_padded blankBefore blankAfter clean]

theorem component_writeInt (word : Int64) : Component (Text.writeInt word.toInt) word :=
  ⟨[], Text.writeInt word.toInt, [], by simp, by simp, by simp, Text.numeral_writeInt word.toInt⟩

/-- A component with nothing needless in it is what is written for its word. -/
theorem Component.eq_writeInt {text : List Char} {word : Int64} (component : Component text word)
    (plain : Text.Plain text) : text = Text.writeInt word.toInt := by
  obtain ⟨before, core, after, rfl, blankBefore, blankAfter, numeral⟩ := component
  have unpadded : ∀ padding : List Char, (∀ c ∈ padding, c ∈ before ++ core ++ after ∧ Text.isBlank c = true) →
      padding = [] := by
    intro padding blank
    refine List.eq_nil_iff_forall_not_mem.mpr fun c member => ?_
    have := plain.blankless c (blank c member).1
    rw [(blank c member).2] at this
    cases this
  obtain rfl := unpadded before fun c member => ⟨by simp [member], blankBefore c member⟩
  obtain rfl := unpadded after fun c member => ⟨by simp [member], blankAfter c member⟩
  simp only [List.nil_append, List.append_nil] at plain ⊢
  exact numeral.eq_writeInt plain

/-! ## Spans -/

def Written (text : List Char) (span : Span) : Prop :=
  ∃ start length file, Parts text start length file ∧
    Component start span.start ∧ Component length span.length ∧ Component file span.file

def Plain (text : List Char) : Prop :=
  ∃ start length file, Parts text start length file ∧ Text.Plain start ∧ Text.Plain length ∧ Text.Plain file

theorem read?_eq_some_iff {text : List Char} {span : Span} : read? text = some span ↔ Written text span := by
  constructor
  · intro read
    unfold read? at read
    split at read
    · rename_i start length file parted
      simp only [Option.bind_eq_bind, Option.bind_eq_some_iff, Option.pure_def, Option.some.injEq] at read
      obtain ⟨startWord, startRead, lengthWord, lengthRead, fileWord, fileRead, rfl⟩ := read
      exact ⟨start, length, file, split_eq_iff_parts.mp parted, component?_eq_some_iff.mp startRead,
        component?_eq_some_iff.mp lengthRead, component?_eq_some_iff.mp fileRead⟩
    · cases read
  · rintro ⟨start, length, file, parts, startHeld, lengthHeld, fileHeld⟩
    rw [read?, split_eq_iff_parts.mpr parts]
    simp [component?_eq_some_iff.mpr startHeld, component?_eq_some_iff.mpr lengthHeld,
      component?_eq_some_iff.mpr fileHeld]

theorem parse_eq_ok_iff {src : String} {span : Span} : parse src = .ok span ↔ Written src.toList span := by
  rw [← read?_eq_some_iff, parse]
  cases read? src.toList <;> simp

theorem parse_eq_error_iff {src : String} {error : ParseError} :
    parse src = .error error ↔ (∀ span, ¬ Written src.toList span) ∧ error = ⟨src⟩ := by
  simp only [← read?_eq_some_iff, parse]
  cases read? src.toList <;> simp [eq_comm]

/-! ## The text of a span -/

theorem parts_text (span : Span) :
    Parts span.text.toList (Text.writeInt span.start.toInt) (Text.writeInt span.length.toInt)
      (Text.writeInt span.file.toInt) := by
  have colonless : ∀ value : Int, ':' ∉ Text.writeInt value := by
    intro value member
    exact absurd ((Text.numeral_writeInt value).isNumeric_of_mem member) (by decide)
  exact ⟨by simp [text], colonless _, colonless _, colonless _⟩

theorem written_text (span : Span) : Written span.text.toList span :=
  ⟨_, _, _, parts_text span, component_writeInt _, component_writeInt _, component_writeInt _⟩

theorem plain_text (span : Span) : Plain span.text.toList :=
  ⟨_, _, _, parts_text span, Text.plain_writeInt _, Text.plain_writeInt _, Text.plain_writeInt _⟩

/-- **A span is read back from its text.** -/
theorem parse_text (span : Span) : parse span.text = .ok span :=
  parse_eq_ok_iff.mpr (written_text span)

theorem Parts.unique {text start length file start' length' file' : List Char} (parts : Parts text start length file)
    (parts' : Parts text start' length' file') : start = start' ∧ length = length' ∧ file = file' := by
  have same := (split_eq_iff_parts.mpr parts).symm.trans (split_eq_iff_parts.mpr parts')
  simpa using same

/-- Without anything needless in it, what is read as a span is its text. -/
theorem Written.eq_text {src : String} {span : Span} (written : Written src.toList span) (plain : Plain src.toList) :
    span.text = src := by
  obtain ⟨start, length, file, parts, startHeld, lengthHeld, fileHeld⟩ := written
  obtain ⟨_, _, _, parts', startPlain, lengthPlain, filePlain⟩ := plain
  obtain ⟨rfl, rfl, rfl⟩ := parts.unique parts'
  rw [← String.toList_inj, (parts_text span).joined, parts.joined, startHeld.eq_writeInt startPlain,
    lengthHeld.eq_writeInt lengthPlain, fileHeld.eq_writeInt filePlain]

/-- **Exactly the written texts are read**, each as its span; a failure carries the text.  A span is read back from its text,
so reading and writing once more changes no answer, and a text that is read is written back as it was exactly if it is the
text of a span, which it is exactly if nothing needless is in it. -/
theorem parse_iff_written (src : String) :
    (∀ span, parse src = .ok span ↔ Written src.toList span) ∧
      (∀ error, parse src = .error error ↔ (∀ span, ¬ Written src.toList span) ∧ error = ⟨src⟩) ∧
      (∀ span, parse span.text = .ok span) ∧
      ∀ span, parse src = .ok span →
        parse span.text = parse src ∧
        (span.text = src ↔ ∃ other : Span, other.text = src) ∧
        ((∃ other : Span, other.text = src) ↔ Plain src.toList) := by
  refine ⟨fun _ => parse_eq_ok_iff, fun _ => parse_eq_error_iff, parse_text, fun span read => ?_⟩
  have ofImage : (∃ other : Span, other.text = src) → Plain src.toList := by
    rintro ⟨other, rfl⟩
    exact plain_text other
  have ofPlain : Plain src.toList → span.text = src := (parse_eq_ok_iff.mp read).eq_text
  have again : parse span.text = parse src := (parse_text span).trans read.symm
  exact ⟨again, ⟨fun same => ⟨span, same⟩, fun image => ofPlain (ofImage image)⟩, ofImage,
    fun plain => ⟨span, ofPlain plain⟩⟩

/-- Blanks, a plus sign, zeros in front and a minus sign in front of zero are read at the ends of the range and not written;
one more than the largest word is no component. -/
theorem parse_iff_written_padded :
    (∃ span, parse " +007:-0:\t9223372036854775807 " = .ok span ∧
        span.text = "7:0:9223372036854775807" ∧
        parse span.text = .ok span ∧
        ¬ Plain " +007:-0:\t9223372036854775807 ".toList) ∧
      Written "-9223372036854775808:0:-1".toList ⟨Int64.minValue, 0, -1⟩ ∧
      (∀ span, ¬ Written "0:0:9223372036854775808".toList span) ∧
      ∀ span, ¬ Written "0:0".toList span := by
  have read : parse " +007:-0:\t9223372036854775807 " = .ok ⟨7, 0, Int64.maxValue⟩ := by decide
  have again := (parse_iff_written " +007:-0:\t9223372036854775807 ").2.2.2 _ read
  refine ⟨⟨_, read, by decide, again.1.trans read, fun plain => ?_⟩, ?_, ?_, ?_⟩
  · exact absurd (again.2.1.mpr (again.2.2.mpr plain)) (by decide)
  · exact ((parse_iff_written "-9223372036854775808:0:-1").1 _).mp (by decide)
  · exact (((parse_iff_written "0:0:9223372036854775808").2.1 ⟨"0:0:9223372036854775808"⟩).mp (by decide)).1
  · exact (((parse_iff_written "0:0").2.1 ⟨"0:0"⟩).mp (by decide)).1

end SolidityNav.Span
