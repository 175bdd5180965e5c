/-
# Proofs.Path -- paths and the texts that spell them

A text spells one path, and that path is shown as the text (`text_ofText`).  A path that no text spells is shown as well,
but what is shown spells another one (`ofText_text_eq_iff`).

Which paths are the same is a question of their components alone.
-/
import SolidityNav.Path
import SolidityNav.Proofs.Text.Utf8

namespace SolidityNav.Path

set_option autoImplicit false

/-! ## Texts -/

/-- **A path that a text spells is shown as the text.** -/
@[simp] theorem text_ofText (text : String) : (ofText text).text = text := by
  rw [Path.text, ofText, Text.decode_bytes, String.ofList_toList]

theorem ofText_injective : Function.Injective ofText :=
  Function.LeftInverse.injective text_ofText

theorem text?_eq_some_iff {path : Path} {text : String} : path.text? = some text ↔ ofText text = path := by
  rw [text?]
  constructor
  · intro spelled
    split at spelled
    · rename_i shown
      cases spelled
      exact shown
    · cases spelled
  · rintro rfl
    simp

@[simp] theorem text?_ofText (text : String) : (ofText text).text? = some text :=
  text?_eq_some_iff.mpr rfl

/-- What is shown for a path spells the path just when some text does. -/
theorem ofText_text_eq_iff {path : Path} : ofText path.text = path ↔ ∃ text, ofText text = path := by
  constructor
  · intro shown
    exact ⟨path.text, shown⟩
  · rintro ⟨text, rfl⟩
    rw [text_ofText]

/-! ## Same paths -/

theorem same_iff {a b : Path} : a.same b = true ↔ a.components = b.components := by
  simp [same]

@[simp] theorem same_self (path : Path) : path.same path = true :=
  same_iff.mpr rfl

theorem same_comm (a b : Path) : a.same b = b.same a := by
  rw [Bool.eq_iff_iff, same_iff, same_iff, eq_comm]

/-- The same paths are the same as any other. -/
theorem same_left {a b : Path} (alike : a.same b = true) (other : Path) : a.same other = b.same other := by
  rw [Bool.eq_iff_iff, same_iff, same_iff, same_iff.mp alike]

end SolidityNav.Path
