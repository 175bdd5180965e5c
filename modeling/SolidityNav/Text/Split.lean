/-
# Text.Split -- the parts between separators

A text with `n` separators has `n + 1` parts, some of which may be empty.  Bytes are split in the same way as characters.
-/

namespace SolidityNav.Text

set_option autoImplicit false

/-- The parts of a text between the occurrences of `separator`. -/
def split {α : Type} [DecidableEq α] (separator : α) : List α → List (List α)
  | [] => [[]]
  | c :: rest =>
      match split separator rest with
      | [] => [[]]
      | part :: parts => if c = separator then [] :: part :: parts else (c :: part) :: parts

example : split ':' "1::2".toList = [['1'], [], ['2']] := by decide

end SolidityNav.Text
