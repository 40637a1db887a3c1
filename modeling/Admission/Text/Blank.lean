import Admission.Text.CharRange

/-!
Contract: the blank characters of Unicode (property `White_Space`) and the trimming of blanks at
the two ends of a text.

Does not own: the four blanks of JSON, which are a smaller set.
-/

namespace Admission.Text

/-- The code points with the property `White_Space`. -/
def blankRanges : CharRanges := [
  (0x9, 0xD), (0x20, 0x20), (0x85, 0x85), (0xA0, 0xA0), (0x1680, 0x1680), (0x2000, 0x200A),
  (0x2028, 0x2029), (0x202F, 0x202F), (0x205F, 0x205F), (0x3000, 0x3000)]

/-- Whether a character is blank. -/
def isBlank (c : Char) : Bool :=
  blankRanges.contains c

/-- A list without the elements at its end that satisfy the test. -/
def dropEndWhile (test : α → Bool) : List α → List α
  | [] => []
  | x :: xs =>
      match dropEndWhile test xs with
      | [] => if test x then [] else [x]
      | kept => x :: kept

/-- The characters of a text without the blanks at its two ends. -/
def trim (text : List Char) : List Char :=
  dropEndWhile isBlank (text.dropWhile isBlank)

end Admission.Text
