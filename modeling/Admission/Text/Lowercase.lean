import Admission.Text.LetterCase

/-!
Contract: full lower-casing of a text.

Every character goes to its simple lower-case partner, but for two rules: a capital dotted I
becomes an i and a combining dot, and a capital sigma becomes the final form exactly when a cased
character stands before it and none stands after it, case-ignorable characters not counted.
-/

namespace Admission.Text

/-- Whether the first character that is not case-ignorable is cased. -/
def startsCased (text : List Char) : Bool :=
  match text.dropWhile isCaseIgnorable with
  | [] => false
  | c :: _ => isCased c

/-- The lower-case form of one character, between the text before it (nearest first) and the
text after it. -/
def lowercaseAt (before : List Char) (c : Char) (after : List Char) : List Char :=
  if c = 'Σ' then
    if startsCased before && !startsCased after then ['ς'] else ['σ']
  else if c = 'İ' then
    ['i', Char.ofNat 0x307]
  else if c.toNat < 0x80 then
    [c.toLower]
  else
    [simpleLowercase c]

/-- Lower-cases what follows the text `before`, which is given nearest character first. -/
def lowercaseFrom (before : List Char) : List Char → List Char
  | [] => []
  | c :: after => lowercaseAt before c after ++ lowercaseFrom (c :: before) after

/-- The lower-case form of a text. -/
def lowercase (text : List Char) : List Char :=
  lowercaseFrom [] text

/-- On ASCII text lower-casing works character by character. -/
theorem lowercaseFrom_ascii
    (before text : List Char)
    (ascii : ∀ c ∈ text, c.toNat < 0x80) :
    lowercaseFrom before text = text.map Char.toLower := by
  induction text generalizing before with
  | nil => rfl
  | cons c rest inductionHypothesis =>
      have small : c.toNat < 0x80 := ascii c (by simp)
      have notSigma : c ≠ 'Σ' := by rintro rfl; exact absurd small (by decide)
      have notDotted : c ≠ 'İ' := by rintro rfl; exact absurd small (by decide)
      have restAscii : ∀ d ∈ rest, d.toNat < 0x80 := fun d member => ascii d (by simp [member])
      simp [lowercaseFrom, lowercaseAt, notSigma, notDotted, small,
        inductionHypothesis (c :: before) restAscii]

end Admission.Text
