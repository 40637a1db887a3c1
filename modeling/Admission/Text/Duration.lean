/-!
Contract: the short text of a duration that is a whole number of milliseconds.

Below a second the text counts milliseconds, from a second on it counts seconds with as many
decimal places as are needed, and nothing at all is written in nanoseconds.
-/

namespace Admission.Text

/-- The three decimal places of a part of a second, without zeros at their end. -/
def secondsFraction (milliseconds : Nat) : String :=
  let digit (unit : Nat) : Char := Char.ofNat (48 + milliseconds / unit % 10)
  if milliseconds % 1000 = 0 then ""
  else if milliseconds % 100 = 0 then String.ofList ['.', digit 100]
  else if milliseconds % 10 = 0 then String.ofList ['.', digit 100, digit 10]
  else String.ofList ['.', digit 100, digit 10, digit 1]

/-- The short text of a duration. -/
def durationText (milliseconds : Nat) : String :=
  if milliseconds = 0 then "0ns"
  else if milliseconds < 1000 then s!"{milliseconds}ms"
  else s!"{milliseconds / 1000}{secondsFraction (milliseconds % 1000)}s"

end Admission.Text
