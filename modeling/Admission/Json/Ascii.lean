import Admission.Json.Value

/-!
Contract: JSON text in ASCII only. Every other character is written as the escape of its UTF-16
code units.
-/

namespace Admission.Json

def escapeUnit (unit : Nat) : List Char :=
  '\\' :: 'u' ::
    [unit / 4096, unit / 256 % 16, unit / 16 % 16, unit % 16].map Text.hexDigit

/-- A character in ASCII; a code point above U+FFFF takes two code units. -/
def asciiChar (c : Char) : List Char :=
  let point := c.toNat
  if point < 0x80 then [c]
  else if point < 0x10000 then escapeUnit point
  else
    let offset := point - 0x10000
    escapeUnit (0xD800 + offset / 0x400) ++ escapeUnit (0xDC00 + offset % 0x400)

def Value.asciiText (value : Value) : String :=
  value.chars.foldl (fun text c => (asciiChar c).foldl String.push text) ""

end Admission.Json
