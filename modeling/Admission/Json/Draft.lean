import Admission.Json.Value
import Admission.Net.IpText

/-!
Contract: a JSON text read as far as it goes.

A `Draft` is the tree of a text, complete or cut off. What a reader of the text would stumble over
is recorded at its place, so that a later walk over the tree, front to back, meets the first
problem first. Two kinds of walk differ in what they stumble over: one that reads a part, and one
that only skips it; a draft holds enough for both.

Owns: the tree, the reading of text into it, and the walk that skips.
-/

namespace Admission.Json

open Admission.Decimal

/-- Why a text is not JSON. -/
inductive Fault where
  /-- Something else stands where JSON has to go on. -/
  | malformed
  /-- The text ends early. -/
  | truncated
  deriving DecidableEq, Repr

/-- What follows the last item of an array or the last member of an object. -/
inductive Close where
  | closed
  | endOfText
  /-- A comma and the end of the text. -/
  | commaAtEnd
  /-- Neither a comma with another item nor the closing mark. -/
  | stray
  deriving DecidableEq, Repr

/-- How a value that cannot be read begins. -/
inductive Beginning where
  | nothing
  | quote
  | other
  deriving DecidableEq, Repr

/-- A JSON text read as far as it goes. -/
inductive Draft where
  | null
  | bool (b : Bool)
  /-- A number; one that is too large can only be skipped. -/
  | number (value : Except Fault Number)
  /-- A text; one with a lone surrogate can only be skipped. -/
  | string (value : Except Fault String)
  | array (items : List Draft) (close : Close)
  | object (members : List (Except Fault String × Draft)) (close : Close)
  /-- The text cannot be read further: why, for a reader and for one who skips. -/
  | broken (beginning : Beginning) (reading skipping : Fault)
  deriving Inhabited

namespace Draft

/-- A draft and what follows it; nothing follows one that is cut off. -/
abbrev Reading := Draft × Option (List Char)

/-- Cut off for the same reason for every reader. -/
def cut (beginning : Beginning) (fault : Fault) : Reading :=
  (.broken beginning fault fault, none)

/-- The four blanks of JSON. -/
def isBlank (c : Char) : Bool :=
  c == ' ' || c == '\n' || c == '\t' || c == '\r'

/-- The text after its leading blanks. -/
def skipBlanks (text : List Char) : List Char :=
  text.dropWhile isBlank

/-- The rest of a word whose first letter is read. -/
def word (value : Draft) : (letters text : List Char) → Reading
  | [], text => (value, some text)
  | _ :: _, [] => cut .other .truncated
  | letter :: letters, c :: text =>
      if c = letter then word value letters text else cut .other .malformed

/-! ## Texts -/

/-- A text in quotes, read to its end. -/
inductive Quoted where
  | done (value : Except Fault String) (rest : List Char)
  | broken (reading skipping : Fault)

/-- What a letter after a backslash stands for, the hexadecimal form apart. -/
def escaped? (c : Char) : Option Char :=
  if c = '"' then some '"'
  else if c = '\\' then some '\\'
  else if c = '/' then some '/'
  else if c = 'b' then some (Char.ofNat 0x8)
  else if c = 'f' then some (Char.ofNat 0xC)
  else if c = 'n' then some '\n'
  else if c = 'r' then some '\r'
  else if c = 't' then some '\t'
  else none

/-- The number of four hexadecimal digits. -/
def hexUnit? (a b c d : Char) : Option Nat := do
  let a ← Text.hexValue? a
  let b ← Text.hexValue? b
  let c ← Text.hexValue? c
  let d ← Text.hexValue? d
  return ((a * 16 + b) * 16 + c) * 16 + d

/-- Whether a unit is the first half of a surrogate pair. -/
def isHighSurrogate (unit : Nat) : Bool := 0xD800 ≤ unit && unit ≤ 0xDBFF

/-- Whether a unit is the second half of a surrogate pair. -/
def isLowSurrogate (unit : Nat) : Bool := 0xDC00 ≤ unit && unit ≤ 0xDFFF

/-- What has been read of a text: its characters, last first, a high surrogate that waits for its
partner, and whether a surrogate stood alone. -/
structure QuotedState where
  done : List Char
  high : Option Nat
  lone : Bool

namespace QuotedState

/-- A character that is no surrogate; a waiting high surrogate stays alone. -/
def push (state : QuotedState) (c : Char) : QuotedState :=
  ⟨c :: state.done, none, state.lone || state.high.isSome⟩

/-- One hexadecimal unit. -/
def pushUnit (state : QuotedState) (unit : Nat) : QuotedState :=
  if isHighSurrogate unit then
    ⟨state.done, some unit, state.lone || state.high.isSome⟩
  else if isLowSurrogate unit then
    match state.high with
    | some high =>
        ⟨Char.ofNat (0x10000 + (high - 0xD800) * 0x400 + (unit - 0xDC00)) :: state.done, none,
          state.lone⟩
    | none => ⟨state.done, none, true⟩
  else state.push (Char.ofNat unit)

/-- A fault that every reader meets, unless a lone surrogate came first. -/
def stop (state : QuotedState) (fault : Fault) : Quoted :=
  .broken (if state.lone then .malformed else fault) fault

/-- A fault at a character that rules out a partner for a waiting high surrogate. -/
def stopAt (state : QuotedState) (fault : Fault) : Quoted :=
  .broken (if state.lone || state.high.isSome then .malformed else fault) fault

/-- The closing quote. -/
def finish (state : QuotedState) (rest : List Char) : Quoted :=
  if state.lone || state.high.isSome then .done (.error .malformed) rest
  else .done (.ok (String.ofList state.done.reverse)) rest

end QuotedState

/-- The number of bytes of a text in UTF-8. -/
def byteCount (text : List Char) : Nat :=
  text.foldl (fun count c => count + c.utf8Size) 0

/-- Reads a text up to its closing quote. -/
def readQuoted (state : QuotedState) : List Char → Quoted
  | [] => state.stop .truncated
  | ['\\'] => state.stop .truncated
  | '\\' :: 'u' :: a :: b :: c :: d :: rest =>
      match hexUnit? a b c d with
      | some unit => readQuoted (state.pushUnit unit) rest
      | none => state.stop .malformed
  | '\\' :: 'u' :: rest => state.stop (if byteCount rest < 4 then .truncated else .malformed)
  | '\\' :: c :: rest =>
      match escaped? c with
      | some value => readQuoted (state.push value) rest
      | none => state.stopAt .malformed
  | c :: rest =>
      if c = '"' then state.finish rest
      else if c.toNat < 0x20 then state.stopAt .malformed
      else readQuoted (state.push c) rest

/-- Reads a text whose opening quote is read. -/
def quoted (text : List Char) : Quoted :=
  readQuoted ⟨[], none, false⟩ text

/-! ## Numbers -/

/-- The greatest whole number that is kept exactly while digits are read. -/
def maxSignificand : Nat := 0xFFFFFFFFFFFFFFFF

/-- Adds digits to a significand while the result stays in range. Gives the significand and the
digits that did not fit. -/
def extend (significand : Nat) : List Nat → Nat × List Nat
  | [] => (significand, [])
  | digit :: digits =>
      if maxSignificand < significand * 10 + digit then (significand, digit :: digits)
      else extend (significand * 10 + digit) digits

/-- The written parts of a number. -/
structure Numeral where
  negative : Bool
  whole : List Nat
  fraction : Option (List Nat)
  /-- Sign (negative or not) and digits of the exponent. -/
  exponent : Option (Bool × List Nat)

/-- The exponent that digits spell; nothing from 2^31 on. -/
def exponentValue? (digits : List Nat) : Option Nat :=
  let value := Net.IpText.ofDigits 10 digits
  if value < 0x80000000 then some value else none

/-- The value of a numeral. Whole digits beyond 2^64 count as zeros, fraction digits beyond it are
dropped. A whole number outside the 64-bit ranges, and minus zero, become floating-point; a number
too large for that is a fault. -/
def Numeral.value (numeral : Numeral) : Except Fault Number :=
  let (start, dropped) := extend 0 numeral.whole
  match numeral.fraction, numeral.exponent, dropped with
  | none, none, [] =>
      if !numeral.negative then .ok (.integer start)
      else if start = 0 then .ok (.float (.zero true))
      else if start ≤ 0x8000000000000000 then .ok (.integer (-(start : Int)))
      else float start 0
  | fraction, exponent, dropped =>
      let (significand, unused) := extend start (fraction.getD [])
      let used := (fraction.getD []).length - unused.length
      let power : Int := dropped.length - used
      match exponent with
      | none => float significand power
      | some (down, digits) =>
          match exponentValue? digits with
          | some value => float significand (if down then power - value else power + value)
          | none =>
              if significand = 0 || down then .ok (.float (.zero numeral.negative))
              else .error .malformed
where
  float (significand : Nat) (power : Int) : Except Fault Number :=
    match Binary64.ofDecimal numeral.negative significand power with
    | some x => .ok (.float x)
    | none => .error .malformed

/-- Reads the exponent of a numeral, its letter being read. -/
def readExponent (numeral : Numeral) (text : List Char) : Reading :=
  let (down, text) := match text with
    | '+' :: rest => (false, rest)
    | '-' :: rest => (true, rest)
    | _ => (false, text)
  match Net.IpText.spanDigits Net.IpText.decimalDigit? text with
  | ([], []) => (.broken .other .truncated .malformed, none)
  | ([], _) => cut .other .malformed
  | (digits, rest) =>
      (.number { numeral with exponent := some (down, digits) }.value, some rest)

/-- Reads on after the whole digits and the fraction of a numeral. -/
def readScale (numeral : Numeral) : List Char → Reading
  | 'e' :: rest => readExponent numeral rest
  | 'E' :: rest => readExponent numeral rest
  | rest => (.number numeral.value, some rest)

/-- Reads on after the whole digits of a numeral. -/
def readFraction (numeral : Numeral) : List Char → Reading
  | '.' :: text =>
      match Net.IpText.spanDigits Net.IpText.decimalDigit? text with
      | ([], []) => (.broken .other .truncated .malformed, none)
      | ([], _) => cut .other .malformed
      | (digits, rest) => readScale { numeral with fraction := some digits } rest
  | text => readScale numeral text

/-- Reads a number after its sign. -/
def readNumber (negative : Bool) (text : List Char) : Reading :=
  match Net.IpText.spanDigits Net.IpText.decimalDigit? text with
  | ([], []) => (.broken .other .truncated .malformed, none)
  | ([], _) => cut .other .malformed
  | (0 :: _ :: _, _) => cut .other .malformed
  | (digits, rest) => readFraction ⟨negative, digits, none, none⟩ rest

/-! ## Values -/

mutual

/-- Reads a value. The fuel bounds the steps; twice the length of the text is enough. -/
def readValue : (fuel : Nat) → List Char → Reading
  | 0, _ => cut .other .truncated
  | fuel + 1, text =>
      match skipBlanks text with
      | [] => cut .nothing .truncated
      | c :: rest =>
          if c = 'n' then word .null ['u', 'l', 'l'] rest
          else if c = 't' then word (.bool true) ['r', 'u', 'e'] rest
          else if c = 'f' then word (.bool false) ['a', 'l', 's', 'e'] rest
          else if c = '"' then
            match quoted rest with
            | .done value rest => (.string value, some rest)
            | .broken reading skipping => (.broken .quote reading skipping, none)
          else if c = '[' then
            let (items, close, rest) := readItems fuel true rest
            (.array items close, rest)
          else if c = Char.ofNat 0x7B then
            let (members, close, rest) := readMembers fuel true rest
            (.object members close, rest)
          else if c = '-' then readNumber true rest
          else if c.isDigit then readNumber false (c :: rest)
          else cut .other .malformed

/-- Reads the items of an array, its bracket or the item before being read. -/
def readItems : (fuel : Nat) → (first : Bool) → List Char →
    List Draft × Close × Option (List Char)
  | 0, _, _ => ([], .endOfText, none)
  | fuel + 1, first, text =>
      match skipBlanks text with
      | [] => ([], .endOfText, none)
      | c :: rest =>
          if c = ']' then ([], .closed, some rest)
          else if first then readItem fuel (c :: rest)
          else if c = ',' then
            match skipBlanks rest with
            | [] => ([], .commaAtEnd, none)
            | next :: rest =>
                if next = ']' then ([], .stray, none) else readItem fuel (next :: rest)
          else ([], .stray, none)

/-- Reads one item and those after it. -/
def readItem : (fuel : Nat) → List Char → List Draft × Close × Option (List Char)
  | 0, _ => ([], .endOfText, none)
  | fuel + 1, text =>
      match readValue fuel text with
      | (item, none) => ([item], .stray, none)
      | (item, some rest) =>
          let (items, close, rest) := readItems fuel false rest
          (item :: items, close, rest)

/-- Reads the members of an object, its brace or the member before being read. -/
def readMembers : (fuel : Nat) → (first : Bool) → List Char →
    List (Except Fault String × Draft) × Close × Option (List Char)
  | 0, _, _ => ([], .endOfText, none)
  | fuel + 1, first, text =>
      match skipBlanks text with
      | [] => ([], .endOfText, none)
      | c :: rest =>
          if c = Char.ofNat 0x7D then ([], .closed, some rest)
          else if first then
            if c = '"' then readMember fuel rest else ([], .stray, none)
          else if c = ',' then
            match skipBlanks rest with
            | [] => ([], .commaAtEnd, none)
            | next :: rest =>
                if next = '"' then readMember fuel rest else ([], .stray, none)
          else ([], .stray, none)

/-- Reads one member, its opening quote being read, and those after it. -/
def readMember : (fuel : Nat) → List Char →
    List (Except Fault String × Draft) × Close × Option (List Char)
  | 0, _ => ([], .endOfText, none)
  | fuel + 1, text =>
      match quoted text with
      | .broken reading skipping =>
          ([(.error reading, .broken .other reading skipping)], .stray, none)
      | .done key rest =>
          match skipBlanks rest with
          | [] => ([(key, .broken .nothing .truncated .truncated)], .stray, none)
          | c :: rest =>
              if c = ':' then
                match readValue fuel rest with
                | (value, none) => ([(key, value)], .stray, none)
                | (value, some rest) =>
                    let (members, close, rest) := readMembers fuel false rest
                    ((key, value) :: members, close, rest)
              else ([(key, .broken .other .malformed .malformed)], .stray, none)

end

/-- Reads the value at the front of a text. -/
def ofText (text : List Char) : Reading :=
  readValue (3 * text.length + 3) text

/-! ## Skipping -/

/-- What a reader meets after the last item. -/
def closeFault : Close → Except Fault Unit
  | .closed => .ok ()
  | .endOfText => .error .truncated
  | .commaAtEnd => .error .truncated
  | .stray => .error .malformed

mutual

/-- Walks over a value without reading it. -/
def skip : Draft → Except Fault Unit
  | null => .ok ()
  | bool _ => .ok ()
  | number _ => .ok ()
  | string _ => .ok ()
  | array items close => do
      skipItems items
      closeFault close
  | object members close => do
      skipMembers members
      closeFault close
  | broken _ _ skipping => .error skipping

/-- Walks over items. -/
def skipItems : List Draft → Except Fault Unit
  | [] => .ok ()
  | item :: items => do
      item.skip
      skipItems items

/-- Walks over members, their keys included. -/
def skipMembers : List (Except Fault String × Draft) → Except Fault Unit
  | [] => .ok ()
  | (_, value) :: members => do
      value.skip
      skipMembers members

end

/-! ## Drafts of values -/

mutual

/-- The draft of a value, which nobody stumbles over. -/
def ofValue : Value → Draft
  | .null => null
  | .bool b => bool b
  | .number n => number (.ok n)
  | .string s => string (.ok s)
  | .array items => array (ofItems items) .closed
  | .object members => object (ofMembers members) .closed

/-- The drafts of items. -/
def ofItems : List Value → List Draft
  | [] => []
  | item :: items => ofValue item :: ofItems items

/-- The drafts of members. -/
def ofMembers : List (String × Value) → List (Except Fault String × Draft)
  | [] => []
  | (key, value) :: members => (.ok key, ofValue value) :: ofMembers members

end

end Draft

end Admission.Json
