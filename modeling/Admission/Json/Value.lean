import Admission.Decimal.Shortest
import Admission.Text.Hex

/-!
Contract: JSON values and their canonical text.

Owns:
- `Value`, whose objects are kept sorted by key without repeats;
- equality of values as data, under which the two zeros are one number;
- the compact text: no blanks, keys in order, only quotes, backslashes and control characters
  escaped.

Does not own: reading (`Admission.Json.Draft`, `Admission.Json.Decode`).
-/

namespace Admission.Json

open Admission.Decimal

/-- A number as it was written: a whole number in range, or a floating-point number. -/
inductive Number where
  | integer (n : Int)
  | float (x : Binary64)
  deriving DecidableEq, Repr

/-- Equality of numbers as data. A whole number never equals a floating-point number. -/
def Number.same : Number → Number → Bool
  | integer m, integer n => m == n
  | float x, float y => x.sameNumber y
  | _, _ => false

/-- The written form of a number. -/
def Number.text : Number → List Char
  | integer n => (toString n).toList
  | float x => x.text

/-- A JSON value. The members of an object are sorted by key and no key repeats. -/
inductive Value where
  | null
  | bool (b : Bool)
  | number (n : Number)
  | string (s : String)
  | array (items : List Value)
  | object (members : List (String × Value))
  deriving Repr, Inhabited

namespace Value

/-- Puts a member into sorted members, in place of one with the same key. -/
def insertMember (key : String) (value : α) : List (String × α) → List (String × α)
  | [] => [(key, value)]
  | (other, kept) :: rest =>
      if key = other then (key, value) :: rest
      else if key < other then (key, value) :: (other, kept) :: rest
      else (other, kept) :: insertMember key value rest

/-- The object with the given members; of repeated keys the last counts. -/
def ofMembers (members : List (String × Value)) : Value :=
  object (members.foldl (fun sorted member => insertMember member.1 member.2 sorted) [])

def ofNat (n : Nat) : Value :=
  number (.integer n)

def ofOption (toValue : α → Value) : Option α → Value
  | some a => toValue a
  | none => null

def ofStrings (texts : List String) : Value :=
  array (texts.map string)

def member? (key : String) : Value → Option Value
  | object members => (members.find? (·.1 == key)).map (·.2)
  | _ => none

mutual

/-- Equality of values as data. -/
def same : Value → Value → Bool
  | null, null => true
  | bool a, bool b => a == b
  | number m, number n => m.same n
  | string s, string t => s == t
  | array xs, array ys => sameItems xs ys
  | object xs, object ys => sameMembers xs ys
  | _, _ => false

/-- Equality of arrays as data, item by item. -/
def sameItems : List Value → List Value → Bool
  | [], [] => true
  | x :: xs, y :: ys => x.same y && sameItems xs ys
  | _, _ => false

/-- Equality of objects as data, member by member. -/
def sameMembers : List (String × Value) → List (String × Value) → Bool
  | [], [] => true
  | (k, x) :: xs, (l, y) :: ys => k == l && x.same y && sameMembers xs ys
  | _, _ => false

end

/-- One character inside a quoted text. -/
def escapeChar (c : Char) : List Char :=
  if c = '"' then ['\\', '"']
  else if c = '\\' then ['\\', '\\']
  else if c.toNat = 0x8 then ['\\', 'b']
  else if c.toNat = 0x9 then ['\\', 't']
  else if c.toNat = 0xA then ['\\', 'n']
  else if c.toNat = 0xC then ['\\', 'f']
  else if c.toNat = 0xD then ['\\', 'r']
  else if c.toNat < 0x20 then
    ['\\', 'u', '0', '0', Text.hexDigit (c.toNat / 16), Text.hexDigit (c.toNat % 16)]
  else [c]

def quote (s : String) : List Char :=
  '"' :: s.toList.flatMap escapeChar ++ ['"']

mutual

/-- The compact text of a value. -/
def chars : Value → List Char
  | null => ['n', 'u', 'l', 'l']
  | bool true => ['t', 'r', 'u', 'e']
  | bool false => ['f', 'a', 'l', 's', 'e']
  | number n => n.text
  | string s => quote s
  | array items => '[' :: itemChars items
  | object members => Char.ofNat 0x7B :: memberChars members

/-- The items of an array and its closing bracket. -/
def itemChars : List Value → List Char
  | [] => [']']
  | [item] => item.chars ++ [']']
  | item :: rest => item.chars ++ ',' :: itemChars rest

/-- The members of an object and its closing brace. -/
def memberChars : List (String × Value) → List Char
  | [] => [Char.ofNat 0x7D]
  | [(key, value)] => quote key ++ ':' :: value.chars ++ [Char.ofNat 0x7D]
  | (key, value) :: rest => quote key ++ ':' :: value.chars ++ ',' :: memberChars rest

end

def text (value : Value) : String :=
  String.ofList value.chars

end Value

end Admission.Json
