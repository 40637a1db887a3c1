import Admission.Json.Value

/-!
Contract: lenient access to the members of a JSON object. A member that is null, or of another
shape than asked for, counts as missing.

Does not own: typed reading with errors (`Admission.Json.Decode`).
-/

namespace Admission.Json.Value

/-- A member other than null. -/
def present? (value : Value) (key : String) : Option Value :=
  match value.member? key with
  | some null => none
  | found => found

def text? (value : Value) (key : String) : Option String :=
  match value.member? key with
  | some (string text) => some text
  | _ => none

/-- A text, or the empty one. -/
def textAt (value : Value) (key : String) : String := (value.text? key).getD ""

def flagAt (value : Value) (key : String) : Bool :=
  match value.member? key with
  | some (bool flag) => flag
  | _ => false

def nat? (value : Value) (key : String) : Option Nat :=
  match value.member? key with
  | some (number (.integer (.ofNat n))) => some n
  | _ => none

/-- A natural number, or zero. -/
def natAt (value : Value) (key : String) : Nat := (value.nat? key).getD 0

/-- The items of a list, or none. -/
def itemsAt (value : Value) (key : String) : List Value :=
  match value.member? key with
  | some (array items) => items
  | _ => []

def textsAt (value : Value) (key : String) : List String :=
  (value.itemsAt key).filterMap fun
    | string text => some text
    | _ => none

end Admission.Json.Value
