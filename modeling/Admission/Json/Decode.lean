import Admission.Json.Draft
import Admission.Text.Quoted

/-!
Contract: typed reading of JSON.

A `Decoder` walks over a draft front to back and stops at the first problem, be it a fault of the
text or a value of the wrong shape. It serves two origins: the draft of a text, and the draft of
a value that has been read before. They differ in three points. A text may nest containers at
most 127 deep. Surplus items of an array given for a record, and anything but a text or an object
given for a choice, are faults of a text but shape problems of a value.

Owns: shape problems with their messages, decoders for the basic shapes, and records.
-/

namespace Admission.Json

open Admission.Decimal

/-- What stands where something else was expected. -/
inductive Found where
  | null
  | bool (b : Bool)
  | number (n : Number)
  | text (s : String)
  | sequence
  | map
  deriving DecidableEq, Repr

/-- A value of the wrong shape. -/
inductive Mismatch where
  | wrongType (found : Found) (expected : String)
  | wrongValue (found : Found) (expected : String)
  | wrongLength (length : Nat) (expected : String)
  | missingField (name : String)
  | duplicateField (name : String)
  | unknownVariant (name : String) (known : List String)
  /-- A text that does not follow the rule of its field. -/
  | refused (reason : String)
  deriving DecidableEq, Repr

/-- The first problem that a decoder meets. -/
inductive DecodeError where
  | text (fault : Fault)
  | shape (mismatch : Mismatch)
  deriving DecidableEq, Repr

/-- Where a draft comes from. -/
inductive Origin where
  /-- A text; so many containers may still be opened, less one. -/
  | text (depth : Nat)
  | value
  deriving DecidableEq, Repr

/-- A typed reader of drafts. -/
abbrev Decoder (α : Type) := Origin → Draft → Except DecodeError α

namespace Found

/-- The description of what was found. -/
def message : Found → String
  | null => "null"
  | bool b => s!"boolean `{b}`"
  | number (.integer n) => s!"integer `{n}`"
  | number (.float x) => "floating point `" ++ String.ofList x.text ++ "`"
  | text s => "string " ++ Text.quoted s
  | sequence => "sequence"
  | map => "map"

end Found

namespace Mismatch

/-- The message of a shape problem. -/
def message : Mismatch → String
  | wrongType found expected => s!"invalid type: {found.message}, expected {expected}"
  | wrongValue found expected => s!"invalid value: {found.message}, expected {expected}"
  | wrongLength length expected => s!"invalid length {length}, expected {expected}"
  | missingField name => s!"missing field `{name}`"
  | duplicateField name => s!"duplicate field `{name}`"
  | unknownVariant name known =>
      let names := String.intercalate ", " (known.map fun k => s!"`{k}`")
      s!"unknown variant `{name}`, expected one of {names}"
  | refused reason => reason

end Mismatch

namespace DecodeError

/-- The message of a problem. Faults of a text have none of their own. -/
def message : DecodeError → String
  | text .malformed => "malformed JSON"
  | text .truncated => "truncated JSON"
  | shape mismatch => mismatch.message

end DecodeError

/-- Turns a fault of the text into a decoding problem. -/
def ofFault : Except Fault α → Except DecodeError α
  | .ok a => .ok a
  | .error fault => .error (.text fault)

/-- The origin inside one more container. -/
def Origin.enter : Origin → Except DecodeError Origin
  | value => .ok value
  | text depth => if depth ≤ 1 then .error (.text .malformed) else .ok (text (depth - 1))

/-- The containers that a text may have open at once, plus one. -/
def depthLimit : Nat := 128

/-- What a draft is, when something else was expected. A fault comes first. -/
def Draft.wrongType (expected : String) : Draft → Except DecodeError α
  | null => found .null
  | bool b => found (.bool b)
  | number (.ok n) => found (.number n)
  | number (.error fault) => .error (.text fault)
  | string (.ok s) => found (.text s)
  | string (.error fault) => .error (.text fault)
  | array _ _ => found .sequence
  | object _ _ => found .map
  | broken _ reading _ => .error (.text reading)
where
  found (f : Found) : Except DecodeError α := .error (.shape (.wrongType f expected))

namespace Decoder

/-- A text. -/
def text : Decoder String
  | _, .string (.ok s) => .ok s
  | _, draft => draft.wrongType "a string"

/-- A truth value. -/
def bool : Decoder Bool
  | _, .bool b => .ok b
  | _, draft => draft.wrongType "a boolean"

/-- A whole number from zero to `max`. -/
def natural (max : Nat) (name : String) : Decoder Nat
  | _, .number (.ok (.integer n)) =>
      if 0 ≤ n && n ≤ max then .ok n.toNat
      else .error (.shape (.wrongValue (.number (.integer n)) name))
  | _, draft => draft.wrongType name

/-- A number of 16 bits. -/
def word16 : Decoder UInt16 := fun origin draft =>
  (natural 65535 "u16" origin draft).map UInt16.ofNat

/-- A number below 2^32. -/
def nat32 : Decoder Nat := natural 0xFFFFFFFF "u32"

/-- A number below 2^64. -/
def nat64 : Decoder Nat := natural 0xFFFFFFFFFFFFFFFF "u64"

/-- A number of bytes. -/
def size : Decoder Nat := natural 0xFFFFFFFFFFFFFFFF "usize"

/-- A value or null. -/
def optional (decoder : Decoder α) : Decoder (Option α)
  | _, .null => .ok none
  | origin, draft => (decoder origin draft).map some

/-- A list. -/
def list (decoder : Decoder α) : Decoder (List α)
  | origin, .array items close => do
      let inner ← origin.enter
      let values ← items.mapM (decoder inner)
      ofFault (Draft.closeFault close)
      return values
  | _, draft => draft.wrongType "a sequence"

/-- A text that a function turns into a value, or refuses with a reason. -/
def parsed (expected : String) (parse : String → Except String α) : Decoder α
  | _, .string (.ok s) => match parse s with
      | .ok a => .ok a
      | .error reason => .error (.shape (.refused reason))
  | _, draft => draft.wrongType expected

mutual

/-- Any value. -/
def anyFrom (origin : Origin) : Draft → Except DecodeError Value
  | .null => .ok .null
  | .bool b => .ok (.bool b)
  | .number n => do return .number (← ofFault n)
  | .string s => do return .string (← ofFault s)
  | .array items close => do
      let inner ← origin.enter
      let values ← anyItems inner items
      ofFault (Draft.closeFault close)
      return .array values
  | .object members close => do
      let inner ← origin.enter
      let values ← anyMembers inner members
      ofFault (Draft.closeFault close)
      return .ofMembers values
  | .broken _ reading _ => .error (.text reading)

/-- Any items. -/
def anyItems (origin : Origin) : List Draft → Except DecodeError (List Value)
  | [] => .ok []
  | item :: items => do
      let value ← anyFrom origin item
      let values ← anyItems origin items
      return value :: values

/-- Any members. -/
def anyMembers (origin : Origin) :
    List (Except Fault String × Draft) → Except DecodeError (List (String × Value))
  | [] => .ok []
  | (key, draft) :: members => do
      let key ← ofFault key
      let value ← anyFrom origin draft
      let values ← anyMembers origin members
      return (key, value) :: values

end

/-- Any value. -/
def any : Decoder Value := anyFrom

/-- The value of a name. -/
def variant (known : List (String × α)) (shown : List String) (name : String) :
    Except DecodeError α :=
  match known.find? (·.1 == name) with
  | some (_, value) => .ok value
  | none => .error (.shape (.unknownVariant name shown))

/-- One of several names, as a text or as an object with that one key and the value null. A text
that goes on with anything but a key after the opening brace is malformed. Of the known names only
those in `shown` are mentioned in messages. -/
def choice (label : String) (known : List (String × α)) (shown : List String) : Decoder α
  | _, .string (.ok name) => variant known shown name
  | _, .string (.error fault) => .error (.text fault)
  | origin, .object members close => do
      let _ ← origin.enter
      match members with
      | [] => match origin, close with
          | .value, _ => .error (.shape (.wrongValue .map "map with a single key"))
          | .text _, .endOfText => .error (.text .truncated)
          | .text _, _ => .error (.text .malformed)
      | (key, draft) :: more => do
          let value ← variant known shown (← ofFault key)
          match draft with
          | .null => pure ()
          | draft => draft.wrongType "unit"
          match origin, more, close with
          | _, [], .closed => return value
          | .text _, [], .endOfText => .error (.text .truncated)
          | .text _, _, _ => .error (.text .malformed)
          | .value, _, _ => .error (.shape (.wrongValue .map "map with a single key"))
  | .text _, .broken .nothing reading _ => .error (.text reading)
  | .text _, .broken .quote reading _ => .error (.text reading)
  | .text _, _ => .error (.text .malformed)
  | .value, draft => draft.wrongType label

/-! ## Records -/

/-- The shape of a record: its fields in order of declaration, the value when none is given, and
how one field is read into it. -/
structure RecordShape (α : Type) where
  label : String
  fields : List String
  required : List String
  default : α
  set : (field : String) → α → Decoder α

/-- Reads members into a record; `seen` are the fields given so far. Unknown members are
skipped. -/
def members (shape : RecordShape α) (origin : Origin) (seen : List String) (record : α) :
    List (Except Fault String × Draft) → Except DecodeError (List String × α)
  | [] => .ok (seen, record)
  | (key, draft) :: rest => do
      let key ← ofFault key
      if key ∈ shape.fields then
        if key ∈ seen then .error (.shape (.duplicateField key))
        else
          let record ← shape.set key record origin draft
          members shape origin (key :: seen) record rest
      else
        ofFault draft.skip
        members shape origin seen record rest

/-- Reads items into the fields of a record, in order; `position` counts them. Fields without an
item keep their default if they may. -/
def items (shape : RecordShape α) (origin : Origin) (close : Close) (position : Nat) (record : α) :
    (fields : List String) → List Draft → Except DecodeError (List Draft × α)
  | [], surplus => .ok (surplus, record)
  | field :: fields, draft :: rest => do
      let record ← shape.set field record origin draft
      items shape origin close (position + 1) record fields rest
  | field :: fields, [] => do
      ofFault (Draft.closeFault close)
      if field ∈ shape.required then
        let count := shape.fields.length
        let plural := if count = 1 then "" else "s"
        .error (.shape (.wrongLength position s!"{shape.label} with {count} element{plural}"))
      else items shape origin close (position + 1) record fields []

/-- A record, given as an object, or as an array of its fields in order. -/
def record (shape : RecordShape α) : Decoder α
  | origin, .object drafts close => do
      let inner ← origin.enter
      let (seen, value) ← members shape inner [] shape.default drafts
      ofFault (Draft.closeFault close)
      match shape.required.find? (· ∉ seen) with
      | some field => .error (.shape (.missingField field))
      | none => return value
  | origin, .array drafts close => do
      let inner ← origin.enter
      let (surplus, value) ← items shape inner close 0 shape.default shape.fields drafts
      match origin, surplus, close with
      | _, [], .closed => return value
      | .value, _, _ =>
          .error (.shape (.wrongLength drafts.length "fewer elements in array"))
      | .text _, [], .endOfText => .error (.text .truncated)
      | .text _, _, _ => .error (.text .malformed)
  | _, draft => draft.wrongType shape.label

/-! ## Running -/

/-- Reads a whole text. -/
def ofText (decoder : Decoder α) (text : String) : Except DecodeError α := do
  let (draft, rest) := Draft.ofText text.toList
  let value ← decoder (.text depthLimit) draft
  if (rest.map Draft.skipBlanks) == some [] then return value else .error (.text .malformed)

/-- Reads a value. -/
def ofValue (decoder : Decoder α) (value : Value) : Except DecodeError α :=
  decoder .value (Draft.ofValue value)

end Decoder

/-- The value that a text spells. -/
def Value.ofText (text : String) : Except DecodeError Value :=
  Decoder.any.ofText text

end Admission.Json
