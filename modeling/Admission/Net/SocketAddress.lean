import Admission.Net.IpText

/-!
Contract: IP socket addresses, the addresses a listener sees, and who counts as being on the same
host.

Owns:
- `SocketAddress` with its written form, brackets and numeric scope included;
- `Address`, which adds pipes and in-process names;
- the stand-in IP for addresses without one, and `isSameHost`.
-/

namespace Admission.Net

inductive SocketAddress where
  | v4 (ip : BitVec 32) (port : UInt16)
  | v6 (ip : BitVec 128) (port : UInt16) (scope : UInt32)
  deriving DecidableEq, Repr

namespace SocketAddress

def ip : SocketAddress → IpAddress
  | v4 ip _ => .v4 ip
  | v6 ip _ _ => .v6 ip

def port : SocketAddress → UInt16
  | v4 _ port => port
  | v6 _ port _ => port

/-- A decimal number below a bound, of any number of digits. -/
def boundedNumber (bound : Nat) (text : List Char) : Option (Nat × List Char) :=
  let (digits, rest) := IpText.spanDigits IpText.decimalDigit? text
  let value := IpText.ofDigits 10 digits
  if digits.isEmpty || bound ≤ value then none else some (value, rest)

def portText (text : List Char) : Option (UInt16 × List Char) := do
  let (value, rest) ← IpText.expect ':' text >>= boundedNumber 65536
  return (UInt16.ofNat value, rest)

/-- A percent sign and a scope number; without them the scope is zero and nothing is used up. -/
def scopeText (text : List Char) : UInt32 × List Char :=
  match IpText.expect '%' text >>= boundedNumber 4294967296 with
  | some (value, rest) => (UInt32.ofNat value, rest)
  | none => (0, text)

/-- `a.b.c.d:port`. -/
def dottedText (text : List Char) : Option (SocketAddress × List Char) := do
  let (ip, text) ← IpText.dotted .strict text
  let (port, text) ← portText text
  return (v4 ip port, text)

/-- `[address%scope]:port`. -/
def bracketText (text : List Char) : Option (SocketAddress × List Char) := do
  let text ← IpText.expect '[' text
  let (ip, text) ← IpText.colons .strict text
  let (scope, text) := scopeText text
  let text ← IpText.expect ']' text
  let (port, text) ← portText text
  return (v6 ip port scope, text)

def parse? (text : String) : Option SocketAddress :=
  IpText.whole dottedText text.toList <|> IpText.whole bracketText text.toList

/-- The canonical written form. -/
def text : SocketAddress → String
  | v4 ip port => String.ofList (IpText.renderV4 ip ++ ':' :: IpText.decimal port.toNat)
  | v6 ip port scope =>
      let scopeText := if scope = 0 then [] else '%' :: IpText.decimal scope.toNat
      String.ofList
        ('[' :: IpText.renderV6 ip ++ scopeText ++ ']' :: ':' :: IpText.decimal port.toNat)

end SocketAddress

/-- An address as a listener sees it. -/
inductive Address where
  | ip (address : SocketAddress)
  | pipe (path : String)
  /-- The name of an in-process listener. -/
  | internal (name : String)
  deriving DecidableEq, Repr

namespace Address

/-- The IP of the address, if it has one. -/
def ip? : Address → Option IpAddress
  | ip address => some address.ip
  | _ => none

/-- The port of the address, if it has one. -/
def port? : Address → Option UInt16
  | ip address => some address.port
  | _ => none

/-- The IP that addresses without one are matched under. Only ranges that hold it see them. -/
def placeholder : IpAddress := .v4 0xFFFFFFFF#32

/-- The IP under which the address is matched against ranges. -/
def ipOrPlaceholder (address : Address) : IpAddress :=
  address.ip?.getD placeholder

def isIp (address : Address) : Bool :=
  address.ip?.isSome

/-- The written form. -/
def text : Address → String
  | ip address => address.text
  | pipe path => s!"pipe:{path}"
  | internal name => s!"internal:{name}"

/-- Whether a peer is on this host: it has no IP, a loopback IP, or the local IP itself. -/
def isSameHost (localEnd remoteEnd : Address) : Bool :=
  match remoteEnd.ip? with
  | some peer => peer.isLoopback || localEnd.ip? == some peer
  | none => true

end Address

end Admission.Net
