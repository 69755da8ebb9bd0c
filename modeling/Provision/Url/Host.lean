/-
The host of a URL: a name or an address.
-/
import Provision.Url.Domain
import Provision.Url.Ipv4
import Provision.Url.Ipv6

namespace Provision.Url

/-- Why a text is no URL. -/
inductive Fault where
  | noScheme
  | emptyHost
  | port
  | ipv4
  | ipv6
  | name
  | nameCharacter
  deriving DecidableEq, Repr

/-- The wording of a fault. -/
def Fault.message : Fault → String
  | noScheme => "relative URL without a base"
  | emptyHost => "empty host"
  | port => "invalid port number"
  | ipv4 => "invalid IPv4 address"
  | ipv6 => "invalid IPv6 address"
  | name => "invalid international domain name"
  | nameCharacter => "invalid domain character"

/-- A host. -/
inductive Host where
  /-- A name, by its labels. -/
  | name (labels : List (List Char))
  | ipv4 (address : Nat)
  /-- An address in brackets, as written between them. -/
  | ipv6 (text : List Char)
  /-- A text with no further meaning. -/
  | verbatim (text : List Char)
  deriving DecidableEq, Repr

namespace Host

/-- The bytes of a text in which bytes may be written as `%` and two digits. -/
def percentDecode (cs : List Char) : List UInt8 :=
  match cs with
  | [] => []
  | '%' :: a :: b :: rest =>
    match Text.Decimal.hexDigit? a, Text.Decimal.hexDigit? b with
    | some high, some low => UInt8.ofNat (high * 16 + low) :: percentDecode rest
    | _, _ => 0x25 :: percentDecode (a :: b :: rest)
  | c :: rest => Text.Utf8.encode [c] ++ percentDecode rest
termination_by cs.length

/-- The host in brackets, if there are any. -/
def readBrackets? (cs : List Char) : Option (Except Fault Host) :=
  match cs with
  | '[' :: rest =>
    let text := rest.dropLast
    some (if rest.getLast? = some ']' ∧ Ipv6.isAddress text then .ok (.ipv6 text) else .error .ipv6)
  | _ => none

/-- The host of a URL whose scheme gives hosts a meaning. -/
def read (cs : List Char) : Except Fault Host :=
  match readBrackets? cs with
  | some result => result
  | none =>
    match (Text.Utf8.decode? (percentDecode cs)).bind Domain.read? with
    | none => .error .name
    | some labels =>
      if labels = [[]] then .error .emptyHost
      else if Ipv4.endsInNumber labels then
        match Ipv4.read? labels with
        | some address => .ok (.ipv4 address)
        | none => .error .ipv4
      else .ok (.name labels)

/-- Characters that no host holds. -/
def isForbidden (c : Char) : Bool :=
  c = '\x00' || "\t\n\r #/:<>?@[\\]^|".toList.contains c

/-- The host of a URL with any other scheme. -/
def readVerbatim (cs : List Char) : Except Fault Host :=
  match readBrackets? cs with
  | some result => result
  | none => if cs.any isForbidden then .error .nameCharacter else .ok (.verbatim cs)

end Host

end Provision.Url
