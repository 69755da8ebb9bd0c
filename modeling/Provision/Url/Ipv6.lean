/-
Addresses of eight pieces, written in hexadecimal with colons between.

Two colons may stand, once, for the pieces that are missing, at least one; the
last two pieces may be written as four decimal bytes with points between.
-/
import Provision.Text.CodeSet

namespace Provision.Url.Ipv6

/-- A hexadecimal digit. -/
def isHex (c : Char) : Bool :=
  (Text.Decimal.hexDigit? c).isSome

/-- One of four bytes: decimal, without leading zeros. -/
def isByte (cs : List Char) : Bool :=
  (Text.Decimal.value? cs).any (· ≤ 255) && (cs.length = 1 || cs.head? ≠ some '0')

/-- Four bytes with points between. -/
def isQuad (cs : List Char) : Bool :=
  let parts := Text.CodeSet.split '.' cs
  parts.length = 4 && parts.all isByte

/-- Whether `cs` completes an address of which `pieces` are read, the missing ones
(`gap`) counted as one; `fuel` bounds the length. -/
def completes (fuel pieces : Nat) (gap : Bool) (cs : List Char) : Bool :=
  match fuel, cs with
  | 0, _ => false
  | _ + 1, [] => gap || pieces = 8
  | fuel + 1, c :: rest =>
    if pieces = 8 then false
    else if c = ':' then !gap && completes fuel (pieces + 1) true rest
    else
      let digits := (cs.take 4).takeWhile isHex
      match cs.drop digits.length with
      | [] => completes fuel (pieces + 1) gap []
      | ':' :: rest => !rest.isEmpty && completes fuel (pieces + 1) gap rest
      | '.' :: _ => !digits.isEmpty && pieces ≤ 6 && isQuad cs && (gap || pieces = 6)
      | _ => false

/-- Whether a text is an address. -/
def isAddress (cs : List Char) : Bool :=
  match cs with
  | ':' :: ':' :: rest => completes (cs.length + 1) 1 true rest
  | ':' :: _ | [] | [_] => false
  | _ => completes (cs.length + 1) 0 false cs

end Provision.Url.Ipv6
