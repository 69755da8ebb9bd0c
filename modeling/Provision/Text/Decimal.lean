/-
Decimal numbers in text.

`value?` reads a non-empty run of the ASCII digits; `word?` reads a number
that fits sixteen bits, before which one plus sign may stand.
-/

namespace Provision.Text.Decimal

/-- The value of one ASCII digit. -/
def digit? (c : Char) : Option Nat :=
  if c.isDigit then some (c.toNat - '0'.toNat) else none

/-- The number that a non-empty run of digits in `base` writes, where `digit`
gives the value of a digit. -/
def read? (base : Nat) (digit : Char → Option Nat) (cs : List Char) : Option Nat :=
  match cs with
  | [] => none
  | _ => cs.foldlM (fun acc c => (digit c).map (acc * base + ·)) 0

/-- The number that a non-empty run of ASCII digits writes. -/
def value? (cs : List Char) : Option Nat :=
  read? 10 digit? cs

/-- A number of sixteen bits; one leading plus sign is allowed. -/
def word? (cs : List Char) : Option UInt16 :=
  let digits := match cs with
    | '+' :: rest => rest
    | _ => cs
  (value? digits).bind fun n => if n < 65536 then some (UInt16.ofNat n) else none

/-- The value of one hexadecimal digit, of either case. -/
def hexDigit? (c : Char) : Option Nat :=
  if c.isDigit then some (c.toNat - '0'.toNat)
  else if 'a' ≤ c ∧ c ≤ 'f' then some (c.toNat - 'a'.toNat + 10)
  else if 'A' ≤ c ∧ c ≤ 'F' then some (c.toNat - 'A'.toNat + 10)
  else none

/-- The lower-case hexadecimal digits of `n`, without leading zeros. -/
def hex (n : Nat) : List Char :=
  Nat.toDigits 16 n

end Provision.Text.Decimal
