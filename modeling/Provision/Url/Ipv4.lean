/-
Addresses of four bytes, written as up to four numbers with points between.

A number is decimal, octal after a zero, or hexadecimal after `0x`; the last
one stands for all bytes that are left.  A point may follow it.
-/
import Provision.Text.Decimal

namespace Provision.Url.Ipv4

/-- The value of an octal digit. -/
def octalDigit? (c : Char) : Option Nat :=
  (Text.Decimal.digit? c).filter (· < 8)

/-- The number that a part writes. -/
def number? (part : List Char) : Option Nat :=
  match part with
  | ['0', 'x'] => some 0
  | '0' :: 'x' :: digits => Text.Decimal.read? 16 Text.Decimal.hexDigit? digits
  | '0' :: c :: digits => Text.Decimal.read? 8 octalDigit? (c :: digits)
  | digits => Text.Decimal.value? digits

/-- The parts without an empty one at the end. -/
def dropEmptyLast (parts : List (List Char)) : List (List Char) :=
  if parts.getLast? = some [] then parts.dropLast else parts

/-- Whether the last part makes a name an address: it is a number or looks like
one. -/
def endsInNumber (parts : List (List Char)) : Bool :=
  match (dropEmptyLast parts).getLast? with
  | none => false
  | some last => (!last.isEmpty && last.all Char.isDigit) || (number? last).isSome

/-- The address that the parts write. -/
def read? (parts : List (List Char)) : Option Nat := do
  let numbers ← (dropEmptyLast parts).mapM number?
  let last ← numbers.getLast?
  let bytes := numbers.dropLast
  if 3 < bytes.length ∨ bytes.any (255 < ·) ∨ Nat.pow 256 (4 - bytes.length) ≤ last then none
  else some (bytes.foldr (fun b rest => rest / 256 + b * Nat.pow 2 24) 0 + last)

end Provision.Url.Ipv4
