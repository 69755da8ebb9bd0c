/-
Numbers of JSON: integers of 64 bits, and floating-point numbers for
everything else.
-/
import Provision.Text.Decimal
import Provision.Text.Decimal.Real
import Provision.Text.Decimal.Shortest

namespace Provision.Json

/-- A number as it was written. -/
inductive Number where
  | integer (n : Int)
  | real (x : Float)

namespace Number

/-- The floating-point number `± digits * 10 ^ power`, or `none` when it is too
large for one. -/
def real? (negative : Bool) (digits : Nat) (power : Int) : Option Number :=
  (Text.Decimal.finite? digits power).map fun x => .real (if negative then -x else x)

/-- The number with the digits `whole`, the digits `fraction` after the point,
and the power of ten. -/
def ofParts? (negative : Bool) (whole : List Char) (fraction : Option (List Char))
    (power : Option Int) : Option Number :=
  let n := (Text.Decimal.value? whole).getD 0
  match fraction, power with
  | none, none =>
    if negative then
      if 0 < n ∧ n ≤ Nat.pow 2 63 then some (.integer (-(n : Int))) else real? true n 0
    else if n < Nat.pow 2 64 then some (.integer n) else real? false n 0
  | _, _ =>
    let places := fraction.getD []
    real? negative ((Text.Decimal.value? (whole ++ places)).getD 0)
      (power.getD 0 - places.length)

/-- How a message names the number. -/
def describe : Number → String
  | integer n => "integer `" ++ toString n ++ "`"
  | real x => "floating point `" ++ Text.Decimal.Shortest.text x ++ "`"

end Number

end Provision.Json
