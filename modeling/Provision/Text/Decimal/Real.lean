/-
Decimal numbers as binary floating-point numbers.
-/

namespace Provision.Text.Decimal

/-- The number `digits * 10 ^ power`, or `none` when it is too large.  A power
that is far out of range is decided without computing it. -/
def finite? (digits : Nat) (power : Int) : Option Float :=
  let size := (Nat.toDigits 10 digits).length + power
  if digits = 0 ∨ size < -400 then some 0.0
  else if 400 < size then none
  else
    let x := Float.ofScientific digits (decide (power < 0)) power.natAbs
    if x.isInf then none else some x

end Provision.Text.Decimal
