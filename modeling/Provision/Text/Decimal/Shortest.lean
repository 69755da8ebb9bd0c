/-
The shortest decimal text of a binary floating-point number.

A finite positive number is `m * 2 ^ q`.  The decimals that read back as it
are those of an interval around it, whose ends count when `m` is even.  Among
the grids of decimals with one, two, three, ... significant digits the first
one that has a point in the interval gives the digits; of two points the
nearer one is taken.  The text is positional, whatever the magnitude, and
always has a decimal point.
-/

namespace Provision.Text.Decimal.Shortest

/-- A number `m * 2 ^ q` with the interval of the numbers that round to it,
all over one denominator. -/
structure Target where
  value : Nat
  low : Nat
  high : Nat
  unit : Nat
  closed : Bool

/-- The interval of `m * 2 ^ q`.  The gap below is half as wide when `m` is the
least mantissa of its binade. -/
def Target.of (m : Nat) (q : Int) (narrow : Bool) : Target :=
  let up := Nat.pow 2 (q - 2).toNat
  { value := 4 * m * up
    low := (4 * m - if narrow then 1 else 2) * up
    high := (4 * m + 2) * up
    unit := Nat.pow 2 (2 - q).toNat
    closed := m % 2 == 0 }

/-- Whether `d * 10 ^ k` rounds to the target. -/
def Target.admits (t : Target) (d : Nat) (k : Int) : Bool :=
  let x := d * Nat.pow 10 k.toNat * t.unit
  let scale := Nat.pow 10 (-k).toNat
  if t.closed then t.low * scale ≤ x && x ≤ t.high * scale
  else t.low * scale < x && x < t.high * scale

/-- The distance of `d * 10 ^ k` from the target, on the common scale. -/
def Target.distance (t : Target) (d : Nat) (k : Int) : Nat :=
  let x := d * Nat.pow 10 k.toNat * t.unit
  let v := t.value * Nat.pow 10 (-k).toNat
  (x - v) + (v - x)

/-- The number of decimal places before the point, at most zero for a number
below one tenth; `fuel` bounds the search. -/
def Target.magnitude (t : Target) : Nat → Nat → Int
  | 0, j => -(j : Int)
  | fuel + 1, j =>
    if t.unit ≤ t.value * Nat.pow 10 j then
      ((Nat.toDigits 10 (t.value * Nat.pow 10 j / t.unit)).length : Int) - j
    else magnitude t fuel (j + 1)

/-- The point of the grid with `n` digits that rounds to the target. -/
def Target.onGrid? (t : Target) (magnitude : Int) (n : Nat) : Option (Nat × Int) :=
  let k := magnitude - n
  let down := t.value * Nat.pow 10 (-k).toNat / (t.unit * Nat.pow 10 k.toNat)
  match t.admits down k, t.admits (down + 1) k with
  | true, true =>
    if t.distance (down + 1) k < t.distance down k then some (down + 1, k) else some (down, k)
  | true, false => some (down, k)
  | false, true => some (down + 1, k)
  | false, false => none

/-- The fewest digits `d` and the power `k` with `d * 10 ^ k` in the interval. -/
def Target.shortest (t : Target) : Nat × Int :=
  let magnitude := t.magnitude 400 0
  (((List.range 17).map (· + 1)).findSome? (t.onGrid? magnitude)).getD (0, 0)

/-- The positional text of `d * 10 ^ k`, with a decimal point. -/
def positional (d : Nat) (k : Int) : String :=
  let digits := Nat.toDigits 10 d ++ List.replicate k.toNat '0'
  let places := (-k).toNat
  let padded := List.replicate (places + 1 - digits.length) '0' ++ digits
  let whole := padded.take (padded.length - places)
  let fraction := padded.drop (padded.length - places)
  String.ofList (whole ++ '.' :: if fraction.isEmpty then ['0'] else fraction)

/-- The text of a finite floating-point number. -/
def text (x : Float) : String :=
  let bits := x.toBits.toNat
  let mantissa : Nat := bits % Nat.pow 2 52
  let exponent : Nat := bits / Nat.pow 2 52 % Nat.pow 2 11
  let sign := if bits / Nat.pow 2 63 = 1 then "-" else ""
  if mantissa = 0 ∧ exponent = 0 then sign ++ "0.0"
  else
    let (m, q) : Nat × Int :=
      if exponent = 0 then (mantissa, -1074) else (mantissa + Nat.pow 2 52, (exponent : Int) - 1075)
    let (d, k) := (Target.of m q (mantissa == 0 && decide (1 < exponent))).shortest
    sign ++ positional d k

end Provision.Text.Decimal.Shortest
