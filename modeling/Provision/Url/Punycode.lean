/-
Punycode: text of any characters, written with letters, digits and hyphens.

The ASCII characters come first, then a hyphen if there are any; the digits
after it say at which place which other character is put in next.  A number
takes as many digits as it needs: a digit below the threshold of its place is
the last one.  The thresholds follow the size of the numbers before.
-/

namespace Provision.Url.Punycode

/-- The value of a digit: the letters, then the decimal digits. -/
def digit? (c : Char) : Option Nat :=
  if 'a' ≤ c ∧ c ≤ 'z' then some (c.toNat - 'a'.toNat)
  else if 'A' ≤ c ∧ c ≤ 'Z' then some (c.toNat - 'A'.toNat)
  else if '0' ≤ c ∧ c ≤ '9' then some (c.toNat - '0'.toNat + 26)
  else none

/-- The threshold of the digit at place `k`, which is a multiple of 36. -/
def threshold (bias k : Nat) : Nat :=
  min (max (k - bias) 1) 26

/-- Divide by 35 until the number is small; the number, and 36 for each time. -/
def scale (delta k : Nat) : Nat × Nat :=
  if _h : 455 < delta then scale (delta / 35) (k + 36) else (delta, k)
termination_by delta
decreasing_by exact Nat.div_lt_self (by omega) (by omega)

/-- The bias after a number `delta` that made the text `length` characters long. -/
def adapt (delta length : Nat) (isFirst : Bool) : Nat :=
  let delta := if isFirst then delta / 700 else delta / 2
  let (delta, k) := scale (delta + delta / length) 0
  k + 36 * delta / (delta + 38)

/-- What was read so far. -/
structure State where
  text : List Char
  /-- The character that was put in last, as a code point. -/
  point : Nat := 128
  /-- The place after it. -/
  place : Nat := 0
  bias : Nat := 72
  /-- The number that is being read, as far as it is. -/
  number : Nat := 0
  /-- What the next digit counts. -/
  weight : Nat := 1
  /-- The place of the next digit, times 36. -/
  k : Nat := 36

/-- Put the character in that the number which was read stands for. -/
def State.insert? (s : State) : Option State :=
  let length := s.text.length + 1
  let sum := s.place + s.number
  let point := s.point + sum / length
  let place := sum % length
  if point < 0xD800 ∨ (0xE000 ≤ point ∧ point < 0x110000) then
    some {
      text := s.text.insertIdx place (Char.ofNat point)
      point
      place := place + 1
      bias := adapt s.number length (s.place = 0) }
  else none

/-- Read one digit. -/
def State.read? (s : State) (c : Char) : Option State := do
  let d ← digit? c
  let t := threshold s.bias s.k
  let s := { s with number := s.number + d * s.weight, k := s.k + 36 }
  if d < t then s.insert? else some { s with weight := s.weight * (36 - t) }

/-- The text before the last hyphen, which has to be ASCII, and the digits after
it.  A hyphen in front counts as a digit. -/
def parts (cs : List Char) : List Char × List Char :=
  let digits := (cs.reverse.takeWhile (· ≠ '-')).reverse
  let basic := cs.take (cs.length - digits.length - 1)
  if basic.isEmpty then ([], cs) else (basic, digits)

/-- The text that a label writes. -/
def decode? (cs : List Char) : Option (List Char) := do
  let (basic, digits) := parts cs
  if basic.any (0x80 ≤ ·.toNat) then none
  let s ← digits.foldlM State.read? { text := basic }
  if s.weight = 1 ∧ s.k = 36 then some s.text else none

end Provision.Url.Punycode
