/-
Sets of characters, as tables of ranges.

A set is written as text: inclusive ranges of hexadecimal code points in
ascending order, separated by commas, a range of one point without its dash.
White space between them does not count.  Whether a character is in the set is
found by halving the table.
-/
import Provision.Text.Decimal

namespace Provision.Text

/-- A set of code points: inclusive ranges in ascending order. -/
structure CodeSet where
  ranges : Array (Nat × Nat)
  deriving Inhabited

namespace CodeSet

/-- The pieces of `cs` between the characters `mark`. -/
def split (mark : Char) (cs : List Char) : List (List Char) :=
  cs.foldr
    (fun c pieces =>
      if c = mark then [] :: pieces
      else match pieces with
        | piece :: pieces => (c :: piece) :: pieces
        | [] => [[c]])
    [[]]

/-- The number that hexadecimal digits write; zero if they write none. -/
def point (cs : List Char) : Nat :=
  (Decimal.read? 16 Decimal.hexDigit? cs).getD 0

/-- The ranges that characters write. -/
def rangesOf (cs : List Char) : List (Nat × Nat) :=
  (split ',' (cs.filter (!·.isWhitespace))).map fun range =>
    match split '-' range with
    | [low, high] => (point low, point high)
    | _ => (point range, point range)

/-- The set that a text writes. -/
def ofText (text : String) : CodeSet :=
  ⟨(rangesOf text.toList).toArray⟩

/-- Whether `n` is in one of the ranges with index from `low` to below `high`. -/
def search (ranges : Array (Nat × Nat)) (n low high : Nat) : Bool :=
  if _h : low < high then
    let mid := (low + high) / 2
    match ranges[mid]? with
    | none => false
    | some (first, last) =>
      if n < first then search ranges n low mid
      else if last < n then search ranges n (mid + 1) high
      else true
  else false
termination_by high - low

/-- Whether a character is in the set. -/
def contains (s : CodeSet) (c : Char) : Bool :=
  search s.ranges c.toNat 0 s.ranges.size

end CodeSet

end Provision.Text
