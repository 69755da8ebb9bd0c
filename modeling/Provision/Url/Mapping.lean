/-
Mappings of characters, as tables of runs.

A mapping is written as text: runs in ascending order, separated by commas.
`low-high=target` maps a range of hexadecimal code points to the ones from
`target` on, `low/high=target` every second one of it; a single code point may
have a target of several, separated by points.  White space does not count.
-/
import Provision.Text.CodeSet

namespace Provision.Url

/-- Code points that are mapped alike. -/
structure MappingRun where
  low : Nat
  high : Nat
  /-- Only every second one is mapped. -/
  alternate : Bool
  /-- What the first one is mapped to. -/
  target : List Nat
  deriving Inhabited

/-- A mapping: runs in ascending order. -/
structure Mapping where
  runs : Array MappingRun
  deriving Inhabited

namespace MappingRun

open Text.CodeSet (split point)

/-- The run that a text writes. -/
def ofText (cs : List Char) : MappingRun :=
  match split '=' cs with
  | [points, target] =>
    let target := (split '.' target).map point
    match split '-' points, split '/' points with
    | [low, high], _ => ⟨point low, point high, false, target⟩
    | _, [low, high] => ⟨point low, point high, true, target⟩
    | _, _ => ⟨point points, point points, false, target⟩
  | _ => ⟨0, 0, false, []⟩

/-- What the code point `n` of a run is mapped to. -/
def image? (r : MappingRun) (n : Nat) : Option (List Char) :=
  if r.alternate ∧ (n - r.low) % 2 = 1 then none
  else
    match r.target with
    | [t] => some [Char.ofNat (t + (n - r.low))]
    | ts => some (ts.map Char.ofNat)

end MappingRun

namespace Mapping

/-- The mapping that a text writes. -/
def ofText (text : String) : Mapping :=
  let marks := text.toList.filter (!·.isWhitespace)
  ⟨((Text.CodeSet.split ',' marks).map MappingRun.ofText).toArray⟩

/-- The image of `n` by one of the runs with index from `low` to below `high`. -/
def search (runs : Array MappingRun) (n low high : Nat) : Option (List Char) :=
  if _h : low < high then
    let mid := (low + high) / 2
    match runs[mid]? with
    | none => none
    | some r =>
      if n < r.low then search runs n low mid
      else if r.high < n then search runs n (mid + 1) high
      else r.image? n
  else none
termination_by high - low

/-- What a character is mapped to, if it is. -/
def find? (m : Mapping) (c : Char) : Option (List Char) :=
  search m.runs c.toNat 0 m.runs.size

end Mapping

end Provision.Url
