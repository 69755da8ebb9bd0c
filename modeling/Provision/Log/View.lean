/-
The window through which a list of lines is seen.

`offset` is the first line shown.  A window that follows its content stays at
the end when the content grows; scrolling up stops that, and reaching the end
again resumes it.  The sizes are told by whoever draws the window.
-/

namespace Provision

/-- The scroll position of a list of lines. -/
structure LogView where
  /-- The number of the first line shown. -/
  offset : Nat := 0
  /-- Stay at the end when the content grows. -/
  follow : Bool := true
  /-- How many lines there were when the view was last drawn. -/
  total : Nat := 0
  /-- How many lines the view had room for then. -/
  height : Nat := 0
  deriving DecidableEq, Repr, Inhabited

namespace LogView

/-- The offset at which the last line is at the bottom. -/
def lastOffset (v : LogView) : Nat :=
  v.total - v.height

/-- How many lines a page moves: two lines stay in sight, if there is room. -/
def page (v : LogView) : Nat :=
  max (v.height - 2) 1

def up (v : LogView) (n : Nat) : LogView :=
  { v with offset := v.offset - n, follow := false }

def down (v : LogView) (n : Nat) : LogView :=
  let offset := min (v.offset + n) v.lastOffset
  { v with offset, follow := v.follow || decide (v.lastOffset ≤ offset) }

def top (v : LogView) : LogView :=
  { v with offset := 0, follow := false }

def bottom (v : LogView) : LogView :=
  { v with offset := v.lastOffset, follow := true }

def pageUp (v : LogView) : LogView :=
  v.up v.page

def pageDown (v : LogView) : LogView :=
  v.down v.page

/-- Take note of the sizes of content and view. -/
def resize (v : LogView) (total height : Nat) : LogView :=
  let v := { v with total, height }
  { v with offset := if v.follow then v.lastOffset else min v.offset v.lastOffset }

end LogView

end Provision
