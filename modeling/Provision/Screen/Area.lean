/-
Rectangles of cells.

A coordinate is a number of sixteen bits, and so is the edge after the last
row or column: `Area.within` cuts what would reach further.
-/

namespace Provision

/-- A rectangle of cells: its first column and row, and its sizes. -/
structure Area where
  x : Nat
  y : Nat
  width : Nat
  height : Nat
  deriving DecidableEq, Repr, Inhabited

namespace Area

/-- The greatest coordinate. -/
def limit : Nat := 65535

/-- The part of a rectangle that has coordinates. -/
def within (x y width height : Nat) : Area :=
  ⟨x, y, min width (limit - x), min height (limit - y)⟩

/-- The column after the last one. -/
def right (a : Area) : Nat :=
  a.x + a.width

/-- The row after the last one. -/
def bottom (a : Area) : Nat :=
  a.y + a.height

/-- There is no cell in the rectangle. -/
def isEmpty (a : Area) : Bool :=
  a.width == 0 || a.height == 0

/-- Whether the cell in column `x` and row `y` is in the rectangle. -/
def contains (a : Area) (x y : Nat) : Bool :=
  a.x ≤ x && x < a.right && a.y ≤ y && y < a.bottom

/-- The cells that two rectangles share. -/
def intersection (a b : Area) : Area :=
  let x := max a.x b.x
  let y := max a.y b.y
  ⟨x, y, min a.right b.right - x, min a.bottom b.bottom - y⟩

/-- The rectangle without its outermost cells. -/
def shrink (a : Area) : Area :=
  ⟨min (a.x + 1) a.right, min (a.y + 1) a.bottom, a.width - 2, a.height - 2⟩

/-- The rectangle without its first row. -/
def dropRow (a : Area) : Area :=
  ⟨a.x, min (a.y + 1) a.bottom, a.width, a.height - 1⟩

/-- A rectangle of a given size in the middle of `a`, cut to fit. -/
def centered (a : Area) (width height : Nat) : Area :=
  let w := min width a.width
  let h := min height a.height
  within (a.x + (a.width - w) / 2) (a.y + (a.height - h) / 2) w h

end Area

end Provision
