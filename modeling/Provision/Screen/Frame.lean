/-
Frames around rectangles, and scrollbars on them.
-/
import Provision.Screen

namespace Provision.Screen

/-- Put one symbol into a cell. -/
def putSymbol (s : Screen) (x y : Nat) (symbol : Char) (style : Style) : Screen :=
  s.modify x y (·.put [symbol] style)

/-! ### Frames -/

/-- A rule along the first row of a rectangle. -/
def topRule (s : Screen) (a : Area) (style : Style) : Screen :=
  s.modifyArea { a with height := min a.height 1 } (·.put ['─'] style)

/-- A frame on the outermost cells of a rectangle.  Where sides and corners meet
in one cell, the one drawn last is seen: the sides from the left around, and
then the corners from the lower right. -/
def frame (s : Screen) (a : Area) (style : Style) : Screen :=
  let a := a.intersection s.area
  if a.isEmpty then s
  else
    let last := a.right - 1
    let low := a.bottom - 1
    let s := s.modifyArea { a with width := 1 } (·.put ['│'] style)
    let s := s.topRule a style
    let s := s.modifyArea { a with x := last, width := 1 } (·.put ['│'] style)
    let s := s.modifyArea { a with y := low, height := 1 } (·.put ['─'] style)
    let s := s.putSymbol last low '╯' style
    let s := s.putSymbol last a.y '╮' style
    let s := s.putSymbol a.x low '╰' style
    s.putSymbol a.x a.y '╭' style

/-- A title in the first row of a frame, between its corners. -/
def title (s : Screen) (a : Area) (text : String) : Screen :=
  let a := a.intersection s.area
  if a.isEmpty then s else s.writeLine (a.x + 1) a.y (a.width - 2) [⟨text, {}⟩]

/-! ### Scrollbars -/

/-- The quotient, rounded to the nearest number. -/
def roundDiv (n d : Nat) : Nat :=
  (n + d / 2) / d

/-- The thumb of a scrollbar: its first row on a track of `track` rows, and its
length.  It stands for the line `offset` of `total` lines, seen through a view
of `height` rows. -/
def thumb (track height total offset : Nat) : Nat × Nat :=
  let last := total - 1
  let whole := last + height
  let length := min (max (roundDiv (height * track) whole) 1) track
  (min (roundDiv (min offset last * track) whole) (track - length), length)

/-- A scrollbar on the last column of a rectangle that has a row between the
arrows. -/
def scrollbar (s : Screen) (a : Area) (total offset : Nat) : Screen :=
  if a.height < 3 ∨ a.width = 0 then s
  else
    let x := a.right - 1
    let track := a.height - 2
    let (start, length) := thumb track a.height total offset
    let s := s.putSymbol x a.y '▲' {}
    let s := s.modifyArea ⟨x, a.y + 1, 1, track⟩ (·.put ['│'] {})
    let s := s.modifyArea ⟨x, a.y + 1 + start, 1, length⟩ (·.put ['█'] {})
    s.putSymbol x (a.bottom - 1) '▼' {}

end Provision.Screen
