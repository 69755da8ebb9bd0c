/-
A screen: rows of cells.

Everything is drawn cell by cell, and what lies outside the screen is not
drawn.  A cluster two columns wide is held by its first cell; `shown` blanks
the cell after it, which the cluster covers on a terminal.
-/
import Provision.Screen.Area
import Provision.Screen.Cell
import Provision.Screen.Span

namespace Provision

/-- The cells, row by row. -/
structure Screen where
  width : Nat
  height : Nat
  cells : Array Cell
  deriving DecidableEq, Repr, Inhabited

namespace Screen

/-- A screen with the same cell everywhere. -/
def filled (width height : Nat) (cell : Cell) : Screen :=
  ⟨width, height, Array.replicate (width * height) cell⟩

/-- An empty screen. -/
def blank (width height : Nat) : Screen :=
  filled width height {}

/-- The rectangle of all cells. -/
def area (s : Screen) : Area :=
  ⟨0, 0, s.width, s.height⟩

/-- Change one cell, if it is on the screen. -/
def modify (s : Screen) (x y : Nat) (f : Cell → Cell) : Screen :=
  if x < s.width ∧ y < s.height then
    { s with cells := s.cells.modify (y * s.width + x) f }
  else s

/-- Change every cell of a rectangle. -/
def modifyArea (s : Screen) (a : Area) (f : Cell → Cell) : Screen :=
  { s with
    cells := s.cells.mapIdx fun i c => if a.contains (i % s.width) (i / s.width) then f c else c }

/-- Put a style on a rectangle. -/
def restyle (s : Screen) (a : Area) (style : Style) : Screen :=
  s.modifyArea a (·.restyle style)

/-- Empty a rectangle. -/
def clear (s : Screen) (a : Area) : Screen :=
  s.modifyArea a fun _ => {}

/-! ### Text -/

/-- Empty cells from column `x` on, `count` of them. -/
def clearCells (s : Screen) (x y : Nat) : Nat → Screen
  | 0 => s
  | count + 1 => (s.modify x y fun _ => {}).clearCells (x + 1) y count

/-- Write clusters from column `x` on, until one does not fit into `room`
columns; the column after the last one.  The cells that a wide cluster covers
are emptied. -/
def writeClusters (s : Screen) (x y room : Nat) (style : Style) :
    List (List Char × Nat) → Screen × Nat
  | [] => (s, x)
  | (cluster, w) :: rest =>
    if room < w then (s, x)
    else if w = 0 then s.writeClusters x y room style rest
    else
      let s := (s.modify x y (·.put cluster style)).clearCells (x + 1) y (w - 1)
      s.writeClusters (x + w) y (room - w) style rest

/-- Write a line from column `x` on, into at most `room` columns. -/
def writeLine (s : Screen) (x y room : Nat) : Line → Screen
  | [] => s
  | span :: rest =>
    let fit := min room (s.width - x)
    let (s, next) := s.writeClusters x y fit span.style (Text.printable span.text)
    s.writeLine next y (room - (next - x)) rest

/-- Put clusters one after the other from column `x` on. -/
def putClusters (s : Screen) (x y : Nat) : List (List Char × Nat × Style) → Screen
  | [] => s
  | (cluster, w, style) :: rest =>
    if w = 0 then s.putClusters x y rest
    else (s.modify x y (·.put cluster style)).putClusters (x + w) y rest

/-- Where the lines of a paragraph stand. -/
inductive Alignment where
  | left
  | center
  deriving DecidableEq, Repr

/-- The columns before a line that is `width` columns wide. -/
def Alignment.indent (a : Alignment) (room width : Nat) : Nat :=
  match a with
  | left => 0
  | center => room / 2 - width / 2

/-- Put the lines of a paragraph into the rows from `y` on, down to `bottom`. -/
def putLines (s : Screen) (x y bottom room : Nat) (align : Alignment) : List Line → Screen
  | [] => s
  | line :: rest =>
    if bottom ≤ y then s
    else
      let clusters := Line.fitting room room (Line.printable line)
      let width := clusters.foldr (fun cluster w => cluster.2.1 + w) 0
      (s.putClusters (x + align.indent room width) y clusters).putLines x (y + 1) bottom room align
        rest

/-- Write a paragraph into a rectangle: a line in each row, cut at its width. -/
def paragraph (s : Screen) (a : Area) (align : Alignment) (lines : List Line) : Screen :=
  let a := a.intersection s.area
  if a.isEmpty then s else s.putLines a.x a.y a.bottom a.width align lines

/-! ### What a terminal shows -/

/-- The cells of a row as a terminal shows them, where the cell before was shown
(`before`) and is `wide`. -/
def shownRow (wide keeps : Bool) : List Cell → List Cell
  | [] => []
  | c :: rest =>
    let covers := 2 ≤ Text.widthOf c.symbol
    let isShown := !wide || keeps
    let shown := if isShown then c else {}
    shown :: shownRow covers (isShown && c.symbol.contains '\uFE0F') rest

/-- The rows of the screen. -/
def rows (s : Screen) : List (List Cell) :=
  (List.range s.height).map fun y =>
    (s.cells.extract (y * s.width) ((y + 1) * s.width)).toList

/-- The screen as a terminal shows it: the cell that a wide cluster covers is
blank.  Only after an emoji with U+FE0F the terminal is told that cell too. -/
def shown (s : Screen) : Screen :=
  { s with cells := (s.rows.flatMap (shownRow false false)).toArray }

end Screen

end Provision
