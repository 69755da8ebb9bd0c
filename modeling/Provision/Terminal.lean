/-
Screens as text for a terminal.

A screen is drawn from its upper left corner, row by row.  The look is set where
a cell looks different from the one before it.
-/
import Provision.Screen

namespace Provision.Terminal

/-- A control sequence. -/
def control (parameters : List Nat) (last : String) : String :=
  "\x1b[" ++ String.intercalate ";" (parameters.map toString) ++ last

/-- The parameters of a colour, where `base` is 30 for the foreground and 40 for the
background. -/
def parameters (base : Nat) : Color → List Nat
  | .reset => [base + 9]
  | .black => [base]
  | .red => [base + 1]
  | .green => [base + 2]
  | .yellow => [base + 3]
  | .blue => [base + 4]
  | .cyan => [base + 6]
  | .gray => [base + 7]
  | .darkGray => [base + 60]
  | .white => [base + 67]
  | .rgb red green blue => [base + 8, 2, red.toNat, green.toNat, blue.toNat]

/-- Set the look of a cell. -/
def look (c : Cell) : String :=
  control (0 :: (if c.bold then [1] else []) ++ parameters 30 c.foreground ++
    parameters 40 c.background) "m"

/-- The cells of a row, where the look of the cell before is set already, and
`covered` columns belong to a cluster that was written. -/
def cells (before : Option Cell) (covered : Nat) : List Cell → String
  | [] => ""
  | c :: rest =>
    match covered with
    | covered + 1 => cells before covered rest
    | 0 =>
      let set := if before.any c.sameLook then "" else look c
      set ++ String.ofList c.symbol ++ cells (some c) (Text.widthOf c.symbol - 1) rest

/-- Draw a screen. -/
def draw (s : Screen) : String :=
  let row (cs : List Cell) (y : Nat) : String := control [y + 1, 1] "H" ++ cells none 0 cs
  String.join (s.rows.zipIdx.map fun (cs, y) => row cs y)

/-- Leave the lines of the shell alone, and hide the cursor. -/
def enter : String :=
  "\x1b[?1049h\x1b[?25l"

/-- Give the terminal back. -/
def leave : String :=
  control [0] "m" ++ "\x1b[?25h\x1b[?1049l"

end Provision.Terminal
