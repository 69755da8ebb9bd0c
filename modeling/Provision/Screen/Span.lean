/-
Pieces of text with a style.

What a screen can show of a text are its clusters; one with a control character
in it is left out.  The columns of a cluster are counted in sixteen bits.  A line is
measured as a whole, and may be shown in more columns or fewer.
-/
import Provision.Screen.Style
import Provision.Text.Cluster
import Provision.Text.Width

namespace Provision

/-- A text in one style. -/
structure Span where
  text : String
  style : Style := {}
  deriving DecidableEq, Repr, Inhabited

/-- A row of spans. -/
abbrev Line := List Span

/-- A control character. -/
def Text.isControl (c : Char) : Bool :=
  c.toNat < 0x20 || (0x7F ≤ c.toNat && c.toNat < 0xA0)

/-- The clusters of a text that a screen can show, with their widths. -/
def Text.printable (text : String) : List (List Char × Nat) :=
  let shown := (clusters text.toList).filter fun cluster => !cluster.any isControl
  shown.map fun cluster => (cluster, widthOf cluster % 65536)

namespace Line

/-- The columns of a line, as it is measured. -/
def width (line : Line) : Nat :=
  line.foldr (fun span w => Text.width span.text + w) 0

/-- What a screen can show of a line: clusters with their widths and styles. -/
def printable (line : Line) : List (List Char × Nat × Style) :=
  line.flatMap fun span =>
    (Text.printable span.text).map fun (cluster, w) => (cluster, w, span.style)

/-- The start of a line that fits into `room` columns.  What would not fit into
`width` columns alone is left out; the first cluster that does not fit any more
ends the line. -/
def fitting (width room : Nat) : List (List Char × Nat × Style) → List (List Char × Nat × Style)
  | [] => []
  | (cluster, w, style) :: rest =>
    if width < w then fitting width room rest
    else if room < w then []
    else (cluster, w, style) :: fitting width (room - w) rest

end Line

end Provision
