/-
Colours and styles.

A style names some of the properties of a cell; putting it on a cell changes
only what it names.
-/

namespace Provision

/-- A colour. -/
inductive Color where
  /-- The terminal's own. -/
  | reset
  | black
  | red
  | green
  | yellow
  | blue
  | cyan
  | gray
  | darkGray
  | white
  | rgb (red green blue : UInt8)
  deriving DecidableEq, Repr, Inhabited

/-- What is to change in the look of a cell. -/
structure Style where
  foreground : Option Color := none
  background : Option Color := none
  bold : Bool := false
  deriving DecidableEq, Repr, Inhabited

namespace Style

/-- A foreground colour. -/
def ink (c : Color) : Style :=
  { foreground := some c }

/-- A background colour. -/
def paper (c : Color) : Style :=
  { background := some c }

/-- The style, and bold. -/
def strong (s : Style) : Style :=
  { s with bold := true }

/-- The style, and a background colour. -/
def on (s : Style) (c : Color) : Style :=
  { s with background := some c }

end Style

end Provision
