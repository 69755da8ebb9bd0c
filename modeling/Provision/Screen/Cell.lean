/-
The cells of a screen.
-/
import Provision.Screen.Style

namespace Provision

/-- One cell: the cluster shown in it, and its look. -/
structure Cell where
  symbol : List Char := [' ']
  foreground : Color := .reset
  background : Color := .reset
  bold : Bool := false
  deriving DecidableEq, Repr, Inhabited

namespace Cell

/-- Put a style on the cell. -/
def restyle (c : Cell) (s : Style) : Cell :=
  { c with
    foreground := s.foreground.getD c.foreground
    background := s.background.getD c.background
    bold := c.bold || s.bold }

/-- Show a cluster in the cell, in a style. -/
def put (c : Cell) (symbol : List Char) (s : Style) : Cell :=
  { c.restyle s with symbol }

/-- Whether two cells look alike, whatever they show. -/
def sameLook (a b : Cell) : Bool :=
  a.foreground == b.foreground && a.background == b.background && a.bold == b.bold

end Cell

end Provision
