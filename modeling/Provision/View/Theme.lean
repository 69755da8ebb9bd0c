/-
The look of the program: which colour stands for what.
-/
import Provision.Phase
import Provision.Screen.Style

namespace Provision.View.Theme

/-- Behind everything. -/
def backdrop : Color := .black

/-- Behind a dialog. -/
def dialogPaper : Color := .rgb 28 33 43

/-- The shadow of a dialog. -/
def shadow : Color := .rgb 5 6 8

/-- What is selected or active. -/
def accent : Style := .ink .cyan

def accentBold : Style := accent.strong

/-- The label of the focused field. -/
def focused : Style := ((Style.ink .black).on .cyan).strong

def primary : Style := .ink .white

def secondary : Style := .ink .gray

def muted : Style := .ink .darkGray

def failure : Style := .ink .red

/-- A key in a hint. -/
def keyHint : Style := .ink .yellow

/-- The sign of a phase. -/
def icon : Phase → String
  | .idle | .cancelled => "○"
  | .connecting => "◌"
  | .installing => "↻"
  | .complete => "●"
  | .failed _ => "✗"

/-- The style of a phase's sign and name. -/
def ofPhase : Phase → Style
  | .idle => muted
  | .connecting => (Style.ink .yellow).strong
  | .installing => (Style.ink .blue).strong
  | .complete => (Style.ink .green).strong
  | .failed _ => failure.strong
  | .cancelled => .ink .yellow

end Provision.View.Theme
