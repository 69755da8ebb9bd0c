/-
What each key asks for.

In the dialog a key answers the question; otherwise the scrolling keys and
Ctrl+C work everywhere, and the other keys drive the log while a session runs
and edit the form while none does.  On the protocol selector a few characters
are commands; in a text field every character is text.
-/
import Provision.App.State

namespace Provision.App

/-- The keys of the dialog. -/
def dialogKey : Key → Option Command
  | .char 'y' | .char 'Y' | .char 'q' | .enter => some .confirmQuit
  | .char 'n' | .char 'N' | .escape => some .cancelQuit
  | .control 'c' => some .quit
  | _ => none

/-- The keys of a running session. -/
def sessionKey : Key → Option Command
  | .escape => some .cancel
  | .char 'q' => some .requestQuit
  | .up | .char 'k' => some .scrollUp
  | .down | .char 'j' => some .scrollDown
  | .home | .char 'g' => some .scrollToTop
  | .endKey | .char 'G' => some .scrollToBottom
  | _ => none

/-- The keys of the protocol selector that a text field does not have. -/
def selectorKey : Key → Option Command
  | .left => some .previousProtocol
  | .right => some .nextProtocol
  | .char ' ' => some .nextProtocol
  | .char 'q' => some .requestQuit
  | _ => none

/-- The keys of a text field that the protocol selector does not have. -/
def textKey : Key → Option Command
  | .char c => some (.type c)
  | .backspace => some .backspace
  | .control 'u' => some .clearField
  | _ => none

/-- The keys of the form. -/
def formKey (focus : Field) : Key → Option Command
  | .tab | .down => some .focusNext
  | .backTab | .up => some .focusPrevious
  | .enter => some .submit
  | .home => some .scrollToTop
  | .endKey => some .scrollToBottom
  | key => if focus = .protocol then selectorKey key else textKey key

/-- What a key asks for in this state. -/
def keyCommand (a : App) (key : Key) : Option Command :=
  match a.mode with
  | .confirm => dialogKey key
  | .normal =>
    match key with
    | .control 'c' => some .requestQuit
    | .pageUp => some .pageUp
    | .pageDown => some .pageDown
    | _ => if a.inProgress then sessionKey key else formKey a.form.focus key

end Provision.App
