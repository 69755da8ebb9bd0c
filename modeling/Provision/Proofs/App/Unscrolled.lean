/-
The application without the place in its log.

Where the log is scrolled is for the eyes only: no message does anything else because
of it.  Forgetting the view of the log before a message comes to the same as
forgetting it after (`update_unscrolled`, `dispatch_unscrolled`), and what the message
asks for is the same as well.
-/
import Provision.App.Update

namespace Provision.App

/-- The application, but for the view of its log. -/
def unscrolled (a : App) : App :=
  a.onLog (·.scroll fun _ => {})

def Change.unscrolled (c : Change) : Change :=
  (c.1.unscrolled, c.2)

def Outcome.unscrolled (o : Outcome) : Outcome :=
  { o with app := o.app.unscrolled }

/-! ### Commands -/

theorem edit_unscrolled (a : App) (f : Form → Form) :
    (a.unscrolled.edit f).unscrolled = (a.edit f).unscrolled := by
  have hrun : a.unscrolled.inProgress = a.inProgress := rfl
  rw [edit, edit, hrun]
  split <;> rfl

theorem submit_unscrolled (a : App) : a.unscrolled.submit.unscrolled = a.submit.unscrolled := by
  have hrun : a.unscrolled.inProgress = a.inProgress := rfl
  have hform : a.unscrolled.form = a.form := rfl
  rw [submit, submit, hrun, hform]
  split
  · rfl
  · rcases a.form.submit with error | request <;> rfl

theorem cancel_unscrolled (a : App) : a.unscrolled.cancel.unscrolled = a.cancel.unscrolled := by
  have hrun : a.unscrolled.inProgress = a.inProgress := rfl
  rw [cancel, cancel, hrun]
  split <;> rfl

theorem cancelIfQuitting_unscrolled (a : App) :
    a.unscrolled.cancelIfQuitting.unscrolled = a.cancelIfQuitting.unscrolled := by
  have hquit : (a.unscrolled.quitting && a.unscrolled.inProgress) =
      (a.quitting && a.inProgress) := rfl
  rw [cancelIfQuitting, cancelIfQuitting, hquit]
  split <;> rfl

theorem requestQuit_unscrolled (a : App) :
    a.unscrolled.requestQuit = a.requestQuit.unscrolled := by
  have hask : (a.unscrolled.inProgress && a.unscrolled.settings.confirmQuit) =
      (a.inProgress && a.settings.confirmQuit) := rfl
  rw [requestQuit, requestQuit, hask]
  split <;> rfl

theorem perform_unscrolled (a : App) (c : Command) :
    (a.unscrolled.perform c).unscrolled = (a.perform c).unscrolled := by
  cases c with
  | focusNext | focusPrevious | nextProtocol | previousProtocol | type | backspace | clearField =>
    exact a.edit_unscrolled _
  | submit => exact a.submit_unscrolled
  | cancel => exact a.cancel_unscrolled
  | scrollUp | scrollDown | scrollToTop | scrollToBottom | pageUp | pageDown | cancelQuit => rfl
  | requestQuit =>
    show a.unscrolled.requestQuit.cancelIfQuitting.unscrolled = _
    rw [requestQuit_unscrolled]
    exact a.requestQuit.cancelIfQuitting_unscrolled
  | confirmQuit => exact cancelIfQuitting_unscrolled { a with mode := .normal, quitting := true }
  | quit => exact cancelIfQuitting_unscrolled { a with quitting := true }

/-! ### Messages -/

theorem receive_unscrolled (a : App) (e : Event) :
    (a.unscrolled.receive e).unscrolled = (a.receive e).unscrolled := by
  have hrun : a.unscrolled.inProgress = a.inProgress := rfl
  rcases h : a.inProgress
  · simp only [receive, hrun, h]
    rfl
  · cases e with
    | opened | error | closed =>
      simp only [receive, hrun, h]
      rfl
    | message p =>
      rcases hp : Payload.classify p.lossyText <;> simp only [receive, hrun, h, hp] <;> rfl

/-- The place in the log does not matter to the keys. -/
theorem keyCommand_unscrolled (a : App) (k : Key) : a.unscrolled.keyCommand k = a.keyCommand k :=
  rfl

theorem update_unscrolled (a : App) (m : Message) :
    (a.unscrolled.update m).unscrolled = (a.update m).unscrolled := by
  cases m with
  | key k => rfl
  | event e => exact congrArg Outcome.ofChange (a.receive_unscrolled e)
  | command c => exact congrArg Outcome.ofChange (a.perform_unscrolled c)

/-- The same with the command that follows. -/
theorem dispatch_unscrolled (a : App) (m : Message) :
    ((a.unscrolled.dispatch m).1.unscrolled, (a.unscrolled.dispatch m).2) =
      ((a.dispatch m).1.unscrolled, (a.dispatch m).2) := by
  have hsame : ∀ c c' : Change, c.unscrolled = c'.unscrolled →
      ((c.1.unscrolled, c.2.toList) : App × List Action) = (c'.1.unscrolled, c'.2.toList) :=
    fun _ _ h => congrArg (fun c : Change => (c.1, c.2.toList)) h
  cases m with
  | event e => exact hsame _ _ (a.receive_unscrolled e)
  | command c => exact hsame _ _ (a.perform_unscrolled c)
  | key k =>
    rcases hk : a.keyCommand k with - | c
    · simp only [dispatch, update, keyCommand_unscrolled, hk]
      rfl
    · simp only [dispatch, update, keyCommand_unscrolled, hk]
      exact hsame _ _ (a.perform_unscrolled c)

end Provision.App
