/-
The form of a running session.

While a session runs the form is locked: no message reads it and none changes
it.  So a message does the same whatever the form holds
(`dispatch_onForm`).
-/
import Provision.App.Update

namespace Provision.App

variable {a : App}

/-- What an event means never depends on the form. -/
theorem receive_onForm (a : App) (φ : Form → Form) (e : Event) :
    (a.onForm φ).receive e = ((a.receive e).1.onForm φ, (a.receive e).2) := by
  have hrun : (a.onForm φ).inProgress = a.inProgress := rfl
  rcases h : a.inProgress
  · simp only [receive, hrun, h]
    rfl
  · cases e with
    | opened | error | closed =>
      simp only [receive, hrun, h]
      rfl
    | message p =>
      rcases hp : Payload.classify p.lossyText <;> simp only [receive, hrun, h, hp] <;> rfl

theorem cancelIfQuitting_onForm (a : App) (φ : Form → Form) :
    (a.onForm φ).cancelIfQuitting =
      (a.cancelIfQuitting.1.onForm φ, a.cancelIfQuitting.2) := by
  have hquit : ((a.onForm φ).quitting && (a.onForm φ).inProgress) =
      (a.quitting && a.inProgress) := rfl
  rw [cancelIfQuitting, cancelIfQuitting, hquit]
  split <;> rfl

theorem requestQuit_onForm (a : App) (φ : Form → Form) :
    (a.onForm φ).requestQuit = a.requestQuit.onForm φ := by
  have hask : ((a.onForm φ).inProgress && (a.onForm φ).settings.confirmQuit) =
      (a.inProgress && a.settings.confirmQuit) := rfl
  rw [requestQuit, requestQuit, hask]
  split <;> rfl

theorem perform_onForm (h : a.inProgress = true) (φ : Form → Form) (c : Command) :
    (a.onForm φ).perform c = ((a.perform c).1.onForm φ, (a.perform c).2) := by
  have hrun : (a.onForm φ).inProgress = true := h
  cases c with
  | focusNext | focusPrevious | nextProtocol | previousProtocol | type | backspace | clearField =>
    simp only [perform, edit, h, hrun, if_true]
    rfl
  | submit =>
    simp only [perform, submit, h, hrun, if_true]
    rfl
  | cancel =>
    simp only [perform, cancel, h, hrun, if_true]
    rfl
  | scrollUp | scrollDown | scrollToTop | scrollToBottom | pageUp | pageDown | cancelQuit => rfl
  | requestQuit =>
    simp only [perform, requestQuit_onForm]
    exact a.requestQuit.cancelIfQuitting_onForm φ
  | confirmQuit => exact cancelIfQuitting_onForm { a with mode := .normal, quitting := true } φ
  | quit => exact cancelIfQuitting_onForm { a with quitting := true } φ

/-- The focus does not matter to the keys of a running session. -/
theorem keyCommand_onForm (h : a.inProgress = true) (φ : Form → Form) (k : Key) :
    (a.onForm φ).keyCommand k = a.keyCommand k := by
  have hrun : (a.onForm φ).inProgress = true := h
  have hmode : (a.onForm φ).mode = a.mode := rfl
  simp only [keyCommand, h, hrun, hmode, if_true]

/-- A running session neither reads nor changes the form. -/
theorem dispatch_onForm (h : a.inProgress = true) (φ : Form → Form) (m : Message) :
    (a.onForm φ).dispatch m = ((a.dispatch m).1.onForm φ, (a.dispatch m).2) := by
  cases m with
  | event e => simp only [dispatch, update, Outcome.ofChange, receive_onForm]
  | command c => simp only [dispatch, update, Outcome.ofChange, perform_onForm h]
  | key k =>
    rcases hk : a.keyCommand k with - | c <;>
      simp only [dispatch, update, keyCommand_onForm h, hk, perform_onForm h]

end Provision.App
