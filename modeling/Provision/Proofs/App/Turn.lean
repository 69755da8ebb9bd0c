/-
What one message does to the phase, and what it asks of the session.

A message leaves the phase alone and asks for nothing, or it submits the form
and starts a session, or it ends the session that runs: these are the turns.
Every message takes one of them (`turn_dispatch`), except for the news that the
connection is open, which turns connecting into installing
(`dispatch_opened`).
-/
import Provision.App.Update

namespace Provision.App

variable {a : App} {m : Message}

/-- The command that a message comes to, if it comes to one. -/
def commandOf (a : App) : Message → Option Command
  | .key k => a.keyCommand k
  | .event _ => none
  | .command c => some c

/-- The request with which a message starts a session: it is a submit while no
session runs, and the form is valid. -/
def accepts (a : App) (m : Message) : Option Request :=
  if a.commandOf m = some .submit ∧ a.inProgress = false then a.form.submit.toOption else none

/-- What becomes of the application in one turn, with the actions. -/
inductive Turn (a : App) : Option Request → App × List Action → Prop
  | quiet {a' : App} : a'.phase = a.phase → a'.endpoint = a.endpoint → Turn a none (a', [])
  /-- A session starts with the request. -/
  | start {a' : App} {r : Request} : a.inProgress = false → a'.phase = .connecting →
      a'.endpoint = a.endpoint →
      Turn a (some r) (a', [.start a.endpoint (Request.Command.encode r)])
  /-- The session that runs ends. -/
  | stop {a' : App} : a.inProgress = true → a'.inProgress = false →
      a'.endpoint = a.endpoint → Turn a none (a', [.close])

/-- A key does what the command does that it asks for. -/
theorem dispatch_key_of_some {k : Key} {c : Command} (h : a.keyCommand k = some c) :
    a.dispatch (.key k) = ((a.perform c).1, (a.perform c).2.toList) := by
  simp only [dispatch, update, h]
  rfl

theorem dispatch_key_of_none {k : Key} (h : a.keyCommand k = none) :
    a.dispatch (.key k) = (a, []) := by
  simp only [dispatch, update, h]
  rfl

theorem dispatch_of_commandOf {c : Command} (h : a.commandOf m = some c) :
    a.dispatch m = ((a.perform c).1, (a.perform c).2.toList) := by
  cases m with
  | key k => exact dispatch_key_of_some h
  | event e => cases h
  | command c' =>
    cases h
    rfl

/-! ### Commands -/

theorem turn_edit (a : App) (f : Form → Form) :
    Turn a none ((a.edit f).1, (a.edit f).2.toList) := by
  by_cases h : a.inProgress = true
  · simp only [edit, h, if_true]
    exact .quiet rfl rfl
  · simp only [edit, h]
    exact .quiet rfl rfl

theorem turn_submit (a : App) :
    Turn a (a.accepts (.command .submit)) (a.submit.1, a.submit.2.toList) := by
  by_cases h : a.inProgress = true
  · simp only [submit, accepts, h, if_true, Bool.true_eq_false, and_false, if_false]
    exact .quiet rfl rfl
  · have h : a.inProgress = false := by simpa using h
    rcases hs : a.form.submit with error | r
    · simp only [submit, accepts, commandOf, h, hs, Except.toOption, and_self, if_true]
      exact .quiet rfl rfl
    · simp only [submit, accepts, commandOf, h, hs, Except.toOption, and_self, if_true]
      exact .start h rfl rfl

theorem turn_stop {phase : Phase} (h : a.inProgress = true) (hp : phase.inProgress = false) :
    Turn a none ((a.stop phase).1, (a.stop phase).2.toList) :=
  .stop h hp rfl

theorem turn_cancel (a : App) : Turn a none (a.cancel.1, a.cancel.2.toList) := by
  by_cases h : a.inProgress = true
  · simp only [cancel, h, if_true]
    exact turn_stop h rfl
  · simp only [cancel, h]
    exact .quiet rfl rfl

/-- Quitting ends the session that runs. -/
theorem turn_cancelIfQuitting {a' : App} (hphase : a'.phase = a.phase)
    (hendpoint : a'.endpoint = a.endpoint) :
    Turn a none (a'.cancelIfQuitting.1, a'.cancelIfQuitting.2.toList) := by
  by_cases h : (a'.quitting && a'.inProgress) = true
  · have hrun : a.inProgress = true := by
      rw [inProgress, ← hphase]
      exact (Bool.and_eq_true_iff.mp h).2
    simp only [cancelIfQuitting, h, if_true]
    exact .stop hrun rfl hendpoint
  · simp only [cancelIfQuitting, h]
    exact .quiet hphase hendpoint

theorem phase_requestQuit (a : App) :
    a.requestQuit.phase = a.phase ∧ a.requestQuit.endpoint = a.endpoint := by
  by_cases h : (a.inProgress && a.settings.confirmQuit) = true <;> simp [requestQuit, h]

theorem turn_perform (a : App) (c : Command) :
    Turn a (a.accepts (.command c)) ((a.perform c).1, (a.perform c).2.toList) := by
  by_cases hc : c = .submit
  · rw [hc]
    exact turn_submit a
  · -- No other command starts a session; some end the one that runs.
    have hnone : a.accepts (.command c) = none := by simp [accepts, commandOf, hc]
    rw [hnone]
    cases c with
    | submit => exact absurd rfl hc
    | focusNext | focusPrevious | nextProtocol | previousProtocol | type | backspace
    | clearField => exact turn_edit a _
    | cancel => exact turn_cancel a
    | requestQuit =>
      obtain ⟨hphase, hendpoint⟩ := a.phase_requestQuit
      exact turn_cancelIfQuitting hphase hendpoint
    | confirmQuit | quit => exact turn_cancelIfQuitting rfl rfl
    | scrollUp | scrollDown | scrollToTop | scrollToBottom | pageUp | pageDown
    | cancelQuit => exact .quiet rfl rfl

/-! ### Messages -/

/-- The news that the connection is open, while a session runs. -/
theorem dispatch_opened (h : a.inProgress = true) :
    a.dispatch (.event .opened) = ({ a with phase := .installing }, []) := by
  simp [dispatch, update, receive, h, quietly, Outcome.ofChange]

/-- Whether or not a session runs, this news asks for nothing. -/
theorem dispatch_event_opened (a : App) :
    (a.dispatch (.event .opened)).2 = [] ∧
      (a.dispatch (.event .opened)).1.endpoint = a.endpoint := by
  by_cases h : a.inProgress = true <;>
    simp [dispatch, update, receive, h, quietly, Outcome.ofChange]

/-- The news that the connection has ended, while a session runs. -/
theorem dispatch_closed (h : a.inProgress = true) (info : CloseInfo) :
    a.dispatch (.event (.closed info)) = ({ a with phase := .failed info.display }, [.close]) := by
  simp [dispatch, update, receive, h, stop, Outcome.ofChange]

theorem turn_receive (a : App) {e : Event} (he : e ≠ .opened) :
    Turn a none ((a.receive e).1, (a.receive e).2.toList) := by
  by_cases h : a.inProgress = true
  · cases e with
    | opened => exact absurd rfl he
    | message p =>
      rcases hp : Payload.classify p.lossyText
      · simp only [receive, h, hp]
        exact .quiet rfl rfl
      · simp only [receive, h, hp]
        exact turn_stop h rfl
    | error reason =>
      simp only [receive, h]
      exact turn_stop h rfl
    | closed info =>
      simp only [receive, h]
      exact turn_stop h rfl
  · simp only [receive, h]
    exact .quiet rfl rfl

/-- Every other message takes one turn. -/
theorem turn_dispatch (a : App) (hm : m ≠ .event .opened) :
    Turn a (a.accepts m) (a.dispatch m) := by
  cases m with
  | event e =>
    have hnone : a.accepts (.event e) = none := by simp [accepts, commandOf]
    rw [hnone]
    exact turn_receive a fun he => hm (he ▸ rfl)
  | command c => exact turn_perform a c
  | key k =>
    rcases hk : a.keyCommand k with - | c
    · have hnone : a.accepts (.key k) = none := by simp [accepts, commandOf, hk]
      rw [hnone, dispatch_key_of_none hk]
      exact .quiet rfl rfl
    · have hsame : a.accepts (.key k) = a.accepts (.command c) := by
        simp [accepts, commandOf, hk]
      rw [hsame, dispatch_key_of_some hk]
      exact turn_perform a c

end Provision.App
