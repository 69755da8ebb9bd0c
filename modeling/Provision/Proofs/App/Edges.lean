/-
When the application asks for something.

A message asks for a session to start exactly if none ran before it and one runs
after it, and for the connection to be closed exactly if one ran before it and
none runs after it.  Both are said at once by `Alternating`: the actions of one
message take the session from running or not to running or not
(`alternating_update`), and so do those of any messages one after the other
(`alternating_updateAll`).

Main result: `actions_at_edges`.
-/
import Provision.Proofs.App.Progress

namespace Provision

/-! ### Actions that take turns -/

/-- Actions that take turns: a start while no session runs, a close while one
does.  The flags say whether one runs before them and after them. -/
inductive Alternating : Bool → List Action → Bool → Prop
  | nil {running : Bool} : Alternating running [] running
  | start {endpoint command : String} {actions : List Action} {after : Bool} :
      Alternating true actions after → Alternating false (.start endpoint command :: actions) after
  | close {actions : List Action} {after : Bool} :
      Alternating false actions after → Alternating true (.close :: actions) after

namespace Alternating

variable {before between after : Bool} {actions more : List Action} {action : Option Action}

theorem append (h : Alternating before actions between) (hmore : Alternating between more after) :
    Alternating before (actions ++ more) after := by
  induction h with
  | nil => exact hmore
  | start _ ih => exact .start (ih hmore)
  | close _ ih => exact .close (ih hmore)

/-- A single action, or none, tells what becomes of the session. -/
theorem edges (h : Alternating before action.toList after) :
    ((∃ endpoint command, action = some (.start endpoint command)) ↔
      before = false ∧ after = true) ∧
    (action = some .close ↔ before = true ∧ after = false) := by
  rcases action with - | ⟨endpoint, command⟩ | -
  · cases h
    cases before <;> simp
  · cases h with
    | start h => cases h; simp
  · cases h with
    | close h => cases h; simp

end Alternating

namespace App

variable {a a' : App} {m : Message} {r : Request} {request : Option Request}
  {actions : List Action} {endpoint command : String}

theorem Turn.alternating (h : Turn a request (a', actions)) :
    Alternating a.inProgress actions a'.inProgress := by
  cases h with
  | quiet hphase =>
    rw [inProgress, inProgress, hphase]
    exact .nil
  | start hidle hphase =>
    rw [hidle, inProgress, hphase]
    exact .start .nil
  | stop hrun hover =>
    rw [hrun, hover]
    exact .close .nil

/-! ### One message -/

theorem alternating_dispatch (a : App) (m : Message) :
    Alternating a.inProgress (a.dispatch m).2 (a.dispatch m).1.inProgress := by
  by_cases hm : m = .event .opened
  · subst hm
    rcases hrun : a.inProgress
    · have hsame : a.dispatch (.event .opened) = (a, []) := by
        simp [dispatch, update, receive, hrun, quietly, Outcome.ofChange]
      rw [hsame, hrun]
      exact .nil
    · -- The connection that is open now belongs to the session that runs.
      rw [dispatch_opened hrun]
      exact .nil
  · exact (a.turn_dispatch hm).alternating

theorem alternating_update (a : App) (m : Message) :
    Alternating a.inProgress (a.update m).action.toList (a.update m).app.inProgress := by
  cases m with
  | key k => exact .nil
  | event e => exact a.alternating_dispatch (.event e)
  | command c => exact a.alternating_dispatch (.command c)

/-- What it takes to accept a request. -/
theorem accepts_eq_some (h : a.accepts m = some r) :
    a.commandOf m = some .submit ∧ a.form.submit = .ok r := by
  by_cases hsubmit : a.commandOf m = some .submit ∧ a.inProgress = false
  · rw [accepts, if_pos hsubmit] at h
    rcases hs : a.form.submit with error | r' <;> rw [hs] at h <;> cases h
    exact ⟨hsubmit.1, rfl⟩
  · rw [accepts, if_neg hsubmit] at h
    cases h

/-- A session starts by a submit, with the form's request and an empty log. -/
theorem update_of_start (h : (a.update m).action = some (.start endpoint command)) :
    m = .command .submit ∧ ∃ r, a.form.submit = .ok r ∧ endpoint = a.endpoint ∧
      command = Request.Command.encode r ∧
      (a.update m).app =
        { a with formError := none, log := a.log.clear, phase := .connecting } := by
  cases m with
  | key k => cases h
  | event e =>
    -- No event starts a session.
    by_cases he : e = .opened
    · subst he
      have hnone := (a.dispatch_event_opened).1
      rw [show (a.dispatch (.event .opened)).2 = (a.update (.event .opened)).action.toList from rfl,
        h] at hnone
      cases hnone
    · have ht := a.turn_receive he
      rw [show (a.receive e).2 = some (.start endpoint command) from h] at ht
      cases ht
  | command c =>
    have hother : Message.command c ≠ .event .opened := by
      intro heq
      cases heq
    have ht := a.turn_dispatch hother
    have hactions : (a.dispatch (.command c)).2 = [.start endpoint command] := by
      rw [show (a.dispatch (.command c)).2 = (a.update (.command c)).action.toList from rfl, h]
      rfl
    rcases hr : a.accepts (.command c) with - | r
    · rw [hr, ← Prod.eta (a.dispatch (.command c)), hactions] at ht
      cases ht
    · obtain ⟨hcommand, hsubmit⟩ := accepts_eq_some hr
      have hdispatch := dispatch_of_accepts hr
      rw [hdispatch] at hactions
      cases hactions
      cases hcommand
      exact ⟨rfl, r, hsubmit, rfl, rfl, congrArg Prod.fst hdispatch⟩

/-! ### Quitting -/

/-- A session does not outlive the application. -/
theorem inProgress_cancelIfQuitting (h : a.cancelIfQuitting.1.quitting = true) :
    a.cancelIfQuitting.1.inProgress = false := by
  rcases hrun : a.inProgress
  · rw [cancelIfQuitting, hrun, Bool.and_false]
    exact hrun
  · rcases hq : a.quitting
    · rw [cancelIfQuitting, hq] at h
      exact absurd (hq.symm.trans h) (by decide)
    · rw [cancelIfQuitting, hq, hrun]
      rfl

theorem quitting_edit (a : App) (f : Form → Form) : (a.edit f).1.quitting = a.quitting := by
  rcases h : a.inProgress <;> simp [edit, h, quietly, onForm]

/-- Whatever makes the application quit ends the session that runs. -/
theorem inProgress_of_quits (hq : a.quitting = false) {c : Command}
    (h : (a.perform c).1.quitting = true) : (a.perform c).1.inProgress = false := by
  -- Only three commands touch the flag, and those end the session.
  have hsame : (a.perform c).1.quitting ≠ a.quitting := by rw [h, hq]; decide
  cases c with
  | requestQuit | confirmQuit | quit => exact inProgress_cancelIfQuitting h
  | focusNext | focusPrevious | nextProtocol | previousProtocol | type | backspace
  | clearField => exact absurd (a.quitting_edit _) hsame
  | submit =>
    refine absurd ?_ hsame
    rcases hrun : a.inProgress <;> rcases hs : a.form.submit <;>
      simp [perform, submit, hrun, hs, quietly]
  | cancel =>
    refine absurd ?_ hsame
    rcases hrun : a.inProgress <;> simp [perform, cancel, hrun, stop, quietly]
  | scrollUp | scrollDown | scrollToTop | scrollToBottom | pageUp | pageDown
  | cancelQuit => exact absurd rfl hsame

theorem quitting_receive (a : App) (e : Event) : (a.receive e).1.quitting = a.quitting := by
  rcases hrun : a.inProgress
  · simp [receive, hrun, quietly]
  · rw [receive_of_running hrun]
    cases e with
    | message p => by_cases hp : p.lossyText = Payload.sentinel <;> simp [hp, onLog]
    | opened | error | closed => rfl

theorem inProgress_update_of_quits (hq : a.quitting = false)
    (h : (a.update m).app.quitting = true) : (a.update m).app.inProgress = false := by
  cases m with
  | key k => exact absurd (hq.symm.trans h) (by decide)
  | event e => exact absurd ((a.quitting_receive e).symm.trans h) (by rw [hq]; decide)
  | command c => exact inProgress_of_quits hq h

/-! ### Many messages -/

/-- Messages one after the other: the application then, and the actions on the
way. -/
def updateAll (a : App) : List Message → App × List Action
  | [] => (a, [])
  | m :: ms =>
    let (last, actions) := (a.update m).app.updateAll ms
    (last, (a.update m).action.toList ++ actions)

theorem alternating_updateAll (a : App) (ms : List Message) :
    Alternating a.inProgress (a.updateAll ms).2 (a.updateAll ms).1.inProgress := by
  induction ms generalizing a with
  | nil => exact .nil
  | cons m ms ih => exact (a.alternating_update m).append (ih _)

/-- Actions come at the edges.  In every state and for every message, an event
that nobody expects included: a start is asked for exactly if no session ran
before and one runs after, and then the message is a submit, the form is valid,
the session is connecting with an empty log, and the action has the
application's endpoint and the form's command; a close is asked for exactly if
a session ran before and none runs after; and when the application comes to
quit, none runs.  So the actions of a new application take turns, a start
first, whatever the messages. -/
theorem actions_at_edges (a : App) (m : Message) :
    ((∃ endpoint command, (a.update m).action = some (.start endpoint command)) ↔
      a.inProgress = false ∧ (a.update m).app.inProgress = true) ∧
    (∀ endpoint command, (a.update m).action = some (.start endpoint command) →
      m = .command .submit ∧ (a.update m).app.phase = .connecting ∧
      endpoint = (a.update m).app.endpoint ∧ endpoint = a.endpoint ∧
      (a.update m).app.log.entries = [] ∧
      ∃ r, a.form.submit = .ok r ∧ command = Request.Command.encode r) ∧
    ((a.update m).action = some .close ↔
      a.inProgress = true ∧ (a.update m).app.inProgress = false) ∧
    (a.quitting = false → (a.update m).app.quitting = true →
      (a.update m).app.inProgress = false) ∧
    ∀ (settings : Settings) (endpoint : String) (ms : List Message),
      Alternating false ((App.start settings endpoint).updateAll ms).2
        ((App.start settings endpoint).updateAll ms).1.inProgress := by
  obtain ⟨hstart, hclose⟩ := (a.alternating_update m).edges
  refine ⟨hstart, fun endpoint command h => ?_, hclose, inProgress_update_of_quits,
    fun settings endpoint ms => (App.start settings endpoint).alternating_updateAll ms⟩
  obtain ⟨hm, r, hr, hendpoint, hcommand, happ⟩ := update_of_start h
  rw [happ]
  exact ⟨hm, rfl, hendpoint, hendpoint, rfl, r, hr, hcommand⟩

/-- A filled form is submitted, and the application then quits at once. -/
theorem actions_at_edges_submitted :
    ∃ a : App, (a.update (.command .submit)).action = some (.start "x" "install outline h u p") ∧
      (a.update (.command .submit)).app.log.entries = [] ∧
      ((a.update (.command .submit)).app.update (.command .quit)).action = some .close ∧
      ((a.update (.command .submit)).app.update (.command .quit)).app.inProgress = false := by
  let a : App :=
    { (App.start {} "x") with
      form := { remoteAddress := ⟨"h"⟩, username := ⟨"u"⟩, password := ⟨"p"⟩ } }
  have hstart : (a.update (.command .submit)).action =
      some (.start "x" "install outline h u p") := by decide
  obtain ⟨hedge, hwhat, -⟩ := actions_at_edges a (.command .submit)
  obtain ⟨-, -, -, -, hempty, -⟩ := hwhat _ _ hstart
  obtain ⟨-, -, hclose, hquit, -⟩ :=
    actions_at_edges (a.update (.command .submit)).app (.command .quit)
  have hover := hquit (by decide) (by decide)
  exact ⟨a, hstart, hempty, hclose.mpr ⟨(hedge.mp ⟨_, _, hstart⟩).2, hover⟩, hover⟩

end App

end Provision
