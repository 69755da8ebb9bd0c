/-
The history of an application.

One message is one step (`step_update`): the form and the session stay as they
are, or the form is edited, or a submit is rejected or starts a session, or the
session opens or ends.  The steps say what becomes of the form, its error and
the phase; the log, the dialog and the wish to quit are left open.

A history lists the messages that an application has taken since it started,
each with the application that it came to.  `Since` looks back over one: since
a round of some kind, all rounds were of another.  So what holds of an
application can be told from the last round that mattered.
-/
import Provision.Proofs.App.Progress

namespace Provision

/-- The edit of the form that a command stands for. -/
def Command.edit? : Command → Option (Form → Form)
  | .focusNext => some (·.focusNext)
  | .focusPrevious => some (·.focusPrevious)
  | .nextProtocol => some (·.selectNext)
  | .previousProtocol => some (·.selectPrevious)
  | .type c => some (·.type c)
  | .backspace => some (·.backspace)
  | .clearField => some (·.clearFocused)
  | _ => none

namespace App

/-- The edit that a message makes: none while a session runs. -/
def editOf (a : App) : Message → Option (Form → Form)
  | .command c => if a.inProgress then none else c.edit?
  | _ => none

/-- What one message does, and the action that it asks for. -/
inductive Step (a : App) (m : Message) : App → Option Action → Prop
  /-- The form and the session stay as they are. -/
  | aside (log : Log) (mode : Mode) (quitting : Bool) : a.editOf m = none →
      Step a m { a with log, mode, quitting } none
  | edit {φ : Form → Form} : a.editOf m = some φ →
      Step a m { a with form := φ a.form, formError := none } none
  | reject {e : Error} : m = .command .submit → a.inProgress = false → a.form.submit = .error e →
      Step a m { a with formError := some e.message } none
  | start {r : Request} : m = .command .submit → a.inProgress = false → a.form.submit = .ok r →
      Step a m { a with formError := none, log := a.log.clear, phase := .connecting }
        (some (.start a.endpoint (Request.Command.encode r)))
  | opened : a.inProgress = true → Step a m { a with phase := .installing } none
  /-- The backend or the user ends the session, or the application quits. -/
  | stop {phase : Phase} (mode : Mode) (quitting : Bool) : a.inProgress = true →
      phase.inProgress = false →
      (∃ event, m = .event event) ∨ m = .command .cancel ∨ quitting = true →
      Step a m { a with phase, mode, quitting } (some .close)

variable {a : App} {m : Message} {c : Command} {φ : Form → Form}

/-! ### Every message is a step -/

/-- A running session locks the form. -/
theorem editOf_of_running (h : a.inProgress = true) (m : Message) : a.editOf m = none := by
  cases m with
  | key | event => rfl
  | command c => exact if_pos h

theorem editOf_eq_none (a : App) (h : c.edit? = none) : a.editOf (.command c) = none := by
  rw [editOf, h, ite_self]

theorem step_edit (a : App) (h : c.edit? = some φ) :
    Step a (.command c) (a.edit φ).1 (a.edit φ).2 := by
  rcases hrun : a.inProgress
  · rw [edit, hrun]
    refine .edit ?_
    rw [editOf, hrun]
    exact h
  · rw [edit, hrun]
    exact .aside a.log a.mode a.quitting (editOf_of_running hrun _)

theorem step_submit (a : App) : Step a (.command .submit) a.submit.1 a.submit.2 := by
  rcases hrun : a.inProgress
  · rcases hs : a.form.submit with e | r
    · simp only [submit, hrun, hs]
      exact .reject rfl hrun hs
    · simp only [submit, hrun, hs]
      exact .start rfl hrun hs
  · simp only [submit, hrun, if_true]
    exact .aside a.log a.mode a.quitting (editOf_of_running hrun _)

theorem step_cancel (a : App) : Step a (.command .cancel) a.cancel.1 a.cancel.2 := by
  rcases hrun : a.inProgress
  · rw [cancel, hrun]
    exact .aside a.log a.mode a.quitting (a.editOf_eq_none rfl)
  · rw [cancel, hrun]
    exact .stop a.mode a.quitting hrun rfl (.inr (.inl rfl))

/-- Whatever was asked of the dialog before, quitting ends the session. -/
theorem step_cancelIfQuitting (hquiet : a.editOf m = none) (mode : Mode) (quitting : Bool) :
    Step a m (cancelIfQuitting { a with mode, quitting }).1
      (cancelIfQuitting { a with mode, quitting }).2 := by
  rcases h : quitting && a.inProgress
  · -- Nobody quits, or there is nothing to end.
    have hstay : cancelIfQuitting { a with mode, quitting } = ({ a with mode, quitting }, none) :=
      if_neg (by simp only [inProgress] at h ⊢; simp [h])
    rw [hstay]
    exact .aside a.log mode quitting hquiet
  · obtain ⟨hq, hrun⟩ := Bool.and_eq_true_iff.mp h
    have hstop : cancelIfQuitting { a with mode, quitting } =
        ({ a with mode, quitting, phase := .cancelled }, some .close) :=
      if_pos h
    rw [hstop]
    exact .stop mode quitting hrun rfl (.inr (.inr hq))

theorem requestQuit_eq (a : App) :
    ∃ mode quitting, a.requestQuit = { a with mode, quitting } := by
  rw [requestQuit]
  split
  · exact ⟨.confirm, a.quitting, rfl⟩
  · exact ⟨a.mode, true, rfl⟩

theorem step_perform (a : App) (c : Command) :
    Step a (.command c) (a.perform c).1 (a.perform c).2 := by
  cases c with
  | focusNext | focusPrevious | nextProtocol | previousProtocol | type | backspace
  | clearField => exact a.step_edit rfl
  | submit => exact a.step_submit
  | cancel => exact a.step_cancel
  | scrollUp | scrollDown | scrollToTop | scrollToBottom | pageUp | pageDown | cancelQuit =>
    exact .aside _ _ a.quitting (a.editOf_eq_none rfl)
  | requestQuit =>
    obtain ⟨mode, quitting, hasked⟩ := a.requestQuit_eq
    rw [perform, hasked]
    exact step_cancelIfQuitting (a.editOf_eq_none rfl) mode quitting
  | confirmQuit => exact step_cancelIfQuitting (a.editOf_eq_none rfl) .normal true
  | quit => exact step_cancelIfQuitting (a.editOf_eq_none rfl) a.mode true

theorem step_receive (a : App) (e : Event) :
    Step a (.event e) (a.receive e).1 (a.receive e).2 := by
  rcases hrun : a.inProgress
  · simp only [receive, hrun]
    exact .aside a.log a.mode a.quitting rfl
  · -- The sentinel, an error and the end of the connection end the session alike.
    have hstop : ∀ {phase : Phase}, phase.inProgress = false →
        Step a (.event e) { a with phase } (some .close) :=
      fun hover => .stop a.mode a.quitting hrun hover (.inl ⟨e, rfl⟩)
    rw [receive_of_running hrun]
    cases e with
    | opened => exact .opened hrun
    | error | closed => exact hstop rfl
    | message p =>
      by_cases hp : p.lossyText = Payload.sentinel
      · simp only [if_pos hp]
        exact hstop rfl
      · simp only [if_neg hp]
        exact .aside _ a.mode a.quitting rfl

theorem step_update (a : App) (m : Message) : Step a m (a.update m).app (a.update m).action := by
  cases m with
  | key k => exact .aside a.log a.mode a.quitting rfl
  | event e => exact a.step_receive e
  | command c => exact a.step_perform c

/-- A message edits the form, or it leaves it alone. -/
theorem Step.form {a' : App} {action : Option Action} (h : Step a m a' action) :
    (∃ φ, a.editOf m = some φ ∧ a'.form = φ a.form) ∨ a.editOf m = none ∧ a'.form = a.form := by
  cases h with
  | aside _ _ _ hquiet => exact .inr ⟨hquiet, rfl⟩
  | edit hedit => exact .inl ⟨_, hedit, rfl⟩
  | reject hm | start hm => exact .inr ⟨hm ▸ a.editOf_eq_none rfl, rfl⟩
  | opened hrun | stop _ _ hrun => exact .inr ⟨editOf_of_running hrun m, rfl⟩

/-! ### Histories -/

/-- One message, and the application that it came to. -/
structure Round where
  app : App
  message : Message

namespace Round

/-- The application that the message left behind. -/
def next (r : Round) : App :=
  (r.app.update r.message).app

/-- What the message asked of the session. -/
def action (r : Round) : Option Action :=
  (r.app.update r.message).action

/-- The message started no session. -/
def StartsNone (r : Round) : Prop :=
  ∀ endpoint command, r.action ≠ some (.start endpoint command)

theorem step (r : Round) : Step r.app r.message r.next r.action :=
  r.app.step_update r.message

end Round

/-- What an application has gone through since it started, message by message.
In between time passes, and drawing the screen moves the view of the log. -/
inductive History (settings : Settings) (endpoint : String) : List Round → App → Prop
  | start : History settings endpoint [] (.start settings endpoint)
  | between {rs : List Round} {a : App} (now : TimeOfDay) (view : LogView) :
      History settings endpoint rs a →
      History settings endpoint rs { a with now, log := { a.log with view } }
  | update {rs : List Round} {a : App} (m : Message) : History settings endpoint rs a →
      History settings endpoint (rs ++ [⟨a, m⟩]) (a.update m).app

variable {settings : Settings} {endpoint : String} {rs : List Round}

/-- The rounds of a message: its own, and that of the command that follows from it. -/
def roundsOf (a : App) (m : Message) : List Round :=
  ⟨a, m⟩ :: (a.update m).followUp.toList.map fun c => ⟨(a.update m).app, .command c⟩

/-- The application after several messages, each with the command that follows from
it. -/
def dispatchAll (a : App) : List Message → App
  | [] => a
  | m :: ms => (a.dispatch m).1.dispatchAll ms

/-- The rounds of several messages. -/
def rounds (a : App) : List Message → List Round
  | [] => []
  | m :: ms => a.roundsOf m ++ (a.dispatch m).1.rounds ms

theorem History.dispatch (h : History settings endpoint rs a) (m : Message) :
    History settings endpoint (rs ++ a.roundsOf m) (a.dispatch m).1 := by
  rcases hf : (a.update m).followUp with - | c
  · simp only [roundsOf, App.dispatch, hf]
    exact h.update m
  · have hboth := (h.update m).update (.command c)
    rw [List.append_assoc] at hboth
    simp only [roundsOf, App.dispatch, hf]
    exact hboth

theorem History.dispatchAll (h : History settings endpoint rs a) (ms : List Message) :
    History settings endpoint (rs ++ a.rounds ms) (a.dispatchAll ms) := by
  induction ms generalizing rs a with
  | nil =>
    rw [rounds, List.append_nil]
    exact h
  | cons m ms ih =>
    rw [rounds, ← List.append_assoc]
    exact ih (h.dispatch m)

/-- So whatever messages and keys come, they make a history. -/
theorem history_rounds (settings : Settings) (endpoint : String) (ms : List Message) :
    History settings endpoint ((App.start settings endpoint).rounds ms)
      ((App.start settings endpoint).dispatchAll ms) := by
  have hstart : History settings endpoint [] (.start settings endpoint) := .start
  exact hstart.dispatchAll ms

/-- The keys that fill in a new form. -/
def fillingKeys : List Message :=
  [.tab, .char 'h', .tab, .char 'u', .tab, .char 'p'].map .key

/-- What holds at the start, and is kept by every step and by what goes on in
between, holds at all times. -/
theorem History.invariant {P : App → Prop} (h : History settings endpoint rs a)
    (hstart : P (.start settings endpoint))
    (hbetween : ∀ {a : App} (now : TimeOfDay) (view : LogView), P a →
      P { a with now, log := { a.log with view } })
    (hstep : ∀ {a a' : App} {m : Message} {action : Option Action},
      Step a m a' action → P a → P a') : P a := by
  induction h with
  | start => exact hstart
  | between now view _ ih => exact hbetween now view ih
  | @update _ a m _ ih => exact hstep (a.step_update m) ih

/-- Nothing changes the settings or the endpoint. -/
theorem History.settings_endpoint (h : History settings endpoint rs a) :
    a.settings = settings ∧ a.endpoint = endpoint := by
  refine h.invariant (P := fun a => a.settings = settings ∧ a.endpoint = endpoint)
    ⟨rfl, rfl⟩ (fun _ _ hsame => hsame) ?_
  intro a a' m action hstep hsame
  cases hstep <;> exact hsame

/-! ### Looking back -/

/-- There was a round of the first kind, and since then all were of the second. -/
def Since (P Q : Round → Prop) (rs : List Round) : Prop :=
  ∃ before r after, rs = before ++ r :: after ∧ P r ∧ ∀ s ∈ after, Q s

variable {P Q : Round → Prop} {r : Round}

theorem not_since_nil : ¬ Since P Q [] := by
  rintro ⟨before, r, after, h, -⟩
  cases before <;> cases h

/-- The last round is of the first kind, or it keeps to the second. -/
theorem since_concat_iff : Since P Q (rs ++ [r]) ↔ P r ∨ Since P Q rs ∧ Q r := by
  constructor
  · -- The round looked for is the last one, or the last one is among those after it.
    rintro ⟨before, s, after, heq, hs, hafter⟩
    rcases List.eq_nil_or_concat after with rfl | ⟨after, t, rfl⟩
    · obtain ⟨-, hlast⟩ := List.append_inj' heq rfl
      cases hlast
      exact .inl hs
    · rw [List.concat_eq_append, ← List.cons_append, ← List.append_assoc] at heq
      obtain ⟨hrs, hlast⟩ := List.append_inj' heq rfl
      cases hlast
      rw [List.concat_eq_append] at hafter
      refine .inr ⟨⟨before, s, after, hrs, hs, fun u hu => hafter u ?_⟩, hafter r ?_⟩
      · exact List.mem_append_left _ hu
      · exact List.mem_append_right _ (List.mem_singleton_self r)
  · rintro (hr | ⟨⟨before, s, after, rfl, hs, hafter⟩, hr⟩)
    · exact ⟨rs, r, [], rfl, hr, fun _ hu => absurd hu List.not_mem_nil⟩
    · refine ⟨before, s, after ++ [r], by simp, hs, fun u hu => ?_⟩
      rcases List.mem_append.mp hu with hu | hu
      · exact hafter u hu
      · rw [List.mem_singleton.mp hu]
        exact hr

end App

end Provision
