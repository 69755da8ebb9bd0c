/-
The dialog that asks whether to quit.

The dialog says that a session is running.  It is opened only while one is, and
every answer closes it; but the session may end under it, and then it stays
open.  Nothing else makes it say what is not so: it is open while no session
runs exactly if a session has ended under it, and since then it was not
answered and no other session has started (`History.stale_iff`).

Main results: `dialog_stale_iff`, and `dialog_outlives_session`, a session that
completes under the dialog.
-/
import Provision.Proofs.App.Edges
import Provision.Proofs.App.History

namespace Provision

/-- The message answers the dialog. -/
def Message.answers : Message → Bool
  | .command .confirmQuit | .command .cancelQuit => true
  | _ => false

namespace App

variable {a : App} {m : Message} {settings : Settings} {endpoint : String} {rs : List Round}

/-! ### One message -/

/-- The mode after a message. -/
def modeAfter (a : App) (m : Message) : Mode :=
  if m.answers then .normal
  else if m = .command .requestQuit ∧ a.inProgress = true ∧ a.settings.confirmQuit = true then
    .confirm
  else a.mode

theorem mode_edit (a : App) (φ : Form → Form) : (a.edit φ).1.mode = a.mode := by
  rw [edit]
  split <;> rfl

theorem mode_submit (a : App) : a.submit.1.mode = a.mode := by
  rcases hrun : a.inProgress <;> rcases hs : a.form.submit <;> simp [submit, hrun, hs, quietly]

theorem mode_cancel (a : App) : a.cancel.1.mode = a.mode := by
  rw [cancel]
  split <;> rfl

theorem mode_cancelIfQuitting (a : App) : a.cancelIfQuitting.1.mode = a.mode := by
  rw [cancelIfQuitting]
  split <;> rfl

theorem mode_requestQuit (a : App) :
    a.requestQuit.mode = a.modeAfter (.command .requestQuit) := by
  rcases hrun : a.inProgress <;> rcases hask : a.settings.confirmQuit <;>
    simp [requestQuit, modeAfter, Message.answers, hrun, hask]

/-- No event touches the dialog, also not one that ends the session. -/
theorem mode_receive (a : App) (e : Event) : (a.receive e).1.mode = a.mode := by
  rcases hrun : a.inProgress
  · simp only [receive, hrun]
    rfl
  · rw [receive_of_running hrun]
    cases e with
    | message p => by_cases hp : p.lossyText = Payload.sentinel <;> simp [hp, onLog]
    | opened | error | closed => rfl

theorem mode_update (a : App) (m : Message) : (a.update m).app.mode = a.modeAfter m := by
  cases m with
  | key k => rfl
  | event e => exact a.mode_receive e
  | command c =>
    cases c with
    | focusNext | focusPrevious | nextProtocol | previousProtocol | type | backspace
    | clearField => exact a.mode_edit _
    | submit => exact a.mode_submit
    | cancel => exact a.mode_cancel
    | scrollUp | scrollDown | scrollToTop | scrollToBottom | pageUp | pageDown
    | cancelQuit => rfl
    | requestQuit => exact (mode_cancelIfQuitting _).trans a.mode_requestQuit
    | confirmQuit | quit => exact mode_cancelIfQuitting _

/-- While no session runs the dialog does not open. -/
theorem modeAfter_of_idle (h : a.inProgress = false) (m : Message) :
    a.modeAfter m = if m.answers then .normal else a.mode := by
  rw [modeAfter, h]
  simp

/-- The dialog opens while a session runs, and at no other time. -/
theorem opens_of_mode (hnormal : a.mode = .normal) (hconfirm : a.modeAfter m = .confirm) :
    m = .command .requestQuit ∧ a.inProgress = true ∧ a.settings.confirmQuit = true := by
  rw [modeAfter] at hconfirm
  split at hconfirm
  · cases hconfirm
  · split at hconfirm
    · assumption
    · rw [hnormal] at hconfirm
      cases hconfirm

/-- What ends a session. -/
theorem Step.ended {a' : App} (h : Step a m a' (some .close)) :
    (∃ event, m = .event event) ∨ m = .command .cancel ∨ a'.quitting = true := by
  cases h with
  | stop mode quitting _ _ hwhy => exact hwhy

/-! ### The dialog over a session that has ended -/

/-- The session ends, and the dialog is left open. -/
def Round.EndsUnderDialog (r : Round) : Prop :=
  r.action = some .close ∧ r.next.mode = .confirm

/-- The dialog is not answered, and no session starts. -/
def Round.LeavesDialog (r : Round) : Prop :=
  r.message.answers = false ∧ r.StartsNone

/-- One round: the dialog comes to be open without a session, or it stays so. -/
theorem Round.stale_iff (r : Round) :
    r.next.mode = .confirm ∧ r.next.inProgress = false ↔
      r.EndsUnderDialog ∨
        (r.app.mode = .confirm ∧ r.app.inProgress = false) ∧ r.LeavesDialog := by
  have hmode : r.next.mode = r.app.modeAfter r.message := r.app.mode_update r.message
  obtain ⟨hstart, hclose⟩ := (r.app.alternating_update r.message).edges
  constructor
  · rintro ⟨hopen, hover⟩
    rcases hrun : r.app.inProgress
    · -- No session ran, so the dialog was open before and is not answered.
      rw [hmode, modeAfter_of_idle hrun] at hopen
      rcases hanswer : r.message.answers <;> rw [hanswer] at hopen
      · refine .inr ⟨⟨hopen, rfl⟩, hanswer, fun endpoint command haction => ?_⟩
        have hafter : r.next.inProgress = true := (hstart.mp ⟨endpoint, command, haction⟩).2
        rw [hover] at hafter
        cases hafter
      · cases hopen
    · -- A session ran, so this round has ended it.
      exact .inl ⟨hclose.mpr ⟨hrun, hover⟩, hopen⟩
  · rintro (⟨haction, hopen⟩ | ⟨⟨hopen, hidle⟩, hanswer, hnone⟩)
    · exact ⟨hopen, (hclose.mp haction).2⟩
    · refine ⟨?_, ?_⟩
      · rw [hmode, modeAfter_of_idle hidle, hanswer]
        exact hopen
      · -- A session could run now only if one had been started.
        rcases hafter : r.next.inProgress
        · rfl
        · obtain ⟨endpoint, command, haction⟩ := hstart.mpr ⟨hidle, hafter⟩
          exact absurd haction (hnone endpoint command)

theorem History.stale_iff (h : History settings endpoint rs a) :
    a.mode = .confirm ∧ a.inProgress = false ↔
      Since Round.EndsUnderDialog Round.LeavesDialog rs := by
  induction h with
  | start =>
    refine ⟨?_, fun hsince => absurd hsince not_since_nil⟩
    rintro ⟨hopen, -⟩
    cases hopen
  | between _ _ _ ih => exact ih
  | @update rs a m _ ih => rw [since_concat_iff, ← ih, ← Round.stale_iff ⟨a, m⟩]; rfl

/-- The dialog tells the truth as long as the session does not end under it.
Whatever an application has gone through: its dialog is open without a session
exactly if a session has ended under the dialog, and since then the dialog was
not answered and no session has started.  The dialog opens only when quitting is
asked for while a session runs and the settings say to ask, and every answer
closes it; and what ends a session under it is an event, a cancel, or quitting. -/
theorem dialog_stale_iff (h : History settings endpoint rs a) :
    (a.mode = .confirm ∧ a.inProgress = false ↔
      Since Round.EndsUnderDialog Round.LeavesDialog rs) ∧
    ∀ r : Round,
      (r.app.mode = .normal → r.next.mode = .confirm →
        r.message = .command .requestQuit ∧ r.app.inProgress = true ∧
          r.app.settings.confirmQuit = true) ∧
      (r.message.answers = true → r.next.mode = .normal) ∧
      (r.EndsUnderDialog →
        (∃ event, r.message = .event event) ∨ r.message = .command .cancel ∨
          r.next.quitting = true) := by
  refine ⟨h.stale_iff, fun r => ?_⟩
  have hmode : r.next.mode = r.app.modeAfter r.message := r.app.mode_update r.message
  refine ⟨fun hnormal hconfirm => ?_, fun hanswer => ?_, fun hends => ?_⟩
  · exact opens_of_mode hnormal (hmode ▸ hconfirm)
  · rw [hmode, modeAfter, if_pos hanswer]
  · have hstep := r.step
    rw [hends.1] at hstep
    exact hstep.ended

/-- The form is filled in and submitted, the connection comes to be open, and the
user asks to quit. -/
def askedToQuit : List Message :=
  fillingKeys ++ [.key .enter, .event .opened, .key (.control 'c')]

/-- The connection is lost under the dialog, which stays open until its answer. -/
theorem dialog_stale_iff_failed :
    ∃ rs a, a = (App.start {} "x").dispatchAll (askedToQuit ++ [.event (.error "lost")]) ∧
      History {} "x" rs a ∧ a.phase = .failed "lost" ∧
      Since Round.EndsUnderDialog Round.LeavesDialog rs ∧
      (a.update (.command .cancelQuit)).app.mode = .normal := by
  have h := history_rounds {} "x" (askedToQuit ++ [.event (.error "lost")])
  obtain ⟨hstale, hrounds⟩ := dialog_stale_iff h
  refine ⟨_, _, rfl, h, by decide, hstale.mp ⟨by decide, by decide⟩, ?_⟩
  exact (hrounds ⟨_, .command .cancelQuit⟩).2.1 rfl

/-- A session completes under the dialog, and the dialog stays: it goes on to ask
whether to cancel a session that is over, and no key reaches the form. -/
theorem dialog_outlives_session :
    ∃ rs a, a = (App.start {} "x").dispatchAll
        (askedToQuit ++ [.event (.message (.text Payload.sentinel))]) ∧
      History {} "x" rs a ∧ a.phase = .complete ∧ a.quitting = false ∧
      a.mode = .confirm ∧ a.inProgress = false ∧ a.keyCommand .tab = none := by
  have h := history_rounds {} "x" (askedToQuit ++ [.event (.message (.text Payload.sentinel))])
  exact ⟨_, _, rfl, h, by decide, by decide, by decide, by decide, by decide⟩

end App

end Provision
