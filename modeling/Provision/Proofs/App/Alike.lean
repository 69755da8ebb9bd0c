/-
Applications that differ in their passwords only.

Two applications are alike if they are equal but for their forms, which are
alike (`App.Alike`).  A message takes them to applications that are alike, with
the same command to follow and the same action, but for the command that is
sent (`Alike.update`): the phase, the mode and the focus decide what a message
does, and of a password no more than where its blanks are.
-/
import Provision.App.Update
import Provision.Debug
import Provision.Proofs.Form.Alike

namespace Provision

/-- The application with another form, which is alike. -/
inductive App.Alike (a : App) : App → Prop
  | intro {form : Form} : a.form.Alike form → Alike a { a with form }

/-- The actions are equal but for the command that is sent. -/
inductive Action.Alike : Action → Action → Prop
  | start {endpoint command command' : String} :
      Alike (.start endpoint command) (.start endpoint command')
  | close : Alike .close .close

/-- The messages are equal, or type characters into a secret that are both blank
or both not. -/
inductive Message.Alike (focus : Field) : Message → Message → Prop
  | same (m : Message) : Alike focus m m
  | typed {c d : Char} : focus.isSecret = true → Text.isBlank c = Text.isBlank d →
      Alike focus (.command (.type c)) (.command (.type d))

/-- What is written of an action does not tell the command. -/
theorem Action.Alike.debug {x y : Action} (h : x.Alike y) : Debug.action y = Debug.action x := by
  cases h <;> rfl

namespace App

variable {a b : App} {m m' : Message} {φ ψ : Form → Form}

theorem Alike.form (h : a.Alike b) : a.form.Alike b.form := by
  cases h with
  | intro hform => exact hform

theorem Alike.inProgress (h : a.Alike b) : b.inProgress = a.inProgress := by
  cases h
  rfl

/-! ### Changes -/

/-- Both applications come to be alike, with actions that are alike. -/
structure Change.Alike (x y : Change) : Prop where
  app : x.1.Alike y.1
  action : Option.Rel Action.Alike x.2 y.2

theorem Alike.quietly (h : a.Alike b) : Change.Alike a.quietly b.quietly :=
  ⟨h, .none⟩

theorem Alike.stop (h : a.Alike b) (phase : Phase) :
    Change.Alike (a.stop phase) (b.stop phase) := by
  cases h with
  | intro hform => exact ⟨.intro hform, .some .close⟩

theorem Alike.onLog (h : a.Alike b) (f : Log → Log) : (a.onLog f).Alike (b.onLog f) := by
  cases h with
  | intro hform => exact .intro hform

theorem Alike.edit (h : a.Alike b) (hedit : (φ a.form).Alike (ψ b.form)) :
    Change.Alike (a.edit φ) (b.edit ψ) := by
  rw [App.edit, App.edit, h.inProgress]
  split
  · exact h.quietly
  · cases h
    exact ⟨.intro hedit, .none⟩

theorem Alike.submit (h : a.Alike b) : Change.Alike a.submit b.submit := by
  rw [App.submit, App.submit, h.inProgress]
  split
  · exact h.quietly
  · -- The same fault is noted, or both start; only the commands may differ then.
    cases h with
    | intro hform =>
      rcases hform.akin.submit with ⟨error, ha, hb⟩ | ⟨ha, hb⟩
      · simp only [ha, hb]
        exact ⟨.intro hform, .none⟩
      · simp only [ha, hb]
        exact ⟨.intro hform, .some .start⟩

theorem Alike.cancel (h : a.Alike b) : Change.Alike a.cancel b.cancel := by
  rw [App.cancel, App.cancel, h.inProgress]
  split
  · exact h.stop _
  · exact h.quietly

theorem Alike.cancelIfQuitting (h : a.Alike b) :
    Change.Alike a.cancelIfQuitting b.cancelIfQuitting := by
  have hquitting : b.quitting = a.quitting := by
    cases h
    rfl
  rw [App.cancelIfQuitting, App.cancelIfQuitting, h.inProgress, hquitting]
  split
  · exact h.stop _
  · exact h.quietly

theorem Alike.requestQuit (h : a.Alike b) : a.requestQuit.Alike b.requestQuit := by
  have hsettings : b.settings = a.settings := by
    cases h
    rfl
  rw [App.requestQuit, App.requestQuit, h.inProgress, hsettings]
  cases h with
  | intro hform => split <;> exact .intro hform

theorem Alike.perform (h : a.Alike b) (c : Command) :
    Change.Alike (a.perform c) (b.perform c) := by
  cases c with
  | focusNext => exact h.edit (h.form.moveFocus 1)
  | focusPrevious =>
    refine h.edit ?_
    rw [Form.focusPrevious, Form.focusPrevious, h.form.visible]
    exact h.form.moveFocus _
  | nextProtocol =>
    refine h.edit ?_
    rw [Form.selectNext, Form.selectNext, h.form.protocol]
    exact h.form.select _
  | previousProtocol =>
    refine h.edit ?_
    rw [Form.selectPrevious, Form.selectPrevious, h.form.protocol]
    exact h.form.select _
  | type c => exact h.edit (h.form.type rfl fun _ => rfl)
  | backspace => exact h.edit h.form.backspace
  | clearField => exact h.edit h.form.clearFocused
  | submit => exact h.submit
  | cancel => exact h.cancel
  | scrollUp | scrollDown | scrollToTop | scrollToBottom | pageUp | pageDown =>
    exact (h.onLog _).quietly
  | requestQuit => exact h.requestQuit.cancelIfQuitting
  | confirmQuit | quit =>
    cases h with
    | intro hform => exact Alike.cancelIfQuitting (.intro hform)
  | cancelQuit =>
    cases h with
    | intro hform => exact ⟨.intro hform, .none⟩

theorem Alike.receive (h : a.Alike b) (e : Event) : Change.Alike (a.receive e) (b.receive e) := by
  unfold App.receive
  rw [h.inProgress]
  split
  · exact h.quietly
  · cases e with
    | opened =>
      cases h with
      | intro hform => exact ⟨.intro hform, .none⟩
    | message p =>
      rcases hp : Payload.classify p.lossyText <;> simp only [hp]
      · cases h with
        | intro hform => exact ⟨.intro hform, .none⟩
      · exact h.stop _
    | error reason => exact h.stop _
    | closed info => exact h.stop _

/-! ### Messages -/

/-- A key means the same to both. -/
theorem Alike.keyCommand (h : a.Alike b) (k : Key) : b.keyCommand k = a.keyCommand k := by
  have hfocus := h.form.focus
  have hrun := h.inProgress
  have hmode : b.mode = a.mode := by
    cases h
    rfl
  unfold App.keyCommand
  rw [hfocus, hrun, hmode]

theorem Alike.update (h : a.Alike b) (hm : Message.Alike a.form.focus m m') :
    (a.update m).app.Alike (b.update m').app ∧
      (b.update m').followUp = (a.update m).followUp ∧
      Option.Rel Action.Alike (a.update m).action (b.update m').action := by
  cases hm with
  | @typed c d hsecret hblank =>
    have hplain : a.form.focus.isSecret ≠ false := by rw [hsecret]; decide
    have hchange : Change.Alike (a.edit (·.type c)) (b.edit (·.type d)) :=
      h.edit (h.form.type hblank fun hfocus => absurd hfocus hplain)
    exact ⟨hchange.app, rfl, hchange.action⟩
  | same m =>
    cases m with
    | key k => exact ⟨h, h.keyCommand k, .none⟩
    | event e => exact ⟨(h.receive e).app, rfl, (h.receive e).action⟩
    | command c => exact ⟨(h.perform c).app, rfl, (h.perform c).action⟩

end App

end Provision
