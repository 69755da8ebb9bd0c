/-
No key quits a running session without the dialog.

The user presses keys and the session reports events, in any order, until the
application quits: `Attended` are the states that this comes to.  While a session
runs and the settings say to ask, a key of the form or the log never quits, and
Escape alone ends the session (`dispatch_key_normal`); a key of the dialog
answers it or does nothing at all (`dispatch_key_confirm`).

Main result: `quits_by_dialog`.
-/
import Provision.Proofs.App.Edges
import Provision.Proofs.App.History

namespace Provision

/-- Moves the view of the log. -/
def Command.scrolls : Command → Bool
  | .scrollUp | .scrollDown | .scrollToTop | .scrollToBottom | .pageUp | .pageDown => true
  | _ => false

namespace App

variable {a : App} {k : Key} {c : Command} {settings : Settings} {endpoint : String}
  {ms : List Message}

/-- The keys with which the dialog quits. -/
def quitKeys : List Key :=
  [.char 'y', .char 'Y', .char 'q', .enter, .control 'c']

/-! ### One key -/

theorem perform_of_scrolls (h : c.scrolls = true) (a : App) :
    ∃ view, a.perform c = (a.onLog (·.scroll view), none) := by
  cases c with
  | scrollUp | scrollDown | scrollToTop | scrollToBottom | pageUp | pageDown => exact ⟨_, rfl⟩
  | _ => cases h

theorem quitting_cancelIfQuitting (a : App) : a.cancelIfQuitting.1.quitting = a.quitting := by
  rw [cancelIfQuitting]
  split <;> rfl

/-- What came of `a` has its form and its log, the view of the log included, and no
session was started on the way. -/
structure Calm (a : App) (r : App × List Action) : Prop where
  form : r.1.form = a.form
  log : r.1.log = a.log
  running : r.1.inProgress = true → a.inProgress = true
  starts : ∀ target command, Action.start target command ∉ r.2

theorem calm_cancelIfQuitting (a : App) :
    Calm a (a.cancelIfQuitting.1, a.cancelIfQuitting.2.toList) := by
  rw [cancelIfQuitting]
  split
  · exact ⟨rfl, rfl, fun h => absurd h Bool.false_ne_true, by simp [stop]⟩
  · exact ⟨rfl, rfl, id, by simp [quietly]⟩

/-- In the dialog a key quits, or it goes back, or it means nothing. -/
theorem dialogKey_cases (k : Key) :
    k ∈ quitKeys ∧ (dialogKey k = some .confirmQuit ∨ dialogKey k = some .quit) ∨
      k ∉ quitKeys ∧ (dialogKey k = some .cancelQuit ∨ dialogKey k = none) := by
  fun_cases dialogKey k <;> simp_all [quitKeys]

/-- Before the dialog a key of a running session gives it up, asks to quit, or moves
the view of the log. -/
theorem keyCommand_normal (hmode : a.mode = .normal) (hrun : a.inProgress = true)
    (h : a.keyCommand k = some c) :
    k = .escape ∧ c = .cancel ∨ k ≠ .escape ∧ (c = .requestQuit ∨ c.scrolls = true) := by
  simp only [keyCommand, hmode, hrun, if_true] at h
  split at h
  · cases h
    exact .inr ⟨nofun, .inl rfl⟩
  · cases h
    exact .inr ⟨nofun, .inr rfl⟩
  · cases h
    exact .inr ⟨nofun, .inr rfl⟩
  · revert h
    fun_cases sessionKey k <;> rintro ⟨⟩ <;> simp [Command.scrolls]

/-- A running session survives every key but Escape, and no key quits. -/
theorem dispatch_key_normal (hmode : a.mode = .normal) (hrun : a.inProgress = true)
    (hask : a.settings.confirmQuit = true) (hstay : a.quitting = false) (k : Key) :
    (a.dispatch (.key k)).1.quitting = false ∧
      ((a.dispatch (.key k)).1.inProgress = false ↔ k = .escape) := by
  have hruns : ¬ a.inProgress = false := by rw [hrun]; decide
  rcases hk : a.keyCommand k with - | c
  · have hother : k ≠ .escape := by
      rintro rfl
      simp [keyCommand, hmode, hrun, sessionKey] at hk
    rw [dispatch_key_of_none hk]
    exact ⟨hstay, iff_of_false hruns hother⟩
  · rw [dispatch_key_of_some hk]
    rcases keyCommand_normal hmode hrun hk with ⟨rfl, rfl⟩ | ⟨hother, rfl | hscrolls⟩
    · have hcancel : a.perform .cancel = ({ a with phase := .cancelled }, some .close) :=
        if_pos hrun
      rw [hcancel]
      exact ⟨hstay, iff_of_true rfl rfl⟩
    · -- The settings say to ask, so the dialog opens.
      have hopen : a.perform .requestQuit = ({ a with mode := .confirm }, none) := by
        simp [perform, requestQuit, hrun, hask, cancelIfQuitting, hstay, quietly]
      rw [hopen]
      exact ⟨hstay, iff_of_false hruns hother⟩
    · obtain ⟨view, hview⟩ := perform_of_scrolls hscrolls a
      rw [hview]
      exact ⟨hstay, iff_of_false hruns hother⟩

/-- A key of the dialog leaves the form and the log alone and starts nothing; it quits
exactly if it is one of those that do. -/
theorem dispatch_key_confirm (hmode : a.mode = .confirm) (hstay : a.quitting = false) (k : Key) :
    ((a.dispatch (.key k)).1.quitting = true ↔ k ∈ quitKeys) ∧ Calm a (a.dispatch (.key k)) := by
  have hkey : a.keyCommand k = dialogKey k := by simp [keyCommand, hmode]
  have hstays : ¬ a.quitting = true := by rw [hstay]; decide
  rcases dialogKey_cases k with ⟨hquits, hk | hk⟩ | ⟨hother, hk | hk⟩
  · obtain ⟨hform, hlog, hrunning, hstarts⟩ :=
      calm_cancelIfQuitting { a with mode := .normal, quitting := true }
    rw [dispatch_key_of_some (hkey.trans hk)]
    exact ⟨iff_of_true (quitting_cancelIfQuitting _) hquits, hform, hlog, hrunning, hstarts⟩
  · obtain ⟨hform, hlog, hrunning, hstarts⟩ := calm_cancelIfQuitting { a with quitting := true }
    rw [dispatch_key_of_some (hkey.trans hk)]
    exact ⟨iff_of_true (quitting_cancelIfQuitting _) hquits, hform, hlog, hrunning, hstarts⟩
  · rw [dispatch_key_of_some (hkey.trans hk)]
    exact ⟨iff_of_false hstays hother, rfl, rfl, id, fun _ _ => List.not_mem_nil⟩
  · rw [dispatch_key_of_none (hkey.trans hk)]
    exact ⟨iff_of_false hstays hother, rfl, rfl, id, fun _ _ => List.not_mem_nil⟩

/-! ### Keys and events until the application quits -/

/-- The application after keys and events, each with what follows from it.  Nothing
comes after it has quit.  In between time passes, and drawing the screen moves the
view of the log. -/
inductive Attended (settings : Settings) (endpoint : String) : List Message → App → Prop
  | start : Attended settings endpoint [] (.start settings endpoint)
  | between {ms : List Message} {a : App} (now : TimeOfDay) (view : LogView) :
      Attended settings endpoint ms a →
      Attended settings endpoint ms { a with now, log := { a.log with view } }
  | key {ms : List Message} {a : App} (k : Key) : Attended settings endpoint ms a →
      a.quitting = false → Attended settings endpoint (ms ++ [.key k]) (a.dispatch (.key k)).1
  | event {ms : List Message} {a : App} (e : Event) : Attended settings endpoint ms a →
      a.quitting = false →
      Attended settings endpoint (ms ++ [.event e]) (a.dispatch (.event e)).1

namespace Attended

theorem history (h : Attended settings endpoint ms a) :
    ∃ rs, History settings endpoint rs a := by
  induction h with
  | start => exact ⟨[], .start⟩
  | between now view _ ih =>
    obtain ⟨rs, hrs⟩ := ih
    exact ⟨rs, hrs.between now view⟩
  | key k _ _ ih =>
    obtain ⟨rs, hrs⟩ := ih
    exact ⟨_, hrs.dispatch (.key k)⟩
  | event e _ _ ih =>
    obtain ⟨rs, hrs⟩ := ih
    exact ⟨_, hrs.dispatch (.event e)⟩

theorem confirmQuit_eq (h : Attended settings endpoint ms a) :
    a.settings.confirmQuit = settings.confirmQuit := by
  obtain ⟨rs, hrs⟩ := h.history
  rw [hrs.settings_endpoint.1]

end Attended

/-- In a state that asks before it quits, a key quits a running session exactly if it
answers the dialog so. -/
theorem quits_running_iff (hask : a.settings.confirmQuit = true) (hstay : a.quitting = false)
    (hrun : a.inProgress = true) (k : Key) :
    (a.dispatch (.key k)).1.quitting = true ↔ a.mode = .confirm ∧ k ∈ quitKeys := by
  rcases hmode : a.mode
  · rw [(dispatch_key_normal hmode hrun hask hstay k).1]
    simp
  · rw [(dispatch_key_confirm hmode hstay k).1]
    simp

/-- What quits is a key. -/
theorem Attended.quit_by_key (h : Attended settings endpoint ms a) (hquit : a.quitting = true) :
    ∃ before b k, ms = before ++ [.key k] ∧ Attended settings endpoint before b ∧
      b.quitting = false ∧ (b.dispatch (.key k)).1.quitting = true := by
  induction h with
  | start => cases hquit
  | between _ _ _ ih => exact ih hquit
  | key k h hstay => exact ⟨_, _, k, rfl, h, hstay, hquit⟩
  | event e _ hstay =>
    have hsame := (quitting_receive _ e).symm.trans hquit
    cases hstay.symm.trans hsame

/-- No key quits a running session without the dialog.  The settings say to ask, and
keys and events come in any order until the application quits.  Whatever state this
has come to, while a session runs a key quits exactly if the dialog is open and the
key is one of those that answer it so; while the dialog is open no key changes the
form or the log with its view, or starts a session; and before the dialog Escape is
the one key that ends a running session, and none quits.  So whatever has quit was
asked before, if a session ran. -/
theorem quits_by_dialog (hask : settings.confirmQuit = true)
    (h : Attended settings endpoint ms a) :
    (∀ k, a.quitting = false →
      (a.inProgress = true →
        ((a.dispatch (.key k)).1.quitting = true ↔ a.mode = .confirm ∧ k ∈ quitKeys)) ∧
      (a.mode = .confirm → Calm a (a.dispatch (.key k))) ∧
      (a.mode = .normal → a.inProgress = true →
        ((a.dispatch (.key k)).1.inProgress = false ↔ k = .escape) ∧
        (a.dispatch (.key k)).1.quitting = a.quitting)) ∧
    (a.quitting = true →
      ∃ before b k, ms = before ++ [.key k] ∧ Attended settings endpoint before b ∧
        b.quitting = false ∧ (b.inProgress = true → b.mode = .confirm ∧ k ∈ quitKeys)) := by
  refine ⟨fun k hstay => ⟨fun hrun => ?_, fun hmode => ?_, fun hmode hrun => ?_⟩, fun hquit => ?_⟩
  · exact quits_running_iff (h.confirmQuit_eq.trans hask) hstay hrun k
  · exact (dispatch_key_confirm hmode hstay k).2
  · obtain ⟨hstays, hends⟩ := dispatch_key_normal hmode hrun (h.confirmQuit_eq.trans hask) hstay k
    exact ⟨hends, hstays.trans hstay.symm⟩
  · obtain ⟨before, b, k, hms, hb, hstay, hquits⟩ := h.quit_by_key hquit
    exact ⟨before, b, k, hms, hb, hstay, fun hrun =>
      (quits_running_iff (hb.confirmQuit_eq.trans hask) hstay hrun k).mp hquits⟩

/-- The form is filled in and submitted, the connection comes to be open, and the
user asks to quit: then a stray key does nothing, and `y` quits. -/
theorem quits_by_dialog_asked :
    ∃ ms a, Attended {} "x" ms a ∧ a.phase = .installing ∧ a.mode = .confirm ∧
      a.quitting = false ∧ (a.dispatch (.key (.char 'x'))).1.quitting ≠ true ∧
      (a.dispatch (.key (.char 'y'))).1.quitting = true := by
  have hfilled : ∃ ms, Attended {} "x" ms ((App.start {} "x").dispatchAll fillingKeys) :=
    ⟨_, (((((Attended.start.key .tab rfl).key (.char 'h') rfl).key .tab rfl).key (.char 'u')
      rfl).key .tab rfl).key (.char 'p') rfl⟩
  obtain ⟨ms, hfilled⟩ := hfilled
  have h := ((hfilled.key .enter rfl).event .opened rfl).key (.control 'c') rfl
  obtain ⟨hkeys, -⟩ := quits_by_dialog rfl h
  refine ⟨_, _, h, by decide, by decide, by decide, fun hquit => ?_, ?_⟩
  · exact absurd (((hkeys (.char 'x') (by decide)).1 (by decide)).mp hquit).2 (by decide)
  · exact ((hkeys (.char 'y') (by decide)).1 (by decide)).mpr ⟨by decide, by decide⟩

end App

end Provision
