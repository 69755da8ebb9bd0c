/-
The error of a rejected form.

A submit that is rejected notes why, and does nothing else (`submit_of_error`).
The error is kept apart from the form that it speaks of; but every message that
changes the form, or starts a session, takes it away, so whenever there is an
error it is the one that submitting the form now would give
(`History.error_fresh`).

Main result: `error_never_stale`.
-/
import Provision.Proofs.App.History
import Provision.Proofs.Form.Submit

namespace Provision.App

variable {a a' : App} {m : Message} {action : Option Action} {settings : Settings}
  {endpoint : String} {rs : List Round} {e : Error} {t : String}

/-! ### A submit -/

/-- A form that is rejected is noted to be, and nothing else happens. -/
theorem submit_of_error (hidle : a.inProgress = false) (h : a.form.submit = .error e) :
    a.update (.command .submit) = { app := { a with formError := some e.message } } := by
  simp only [update, perform, submit, hidle, h]
  rfl

/-- A form that is accepted starts a session, without an error. -/
theorem submit_of_ok {r : Request} (hidle : a.inProgress = false) (h : a.form.submit = .ok r) :
    (a.update (.command .submit)).app.formError = none ∧
      (a.update (.command .submit)).app.inProgress = true := by
  simp only [update, perform, submit, hidle, h]
  exact ⟨rfl, rfl⟩

theorem submit_of_running (hrun : a.inProgress = true) :
    a.update (.command .submit) = { app := a } := by
  simp only [update, perform, submit, hrun, if_true]
  rfl

/-! ### The error of the form as it is -/

/-- The error, if there is one, is that of the form as it is now. -/
def ErrorFresh (a : App) : Prop :=
  ∀ t, a.formError = some t →
    a.inProgress = false ∧ ∃ e, a.form.submit = .error e ∧ e.message = t

/-- So while a session runs there is none. -/
theorem ErrorFresh.eq_none (h : a.ErrorFresh) (hrun : a.inProgress = true) :
    a.formError = none := by
  rw [Option.eq_none_iff_forall_ne_some]
  intro t ht
  exact absurd ((h t ht).1.symm.trans hrun) (by decide)

theorem Step.error_fresh (h : Step a m a' action) (hfresh : a.ErrorFresh) : a'.ErrorFresh := by
  intro t ht
  cases h with
  | aside => exact hfresh t ht
  | edit | start => cases ht
  | reject _ hidle hs =>
    cases ht
    exact ⟨hidle, _, hs, rfl⟩
  | opened hrun | stop _ _ hrun =>
    -- While a session ran there was no error to keep.
    have hnone := hfresh.eq_none hrun
    cases hnone.symm.trans ht

theorem History.error_fresh (h : History settings endpoint rs a) : a.ErrorFresh :=
  h.invariant (fun _ ht => nomatch ht) (fun _ _ hfresh => hfresh) Step.error_fresh

/-- A rejected submit notes the error and leaves everything else as it is, and the
error is never stale.  In any state without a session, a submit of a form that
does not fit changes the error alone, to the words of the first fault of the
form, and asks for nothing.  Whatever an application has gone through, if there
is an error then no session runs, and the form as it is now would be rejected
with exactly these words, so that to submit it again changes nothing.  So a
submit leaves an error behind exactly if it leaves no session behind. -/
theorem error_never_stale :
    (∀ (a : App) (e : Error), a.inProgress = false → a.form.submit = .error e →
      (∃ (field : Field) (fault : FieldFault), a.form.firstFault? = some (field, fault) ∧
        e = .validation field.label fault.message) ∧
      a.update (.command .submit) =
        { app := { a with formError := some e.message }, action := none, followUp := none }) ∧
    ∀ (settings : Settings) (endpoint : String) (rs : List Round) (a : App),
      History settings endpoint rs a →
      (∀ t, a.formError = some t →
        a.inProgress = false ∧ (∃ e, a.form.submit = .error e ∧ e.message = t) ∧
          a.update (.command .submit) = { app := a }) ∧
      ((a.update (.command .submit)).app.formError = none ↔
        (a.update (.command .submit)).app.inProgress = true) := by
  refine ⟨fun a e hidle hs => ⟨Form.submit_eq_error hs, submit_of_error hidle hs⟩,
    fun settings endpoint rs a h => ⟨fun t ht => ?_, ?_⟩⟩
  · obtain ⟨hidle, e, hs, he⟩ := h.error_fresh t ht
    refine ⟨hidle, ⟨e, hs, he⟩, ?_⟩
    rw [submit_of_error hidle hs, he, ← ht]
  · rcases hrun : a.inProgress
    · rcases hs : a.form.submit with e | r
      · rw [submit_of_error hrun hs]
        simpa [inProgress] using hrun
      · obtain ⟨hnone, hruns⟩ := submit_of_ok hrun hs
        exact iff_of_true hnone hruns
    · rw [submit_of_running hrun]
      exact iff_of_true (h.error_fresh.eq_none hrun) hrun

/-- One field is filled in and the form submitted, and then submitted again. -/
theorem error_never_stale_missing :
    ∃ rs before a, before = (App.start {} "x").dispatchAll [.key .tab, .key (.char 'h')] ∧
      before.update (.command .submit) = { app := a } ∧
      a = { before with formError := some "Username: is required" } ∧
      History {} "x" rs a ∧ a.update (.command .submit) = { app := a } := by
  have h := history_rounds {} "x" [.key .tab, .key (.char 'h')]
  obtain ⟨hreject, hfresh⟩ := error_never_stale
  have hs : ((App.start {} "x").dispatchAll [.key .tab, .key (.char 'h')]).form.submit =
      .error (.validation "Username" "is required") := rfl
  have hsubmit := (hreject _ _ (by decide) hs).2
  have hafter := h.update (.command .submit)
  rw [hsubmit] at hafter
  exact ⟨_, _, _, rfl, hsubmit, by decide, hafter, ((hfresh _ _ _ _ hafter).1 _ rfl).2.2⟩

end Provision.App
