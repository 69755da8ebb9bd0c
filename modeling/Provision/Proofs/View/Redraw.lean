/-
Redraws.

The screen is drawn at moments that the application does not choose.  Drawing notes
the sizes of the log and moves its view to fit them, and changes nothing else
(`draw_snd`); so it does not change the application without the place in its log,
and that is all that messages depend on (`update_unscrolled`).  A run with redraws
therefore tells the same as the run of its messages alone, wherever the log was
scrolled before it (`told_filter`).

Taking note of the same sizes again changes nothing (`resize_resize`), and neither
does drawing again.

Main result: `redraws_invisible`.
-/
import Provision.Proofs.App.Unscrolled
import Provision.Proofs.View.Window

namespace Provision

theorem LogView.resize_resize (v : LogView) (total height : Nat) :
    (v.resize total height).resize total height = v.resize total height := by
  obtain ⟨offset, follow, _, _⟩ := v
  cases follow with
  | true => rfl
  | false =>
    have hstays : min (min offset (total - height)) (total - height) =
        min offset (total - height) := Nat.min_eq_left (Nat.min_le_right _ _)
    exact congrArg (LogView.mk · false total height) hstays

namespace View

/-- A log that is drawn again looks the same, and its view stays. -/
theorem drawLog_again (s : Screen) (a : Area) (entries : List LogEntry) (phase : Phase)
    (view : LogView) :
    drawLog s a entries phase (drawLog s a entries phase view).2 =
      drawLog s a entries phase view := by
  rw [drawLog_snd]
  cases entries with
  | nil =>
    simp only [drawLog, logRows, List.flatMap_nil, List.length_nil, List.isEmpty_nil, if_true,
      LogView.resize_resize]
  | cons entry rest =>
    simp only [drawLog, logRows, List.isEmpty_cons, Bool.false_eq_true, if_false,
      LogView.resize_resize]

theorem draw_again (a : App) (width height : Nat) :
    draw (draw a width height).2 width height = draw a width height := by
  have hupper : drawUpper (draw a width height).2 width height = drawUpper a width height := by
    rw [draw_snd]
    exact drawLog_again (aboveLog a width height) _ _ _ _
  rw [draw_eq, hupper, draw_snd, draw_eq]
  rfl

theorem unscrolled_draw (a : App) (width height : Nat) :
    (draw a width height).2.unscrolled = a.unscrolled := by
  rw [draw_snd]
  rfl

end View

namespace App

/-! ### Runs with redraws -/

/-- What happens from one moment to the next. -/
inductive Moment where
  /-- A message, without the command that follows from it. -/
  | once (m : Message)
  /-- A message with everything that follows from it. -/
  | through (m : Message)
  | tick (now : TimeOfDay)
  | redraw (width height : Nat)
  deriving DecidableEq, Repr

/-- What can be told of the application after a moment: all but the place in its log,
what it asks of the session, and the command that is still to be carried out. -/
structure Told where
  app : App
  actions : List Action := []
  followUp : Option Command := none
  deriving DecidableEq, Repr

def Told.unscrolled (t : Told) : Told :=
  { t with app := t.app.unscrolled }

namespace Moment

def isRedraw : Moment → Bool
  | .redraw _ _ => true
  | _ => false

/-- What a moment leads to. -/
def pass (a : App) : Moment → Told
  | .once m => ⟨(a.update m).app, (a.update m).action.toList, (a.update m).followUp⟩
  | .through m => ⟨(a.dispatch m).1, (a.dispatch m).2, none⟩
  | .tick now => ⟨{ a with now }, [], none⟩
  | .redraw width height => ⟨(View.draw a width height).2, [], none⟩

end Moment

/-- What is told after each moment of a run, but for redraws. -/
def told (a : App) : List Moment → List Told
  | [] => []
  | moment :: rest =>
    let after := moment.pass a
    if moment.isRedraw then after.app.told rest else after.unscrolled :: after.app.told rest

variable {a b : App} {moment : Moment}

theorem pass_unscrolled (a : App) (moment : Moment) (h : moment.isRedraw = false) :
    (moment.pass a.unscrolled).unscrolled = (moment.pass a).unscrolled := by
  cases moment with
  | once m =>
    exact congrArg (fun o : Outcome => Told.mk o.app o.action.toList o.followUp)
      (a.update_unscrolled m)
  | through m =>
    exact congrArg (fun d : App × List Action => Told.mk d.1 d.2 none) (a.dispatch_unscrolled m)
  | tick now => rfl
  | redraw => cases h

/-- Applications that differ in the place in the log alone come to such ones. -/
theorem pass_congr (h : a.unscrolled = b.unscrolled) (hm : moment.isRedraw = false) :
    (moment.pass a).unscrolled = (moment.pass b).unscrolled := by
  rw [← pass_unscrolled a moment hm, h, pass_unscrolled b moment hm]

/-- The redraws of a run can be left out. -/
theorem told_filter (h : a.unscrolled = b.unscrolled) (moments : List Moment) :
    a.told moments = b.told (moments.filter (!·.isRedraw)) := by
  -- A message happens to both, and as it does not read the view they stay equal but for
  -- that; a redraw happens to the first one only.
  induction moments generalizing a b with
  | nil => rfl
  | cons moment rest ih =>
    rcases hm : moment.isRedraw
    · have hpass := pass_congr h hm
      have hafter : (moment.pass a).app.unscrolled = (moment.pass b).app.unscrolled :=
        congrArg Told.app hpass
      simp only [told, hm, List.filter_cons, Bool.not_false, if_true, Bool.false_eq_true, if_false,
        hpass, ih hafter]
    · have hafter : (moment.pass a).app.unscrolled = b.unscrolled := by
        cases moment with
        | redraw width height => exact (View.unscrolled_draw a width height).trans h
        | once | through | tick => cases hm
      simp only [told, hm, List.filter_cons, Bool.not_true, Bool.false_eq_true, if_true, if_false,
        ih hafter]

/-- Redraws cannot be told.  Drawing on a screen of any size changes the offset and the
sizes in the view of the log, and nothing else.  So let an application go through the
same messages twice, with redraws of any sizes at any moments between them: after each
message it asks for the same, the same command follows, and all of the application
is the same but for the place in its log.  And drawing twice on a screen of one size is
drawing once. -/
theorem redraws_invisible (a : App) :
    (∀ width height, ∃ offset total shown, (View.draw a width height).2 =
      { a with
        log := { a.log with view := { a.log.view with offset, total, height := shown } } }) ∧
    (∀ moments moments' : List Moment,
      moments.filter (!·.isRedraw) = moments'.filter (!·.isRedraw) →
      a.told moments = a.told moments') ∧
    ∀ width height,
      View.draw (View.draw a width height).2 width height = View.draw a width height := by
  refine ⟨fun width height => ?_, fun moments moments' h => ?_, View.draw_again a⟩
  · rw [View.draw_snd, View.drawUpper_eq, View.drawLog_snd]
    exact ⟨_, _, _, rfl⟩
  · rw [told_filter rfl moments, h, ← told_filter rfl moments']

/-- A log of two rows, scrolled before it is drawn and after. -/
theorem redraws_invisible_scrolled :
    let a : App := { log := { entries := [⟨0, {}, .info, "a\nb"⟩] } }
    a.told [.once (.key .endKey), .redraw 80 24, .through (.key .home), .redraw 20 5] =
      a.told [.redraw 80 5, .once (.key .endKey), .through (.key .home)] := by
  intro a
  obtain ⟨-, hruns, -⟩ := redraws_invisible a
  exact hruns _ _ rfl

end App

end Provision
