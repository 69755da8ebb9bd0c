/-
Passwords are not seen.

Applications that are alike are drawn alike: of a secret the form shows the
length, and no other part of the screen reads the inputs (`App.Alike.draw`).  So
whatever happens to two applications side by side, as long as the same happens
to both but for what is typed into secrets, nothing that is shown tells one from
the other (`Lockstep.alike`).

Main result: `passwords_unseen`.
-/
import Provision.Proofs.App.Alike
import Provision.View

namespace Provision

/-! ### Drawing -/

namespace View

variable {f g : Form} {a b : App} {field : Field}

theorem inputLine_of_alike {i j : Input} (h : i.Alike j) (hsecret : field.isSecret = true)
    (isFocused : Bool) : inputLine field j isFocused = inputLine field i isFocused := by
  rw [inputLine, inputLine, hsecret, h.isEmpty, h.shown]

theorem fieldLine_of_alike (h : f.Alike g) (locked : Bool) (field : Field) :
    fieldLine g locked field = fieldLine f locked field := by
  rw [fieldLine, fieldLine, h.focus, h.protocol]
  rcases hsecret : field.isSecret
  · rw [h.input?_eq hsecret]
  · obtain ⟨i, j, hi, hj, hij⟩ := h.input?_secret hsecret
    simp only [hi, hj, inputLine_of_alike hij hsecret]

theorem drawForm_of_alike (h : f.Alike g) (s : Screen) (area : Area) (locked : Bool)
    (error : Option String) : drawForm s area g locked error = drawForm s area f locked error := by
  have hlines : fieldLine g locked = fieldLine f locked := funext (fieldLine_of_alike h locked)
  rw [drawForm, drawForm, h.protocol, h.visible, hlines]

theorem drawStatus_of_alike (h : a.Alike b) (s : Screen) (area : Area) :
    drawStatus s area b = drawStatus s area a := by
  cases h with
  | intro hform => rw [drawStatus, drawStatus, statusLine, statusLine, hform.protocol]

/-- The upper parts of the screen, down to the log, and its view then. -/
def drawUpper (a : App) (width height : Nat) : Screen × LogView :=
  let s := (Screen.blank width height).restyle ⟨0, 0, width, height⟩ (.paper Theme.backdrop)
  let parts := Layout.create ⟨0, 0, width, height⟩ a.form.visible.length
  let s := drawHeader s parts.header a.endpoint a.phase
  let s := drawForm s parts.form a.form a.inProgress a.formError
  drawLog s parts.log a.log.entries a.phase a.log.view

/-- The status, and the dialog over everything. -/
def drawLower (upper : Screen × LogView) (area : Area) (a : App) : Screen × App :=
  let a := a.onLog (·.scroll fun _ => upper.2)
  let s := drawStatus upper.1 area a
  match a.mode with
  | .confirm => (drawDialog s s.area quitPrompt, a)
  | .normal => (s, a)

theorem draw_eq (a : App) (width height : Nat) :
    draw a width height =
      drawLower (drawUpper a width height)
        (Layout.create ⟨0, 0, width, height⟩ a.form.visible.length).status a :=
  rfl

theorem drawUpper_of_alike (h : a.Alike b) (width height : Nat) :
    drawUpper b width height = drawUpper a width height := by
  rw [drawUpper, drawUpper, h.form.visible, drawForm_of_alike h.form, h.inProgress]
  cases h
  rfl

theorem drawLower_of_alike (h : a.Alike b) (upper : Screen × LogView) (area : Area) :
    (drawLower upper area b).1 = (drawLower upper area a).1 ∧
      (drawLower upper area a).2.Alike (drawLower upper area b).2 := by
  have hafter := h.onLog (·.scroll fun _ => upper.2)
  have hmode : (b.onLog (·.scroll fun _ => upper.2)).mode =
      (a.onLog (·.scroll fun _ => upper.2)).mode := by
    cases h
    rfl
  simp only [drawLower, drawStatus_of_alike hafter, hmode]
  split <;> exact ⟨rfl, hafter⟩

/-- The screens are equal, and what drawing notes of the log is. -/
theorem draw_of_alike (h : a.Alike b) (width height : Nat) :
    (draw b width height).1 = (draw a width height).1 ∧
      (draw a width height).2.Alike (draw b width height).2 := by
  rw [draw_eq, draw_eq, drawUpper_of_alike h, h.form.visible]
  exact drawLower_of_alike h _ _

end View

/-! ### Side by side -/

/-- What comes out of the application for others to see. -/
inductive Output where
  | screen (s : Screen)
  /-- A line of the log file. -/
  | text (t : String)
  deriving DecidableEq, Repr

namespace App

variable {a b a' b' : App} {out out' : List Output}

/-- What is written of the actions of a message. -/
def Outcome.written (o : Outcome) : List Output :=
  (o.action.map Debug.action).toList.map .text

/-- `a` and `b` come to `a'` and `b'` while the same happens to both but for what is
typed into secrets, and `out` and `out'` come out of them. -/
inductive Lockstep (a b : App) : List Output → List Output → App → App → Prop
  | start : Lockstep a b [] [] a b
  | message {out out' : List Output} {a' b' : App} {m m' : Message} :
      Lockstep a b out out' a' b' → Message.Alike a'.form.focus m m' →
      Lockstep a b (out ++ (a'.update m).written) (out' ++ (b'.update m').written)
        (a'.update m).app (b'.update m').app
  | draw {out out' : List Output} {a' b' : App} (width height : Nat) :
      Lockstep a b out out' a' b' →
      Lockstep a b (out ++ [.screen (View.draw a' width height).1])
        (out' ++ [.screen (View.draw b' width height).1])
        (View.draw a' width height).2 (View.draw b' width height).2
  | tick {out out' : List Output} {a' b' : App} (now : TimeOfDay) :
      Lockstep a b out out' a' b' → Lockstep a b out out' { a' with now } { b' with now }

/-- What is written does not tell the commands. -/
theorem debug_of_rel {x y : Option Action} (h : Option.Rel Action.Alike x y) :
    y.map Debug.action = x.map Debug.action := by
  cases h with
  | none => rfl
  | some h => rw [Option.map_some, Option.map_some, h.debug]

theorem Lockstep.alike (h : a.Alike b) (hl : Lockstep a b out out' a' b') :
    a'.Alike b' ∧ out' = out := by
  -- That they are alike so far makes the next step come to the same.
  induction hl with
  | start => exact ⟨h, rfl⟩
  | message _ hm ih =>
    obtain ⟨halike, hout⟩ := ih
    obtain ⟨happ, -, haction⟩ := halike.update hm
    exact ⟨happ, by rw [hout, Outcome.written, Outcome.written, debug_of_rel haction]⟩
  | draw width height _ ih =>
    obtain ⟨halike, hout⟩ := ih
    obtain ⟨hscreen, happ⟩ := View.draw_of_alike halike width height
    exact ⟨happ, by rw [hout, hscreen]⟩
  | tick now _ ih =>
    obtain ⟨halike, hout⟩ := ih
    cases halike with
    | intro hform => exact ⟨.intro hform, hout⟩

/-- A form is written without its passwords. -/
theorem debug_form_of_alike {f g : Form} (h : f.Alike g) : Debug.form g = Debug.form f := by
  cases h
  rfl

/-- Passwords are not seen.  Let two applications be equal but for passwords that
are equally long and have blanks at the same places, and let the same message
come to both, or characters be typed into a secret that are both blank or both
not.  They stay alike, the same command follows, they ask for the same but for the
command that is sent, and the same is written of that and of the forms; and on a
screen of any size both look the same.  So whatever happens to them side by
side, what comes out of them is the same. -/
theorem passwords_unseen (h : a.Alike b) :
    (∀ m m', Message.Alike a.form.focus m m' →
      (a.update m).app.Alike (b.update m').app ∧
      (b.update m').followUp = (a.update m).followUp ∧
      Option.Rel Action.Alike (a.update m).action (b.update m').action ∧
      (b.update m').action.map Debug.action = (a.update m).action.map Debug.action ∧
      Debug.form (b.update m').app.form = Debug.form (a.update m).app.form) ∧
    (∀ width height, (View.draw b width height).1 = (View.draw a width height).1 ∧
      (View.draw a width height).2.Alike (View.draw b width height).2) ∧
    Debug.form b.form = Debug.form a.form ∧
    ∀ out out' a' b', Lockstep a b out out' a' b' → a'.Alike b' ∧ out' = out := by
  refine ⟨fun m m' hm => ?_, View.draw_of_alike h, debug_form_of_alike h.form,
    fun _ _ _ _ hl => hl.alike h⟩
  obtain ⟨happ, hfollow, haction⟩ := h.update hm
  exact ⟨happ, hfollow, haction, debug_of_rel haction, debug_form_of_alike happ.form⟩

/-- Two passwords of one character, submitted: different commands, the same
screens. -/
theorem passwords_unseen_submitted :
    ∃ a b : App, (a.update (.command .submit)).action ≠ (b.update (.command .submit)).action ∧
      (b.update (.command .submit)).action.map Debug.action =
        (a.update (.command .submit)).action.map Debug.action ∧
      ∀ width height, (View.draw (b.update (.command .submit)).app width height).1 =
        (View.draw (a.update (.command .submit)).app width height).1 := by
  let a : App :=
    { form := { remoteAddress := ⟨"h"⟩, username := ⟨"u"⟩, password := ⟨"p"⟩ } }
  let b : App := { a with form := { a.form with password := ⟨"q"⟩ } }
  have h : a.Alike b := .intro (.intro (by decide) (by decide))
  obtain ⟨hmessage, -⟩ := passwords_unseen h
  obtain ⟨happ, -, -, hdebug, -⟩ := hmessage (.command .submit) _ (.same _)
  obtain ⟨-, hdraw, -⟩ := passwords_unseen happ
  exact ⟨a, b, by decide, hdebug, fun width height => (hdraw width height).1⟩

end App

end Provision
