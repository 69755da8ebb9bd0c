/-
What the user types is what the field holds.

On a text field three kinds of keys edit the text: a character, Backspace, and
Ctrl+U.  Each of them changes the focused input and takes away the error of the
form, and does nothing else (`dispatch_stroke`); so a row of them makes of the
input what they make of its characters one after the other, and leaves
everything else as it is (`dispatchAll_strokes`).

Main result: `typed_verbatim`.
-/
import Provision.Proofs.App.Hidden

namespace Provision

/-- A key that edits a text field. -/
inductive Stroke where
  | char (c : Char)
  | backspace
  /-- Ctrl+U. -/
  | clear
  deriving DecidableEq, Repr

namespace Stroke

def key : Stroke → Key
  | char c => .char c
  | backspace => .backspace
  | clear => .control 'u'

/-- What the key makes of the characters that stand in the field. -/
def apply (cs : List Char) : Stroke → List Char
  | char c => cs ++ [c]
  | backspace => cs.dropLast
  | clear => []

/-- The keys of a row of strokes. -/
def messages (ss : List Stroke) : List Message :=
  ss.map fun s => .key s.key

/-- What the key asks for. -/
def command : Stroke → Command
  | char c => .type c
  | backspace => .backspace
  | clear => .clearField

theorem toList_typing (s : Stroke) (i : Input) :
    (s.command.typing i).value.toList = s.apply i.value.toList := by
  cases s with
  | char c => exact String.toList_push c
  | backspace => exact String.toList_ofList
  | clear => rfl

/-- The strokes one after the other. -/
theorem toList_foldl_typing (ss : List Stroke) (i : Input) :
    (ss.foldl (fun i s => s.command.typing i) i).value.toList =
      ss.foldl apply i.value.toList := by
  induction ss generalizing i with
  | nil => rfl
  | cons s ss ih => rw [List.foldl_cons, List.foldl_cons, ih, toList_typing]

end Stroke

namespace Form

theorem modifyInput_id (f : Form) (field : Field) : f.modifyInput field (fun i => i) = f := by
  cases field <;> rfl

theorem modifyInput_modifyInput (f : Form) (field : Field) (change more : Input → Input) :
    (f.modifyInput field change).modifyInput field more =
      f.modifyInput field fun i => more (change i) := by
  cases field <;> rfl

theorem protocol_modifyInput (f : Form) (field : Field) (change : Input → Input) :
    (f.modifyInput field change).protocol = f.protocol := by
  cases field <;> rfl

theorem input?_of_isText (f : Form) {field : Field} (h : field.isText = true) :
    ∃ i, f.input? field = some i := by
  cases field with
  | protocol => cases h
  | remoteAddress | username | password | vpnUsername | vpnPassword => exact ⟨_, rfl⟩

end Form

namespace App

variable {a : App}

/-- The form takes text: no session runs, no dialog is open, and the focus is on a
text field. -/
structure TakesText (a : App) : Prop where
  mode : a.mode = .normal
  idle : a.inProgress = false
  focus : a.form.focus.isText = true

/-- The application after `change` was made to the focused input. -/
def retyped (a : App) (change : Input → Input) : App :=
  { a with form := a.form.modifyInput a.form.focus change, formError := none }

theorem TakesText.retyped (h : a.TakesText) (change : Input → Input) :
    (a.retyped change).TakesText := by
  refine ⟨h.mode, h.idle, ?_⟩
  rw [App.retyped, (a.form.visible_modifyInput a.form.focus change).2]
  exact h.focus

/-! ### One key -/

theorem TakesText.focus_ne (h : a.TakesText) : a.form.focus ≠ .protocol := by
  intro hselector
  have htext := h.focus
  rw [hselector] at htext
  cases htext

theorem TakesText.keyCommand_stroke (h : a.TakesText) (s : Stroke) :
    a.keyCommand s.key = some s.command := by
  -- None of these keys works everywhere, and none leaves a text field.
  have hform : a.keyCommand s.key = formKey a.form.focus s.key := by
    cases s <;> simp only [keyCommand, h.mode, h.idle, Stroke.key] <;> rfl
  have htext : formKey a.form.focus s.key = textKey s.key := by
    cases s <;> exact if_neg h.focus_ne
  rw [hform, htext]
  cases s <;> rfl

theorem perform_stroke (hidle : a.inProgress = false) (s : Stroke) :
    a.perform s.command = (a.retyped s.command.typing, none) := by
  cases s <;> simp [Stroke.command, perform, edit, hidle] <;> rfl

theorem dispatch_stroke (h : a.TakesText) (s : Stroke) :
    a.dispatch (.key s.key) = (a.retyped s.command.typing, []) := by
  rw [dispatch_key_of_some (h.keyCommand_stroke s), perform_stroke h.idle]
  rfl

/-- Neither the key nor the command that follows from it asks for an action. -/
theorem action_roundsOf_stroke (h : a.TakesText) (s : Stroke) {r : Round}
    (hr : r ∈ a.roundsOf (.key s.key)) : r.action = none := by
  simp only [roundsOf, update, h.keyCommand_stroke, Option.toList_some, List.map_cons,
    List.map_nil, List.mem_cons, List.not_mem_nil, or_false] at hr
  rcases hr with rfl | rfl
  · rfl
  · exact congrArg Prod.snd (perform_stroke h.idle s)

/-! ### A row of keys -/

theorem dispatchAll_strokes (h : a.TakesText) (ss : List Stroke) :
    a.dispatchAll (Stroke.messages ss) =
      { a with
        form := a.form.modifyInput a.form.focus fun i =>
          ss.foldl (fun i s => s.command.typing i) i
        formError := if ss = [] then a.formError else none } := by
  induction ss generalizing a with
  | nil =>
    simp only [Stroke.messages, List.map_nil, dispatchAll, List.foldl_nil, Form.modifyInput_id,
      if_true]
  | cons s ss ih =>
    rw [Stroke.messages, List.map_cons, dispatchAll, dispatch_stroke h, ← Stroke.messages,
      ih (h.retyped _)]
    simp only [retyped, (a.form.visible_modifyInput _ _).2, Form.modifyInput_modifyInput, ite_self]
    rfl

theorem action_rounds_strokes (h : a.TakesText) (ss : List Stroke) {r : Round}
    (hr : r ∈ a.rounds (Stroke.messages ss)) : r.action = none := by
  induction ss generalizing a with
  | nil => cases hr
  | cons s ss ih =>
    rw [Stroke.messages, List.map_cons, rounds, List.mem_append, dispatch_stroke h] at hr
    rcases hr with hr | hr
    · exact action_roundsOf_stroke h s hr
    · exact ih (h.retyped _) hr

/-- What the user types is what the field holds.  In any state that takes text, a row
of characters, Backspace and Ctrl+U makes of the focused input what these make of its
characters, one after the other: a character is added, the last one is taken away if
there is one, or all are.  Every other input, the protocol and the focus stay as they
are; so does everything outside the form, the log and its view, the phase, the mode
and the wish to quit included, except that the error of the form is taken away; and
nothing is asked of the session.  In particular every character is text there, also
the ones that are commands in other contexts: on the protocol selector, or while a
session runs. -/
theorem typed_verbatim (h : a.TakesText) (ss : List Stroke) :
    (∃ before, a.form.input? a.form.focus = some before ∧
      (a.dispatchAll (Stroke.messages ss)).form.input? a.form.focus =
        some ⟨String.ofList (ss.foldl Stroke.apply before.value.toList)⟩) ∧
    (∀ field, field ≠ a.form.focus →
      (a.dispatchAll (Stroke.messages ss)).form.input? field = a.form.input? field) ∧
    (a.dispatchAll (Stroke.messages ss)).form.protocol = a.form.protocol ∧
    (a.dispatchAll (Stroke.messages ss)).form.focus = a.form.focus ∧
    a.dispatchAll (Stroke.messages ss) =
      { a with
        form := (a.dispatchAll (Stroke.messages ss)).form
        formError := if ss = [] then a.formError else none } ∧
    (∀ r ∈ a.rounds (Stroke.messages ss), r.action = none) ∧
    (∀ c, a.keyCommand (.char c) = some (.type c)) ∧
    ∀ b : App, b.mode = .normal →
      (b.inProgress = false → b.form.focus = .protocol →
        b.keyCommand (.char 'q') = some .requestQuit ∧
        b.keyCommand (.char ' ') = some .nextProtocol) ∧
      (b.inProgress = true →
        b.keyCommand (.char 'q') = some .requestQuit ∧
        b.keyCommand (.char 'j') = some .scrollDown ∧ b.keyCommand (.char 'k') = some .scrollUp ∧
        b.keyCommand (.char 'g') = some .scrollToTop ∧
        b.keyCommand (.char 'G') = some .scrollToBottom) := by
  obtain ⟨before, hbefore⟩ := a.form.input?_of_isText h.focus
  have hafter := dispatchAll_strokes h ss
  refine ⟨⟨before, hbefore, ?_⟩, fun field hother => ?_, ?_, ?_, ?_,
    fun r => action_rounds_strokes h ss, fun c => h.keyCommand_stroke (.char c),
    fun b hmode => ⟨fun hidle hselector => ?_, fun hrun => ?_⟩⟩
  · rw [hafter, Form.input?_modifyInput, if_pos rfl, hbefore, Option.map_some,
      ← Stroke.toList_foldl_typing, String.ofList_toList]
  · rw [hafter, Form.input?_modifyInput, if_neg (Ne.symm hother), Option.map_id, id]
  · rw [hafter, Form.protocol_modifyInput]
  · rw [hafter, (a.form.visible_modifyInput _ _).2]
  · rw [hafter]
  · simp [keyCommand, hmode, hidle, formKey, hselector, selectorKey]
  · simp [keyCommand, hmode, hrun, sessionKey]

/-- A password is typed that is full of commands, and corrected on the way. -/
theorem typed_verbatim_password :
    ∃ a : App, a.TakesText ∧ a.form.focus = .password ∧
      (a.dispatchAll (Stroke.messages [.char 'x', .clear, .backspace, .char 'q', .char ' ',
        .char 'é', .backspace, .char 'G'])).form.input? .password = some ⟨"q G"⟩ := by
  have h : ({ form := { focus := .password, password := ⟨"old"⟩ } } : App).TakesText :=
    ⟨rfl, rfl, rfl⟩
  obtain ⟨⟨before, hbefore, hafter⟩, -⟩ := typed_verbatim h
    [.char 'x', .clear, .backspace, .char 'q', .char ' ', .char 'é', .backspace, .char 'G']
  cases hbefore
  exact ⟨_, h, rfl, hafter⟩

end App

end Provision
