/-
Inputs that are not shown.

The form is tidy at all times (`History.tidy`): the focus is on a field that is
shown, and what is not shown is empty.  So each input holds what was typed into
it since its field was last hidden, and nothing else (`History.input?_eq_typed`).
In particular an account that was typed before another protocol was selected
has left no trace: the rounds before that do not matter (`typed_of_hidden`).

Main result: `hidden_empty_unfocused`.
-/
import Provision.Proofs.App.Edges
import Provision.Proofs.App.History
import Provision.Proofs.Form.Hidden
import Provision.Proofs.Form.Submit

namespace Provision

/-- What a command types into the input that has the focus. -/
def Command.typing : Command → Input → Input
  | .type c => (·.push c)
  | .backspace => (·.backspace)
  | .clearField => (·.clear)
  | _ => id

/-- Only an edit types. -/
theorem Command.typing_eq_id {c : Command} (h : c.edit? = none) : c.typing = id := by
  cases c with
  | type | backspace | clearField => cases h
  | _ => rfl

/-! ### One edit -/

namespace Form

variable {f : Form} {c : Command} {φ : Form → Form}

theorem Tidy.edit (h : f.Tidy) (hc : c.edit? = some φ) : (φ f).Tidy := by
  cases c with
  | focusNext | focusPrevious =>
    cases hc
    exact h.moveFocus _
  | nextProtocol | previousProtocol =>
    cases hc
    exact f.tidy_select _
  | type | backspace | clearField =>
    cases hc
    exact h.modifyFocused _
  | _ => cases hc

/-- An edit types into the focused input, and empties those that it hides. -/
theorem Tidy.input?_edit (h : f.Tidy) (hc : c.edit? = some φ) (field : Field) :
    (φ f).input? field =
      if field ∈ (φ f).visible then
        (f.input? field).map (if f.focus = field then c.typing else id)
      else some {} := by
  by_cases hshown : field ∈ (φ f).visible
  · rw [if_pos hshown]
    -- Edits that only move the focus or select a protocol type nothing.
    have hsame : c.typing = id → (φ f).input? field = f.input? field →
        (φ f).input? field =
          (f.input? field).map (if f.focus = field then c.typing else id) := by
      intro htyping hinput
      rw [htyping, ite_self, Option.map_id, hinput, id]
    cases c with
    | focusNext | focusPrevious =>
      cases hc
      exact hsame rfl rfl
    | nextProtocol | previousProtocol =>
      cases hc
      exact hsame rfl ((f.input?_select _ field).trans (if_pos hshown))
    | type | backspace | clearField =>
      cases hc
      exact f.input?_modifyInput f.focus field _
    | _ => cases hc
  · rw [if_neg hshown]
    exact (h.edit hc).hidden hshown

end Form

/-! ### One message -/

namespace App

variable {a a' : App} {m : Message} {action : Option Action} {φ : Form → Form} {field : Field}
  {settings : Settings} {endpoint : String} {rs before after : List Round} {r : Round}

/-- What a message types into a field: nothing while a session runs. -/
def typingOf (a : App) (field : Field) : Message → Input → Input
  | .command c => if a.inProgress = false ∧ a.form.focus = field then c.typing else id
  | _ => id

theorem editOf_eq_some (h : a.editOf m = some φ) :
    ∃ c, m = .command c ∧ a.inProgress = false ∧ c.edit? = some φ := by
  cases m with
  | key | event => cases h
  | command c =>
    rcases hrun : a.inProgress
    · rw [editOf, hrun] at h
      exact ⟨c, rfl, rfl, h⟩
    · rw [editOf_of_running hrun] at h
      cases h

theorem typingOf_eq_id (h : a.editOf m = none) (field : Field) : a.typingOf field m = id := by
  cases m with
  | key | event => rfl
  | command c =>
    rcases hrun : a.inProgress
    · rw [editOf, hrun] at h
      rw [typingOf, Command.typing_eq_id h, ite_self]
    · simp [typingOf, hrun]

theorem Step.tidy (h : Step a m a' action) (htidy : a.form.Tidy) : a'.form.Tidy := by
  rcases h.form with ⟨φ, hedit, hform⟩ | ⟨-, hform⟩
  · obtain ⟨c, -, -, hc⟩ := editOf_eq_some hedit
    rw [hform]
    exact htidy.edit hc
  · rw [hform]
    exact htidy

/-- What one message makes of an input. -/
theorem Step.input? (h : Step a m a' action) (htidy : a.form.Tidy) (field : Field) :
    a'.form.input? field =
      if field ∈ a'.form.visible then (a.form.input? field).map (a.typingOf field m)
      else some {} := by
  rcases h.form with ⟨φ, hedit, hform⟩ | ⟨hquiet, hform⟩
  · obtain ⟨c, rfl, hidle, hc⟩ := editOf_eq_some hedit
    rw [hform, htidy.input?_edit hc, typingOf]
    simp only [hidle, true_and]
  · rw [hform, typingOf_eq_id hquiet, Option.map_id, id]
    split
    · rfl
    · next hhidden => exact htidy.hidden hhidden

/-- So a field that is not shown is never typed into. -/
theorem Step.input?_of_hidden (h : Step a m a' action) (htidy : a.form.Tidy)
    (hhidden : field ∉ a.form.visible) : a'.form.input? field = some {} := by
  have hfocus : a.form.focus ≠ field := by
    rintro rfl
    exact hhidden htidy.focus
  have htyping : a.typingOf field m = id := by
    cases m with
    | key | event => rfl
    | command c => simp [typingOf, hfocus]
  rw [h.input? htidy, htidy.hidden hhidden, htyping]
  exact ite_self _

/-! ### What was typed -/

/-- What the rounds have typed into a field since it was last hidden. -/
def typed (field : Field) (rs : List Round) : Input :=
  rs.foldl
    (fun input r =>
      if field ∈ r.next.form.visible then r.app.typingOf field r.message input else {})
    {}

theorem typed_concat (field : Field) (rs : List Round) (r : Round) :
    typed field (rs ++ [r]) =
      if field ∈ r.next.form.visible then r.app.typingOf field r.message (typed field rs)
      else {} := by
  rw [typed, List.foldl_append]
  rfl

/-- What was typed before the field was hidden does not matter. -/
theorem typed_of_hidden (before : List Round) (h : field ∉ r.next.form.visible)
    (after : List Round) : typed field (before ++ r :: after) = typed field after := by
  rw [typed, List.foldl_append, List.foldl_cons, if_neg h]
  rfl

theorem History.tidy (h : History settings endpoint rs a) : a.form.Tidy :=
  h.invariant (Form.tidy_ofProtocol _) (fun _ _ htidy => htidy) Step.tidy

/-- Each input holds what was typed into it. -/
theorem History.input?_eq_typed (h : History settings endpoint rs a)
    (htext : field.isText = true) : a.form.input? field = some (typed field rs) := by
  induction h with
  | start =>
    cases field with
    | protocol => cases htext
    | remoteAddress | username | password | vpnUsername | vpnPassword => rfl
  | between _ _ _ ih => exact ih
  | @update rs a m h ih =>
    -- The step makes of the input what the round adds to what was typed.
    rw [(a.step_update m).input? h.tidy, ih, typed_concat, Option.map_some,
      apply_ite some]
    rfl

/-- The account of a request that a form gives. -/
theorem account_of_submit {request : Request} (h : a.form.submit = .ok request) :
    request.account =
      if a.form.protocol.needsAccount then
        some ⟨a.form.vpnUsername.value, a.form.vpnPassword.value⟩
      else none := by
  rw [(Form.submit_eq_ok h).1]
  rfl

/-- Once the account was hidden, it holds what was typed since then. -/
theorem History.account_eq (h : History settings endpoint (before ++ r :: after) a)
    (hnone : r.next.form.protocol.needsAccount = false) :
    a.form.vpnUsername = typed .vpnUsername after ∧
      a.form.vpnPassword = typed .vpnPassword after := by
  have hinput : ∀ field : Field, field.isText = true → field.isAccount = true →
      a.form.input? field = some (typed field after) := by
    intro field htext haccount
    rw [h.input?_eq_typed htext, typed_of_hidden before (Form.not_mem_visible hnone haccount)]
  exact ⟨Option.some.inj (hinput .vpnUsername rfl rfl),
    Option.some.inj (hinput .vpnPassword rfl rfl)⟩

/-- Hidden inputs are always empty and never focused.  Whatever an application has
gone through, and whatever protocol its settings had selected at first, the focus
is on a field that is shown, and while the protocol needs no account both inputs
of the account are empty; so no message types into a field that is not shown.  A
request that the form gives has an account exactly if the protocol needs one.
And once a protocol without accounts was selected, whatever was typed into the
account before is gone: the account in a command is the one that was typed since
then. -/
theorem hidden_empty_unfocused (h : History settings endpoint rs a) :
    a.form.focus ∈ a.form.visible ∧
    (a.form.protocol.needsAccount = false →
      a.form.vpnUsername.value = "" ∧ a.form.vpnPassword.value = "") ∧
    (∀ m field, field ∉ a.form.visible →
      (a.update m).app.form.input? field = a.form.input? field) ∧
    (∀ request, a.form.submit = .ok request →
      (request.account.isSome = true ↔ a.form.protocol.needsAccount = true)) ∧
    ∀ before r after, rs = before ++ r :: after → r.next.form.protocol.needsAccount = false →
      ∀ target command, (a.update (.command .submit)).action = some (.start target command) →
        ∃ request, a.form.submit = .ok request ∧ command = Request.Command.encode request ∧
          request.account =
            if a.form.protocol.needsAccount then
              some ⟨(typed .vpnUsername after).value, (typed .vpnPassword after).value⟩
            else none := by
  have htidy := h.tidy
  refine ⟨htidy.focus, fun hnone => ?_, fun m field hhidden => ?_, fun request hs => ?_, ?_⟩
  · have hempty : ∀ field : Field, field.isAccount = true → a.form.input? field = some {} :=
      fun field haccount => htidy.hidden (Form.not_mem_visible hnone haccount)
    have hname : a.form.vpnUsername = {} := Option.some.inj (hempty .vpnUsername rfl)
    have hpassword : a.form.vpnPassword = {} := Option.some.inj (hempty .vpnPassword rfl)
    rw [hname, hpassword]
    exact ⟨rfl, rfl⟩
  · rw [(a.step_update m).input?_of_hidden htidy hhidden, htidy.hidden hhidden]
  · rw [account_of_submit hs]
    rcases a.form.protocol.needsAccount <;> simp
  · rintro before r after rfl hnone target command haction
    obtain ⟨-, request, hs, -, hcommand, -⟩ := update_of_start haction
    obtain ⟨hname, hpassword⟩ := h.account_eq hnone
    refine ⟨request, hs, hcommand, ?_⟩
    rw [account_of_submit hs, hname, hpassword]

/-- A form is filled in, with an account. -/
def accountTyped : App :=
  (App.start {} "x").dispatchAll (fillingKeys ++
    [.command .nextProtocol, .key .tab, .key (.char 'v'), .key .tab, .key (.char 'w')])

/-- Another protocol was selected and left again, and another account is typed. -/
def accountRetyped : App :=
  (accountTyped.update (.command .nextProtocol)).app.dispatchAll
    [.command .previousProtocol, .key .tab, .key (.char 'a'), .key .tab, .key (.char 'b')]

/-- The second account is sent, and nothing of the first one. -/
theorem hidden_empty_unfocused_retyped :
    accountTyped.form.vpnUsername = ⟨"v"⟩ ∧
      (∃ rs, History {} "x" rs accountRetyped) ∧
      (accountRetyped.update (.command .submit)).action =
        some (.start "x" "install openconnect h u p a b") ∧
      ∃ request, accountRetyped.form.submit = .ok request ∧
        request.account = some ⟨"a", "b"⟩ := by
  have htyped : ∃ rs, History {} "x" rs accountTyped := ⟨_, history_rounds {} "x" _⟩
  obtain ⟨rs, htyped⟩ := htyped
  have h : History {} "x" (rs ++ [⟨accountTyped, .command .nextProtocol⟩] ++ _) accountRetyped :=
    (htyped.update (.command .nextProtocol)).dispatchAll _
  have hsent : (accountRetyped.update (.command .submit)).action =
      some (.start "x" "install openconnect h u p a b") := by decide
  obtain ⟨-, -, -, -, hretyped⟩ := hidden_empty_unfocused h
  obtain ⟨request, hs, -, haccount⟩ :=
    hretyped rs _ _ (List.append_assoc ..) (by decide) _ _ hsent
  exact ⟨by decide, ⟨_, h⟩, hsent, request, hs, haccount.trans (by decide)⟩

end App

end Provision
