/-
Forms that differ in their passwords only.

Two texts are alike if they have blanks at the same places and are equally long
(`Input.Alike`), and two forms are alike if they are equal but for passwords
that are alike (`Form.Alike`).  Of a password the form uses no more than that:
every edit takes forms that are alike to forms that are alike.  To submit it uses
even less: forms are akin if their passwords have the same faults, and then both
have the same fault, or none (`Form.Akin.firstFault?`).
-/
import Provision.Form

namespace Provision

namespace Input

variable {i j : Input} {c d : Char}

/-- The texts are equally long and have blanks at the same places. -/
def Alike (i j : Input) : Prop :=
  i.value.toList.map Text.isBlank = j.value.toList.map Text.isBlank

instance (i j : Input) : Decidable (i.Alike j) :=
  inferInstanceAs (Decidable (i.value.toList.map Text.isBlank = j.value.toList.map Text.isBlank))

theorem Alike.refl (i : Input) : i.Alike i :=
  rfl

theorem Alike.length (h : i.Alike j) : i.value.length = j.value.length := by
  have hlength := congrArg List.length h
  rwa [List.length_map, List.length_map, String.length_toList, String.length_toList] at hlength

theorem Alike.isEmpty (h : i.Alike j) : i.isEmpty = j.isEmpty := by
  have hnil : i.value.toList = [] ↔ j.value.toList = [] := by
    rw [← List.map_eq_nil_iff (f := Text.isBlank), h, List.map_eq_nil_iff]
  rw [Input.isEmpty, Input.isEmpty, Bool.eq_iff_iff, String.isEmpty_iff, String.isEmpty_iff,
    ← String.toList_eq_nil_iff, ← String.toList_eq_nil_iff, hnil]

/-- A secret shows its length only. -/
theorem Alike.shown (h : i.Alike j) : i.shown true = j.shown true := by
  simp only [Input.shown, if_true, h.length]

theorem Alike.push (h : i.Alike j) (hc : Text.isBlank c = Text.isBlank d) :
    (i.push c).Alike (j.push d) := by
  simp only [Alike, Input.push, String.toList_push, List.map_append, List.map_cons, List.map_nil,
    hc]
  rw [h]

theorem Alike.backspace (h : i.Alike j) : i.backspace.Alike j.backspace := by
  simp only [Alike, Input.backspace, String.toList_ofList, List.map_dropLast]
  rw [h]

end Input

namespace Form

variable {f g : Form} {field : Field} {φ ψ : Input → Input} {c d : Char}

/-- The form with other passwords, which are alike. -/
inductive Alike (f : Form) : Form → Prop
  | intro {password vpnPassword : Input} : f.password.Alike password →
      f.vpnPassword.Alike vpnPassword → Alike f { f with password, vpnPassword }

theorem Alike.focus (h : f.Alike g) : g.focus = f.focus := by
  cases h
  rfl

theorem Alike.protocol (h : f.Alike g) : g.protocol = f.protocol := by
  cases h
  rfl

theorem Alike.visible (h : f.Alike g) : g.visible = f.visible := by
  rw [Form.visible, h.protocol, Form.visible]

/-- A field that is no secret holds the same in both. -/
theorem Alike.input?_eq (h : f.Alike g) (hplain : field.isSecret = false) :
    g.input? field = f.input? field := by
  cases h
  cases field with
  | password | vpnPassword => cases hplain
  | protocol | remoteAddress | username | vpnUsername => rfl

/-- A secret holds something alike in both. -/
theorem Alike.input?_secret (h : f.Alike g) (hsecret : field.isSecret = true) :
    ∃ i j, f.input? field = some i ∧ g.input? field = some j ∧ i.Alike j := by
  cases h with
  | intro hpassword hvpn =>
    cases field with
    | protocol | remoteAddress | username | vpnUsername => cases hsecret
    | password => exact ⟨_, _, rfl, rfl, hpassword⟩
    | vpnPassword => exact ⟨_, _, rfl, rfl, hvpn⟩

/-! ### Edits -/

theorem Alike.select (h : f.Alike g) (p : Protocol) : (f.select p).Alike (g.select p) := by
  cases h with
  | intro hpassword hvpn =>
    rcases hp : p.needsAccount <;>
      simp only [Form.select, hp, Bool.false_eq_true, if_true, if_false]
    · -- Without an account there is no second password.
      exact .intro hpassword (.refl _)
    · exact .intro hpassword hvpn

theorem Alike.moveFocus (h : f.Alike g) (steps : Nat) :
    (f.moveFocus steps).Alike (g.moveFocus steps) := by
  cases h with
  | intro hpassword hvpn => exact .intro hpassword hvpn

/-- The changes may differ in a secret, as long as they keep texts alike. -/
theorem Alike.modifyInput (h : f.Alike g)
    (hsecret : ∀ {i j : Input}, i.Alike j → (φ i).Alike (ψ j))
    (hplain : field.isSecret = false → φ = ψ) :
    (f.modifyInput field φ).Alike (g.modifyInput field ψ) := by
  cases h with
  | intro hpassword hvpn =>
    cases field with
    | protocol => exact .intro hpassword hvpn
    | remoteAddress | username | vpnUsername =>
      cases hplain rfl
      exact .intro hpassword hvpn
    | password => exact .intro (hsecret hpassword) hvpn
    | vpnPassword => exact .intro hpassword (hsecret hvpn)

theorem Alike.type (h : f.Alike g) (hc : Text.isBlank c = Text.isBlank d)
    (hplain : f.focus.isSecret = false → c = d) : (f.type c).Alike (g.type d) := by
  rw [Form.type, Form.type, h.focus]
  exact h.modifyInput (fun hi => hi.push hc) fun hfocus => by rw [hplain hfocus]

theorem Alike.backspace (h : f.Alike g) : f.backspace.Alike g.backspace := by
  rw [Form.backspace, Form.backspace, h.focus]
  exact h.modifyInput (fun hi => hi.backspace) fun _ => rfl

theorem Alike.clearFocused (h : f.Alike g) : f.clearFocused.Alike g.clearFocused := by
  rw [Form.clearFocused, Form.clearFocused, h.focus]
  exact h.modifyInput (fun _ => .refl _) fun _ => rfl

/-! ### Validation -/

theorem fault?_of_alike {i j : Input} (h : i.Alike j) : fault? j.value = fault? i.value := by
  have hempty : j.value.isEmpty = i.value.isEmpty := h.isEmpty.symm
  have hblank : Text.hasBlank j.value = Text.hasBlank i.value := by
    have hany := congrArg (List.any · id) h
    simpa [Text.hasBlank, List.any_map] using hany.symm
  rw [fault?, fault?, hempty, hblank]

/-- The form with other passwords, which have the same faults. -/
inductive Akin (f : Form) : Form → Prop
  | intro {password vpnPassword : Input} : fault? password.value = fault? f.password.value →
      fault? vpnPassword.value = fault? f.vpnPassword.value →
      Akin f { f with password, vpnPassword }

theorem Alike.akin (h : f.Alike g) : f.Akin g := by
  cases h with
  | intro hpassword hvpn => exact .intro (fault?_of_alike hpassword) (fault?_of_alike hvpn)

theorem Akin.firstFault? (h : f.Akin g) : g.firstFault? = f.firstFault? := by
  cases h with
  | intro hpassword hvpn =>
    rw [Form.firstFault?, Form.firstFault?]
    congr 1
    funext field
    cases field with
    | protocol | remoteAddress | username | vpnUsername => rfl
    | password => simp only [input?, Option.bind_some, hpassword]
    | vpnPassword => simp only [input?, Option.bind_some, hvpn]

/-- Both are rejected for the same reason, or both are accepted. -/
theorem Akin.submit (h : f.Akin g) :
    (∃ error, f.submit = .error error ∧ g.submit = .error error) ∨
      f.submit = .ok f.request ∧ g.submit = .ok g.request := by
  rw [Form.submit, Form.submit, h.firstFault?]
  rcases f.firstFault? with - | ⟨field, fault⟩
  · exact .inr ⟨rfl, rfl⟩
  · exact .inl ⟨_, rfl, rfl⟩

end Form

end Provision
