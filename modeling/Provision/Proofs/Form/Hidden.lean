/-
Fields that are not shown.

A form is tidy if its focus is on a field that is shown, and the inputs that are
not shown are empty.  To select a protocol makes any form tidy (`tidy_select`);
moving the focus and changing the focused input keep a form tidy
(`Tidy.moveFocus`, `Tidy.modifyFocused`).
-/
import Provision.Form

namespace Provision

/-- Belongs to an account inside the VPN. -/
def Field.isAccount : Field → Bool
  | vpnUsername | vpnPassword => true
  | _ => false

namespace Form

variable {f : Form} {field : Field}

theorem mem_visible_iff (f : Form) (field : Field) :
    field ∈ f.visible ↔ field.isAccount = false ∨ f.protocol.needsAccount = true := by
  rw [visible, fieldsFor]
  cases f.protocol.needsAccount <;> cases field <;> decide

/-- Without an account its fields are hidden. -/
theorem not_mem_visible (hnone : f.protocol.needsAccount = false)
    (haccount : field.isAccount = true) : field ∉ f.visible := by
  rw [mem_visible_iff, haccount, hnone]
  decide

/-- Only one input is changed. -/
theorem input?_modifyInput (f : Form) (g field : Field) (change : Input → Input) :
    (f.modifyInput g change).input? field =
      (f.input? field).map (if g = field then change else id) := by
  cases g <;> cases field <;> rfl

theorem visible_modifyInput (f : Form) (g : Field) (change : Input → Input) :
    (f.modifyInput g change).visible = f.visible ∧ (f.modifyInput g change).focus = f.focus := by
  cases g <;> exact ⟨rfl, rfl⟩

theorem protocol_select (f : Form) (p : Protocol) : (f.select p).protocol = p := by
  rw [select]
  split <;> rfl

/-- Selecting a protocol leaves the inputs alone that are shown then, and empties
the others. -/
theorem input?_select (f : Form) (p : Protocol) (field : Field) :
    (f.select p).input? field =
      if field ∈ (f.select p).visible then f.input? field else some {} := by
  simp only [mem_visible_iff, protocol_select]
  rcases hp : p.needsAccount <;> cases field <;> simp [select, hp, input?, Field.isAccount]

/-! ### Tidy forms -/

/-- The focus is on a field that is shown, and what is not shown is empty. -/
structure Tidy (f : Form) : Prop where
  focus : f.focus ∈ f.visible
  hidden : ∀ {field}, field ∉ f.visible → f.input? field = some {}

theorem tidy_ofProtocol (p : Protocol) : (ofProtocol p).Tidy := by
  refine ⟨List.mem_cons_self, fun {field} hhidden => ?_⟩
  cases field with
  | protocol => exact absurd List.mem_cons_self hhidden
  | remoteAddress | username | password | vpnUsername | vpnPassword => rfl

theorem tidy_select (f : Form) (p : Protocol) : (f.select p).Tidy := by
  refine ⟨?_, fun hhidden => by rw [input?_select, if_neg hhidden]⟩
  rw [mem_visible_iff, protocol_select]
  rcases hp : p.needsAccount
  · -- The focus leaves the fields that are hidden.
    simp only [select, hp]
    cases f.focus <;> exact .inl rfl
  · -- Every field is shown.
    exact .inr rfl

theorem Tidy.moveFocus (h : f.Tidy) (steps : Nat) : (f.moveFocus steps).Tidy := by
  -- The field is taken from the list of those shown; what is taken past its end is one as well.
  have hmem : ∀ i, f.visible.getD i .protocol ∈ f.visible := by
    intro i
    rw [List.getD_eq_getElem?_getD]
    rcases hi : f.visible[i]? with - | field
    · exact List.mem_cons_self
    · exact List.mem_of_getElem? hi
  exact ⟨hmem _, h.hidden⟩

/-- Whatever becomes of the focused input, it is one that is shown. -/
theorem Tidy.modifyFocused (h : f.Tidy) (change : Input → Input) :
    (f.modifyInput f.focus change).Tidy := by
  obtain ⟨hvisible, hfocus⟩ := f.visible_modifyInput f.focus change
  refine ⟨by rw [hvisible, hfocus]; exact h.focus, fun {field} hhidden => ?_⟩
  rw [hvisible] at hhidden
  have hother : f.focus ≠ field := by
    rintro rfl
    exact hhidden h.focus
  rw [input?_modifyInput, if_neg hother, Option.map_id_apply]
  exact h.hidden hhidden

end Form

end Provision
