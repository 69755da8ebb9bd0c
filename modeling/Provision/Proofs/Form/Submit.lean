/-
The form is exactly as strict as the wire.

A field fits if its text is a word (`fault?_eq_none_iff`), and the texts of the
fields shown are those of the request.  So a form is accepted exactly if its
request survives the wire, and otherwise the first field that does not fit is
named.

Main result: `submit_iff_survives`.
-/
import Provision.Form
import Provision.Proofs.Request.Wire

namespace Provision.Form

variable {f : Form} {field : Field} {fault : FieldFault} {value : String}

theorem fault?_eq_none_iff : fault? value = none ↔ Text.IsWord value.toList := by
  rw [fault?, Text.hasBlank, Text.IsWord]
  by_cases he : value.isEmpty = true
  · have hnil : value.toList = [] := by simpa using he
    simp [he, hnil]
  · have hne : value.toList ≠ [] := by simpa using he
    by_cases hb : value.toList.any Text.isBlank = true
    · obtain ⟨c, hc, hblank⟩ := List.any_eq_true.mp hb
      simp only [he, hb, Bool.false_eq_true, if_false, if_true, reduceCtorEq, false_iff, not_and]
      exact fun _ hfree => absurd (hfree c hc) (by simp [hblank])
    · simp only [he, hb, Bool.false_eq_true, if_false, true_iff]
      exact ⟨hne, by simpa using hb⟩

/-- What is wrong with a text that does not fit. -/
theorem fault?_eq_some (h : fault? value = some fault) :
    value = "" ∧ fault = .missing ∨
      (∃ c ∈ value.toList, Text.isBlank c = true) ∧ fault = .blank := by
  rw [fault?, Text.hasBlank] at h
  split at h
  · rename_i he
    exact .inl ⟨by simpa using he, (Option.some.inj h).symm⟩
  · split at h
    · rename_i hb
      exact .inr ⟨List.any_eq_true.mp hb, (Option.some.inj h).symm⟩
    · cases h

/-- The fields shown hold the texts of the request. -/
theorem texts_request (f : Form) :
    f.request.texts = f.visible.filterMap fun field => (f.input? field).map (·.value) := by
  rcases h : f.protocol <;> simp [Request.texts, request, visible, fieldsFor, input?, h,
    Protocol.needsAccount]

/-- No field shown has a fault exactly if every text of the request is a word. -/
theorem firstFault?_eq_none_iff (f : Form) :
    f.firstFault? = none ↔ ∀ s ∈ f.request.texts, Text.IsWord s.toList := by
  rw [firstFault?, List.findSome?_eq_none_iff, texts_request]
  constructor
  · intro h s hs
    obtain ⟨field, hfield, hs⟩ := List.mem_filterMap.mp hs
    obtain ⟨input, hinput, rfl⟩ := Option.map_eq_some_iff.mp hs
    have := h field hfield
    rw [hinput, Option.bind_some, Option.map_eq_none_iff] at this
    exact fault?_eq_none_iff.mp this
  · intro h field hfield
    rcases hinput : f.input? field with - | input
    · rfl
    · have hvalue : (f.input? field).map (·.value) = some input.value := by rw [hinput]; rfl
      rw [Option.bind_some, Option.map_eq_none_iff]
      exact fault?_eq_none_iff.mpr (h _ (List.mem_filterMap.mpr ⟨field, hfield, hvalue⟩))

theorem submit_eq_ok_iff (f : Form) : f.submit = .ok f.request ↔ f.firstFault? = none := by
  rcases h : f.firstFault? with - | ⟨field, fault⟩ <;> simp [submit, h]

/-- A form that is accepted gives its request, and no field shown has a fault. -/
theorem submit_eq_ok {r : Request} (h : f.submit = .ok r) :
    r = f.request ∧ f.firstFault? = none := by
  rw [submit] at h
  rcases hfault : f.firstFault? with - | ⟨field, fault⟩ <;> rw [hfault] at h <;> cases h
  exact ⟨rfl, rfl⟩

/-- A form that is rejected has a fault, and the error names it. -/
theorem submit_eq_error {e : Error} (h : f.submit = .error e) :
    ∃ (field : Field) (fault : FieldFault), f.firstFault? = some (field, fault) ∧
      e = .validation field.label fault.message := by
  rw [submit] at h
  rcases hfault : f.firstFault? with - | ⟨field, fault⟩ <;> rw [hfault] at h <;> cases h
  exact ⟨field, fault, rfl, rfl⟩

/-- The fault that is found first: the fields before it fit. -/
theorem firstFault?_eq_some (h : f.firstFault? = some (field, fault)) :
    ∃ before after input, f.visible = before ++ field :: after ∧
      f.input? field = some input ∧ fault? input.value = some fault ∧
      ∀ g ∈ before, ∀ i, f.input? g = some i → Text.IsWord i.value.toList := by
  obtain ⟨before, g, after, hvisible, hfound, hbefore⟩ := List.findSome?_eq_some_iff.mp h
  obtain ⟨input, hinput, hfault⟩ := Option.bind_eq_some_iff.mp hfound
  obtain ⟨fault', hfault, heq⟩ := Option.map_eq_some_iff.mp hfault
  cases heq
  refine ⟨before, after, input, hvisible, hinput, hfault, fun g hg i hi => ?_⟩
  have := hbefore g hg
  rw [hi, Option.bind_some, Option.map_eq_none_iff] at this
  exact fault?_eq_none_iff.mp this

/-- Validation is exactly as strict as the wire.  Whatever the fields hold,
shown or not: the form is accepted with its request exactly if the request
comes back from its install command.  Otherwise the error names the first field
shown, in focus order, whose text is empty or holds a blank, and says which. -/
theorem submit_iff_survives (f : Form) :
    (f.submit = .ok f.request ↔
      Request.Command.decode (Request.Command.encode f.request) = .ok f.request) ∧
    (f.submit = .ok f.request ∨
      ∃ before field after input, ∃ fault : FieldFault, f.visible = before ++ field :: after ∧
        f.input? field = some input ∧
        (input.value = "" ∧ fault = .missing ∨
          (∃ c ∈ input.value.toList, Text.isBlank c = true) ∧ fault = .blank) ∧
        (∀ g ∈ before, ∀ i, f.input? g = some i →
          i.value ≠ "" ∧ ∀ c ∈ i.value.toList, Text.isBlank c = false) ∧
        f.submit = .error (.validation field.label fault.message)) := by
  constructor
  · rw [submit_eq_ok_iff, firstFault?_eq_none_iff, Request.Command.decode_encode_iff]
  · rcases h : f.firstFault? with - | ⟨field, fault⟩
    · exact .inl ((submit_eq_ok_iff f).mpr h)
    · obtain ⟨before, after, input, hvisible, hinput, hfault, hbefore⟩ := firstFault?_eq_some h
      refine .inr ⟨before, field, after, input, fault, hvisible, hinput, fault?_eq_some hfault,
        fun g hg i hi => ?_, by simp [submit, h]⟩
      obtain ⟨hne, hfree⟩ := hbefore g hg i hi
      exact ⟨fun heq => hne (by simp [heq]), hfree⟩

end Provision.Form
