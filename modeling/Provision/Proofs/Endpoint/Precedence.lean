/-
Which of the endpoints that are given is used.

`First` says which value comes first: one that is given, where everything before it is
blank, or the default.  There is always exactly one, and `choose` finds it
(`choose_of_first`).  Only then is it checked, so what is wrong with it is an error of
its source, and no value behind it is looked at.  A value that was accepted has no blanks
around it, so it is the same endpoint wherever it is given again.

Main result: `resolve_first`.
-/
import Provision.Endpoint
import Provision.Proofs.Text.Trim

namespace Provision.Endpoint

open Text

variable {value commandLine environment settings : Option String} {raw url : String}
  {source : Source} {r : Resolved}

/-! ### Values -/

/-- The value is there, and not all of it is blank. -/
def Given (value : Option String) (raw : String) : Prop :=
  value = some raw ∧ ∃ c ∈ raw.toList, isBlank c = false

/-- Nothing is there but blanks. -/
def Blank (value : Option String) : Prop :=
  ∀ raw, value = some raw → ∀ c ∈ raw.toList, isBlank c = true

theorem isEmpty_trim_iff : (trim raw).isEmpty = true ↔ ∀ c ∈ raw.toList, isBlank c = true := by
  rw [String.isEmpty_iff, ← String.toList_eq_nil_iff, trim, String.toList_ofList,
    trimList_eq_nil_iff]

theorem given?_of_given (h : Given value raw) : given? value = some (trim raw) := by
  obtain ⟨rfl, c, hc, hblank⟩ := h
  have hne : (trim raw).isEmpty = false := by
    rw [Bool.eq_false_iff, Ne, isEmpty_trim_iff]
    exact fun hall => absurd (hall c hc) (by simp [hblank])
  simp [given?, hne]

theorem given?_of_blank (h : Blank value) : given? value = none := by
  cases value with
  | none => rfl
  | some raw => simp [given?, String.isEmpty_iff.mp (isEmpty_trim_iff.mpr (h raw rfl))]

theorem blank_none : Blank none := nofun

theorem given_or_blank (value : Option String) : (∃ raw, Given value raw) ∨ Blank value := by
  cases value with
  | none => exact .inr blank_none
  | some raw =>
    by_cases hall : ∀ c ∈ raw.toList, isBlank c = true
    · exact .inr fun _ heq => Option.some.inj heq ▸ hall
    · simp only [not_forall, Bool.not_eq_true, exists_prop] at hall
      exact .inl ⟨raw, rfl, hall⟩

/-! ### The first value -/

/-- The value that comes first, and its source. -/
inductive First (commandLine environment settings : Option String) : Source → String → Prop
  | commandLine {raw : String} : Given commandLine raw →
      First commandLine environment settings .commandLine raw
  | environment {raw : String} : Blank commandLine → Given environment raw →
      First commandLine environment settings .environment raw
  | settings {raw : String} : Blank commandLine → Blank environment → Given settings raw →
      First commandLine environment settings .settings raw
  | default : Blank commandLine → Blank environment → Blank settings →
      First commandLine environment settings .default defaultEndpoint

theorem exists_first (commandLine environment settings : Option String) :
    ∃ source raw, First commandLine environment settings source raw := by
  rcases given_or_blank commandLine with ⟨raw, hc⟩ | hc
  · exact ⟨_, raw, .commandLine hc⟩
  · rcases given_or_blank environment with ⟨raw, he⟩ | he
    · exact ⟨_, raw, .environment hc he⟩
    · rcases given_or_blank settings with ⟨raw, hs⟩ | hs
      · exact ⟨_, raw, .settings hc he hs⟩
      · exact ⟨_, _, .default hc he hs⟩

theorem Given.not_blank (h : Given value raw) : ¬Blank value := by
  obtain ⟨rfl, c, hc, hblank⟩ := h
  exact fun hall => absurd (hall raw rfl c hc) (by simp [hblank])

theorem Given.unique {raw' : String} (h : Given value raw) (h' : Given value raw') :
    raw' = raw :=
  Option.some.inj (h'.1.symm.trans h.1)

theorem First.unique {source' : Source} {raw' : String}
    (h : First commandLine environment settings source raw)
    (h' : First commandLine environment settings source' raw') :
    source' = source ∧ raw' = raw := by
  cases h with
  | commandLine hc =>
    cases h' with
    | commandLine hc' => exact ⟨rfl, hc.unique hc'⟩
    | environment hb | settings hb | default hb => exact absurd hb hc.not_blank
  | environment hb he =>
    cases h' with
    | commandLine hc' => exact absurd hb hc'.not_blank
    | environment _ he' => exact ⟨rfl, he.unique he'⟩
    | settings _ hb' | default _ hb' => exact absurd hb' he.not_blank
  | settings hb hb' hs =>
    cases h' with
    | commandLine hc' => exact absurd hb hc'.not_blank
    | environment _ he' => exact absurd hb' he'.not_blank
    | settings _ _ hs' => exact ⟨rfl, hs.unique hs'⟩
    | default _ _ hb'' => exact absurd hb'' hs.not_blank
  | default hb hb' hb'' =>
    cases h' with
    | commandLine hc' => exact absurd hb hc'.not_blank
    | environment _ he' => exact absurd hb' he'.not_blank
    | settings _ _ hs' => exact absurd hb'' hs'.not_blank
    | default => exact ⟨rfl, rfl⟩

theorem trim_defaultEndpoint : trim defaultEndpoint = defaultEndpoint := by
  decide

theorem choose_of_first (h : First commandLine environment settings source raw) :
    choose commandLine environment settings = ⟨trim raw, source⟩ := by
  cases h with
  | commandLine hc => simp [choose, given?_of_given hc]
  | environment hc he => simp [choose, given?_of_blank hc, given?_of_given he]
  | settings hc he hs =>
    simp [choose, given?_of_blank hc, given?_of_blank he, given?_of_given hs]
  | default hc he hs =>
    simp [choose, given?_of_blank hc, given?_of_blank he, given?_of_blank hs, trim_defaultEndpoint]

/-! ### The check -/

/-- The URL of a WebSocket: it has one of the two schemes, and a host. -/
def IsWebSocket (text : String) : Prop :=
  ∃ url, Url.read text = .ok url ∧ (url.scheme = "ws" ∨ url.scheme = "wss") ∧ url.host.isSome = true

theorem check_eq_ok_iff : check raw = .ok () ↔ IsWebSocket raw := by
  rw [check, IsWebSocket]
  rcases hread : Url.read raw with fault | url
  · simp [Except.mapError, bind, Except.bind]
  · simp only [Except.mapError, Except.ok.injEq, exists_eq_left']
    dsimp only [bind, Except.bind]
    by_cases hscheme : url.scheme = "ws" ∨ url.scheme = "wss"
    · rw [if_neg fun hother => hscheme.elim hother.1 hother.2]
      cases url.host <;> simp [hscheme, throw, throwThe, MonadExceptOf.throw, pure, Except.pure]
    · rw [if_pos (not_or.mp hscheme)]
      simp [hscheme, throw, throwThe, MonadExceptOf.throw]

theorem validate_of_isWebSocket (h : IsWebSocket raw) : validate raw = .ok raw := by
  simp [validate, check_eq_ok_iff.mpr h]

/-- A text that is refused has a reason, and the check gives it. -/
theorem exists_fault_of_not_isWebSocket (h : ¬IsWebSocket raw) :
    ∃ fault, check raw = .error fault ∧
      validate raw = .error (.configInvalid (fault.message raw)) := by
  rcases hcheck : check raw with fault | ⟨⟩
  · exact ⟨fault, rfl, by simp [validate, hcheck]⟩
  · exact absurd (check_eq_ok_iff.mp hcheck) h

theorem not_isWebSocket_empty : ¬IsWebSocket "" := by
  rintro ⟨url, hread, -, -⟩
  simp [Url.read, Url.clean, Url.splitScheme?, throw, throwThe, MonadExceptOf.throw] at hread

/-! ### The result -/

theorem resolve_of_isWebSocket (hfirst : First commandLine environment settings source raw)
    (h : IsWebSocket (trim raw)) :
    resolve commandLine environment settings = .ok ⟨trim raw, source⟩ := by
  simp [resolve, choose_of_first hfirst, check_eq_ok_iff.mpr h]

theorem resolve_of_not_isWebSocket (hfirst : First commandLine environment settings source raw)
    (h : ¬IsWebSocket (trim raw)) :
    ∃ reason, validate (trim raw) = .error (.configInvalid reason) ∧
      resolve commandLine environment settings =
        .error (.configInvalid (reason ++ " (from " ++ source.name ++ ")")) := by
  obtain ⟨fault, hcheck, hvalidate⟩ := exists_fault_of_not_isWebSocket h
  exact ⟨fault.message (trim raw), hvalidate, by
    simp [resolve, choose_of_first hfirst, hcheck]⟩

theorem resolve_eq_of_first {commandLine' environment' settings' : Option String}
    (h : First commandLine environment settings source raw)
    (h' : First commandLine' environment' settings' source raw) :
    resolve commandLine environment settings = resolve commandLine' environment' settings' := by
  simp only [resolve, choose_of_first h, choose_of_first h']

/-- An endpoint that was accepted is given wherever it stands. -/
theorem given_of_isWebSocket (h : IsWebSocket (trim raw)) :
    Given (some (trim raw)) (trim raw) := by
  rcases given_or_blank (some (trim raw)) with ⟨other, hgiven⟩ | hblank
  · obtain rfl := Option.some.inj hgiven.1
    exact hgiven
  · have hempty : trim (trim raw) = "" :=
      String.isEmpty_iff.mp (isEmpty_trim_iff.mpr (hblank _ rfl))
    rw [trim_trim] at hempty
    exact absurd (hempty ▸ h) not_isWebSocket_empty

/-- Blanks count as nothing, in every place. -/
theorem resolve_blank (value : Option String) (h : Blank value) :
    (∀ environment settings,
      resolve value environment settings = resolve none environment settings) ∧
    (∀ commandLine settings,
      resolve commandLine value settings = resolve commandLine none settings) ∧
    ∀ commandLine environment,
      resolve commandLine environment value = resolve commandLine environment none := by
  have hnone : given? none = none := rfl
  simp [resolve, choose, given?_of_blank h, hnone]

/-- A blank on the command line gives way to the environment. -/
example : resolve (some " ") (some " ws://[::1]/ws") (some "nothing") =
    .ok ⟨"ws://[::1]/ws", .environment⟩ := by
  decide +kernel

end Provision.Endpoint
