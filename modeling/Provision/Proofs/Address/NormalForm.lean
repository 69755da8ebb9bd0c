/-
The normal form of an address.

To display an address writes its host, a colon and the digits of its port, and to
read that divides it there again: no text begins with a blank once it was read, and
none ends with one once a port is written (`parse_display`).  What a headless run
tells of its request is such a text (`Stream.remote_eq`), so it denotes the server
whose address was typed.

Main result: `display_normal_form`.
-/
import Provision.Proofs.Address.HostPort
import Provision.Proofs.Headless.Stream

namespace Provision

open Text Decimal

/-! ### What is displayed is read back -/

namespace Address

variable {a : Address}

theorem toList_display (a : Address) :
    a.display.toList = a.host.toList ++ ':' :: Nat.toDigits 10 a.effectivePort.toNat := by
  rw [display, String.toList_append, String.toList_append, List.append_assoc,
    ← Nat.toList_repr]
  rfl

theorem withPort_display (a : Address) :
    WithPort a.display.toList a.host.toList a.effectivePort :=
  ⟨_, a.toList_display, isNumeral_toDigits _⟩

theorem isBlank_of_isDigit {c : Char} (h : c.isDigit = true) : isBlank c = false := by
  have hdigit := toNat_of_isDigit h
  simp only [isBlank, Bool.or_eq_false_iff, Bool.and_eq_false_iff, decide_eq_false_iff_not,
    beq_eq_false_iff_ne]
  omega

/-- No blank stands around a displayed address, if none stands before its host. -/
theorem trimmed_display (h : ∀ c ∈ a.host.toList.head?, isBlank c = false) :
    Trimmed a.display.toList := by
  rw [toList_display]
  constructor
  · intro c hc
    cases hhost : a.host.toList with
    | nil =>
      rw [hhost] at hc
      cases hc
      rfl
    | cons d host =>
      rw [hhost] at hc h
      exact h c hc
  · intro c hc
    have hne : Nat.toDigits 10 a.effectivePort.toNat ≠ [] := Nat.toDigits_ne_nil
    rw [List.getLast?_append_of_ne_nil _ (List.cons_ne_nil _ _),
      List.getLast?_cons_of_ne_nil hne] at hc
    exact isBlank_of_isDigit (isDigit_of_mem_toDigits (List.mem_of_getLast? hc))

theorem parse_display (h : ∀ c ∈ a.host.toList.head?, isBlank c = false) :
    parse a.display = ⟨a.host, some a.effectivePort⟩ := by
  have hdivides : Divides (trimList a.display.toList) a.host.toList a.effectivePort := by
    rw [(trimmed_display h).trimList_eq]
    exact .inl a.withPort_display
  rw [parse_of_divides hdivides, String.ofList_toList]

/-- A host that was read does not begin with a blank. -/
theorem isBlank_of_mem_head?_host (s : String) :
    ∀ c ∈ (parse s).host.toList.head?, isBlank c = false := by
  intro c hc
  apply (trimmed_trimList s.toList).head
  by_cases hdivided : ∃ host port, Divides (trimList s.toList) host port
  · obtain ⟨host, port, hdivided⟩ := hdivided
    obtain ⟨after, hsplit, -⟩ := divides_iff.mp hdivided
    rw [parse_of_divides hdivided, String.toList_ofList] at hc
    rw [(splitLastColon?_eq_some_iff.mp hsplit).1, List.head?_append, Option.mem_def.mp hc]
    rfl
  · rw [parse_of_not_divides fun host port h => hdivided ⟨host, port, h⟩, trim,
      String.toList_ofList] at hc
    exact hc

end Address

/-! ### What a run tells of its request -/

namespace Headless

theorem remoteAddress_fill (filling : Filling) (f : Form) :
    (filling.fill f).remoteAddress.value = filling.address := by
  rcases filling with ⟨protocol, address, username, password, vpnUsername, vpnPassword⟩
  cases vpnUsername <;> cases vpnPassword <;> rfl

/-- The request is told with the address that the form was filled with. -/
theorem Stream.remote_eq {settings : Settings} {filling : Filling}
    {lines : List String} {phase : Phase} {events : List Event} {outcome : Outcome}
    {endpoint protocol remote backend : String}
    (h : Stream endpoint (submission settings filling) lines phase events outcome)
    (hmem : .submitted protocol remote backend ∈ events) :
    remote = (Address.parse filling.address).display := by
  generalize hs : submission settings filling = result at h
  cases h with
  | rejected error => simp at hmem
  | @settled request connected _ _ ending _ hsilent hending =>
    have haddress : request.address = filling.address := by
      rw [request_of_submission hs]
      exact remoteAddress_fill filling _
    have hremote : remote = request.remote.display := by
      cases hending <;> cases connected <;> simp [told] at hmem <;> exact hmem.2.1
    rw [hremote, Request.remote, haddress]

theorem Run.Reached.remote_eq {settings : Settings} {endpoint : String} {filling : Filling}
    {n : Network} {r : Run} {t : Trace} (h : Run.Reached settings endpoint filling n r t)
    {protocol remote backend : String} (hmem : .submitted protocol remote backend ∈ r.events) :
    remote = (Address.parse filling.address).display := by
  rcases hs : submission settings filling with error | request
  · rw [(h.rejected hs).events_eq] at hmem
    simp at hmem
  · obtain ⟨lines, phase, whole, outcome, hstream, hbegun⟩ := (h.underway hs).begins
    exact Stream.remote_eq (hs ▸ hstream) (hbegun.subset hmem)

/-- So is the address of the form, whatever the application has gone through. -/
theorem remote_eq_of_mem_report {a : App} {notice : Notice} {protocol remote backend : String}
    (h : .submitted protocol remote backend ∈ report a notice) :
    remote = (Address.parse a.form.remoteAddress.value).display := by
  cases notice with
  | phaseChanged before phase =>
    cases phase <;> simp [report] at h
    exact h.2.1
  | logAppended | shutdown => simp [report] at h

end Headless

/-! ### The normal form -/

namespace Address

open Headless (Filling Run report)

/-- To display what was read is a normal form.  Whatever text is read, with any blanks
around it, any colons in it and any port or none: what is displayed of it is read as the
same host with the port that is used, and displayed as the same text again.  So the
address that a headless run tells of, whatever happens in the run, and the one that is
told of a session in any state of the application, denote the host and the port that
was typed. -/
theorem display_normal_form :
    (∀ s, parse (parse s).display = ⟨(parse s).host, some (parse s).effectivePort⟩ ∧
      (parse (parse s).display).display = (parse s).display) ∧
    (∀ (settings : Settings) (endpoint : String) (filling : Filling) (n : Network) (r : Run)
      (t : Trace), Run.Reached settings endpoint filling n r t →
      ∀ protocol remote backend, .submitted protocol remote backend ∈ r.events →
        parse remote =
          ⟨(parse filling.address).host, some (parse filling.address).effectivePort⟩) ∧
    ∀ (a : App) (notice : Notice) (protocol remote backend : String),
      .submitted protocol remote backend ∈ report a notice →
      parse remote = ⟨(parse a.form.remoteAddress.value).host,
        some (parse a.form.remoteAddress.value).effectivePort⟩ := by
  have hback : ∀ s, parse (parse s).display =
      ⟨(parse s).host, some (parse s).effectivePort⟩ := fun s =>
    parse_display (isBlank_of_mem_head?_host s)
  refine ⟨fun s => ⟨hback s, ?_⟩,
    fun settings endpoint filling n r t h protocol remote backend hmem => ?_,
    fun a notice protocol remote backend hmem => ?_⟩
  · rw [hback]
    rfl
  · rw [h.remote_eq hmem, hback]
  · rw [Headless.remote_eq_of_mem_report hmem, hback]

/-- A port that is typed with a sign and zeros is told without them. -/
theorem display_normal_form_signed :
    ∃ r t, Run.Reached {} "x" { address := "a:b:+0022", username := "u", password := "p" } {} r t ∧
      .submitted "outline" "a:b:22" "x" ∈ r.events ∧ parse "a:b:22" = ⟨"a:b", some 22⟩ := by
  obtain ⟨-, hrun, -⟩ := display_normal_form
  have hstart : Run.Reached {} "x" { address := "a:b:+0022", username := "u", password := "p" }
      {} _ _ := .start rfl fun _ => List.not_mem_nil
  have hmem : .submitted "outline" "a:b:22" "x" ∈ Run.events (.start (Headless.fresh {} "x" {} [])
      { address := "a:b:+0022", username := "u", password := "p" }) := by decide +kernel
  exact ⟨_, _, hstart, hmem, hrun _ _ _ _ _ _ hstart _ _ _ hmem⟩

end Address

end Provision
