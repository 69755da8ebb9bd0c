/-
What was heard to open.

The session is open, and hands payloads over, only while it follows a
connection of which it has heard that it opened; and of that one it stays open
unless it is closed or hears of the end (`Opening`).
-/
import Provision.Proofs.Exchange.Followed

namespace Provision

theorem Report.event_injective : Function.Injective Report.event := by
  intro r r' h
  cases r <;> cases r' <;> simp_all [Report.event]

namespace Trace

variable {t u : Trace} {id : ConnectionId}

theorem mem_eventsOf {ev : Event} : ev ∈ t.eventsOf id ↔ .event (some id) ev ∈ t := by
  rw [eventsOf, List.mem_filterMap]
  constructor
  · rintro ⟨o, ho, hev⟩
    cases o with
    | event source e =>
      by_cases hsource : source = some id
      · simp only [hsource, if_true, Option.some.injEq] at hev
        rwa [hsource, hev] at ho
      · simp [hsource] at hev
    | opened | sent | handed | closed | reported | joined => cases hev
  · intro h
    exact ⟨_, h, if_pos rfl⟩

/-- The closes, with what was queued at each. -/
def closes (t : Trace) : List (List Payload) :=
  t.filterMap fun | .closed lost => some lost | _ => none

@[simp] theorem closes_append (t u : Trace) : closes (t ++ u) = closes t ++ closes u :=
  List.filterMap_append ..

/-- A connection was heard to open, and neither end has closed it. -/
structure StaysOpen (t : Trace) (id : ConnectionId) : Prop where
  opened : .opened ∈ t.eventsOf id
  unclosed : t.closes = []
  unended : ∀ info, .closed info ∉ t.eventsOf id

theorem StaysOpen.of_append (h : StaysOpen (t ++ u) id) (ho : .opened ∈ t.eventsOf id) :
    t.StaysOpen id where
  opened := ho
  unclosed := (List.append_eq_nil_iff.mp (closes_append t u ▸ h.unclosed)).1
  unended info hmem := h.unended info (by rw [eventsOf_append]; exact List.mem_append_left _ hmem)

end Trace

namespace Session

variable {s : Session}

/-- Only a connection whose opening was read is open, or is handed anything. -/
theorem opened_of_call (h : s.Coherent) (c : Call)
    (hc : (s.call c).1.status = .opened ∨ ∃ id, (s.call c).1.accepted id ≠ s.accepted id) :
    (s.call c).1.lastId = s.lastId ∧ s.active = some s.lastId ∧
      (s.status = .opened ∨ (s.call c).2 = some .opened) := by
  cases c with
  | connect target =>
    rcases hc with hs | ⟨id, hid⟩
    · cases hs
    · exact absurd (s.accepted_connect target id) hid
  | send p =>
    obtain ⟨hstatus, -, hlast, -⟩ := s.send_fields p
    have hopen : s.status = .opened := by
      rcases hc with hs | ⟨id, hid⟩
      · exact hstatus ▸ hs
      · by_contra hopen
        exact hid (by simp [call, send, hopen, accepted, link?])
    exact ⟨hlast, h.active_of_running (.inr hopen), .inl hopen⟩
  | close =>
    have hf := close_flow h
    rcases hc with hs | ⟨id, hid⟩
    · by_cases hidle : s.status = .idle <;> simp [call, close, hidle] at hs
    · exact absurd ((hf.accepted id).trans (by simp)) hid
  | next =>
    rcases s.next_cases with ⟨-, hnext⟩ | ⟨stale, id, r, rest, hreports, -, ha, hnext⟩
    · have hcall : s.call .next = ({ s with reports := [] }, none) := hnext
      rw [hcall] at hc ⊢
      rcases hc with hs | ⟨id, hid⟩
      · exact ⟨rfl, h.active_of_running (.inr hs), .inl hs⟩
      · exact absurd rfl hid
    · obtain ⟨rfl, -⟩ := h.active_eq ha
      have hcall : s.call .next = ({ s.react r with reports := rest }, some r.event) := hnext
      rw [hcall] at hc ⊢
      refine ⟨(s.react_fields r).1, ha, ?_⟩
      cases r with
      | opened => exact .inr rfl
      | frame | failed =>
        rcases hc with hs | ⟨id, hid⟩
        · exact .inl hs
        · exact absurd rfl hid
      | ended info =>
        rcases hc with hs | ⟨id, hid⟩
        · cases hs
        · exact absurd (s.accepted_release id) hid

/-- The event that a call gives is one of the followed link. -/
theorem mem_eventsOf_observed {c : Call} {id : ConnectionId} {ev : Event}
    (ha : s.active = some id) (hev : (s.call c).2 = some ev) :
    ev ∈ Trace.eventsOf (s.observed c) id := by
  cases c with
  | connect | send | close => cases hev
  | next =>
    obtain ⟨i, hi, hsource, -⟩ := source_of_next hev
    rw [eventsOf_observed, hsource, ← hi, ha, if_pos rfl, hev]
    exact List.mem_singleton.mpr rfl

end Session

namespace Exchange

variable {e e' : Exchange} {t u : Trace} {id : ConnectionId}

/-- What was heard of a link, it has reported. -/
theorem Heard.mem_reportsOf (h : e.Heard t) {r : Report} (hr : r.event ∈ t.eventsOf id) :
    r ∈ t.reportsOf id :=
  (List.mem_map_of_injective Report.event_injective).mp ((h.surfaced id).subset hr)

/-- Only what was heard to open is open and is handed payloads; and the last
connection stays open, unless it is closed or comes to an end. -/
structure Opening (e : Exchange) (t : Trace) : Prop where
  opened : e.session.status = .opened → .opened ∈ t.eventsOf e.session.lastId
  handed : ∀ id, e.session.accepted id ≠ [] → .opened ∈ t.eventsOf id
  lasts : t.StaysOpen e.session.lastId → e.session.status = .opened

theorem opening_start (n : Network) : Opening { network := n } [] where
  opened h := by cases h
  handed id h := absurd rfl h
  lasts h := by cases h.opened

/-- A call without an event opens and ends nothing. -/
theorem Opening.quiet (h : e.Opening t) {c : Call} (hq : (e.session.call c).2 = none)
    (hlast : (e.call c).session.lastId = e.session.lastId)
    (hstatus : (e.call c).session.status = e.session.status)
    (hopen : Trace.StaysOpen (t ++ e.session.observed c) (e.call c).session.lastId) :
    (e.call c).session.status = .opened := by
  have hopened := hopen.opened
  rw [hlast] at hopen
  rw [eventsOf_quiet hq, hlast] at hopened
  rw [hstatus]
  exact h.lasts (hopen.of_append hopened)

theorem Opening.call (h : e.Opening t) (hrun : Run e t) (c : Call) :
    (e.call c).Opening (t ++ e.session.observed c) := by
  have hc := hrun.coherent
  obtain ⟨done, hf⟩ := hc.call c
  have hheard : (e.session.call c).1.status = .opened ∨
      (∃ id, (e.session.call c).1.accepted id ≠ e.session.accepted id) →
      (e.session.call c).1.lastId = e.session.lastId ∧
        e.session.active = some e.session.lastId ∧
        .opened ∈ Trace.eventsOf (t ++ e.session.observed c) e.session.lastId := by
    intro hcall
    obtain ⟨hlast, ha, hopen | hopen⟩ := Session.opened_of_call hc c hcall <;>
      refine ⟨hlast, ha, ?_⟩ <;> rw [Trace.eventsOf_append]
    · exact List.mem_append_left _ (h.opened hopen)
    · exact List.mem_append_right _ (Session.mem_eventsOf_observed ha hopen)
  refine ⟨fun hopen => ?_, fun id hid => ?_, ?_⟩
  · obtain ⟨hlast, -, hmem⟩ := hheard (.inl hopen)
    exact hlast ▸ hmem
  · by_cases hsame : (e.session.call c).1.accepted id = e.session.accepted id
    · rw [Trace.eventsOf_append]
      exact List.mem_append_left _ (h.handed id (hsame ▸ hid))
    · -- Only the followed link is handed something new.
      obtain ⟨-, ha, hmem⟩ := hheard (.inr ⟨id, hsame⟩)
      have hactive : e.session.active = some id := by
        by_contra hother
        exact hsame (by rw [hf.accepted id, if_neg hother, List.append_nil])
      exact Option.some.inj (ha.symm.trans hactive) ▸ hmem
  · cases c with
    | connect target =>
      have hnew : (e.call (.connect target)).session.lastId = e.session.lastId + 1 := by
        simp [Exchange.call, Session.call, Session.connect]
      intro hopen
      have hopened := hopen.opened
      rw [eventsOf_quiet rfl, hnew, hrun.eventsOf_eq_nil hc.succ_lastId_not_mem] at hopened
      cases hopened
    | send p =>
      obtain ⟨hstatus, -, hlast, -⟩ := e.session.send_fields p
      exact h.quiet rfl hlast hstatus
    | close =>
      intro hopen
      have hclosed := hopen.unclosed
      simp [Trace.closes, Session.observed, Session.asked] at hclosed
    | next =>
      rcases e.session.next_cases with ⟨-, hnext⟩ | ⟨stale, id, r, rest, hreports, -, ha, hnext⟩
      · have hcall : e.session.call .next = ({ e.session with reports := [] }, none) := hnext
        exact h.quiet (by rw [hcall]) (by rw [Exchange.call, hcall]) (by rw [Exchange.call, hcall])
      · have hcall : e.session.call .next =
            ({ e.session.react r with reports := rest }, some r.event) := hnext
        obtain ⟨rfl, -⟩ := hc.active_eq ha
        have hlast : (e.call .next).session.lastId = e.session.lastId := e.session.lastId_next
        have hsource : e.session.lastSource (e.session.call .next).1 = some e.session.lastId :=
          Session.lastSource_eq hreports (by rw [hcall])
        have hstatus : (e.call .next).session.status = (e.session.react r).status := by
          rw [Exchange.call, hcall]
        rw [hlast, hstatus]
        intro hopen
        have hopened := hopen.opened
        have hended := hopen.unended
        rw [Trace.eventsOf_append, Session.eventsOf_observed, hsource, hcall, if_pos rfl]
          at hopened hended
        cases r with
        | opened => exact (Session.flush_fields { e.session with status := .opened }).1
        | frame | failed =>
          exact h.lasts (hopen.of_append (by simpa [Report.event] using hopened))
        | ended info => exact absurd (List.mem_append_right _ List.mem_cons_self) (hended info)

theorem Opening.background (h : e.Opening t) (hb : e.Background u e') : e'.Opening (t ++ u) := by
  obtain ⟨hstatus, -, -, hlast, -⟩ := hb.session
  have hevents : ∀ id, Trace.eventsOf (t ++ u) id = t.eventsOf id := by
    intro id
    rw [Trace.eventsOf_append, (hb.silent.events_opens id).1, List.append_nil]
  constructor
  · rw [hevents, hlast, hstatus]
    exact h.opened
  · intro id hid
    rw [hevents]
    exact h.handed id (hb.accepted id ▸ hid)
  · rw [hlast, hstatus]
    intro hopen
    exact h.lasts (hopen.of_append (by rw [← hevents]; exact hopen.opened))

theorem Run.opening (h : Run e t) : e.Opening t := by
  induction h with
  | start => exact opening_start _
  | call c hrun ih => exact ih.call hrun c
  | background hrun hb ih => exact ih.background hb

end Exchange

end Provision
