/-
The link that the session follows, from its first report to its last.

The session has not let go of the link that it follows (`Attentive`), so a task
that ends while it is followed has come to the end of its conversation
(`Concluded`); and once nothing is left to read of it, the owner has heard
everything that it reported (`Heard.eventsOf_eq`).  What is lasting of one link
stays true of it in every step of a run, as long as streams that have stopped
stay so (`Background.lasting`, `lasting_call`).
-/
import Provision.Proofs.Exchange.Inbound
import Provision.Proofs.Exchange.Outbound
import Provision.Proofs.Link.Transcript

namespace Provision

namespace Session

variable {s s' : Session} {id : ConnectionId}

/-- The session has not let go of the link that it follows. -/
def Attentive (s : Session) : Prop :=
  ∀ l ∈ s.links, s.active = some l.id → l.hungUp = false

/-- Of the session, only its links and which one it follows matter. -/
theorem Attentive.congr (h : s.Attentive) (ha : s'.active = s.active)
    (hl : ∀ l' ∈ s'.links, ∃ l ∈ s.links, l'.id = l.id ∧ l'.hungUp = l.hungUp) :
    s'.Attentive := by
  intro l' hl' hactive
  obtain ⟨l, hmem, hid, hup⟩ := hl l' hl'
  rw [hup]
  exact h l hmem (by rw [← ha, hactive, hid])

theorem attentive_of_idle (h : s.active = none) : s.Attentive := by
  intro l _ hactive
  rw [h] at hactive
  cases hactive

theorem hungUp_handOver {ps : List Payload} {l' : Link} (hl' : l' ∈ (s.handOver ps).1.links) :
    ∃ l ∈ s.links, l'.id = l.id ∧ l'.hungUp = l.hungUp := by
  rcases ha : s.activeLink? with - | k
  · rw [handOver, ha] at hl'
    exact ⟨l', hl', rfl, rfl⟩
  · simp only [handOver, ha] at hl'
    obtain ⟨l, hl, rfl⟩ := mem_modifyLink.mp hl'
    refine ⟨l, hl, ?_⟩
    by_cases hid : l.id = k.id <;> simp [hid]

theorem hungUp_send {p : Payload} {l' : Link} (hl' : l' ∈ (s.send p).links) :
    ∃ l ∈ s.links, l'.id = l.id ∧ l'.hungUp = l.hungUp := by
  by_cases hopen : s.status = .opened
  · simp only [send, hopen, if_true] at hl'
    exact hungUp_handOver hl'
  · simp only [send, hopen, if_false] at hl'
    exact ⟨l', hl', rfl, rfl⟩

theorem hungUp_flush {l' : Link} (hl' : l' ∈ s.flush.links) :
    ∃ l ∈ s.links, l'.id = l.id ∧ l'.hungUp = l.hungUp := by
  rcases ha : s.activeLink? with - | k <;> simp only [flush, ha] at hl'
  · exact ⟨l', hl', rfl, rfl⟩
  · obtain ⟨l, hl, hsame⟩ := hungUp_handOver hl'
    exact ⟨l, hl, hsame⟩

theorem Attentive.send (h : s.Attentive) (p : Payload) : (s.send p).Attentive :=
  h.congr (s.send_fields p).2.1 fun _ hl' => hungUp_send hl'

theorem Attentive.react (h : s.Attentive) (r : Report) : (s.react r).Attentive := by
  cases r with
  | opened =>
    refine h.congr (flush_fields { s with status := .opened }).2.1 fun l' hl' => ?_
    obtain ⟨l, hl, hsame⟩ := hungUp_flush hl'
    exact ⟨l, hl, hsame⟩
  | frame | failed => exact h
  | ended info => exact attentive_of_idle s.active_release

/-- The link with the next number is the one that is asked for. -/
theorem eq_of_connect (hc : s.Coherent) {target : String} {l' : Link}
    (hl' : l' ∈ (s.connect target).links) (hid : l'.id = s.lastId + 1) :
    l' = { id := s.lastId + 1, target } := by
  rcases (connect_flow hc target).links l' hl' with ⟨l, hl, hspared⟩ | ⟨_, htarget, rfl⟩
  · have := (hc.id_mem hl).2
    rw [← hspared.id, hid] at this
    exact absurd this (Nat.not_succ_le_self _)
  · cases htarget
    rfl

theorem Attentive.call (h : s.Attentive) (hc : s.Coherent) (c : Call) :
    (s.call c).1.Attentive := by
  cases c with
  | connect target =>
    intro l' hl' hactive
    have hid : l'.id = s.lastId + 1 := by
      simpa [Session.call, Session.connect] using (Option.some.inj hactive).symm
    rw [eq_of_connect hc hl' hid]
  | send p => exact h.send p
  | close => exact attentive_of_idle hc.active_close
  | next =>
    rcases s.next_cases with ⟨-, hnext⟩ | ⟨_, _, r, _, -, -, -, hnext⟩
    · rw [Session.call, hnext]
      exact h
    · rw [Session.call, hnext]
      exact h.react r

/-- A link that is followed after a call is new, or was followed before. -/
theorem active_of_call (hc : s.Coherent) {c : Call} (ha : (s.call c).1.active = some id) :
    id = s.lastId + 1 ∨ s.active = some id := by
  cases c with
  | connect target => exact .inl (by simpa [call, connect] using ha.symm)
  | send p => exact .inr ((s.send_fields p).2.1 ▸ ha)
  | close =>
    rw [show (s.call .close).1.active = none from hc.active_close] at ha
    cases ha
  | next =>
    rcases s.next_cases with ⟨-, hnext⟩ | ⟨_, _, r, _, -, -, -, hnext⟩ <;>
      rw [call, hnext] at ha
    · exact .inr ha
    · exact .inr (active_react ha)

/-- An event is one of the followed link, which is followed on unless it has
ended. -/
theorem source_of_next {event : Event} (h : s.next.2 = some event) :
    ∃ id, s.active = some id ∧ s.lastSource (s.call .next).1 = some id ∧
      ((∀ info, event ≠ .closed info) → s.next.1.active = some id) := by
  rcases s.next_cases with ⟨-, hnext⟩ | ⟨stale, id, r, rest, hreports, -, hid, hnext⟩
  · rw [hnext] at h
    cases h
  · have hevent : event = r.event := by
      rw [hnext] at h
      exact (Option.some.inj h).symm
    refine ⟨id, hid, lastSource_eq hreports (by rw [call, hnext]), fun hopen => ?_⟩
    rw [hnext]
    refine (active_react_of_ne _ fun info hinfo => hopen info ?_).trans hid
    rw [hevent, hinfo, Report.event]

end Session

namespace Exchange

variable {e e' : Exchange} {t u : Trace} {id : ConnectionId}

/-! ### Whole conversations -/

/-- A task that has ended while the session follows it has come to the end of
its conversation. -/
structure Concluded (e : Exchange) (t : Trace) : Prop where
  attentive : e.session.Attentive
  concluded : ∀ l ∈ e.session.links, e.session.active = some l.id → l.stage = .finished →
    Conversation ((t.reportsOf l.id).map Report.event)

theorem Concluded.call (h : e.Concluded t) (hc : e.session.Coherent) (c : Call) :
    (e.call c).Concluded (t ++ e.session.observed c) := by
  obtain ⟨done, hf⟩ := hc.call c
  refine ⟨h.attentive.call hc c, fun l' hl' ha hfin => ?_⟩
  rw [reportsOf_call]
  rcases hf.links l' hl' with ⟨l, hl, hspared⟩ | ⟨target, -, rfl⟩
  · rw [hspared.id] at ha ⊢
    rcases Session.active_of_call hc ha with hnew | ha
    · exact absurd (hnew ▸ (hc.id_mem hl).2) (Nat.not_succ_le_self _)
    · exact h.concluded l hl ha (hspared.stage ▸ hfin)
  · cases hfin

theorem Concluded.background (h : e.Concluded t) (hc : e.session.Coherent) (hs : e.Spoken t)
    (hb : e.Background u e') : e'.Concluded (t ++ u) := by
  obtain ⟨-, -, hactive, -, -⟩ := hb.session
  constructor
  · intro l' hl' ha
    obtain ⟨l, hl, hkept⟩ := hb.kept hc hl'
    rw [hkept.hungUp]
    exact h.attentive l hl (by rw [← hactive, ha, hkept.id])
  · intro l' hl' ha hfin
    rw [hactive] at ha
    rw [Trace.reportsOf_append]
    rcases hb.link_cases hc hl' with
      ⟨l, hl, o, hm, rfl, -, rfl⟩ | ⟨l, hl, hstays, huntouched⟩
    · rw [hm.kept.id] at ha ⊢
      rw [reportsOf_moveObserved, if_pos rfl]
      exact hm.conversation_of_finished (hs.said l hl) (h.attentive l hl ha) hfin
    · rw [hstays.id] at ha ⊢
      rw [huntouched.reportsOf, List.append_nil]
      exact h.concluded l hl ha (hstays.stage ▸ hfin)

theorem Run.concluded (h : Run e t) : e.Concluded t := by
  induction h with
  | start => exact ⟨Session.attentive_of_idle rfl, by simp⟩
  | call c hrun ih => exact ih.call hrun.coherent c
  | background hrun hb ih => exact ih.background hrun.coherent hrun.heard.1 hb

/-! ### Everything was heard -/

/-- Once there is no event to read, the owner has heard all reports of the
followed link. -/
theorem Heard.eventsOf_eq (h : e.Heard t) (ha : e.session.active = some id)
    (hnone : e.session.next.2 = none) : t.eventsOf id = (t.reportsOf id).map Report.event := by
  have hwait : e.session.pending id = [] := by
    rcases e.session.next_cases with ⟨hstale, -⟩ | ⟨_, _, r, _, -, -, -, hnext⟩
    · exact Session.pending_stale ha hstale
    · rw [hnext] at hnone
      cases hnone
  have hall := h.pending id ha
  rwa [hwait, List.map_nil, List.append_nil] at hall

/-- Nothing is heard under a number that was not given out. -/
theorem Run.eventsOf_eq_nil (h : Run e t) (hid : id ∉ e.session.links.map (·.id)) :
    t.eventsOf id = [] := by
  obtain ⟨hs, hh⟩ := h.heard
  have hsurfaced := hh.surfaced id
  rw [hs.unborn id hid] at hsurfaced
  exact List.prefix_nil.mp hsurfaced

/-- The first thing that is heard of a link is no message. -/
theorem Run.eventsOf_ne_message (h : Run e t) (id : ConnectionId) (p : Payload) :
    t.eventsOf id ≠ [.message p] := by
  intro heq
  by_cases hid : id ∈ e.session.links.map (·.id)
  · obtain ⟨hs, hh⟩ := h.heard
    obtain ⟨l, hl, rfl⟩ := List.mem_map.mp hid
    obtain ⟨whole, hwhole, hbegun⟩ := (hs.said l hl).begun
    exact hwhole.not_prefix_message p (heq ▸ (hh.surfaced l.id).trans hbegun)
  · rw [h.eventsOf_eq_nil hid] at heq
    cases heq

/-! ### What lasts -/

/-- A fact of the link with a number, its peers and its reports. -/
def Holds (Q : Link → Network → List Nat → List Report → Prop) (id : ConnectionId)
    (e : Exchange) (t : Trace) : Prop :=
  ∀ l ∈ e.session.links, l.id = id → Q l e.network (t.joinedBy id) (t.reportsOf id)

variable {Q : Link → Network → List Nat → List Report → Prop}

theorem lasting_call (hQ : Link.Lasting Q) (h : e.Holds Q id t) (ht : e.Tracked t)
    (hid : id ≤ e.session.lastId) (c : Call) :
    (e.call c).Holds Q id (t ++ e.session.observed c) := by
  intro l' hl' heq
  obtain ⟨done, hf⟩ := ht.coherent.call c
  rw [joinedBy_call, reportsOf_call]
  rcases hf.links l' hl' with ⟨l, hl, hspared⟩ | ⟨target, -, rfl⟩
  · have heq : l.id = id := hspared.id ▸ heq
    have hserved := ht.served l hl
    rw [heq] at hserved
    exact hQ.keep (h l hl heq) hserved hspared.target hspared.stage hspared.taken
      hspared.accepted (fun _ _ => rfl) fun _ _ p hp => ⟨p, hp, .refl p, rfl⟩
  · exact absurd (heq ▸ hid) (Nat.not_succ_le_self _)

theorem Background.lasting (hb : e.Background u e') (hQ : Link.Lasting Q) (h : e.Holds Q id t)
    (ht : e.Tracked t) (hs : e.Spoken t) (ho : e.network.Orderly e'.network) :
    e'.Holds Q id (t ++ u) := by
  intro l' hl' heq
  rw [Trace.joinedBy_append, Trace.reportsOf_append]
  rcases hb.link_cases ht.coherent hl' with
    ⟨l, hl, o, hm, rfl, hnetwork, rfl⟩ | ⟨l, hl, hstays, huntouched⟩
  · have heq : l.id = id := hm.kept.id ▸ heq
    subst heq
    rw [joinedBy_moveObserved, reportsOf_moveObserved, if_pos rfl, if_pos rfl, hnetwork]
    exact hQ.move (h l hl rfl) (ht.served l hl) (hs.said l hl) hm
  · have heq : l.id = id := hstays.id ▸ heq
    subst heq
    have hown : ∀ peer ∈ t.joinedBy l.id, ∀ k ∈ e.session.links, k.stage = .live peer →
        k.id = l.id := fun peer hpeer k hk hlive => ht.id_of_live hk hlive hpeer
    rw [huntouched.joinedBy, huntouched.reportsOf, List.append_nil, List.append_nil]
    refine hQ.keep (h l hl rfl) (ht.served l hl) hstays.target hstays.stage hstays.taken
      (hstays.accepted ▸ List.prefix_rfl) (fun peer hpeer => ?_) fun peer hpeer p hp => ?_
    · exact huntouched.written peer (hown peer hpeer)
    · exact huntouched.onward ho peer (hown peer hpeer) p hp

end Exchange

end Provision
