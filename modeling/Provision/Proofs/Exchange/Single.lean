/-
At most one live connection.

The session has asked every task to end whose link it does not follow
(`Session.LetGo`), and every peer that is attached is held by a task
(`Exchange.Held`).  So where no task can move, all have ended but that of the
followed link, and no other peer is attached.

A link that has ended and is not followed is over for good: whatever happens
later, gates that open included, nothing more is observed of it and nothing more
is written to its peer (`Over.later`).

Main result: `one_live`.
-/
import Provision.Proofs.Exchange.Followed
import Provision.Proofs.Link.Held

namespace Provision

/-! ### What the session has let go of -/

namespace Session

variable {s s' : Session} {c : Call} {id : ConnectionId} {done : List Payload}

/-- The session has let go of every link that it does not follow. -/
def LetGo (s : Session) : Prop :=
  ∀ l ∈ s.links, s.active ≠ some l.id → l.hungUp = true

theorem LetGo.congr (h : s.LetGo) (ha : s'.active = s.active)
    (hl : ∀ l' ∈ s'.links, ∃ l ∈ s.links, l'.id = l.id ∧ l'.hungUp = l.hungUp) : s'.LetGo := by
  intro l' hl' hactive
  obtain ⟨l, hmem, hid, hup⟩ := hl l' hl'
  rw [hup]
  exact h l hmem (by rwa [← ha, ← hid])

/-- Having released the link that it follows, the session has let go of all. -/
theorem LetGo.release (h : s.LetGo) {l : Link} (hl : l ∈ s.release.links) : l.hungUp = true := by
  rcases ha : s.active with - | i
  · rw [Session.release, ha] at hl
    exact h l hl (by simp [ha])
  · simp only [Session.release, ha] at hl
    obtain ⟨k, hk, rfl⟩ := mem_modifyLink.mp hl
    by_cases hid : k.id = i
    · rw [if_pos hid]
    · rw [if_neg hid]
      exact h k hk fun hactive => hid (Option.some.inj (hactive.symm.trans ha))

theorem LetGo.react (h : s.LetGo) (r : Report) : (s.react r).LetGo := by
  cases r with
  | opened =>
    refine h.congr (flush_fields { s with status := .opened }).2.1 fun l' hl' => ?_
    obtain ⟨l, hl, hsame⟩ := hungUp_flush hl'
    exact ⟨l, hl, hsame⟩
  | frame | failed => exact h
  | ended info => exact fun l hl _ => h.release hl

theorem LetGo.call (h : s.LetGo) (c : Call) : (s.call c).1.LetGo := by
  cases c with
  | connect target =>
    intro l hl hactive
    simp only [Session.call, Session.connect, List.mem_append, List.mem_singleton] at hl
    rcases hl with hl | rfl
    · exact h.release hl
    · exact absurd rfl hactive
  | send p => exact h.congr (s.send_fields p).2.1 fun _ hl => hungUp_send hl
  | close =>
    by_cases hidle : s.status = .idle
    · simp only [Session.call, Session.close, hidle, if_true]
      exact h
    · simp only [Session.call, Session.close, hidle, if_false]
      exact fun l hl _ => h.release hl
  | next =>
    rcases s.next_cases with ⟨-, hnext⟩ | ⟨_, _, r, _, -, -, -, hnext⟩ <;>
      rw [Session.call, hnext]
    · exact h
    · exact h.react r

/-- A call spares every link that there is. -/
theorem Flow.forward (hf : Flow s s' c done) (h : s.Coherent) {l : Link} (hl : l ∈ s.links) :
    ∃ l' ∈ s'.links, Spared l l' := by
  obtain ⟨l', hl', hid⟩ := List.mem_map.mp (hf.mem_ids h (List.mem_map_of_mem hl))
  rcases hf.links l' hl' with ⟨k, hk, hspared⟩ | ⟨target, -, rfl⟩
  · have hkl : k = l := h.eq_of_id hk hl (hspared.id.symm.trans hid)
    exact ⟨l', hl', hkl ▸ hspared⟩
  · have hle := (h.id_mem hl).2
    rw [← hid] at hle
    exact absurd hle (Nat.not_succ_le_self _)

end Session

namespace Exchange

variable {e e' : Exchange} {t u : Trace} {id : ConnectionId}

/-- Every peer that is attached is held by a task. -/
def Held (e : Exchange) : Prop :=
  ∀ i, e.network.Attached i → ∃ l ∈ e.session.links, l.Holds i

theorem Background.letGo (hb : e.Background u e') (hc : e.session.Coherent)
    (h : e.session.LetGo) : e'.session.LetGo := by
  obtain ⟨-, -, hactive, -, -⟩ := hb.session
  refine h.congr hactive fun l' hl' => ?_
  obtain ⟨l, hl, hkept⟩ := hb.kept hc hl'
  exact ⟨l, hl, hkept.id, hkept.hungUp⟩

theorem Held.call (h : e.Held) (hc : e.session.Coherent) (c : Call) : (e.call c).Held := by
  intro i hi
  obtain ⟨done, hf⟩ := hc.call c
  -- A call reaches no peer, and moves no task.
  obtain ⟨l, hl, hholds⟩ := h i hi
  obtain ⟨l', hl', hspared⟩ := hf.forward hc hl
  exact ⟨l', hl', hholds.congr hspared.stage⟩

theorem Held.background (h : e.Held) (hb : e.Background u e') : e'.Held := by
  intro i hi
  cases hb with
  | @move earlier later l o hlinks hm =>
    rcases hm.attached hi with hholds | ⟨hnot, hi⟩
    · exact ⟨o.1, by simp [afterMove], hholds⟩
    · -- Another task holds the peer, and has not moved.
      obtain ⟨k, hk, hholds⟩ := h i hi
      rw [hlinks, List.mem_append, List.mem_cons] at hk
      rcases hk with hk | rfl | hk
      · exact ⟨k, by simp [afterMove, hk], hholds⟩
      · exact absurd hholds hnot
      · exact ⟨k, by simp [afterMove, hk], hholds⟩
  | restrict id room =>
    obtain ⟨l, hl, hholds⟩ := h i hi
    refine ⟨_, Session.mem_modifyLink.mpr ⟨l, hl, rfl⟩, hholds.congr ?_⟩
    by_cases hid : l.id = id <;> simp [hid]
  | drift hd => exact h i (hd.attached hi)

theorem Run.letGo_held (h : Run e t) : e.session.LetGo ∧ e.Held := by
  induction h with
  | start hn =>
    refine ⟨by simp [Session.LetGo], fun i hi => ?_⟩
    obtain ⟨p, hp, -⟩ := hi
    simp [hn] at hp
  | call c hrun ih => exact ⟨ih.1.call c, ih.2.call hrun.coherent c⟩
  | background hrun hb ih => exact ⟨hb.letGo hrun.coherent ih.1, ih.2.background hb⟩

/-! ### Where no task can move -/

/-- A task that can do nothing has ended if it is not followed. -/
theorem Quiet.finished (hq : e.Quiet) (h : e.session.LetGo) {l : Link}
    (hl : l ∈ e.session.links) (hne : e.session.active ≠ some l.id) : l.stage = .finished := by
  have hup := h l hl hne
  rcases Link.still_cases (hq l hl) with hfin | ⟨_, -, hnot, -⟩ | ⟨_, -, hnot, -⟩
  · exact hfin
  -- Otherwise the session would not have let go of it.
  all_goals
    rw [hup] at hnot
    cases hnot

theorem Quiet.live (hq : e.Quiet) (h : e.session.LetGo) {l : Link} (hl : l ∈ e.session.links)
    {i : Nat} (hholds : l.Holds i) : e.session.active = some l.id ∧ l.stage = .live i := by
  have hlive : l.stage = .live i := by
    rcases hholds with hlive | ⟨unsaid, hending⟩
    · exact hlive
    · exact absurd (.conclude hending) (hq l hl _)
  refine ⟨?_, hlive⟩
  by_contra hne
  rw [hq.finished h hl hne] at hlive
  cases hlive

/-- So at most one peer is attached, that of the followed link. -/
theorem Quiet.attached (hq : e.Quiet) (hc : e.session.Coherent) (h : e.session.LetGo)
    (hheld : e.Held) {i : Nat} (hi : e.network.Attached i) :
    e.session.activeLink?.map (·.stage) = some (.live i) := by
  obtain ⟨l, hl, hholds⟩ := hheld i hi
  obtain ⟨hactive, hlive⟩ := hq.live h hl hholds
  obtain ⟨k, hk, hid⟩ := hc.exists_activeLink hactive
  have hkl : k = l := hc.eq_of_id (Session.mem_of_link? (Session.link?_of_activeLink? hk).2) hl hid
  rw [hk, hkl, Option.map_some, hlive]

theorem answer?_openGate_of_ne {n : Network} {gate g : Nat} (hne : g ≠ gate) (answer : Answer) :
    (n.openGate gate answer).2.answer? g = n.answer? g := by
  rcases hg : n.gates[gate]? with - | gate'
  · rw [Network.openGate, hg]
  · by_cases ha : gate'.answer.isSome <;>
      simp [Network.openGate, Network.answer?, hg, ha, List.getElem?_set_ne (Ne.symm hne)]

theorem peers_openGate (n : Network) (gate : Nat) (answer : Answer) :
    (n.openGate gate answer).2.peers = n.peers := by
  rcases hg : n.gates[gate]? with - | g
  · rw [Network.openGate, hg]
  · by_cases ha : g.answer.isSome <;> simp [Network.openGate, hg, ha]

/-- To open a gate moves nobody but the attempt that waits there. -/
theorem Quiet.openGate (hq : e.Quiet) {gate : Nat}
    (hgate : ∀ l ∈ e.session.links, l.stage ≠ .waiting gate) (answer : Answer) :
    Quiet { e with network := (e.network.openGate gate answer).2 } := by
  intro l hl
  rw [← Link.step?_eq_none_iff]
  -- Of the network, a task that is still looks at its own gate or its own peer only.
  have hpeers := peers_openGate e.network gate answer
  rcases Link.still_cases (hq l hl) with hs | ⟨g, hs, hup, ha⟩ | ⟨i, hs, hup, hread, hleft, hw⟩
  · rw [Link.step?, hs]
  · have hne : g ≠ gate := fun heq => hgate l hl (heq ▸ hs)
    simp [Link.step?, hs, hup, answer?_openGate_of_ne hne, ha]
  · have hread' : (e.network.openGate gate answer).2.unread i = [] := by
      rw [Network.unread, hpeers]
      exact hread
    have hleft' : (e.network.openGate gate answer).2.hasLeft i = false := by
      rw [Network.hasLeft, hpeers]
      exact hleft
    simp [Link.step?, Link.pump?, hs, hup, hread', hleft', hw]

/-! ### What may follow -/

/-- Nothing is observed of a link: it joins no peer, reports nothing, gives rise to
no event and is handed no payload. -/
structure Mute (id : ConnectionId) (u : Trace) : Prop where
  joinedBy : u.joinedBy id = []
  reportsOf : u.reportsOf id = []
  eventsOf : u.eventsOf id = []
  handedTo : u.handedTo id = []

theorem mute_nil (id : ConnectionId) : Mute id [] :=
  ⟨rfl, rfl, rfl, rfl⟩

theorem Mute.append {v : Trace} (hu : Mute id u) (hv : Mute id v) : Mute id (u ++ v) where
  joinedBy := by rw [Trace.joinedBy_append, hu.joinedBy, hv.joinedBy, List.append_nil]
  reportsOf := by rw [Trace.reportsOf_append, hu.reportsOf, hv.reportsOf, List.append_nil]
  eventsOf := by rw [Trace.eventsOf_append, hu.eventsOf, hv.eventsOf, List.append_nil]
  handedTo := by rw [Trace.handedTo_append, hu.handedTo, hv.handedTo, List.append_nil]

/-- Calls concern the followed link only. -/
theorem mute_observed {s : Session} (hc : s.Coherent) (hne : s.active ≠ some id) (c : Call) :
    Mute id (s.observed c) := by
  obtain ⟨done, hf⟩ := hc.call c
  refine ⟨?_, s.reportsOf_observed c id, ?_, ?_⟩
  · rw [Trace.joinedBy, s.joined_observed]
    rfl
  · rw [s.eventsOf_observed]
    rcases hevent : (s.call c).2 with - | event
    · exact ite_self _
    · cases c with
      | connect | send | close => cases hevent
      | next =>
        obtain ⟨i, hi, hsource, -⟩ := Session.source_of_next hevent
        rw [hsource, if_neg fun heq => hne (hi.trans heq)]
  · rw [handedTo_observed hc hf, if_neg hne]

/-- A link has ended and is not followed. -/
structure Over (e : Exchange) (id : ConnectionId) : Prop where
  known : id ∈ e.session.links.map (·.id)
  active : e.session.active ≠ some id
  finished : ∀ l ∈ e.session.links, l.id = id → l.stage = .finished

theorem Over.call (h : e.Over id) (hc : e.session.Coherent) (c : Call) : (e.call c).Over id := by
  obtain ⟨done, hf⟩ := hc.call c
  have hle := (hc.mem_ids.mp h.known).2
  refine ⟨hf.mem_ids hc h.known, fun ha => ?_, fun l' hl' hid => ?_⟩
  · rcases Session.active_of_call hc ha with hnew | ha
    · exact absurd (hnew ▸ hle) (Nat.not_succ_le_self _)
    · exact h.active ha
  · rcases hf.links l' hl' with ⟨l, hl, hspared⟩ | ⟨target, -, rfl⟩
    · rw [hspared.stage]
      exact h.finished l hl (hspared.id.symm.trans hid)
    · exact absurd (hid ▸ hle) (Nat.not_succ_le_self _)

/-- In the background, a link that is over stands where it stood. -/
theorem Over.stays (h : e.Over id) (hc : e.session.Coherent) (hb : e.Background u e') {l' : Link}
    (hl' : l' ∈ e'.session.links) (hid : l'.id = id) :
    ∃ l ∈ e.session.links, l.id = id ∧ l.Stays l' ∧ Untouched e e' u l := by
  rcases hb.link_cases hc hl' with ⟨l, hl, o, hm, rfl, -, -⟩ | ⟨l, hl, hstays, huntouched⟩
  · have hfin := h.finished l hl (hm.kept.id.symm.trans hid)
    exact absurd hfin hm.not_finished
  · exact ⟨l, hl, hstays.id.symm.trans hid, hstays, huntouched⟩

theorem Over.background (h : e.Over id) (hc : e.session.Coherent) (hb : e.Background u e') :
    e'.Over id := by
  obtain ⟨-, -, hactive, -, hids⟩ := hb.session
  refine ⟨hids ▸ h.known, hactive ▸ h.active, fun l' hl' hid => ?_⟩
  obtain ⟨l, hl, hlid, hstays, -⟩ := h.stays hc hb hl' hid
  rw [hstays.stage]
  exact h.finished l hl hlid

/-- The background leaves a link alone that is over, and its peer. -/
theorem Over.untouched (h : e.Over id) (ht : e.Tracked t) (hb : e.Background u e') :
    Mute id u ∧ ∀ peer ∈ t.joinedBy id, e'.network.written peer = e.network.written peer := by
  obtain ⟨-, -, -, -, hids⟩ := hb.session
  obtain ⟨l', hl', hid⟩ := List.mem_map.mp (hids ▸ h.known)
  obtain ⟨l, hl, rfl, -, huntouched⟩ := h.stays ht.coherent hb hl' hid
  refine ⟨⟨huntouched.joinedBy, huntouched.reportsOf, (hb.silent.events_opens _).1, ?_⟩,
    fun peer hpeer => ?_⟩
  · rw [Trace.handedTo, hb.silent.handed_eq_nil]
    rfl
  · exact huntouched.written peer fun k hk hlive => ht.id_of_live hk hlive hpeer

/-- What is over stays over. -/
theorem Over.later (h : e.Over id) (hrun : Run e t) (hl : e.Later u e') :
    e'.Over id ∧ Mute id u ∧
      ∀ peer ∈ t.joinedBy id, e'.network.written peer = e.network.written peer := by
  induction hl with
  | refl => exact ⟨h, mute_nil id, fun _ _ => rfl⟩
  | call c hl ih =>
    obtain ⟨hover, hmute, hwritten⟩ := ih
    have hc := (hrun.later hl).coherent
    exact ⟨hover.call hc c, hmute.append (mute_observed hc hover.active c), hwritten⟩
  | @background u _ _ _ hl hb ih =>
    obtain ⟨hover, hmute, hwritten⟩ := ih
    have ht := (hrun.later hl).tracked
    obtain ⟨hmute', hwritten'⟩ := hover.untouched ht hb
    refine ⟨hover.background ht.coherent hb, hmute.append hmute', fun peer hpeer => ?_⟩
    have hjoined : peer ∈ (t ++ u).joinedBy id := by
      rw [Trace.joinedBy_append]
      exact List.mem_append_left _ hpeer
    rw [hwritten' peer hjoined]
    exact hwritten peer hpeer

/-- At most one live connection.  In every run, wherever no task can move: a task
that has not ended is that of the link that the session follows, so no attempt
waits at a gate that was superseded or closed; a peer that the client has not let
go of is the one on which that link is live; to open a gate at which that link does
not wait moves nothing; and whatever happens later, every other link joins no
peer, reports nothing, gives rise to no event and is handed nothing, and nothing
more is written to its peer. -/
theorem one_live (h : Run e t) (hq : e.Quiet) :
    (∀ l ∈ e.session.links, l.stage ≠ .finished → e.session.active = some l.id) ∧
    (∀ i p, e.network.peers[i]? = some p → p.released = false →
      e.session.activeLink?.map (·.stage) = some (.live i)) ∧
    (∀ gate answer,
      (∀ l ∈ e.session.links, e.session.active = some l.id → l.stage ≠ .waiting gate) →
      Quiet { e with network := (e.network.openGate gate answer).2 }) ∧
    ∀ l ∈ e.session.links, e.session.active ≠ some l.id → ∀ u e', e.Later u e' →
      Mute l.id u ∧
        ∀ peer, (l.id, peer) ∈ t.joined → e'.network.written peer = e.network.written peer := by
  obtain ⟨hletGo, hheld⟩ := h.letGo_held
  have hactive : ∀ l ∈ e.session.links, l.stage ≠ .finished → e.session.active = some l.id := by
    intro l hl hon
    by_contra hne
    exact hon (hq.finished hletGo hl hne)
  refine ⟨hactive, fun i p hp hr => ?_, fun gate answer hgate => ?_, fun l hl hne u e' hlater => ?_⟩
  · exact hq.attached h.coherent hletGo hheld ⟨p, hp, hr⟩
  · refine hq.openGate (fun l hl hwait => ?_) answer
    have hon : l.stage ≠ .finished := by simp [hwait]
    exact hgate l hl (hactive l hl hon) hwait
  · have hover : e.Over l.id := by
      refine ⟨List.mem_map_of_mem hl, hne, fun k hk hid => ?_⟩
      rw [h.coherent.eq_of_id hk hl hid]
      exact hq.finished hletGo hl hne
    obtain ⟨-, hmute, hwritten⟩ := hover.later h hlater
    exact ⟨hmute, fun peer hpeer => hwritten peer (Trace.mem_joinedBy.mpr hpeer)⟩

/-- A connection and an attempt at a gate, each superseded by the next. -/
theorem one_live_superseded :
    ∃ e t, Run e t ∧ e.Quiet ∧ t.opens = [(1, "x"), (2, "y"), (3, "z")] ∧
      t.joined = [(1, 0), (3, 1)] ∧ e.session.activeLink?.map (·.stage) = some (.live 1) ∧
      Quiet { e with network := (e.network.openGate 0 .accept).2 } ∧
      ∀ u e', e.Later u e' → Mute 1 u ∧ Mute 2 u ∧
        e'.network.written 0 = e.network.written 0 := by
  have h₁ := (Run.start (n := { plans := [.answer .accept, .hold 0], gates := [{}] }) rfl).call
    (.connect "x")
  have h₂ := (h₁.background (@Background.move _ [] [] _ _ rfl (.dial rfl))).call (.connect "y")
  have h₃ := h₂.background (@Background.move _ [] [_] _ _ rfl (.leave rfl rfl))
  have h₄ := (h₃.background (@Background.move _ [_] [] _ _ rfl (.dial rfl))).call (.connect "z")
  have h₅ := h₄.background (@Background.move _ [_] [_] _ _ rfl (.desert rfl rfl))
  have h₆ := h₅.background (@Background.move _ [_, _] [] _ _ rfl (.dial rfl))
  obtain ⟨-, hpeer, hgate, hover⟩ := one_live h₆ (step?_eq_none_iff.mp rfl)
  refine ⟨_, _, h₆, step?_eq_none_iff.mp rfl, by decide, by decide, hpeer 1 _ rfl rfl,
    hgate 0 .accept (by decide), ?_⟩
  intro u e' hlater
  obtain ⟨hone, hwritten⟩ := hover _ (List.mem_cons_self ..) (by decide) u e' hlater
  obtain ⟨htwo, -⟩ :=
    hover _ (List.mem_cons_of_mem _ (List.mem_cons_self ..)) (by decide) u e' hlater
  exact ⟨hone, htwo, hwritten 0 (by decide)⟩

end Exchange

end Provision
