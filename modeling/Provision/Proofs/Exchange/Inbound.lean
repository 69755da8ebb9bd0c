/-
The inbound side of a run: only the current connection is heard, in order.

The reports of all tasks wait in one queue, and those of old tasks may be read
at any time.  `Spoken` says that each task keeps to its conversation, and
`Heard` that the events so far and the reports that still wait make up what the
task of the followed link has reported; of any other link nothing is read.

Main result: `inbound_order`.
-/
import Provision.Proofs.Session.Background

namespace Provision

namespace Session

/-- The reports of one link that were not read yet. -/
def pending (s : Session) (id : ConnectionId) : List Report :=
  s.reports.filterMap fun x => if x.1 = id then some x.2 else none

variable {s : Session} {id : ConnectionId} {c : Call}

/-! ### The inbound part of a call's observations -/

theorem eventsOf_observed (s : Session) (c : Call) (id : ConnectionId) :
    Trace.eventsOf (s.observed c) id =
      if s.lastSource (s.call c).1 = some id then (s.call c).2.toList else [] := by
  rw [Trace.eventsOf, filterMap_observed]
  by_cases h : s.lastSource (s.call c).1 = some id <;> cases c <;> simp [asked, h]

theorem reportsOf_observed (s : Session) (c : Call) (id : ConnectionId) :
    Trace.reportsOf (s.observed c) id = [] := by
  rw [Trace.reportsOf, filterMap_observed]
  cases c <;> simp [asked]

/-- What follows the request in a call's observations. -/
theorem mem_observed {o : Observation} (h : o ∈ s.observed c) : o ∈ s.asked c ∨
    (∃ id p, o = .handed id p) ∨
      ∃ ev ∈ (s.call c).2, o = .event (s.lastSource (s.call c).1) ev := by
  simp only [observed, List.mem_append, List.mem_map, Option.mem_toList] at h
  rcases h with (h | ⟨x, -, rfl⟩) | ⟨ev, hev, rfl⟩
  · exact .inl h
  · exact .inr (.inl ⟨x.1, x.2, rfl⟩)
  · exact .inr (.inr ⟨ev, hev, rfl⟩)

/-- The report that gives an event is the last that is read. -/
theorem lastSource_eq {s' : Session} {stale rest : List (ConnectionId × Report)} {r : Report}
    (h : s.reports = stale ++ (id, r) :: rest) (h' : s'.reports = rest) :
    s.lastSource s' = some id := by
  have hlen : s.reports.length - s'.reports.length = (stale ++ [(id, r)]).length := by
    rw [h, h']
    simp
    omega
  have htake : s.reports.take (stale ++ [(id, r)]).length = stale ++ [(id, r)] := by
    rw [h, show stale ++ (id, r) :: rest = stale ++ [(id, r)] ++ rest by simp, List.take_left]
  rw [lastSource, hlen, htake]
  simp

/-- Stale reports are of other links. -/
theorem pending_stale {stale : List (ConnectionId × Report)} (ha : s.active = some id)
    (h : ∀ x ∈ stale, s.active ≠ some x.1) :
    (stale.filterMap fun x => if x.1 = id then some x.2 else none) = [] := by
  rw [List.filterMap_eq_nil_iff]
  intro x hx
  exact if_neg fun hid => h x hx (by rw [ha, hid])

end Session

namespace Exchange

variable {e e' : Exchange} {t u : Trace}

/-! ### What tasks say -/

/-- Every task keeps to its conversation. -/
structure Spoken (e : Exchange) (t : Trace) : Prop where
  said : ∀ l ∈ e.session.links, l.Said (t.reportsOf l.id)
  /-- Nothing is reported under a number that was not given out. -/
  unborn : ∀ id, id ∉ e.session.links.map (·.id) → t.reportsOf id = []

theorem spoken_start (n : Network) : Spoken { network := n } [] :=
  ⟨by simp, fun _ _ => rfl⟩

theorem Spoken.call (h : e.Spoken t) (hc : e.session.Coherent) (c : Call) :
    (e.call c).Spoken (t ++ e.session.observed c) := by
  obtain ⟨done, hf⟩ := hc.call c
  have hsame : ∀ id, Trace.reportsOf (t ++ e.session.observed c) id = t.reportsOf id := by
    intro id
    rw [Trace.reportsOf_append, Session.reportsOf_observed, List.append_nil]
  constructor
  · intro l' hl'
    rw [hsame]
    rcases hf.links l' hl' with ⟨l, hl, hspared⟩ | ⟨target, -, rfl⟩
    · rw [hspared.id]
      exact (Link.said_congr hspared.stage).mpr (h.said l hl)
    · exact h.unborn _ hc.succ_lastId_not_mem
  · intro id hid
    rw [hsame]
    exact h.unborn id fun hmem => hid (hf.mem_ids hc hmem)

theorem Spoken.background (h : e.Spoken t) (hc : e.session.Coherent)
    (hb : e.Background u e') : e'.Spoken (t ++ u) := by
  obtain ⟨-, -, -, -, hids⟩ := hb.session
  refine ⟨fun l' hl' => ?_, fun id hid => ?_⟩
  · rw [Trace.reportsOf_append]
    rcases hb.link_cases hc hl' with ⟨l, hl, o, hm, rfl, -, rfl⟩ | ⟨l, hl, hstays, huntouched⟩
    · rw [hm.kept.id, reportsOf_moveObserved, if_pos rfl]
      exact hm.said (h.said l hl)
    · rw [hstays.id, huntouched.reportsOf, List.append_nil]
      exact (Link.said_congr hstays.stage).mpr (h.said l hl)
  · rw [hids] at hid
    rw [Trace.reportsOf_append, h.unborn id hid, hb.reportsOf_eq_nil hid]
    rfl

/-! ### What the owner hears -/

/-- The owner hears the followed link, and nothing else. -/
structure Heard (e : Exchange) (t : Trace) : Prop where
  opens : t.opens.map (·.1) = List.range' 1 e.session.lastId
  current : ∀ id, e.session.active = some id → t.current = some id
  sources : t.Throughout fun t₁ o => ∀ source ev, o = .event source ev →
    ∃ id, source = some id ∧ Trace.current t₁ = some id
  surfaced : ∀ id, t.eventsOf id <+: (t.reportsOf id).map Report.event
  /-- Of the followed link, nothing is left out. -/
  pending : ∀ id, e.session.active = some id →
    t.eventsOf id ++ (e.session.pending id).map Report.event =
      (t.reportsOf id).map Report.event

theorem heard_start (n : Network) : Heard { network := n } [] where
  opens := rfl
  current _ h := by cases h
  sources := Trace.throughout_nil _
  surfaced _ := List.nil_prefix
  pending _ h := by cases h

/-- A call without an event surfaces nothing. -/
theorem eventsOf_quiet {c : Call} (hq : (e.session.call c).2 = none) (id : ConnectionId) :
    Trace.eventsOf (t ++ e.session.observed c) id = t.eventsOf id := by
  rw [Trace.eventsOf_append, Session.eventsOf_observed, hq]
  simp

theorem reportsOf_call (e : Exchange) (t : Trace) (c : Call) (id : ConnectionId) :
    Trace.reportsOf (t ++ e.session.observed c) id = t.reportsOf id := by
  rw [Trace.reportsOf_append, Session.reportsOf_observed, List.append_nil]

/-- Calls other than `next` surface nothing, and keep what waits; it only has
to be said what becomes of the followed link. -/
theorem Heard.quiet (h : e.Heard t) {c : Call} (hq : (e.session.call c).2 = none)
    (hopens : t.opens.map (·.1) ++ (Trace.opens (e.session.asked c)).map (·.1) =
      List.range' 1 (e.call c).session.lastId)
    (hactive : ∀ id, (e.call c).session.active = some id →
      (e.session.asked c).foldl Trace.follow t.current = some id ∧
        t.eventsOf id ++ ((e.call c).session.pending id).map Report.event =
          (t.reportsOf id).map Report.event) :
    (e.call c).Heard (t ++ e.session.observed c) := by
  refine ⟨?_, fun id hid => ?_, ?_, fun id => ?_, fun id hid => ?_⟩
  · rw [Trace.opens_append, List.map_append, Session.opens_observed]
    exact hopens
  · rw [Trace.current_append, Session.foldl_follow_observed]
    exact (hactive id hid).1
  · refine h.sources.append fun u₁ o u₂ hu source ev ho => ?_
    have hmem : Observation.event source ev ∈ e.session.observed c := by rw [hu, ho]; simp
    -- The call gives no event, so none is observed.
    rcases Session.mem_observed hmem with hmem | ⟨_, _, hmem⟩ | ⟨_, hev, -⟩
    · cases c <;> simp [Session.asked] at hmem
    · cases hmem
    · rw [hq] at hev
      cases hev
  · rw [eventsOf_quiet hq, reportsOf_call]
    exact h.surfaced id
  · rw [eventsOf_quiet hq, reportsOf_call]
    exact (hactive id hid).2

/-- Whatever is read, it is of the followed link. -/
theorem Heard.next (h : e.Heard t) : (e.call .next).Heard (t ++ e.session.observed .next) := by
  rcases e.session.next_cases with
    ⟨hstale, hnext⟩ | ⟨stale, id, r, rest, hreports, hstale, ha, hnext⟩
  · have hcall : e.session.call .next = ({ e.session with reports := [] }, none) := hnext
    have hlast : (e.call .next).session.lastId = e.session.lastId := by
      simp [Exchange.call, hcall]
    -- Everything that waited was stale, so of the followed link nothing waited.
    refine h.quiet (by rw [hcall]) ?_ fun id hid => ?_
    · rw [hlast, ← h.opens]
      simp [Session.asked, Trace.opens]
    · have hid : e.session.active = some id := by simpa [Exchange.call, hcall] using hid
      refine ⟨h.current id hid, ?_⟩
      have hwait := h.pending id hid
      rw [Session.pending, Session.pending_stale hid hstale] at hwait
      simpa [Exchange.call, hcall, Session.pending] using hwait
  · have hcall : e.session.call .next =
        ({ e.session.react r with reports := rest }, some r.event) := hnext
    have hsource : e.session.lastSource (e.session.call .next).1 = some id :=
      Session.lastSource_eq hreports (by rw [hcall])
    have hevents : ∀ i, Trace.eventsOf (e.session.observed .next) i =
        if i = id then [r.event] else [] := by
      intro i
      rw [Session.eventsOf_observed, hsource, hcall]
      by_cases hi : i = id
      · simp [hi]
      · simp [hi, Ne.symm hi]
    have hwait : t.eventsOf id ++ (r.event ::
        (Session.pending { e.session with reports := rest } id).map Report.event) =
        (t.reportsOf id).map Report.event := by
      have := h.pending id ha
      rw [Session.pending, hreports, List.filterMap_append, Session.pending_stale ha hstale] at this
      simpa [Session.pending] using this
    -- Whatever was read, no other link is followed afterwards.
    have hfollow : ∀ i, (e.call .next).session.active = some i → i = id := by
      intro i hi
      have hactive : (e.session.react r).active = some i := by
        simpa [Exchange.call, hcall] using hi
      exact Option.some.inj ((Session.active_react hactive).symm.trans ha)
    refine ⟨?_, fun i hi => ?_, ?_, fun i => ?_, fun i hi => ?_⟩
    · rw [Trace.opens_append, Session.opens_observed]
      simpa [Exchange.call, hcall, Session.asked, Trace.opens, e.session.react_fields r]
        using h.opens
    · rw [Trace.current_append, Session.foldl_follow_observed, hfollow i hi]
      exact h.current id ha
    · refine h.sources.append fun u₁ o u₂ hu source ev ho => ?_
      have hmem : ∀ k ∈ e.session.observed .next, (∃ i p, k = .handed i p) ∨
          ∃ ev, k = .event (some id) ev := by
        intro k hk
        rcases Session.mem_observed hk with hk | hk | ⟨ev, -, rfl⟩
        · cases hk
        · exact .inl hk
        · exact .inr ⟨ev, by rw [hsource]⟩
      -- The event comes last, and nothing before it changes what the owner wants.
      refine ⟨id, ?_, ?_⟩
      · have ho' : Observation.event source ev ∈ e.session.observed .next := by rw [hu, ho]; simp
        rcases hmem _ ho' with ⟨_, _, hk⟩ | ⟨_, hk⟩ <;> cases hk
        rfl
      · rw [Trace.current_append, Trace.foldl_eq_self]
        · exact h.current id ha
        · intro k hk
          have hk : k ∈ e.session.observed .next := by
            rw [hu]
            exact List.mem_append_left _ hk
          rcases hmem k hk with ⟨_, _, rfl⟩ | ⟨_, rfl⟩ <;> rfl
    · -- The event is the next report of its link.
      rw [Trace.eventsOf_append, hevents, reportsOf_call]
      by_cases hi : i = id
      · subst hi
        rw [if_pos rfl, ← hwait]
        exact ⟨_, (List.append_cons ..).symm⟩
      · rw [if_neg hi, List.append_nil]
        exact h.surfaced i
    · obtain rfl := hfollow i hi
      rw [Trace.eventsOf_append, hevents, if_pos rfl, reportsOf_call, ← hwait]
      simp [Exchange.call, hcall, Session.pending]

/-- Every call keeps to it. -/
theorem Heard.call (h : e.Heard t) (hs : e.Spoken t) (hc : e.session.Coherent) (c : Call) :
    (e.call c).Heard (t ++ e.session.observed c) := by
  cases c with
  | next => exact h.next
  | connect target =>
    refine h.quiet rfl ?_ fun id hid => ?_
    · rw [h.opens]
      simp [Session.asked, Trace.opens, Exchange.call, Session.call, Session.connect,
        List.range'_concat, Nat.add_comm]
    · have hid : e.session.lastId + 1 = id := by
        simpa [Exchange.call, Session.call, Session.connect] using hid
      have hnone : t.reportsOf id = [] := hs.unborn id (hid ▸ hc.succ_lastId_not_mem)
      have hevents : t.eventsOf id = [] := by
        have := h.surfaced id
        rw [hnone] at this
        exact List.prefix_nil.mp this
      -- What waits is of links that are older.
      have hwait : (e.call (.connect target)).session.pending id = [] := by
        rw [Session.pending, List.filterMap_eq_nil_iff]
        intro x hx
        have hx : x ∈ e.session.reports := by
          simpa [Exchange.call, Session.call, Session.connect] using hx
        have hle := hc.reports x hx
        exact if_neg fun heq => Nat.not_succ_le_self _ (hid ▸ heq ▸ hle)
      refine ⟨?_, ?_⟩
      · rw [← hid]
        rfl
      · rw [hevents, hwait, hnone]
        rfl
  | send p =>
    obtain ⟨-, hactive, hlast, hreports⟩ := e.session.send_fields p
    refine h.quiet rfl ?_ fun id hid => ?_
    · simpa [Session.asked, Trace.opens, Exchange.call, Session.call, hlast] using h.opens
    · have hid : e.session.active = some id := by
        simpa [Exchange.call, Session.call, hactive] using hid
      refine ⟨h.current id hid, ?_⟩
      simpa [Exchange.call, Session.call, Session.pending, hreports] using h.pending id hid
  | close =>
    obtain ⟨hlast, -⟩ := e.session.close_fields
    refine h.quiet rfl ?_ fun id hid => ?_
    · simpa [Session.asked, Trace.opens, Exchange.call, Session.call, hlast] using h.opens
    · rw [show (e.call .close).session.active = none from hc.active_close] at hid
      cases hid

/-- What tasks report waits behind what waits already. -/
theorem Background.pending (hb : e.Background u e') (id : ConnectionId) :
    e'.session.pending id = e.session.pending id ++ Trace.reportsOf u id := by
  cases hb with
  | @move earlier later l o hlinks hm =>
    rw [reportsOf_moveObserved]
    simp only [Session.pending, afterMove, List.filterMap_append]
    by_cases hid : l.id = id <;> rcases o.2.2 with - | r <;> simp [hid]
  | restrict | drift => simp [Session.pending, Session.modifyLink, onSession, Trace.reportsOf]

theorem Heard.background (h : e.Heard t) (hb : e.Background u e') : e'.Heard (t ++ u) := by
  obtain ⟨-, -, hactive, hlast, -⟩ := hb.session
  have hevents : ∀ id, Trace.eventsOf (t ++ u) id = t.eventsOf id := by
    intro id
    rw [Trace.eventsOf_append, (hb.silent.events_opens id).1, List.append_nil]
  refine ⟨?_, fun id hid => ?_, ?_, fun id => ?_, fun id hid => ?_⟩
  · rw [Trace.opens_append, (hb.silent.events_opens 0).2, List.append_nil, hlast]
    exact h.opens
  · rw [hb.silent.current_append]
    exact h.current id (hactive ▸ hid)
  · refine h.sources.append fun u₁ o u₂ hu source ev ho => ?_
    have hmem : Observation.event source ev ∈ u := by rw [hu, ho]; simp
    rcases hb.silent _ hmem with ⟨_, _, hk⟩ | ⟨_, _, hk⟩ <;> cases hk
  · rw [hevents, Trace.reportsOf_append, List.map_append]
    exact (h.surfaced id).trans (List.prefix_append ..)
  · -- A new report of the followed link waits behind its other reports.
    rw [hevents, hb.pending, Trace.reportsOf_append, List.map_append, List.map_append,
      ← List.append_assoc, h.pending id (hactive ▸ hid)]

theorem Run.heard (h : Run e t) : e.Spoken t ∧ e.Heard t := by
  induction h with
  | start => exact ⟨spoken_start _, heard_start _⟩
  | call c hrun ih =>
    obtain ⟨hs, hh⟩ := ih
    exact ⟨hs.call hrun.coherent c, hh.call hs hrun.coherent c⟩
  | background hrun hb ih =>
    obtain ⟨hs, hh⟩ := ih
    exact ⟨hs.background hrun.coherent hb, hh.background hb⟩

/-- Only the current connection is heard.  In every run, each event was
reported by the task of the connection that was asked for last, and the session
was not closed since.  The events of one connection are the first of what its
task reported, none left out, and these reports are the beginning of a
conversation.  Of the link that is followed, the others are still waiting.
Every connection has a number of its own. -/
theorem inbound_order (h : Run e t) :
    (∀ (t₁ : Trace) source ev t₂, t = t₁ ++ .event source ev :: t₂ →
      ∃ id, source = some id ∧ t₁.current = some id) ∧
    (∀ id, ∃ whole, Conversation whole ∧
      t.eventsOf id <+: (t.reportsOf id).map Report.event ∧
      (t.reportsOf id).map Report.event <+: whole) ∧
    (∀ id, e.session.active = some id →
      t.eventsOf id ++ (e.session.pending id).map Report.event =
        (t.reportsOf id).map Report.event) ∧
    t.opens.map (·.1) = List.range' 1 t.opens.length := by
  obtain ⟨hs, hh⟩ := h.heard
  refine ⟨fun t₁ source ev t₂ heq => hh.sources t₁ _ t₂ heq source ev rfl, fun id => ?_,
    hh.pending, ?_⟩
  · have hbegun : Begun (t.reportsOf id) := by
      by_cases hid : id ∈ e.session.links.map (·.id)
      · obtain ⟨l, hl, rfl⟩ := List.mem_map.mp hid
        exact (hs.said l hl).begun
      · rw [hs.unborn id hid]
        exact begun_nil
    obtain ⟨whole, hwhole, hprefix⟩ := hbegun
    exact ⟨whole, hwhole, hh.surfaced id, hprefix⟩
  · have hlen := congrArg List.length hh.opens
    rw [List.length_map, List.length_range'] at hlen
    rw [hlen]
    exact hh.opens

/-- A report that waited when its connection was superseded is never heard. -/
theorem inbound_order_superseded :
    ∃ e t, Run e t ∧ t.opens = [(1, "x"), (2, "y")] ∧ t.reportsOf 1 = [.opened] ∧
      t.eventsOf 1 = [] ∧ t.reportsOf 2 = [.opened, .frame (.text "z")] ∧
      t.eventsOf 2 = [.opened] ∧ t.eventsOf 2 <+: (t.reportsOf 2).map Report.event := by
  have h₁ := ((Run.start (n := {}) rfl).call (.connect "x")).background
    (@Background.move _ [] [] _ _ rfl (.dial rfl))
  have h₂ := (h₁.call (.connect "y")).background (@Background.move _ [_] [] _ _ rfl (.dial rfl))
  have h₃ := (h₂.background (.drift (Network.drift_deliver _ 1 (.message (.text "z"))))).background
    (@Background.move _ [_] [] _ _ rfl (.absorb rfl rfl))
  have h₄ := h₃.call .next
  obtain ⟨-, hwhole, -, -⟩ := inbound_order h₄
  obtain ⟨whole, -, hsurfaced, -⟩ := hwhole 2
  exact ⟨_, _, h₄, by decide, by decide, by decide, by decide, by decide, hsurfaced⟩

end Exchange

end Provision
