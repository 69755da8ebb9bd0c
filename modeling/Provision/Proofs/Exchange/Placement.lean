/-
When the connection opens makes no difference to what is delivered.

Payloads are queued until the session hears that its connection has opened, and
handed over at once from then on.  So a run in which only the last connection
is ever heard to open (`Undisturbed`) hands everything to that one, wherever
among the submissions it was asked for and wherever its opening was heard; and
if its transport holds (`RunOn`, `Network.Sound`), its peer receives all of it.
The tasks disturb nothing of this while they come to rest (`Undisturbed.settle`).

Main result: `delivered_whole`.
-/
import Provision.Proofs.Exchange.Conservation
import Provision.Proofs.Exchange.Settle
import Provision.Proofs.Exchange.Sound

namespace Provision

namespace Trace

variable {t u : Trace} {id : ConnectionId}

/-- The links that were heard to open. -/
def openings (t : Trace) : List (Option ConnectionId) :=
  t.filterMap fun | .event source .opened => some source | _ => none

@[simp] theorem openings_append (t u : Trace) : openings (t ++ u) = openings t ++ openings u :=
  List.filterMap_append ..

theorem mem_openings {source : Option ConnectionId} :
    source ∈ t.openings ↔ .event source .opened ∈ t := by
  rw [openings, List.mem_filterMap]
  constructor
  · rintro ⟨o, ho, hsource⟩
    cases o with
    | event i ev => cases ev <;> simp_all
    | opened | sent | handed | closed | reported | joined => cases hsource
  · intro h
    exact ⟨_, h, rfl⟩

/-- Without a close, everything that was submitted survives. -/
theorem survivors_of_unclosed (h : t.closes = []) : t.survivors = t.sent := by
  induction t using List.reverseRecOn with
  | nil => rfl
  | append_singleton t o ih =>
    rw [closes_append, List.append_eq_nil_iff] at h
    rw [survivors_append, ih h.1]
    cases o with
    | closed lost => cases h.2
    | sent p => simp [survive, sent]
    | opened | handed | event | reported | joined => simp [survive, sent]

/-- A connection is wanted until the next one is asked for. -/
theorem current_of_last {target : String} (hopens : u.opens = []) (hcloses : u.closes = []) :
    current (t ++ .opened id target :: u) = some id := by
  rw [current_append, List.foldl_cons]
  refine foldl_eq_self fun o ho => ?_
  cases o with
  | opened i target => cases List.filterMap_eq_nil_iff.mp hopens _ ho
  | closed lost => cases List.filterMap_eq_nil_iff.mp hcloses _ ho
  | sent | handed | event | reported | joined => rfl

end Trace

/-- Every conversation has an end. -/
theorem Conversation.exists_closed {whole : List Event} (h : Conversation whole) :
    ∃ info, Event.closed info ∈ whole := by
  cases h with
  | refused _ info | ended _ info | broken _ _ info => exact ⟨info, by simp⟩

namespace Exchange

variable {e e' : Exchange} {t u : Trace} {id : ConnectionId} {peer : Nat}

/-! ### Delivery -/

/-- A run in which connections are asked for at any points and none is closed; the
last one is accepted, its transport neither fails nor ends, and it is the only one
whose opening is heard. -/
structure Undisturbed (e : Exchange) (t : Trace) (id : ConnectionId) (peer : Nat) : Prop where
  run : RunOn (Network.Sound peer) e t
  /-- A task lets go of its mailbox by ending only. -/
  letGo : ∀ l ∈ e.session.links, l.mailbox.isAbandoned = true → l.stage = .finished
  unclosed : t.closes = []
  joined : (id, peer) ∈ t.joined
  last : ∃ before target after, t = before ++ .opened id target :: after ∧
    Trace.opens after = [] ∧ Trace.openings before = [] ∧ Trace.openings after ≠ []

namespace Undisturbed

/-- Whatever opening is heard, it is that of the last connection. -/
theorem source_eq (h : Undisturbed e t id peer) {source : Option ConnectionId}
    (hmem : source ∈ t.openings) : source = some id := by
  obtain ⟨before, target, after, rfl, hopens, hbefore, -⟩ := h.last
  rw [Trace.openings_append, hbefore, List.nil_append] at hmem
  have hmem : .event source .opened ∈ after := Trace.mem_openings.mp hmem
  obtain ⟨after₁, after₂, rfl⟩ := List.append_of_mem hmem
  -- At that point of the run, the last connection is the one that is wanted.
  have hcurrent : Trace.current (before ++ .opened id target :: after₁) = some id := by
    rw [Trace.opens_append, List.append_eq_nil_iff] at hopens
    have hcloses := h.unclosed
    rw [Trace.closes_append, List.append_eq_nil_iff] at hcloses
    exact Trace.current_of_last hopens.1
      (List.append_eq_nil_iff.mp ((Trace.closes_append after₁ _).symm.trans hcloses.2)).1
  obtain ⟨i, rfl, hi⟩ := h.run.run.heard.2.sources (before ++ .opened id target :: after₁) _ after₂
    (by simp) source .opened rfl
  exact hi.symm.trans hcurrent

theorem heard_opened (h : Undisturbed e t id peer) : .opened ∈ t.eventsOf id := by
  obtain ⟨before, target, after, ht, -, -, hne⟩ := h.last
  obtain ⟨source, hsource⟩ := List.exists_mem_of_ne_nil _ hne
  have hmem : source ∈ t.openings := by
    rw [ht, Trace.openings_append]
    exact List.mem_append_right _ hsource
  have hopened := Trace.mem_openings.mp hmem
  rw [h.source_eq hmem] at hopened
  exact Trace.mem_eventsOf.mpr hopened

theorem lastId_eq (h : Undisturbed e t id peer) : e.session.lastId = id := by
  obtain ⟨before, target, after, rfl, hopens, -⟩ := h.last
  -- The numbers of the connections are those from one on, and `id` is the last of them.
  have hids := h.run.run.heard.2.opens
  rw [show before ++ .opened id target :: after = before ++ [.opened id target] ++ after by simp,
    Trace.opens_append, Trace.opens_append, hopens, List.append_nil, List.map_append] at hids
  rcases hlast : e.session.lastId with - | last
  · rw [hlast] at hids
    simp [Trace.opens] at hids
  · rw [hlast, List.range'_concat] at hids
    have hid : [id] = [1 + 1 * last] := (List.append_inj' hids rfl).2
    rw [List.singleton_inj.mp hid, Nat.one_mul, Nat.add_comm]

/-- The task of the last connection. -/
theorem exists_link (h : Undisturbed e t id peer) : ∃ l ∈ e.session.links, l.id = id :=
  List.mem_map.mp (h.run.run.tracked.owners _ h.joined)

/-- It has not come to its end. -/
theorem unended (h : Undisturbed e t id peer) (info : CloseInfo) :
    Report.ended info ∉ t.reportsOf id := by
  obtain ⟨l, hl, rfl⟩ := h.exists_link
  have hopened := h.run.run.heard.2.mem_reportsOf (r := .opened) h.heard_opened
  intro hended
  exact h.run.unbroken l hl (Trace.mem_joinedBy.mpr h.joined) (List.mem_append_left _ hopened) info
    (List.mem_append_left _ hended)

theorem opened (h : Undisturbed e t id peer) : e.session.status = .opened := by
  apply h.run.run.opening.lasts
  rw [h.lastId_eq]
  refine ⟨h.heard_opened, h.unclosed, fun info hclosed => ?_⟩
  exact h.unended info (h.run.run.heard.2.mem_reportsOf (r := .ended info) hclosed)

theorem active (h : Undisturbed e t id peer) : e.session.active = some id := by
  have ha := h.run.run.coherent.active_of_running (.inr h.opened)
  rwa [h.lastId_eq] at ha

/-- A task that has ended while it is followed has told its end. -/
theorem not_finished (h : Undisturbed e t id peer) {l : Link} (hl : l ∈ e.session.links)
    (hid : l.id = id) : l.stage ≠ .finished := by
  intro hfin
  have hwhole := h.run.run.concluded.concluded l hl (by rw [hid, h.active]) hfin
  obtain ⟨info, hmem⟩ := hwhole.exists_closed
  obtain ⟨r, hr, hevent⟩ := List.mem_map.mp hmem
  have : r = .ended info := Report.event_injective hevent
  subst this
  exact h.unended info (hid ▸ hr)

/-- At rest it is live on its peer, and has written everything. -/
theorem live (h : Undisturbed e t id peer) (hquiet : e.Quiet) {l : Link}
    (hl : l ∈ e.session.links) (hid : l.id = id) :
    l.stage = .live peer ∧ l.mailbox.waiting = [] := by
  have hjoined : t.joinedBy l.id = [peer] := hid ▸ (h.run.run.tracked.received h.joined).1
  obtain ⟨-, hserved⟩ := h.run.run.tracked.served l hl
  rw [hjoined] at hserved
  rcases Link.still_cases (hquiet l hl) with hfin | ⟨gate, hgate, -⟩ | ⟨i, hlive, -, -, -, hw⟩
  · exact absurd hfin (h.not_finished hl hid)
  · rw [hgate] at hserved
    cases hserved.1
  · rw [hlive] at hserved
    cases hserved.1
    exact ⟨hlive, hw⟩

/-- Nothing is handed to any other. -/
theorem accepted_eq_nil (h : Undisturbed e t id peer) {i : ConnectionId} (hne : i ≠ id) :
    e.session.accepted i = [] := by
  by_contra hacc
  have hopened := h.run.run.opening.handed i hacc
  have hmem := Trace.mem_openings.mpr (Trace.mem_eventsOf.mp hopened)
  exact hne (Option.some.inj (h.source_eq hmem))

/-- As the task listens, nothing is left in the queue. -/
theorem outbox_eq_nil (h : Undisturbed e t id peer) : e.session.outbox.toList = [] := by
  by_contra hout
  obtain ⟨l, hactive, hab⟩ := h.run.run.coherent.exists_abandoned h.opened hout
  obtain ⟨ha, hlink⟩ := Session.link?_of_activeLink? hactive
  have hl := Session.mem_of_link? hlink
  have hid : l.id = id := Option.some.inj (ha.symm.trans h.active)
  exact h.not_finished hl hid (h.letGo l hl hab)

/-- So the last connection is handed everything. -/
theorem accepted_eq (h : Undisturbed e t id peer) : e.session.accepted id = t.sent := by
  have ht := h.run.run.tracked
  have hown : ∀ x ∈ t.handed, x.1 = id := by
    intro x hx
    by_contra hne
    have hnone : t.handedTo x.1 = [] := by rw [ht.handedTo, h.accepted_eq_nil hne]
    rw [Trace.handedTo, List.map_eq_nil_iff] at hnone
    exact List.not_mem_nil (hnone ▸ List.mem_filter.mpr ⟨hx, by simp⟩)
  have hall : t.handedTo id = t.handed.map (·.2) := by
    rw [Trace.handedTo, List.filter_eq_self.mpr fun x hx => by simp [hown x hx]]
  have hbalance := ht.balance
  rw [h.outbox_eq_nil, List.append_nil, Trace.survivors_of_unclosed h.unclosed] at hbalance
  rw [← ht.handedTo, hall, hbalance]

theorem written_eq (h : Undisturbed e t id peer) (hquiet : e.Quiet) :
    e.network.written peer = t.sent := by
  obtain ⟨l, hl, rfl⟩ := h.exists_link
  have ht := h.run.run.tracked
  obtain ⟨hlive, hw⟩ := h.live hquiet hl rfl
  have htaken : l.mailbox.accepted.take l.mailbox.taken = l.mailbox.accepted := by
    have := List.take_append_drop l.mailbox.taken l.mailbox.accepted
    rwa [show l.mailbox.accepted.drop l.mailbox.taken = [] from hw, List.append_nil] at this
  obtain ⟨-, hserved⟩ := ht.served l hl
  rw [hlive] at hserved
  rw [hserved.2, htaken, ← ht.coherent.accepted_eq hl, h.accepted_eq]

theorem written_eq_nil (h : Undisturbed e t id peer) {other : Nat} (hne : other ≠ peer) :
    e.network.written other = [] := by
  have ht := h.run.run.tracked
  by_cases hlt : other < e.network.peers.length
  · have hmem : other ∈ t.joined.map (·.2) := by rw [ht.joined]; exact List.mem_range.mpr hlt
    obtain ⟨⟨i, j⟩, hj, rfl⟩ := List.mem_map.mp hmem
    obtain ⟨hjoined, hwritten⟩ := ht.received hj
    have hi : i ≠ id := by
      rintro rfl
      rw [(ht.received h.joined).1] at hjoined
      exact hne (List.singleton_inj.mp hjoined).symm
    rw [h.accepted_eq_nil hi] at hwritten
    exact List.prefix_nil.mp hwritten
  · rw [Network.written, List.getElem?_eq_none (Nat.le_of_not_lt hlt)]
    rfl

theorem received_eq (h : Undisturbed e t id peer) (hquiet : e.Quiet) : e.received = t.sent := by
  have hmem : peer ∈ List.range e.network.peers.length :=
    List.mem_range.mpr (h.run.run.tracked.lt_of_joined h.joined)
  rw [received, Session.flatMap_eq_of_unique List.nodup_range hmem fun i hi => h.written_eq_nil hi,
    h.written_eq hquiet]

/-! ### Coming to rest -/

/-- A move lets go of no mailbox but by an end. -/
theorem letGo_move (h : Undisturbed e t id peer) {earlier later : List Link} {l : Link}
    {o : Link.Outcome} (hlinks : e.session.links = earlier ++ l :: later)
    (hm : l.Move e.network o) :
    ∀ k ∈ earlier ++ o.1 :: later, k.mailbox.isAbandoned = true → k.stage = .finished := by
  have hletGo := h.letGo
  rw [hlinks] at hletGo
  intro k hk hab
  rcases List.mem_append.mp hk with hk | hk
  · exact hletGo k (List.mem_append_left _ hk) hab
  · rcases List.mem_cons.mp hk with rfl | hk
    · refine hm.finished_of_abandoned ?_ hab
      by_contra hnot
      exact hm.not_finished (hletGo l (by simp) (by simpa using hnot))
    · exact hletGo k (List.mem_append_right _ (List.mem_cons_of_mem l hk)) hab

/-- The tasks disturb nothing. -/
theorem move (h : Undisturbed e t id peer) {earlier later : List Link} {l : Link}
    {o : Link.Outcome} (hlinks : e.session.links = earlier ++ l :: later)
    (hm : l.Move e.network o) :
    Undisturbed (e.afterMove earlier later l.id o) (t ++ e.moveObserved l.id o) id peer := by
  have hsilent := e.silent_moveObserved l.id o
  have hsound := hm.sound (h.run.run.tracked.lt_of_joined h.joined) h.run.allowed
  refine ⟨h.run.background (.move hlinks hm) hsound, h.letGo_move hlinks hm, ?_, ?_, ?_⟩
  · rw [Trace.closes_append, h.unclosed]
    exact hsilent.filterMap_eq_nil (fun _ _ => rfl) fun _ _ => rfl
  · rw [Trace.joined_append]
    exact List.mem_append_left _ h.joined
  · obtain ⟨before, target, after, rfl, hopens, hbefore, hafter⟩ := h.last
    refine ⟨before, target, after ++ e.moveObserved l.id o, by simp, ?_, hbefore, ?_⟩
    · rw [Trace.opens_append, hopens, (hsilent.events_opens id).2, List.append_nil]
    · rw [Trace.openings_append]
      simp [hafter]

/-- Left to themselves, the tasks come to rest. -/
theorem settle (h : Undisturbed e t id peer) :
    ∃ u, Undisturbed e.settle (t ++ u) id peer ∧ (t ++ u).sent = t.sent := by
  refine settle_induction (P := fun e' t' => Undisturbed e' t' id peer ∧ t'.sent = t.sent) ?_
    ⟨h, rfl⟩
  intro e' t' earlier later l o h' hlinks hm
  refine ⟨h'.1.move hlinks hm, ?_⟩
  have hsent : Trace.sent (e'.moveObserved l.id o) = [] :=
    (e'.silent_moveObserved l.id o).filterMap_eq_nil (fun _ _ => rfl) fun _ _ => rfl
  rw [Trace.sent_append, hsent, List.append_nil, h'.2]

end Undisturbed

/-- Delivery does not depend on when the connection opens.  In every run, wherever in
it connections were asked for and openings were heard, if no opening was heard before the
last connection was asked for, that one is accepted and heard to open, its
transport holds and nothing was closed: the tasks come to rest, and once none can
move, the peer of the last connection has received everything that was submitted,
in order, no other peer has received anything, and the queue is empty.  So of two
such runs with the same submissions, the far side receives the same. -/
theorem delivered_whole (h : Undisturbed e t id peer) :
    (∃ u, Undisturbed e.settle (t ++ u) id peer ∧ (t ++ u).sent = t.sent ∧ e.settle.Quiet) ∧
    (e.Quiet →
      e.network.written peer = t.sent ∧
      (∀ other, other ≠ peer → e.network.written other = []) ∧
      e.session.outbox.toList = [] ∧
      ∀ {e' : Exchange} {t' : Trace} {id' : ConnectionId} {peer' : Nat},
        Undisturbed e' t' id' peer' → e'.Quiet → t'.sent = t.sent →
          e'.network.written peer' = e.network.written peer ∧ e'.received = e.received) := by
  constructor
  · obtain ⟨u, hu, hsent⟩ := h.settle
    exact ⟨u, hu, hsent, e.quiet_settle⟩
  · intro hquiet
    refine ⟨h.written_eq hquiet, fun other hne => h.written_eq_nil hne, h.outbox_eq_nil, ?_⟩
    intro e' t' id' peer' h' hquiet' hsent
    constructor
    · rw [h'.written_eq hquiet', h.written_eq hquiet, hsent]
    · rw [h'.received_eq hquiet', h.received_eq hquiet, hsent]

/-- Two schedules of three submissions.  In the first, an accepted connection is
superseded in the middle and the opening is heard before the last of them; in
the second, there is one connection, heard to open before all of them. -/
theorem delivered_whole_superseded :
    ∃ e t e' t', Undisturbed e t 2 1 ∧ Undisturbed e' t' 1 0 ∧
      t.sent = [.text "a", .text "b", .text "c"] ∧ t'.sent = t.sent ∧
      e.network.written 1 = t.sent ∧ e.network.written 0 = [] ∧
      e.session.outbox.toList = [] ∧ e'.network.written 0 = e.network.written 1 ∧
      e'.received = e.received := by
  have hsound : ∀ {i : Nat} {n : Network}, n.writeFault = none →
      (∀ p ∈ n.peers, p.left = false ∧ p.inbound = []) → n.Sound i := by
    intro i n hfault hpeers p hp
    obtain ⟨hleft, hinbound⟩ := hpeers p (List.mem_of_getElem? hp)
    exact ⟨hfault, hleft, by simp [hinbound]⟩
  have hsplit : ∀ {t : Trace} {o : Observation} (i : Nat), t[i]? = some o →
      t = t.take i ++ o :: t.drop (i + 1) := by
    intro t o i ho
    obtain ⟨hlt, rfl⟩ := List.getElem?_eq_some_iff.mp ho
    rw [← List.drop_eq_getElem_cons hlt, List.take_append_drop]
  have h₁ := ((RunOn.start (P := Network.Sound 1) (n := {}) rfl (hsound rfl (by decide))).call
    (.send (.text "a"))).call (.connect "x")
  have h₂ := ((h₁.background (@Background.move _ [] [] _ _ rfl (.dial rfl))
    (hsound rfl (by decide))).call (.send (.text "b"))).call (.connect "y")
  have h₃ := h₂.background (@Background.move _ [_] [] _ _ rfl (.dial rfl)) (hsound rfl (by decide))
  have h₄ := (h₃.call .next).background (@Background.move _ [] [_] _ _ rfl (.leave rfl rfl))
    (hsound rfl (by decide))
  have h₅ := h₄.background (@Background.move _ [_] [] _ _ rfl (.transmit rfl rfl))
    (hsound rfl (by decide))
  have h₆ := (h₅.call (.send (.text "c"))).background
    (@Background.move _ [_] [] _ _ rfl (.transmit rfl rfl)) (hsound rfl (by decide))
  have h₇ := h₆.background (@Background.move _ [_] [] _ _ rfl (.transmit rfl rfl))
    (hsound rfl (by decide))
  have h : Undisturbed _ _ 2 1 :=
    ⟨h₇, by decide, by decide, by decide,
      _, _, _, hsplit 5 rfl, by decide, by decide, by decide⟩
  have k₁ := (RunOn.start (P := Network.Sound 0) (n := {}) rfl (hsound rfl (by decide))).call
    (.connect "x")
  have k₂ := ((((k₁.background (@Background.move _ [] [] _ _ rfl (.dial rfl))
    (hsound rfl (by decide))).call .next).call (.send (.text "a"))).call (.send (.text "b"))).call
    (.send (.text "c"))
  have k₃ := k₂.background (@Background.move _ [] [] _ _ rfl (.transmit rfl rfl))
    (hsound rfl (by decide))
  have k₄ := (k₃.background (@Background.move _ [] [] _ _ rfl (.transmit rfl rfl))
    (hsound rfl (by decide))).background (@Background.move _ [] [] _ _ rfl (.transmit rfl rfl))
    (hsound rfl (by decide))
  have k : Undisturbed _ _ 1 0 :=
    ⟨k₄, by decide, by decide, by decide,
      _, _, _, hsplit 0 rfl, by decide, by decide, by decide⟩
  obtain ⟨-, hrest⟩ := delivered_whole h
  obtain ⟨hwritten, hothers, hqueue, hsame⟩ := hrest (step?_eq_none_iff.mp rfl)
  obtain ⟨hpeer, hreceived⟩ := hsame k (step?_eq_none_iff.mp rfl) (by decide)
  exact ⟨_, _, _, _, h, k, by decide, by decide, hwritten, hothers 0 (by decide), hqueue, hpeer,
    hreceived⟩

end Exchange

end Provision
