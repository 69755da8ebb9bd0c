/-
The outbound side of a run: order, and at most once.

`Tracked` relates a run to its trace.  Its heart is the balance: what was
handed over, followed by what is queued, is what was submitted except for what
was queued at a close.  Calls keep it because each of them flows
(`Session.Flow`); the background has no part in it and only moves payloads from
the mailbox of a link to the peer of that link.

Main result: `outbound_order`.
-/
import Mathlib.Data.List.Nodup
import Provision.Proofs.Link.Served
import Provision.Proofs.Session.Background

namespace Provision

/-! ### The outbound part of a step's observations -/

namespace Exchange

variable {e e' : Exchange} {t u : Trace}

/-- The peers that join in the background join under the number of a link. -/
theorem Background.joined (hb : e.Background u e') :
    e.network.peers.length ≤ e'.network.peers.length ∧
      u.joined.map (·.2) = e.network.joinedSince e'.network ∧
      ∀ x ∈ u.joined, x.1 ∈ e.session.links.map (·.id) := by
  cases hb with
  | @move earlier later l o hlinks hm =>
    rw [joined_moveObserved]
    refine ⟨hm.length_peers_le, ?_, fun x hx => ?_⟩
    · simp [Function.comp_def, afterMove]
    · obtain ⟨peer, -, rfl⟩ := List.mem_map.mp hx
      simp [hlinks]
  | restrict => exact ⟨Nat.le_refl _, (Network.joinedSince_self _).symm, by simp [Trace.joined]⟩
  | drift hd =>
    exact ⟨Nat.le_of_eq hd.length_peers.symm,
      (Network.joinedSince_of_length hd.length_peers).symm, by simp [Trace.joined]⟩

end Exchange

namespace Session

/-- A close is observed before anything else, with the end of what is on its
way. -/
theorem closed_of_observed {s : Session} {c : Call} {u₁ u₂ : Trace} {lost : List Payload}
    (h : s.observed c = u₁ ++ .closed lost :: u₂) : u₁ = [] ∧ lost <:+ s.outbox.toList := by
  have hmem : Observation.closed lost ∈ s.observed c := by
    rw [h]
    exact List.mem_append_right u₁ List.mem_cons_self
  cases c with
  | connect | send | next => simp [observed, asked] at hmem
  | close =>
    have hobs : s.observed .close = .closed (if s.status = .idle then [] else s.outbox.toList) ::
        (s.handedSince s.close).map (fun x => .handed x.1 x.2) := by
      simp [observed, asked, call]
    rw [hobs] at h
    cases u₁ with
    | nil =>
      obtain ⟨hlost, -⟩ := List.cons.inj h
      cases hlost
      by_cases hidle : s.status = .idle <;> simp [hidle]
    | cons o u₁ =>
      obtain ⟨-, hrest⟩ := List.cons.inj h
      have : Observation.closed lost ∈ (s.handedSince s.close).map (fun x => .handed x.1 x.2) := by
        rw [hrest]
        exact List.mem_append_right u₁ List.mem_cons_self
      simp at this

end Session

/-! ### The balance of a run -/

namespace Exchange

variable {e e' : Exchange} {t u : Trace}

/-- What a run and its trace keep to. -/
structure Tracked (e : Exchange) (t : Trace) : Prop where
  coherent : e.session.Coherent
  /-- What was handed over and what is queued is what was submitted, without
  what was queued at a close. -/
  balance : t.handed.map (·.2) ++ e.session.outbox.toList = t.survivors
  /-- A close takes away the end of what is on its way. -/
  lost : t.Throughout fun t₁ o => ∀ lost, o = .closed lost → lost <:+ t₁.survivors
  handedTo : ∀ id, t.handedTo id = e.session.accepted id
  /-- Every connection came about once. -/
  joined : t.joined.map (·.2) = List.range e.network.peers.length
  owners : ∀ x ∈ t.joined, x.1 ∈ e.session.links.map (·.id)
  served : ∀ l ∈ e.session.links, l.Served e.network (t.joinedBy l.id)

theorem tracked_start {n : Network} (h : n.peers = []) : Tracked { network := n } [] where
  coherent := Session.coherent_empty
  balance := rfl
  lost := Trace.throughout_nil _
  handedTo _ := rfl
  joined := by simp [Trace.joined, h]
  owners := by simp [Trace.joined]
  served := by simp

/-- A peer has joined one link only. -/
theorem Tracked.eq_of_joined (h : e.Tracked t) {i j : ConnectionId} {peer : Nat}
    (hi : (i, peer) ∈ t.joined) (hj : (j, peer) ∈ t.joined) : i = j := by
  have hnodup : (t.joined.map (·.2)).Nodup := h.joined ▸ List.nodup_range
  exact congrArg Prod.fst (List.inj_on_of_nodup_map hnodup hi hj rfl)

theorem Tracked.lt_of_joined (h : e.Tracked t) {id : ConnectionId} {peer : Nat}
    (hj : (id, peer) ∈ t.joined) : peer < e.network.peers.length := by
  have hmem : peer ∈ t.joined.map (·.2) := List.mem_map_of_mem hj
  rw [h.joined] at hmem
  exact List.mem_range.mp hmem

/-- Nobody else is live on a peer that has joined a link. -/
theorem Tracked.id_of_live (h : e.Tracked t) {k l : Link} {peer : Nat}
    (hk : k ∈ e.session.links) (hlive : k.stage = .live peer) (hpeer : peer ∈ t.joinedBy l.id) :
    k.id = l.id := by
  have hself := (h.served k hk).2
  rw [hlive] at hself
  have hmem : peer ∈ t.joinedBy k.id := by rw [hself.1]; exact List.mem_singleton.mpr rfl
  exact h.eq_of_joined (Trace.mem_joinedBy.mp hmem) (Trace.mem_joinedBy.mp hpeer)

/-- No call makes a connection. -/
theorem joinedBy_call (e : Exchange) (t : Trace) (c : Call) (id : ConnectionId) :
    Trace.joinedBy (t ++ e.session.observed c) id = t.joinedBy id := by
  rw [Trace.joinedBy, Trace.joinedBy, Trace.joined_append, Session.joined_observed, List.append_nil]

/-- What a call hands over goes where the call's flow says. -/
theorem handedTo_observed {s : Session} {c : Call} {done : List Payload} (h : s.Coherent)
    (hf : s.Flow (s.call c).1 c done) (id : ConnectionId) :
    Trace.handedTo (s.observed c) id = if s.active = some id then done else [] := by
  rw [Trace.handedTo, Session.handed_observed, hf.handedSince h]
  rcases ha : s.active with - | i
  · simp [hf.done_eq_nil ha]
  · obtain ⟨rfl, -⟩ := h.active_eq ha
    by_cases hid : s.lastId = id <;> simp [hid, List.filter_map, Function.comp_def]

/-- Calls keep the balance. -/
theorem Tracked.call (h : e.Tracked t) (c : Call) :
    (e.call c).Tracked (t ++ e.session.observed c) := by
  obtain ⟨done, hf⟩ := h.coherent.call c
  have hjoin : Trace.joined (t ++ e.session.observed c) = t.joined := by
    rw [Trace.joined_append, Session.joined_observed, List.append_nil]
  refine ⟨hf.coherent, ?_, ?_, fun id => ?_, ?_, fun x hx => ?_, fun l' hl' => ?_⟩
  · -- What was handed over before is out of reach; the queue follows the call's own balance.
    rw [Trace.handed_append, Session.handed_observed, List.map_append,
      hf.handedSince h.coherent, List.map_map, List.append_assoc, Trace.survivors_append,
      Session.foldl_survive_observed, ← h.balance, Session.foldl_survive_asked, ← hf.balance]
    simp [Function.comp_def, Exchange.call]
  · -- What a close takes away is queued, so it is the end of what survived so far.
    refine h.lost.append fun u₁ o u₂ hu lost ho => ?_
    subst ho
    obtain ⟨rfl, hlost⟩ := Session.closed_of_observed hu
    rw [List.append_nil, ← h.balance]
    exact hlost.trans (List.suffix_append ..)
  · rw [Trace.handedTo_append, h.handedTo id, handedTo_observed h.coherent hf]
    exact (hf.accepted id).symm
  · rw [hjoin]
    exact h.joined
  · rw [hjoin] at hx
    exact hf.mem_ids h.coherent (h.owners x hx)
  · rw [joinedBy_call]
    rcases hf.links l' hl' with ⟨l, hl, hspared⟩ | ⟨target, -, rfl⟩
    · rw [hspared.id]
      exact (h.served l hl).mono hspared.stage hspared.taken hspared.accepted fun _ _ => rfl
    · -- The number is new, so nothing has joined under it.
      have hnone : t.joinedBy (e.session.lastId + 1) = [] := by
        rw [List.eq_nil_iff_forall_not_mem]
        intro peer hpeer
        exact h.coherent.succ_lastId_not_mem (h.owners _ (Trace.mem_joinedBy.mp hpeer))
      rw [hnone]
      exact Link.served_new _ _ _

/-- So does the background. -/
theorem Tracked.background (h : e.Tracked t) (hb : e.Background u e') : e'.Tracked (t ++ u) := by
  obtain ⟨-, houtbox, -, -, hids⟩ := hb.session
  have hhanded := hb.silent.handed_eq_nil
  obtain ⟨hle, hjoined, howners⟩ := hb.joined
  refine ⟨hb.coherent h.coherent, ?_, ?_, fun id => ?_, ?_, fun x hx => ?_, fun l' hl' => ?_⟩
  · -- Neither side of the balance changes.
    rw [Trace.handed_append, hhanded, List.append_nil, houtbox, hb.silent.survivors_append]
    exact h.balance
  · refine h.lost.append fun u₁ o u₂ hu lost ho => ?_
    subst ho
    have hmem : Observation.closed lost ∈ u := by rw [hu]; simp
    rcases hb.silent _ hmem with ⟨_, _, hk⟩ | ⟨_, _, hk⟩ <;> cases hk
  · rw [hb.accepted, ← h.handedTo id, Trace.handedTo, Trace.handedTo, Trace.handed_append, hhanded,
      List.append_nil]
  · rw [Trace.joined_append, List.map_append, h.joined, hjoined]
    exact Network.range_append_joinedSince hle
  · rw [Trace.joined_append] at hx
    rw [hids]
    rcases List.mem_append.mp hx with hx | hx
    · exact h.owners x hx
    · exact howners x hx
  · -- Only a link that moves gets something written, to its own peer.
    rw [Trace.joinedBy_append]
    rcases hb.link_cases h.coherent hl' with
      ⟨l, hl, o, hm, rfl, hnetwork, rfl⟩ | ⟨l, hl, hstays, huntouched⟩
    · rw [hm.kept.id, joinedBy_moveObserved, if_pos rfl, hnetwork]
      exact hm.served (h.served l hl)
    · -- No other task is live on a peer of `l`, as the peer would have joined both.
      rw [hstays.id, huntouched.joinedBy, List.append_nil]
      refine (h.served l hl).mono hstays.stage hstays.taken ?_ fun peer hpeer => ?_
      · exact hstays.accepted ▸ List.prefix_rfl
      · exact huntouched.written peer fun k hk hlive => h.id_of_live hk hlive hpeer

theorem Run.tracked (h : Run e t) : e.Tracked t := by
  induction h with
  | start hn => exact tracked_start hn
  | call c _ ih => exact ih.call c
  | background _ hb ih => exact ih.background hb

/-- A connection that came about has one peer, and the peer has received the
beginning of what the mailbox accepted. -/
theorem Tracked.received (h : e.Tracked t) {id : ConnectionId} {peer : Nat}
    (hp : (id, peer) ∈ t.joined) :
    t.joinedBy id = [peer] ∧ e.network.written peer <+: e.session.accepted id := by
  obtain ⟨l, hl, rfl⟩ := List.mem_map.mp (h.owners _ hp)
  have hserved := h.served l hl
  have hmem := Trace.mem_joinedBy.mpr hp
  constructor
  · obtain ⟨q, hq⟩ := List.length_eq_one_iff.mp
      (Nat.le_antisymm hserved.length_le (List.length_pos_of_mem hmem))
    rw [hq] at hmem ⊢
    rw [List.mem_singleton.mp hmem]
  · rw [h.coherent.accepted_eq hl]
    exact hserved.written_prefix hmem

/-- Order and at most once.  In every run, what was handed over, in the order
of the hand-overs and over all connections, followed by what is queued, is what
was submitted without what was queued at a close.  So it is a sublist of what
was submitted: no payload is handed over twice, and none overtakes another.
While the session is open, payloads are queued only if the task has let go.
Each connection has one peer at most, no two share one, and a peer has received
the beginning of what was handed to its connection. -/
theorem outbound_order (h : Run e t) :
    t.handed.map (·.2) ++ e.session.outbox.toList = t.survivors ∧
    (∀ (t₁ : Trace) lost t₂, t = t₁ ++ .closed lost :: t₂ → lost <:+ t₁.survivors) ∧
    (t.handed.map (·.2) ++ e.session.outbox.toList).Sublist t.sent ∧
    (e.session.status = .opened → e.session.outbox.toList ≠ [] →
      ∃ l, e.session.activeLink? = some l ∧ l.mailbox.isAbandoned = true) ∧
    t.joined.map (·.2) = List.range e.network.peers.length ∧
    ∀ id peer, (id, peer) ∈ t.joined →
      t.joinedBy id = [peer] ∧ e.network.written peer <+: t.handedTo id := by
  have ht := h.tracked
  refine ⟨ht.balance, ?_, ?_, ht.coherent.exists_abandoned, ht.joined, fun id peer hpeer => ?_⟩
  · intro t₁ lost t₂ heq
    exact ht.lost t₁ _ t₂ heq lost rfl
  · rw [ht.balance]
    exact t.survivors_sublist
  · rw [ht.handedTo]
    exact ht.received hpeer

/-- What is queued across a superseded connection goes to the next one.  What
is queued behind it is lost, as its task lets go before the session is closed. -/
theorem outbound_order_superseded :
    ∃ e t, Run e t ∧ t.sent = [.text "a", .text "b"] ∧ t.handed = [(2, .text "a")] ∧
      t.survivors = [.text "a"] ∧ t.joined = [(2, 0)] ∧ e.network.written 0 = [.text "a"] ∧
      t.handed.map (·.2) ++ e.session.outbox.toList = t.survivors ∧
      e.network.written 0 <+: t.handedTo 2 := by
  have h₁ := (((Run.start (n := {}) rfl).call (.send (.text "a"))).call
    (.connect "x")).call (.connect "y")
  have h₂ := h₁.background (@Background.move _ [_] [] _ _ rfl (.dial rfl))
  have h₃ := ((h₂.call (.send (.text "b"))).background (.restrict 2 1)).call .next
  have h₄ := (h₃.call .close).background (@Background.move _ [_] [] _ _ rfl (.transmit rfl rfl))
  obtain ⟨hbalance, -, -, -, -, hpeers⟩ := outbound_order h₄
  exact ⟨_, _, h₄, by decide, by decide, by decide, by decide, by decide, hbalance,
    (hpeers 2 0 (by decide)).2⟩

end Exchange

end Provision
