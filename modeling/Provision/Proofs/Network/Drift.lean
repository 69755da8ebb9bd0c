/-
What was written to a peer, and what the far side can change.

The far side may do anything with its end of a connection at any moment, and
so may the transport: send items, fail, stop, make writes fail or succeed
again, plan the next attempts, open gates.  What it cannot do is make or take
away connections, or change what the client has read, written or let go of.
`Drift` is every such change, and each operation of the far side is one.

Of a drift it is not known that a stream that has stopped stays so; those of
which it is are `Orderly`.
-/
import Provision.Network

namespace Provision

/-- The far side's changes to one connection. -/
structure Peer.Drift (p p' : Peer) : Prop where
  target : p'.target = p.target
  inbound : p.inbound <+: p'.inbound
  readCount : p'.readCount = p.readCount
  written : p'.written = p.written
  released : p'.released = p.released

theorem Peer.Drift.refl (p : Peer) : p.Drift p :=
  ⟨rfl, List.prefix_rfl, rfl, rfl, rfl⟩

namespace Network

/-- Everything that the client has written to a peer. -/
def written (n : Network) (peer : Nat) : List Payload :=
  ((n.peers[peer]?).map (·.written)).getD []

/-- The peers that join between `n` and `n'`. -/
def joinedSince (n n' : Network) : List Nat :=
  (List.range n'.peers.length).drop n.peers.length

theorem joinedSince_of_length {n n' : Network} (h : n'.peers.length = n.peers.length) :
    n.joinedSince n' = [] := by
  simp [joinedSince, h]

theorem joinedSince_connect (n : Network) (target : String) :
    n.joinedSince (n.connect target).2 = [n.peers.length] := by
  simp [joinedSince, connect, List.range_succ]

theorem joinedSince_self (n : Network) : n.joinedSince n = [] :=
  joinedSince_of_length rfl

/-- The peers so far, and those that join, are all the peers then. -/
theorem range_append_joinedSince {n n' : Network} (h : n.peers.length ≤ n'.peers.length) :
    List.range n.peers.length ++ n.joinedSince n' = List.range n'.peers.length := by
  have htake : (List.range n'.peers.length).take n.peers.length = List.range n.peers.length := by
    rw [List.take_range, Nat.min_eq_left h]
  rw [joinedSince, ← htake, List.take_append_drop]

/-- The changes that come from outside the client. -/
structure Drift (n n' : Network) : Prop where
  attempts : n'.attempts = n.attempts
  length_peers : n'.peers.length = n.peers.length
  peer : ∀ {i : Nat} {p p' : Peer}, n.peers[i]? = some p → n'.peers[i]? = some p' → p.Drift p'
  length_gates : n.gates.length ≤ n'.gates.length
  gate : ∀ {i : Nat} {g g' : Gate}, n.gates[i]? = some g → n'.gates[i]? = some g' →
    g'.deserted = g.deserted

theorem Drift.written {n n' : Network} (h : n.Drift n') (peer : Nat) :
    n'.written peer = n.written peer := by
  -- The number of peers stays, so `peer` exists in both networks or in neither.
  by_cases hlt : peer < n.peers.length
  · have hlt' : peer < n'.peers.length := h.length_peers ▸ hlt
    have hp := List.getElem?_eq_getElem hlt
    have hp' := List.getElem?_eq_getElem hlt'
    rw [Network.written, Network.written, hp, hp']
    exact (h.peer hp hp').written
  · have hle : n.peers.length ≤ peer := Nat.le_of_not_lt hlt
    rw [Network.written, Network.written, List.getElem?_eq_none hle,
      List.getElem?_eq_none (h.length_peers ▸ hle)]

end Network

/-! ### Streams that stop -/

/-- More may have come in; a stream that has stopped brings no more. -/
structure Peer.Onward (p p' : Peer) : Prop where
  inbound : p.inbound <+: p'.inbound
  left : p.left = true → p'.left = true ∧ p'.inbound = p.inbound

/-- The far side has done nothing to its end of the connection. -/
structure Peer.Unmoved (p p' : Peer) : Prop where
  inbound : p'.inbound = p.inbound
  left : p'.left = p.left

theorem Peer.Unmoved.onward {p p' : Peer} (h : p.Unmoved p') : p.Onward p' :=
  ⟨h.inbound ▸ List.prefix_rfl, fun hl => ⟨h.left ▸ hl, h.inbound⟩⟩

theorem Peer.Onward.refl (p : Peer) : p.Onward p :=
  Unmoved.onward ⟨rfl, rfl⟩

namespace Network

/-- Streams that have stopped stay so. -/
def Orderly (n n' : Network) : Prop :=
  ∀ (i : Nat) (p p' : Peer), n.peers[i]? = some p → n'.peers[i]? = some p' → p.left = true →
    p'.left = true ∧ p'.inbound = p.inbound

/-- While no stream has stopped, nothing can be out of order. -/
theorem orderly_of_open {n : Network} (h : ∀ p ∈ n.peers, p.left = false) (n' : Network) :
    n.Orderly n' := by
  intro i p p' hp _ hl
  rw [h p (List.mem_of_getElem? hp)] at hl
  cases hl

theorem Drift.onward {n n' : Network} (h : n.Drift n') (ho : n.Orderly n') {i : Nat} {p : Peer}
    (hp : n.peers[i]? = some p) :
    ∃ p', n'.peers[i]? = some p' ∧ p.Onward p' ∧ p'.readCount = p.readCount := by
  have hlt : i < n'.peers.length := h.length_peers ▸ (List.getElem?_eq_some_iff.mp hp).1
  have hp' := List.getElem?_eq_getElem hlt
  have hd := h.peer hp hp'
  exact ⟨_, hp', ⟨hd.inbound, ho i p _ hp hp'⟩, hd.readCount⟩

/-! ### The operations of the far side -/

/-- A change of the far side's own notes is a drift. -/
theorem drift_of_peers_gates {n n' : Network} (ha : n'.attempts = n.attempts)
    (hp : n'.peers = n.peers) (hg : n'.gates = n.gates) : n.Drift n' where
  attempts := ha
  length_peers := by rw [hp]
  peer h h' := by
    rw [hp, h] at h'
    exact Option.some.inj h' ▸ Peer.Drift.refl _
  length_gates := by simp [hg]
  gate h h' := by
    rw [hg, h] at h'
    exact Option.some.inj h' ▸ rfl

/-- A change of one peer is a drift, if it is one for the peer. -/
theorem drift_modifyPeer (n : Network) (peer : Nat) {f : Peer → Peer}
    (hf : ∀ p : Peer, p.Drift (f p)) : n.Drift (n.modifyPeer peer f) where
  attempts := rfl
  length_peers := List.length_modify ..
  peer {i p p'} h h' := by
    simp only [modifyPeer, List.getElem?_modify, h, Option.map_eq_map, Option.map_some,
      Option.some.injEq] at h'
    subst h'
    by_cases hi : peer = i
    · simpa [hi] using hf p
    · simpa [hi] using Peer.Drift.refl p
  length_gates := Nat.le_refl _
  gate h h' := by
    rw [show (n.modifyPeer peer f).gates = n.gates from rfl, h] at h'
    exact Option.some.inj h' ▸ rfl

theorem drift_deliver (n : Network) (peer : Nat) (item : Inbound) :
    n.Drift (n.deliver peer item) :=
  n.drift_modifyPeer peer fun _ => ⟨rfl, List.prefix_append .., rfl, rfl, rfl⟩

theorem drift_leave (n : Network) (peer : Nat) : n.Drift (n.leave peer) :=
  n.drift_modifyPeer peer fun _ => ⟨rfl, List.prefix_rfl, rfl, rfl, rfl⟩

theorem drift_collect (n : Network) (peer : Nat) : n.Drift (n.collect peer) :=
  n.drift_modifyPeer peer fun _ => ⟨rfl, List.prefix_rfl, rfl, rfl, rfl⟩

theorem drift_refuse (n : Network) (reason : String) : n.Drift (n.refuse reason) :=
  drift_of_peers_gates rfl rfl rfl

theorem drift_writeFault (n : Network) (fault : Option String) :
    n.Drift { n with writeFault := fault } :=
  drift_of_peers_gates rfl rfl rfl

theorem drift_hold (n : Network) : n.Drift n.hold where
  attempts := rfl
  length_peers := rfl
  peer h h' := by
    rw [show n.hold.peers = n.peers from rfl, h] at h'
    exact Option.some.inj h' ▸ Peer.Drift.refl _
  length_gates := by simp [hold]
  gate {i g g'} h h' := by
    have hlt : i < n.gates.length := (List.getElem?_eq_some_iff.mp h).1
    rw [show n.hold.gates = n.gates ++ [{}] from rfl, List.getElem?_append_left hlt, h] at h'
    exact Option.some.inj h' ▸ rfl

theorem drift_openGate (n : Network) (gate : Nat) (answer : Answer) :
    n.Drift (n.openGate gate answer).2 := by
  rcases hg : n.gates[gate]? with - | g
  · simpa [openGate, hg] using drift_of_peers_gates (n := n) rfl rfl rfl
  · by_cases ha : g.answer.isSome
    · simpa [openGate, hg, ha] using drift_of_peers_gates (n := n) rfl rfl rfl
    · -- Only the answer of the gate is new; whether it was given up stays.
      simp only [openGate, hg, ha]
      refine ⟨rfl, rfl, fun h h' => ?_, by simp, fun {i k k'} h h' => ?_⟩
      · exact Option.some.inj (h.symm.trans h') ▸ Peer.Drift.refl _
      · have hset : (n.gates.set gate { g with answer := some answer })[i]? = some k' := h'
        by_cases hi : gate = i
        · subst hi
          have hlt : gate < n.gates.length := (List.getElem?_eq_some_iff.mp h).1
          rw [List.getElem?_set_self hlt] at hset
          rw [hg] at h
          cases h
          cases hset
          rfl
        · rw [List.getElem?_set_ne hi, h] at hset
          exact Option.some.inj hset ▸ rfl

/-! ### What the client's own steps do to what was written -/

@[simp] theorem length_peers_read (n : Network) (peer : Nat) :
    (n.read peer).peers.length = n.peers.length :=
  List.length_modify ..

@[simp] theorem length_peers_release (n : Network) (peer : Nat) :
    (n.release peer).peers.length = n.peers.length :=
  List.length_modify ..

@[simp] theorem peers_attempt (n : Network) (target : String) :
    (n.attempt target).2.peers = n.peers := by
  rcases h : n.plans with - | ⟨plan, plans⟩ <;> simp [attempt, h]

theorem written_congr {n n' : Network} (h : n'.peers = n.peers) (peer : Nat) :
    n'.written peer = n.written peer := by
  rw [written, written, h]

theorem written_modifyPeer (n : Network) (peer i : Nat) {f : Peer → Peer}
    (hf : ∀ p : Peer, (f p).written = p.written) :
    (n.modifyPeer peer f).written i = n.written i := by
  by_cases hi : peer = i
  · subst hi
    rcases hp : n.peers[peer]? with - | p <;> simp [written, modifyPeer, hp, hf]
  · simp [written, modifyPeer, hi]

@[simp] theorem written_read (n : Network) (peer i : Nat) :
    (n.read peer).written i = n.written i :=
  n.written_modifyPeer peer i fun _ => rfl

@[simp] theorem written_release (n : Network) (peer i : Nat) :
    (n.release peer).written i = n.written i :=
  n.written_modifyPeer peer i fun _ => rfl

/-- A new peer has received nothing. -/
theorem written_length_peers (n : Network) : n.written n.peers.length = [] := by
  rw [written, List.getElem?_eq_none (Nat.le_refl _)]
  rfl

theorem written_connect (n : Network) (target : String) (i : Nat) :
    (n.connect target).2.written i = n.written i := by
  simp only [written, connect]
  -- The new peer is the last one, and has received what a missing one has: nothing.
  rcases Nat.lt_trichotomy i n.peers.length with h | rfl | h
  · rw [List.getElem?_append_left h]
  · simp
  · rw [List.getElem?_eq_none (Nat.le_of_lt h), List.getElem?_eq_none (by simp; omega)]

/-- A write fails by an error of the transport. -/
theorem write_eq_error {n : Network} {peer : Nat} {p : Payload} {error : Error}
    (h : n.write peer p = .error error) : ∃ text, error = .transport text := by
  simp only [write] at h
  split at h
  · exact ⟨_, (Except.error.inj h).symm⟩
  · split at h
    · exact ⟨_, (Except.error.inj h).symm⟩
    · cases h

/-- A write that succeeds reaches a peer that has not left. -/
theorem write_eq_ok {n n' : Network} {peer : Nat} {p : Payload} (h : n.write peer p = .ok n') :
    n.hasLeft peer = false ∧
      n' = n.modifyPeer peer fun q => { q with written := q.written ++ [p] } := by
  simp only [write] at h
  split at h
  · cases h
  · rcases hleft : n.hasLeft peer <;> rw [hleft] at h <;> cases h
    exact ⟨rfl, rfl⟩

/-- A write that succeeds appends to what its peer has, and to nothing else. -/
theorem written_write {n n' : Network} {peer : Nat} {p : Payload}
    (h : n.write peer p = .ok n') :
    n'.peers.length = n.peers.length ∧ n'.written peer = n.written peer ++ [p] ∧
      ∀ i, i ≠ peer → n'.written i = n.written i := by
  obtain ⟨hleft, rfl⟩ := write_eq_ok h
  -- A peer that does not exist counts as one that has left.
  have hlt : peer < n.peers.length := by
    apply Nat.lt_of_not_le
    intro hge
    rw [hasLeft, List.getElem?_eq_none hge] at hleft
    cases hleft
  have hp := List.getElem?_eq_getElem hlt
  refine ⟨List.length_modify .., ?_, fun i hi => ?_⟩
  · simp [written, modifyPeer, hp]
  · simp [written, modifyPeer, Ne.symm hi]

/-! ### What the client's own steps do to what comes in -/

theorem getElem?_modifyPeer {n : Network} {i : Nat} {p : Peer} (hp : n.peers[i]? = some p)
    (peer : Nat) (f : Peer → Peer) :
    (n.modifyPeer peer f).peers[i]? = some (if peer = i then f p else p) := by
  by_cases hi : peer = i <;> simp [modifyPeer, hp, hi]

/-- A change of peers that reads nothing. -/
theorem unmoved_modifyPeer {n : Network} {i : Nat} {p : Peer} (hp : n.peers[i]? = some p)
    (peer : Nat) {f : Peer → Peer} (hf : p.Unmoved (f p) ∧ (f p).readCount = p.readCount) :
    ∃ p', (n.modifyPeer peer f).peers[i]? = some p' ∧ p.Unmoved p' ∧
      p'.readCount = p.readCount := by
  refine ⟨_, getElem?_modifyPeer hp peer f, ?_⟩
  by_cases hi : peer = i
  · rw [if_pos hi]
    exact hf
  · rw [if_neg hi]
    exact ⟨⟨rfl, rfl⟩, rfl⟩

theorem unmoved_release {n : Network} {i : Nat} {p : Peer} (hp : n.peers[i]? = some p)
    (peer : Nat) :
    ∃ p', (n.release peer).peers[i]? = some p' ∧ p.Unmoved p' ∧ p'.readCount = p.readCount :=
  unmoved_modifyPeer hp peer ⟨⟨rfl, rfl⟩, rfl⟩

theorem unmoved_connect {n : Network} {i : Nat} {p : Peer} (hp : n.peers[i]? = some p)
    (target : String) :
    ∃ p', (n.connect target).2.peers[i]? = some p' ∧ p.Unmoved p' ∧
      p'.readCount = p.readCount := by
  refine ⟨p, ?_, ⟨rfl, rfl⟩, rfl⟩
  rw [connect, List.getElem?_append_left (List.getElem?_eq_some_iff.mp hp).1]
  exact hp

/-- A successful write is nothing to read. -/
theorem unmoved_write {n n' : Network} {peer : Nat} {q : Payload} (hw : n.write peer q = .ok n')
    {i : Nat} {p : Peer} (hp : n.peers[i]? = some p) :
    ∃ p', n'.peers[i]? = some p' ∧ p.Unmoved p' ∧ p'.readCount = p.readCount := by
  obtain ⟨-, rfl⟩ := write_eq_ok hw
  exact unmoved_modifyPeer hp peer ⟨⟨rfl, rfl⟩, rfl⟩

end Network

end Provision
