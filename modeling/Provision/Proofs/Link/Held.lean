/-
Which peers the client has not let go of.

A peer joins when an attempt is answered, and stays attached until the task of
its link lets go of it, which is the last thing that the task does.  So after
a move of a task a peer that is attached is one that the task holds, or one
that it did not hold before either (`Move.attached`).
-/
import Provision.Proofs.Link.Move
import Provision.Proofs.Network.Drift

namespace Provision

namespace Network

variable {n n' : Network} {i : Nat}

/-- The client has not let go of the connection to a peer. -/
def Attached (n : Network) (i : Nat) : Prop :=
  ∃ p, n.peers[i]? = some p ∧ p.released = false

theorem Attached.congr (h : n'.Attached i) (hp : n'.peers = n.peers) : n.Attached i := by
  rw [Attached, ← hp]
  exact h

theorem Attached.of_modifyPeer {peer : Nat} {f : Peer → Peer}
    (h : (n.modifyPeer peer f).Attached i) (hf : ∀ p : Peer, (f p).released = p.released) :
    n.Attached i := by
  obtain ⟨p', hp', hr⟩ := h
  rcases hp : n.peers[i]? with - | p
  · simp [modifyPeer, List.getElem?_modify, hp] at hp'
  · rw [getElem?_modifyPeer hp] at hp'
    refine ⟨p, hp, ?_⟩
    rw [← hr, ← Option.some.inj hp']
    by_cases hi : peer = i <;> simp [hi, hf]

/-- Nobody is attached whom the client has let go of. -/
theorem Attached.of_release {peer : Nat} (h : (n.release peer).Attached i) :
    i ≠ peer ∧ n.Attached i := by
  obtain ⟨p', hp', hr⟩ := h
  rcases hp : n.peers[i]? with - | p
  · simp [release, modifyPeer, List.getElem?_modify, hp] at hp'
  · rw [release, getElem?_modifyPeer hp] at hp'
    cases Option.some.inj hp'
    by_cases hi : peer = i
    · rw [if_pos hi] at hr
      cases hr
    · rw [if_neg hi] at hr
      exact ⟨Ne.symm hi, p, hp, hr⟩

theorem Attached.of_connect {target : String} (h : (n.connect target).2.Attached i) :
    i = n.peers.length ∨ n.Attached i := by
  obtain ⟨p', hp', hr⟩ := h
  rcases Nat.lt_or_ge i n.peers.length with hi | hi
  · rw [connect, List.getElem?_append_left hi] at hp'
    exact .inr ⟨p', hp', hr⟩
  · have hlt := (List.getElem?_eq_some_iff.mp hp').1
    simp only [connect, List.length_append, List.length_singleton] at hlt
    exact .inl (by omega)

theorem Attached.of_write {peer : Nat} {p : Payload} (h : n'.Attached i)
    (hw : n.write peer p = .ok n') : n.Attached i := by
  obtain ⟨-, rfl⟩ := write_eq_ok hw
  exact h.of_modifyPeer fun _ => rfl

theorem Drift.attached (hd : n.Drift n') (h : n'.Attached i) : n.Attached i := by
  obtain ⟨p', hp', hr⟩ := h
  have hlt : i < n.peers.length := hd.length_peers ▸ (List.getElem?_eq_some_iff.mp hp').1
  have hp := List.getElem?_eq_getElem hlt
  exact ⟨_, hp, (hd.peer hp hp').released ▸ hr⟩

end Network

namespace Link

variable {l l' : Link} {n : Network} {o : Link.Outcome} {i : Nat}

/-- The task of a link is connected to a peer, or still has to let go of it. -/
def Holds (l : Link) (i : Nat) : Prop :=
  l.stage = .live i ∨ ∃ unsaid, l.stage = .ending (some i) unsaid

theorem Holds.congr (h : l.Holds i) (hs : l'.stage = l.stage) : l'.Holds i := by
  rw [Holds, hs]
  exact h

theorem not_holds_of_dialing (hs : l.stage = .dialing) : ¬ l.Holds i := by
  simp [Holds, hs]

theorem not_holds_of_waiting {gate : Nat} (hs : l.stage = .waiting gate) : ¬ l.Holds i := by
  simp [Holds, hs]

theorem eq_of_holds_live {peer : Nat} (hs : l.stage = .live peer) (h : l.Holds i) : i = peer := by
  simpa [Holds, hs, eq_comm] using h

/-- A task that breaks off has not let go of its peer yet. -/
theorem holds_breakOff (l : Link) (i : Nat) (unsaid : List Report) :
    (l.breakOff (some i) unsaid).Holds i :=
  .inr ⟨unsaid, rfl⟩

/-- An answer attaches the new peer of the link, if any. -/
theorem attached_hear {answer : Answer} (h : (l.hear n answer).2.1.Attached i) :
    (l.hear n answer).1.Holds i ∨ n.Attached i := by
  cases answer with
  | accept =>
    rcases Network.Attached.of_connect h with rfl | h
    · exact .inl (.inl rfl)
    · exact .inr h
  | refuse reason => exact .inr h

/-- Of a live connection, the task holds the peer; the others are not its own. -/
theorem attached_live {peer : Nat} (hs : l.stage = .live peer) (hn : n.Attached i)
    (hown : l'.Holds peer) : l'.Holds i ∨ ¬ l.Holds i ∧ n.Attached i := by
  by_cases hi : i = peer
  · exact .inl (hi ▸ hown)
  · exact .inr ⟨fun hholds => hi (eq_of_holds_live hs hholds), hn⟩

theorem Move.attached (hm : l.Move n o) (h : o.2.1.Attached i) :
    o.1.Holds i ∨ ¬ l.Holds i ∧ n.Attached i := by
  have hpeers := Network.peers_attempt n l.target
  cases hm with
  | dial hs =>
    rcases ha : n.attempt l.target with ⟨answer | gate, n'⟩ <;> rw [ha] at hpeers <;>
      simp only [Link.dial, ha] at h ⊢
    · rcases attached_hear h with hholds | hn
      · exact .inl hholds
      · exact .inr ⟨not_holds_of_dialing hs, hn.congr hpeers⟩
    · exact .inr ⟨not_holds_of_dialing hs, h.congr hpeers⟩
  | dialInVain hs =>
    refine .inr ⟨not_holds_of_dialing hs, ?_⟩
    rcases ha : n.attempt l.target with ⟨answer | gate, n'⟩ <;> rw [ha] at hpeers <;>
      simp only [Link.dialInVain, Link.desert, ha] at h
    · exact h.congr hpeers
    · have hsame : (n'.desert gate).peers = n.peers := hpeers
      exact h.congr hsame
  | answered hs =>
    rcases attached_hear h with hholds | hn
    · exact .inl hholds
    · exact .inr ⟨not_holds_of_waiting hs, hn⟩
  | desert hs => exact .inr ⟨not_holds_of_waiting hs, h⟩
  | @absorb peer item _ hs =>
    cases item with
    | message p => exact attached_live hs (h.of_modifyPeer fun _ => rfl) (.inl hs)
    | close | failure =>
      exact attached_live hs (h.of_modifyPeer fun _ => rfl) (l.holds_breakOff peer _)
  | @lose peer hs => exact attached_live hs h (l.holds_breakOff peer _)
  | @transmit peer p _ hs =>
    rcases hw : n.write peer p with error | n' <;> simp only [Link.transmit, hw] at h ⊢
    · exact attached_live hs h (holds_breakOff _ peer _)
    · exact attached_live hs (h.of_write hw) (.inl hs)
  | @leave peer hs =>
    obtain ⟨hi, hn⟩ := Network.Attached.of_release h
    exact .inr ⟨fun hholds => hi (eq_of_holds_live hs hholds), hn⟩
  | @conclude peer unsaid hs =>
    cases unsaid with
    | cons r unsaid =>
      by_cases hholds : l.Holds i
      · refine .inl (.inr ⟨unsaid, ?_⟩)
        have hpeer : peer = some i := by simpa [Holds, hs] using hholds
        rw [hpeer]
        rfl
      · exact .inr ⟨hholds, h⟩
    | nil =>
      cases peer with
      | none => exact .inr ⟨by simp [Holds, hs], h⟩
      | some peer =>
        obtain ⟨hi, hn⟩ := Network.Attached.of_release h
        exact .inr ⟨by simpa [Holds, hs, eq_comm] using hi, hn⟩

end Link

end Provision
