/-
Tasks come to rest.

Left to themselves, the tasks can take only so many steps: each has a bounded
amount of work, every move of one takes something off it, and no move gives
another something to do (`Move.work_lt`, `Move.length_unread_le`).  So the running
program settles where no task can move, in the number of steps that it allows
itself.

Main result: `quiet_settle`.
-/
import Provision.Proofs.Exchange.Run

namespace Provision

namespace Network

variable {n n' : Network}

/-! ### What there is to read -/

theorem unread_congr (h : n'.peers = n.peers) (i : Nat) : n'.unread i = n.unread i := by
  rw [unread, unread, h]

theorem unread_modifyPeer (n : Network) (peer i : Nat) {f : Peer → Peer}
    (hf : ∀ p : Peer, (f p).unread = p.unread) : (n.modifyPeer peer f).unread i = n.unread i := by
  rcases hp : n.peers[i]? with - | p <;> by_cases hi : peer = i <;>
    simp [unread, modifyPeer, hp, hi, hf]

/-- A new peer has sent nothing yet. -/
theorem unread_connect (n : Network) (target : String) (i : Nat) :
    (n.connect target).2.unread i = n.unread i := by
  simp only [unread, connect]
  rcases Nat.lt_trichotomy i n.peers.length with h | rfl | h
  · rw [List.getElem?_append_left h]
  · simp [Peer.unread]
  · rw [List.getElem?_eq_none (Nat.le_of_lt h), List.getElem?_eq_none (by simp; omega)]

theorem unread_read_self (n : Network) (peer : Nat) :
    (n.read peer).unread peer = (n.unread peer).tail := by
  rcases hp : n.peers[peer]? with - | p <;>
    simp [unread, read, modifyPeer, hp, Peer.unread]

theorem unread_read_of_ne (n : Network) {peer i : Nat} (hne : peer ≠ i) :
    (n.read peer).unread i = n.unread i := by
  simp [unread, read, modifyPeer, hne]

theorem unread_write {peer : Nat} {p : Payload} (h : n.write peer p = .ok n') (i : Nat) :
    n'.unread i = n.unread i := by
  obtain ⟨-, rfl⟩ := write_eq_ok h
  exact n.unread_modifyPeer peer i fun _ => rfl

end Network

namespace Link

variable {l : Link} {n : Network} {o : Link.Outcome}

/-! ### What a move leaves to do -/

/-- An answer gives nobody anything to read. -/
theorem unread_hear (l : Link) (n : Network) (answer : Answer) (i : Nat) :
    (l.hear n answer).2.1.unread i = n.unread i := by
  cases answer with
  | accept => exact n.unread_connect l.target i
  | refuse reason => rfl

/-- No move gives a task more to read. -/
theorem Move.length_unread_le (hm : l.Move n o) (i : Nat) :
    (o.2.1.unread i).length ≤ (n.unread i).length := by
  have hsame : ∀ {n' : Network}, n'.unread i = n.unread i →
      (n'.unread i).length ≤ (n.unread i).length := fun h => Nat.le_of_eq (congrArg List.length h)
  have hpeers := Network.peers_attempt n l.target
  cases hm with
  | dial =>
    rcases ha : n.attempt l.target with ⟨answer | gate, n'⟩ <;> rw [ha] at hpeers <;>
      simp only [Link.dial, ha]
    · exact hsame ((l.unread_hear n' answer i).trans (Network.unread_congr hpeers i))
    · exact hsame (Network.unread_congr hpeers i)
  | dialInVain =>
    rcases ha : n.attempt l.target with ⟨answer | gate, n'⟩ <;> rw [ha] at hpeers <;>
      simp only [Link.dialInVain, Link.desert, ha]
    · exact hsame (Network.unread_congr hpeers i)
    · have hdesert : (n'.desert gate).peers = n.peers := hpeers
      exact hsame (Network.unread_congr hdesert i)
  | answered => exact hsame (l.unread_hear n _ i)
  | desert | lose => exact Nat.le_refl _
  | @absorb peer item =>
    have hread : ((n.read peer).unread i).length ≤ (n.unread i).length := by
      by_cases hi : peer = i
      · rw [hi, n.unread_read_self, List.length_tail]
        exact Nat.sub_le ..
      · exact hsame (n.unread_read_of_ne hi)
    cases item <;> exact hread
  | @transmit peer p =>
    rcases hw : n.write peer p with error | n' <;> simp only [Link.transmit, hw]
    · exact Nat.le_refl _
    · exact hsame (Network.unread_write hw i)
  | leave => exact hsame (n.unread_modifyPeer _ i fun _ => rfl)
  | @conclude peer unsaid =>
    cases unsaid with
    | cons r unsaid => exact Nat.le_refl _
    | nil =>
      cases peer with
      | none => exact Nat.le_refl _
      | some peer => exact hsame (n.unread_modifyPeer peer i fun _ => rfl)

/-- An answered attempt leaves an opening or two reports. -/
theorem work_hear (l : Link) (n : Network) (answer : Answer) :
    (l.hear n answer).1.work (l.hear n answer).2.1 = l.mailbox.waiting.length + 3 := by
  cases answer with
  | accept =>
    have hnone : n.unread n.peers.length = [] := by
      rw [Network.unread, List.getElem?_eq_none (Nat.le_refl _)]
    show l.mailbox.waiting.length + (3 + ((n.connect l.target).2.unread n.peers.length).length) = _
    rw [n.unread_connect, hnone]
    rfl
  | refuse reason => rfl

/-- Of a task that has finished, only what waits in its mailbox counts. -/
theorem work_finish_lt (hs : l.stage ≠ .finished) (n n' : Network) :
    l.finish.work n' < l.work n := by
  show l.mailbox.waiting.length + 0 < l.work n
  rcases hl : l.stage with - | gate | peer | ⟨peer, unsaid⟩ | -
  case finished => exact absurd hl hs
  all_goals
    simp only [work, hl]
    omega

/-- Every move takes something off the work of its task. -/
theorem Move.work_lt (hm : l.Move n o) : o.1.work o.2.1 < l.work n := by
  have hrunning := hm.not_finished
  cases hm with
  | dial hs =>
    rcases ha : n.attempt l.target with ⟨answer | gate, n'⟩ <;> simp only [Link.dial, ha]
    · rw [l.work_hear]
      simp [work, hs]
    · simp [work, hs]
  | dialInVain =>
    rcases ha : n.attempt l.target with ⟨answer | gate, n'⟩ <;> simp only [Link.dialInVain, ha]
    · exact work_finish_lt hrunning n n'
    · exact work_finish_lt hrunning n (n'.desert gate)
  | answered hs =>
    rw [l.work_hear]
    simp [work, hs]
  | desert => exact work_finish_lt hrunning n _
  | @absorb peer item items hs hr =>
    have hread : (n.read peer).unread peer = items := by rw [n.unread_read_self, hr]; rfl
    cases item with
    | message p => simp [Link.absorb, work, hs, hread, hr]
    | close | failure =>
      simp only [Link.absorb, breakOff, work, hs, hr, Report.failure, List.length_cons,
        List.length_nil]
      omega
  | lose hs hr => simp [Link.lose, breakOff, work, hs, hr]
  | @transmit peer p ps hs hwait =>
    have htake : l.mailbox.take.waiting = ps := by
      have := congrArg List.tail hwait
      simpa [Mailbox.waiting, Mailbox.take] using this
    rcases hw : n.write peer p with error | n'
    · simp [Link.transmit, hw, breakOff, work, hs, htake, hwait, Report.failure]
      omega
    · simp [Link.transmit, hw, work, hs, htake, hwait, Network.unread_write hw]
  | leave => exact work_finish_lt hrunning n _
  | @conclude peer unsaid hs =>
    cases unsaid with
    | nil => exact work_finish_lt hrunning n _
    | cons r unsaid => simp [Link.conclude, breakOff, work, hs]

/-- And nothing on that of the others. -/
theorem Move.work_le (hm : l.Move n o) (k : Link) : k.work o.2.1 ≤ k.work n := by
  rcases hs : k.stage with - | gate | peer | ⟨peer, unsaid⟩ | - <;> simp only [work, hs]
  · exact Nat.le_refl _
  · exact Nat.le_refl _
  · have := hm.length_unread_le peer
    omega
  · exact Nat.le_refl _
  · exact Nat.le_refl _

end Link

namespace Exchange

variable {e e' : Exchange}

/-- The work of several links. -/
def workOf (n : Network) (links : List Link) : Nat :=
  links.foldr (fun l steps => l.work n + steps) 0

theorem workOf_cons (n : Network) (l : Link) (links : List Link) :
    workOf n (l :: links) = l.work n + workOf n links :=
  rfl

theorem workOf_append (n : Network) (links more : List Link) :
    workOf n (links ++ more) = workOf n links + workOf n more := by
  induction links with
  | nil => exact (Nat.zero_add _).symm
  | cons l links ih => rw [List.cons_append, workOf_cons, ih, workOf_cons, Nat.add_assoc]

theorem workOf_le {n : Network} {l : Link} {o : Link.Outcome} (hm : l.Move n o)
    (links : List Link) : workOf o.2.1 links ≤ workOf n links := by
  induction links with
  | nil => exact Nat.le_refl _
  | cons k links ih => exact Nat.add_le_add (hm.work_le k) ih

/-- Whichever task moves, there is less to do. -/
theorem work_afterMove_lt {earlier later : List Link} {l : Link} {o : Link.Outcome}
    (hlinks : e.session.links = earlier ++ l :: later) (hm : l.Move e.network o) :
    (e.afterMove earlier later l.id o).work < e.work := by
  have hearlier := workOf_le hm earlier
  have hlater := workOf_le hm later
  have hself := hm.work_lt
  show workOf o.2.1 (earlier ++ o.1 :: later) < workOf e.network e.session.links
  rw [hlinks, workOf_append, workOf_append, workOf_cons, workOf_cons]
  omega

theorem work_step?_lt (h : e.step? = some e') : e'.work < e.work := by
  obtain ⟨earlier, l, later, o, hlinks, hm, rfl⟩ := exists_move_of_step? h
  exact work_afterMove_lt hlinks hm

/-- With as many steps as there is work, nothing is left to do. -/
theorem quiet_advance (steps : Nat) (h : e.work ≤ steps) : (e.advance steps).Quiet := by
  induction steps generalizing e with
  | zero =>
    rw [advance, ← step?_eq_none_iff]
    rcases hs : e.step? with - | e'
    · rfl
    · exact absurd (Nat.lt_of_lt_of_le (work_step?_lt hs) h) (Nat.not_lt_zero _)
  | succ steps ih =>
    rcases hs : e.step? with - | e'
    · simpa [advance, hs] using step?_eq_none_iff.mp hs
    · have hlt := work_step?_lt hs
      simpa [advance, hs] using ih (by omega)

/-- The running program settles where no task can move. -/
theorem quiet_settle (e : Exchange) : e.settle.Quiet :=
  quiet_advance e.work (Nat.le_refl _)

end Exchange

end Provision
