/-
Payloads under other names.

To relabel is to put `φ p` in place of every payload `p` that was submitted:
in mailboxes, and with the peers that have received it.  A task looks at none of
them, so it does the same whatever they are: each step of a link on relabelled
payloads is its step on the payloads themselves, relabelled
(`Link.moveBy?_relabel`).

What comes in is not relabelled.  An `Impulse` is one of the things that a task
may go on with; it determines the move.
-/
import Provision.Proofs.Link.Move

namespace Provision

variable (φ : Payload → Payload)

/-! ### Mailboxes -/

namespace Mailbox

def relabel (m : Mailbox) : Mailbox :=
  { m with accepted := m.accepted.map φ }

@[simp] theorem accepted_relabel (m : Mailbox) :
    (m.relabel φ).accepted = m.accepted.map φ := rfl

@[simp] theorem waiting_relabel (m : Mailbox) : (m.relabel φ).waiting = m.waiting.map φ :=
  List.map_drop.symm

theorem offer_relabel (m : Mailbox) (p : Payload) :
    (m.relabel φ).offer (φ p) = (m.offer p).map (relabel φ) := by
  rcases hr : m.room with - | - | room <;> simp [offer, relabel, hr]

theorem offerAll_relabel (m : Mailbox) (ps : List Payload) :
    (m.relabel φ).offerAll (ps.map φ) =
      ((m.offerAll ps).1.relabel φ, (m.offerAll ps).2.map φ) := by
  induction ps generalizing m with
  | nil => rfl
  | cons p ps ih =>
    rcases ho : m.offer p with - | m'
    · simp [offerAll, offer_relabel, ho]
    · simpa [offerAll, offer_relabel, ho] using ih m'

end Mailbox

/-! ### The network -/

namespace Peer

/-- The peer has received the payloads under their other names. -/
def relabel (p : Peer) : Peer :=
  { p with written := p.written.map φ }

end Peer

namespace Network

def relabel (n : Network) : Network :=
  { n with peers := n.peers.map (Peer.relabel φ) }

variable (n : Network)

theorem getElem?_relabel (i : Nat) :
    (n.relabel φ).peers[i]? = (n.peers[i]?).map (Peer.relabel φ) :=
  List.getElem?_map ..

@[simp] theorem length_peers_relabel : (n.relabel φ).peers.length = n.peers.length :=
  List.length_map ..

@[simp] theorem answer?_relabel (gate : Nat) : (n.relabel φ).answer? gate = n.answer? gate := rfl

@[simp] theorem desert_relabel (gate : Nat) :
    (n.relabel φ).desert gate = (n.desert gate).relabel φ := rfl

theorem attempt_relabel (target : String) :
    (n.relabel φ).attempt target = ((n.attempt target).1, (n.attempt target).2.relabel φ) := by
  rcases hp : n.plans with - | ⟨plan, plans⟩ <;> simp [attempt, relabel, hp]

theorem connect_relabel (target : String) :
    (n.relabel φ).connect target = ((n.connect target).1, (n.connect target).2.relabel φ) := by
  simp [connect, relabel, Peer.relabel]

@[simp] theorem unread_relabel (i : Nat) : (n.relabel φ).unread i = n.unread i := by
  rw [unread, unread, getElem?_relabel]
  rcases n.peers[i]? with - | p <;> rfl

@[simp] theorem hasLeft_relabel (i : Nat) : (n.relabel φ).hasLeft i = n.hasLeft i := by
  rw [hasLeft, hasLeft, getElem?_relabel]
  rcases n.peers[i]? with - | p <;> rfl

/-- A change of a peer that relabelling does not disturb. -/
theorem modifyPeer_relabel (i : Nat) {f g : Peer → Peer}
    (hf : ∀ p : Peer, f (p.relabel φ) = (g p).relabel φ) :
    (n.relabel φ).modifyPeer i f = (n.modifyPeer i g).relabel φ := by
  have hpeers : (n.peers.map (Peer.relabel φ)).modify i f =
      (n.peers.modify i g).map (Peer.relabel φ) := by
    apply List.ext_getElem?
    intro j
    rw [List.getElem?_modify, List.getElem?_map, List.getElem?_map, List.getElem?_modify]
    rcases n.peers[j]? with - | p
    · rfl
    · by_cases hj : i = j <;> simp [hj, hf]
  simp only [modifyPeer, relabel, hpeers]

@[simp] theorem read_relabel (i : Nat) : (n.relabel φ).read i = (n.read i).relabel φ :=
  n.modifyPeer_relabel φ i fun _ => rfl

@[simp] theorem release_relabel (i : Nat) : (n.relabel φ).release i = (n.release i).relabel φ :=
  n.modifyPeer_relabel φ i fun _ => rfl

/-- Whether a write succeeds does not depend on what is written. -/
theorem write_relabel (i : Nat) (p : Payload) :
    (n.relabel φ).write i (φ p) = (n.write i p).map (relabel φ) := by
  rcases hfault : n.writeFault with - | text
  · have hfault' : (n.relabel φ).writeFault = none := hfault
    rcases hl : n.hasLeft i
    · simp only [write, hfault, hfault', hasLeft_relabel, hl, Except.map, Bool.false_eq_true,
        if_false]
      rw [n.modifyPeer_relabel φ i (g := fun q => { q with written := q.written ++ [p] })]
      intro q
      simp [Peer.relabel]
    · simp [write, hfault, hfault', hl, Except.map]
  · have hfault' : (n.relabel φ).writeFault = some text := hfault
    simp [write, hfault, hfault', Except.map]

end Network

/-! ### Links -/

namespace Link

def relabel (l : Link) : Link :=
  { l with mailbox := l.mailbox.relabel φ }

/-- The outcome of a step on relabelled payloads. -/
def Outcome.relabel (o : Outcome) : Outcome :=
  (o.1.relabel φ, o.2.1.relabel φ, o.2.2)

variable (l : Link) (n : Network)

theorem hear_relabel (answer : Answer) :
    (l.relabel φ).hear (n.relabel φ) answer = (l.hear n answer).relabel φ := by
  cases answer with
  | accept =>
    have htarget : (l.relabel φ).target = l.target := rfl
    simp only [hear, goLive, htarget, n.connect_relabel]
    rfl
  | refuse reason => rfl

theorem dial_relabel : (l.relabel φ).dial (n.relabel φ) = (l.dial n).relabel φ := by
  have hattempt := n.attempt_relabel φ l.target
  have htarget : (l.relabel φ).target = l.target := rfl
  rcases ha : n.attempt l.target with ⟨answer | gate, n'⟩ <;> rw [ha] at hattempt <;>
    simp only [dial, htarget, hattempt, ha]
  · exact l.hear_relabel φ n' answer
  · rfl

theorem dialInVain_relabel :
    (l.relabel φ).dialInVain (n.relabel φ) = (l.dialInVain n).relabel φ := by
  have hattempt := n.attempt_relabel φ l.target
  have htarget : (l.relabel φ).target = l.target := rfl
  rcases ha : n.attempt l.target with ⟨answer | gate, n'⟩ <;> rw [ha] at hattempt <;>
    simp only [dialInVain, htarget, hattempt, ha] <;> rfl

theorem leave_relabel (peer : Nat) :
    (l.relabel φ).leave (n.relabel φ) peer = (l.leave n peer).relabel φ := by
  rw [leave, n.release_relabel]
  rfl

theorem absorb_relabel (peer : Nat) (item : Inbound) :
    (l.relabel φ).absorb (n.relabel φ) peer item = (l.absorb n peer item).relabel φ := by
  cases item <;> simp only [absorb, n.read_relabel] <;> rfl

theorem transmit_relabel (peer : Nat) (p : Payload) :
    (l.relabel φ).transmit (n.relabel φ) peer (φ p) = (l.transmit n peer p).relabel φ := by
  have hwrite := n.write_relabel φ peer p
  rcases hw : n.write peer p with error | n' <;> rw [hw] at hwrite <;>
    simp only [transmit, hwrite, hw] <;> rfl

theorem conclude_relabel (peer : Option Nat) (unsaid : List Report) :
    (l.relabel φ).conclude (n.relabel φ) peer unsaid = (l.conclude n peer unsaid).relabel φ := by
  cases unsaid with
  | cons r unsaid => rfl
  | nil =>
    cases peer with
    | none => rfl
    | some peer =>
      simp only [conclude, Option.elim, n.release_relabel]
      rfl

theorem pump?_relabel (peer : Nat) :
    (l.relabel φ).pump? (n.relabel φ) peer = (l.pump? n peer).map (Outcome.relabel φ) := by
  have hup : (l.relabel φ).hungUp = l.hungUp := rfl
  have hwaiting : (l.relabel φ).mailbox.waiting = l.mailbox.waiting.map φ :=
    l.mailbox.waiting_relabel φ
  simp only [pump?, hup, n.unread_relabel, n.hasLeft_relabel, hwaiting]
  by_cases htold : l.hungUp = true
  · simp only [htold, if_true, Option.map_some, leave_relabel]
  · simp only [htold, if_false, Bool.false_eq_true]
    rcases n.unread peer with - | ⟨item, items⟩ <;> dsimp only
    · by_cases hl : n.hasLeft peer = true
      · simp only [hl, if_true]
        rfl
      · simp only [hl, if_false, Bool.false_eq_true]
        rcases l.mailbox.waiting with - | ⟨p, ps⟩
        · rfl
        · exact congrArg some (l.transmit_relabel φ n peer p)
    · exact congrArg some (l.absorb_relabel φ n peer item)

/-- The step of the scheduler. -/
theorem step?_relabel :
    (l.relabel φ).step? (n.relabel φ) = (l.step? n).map (Outcome.relabel φ) := by
  have hstage : (l.relabel φ).stage = l.stage := rfl
  have hup : (l.relabel φ).hungUp = l.hungUp := rfl
  simp only [step?, hstage, hup]
  rcases l.stage with - | gate | peer | ⟨peer, unsaid⟩ | -
  · simp only [Option.map_some, dialInVain_relabel, dial_relabel]
    split <;> rfl
  · simp only [n.answer?_relabel]
    split
    · rfl
    · rcases n.answer? gate with - | answer
      · rfl
      · exact congrArg some (l.hear_relabel φ n answer)
  · exact l.pump?_relabel φ n peer
  · exact congrArg some (l.conclude_relabel φ n peer unsaid)
  · rfl

theorem work_relabel : (l.relabel φ).work (n.relabel φ) = l.work n := by
  have hstage : (l.relabel φ).stage = l.stage := rfl
  have hwaiting : (l.relabel φ).mailbox.waiting = l.mailbox.waiting.map φ :=
    l.mailbox.waiting_relabel φ
  simp only [work, hstage, hwaiting, List.length_map, n.unread_relabel]

/-! ### Impulses -/

/-- What a task may go on with. -/
inductive Impulse where
  | dial
  | dialInVain
  | answer
  | desert
  | absorb
  | lose
  | transmit
  | leave
  | conclude
  deriving DecidableEq, Repr

/-- The move of a task on an impulse, if it can make it. -/
def moveBy? (l : Link) (n : Network) (impulse : Impulse) : Option Outcome :=
  match impulse, l.stage with
  | .dial, .dialing => some (l.dial n)
  | .dialInVain, .dialing => if l.hungUp then some (l.dialInVain n) else none
  | .answer, .waiting gate => (n.answer? gate).map (l.hear n)
  | .desert, .waiting gate => if l.hungUp then some (l.desert n gate) else none
  | .absorb, .live peer => (n.unread peer).head?.map (l.absorb n peer)
  | .lose, .live peer =>
    if n.unread peer = [] ∧ n.hasLeft peer = true then some (l.lose n peer) else none
  | .transmit, .live peer => l.mailbox.waiting.head?.map (l.transmit n peer)
  | .leave, .live peer => if l.hungUp then some (l.leave n peer) else none
  | .conclude, .ending peer unsaid => some (l.conclude n peer unsaid)
  | _, _ => none

/-- Each move is that on some impulse. -/
theorem move_iff_moveBy? {l : Link} {n : Network} {o : Outcome} :
    l.Move n o ↔ ∃ impulse, l.moveBy? n impulse = some o := by
  constructor
  · intro hm
    cases hm with
    | dial hs => exact ⟨.dial, by simp [moveBy?, hs]⟩
    | dialInVain hs hup => exact ⟨.dialInVain, by simp [moveBy?, hs, hup]⟩
    | answered hs ha => exact ⟨.answer, by simp [moveBy?, hs, ha]⟩
    | desert hs hup => exact ⟨.desert, by simp [moveBy?, hs, hup]⟩
    | absorb hs hr => exact ⟨.absorb, by simp [moveBy?, hs, hr]⟩
    | lose hs hr hl => exact ⟨.lose, by simp [moveBy?, hs, hr, hl]⟩
    | transmit hs hw => exact ⟨.transmit, by simp [moveBy?, hs, hw]⟩
    | leave hs hup => exact ⟨.leave, by simp [moveBy?, hs, hup]⟩
    | conclude hs => exact ⟨.conclude, by simp [moveBy?, hs]⟩
  · rintro ⟨impulse, h⟩
    rcases hs : l.stage with - | gate | peer | ⟨peer, unsaid⟩ | - <;> cases impulse <;>
      simp only [moveBy?, hs, reduceCtorEq, Option.ite_none_right_eq_some, Option.some.injEq,
        Option.map_eq_some_iff, List.head?_eq_some_iff] at h
    case dialing.dial => exact h ▸ .dial hs
    case dialing.dialInVain =>
      obtain ⟨hup, rfl⟩ := h
      exact .dialInVain hs hup
    case waiting.answer =>
      obtain ⟨answer, ha, rfl⟩ := h
      exact .answered hs ha
    case waiting.desert =>
      obtain ⟨hup, rfl⟩ := h
      exact .desert hs hup
    case live.absorb =>
      obtain ⟨item, ⟨items, hr⟩, rfl⟩ := h
      exact .absorb hs hr
    case live.lose =>
      obtain ⟨⟨hr, hl⟩, rfl⟩ := h
      exact .lose hs hr hl
    case live.transmit =>
      obtain ⟨p, ⟨ps, hw⟩, rfl⟩ := h
      exact .transmit hs hw
    case live.leave =>
      obtain ⟨hup, rfl⟩ := h
      exact .leave hs hup
    case ending.conclude => exact h ▸ .conclude hs

/-- A task goes on the same on relabelled payloads. -/
theorem moveBy?_relabel (impulse : Impulse) :
    (l.relabel φ).moveBy? (n.relabel φ) impulse =
      (l.moveBy? n impulse).map (Outcome.relabel φ) := by
  have hstage : (l.relabel φ).stage = l.stage := rfl
  have hup : (l.relabel φ).hungUp = l.hungUp := rfl
  have hwaiting : (l.relabel φ).mailbox.waiting = l.mailbox.waiting.map φ :=
    l.mailbox.waiting_relabel φ
  rcases hs : l.stage with - | gate | peer | ⟨peer, unsaid⟩ | - <;> cases impulse <;>
    simp only [moveBy?, hstage, hs, hup, hwaiting, n.answer?_relabel, n.unread_relabel,
      n.hasLeft_relabel, Option.map_none, Option.map_some]
  case dialing.dial => rw [dial_relabel]
  case dialing.dialInVain => split <;> simp [dialInVain_relabel]
  case waiting.answer => rcases n.answer? gate with - | answer <;> simp [hear_relabel]
  case waiting.desert => split <;> rfl
  case live.absorb => rcases n.unread peer with - | ⟨item, items⟩ <;> simp [absorb_relabel]
  case live.lose => split <;> rfl
  case live.transmit =>
    rcases l.mailbox.waiting with - | ⟨p, ps⟩ <;> simp [transmit_relabel]
  case live.leave => split <;> simp [leave_relabel]
  case ending.conclude => rw [conclude_relabel]

end Link

end Provision
