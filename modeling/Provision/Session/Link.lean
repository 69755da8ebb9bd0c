/-
Links: the session's connections, each with the task that drives it.

The session hands payloads to a link through its mailbox and hears from it by
reports.  A mailbox remembers every payload it ever accepted and how many of
them the task has taken, so what was handed over stays visible after the task
has ended.  `room` says how many more payloads it will accept: without limit
while the task listens, and none once the task has let go of it.

A link goes through the stages of its task: it dials, perhaps waits at a gate,
is live on one peer, tells how it ended, and is finished.  A task makes one
report at a time, so others may move between two of them.
-/
import Provision.Network

namespace Provision

/-- The channel of payloads from the session to one task. -/
structure Mailbox where
  /-- Everything ever accepted, in order. -/
  accepted : List Payload := []
  /-- How many of these the task has taken. -/
  taken : Nat := 0
  /-- How many more are accepted; `none` while there is no limit. -/
  room : Option Nat := none
  deriving DecidableEq, Repr, Inhabited

namespace Mailbox

/-- Accepted and not taken yet. -/
def waiting (m : Mailbox) : List Payload :=
  m.accepted.drop m.taken

/-- Put one payload in, if there is room. -/
def offer (m : Mailbox) (p : Payload) : Option Mailbox :=
  match m.room with
  | none => some { m with accepted := m.accepted ++ [p] }
  | some 0 => none
  | some (room + 1) => some { m with accepted := m.accepted ++ [p], room := some room }

/-- Put payloads in until one is not accepted; the ones that are left over. -/
def offerAll (m : Mailbox) : List Payload → Mailbox × List Payload
  | [] => (m, [])
  | p :: ps =>
    match m.offer p with
    | some m => m.offerAll ps
    | none => (m, p :: ps)

/-- The task takes one payload out. -/
def take (m : Mailbox) : Mailbox :=
  { m with taken := m.taken + 1 }

/-- The task lets go: nothing is accepted any more. -/
def abandon (m : Mailbox) : Mailbox :=
  { m with room := some 0 }

/-- Nothing is accepted any more. -/
def isAbandoned (m : Mailbox) : Bool :=
  m.room == some 0

@[simp] theorem accepted_take (m : Mailbox) : m.take.accepted = m.accepted := rfl

@[simp] theorem taken_take (m : Mailbox) : m.take.taken = m.taken + 1 := rfl

@[simp] theorem isAbandoned_take (m : Mailbox) : m.take.isAbandoned = m.isAbandoned := rfl

@[simp] theorem accepted_abandon (m : Mailbox) : m.abandon.accepted = m.accepted := rfl

@[simp] theorem taken_abandon (m : Mailbox) : m.abandon.taken = m.taken := rfl

@[simp] theorem isAbandoned_abandon (m : Mailbox) : m.abandon.isAbandoned = true := rfl

/-- What the task takes next is the first payload that it has not taken. -/
theorem take_accepted_succ {m : Mailbox} {p : Payload} {ps : List Payload}
    (h : m.waiting = p :: ps) :
    m.accepted.take (m.taken + 1) = m.accepted.take m.taken ++ [p] := by
  have hp : m.accepted[m.taken]? = some p := by
    rw [← List.head?_drop]
    exact congrArg List.head? h
  rw [List.take_add_one, hp]
  rfl

theorem offer_eq_none_iff {m : Mailbox} {p : Payload} :
    m.offer p = none ↔ m.isAbandoned = true := by
  rcases h : m.room with - | - | room <;> simp [offer, isAbandoned, h]

/-- Accepting a payload appends it and leaves what was taken alone. -/
theorem offer_eq_some {m m' : Mailbox} {p : Payload} (h : m.offer p = some m') :
    m'.accepted = m.accepted ++ [p] ∧ m'.taken = m.taken := by
  rcases hr : m.room with - | - | room <;> simp only [offer, hr] at h <;> cases h <;>
    exact ⟨rfl, rfl⟩

/-- An offer splits: the first part is accepted and the rest is left over. -/
theorem offerAll_split (m : Mailbox) (ps : List Payload) :
    ∃ done, ps = done ++ (m.offerAll ps).2 ∧
      (m.offerAll ps).1.accepted = m.accepted ++ done ∧
      (m.offerAll ps).1.taken = m.taken := by
  induction ps generalizing m with
  | nil => exact ⟨[], rfl, by simp [offerAll], rfl⟩
  | cons p ps ih =>
    rcases h : m.offer p with - | m'
    · exact ⟨[], by simp [offerAll, h], by simp [offerAll, h], by simp [offerAll, h]⟩
    · obtain ⟨done, hps, hacc, htaken⟩ := ih m'
      obtain ⟨hacc', htaken'⟩ := offer_eq_some h
      refine ⟨p :: done, ?_, ?_, ?_⟩
      · simpa [offerAll, h] using hps
      · simpa [offerAll, h, hacc'] using hacc
      · simpa [offerAll, h, htaken'] using htaken

/-- Something is left over only if the task has let go. -/
theorem isAbandoned_offerAll {m : Mailbox} {ps : List Payload}
    (h : (m.offerAll ps).2 ≠ []) : (m.offerAll ps).1.isAbandoned = true := by
  induction ps generalizing m with
  | nil => exact absurd rfl h
  | cons p ps ih =>
    rcases ho : m.offer p with - | m'
    · simpa [offerAll, ho] using offer_eq_none_iff.mp ho
    · simp only [offerAll, ho] at h ⊢
      exact ih h

/-- An abandoned mailbox accepts nothing. -/
theorem offerAll_of_isAbandoned {m : Mailbox} (h : m.isAbandoned = true) (ps : List Payload) :
    m.offerAll ps = (m, ps) := by
  cases ps with
  | nil => rfl
  | cons p ps => simp [offerAll, offer_eq_none_iff.mpr h]

end Mailbox

/-- The number of a connection of the session, counted from one. -/
abbrev ConnectionId := Nat

/-- What a task tells the session. -/
inductive Report where
  /-- The connection came about. -/
  | opened
  | frame (p : Payload)
  /-- Connecting, reading or writing failed. -/
  | failed (reason : String)
  /-- The connection is over. -/
  | ended (info : CloseInfo)
  deriving DecidableEq, Repr

/-- How a task reports a failure: the failure, and the end it causes. -/
def Report.failure (error : Error) : List Report :=
  [.failed error.message, .ended (.abnormal error.message)]

/-- Where a task stands. -/
inductive Stage where
  /-- No attempt to connect was made yet. -/
  | dialing
  /-- The attempt waits at a gate. -/
  | waiting (gate : Nat)
  /-- Connected to a peer. -/
  | live (peer : Nat)
  /-- Over, with reports that are still to be made, and perhaps a peer that is
  still to be let go of. -/
  | ending (peer : Option Nat) (unsaid : List Report)
  | finished
  deriving DecidableEq, Repr

/-- One connection of the session. -/
structure Link where
  id : ConnectionId
  target : String
  mailbox : Mailbox := {}
  /-- The session has let go of the link: it asked for the end and will hand
  over nothing more. -/
  hungUp : Bool := false
  stage : Stage := .dialing
  deriving DecidableEq, Repr

namespace Link

/-- The task ends: the mailbox is abandoned with what is still in it. -/
def finish (l : Link) : Link :=
  { l with stage := .finished, mailbox := l.mailbox.abandon }

/-- The connection is over, and the session has not heard why yet. -/
def breakOff (l : Link) (peer : Option Nat) (unsaid : List Report) : Link :=
  { l with stage := .ending peer unsaid }

/-- What a step of a task brings about, with the report it makes. -/
abbrev Outcome := Link × Network × Option Report

/-- The attempt succeeds. -/
def goLive (l : Link) (n : Network) : Outcome :=
  let (peer, n) := n.connect l.target
  ({ l with stage := .live peer }, n, some .opened)

/-- The attempt is answered. -/
def hear (l : Link) (n : Network) : Answer → Outcome
  | .accept => l.goLive n
  | .refuse reason =>
    (l.breakOff none (Report.failure (.connection l.target reason)), n, none)

/-- The attempt to connect. -/
def dial (l : Link) (n : Network) : Outcome :=
  match n.attempt l.target with
  | (.hold gate, n) => ({ l with stage := .waiting gate }, n, none)
  | (.answer answer, n) => l.hear n answer

/-- The attempt at a gate is given up. -/
def desert (l : Link) (n : Network) (gate : Nat) : Outcome :=
  (l.finish, n.desert gate, none)

/-- The attempt is given up as soon as it is made. -/
def dialInVain (l : Link) (n : Network) : Outcome :=
  match n.attempt l.target with
  | (.hold gate, n) => l.desert n gate
  | (.answer _, n) => (l.finish, n, none)

/-- The task lets go of its peer without a word. -/
def leave (l : Link) (n : Network) (peer : Nat) : Outcome :=
  (l.finish, n.release peer, none)

/-- The task reads one item of its peer. -/
def absorb (l : Link) (n : Network) (peer : Nat) : Inbound → Outcome
  | .message p => (l, n.read peer, some (.frame p))
  | .close info => (l.breakOff (some peer) [.ended info], n.read peer, none)
  | .failure error => (l.breakOff (some peer) (Report.failure error), n.read peer, none)

/-- The inbound stream of the peer stops. -/
def lose (l : Link) (n : Network) (peer : Nat) : Outcome :=
  (l.breakOff (some peer) [.ended (.abnormal "connection lost")], n, none)

/-- The task takes a payload out of the mailbox and writes it. -/
def transmit (l : Link) (n : Network) (peer : Nat) (p : Payload) : Outcome :=
  let l := { l with mailbox := l.mailbox.take }
  match n.write peer p with
  | .ok n => (l, n, none)
  | .error error => (l.breakOff (some peer) (Report.failure error), n, none)

/-- The task makes the next of its last reports, or ends after them. -/
def conclude (l : Link) (n : Network) (peer : Option Nat) : List Report → Outcome
  | r :: unsaid => (l.breakOff peer unsaid, n, some r)
  | [] => (l.finish, peer.elim n n.release, none)

/-- The next step of a live connection, if it can take one: the end if the
session has let go, then what can be read, then what has to be written. -/
def pump? (l : Link) (n : Network) (peer : Nat) : Option Outcome :=
  if l.hungUp then some (l.leave n peer)
  else
    match n.unread peer with
    | item :: _ => some (l.absorb n peer item)
    | [] =>
      if n.hasLeft peer then some (l.lose n peer)
      else
        match l.mailbox.waiting with
        | [] => none
        | p :: _ => some (l.transmit n peer p)

/-- The next step of a task, if it can take one.  If the session has let go, a
task gives up what it is at before anything else. -/
def step? (l : Link) (n : Network) : Option Outcome :=
  match l.stage with
  | .dialing => some (if l.hungUp then l.dialInVain n else l.dial n)
  | .waiting gate =>
    if l.hungUp then some (l.desert n gate) else (n.answer? gate).map (l.hear n)
  | .live peer => l.pump? n peer
  | .ending peer unsaid => some (l.conclude n peer unsaid)
  | .finished => none

/-- An upper bound for the number of steps the task can still take by itself. -/
def work (l : Link) (n : Network) : Nat :=
  l.mailbox.waiting.length +
    match l.stage with
    | .dialing => 5
    | .waiting _ => 4
    | .live peer => 3 + (n.unread peer).length
    | .ending _ unsaid => 1 + unsaid.length
    | .finished => 0

end Link

end Provision
