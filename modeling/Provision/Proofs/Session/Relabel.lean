/-
Sessions on relabelled payloads.

The session hands payloads over, queues them and drops them, and never looks at
one.  So each call of it, and every step of the tasks, is the same on
relabelled payloads (`Session.call_relabel`, `Exchange.settle_relabel`): the
events, what is reported, and how many payloads are where.
-/
import Provision.Proofs.Link.Relabel
import Provision.Proofs.Session.Calls

namespace Provision

variable (φ : Payload → Payload)

namespace Outbox

def relabel (q : Outbox) : Outbox :=
  ⟨q.toList.map φ⟩

theorem push_relabel (q : Outbox) (p : Payload) :
    (q.relabel φ).push (φ p) = (q.push p).relabel φ := by
  simp [push, relabel]

theorem pushAll_relabel (q : Outbox) (ps : List Payload) :
    (q.relabel φ).pushAll (ps.map φ) = (q.pushAll ps).relabel φ := by
  induction ps generalizing q with
  | nil => rfl
  | cons p ps ih =>
    have := ih (q.push p)
    rwa [← push_relabel] at this

end Outbox

/-- A submission is of the payload under its other name. -/
def Call.relabel : Call → Call
  | .send p => .send (φ p)
  | c => c

/-! ### Sessions -/

namespace Session

def relabel (s : Session) : Session :=
  { s with outbox := s.outbox.relabel φ, links := s.links.map (Link.relabel φ) }

variable (s : Session)

@[simp] theorem status_relabel : (s.relabel φ).status = s.status := rfl

@[simp] theorem active_relabel : (s.relabel φ).active = s.active := rfl

theorem link?_relabel (id : ConnectionId) :
    (s.relabel φ).link? id = (s.link? id).map (Link.relabel φ) := by
  simp only [link?, relabel, List.find?_map]
  rfl

theorem activeLink?_relabel : (s.relabel φ).activeLink? = s.activeLink?.map (Link.relabel φ) := by
  rcases ha : s.active with - | id
  · simp [activeLink?, ha]
  · simpa [activeLink?, ha] using s.link?_relabel φ id

/-- A change of a link that relabelling does not disturb. -/
theorem modifyLink_relabel (id : ConnectionId) {f g : Link → Link}
    (hf : ∀ l : Link, f (l.relabel φ) = (g l).relabel φ) :
    (s.relabel φ).modifyLink id f = (s.modifyLink id g).relabel φ := by
  have hlinks : (s.links.map (Link.relabel φ)).map (fun l => if l.id = id then f l else l) =
      (s.links.map fun l => if l.id = id then g l else l).map (Link.relabel φ) := by
    rw [List.map_map, List.map_map]
    refine List.map_congr_left fun l _ => ?_
    have hid : (l.relabel φ).id = l.id := rfl
    by_cases h : l.id = id <;> simp [hid, h, hf]
  simp only [modifyLink, relabel, hlinks]

theorem release_relabel : (s.relabel φ).release = s.release.relabel φ := by
  rcases ha : s.active with - | id
  · simp [release, ha]
  · simp only [release, active_relabel, ha]
    rw [s.modifyLink_relabel φ id (g := ({ · with hungUp := true })) fun _ => rfl]
    rfl

theorem connect_relabel (target : String) :
    (s.relabel φ).connect target = (s.connect target).relabel φ := by
  simp only [connect, s.release_relabel φ]
  simp [relabel, Link.relabel, Mailbox.relabel]

theorem handOver_relabel (ps : List Payload) :
    (s.relabel φ).handOver (ps.map φ) =
      ((s.handOver ps).1.relabel φ, (s.handOver ps).2.map φ) := by
  have hactive := s.activeLink?_relabel φ
  rcases hl : s.activeLink? with - | l <;> rw [hl] at hactive
  · simp [handOver, hactive, hl]
  · have hoffer : (l.relabel φ).mailbox.offerAll (ps.map φ) = _ := l.mailbox.offerAll_relabel φ ps
    have hid : (l.relabel φ).id = l.id := rfl
    simp only [handOver, hactive, hl, Option.map_some, hoffer, hid]
    rw [s.modifyLink_relabel φ l.id (g := ({ · with mailbox := (l.mailbox.offerAll ps).1 }))
      fun _ => rfl]

theorem send_relabel (p : Payload) : (s.relabel φ).send (φ p) = (s.send p).relabel φ := by
  by_cases hopen : s.status = .opened
  · have hhand := s.handOver_relabel φ [p]
    rw [List.map_singleton] at hhand
    simp only [send, status_relabel, hopen, if_true, hhand]
    simp only [relabel, Outbox.pushAll_relabel]
  · simp only [send, status_relabel, hopen, if_false]
    simp only [relabel, Outbox.push_relabel]

theorem flush_relabel : (s.relabel φ).flush = s.flush.relabel φ := by
  have hactive := s.activeLink?_relabel φ
  rcases hl : s.activeLink? with - | l <;> rw [hl] at hactive
  · simp [flush, hactive, hl]
  · have hhand := handOver_relabel φ { s with outbox := {} } s.outbox.toList
    have hdrained : { s.relabel φ with outbox := {} } = relabel φ { s with outbox := {} } := rfl
    have hwaiting : (s.relabel φ).outbox.toList = s.outbox.toList.map φ := rfl
    simp only [flush, hactive, hl, Option.map_some, Outbox.drain, hdrained, hwaiting, hhand]
    simp only [relabel, Outbox.pushAll_relabel]

theorem close_relabel : (s.relabel φ).close = s.close.relabel φ := by
  by_cases hidle : s.status = .idle
  · simp [close, hidle]
  · simp only [close, status_relabel, hidle, if_false, s.release_relabel φ]
    rfl

theorem react_relabel (r : Report) : (s.relabel φ).react r = (s.react r).relabel φ := by
  cases r with
  | opened => exact flush_relabel φ { s with status := .opened }
  | frame | failed => rfl
  | ended info =>
    simp only [react, s.release_relabel φ]
    rfl

theorem receive_relabel (id : ConnectionId) (r : Report) :
    (s.relabel φ).receive id r = ((s.receive id r).1.relabel φ, (s.receive id r).2) := by
  by_cases ha : s.active = some id
  · have ha' : (s.relabel φ).active = some id := ha
    rw [receive_of_active ha, receive_of_active ha', react_relabel]
  · have ha' : (s.relabel φ).active ≠ some id := ha
    rw [receive_of_stale ha, receive_of_stale ha']

theorem nextOf_relabel (reports : List (ConnectionId × Report)) :
    (s.relabel φ).nextOf reports =
      ((s.nextOf reports).1.relabel φ, (s.nextOf reports).2) := by
  induction reports generalizing s with
  | nil => rfl
  | cons x reports ih =>
    obtain ⟨id, r⟩ := x
    have hreceive := s.receive_relabel φ id r
    rcases hr : s.receive id r with ⟨s', - | event⟩ <;> rw [hr] at hreceive <;>
      simp only [nextOf, hreceive, hr]
    · exact ih s'
    · rfl

theorem next_relabel : (s.relabel φ).next = (s.next.1.relabel φ, s.next.2) :=
  s.nextOf_relabel φ s.reports

/-- Every call is the same on relabelled payloads. -/
theorem call_relabel (c : Call) :
    (s.relabel φ).call (c.relabel φ) = ((s.call c).1.relabel φ, (s.call c).2) := by
  cases c with
  | connect target => exact congrArg (·, none) (s.connect_relabel φ target)
  | send p => exact congrArg (·, none) (s.send_relabel φ p)
  | close => exact congrArg (·, none) (s.close_relabel φ)
  | next => exact s.next_relabel φ

end Session

/-! ### Sessions on a network -/

namespace Exchange

def relabel (e : Exchange) : Exchange :=
  ⟨e.session.relabel φ, e.network.relabel φ⟩

variable (e : Exchange)

theorem next_relabel : (e.relabel φ).next = (e.next.1.relabel φ, e.next.2) := by
  have hnext := e.session.next_relabel φ
  simp only [next, relabel, hnext]

theorem stepFirst?_relabel (n : Network) (links : List Link) :
    stepFirst? (n.relabel φ) (links.map (Link.relabel φ)) =
      (stepFirst? n links).map fun (links, n, report) =>
        (links.map (Link.relabel φ), n.relabel φ, report) := by
  induction links with
  | nil => rfl
  | cons l links ih =>
    have hstep := l.step?_relabel φ n
    have hid : (l.relabel φ).id = l.id := rfl
    rcases hs : l.step? n with - | ⟨l', n', r⟩ <;> rw [hs] at hstep
    · simp only [List.map_cons, stepFirst?, hstep, hs, Option.map_none, ih, Option.map_map]
      rfl
    · simp only [List.map_cons, stepFirst?, hstep, hs, Option.map_some, Link.Outcome.relabel, hid]

theorem step?_relabel : (e.relabel φ).step? = e.step?.map (relabel φ) := by
  have hfirst := stepFirst?_relabel φ e.network e.session.links
  have hlinks : (e.relabel φ).session.links = e.session.links.map (Link.relabel φ) := rfl
  have hnetwork : (e.relabel φ).network = e.network.relabel φ := rfl
  simp only [step?, hlinks, hnetwork, hfirst, Option.map_map]
  rfl

theorem work_relabel : (e.relabel φ).work = e.work := by
  have hlinks : ∀ links : List Link,
      (links.map (Link.relabel φ)).foldr (fun l steps => l.work (e.network.relabel φ) + steps) 0 =
        links.foldr (fun l steps => l.work e.network + steps) 0 := by
    intro links
    simp only [List.foldr_map, Link.work_relabel]
  exact hlinks e.session.links

theorem advance_relabel (steps : Nat) :
    (e.relabel φ).advance steps = (e.advance steps).relabel φ := by
  induction steps generalizing e with
  | zero => rfl
  | succ steps ih =>
    have hstep := e.step?_relabel φ
    rcases hs : e.step? with - | e' <;> rw [hs] at hstep <;>
      simp only [advance, hstep, hs, Option.map_none, Option.map_some]
    exact ih e'

/-- The tasks come to rest the same on relabelled payloads. -/
theorem settle_relabel : (e.relabel φ).settle = e.settle.relabel φ := by
  rw [settle, work_relabel, advance_relabel]
  rfl

end Exchange

end Provision
