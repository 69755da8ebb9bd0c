/-
Runs of a session on a network.

A run interleaves, in any order, the calls of the session's owner with what
happens in the background: the tasks' moves, the far side's changes, and tasks
that let go of their mailboxes.  Each call is one step here although it may
hand over several payloads.  That its task lets go in the middle of that is a
`restrict` just before the call: the mailbox then accepts some of the payloads
and no more.

Every step leaves a trace.  What a call hands over is read off the mailboxes
before and after it, whatever the call.  `Later` is how a run may go on from where
it is, and the schedule of the running program is one of the runs (`Run.settle`).
-/
import Provision.Proofs.Exchange.Trace
import Provision.Proofs.Link.Move
import Provision.Proofs.Network.Drift
import Provision.Session.Exchange

namespace Provision

/-- What the owner of a session can ask for. -/
inductive Call where
  | connect (target : String)
  | send (p : Payload)
  | close
  /-- Ask for the next event. -/
  | next
  deriving DecidableEq, Repr

namespace Session

/-- Carry a call out. -/
def call (s : Session) : Call → Session × Option Event
  | .connect target => (s.connect target, none)
  | .send p => (s.send p, none)
  | .close => (s.close, none)
  | .next => s.next

/-- Everything that the mailbox of a link has accepted. -/
def accepted (s : Session) (id : ConnectionId) : List Payload :=
  ((s.link? id).map (·.mailbox.accepted)).getD []

/-- What the mailboxes have accepted between `s` and `s'`. -/
def handedSince (s s' : Session) : List (ConnectionId × Payload) :=
  (List.range' 1 s'.lastId).flatMap fun id =>
    ((s'.accepted id).drop (s.accepted id).length).map (id, ·)

/-- The link whose report was the last that was read between `s` and `s'`. -/
def lastSource (s s' : Session) : Option ConnectionId :=
  ((s.reports.take (s.reports.length - s'.reports.length)).getLast?).map (·.1)

/-- What is observed of a call before it has any effect. -/
def asked (s : Session) : Call → Trace
  | .connect target => [.opened (s.lastId + 1) target]
  | .send p => [.sent p]
  | .close => [.closed (if s.status = .idle then [] else s.outbox.toList)]
  | .next => []

/-- What is observed of a call. -/
def observed (s : Session) (c : Call) : Trace :=
  s.asked c ++ (s.handedSince (s.call c).1).map (fun x => .handed x.1 x.2) ++
    (s.call c).2.toList.map (.event (s.lastSource (s.call c).1))

end Session

namespace Exchange

/-- Carry a call out. -/
def call (e : Exchange) (c : Call) : Exchange :=
  { e with session := (e.session.call c).1 }

/-- The links `earlier` and `later` stay, and the link between them has the
outcome `o`. -/
def afterMove (e : Exchange) (earlier later : List Link) (id : ConnectionId)
    (o : Link.Outcome) : Exchange :=
  ⟨{ e.session with
      links := earlier ++ o.1 :: later
      reports := e.session.reports ++ (o.2.2.map (id, ·)).toList }, o.2.1⟩

/-- What is observed of a move. -/
def moveObserved (e : Exchange) (id : ConnectionId) (o : Link.Outcome) : Trace :=
  (e.network.joinedSince o.2.1).map (.joined id) ++ o.2.2.toList.map (.reported id)

/-- What happens without a call. -/
inductive Background (e : Exchange) : Trace → Exchange → Prop
  /-- The task of a link moves. -/
  | move {earlier later : List Link} {l : Link} {o : Link.Outcome} :
      e.session.links = earlier ++ l :: later → l.Move e.network o →
      Background e (e.moveObserved l.id o) (e.afterMove earlier later l.id o)
  /-- The task of a link will let go of its mailbox after so many payloads, or
  does so at once. -/
  | restrict (id : ConnectionId) (room : Nat) :
      Background e []
        (e.onSession (·.modifyLink id fun l => { l with mailbox := l.mailbox.restrict room }))
  /-- Something changes outside the client. -/
  | drift {n : Network} : e.network.Drift n → Background e [] { e with network := n }

/-- A run: an exchange that was reached, and the trace on the way. -/
inductive Run : Exchange → Trace → Prop
  /-- Nothing was asked for yet, and the network may be any without a
  connection. -/
  | start {n : Network} : n.peers = [] → Run { network := n } []
  | call {e : Exchange} {t : Trace} (c : Call) :
      Run e t → Run (e.call c) (t ++ e.session.observed c)
  | background {e e' : Exchange} {t u : Trace} :
      Run e t → Background e u e' → Run e' (t ++ u)

variable {e e' : Exchange} {t u : Trace}

/-! ### What may follow -/

/-- `e` comes to `e'`, with the trace on the way. -/
inductive Later (e : Exchange) : Trace → Exchange → Prop
  | refl : Later e [] e
  | call {u : Trace} {e' : Exchange} (c : Call) :
      Later e u e' → Later e (u ++ e'.session.observed c) (e'.call c)
  | background {u v : Trace} {e' e'' : Exchange} :
      Later e u e' → e'.Background v e'' → Later e (u ++ v) e''

theorem Run.later (h : Run e t) (hl : e.Later u e') : Run e' (t ++ u) := by
  induction hl with
  | refl => rwa [List.append_nil]
  | call c _ ih =>
    rw [← List.append_assoc]
    exact ih.call c
  | background _ hb ih =>
    rw [← List.append_assoc]
    exact ih.background hb

/-! ### The schedule of the running program -/

/-- The first link that can move has links before it and after it. -/
theorem stepFirst?_eq_some {n n' : Network} {links links' : List Link}
    {report : Option (ConnectionId × Report)}
    (h : stepFirst? n links = some (links', n', report)) :
    ∃ earlier l later o, links = earlier ++ l :: later ∧ l.step? n = some o ∧
      links' = earlier ++ o.1 :: later ∧ n' = o.2.1 ∧ report = o.2.2.map (l.id, ·) := by
  induction links generalizing links' with
  | nil => cases h
  | cons l ls ih =>
    rcases hs : l.step? n with - | ⟨l', n₁, r⟩
    · simp only [stepFirst?, hs, Option.map_eq_some_iff, Prod.exists, Prod.mk.injEq] at h
      obtain ⟨ls', n₁, report', hls, rfl, rfl, rfl⟩ := h
      obtain ⟨earlier, k, later, o, rfl, hk, rfl, hn, hr⟩ := ih hls
      exact ⟨l :: earlier, k, later, o, rfl, hk, rfl, hn, hr⟩
    · simp only [stepFirst?, hs, Option.some.injEq, Prod.mk.injEq] at h
      obtain ⟨rfl, rfl, rfl⟩ := h
      exact ⟨[], l, ls, _, rfl, hs, rfl, rfl, rfl⟩

/-- A step of the program is a move of one task. -/
theorem exists_move_of_step? (h : e.step? = some e') :
    ∃ earlier l later o, e.session.links = earlier ++ l :: later ∧ l.Move e.network o ∧
      e' = e.afterMove earlier later l.id o := by
  simp only [step?, Option.map_eq_some_iff, Prod.exists] at h
  obtain ⟨links, n, report, hfirst, rfl⟩ := h
  obtain ⟨earlier, l, later, o, hlinks, hstep, rfl, rfl, rfl⟩ := stepFirst?_eq_some hfirst
  exact ⟨earlier, l, later, o, hlinks, Link.move_of_step? hstep, rfl⟩

/-- No task can move. -/
def Quiet (e : Exchange) : Prop :=
  ∀ l ∈ e.session.links, ∀ o, ¬ l.Move e.network o

theorem stepFirst?_eq_none_iff {n : Network} {links : List Link} :
    stepFirst? n links = none ↔ ∀ l ∈ links, l.step? n = none := by
  induction links with
  | nil => simp [stepFirst?]
  | cons l ls ih => rcases hs : l.step? n with - | o <;> simp [stepFirst?, hs, ih]

/-- The running program stops exactly where no task can move. -/
theorem step?_eq_none_iff : e.step? = none ↔ e.Quiet := by
  rw [step?, Option.map_eq_none_iff, stepFirst?_eq_none_iff]
  exact forall₂_congr fun l _ => Link.step?_eq_none_iff

/-- Whatever every move keeps is kept until nothing moves. -/
theorem settle_induction {P : Exchange → Trace → Prop}
    (hmove : ∀ {e : Exchange} {t : Trace} {earlier later : List Link} {l : Link}
      {o : Link.Outcome}, P e t → e.session.links = earlier ++ l :: later → l.Move e.network o →
      P (e.afterMove earlier later l.id o) (t ++ e.moveObserved l.id o))
    (h : P e t) : ∃ u, P e.settle (t ++ u) := by
  have key : ∀ (steps : Nat) {e : Exchange} {t : Trace}, P e t →
      ∃ u, P (e.advance steps) (t ++ u) := by
    intro steps
    induction steps with
    | zero =>
      intro e t h
      exact ⟨[], by simpa [Exchange.advance] using h⟩
    | succ steps ih =>
      intro e t h
      rcases hs : e.step? with - | e'
      · exact ⟨[], by simpa [Exchange.advance, hs] using h⟩
      · obtain ⟨earlier, l, later, o, hlinks, hm, rfl⟩ := exists_move_of_step? hs
        obtain ⟨u, hu⟩ := ih (hmove h hlinks hm)
        exact ⟨_ ++ u, by simpa only [Exchange.advance, hs, List.append_assoc] using hu⟩
  exact key e.work h

theorem Run.settle (h : Run e t) : ∃ u, Run e.settle (t ++ u) :=
  settle_induction (P := Run) (fun h hlinks hm => h.background (.move hlinks hm)) h

/-! ### Several calls -/

/-- Carry calls out, one after the other. -/
def callAll (e : Exchange) (cs : List Call) : Exchange :=
  cs.foldl call e

/-- What is observed of them. -/
def observedAll (e : Exchange) : List Call → Trace
  | [] => []
  | c :: cs => e.session.observed c ++ (e.call c).observedAll cs

theorem Run.callAll (h : Run e t) (cs : List Call) :
    Run (e.callAll cs) (t ++ e.observedAll cs) := by
  induction cs generalizing e t with
  | nil => simpa [Exchange.callAll, observedAll] using h
  | cons c cs ih =>
    have := ih (h.call c)
    rw [List.append_assoc] at this
    exact this

end Exchange

end Provision
