/-
The session together with the network: what happens by itself.

Each link can take steps whenever its task has something to do, and what it
reports waits in the session.  `step?` lets the first link that can move take
one step; `settle` repeats this until no link can move, which is after at most
`work` steps.
-/
import Provision.Session

namespace Provision

/-- A session on a network. -/
structure Exchange where
  session : Session := {}
  network : Network := {}

namespace Exchange

/-- Apply an operation of the session. -/
def onSession (e : Exchange) (f : Session → Session) : Exchange :=
  { e with session := f e.session }

/-- Apply an operation of the far side. -/
def onNetwork (e : Exchange) (f : Network → Network) : Exchange :=
  { e with network := f e.network }

/-- One step of the first of `links` that can move: the changed links, the
network, and the report with the number of its link. -/
def stepFirst? (n : Network) :
    List Link → Option (List Link × Network × Option (ConnectionId × Report))
  | [] => none
  | l :: ls =>
    match l.step? n with
    | some (l', n, report) => some (l' :: ls, n, report.map (l.id, ·))
    | none => (stepFirst? n ls).map fun (ls, n, report) => (l :: ls, n, report)

/-- One step of the first link that can move. -/
def step? (e : Exchange) : Option Exchange :=
  (stepFirst? e.network e.session.links).map fun (links, network, report) =>
    ⟨{ e.session with links, reports := e.session.reports ++ report.toList }, network⟩

/-- An upper bound for the number of steps until nothing moves. -/
def work (e : Exchange) : Nat :=
  e.session.links.foldr (fun l steps => l.work e.network + steps) 0

/-- At most so many steps. -/
def advance : Nat → Exchange → Exchange
  | 0, e => e
  | steps + 1, e =>
    match e.step? with
    | some e => e.advance steps
    | none => e

/-- Let every link move until none can. -/
def settle (e : Exchange) : Exchange :=
  e.advance e.work

/-- The next event of the session, if one is waiting. -/
def next (e : Exchange) : Exchange × Option Event :=
  let (session, event) := e.session.next
  ({ e with session }, event)

/-- The events until none is waiting, at most `limit` of them.  The connections
move after each. -/
def events : Nat → Exchange → Exchange × List Event
  | 0, e => (e, [])
  | limit + 1, e =>
    match e.next with
    | (e, none) => (e, [])
    | (e, some event) =>
      let (e, rest) := e.settle.events limit
      (e, event :: rest)

end Exchange

end Provision
