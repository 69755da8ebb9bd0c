/-
The session: the one connection to the backend, and the outbox before it.

`connect` starts a connection and lets go of the one before it; `send` hands a
payload to the connection if it is open and queues it otherwise; `close` gives
up the connection and what is queued; `receive` reads one report of a task.
A report of a link that is not the active one is dropped, so nothing of an old
connection ever shows.

`next` reads reports until one of them is an event.
-/
import Provision.Outbox
import Provision.Session.Link

namespace Provision

/-- How far the session's connection is. -/
inductive Status where
  /-- There is none, or the last one was closed from this end. -/
  | idle
  | connecting
  /-- Payloads go straight to the connection. -/
  | opened
  /-- The connection ended by itself. -/
  | closed
  deriving DecidableEq, Repr, Inhabited

/-- What the session tells its owner. -/
inductive Event where
  | opened
  | message (p : Payload)
  /-- Something failed; the end follows. -/
  | error (reason : String)
  /-- The connection ended, and not from this end. -/
  | closed (info : CloseInfo)
  deriving DecidableEq, Repr

/-- The session and its links. -/
structure Session where
  status : Status := .idle
  outbox : Outbox := {}
  /-- The link that the session follows. -/
  active : Option ConnectionId := none
  /-- The number of the last connection. -/
  lastId : ConnectionId := 0
  /-- Every link so far, the newest last. -/
  links : List Link := []
  /-- The reports that were not read yet, the oldest first. -/
  reports : List (ConnectionId × Report) := []
  deriving Repr

namespace Session

/-- The link with a number. -/
def link? (s : Session) (id : ConnectionId) : Option Link :=
  s.links.find? (·.id == id)

/-- The active link. -/
def activeLink? (s : Session) : Option Link :=
  s.active.bind s.link?

/-- The address of the active link. -/
def target (s : Session) : Option String :=
  s.activeLink?.map (·.target)

/-- Change the link with a number. -/
def modifyLink (s : Session) (id : ConnectionId) (f : Link → Link) : Session :=
  { s with links := s.links.map fun l => if l.id = id then f l else l }

/-- Let go of the active link, if there is one. -/
def release (s : Session) : Session :=
  match s.active with
  | none => s
  | some id => { s.modifyLink id ({ · with hungUp := true }) with active := none }

/-- Start a connection to `target`.  What is queued stays queued for it. -/
def connect (s : Session) (target : String) : Session :=
  let s := s.release
  let id := s.lastId + 1
  { s with
    status := .connecting
    active := some id
    lastId := id
    links := s.links ++ [{ id, target }] }

/-- Hand payloads to the active link, as many as it accepts; the others, in
order. -/
def handOver (s : Session) (ps : List Payload) : Session × List Payload :=
  match s.activeLink? with
  | none => (s, ps)
  | some l =>
    let (mailbox, rest) := l.mailbox.offerAll ps
    (s.modifyLink l.id ({ · with mailbox }), rest)

/-- Transmit a payload, or queue it. -/
def send (s : Session) (p : Payload) : Session :=
  if s.status = .opened then
    let (s, rest) := s.handOver [p]
    { s with outbox := s.outbox.pushAll rest }
  else
    { s with outbox := s.outbox.push p }

/-- Hand everything that is queued to the active link.  What it does not accept
is queued again, in order. -/
def flush (s : Session) : Session :=
  match s.activeLink? with
  | none => s
  | some _ =>
    let (pending, outbox) := s.outbox.drain
    let (s, rest) := { s with outbox }.handOver pending
    { s with outbox := s.outbox.pushAll rest }

/-- Give up the connection and what is queued.  An idle session has neither to
give up: what was queued without a connection stays. -/
def close (s : Session) : Session :=
  if s.status = .idle then s
  else { s.release with outbox := s.outbox.clear.2, status := .idle }

/-- Read one report. -/
def receive (s : Session) (id : ConnectionId) (r : Report) : Session × Option Event :=
  if s.active ≠ some id then (s, none)
  else
    match r with
    | .opened => ({ s with status := .opened }.flush, some .opened)
    | .frame p => (s, some (.message p))
    | .failed reason => (s, some (.error reason))
    | .ended info => ({ s.release with status := .closed }, some (.closed info))

/-- Read reports until one of them is an event; without one, all are read. -/
def nextOf (s : Session) : List (ConnectionId × Report) → Session × Option Event
  | [] => ({ s with reports := [] }, none)
  | (id, r) :: rest =>
    match s.receive id r with
    | (s, some e) => ({ s with reports := rest }, some e)
    | (s, none) => s.nextOf rest

/-- The next event, if there is one. -/
def next (s : Session) : Session × Option Event :=
  s.nextOf s.reports

end Session

end Provision
