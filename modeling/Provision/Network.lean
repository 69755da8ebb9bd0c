/-
The network, seen from the far side.

An attempt to connect follows the oldest plan that the far side has made, or the
one that `usual` says when there is none: it is answered, or held until a gate
opens and answered then.  Every accepted attempt gives the far side a `Peer`, the other
end of that connection, numbered from zero.  A peer keeps everything that
either end has sent, together with how far the other end has read.
-/
import Provision.Connection

namespace Provision

/-- The answer to an attempt to connect. -/
inductive Answer where
  | accept
  /-- Refused, for this reason. -/
  | refuse (reason : String)
  deriving DecidableEq, Repr

/-- What becomes of an attempt to connect. -/
inductive Plan where
  | answer (answer : Answer)
  /-- Answered once the gate with this number is open. -/
  | hold (gate : Nat)
  deriving DecidableEq, Repr

/-- A gate that holds an attempt back. -/
structure Gate where
  /-- The answer to the attempt, once the gate is open. -/
  answer : Option Answer := none
  /-- The attempt it held was given up. -/
  deserted : Bool := false
  deriving DecidableEq, Repr

/-- The far end of one connection. -/
structure Peer where
  /-- The address that the client asked for. -/
  target : String
  /-- Everything the far side has sent. -/
  inbound : List Inbound := []
  /-- How many of these the client has read. -/
  readCount : Nat := 0
  /-- The far side has left: nothing more comes, and writes fail. -/
  left : Bool := false
  /-- Everything the client has written. -/
  written : List Payload := []
  /-- How many of these the far side has collected. -/
  collected : Nat := 0
  /-- The client has let go of the connection. -/
  released : Bool := false
  deriving DecidableEq, Repr

/-- The inbound items that the client has not read yet. -/
def Peer.unread (p : Peer) : List Inbound :=
  p.inbound.drop p.readCount

/-- Everything that lies outside the client. -/
structure Network where
  /-- The plans for the next attempts, the oldest first. -/
  plans : List Plan := []
  /-- The answer to an attempt that no plan is left for. -/
  usual : String → Answer := fun _ => .accept
  /-- How many attempts were made. -/
  attempts : Nat := 0
  gates : List Gate := []
  peers : List Peer := []
  /-- The error that every write fails with, if writes fail. -/
  writeFault : Option String := none

namespace Network

/-- Plan a refusal of the next attempt that has no plan yet. -/
def refuse (n : Network) (reason : String) : Network :=
  { n with plans := n.plans ++ [.answer (.refuse reason)] }

/-- Plan to hold the next attempt that has no plan yet back, at a new gate. -/
def hold (n : Network) : Network :=
  { n with plans := n.plans ++ [.hold n.gates.length], gates := n.gates ++ [{}] }

/-- Open a gate, with an answer to its attempt.  The result says whether somebody
was still waiting; there is none for a gate that does not exist or is open
already. -/
def openGate (n : Network) (gate : Nat) (answer : Answer) : Option Bool × Network :=
  match n.gates[gate]? with
  | none => (none, n)
  | some g =>
    if g.answer.isSome then (none, n)
    else (some !g.deserted, { n with gates := n.gates.set gate { g with answer := some answer } })

/-- The answer at a gate, if it is open. -/
def answer? (n : Network) (gate : Nat) : Option Answer :=
  (n.gates[gate]?).bind (·.answer)

/-- The attempt at a gate was given up. -/
def desert (n : Network) (gate : Nat) : Network :=
  { n with gates := n.gates.modify gate ({ · with deserted := true }) }

/-- One attempt to connect to `target`: its plan, which is used up. -/
def attempt (n : Network) (target : String) : Plan × Network :=
  match n.plans with
  | [] => (.answer (n.usual target), { n with attempts := n.attempts + 1 })
  | plan :: plans => (plan, { n with attempts := n.attempts + 1, plans })

/-- A new connection to `target`: the number of its peer. -/
def connect (n : Network) (target : String) : Nat × Network :=
  (n.peers.length, { n with peers := n.peers ++ [{ target }] })

def modifyPeer (n : Network) (peer : Nat) (f : Peer → Peer) : Network :=
  { n with peers := n.peers.modify peer f }

/-- What the client has not read yet of a peer. -/
def unread (n : Network) (peer : Nat) : List Inbound :=
  match n.peers[peer]? with
  | some p => p.unread
  | none => []

/-- Whether the far side has left a connection. -/
def hasLeft (n : Network) (peer : Nat) : Bool :=
  (n.peers[peer]?).all (·.left)

/-- The client reads one item of a peer. -/
def read (n : Network) (peer : Nat) : Network :=
  n.modifyPeer peer fun p => { p with readCount := p.readCount + 1 }

/-- The client lets go of a connection. -/
def release (n : Network) (peer : Nat) : Network :=
  n.modifyPeer peer ({ · with released := true })

/-- The client writes a payload, or learns why it cannot. -/
def write (n : Network) (peer : Nat) (p : Payload) : Except Error Network :=
  match n.writeFault with
  | some text => .error (.transport text)
  | none =>
    if n.hasLeft peer then .error (.transport "mock peer hung up")
    else .ok (n.modifyPeer peer fun q => { q with written := q.written ++ [p] })

/-! ### What the far side does with its end of a connection -/

/-- A peer that the far side still has. -/
def present? (n : Network) (peer : Nat) : Option Peer :=
  (n.peers[peer]?).filter (!·.left)

/-- Send an item to the client. -/
def deliver (n : Network) (peer : Nat) (item : Inbound) : Network :=
  n.modifyPeer peer fun p => { p with inbound := p.inbound ++ [item] }

/-- Leave the connection. -/
def leave (n : Network) (peer : Nat) : Network :=
  n.modifyPeer peer ({ · with left := true })

/-- Collect what the client has written since the last time. -/
def collect (n : Network) (peer : Nat) : Network :=
  n.modifyPeer peer fun p => { p with collected := p.written.length }

end Network

end Provision
