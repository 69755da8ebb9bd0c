/-
The outbox: payloads that wait for an open connection, first in first out.

Main statements, through the view `toList`: `push` appends, `drain` gives
everything once and leaves nothing, `clear` counts what it drops.
-/
import Provision.Payload

namespace Provision

/-- Payloads in the order in which they were submitted. -/
structure Outbox where
  toList : List Payload := []
  deriving DecidableEq, Repr, Inhabited

namespace Outbox

def size (q : Outbox) : Nat :=
  q.toList.length

def isEmpty (q : Outbox) : Bool :=
  q.toList.isEmpty

/-- Put a payload at the end. -/
def push (q : Outbox) (p : Payload) : Outbox :=
  ⟨q.toList ++ [p]⟩

/-- Put several payloads at the end, in order. -/
def pushAll (q : Outbox) (ps : List Payload) : Outbox :=
  ps.foldl push q

/-- Take everything out, in order. -/
def drain (q : Outbox) : List Payload × Outbox :=
  (q.toList, {})

/-- Drop everything, and say how many payloads that were. -/
def clear (q : Outbox) : Nat × Outbox :=
  (q.size, {})

@[simp] theorem toList_push (q : Outbox) (p : Payload) :
    (q.push p).toList = q.toList ++ [p] := rfl

@[simp] theorem toList_pushAll (q : Outbox) (ps : List Payload) :
    (q.pushAll ps).toList = q.toList ++ ps := by
  induction ps generalizing q with
  | nil => simp [pushAll]
  | cons p ps ih =>
    have := ih (q.push p)
    simp only [pushAll, List.foldl_cons] at this ⊢
    simp [this]

@[simp] theorem drain_fst (q : Outbox) : q.drain.1 = q.toList := rfl

@[simp] theorem toList_drain (q : Outbox) : q.drain.2.toList = [] := rfl

@[simp] theorem clear_fst (q : Outbox) : q.clear.1 = q.toList.length := rfl

@[simp] theorem toList_clear (q : Outbox) : q.clear.2.toList = [] := rfl

end Outbox

end Provision
