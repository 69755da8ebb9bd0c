/-
The channel between the engine and one of its subscribers.

The channel holds a bounded number of notices.  A subscriber that is slower
than the engine loses the oldest ones, and learns how many when it reads next.
One that reads after every message loses none, as long as no message is heard of
too often (`attend_of_fits`).
-/
import Provision.Engine

namespace Provision

/-- The notices on their way to one subscriber. -/
structure Feed where
  /-- What the subscriber has yet to read, the oldest first. -/
  waiting : List Notice := []
  /-- How many were lost before it read them. -/
  skipped : Nat := 0
  deriving DecidableEq, Repr

namespace Feed

variable {f : Feed} {notices : List Notice} {rounds : List (List Notice)}

/-- How many notices can wait. -/
def capacity : Nat := 256

/-- Tell the subscriber.  The oldest notice makes room if there is none. -/
def send (f : Feed) (notice : Notice) : Feed :=
  if f.waiting.length < capacity then { f with waiting := f.waiting ++ [notice] }
  else { waiting := f.waiting.tail ++ [notice], skipped := f.skipped + 1 }

def sendAll (f : Feed) (notices : List Notice) : Feed :=
  notices.foldl send f

/-- A subscriber that reads all there is after every round of notices: the
channel in the end, and what it has read. -/
def attend (f : Feed) : List (List Notice) → Feed × List Notice
  | [] => (f, [])
  | round :: rounds =>
    let f := f.sendAll round
    let (last, read) := attend { f with waiting := [] } rounds
    (last, f.waiting ++ read)

/-! ### Room for all -/

theorem sendAll_of_fits (h : f.waiting.length + notices.length ≤ capacity) :
    f.sendAll notices = { f with waiting := f.waiting ++ notices } := by
  induction notices generalizing f with
  | nil => simp [sendAll]
  | cons notice notices ih =>
    rw [List.length_cons] at h
    have hroom : f.waiting.length < capacity := by omega
    have hsend : f.send notice = { f with waiting := f.waiting ++ [notice] } := if_pos hroom
    show (f.send notice).sendAll notices = _
    rw [hsend, ih (by rw [List.length_append, List.length_singleton]; omega)]
    simp

/-- Rounds that fit are read in full. -/
theorem attend_of_fits (h : ∀ round ∈ rounds, round.length ≤ capacity) :
    attend {} rounds = ({}, rounds.flatten) := by
  induction rounds with
  | nil => rfl
  | cons round rounds ih =>
    obtain ⟨hround, hrest⟩ := List.forall_mem_cons.mp h
    have hsent : sendAll {} round = { waiting := round } :=
      sendAll_of_fits (by rwa [List.length_nil, Nat.zero_add])
    simp only [attend, hsent, ih hrest, List.flatten_cons]

end Feed

end Provision
