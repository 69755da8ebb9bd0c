/-
The log: what the backend has reported in the current session, with the
window through which it is seen.

Every entry has a number.  The numbers are given out in ascending order and
never again, also not after the log was emptied for the next session.
-/
import Provision.Log.View
import Provision.Payload

namespace Provision

/-- A time of day. -/
structure TimeOfDay where
  hour : Nat := 0
  minute : Nat := 0
  second : Nat := 0
  deriving DecidableEq, Repr, Inhabited

namespace TimeOfDay

/-- At least two decimal digits. -/
def twoDigits (n : Nat) : String :=
  if n < 10 then "0" ++ toString n else toString n

/-- Hour, minute and second with two digits each. -/
def display (t : TimeOfDay) : String :=
  twoDigits t.hour ++ ":" ++ twoDigits t.minute ++ ":" ++ twoDigits t.second

/-- The time so many seconds after midnight. -/
def ofSeconds (n : Nat) : TimeOfDay :=
  ⟨n / 3600 % 24, n / 60 % 60, n % 60⟩

end TimeOfDay

/-- One report of the backend. -/
structure LogEntry where
  id : Nat
  time : TimeOfDay
  kind : MessageKind
  message : String
  deriving DecidableEq, Repr

/-- The reports of a session, the oldest first. -/
structure Log where
  entries : List LogEntry := []
  view : LogView := {}
  /-- The number of the next entry. -/
  nextId : Nat := 0
  deriving DecidableEq, Repr, Inhabited

namespace Log

/-- Note a line of progress. -/
def push (l : Log) (time : TimeOfDay) (message : String) : Log :=
  { l with
    entries := l.entries ++ [⟨l.nextId, time, .info, message⟩]
    nextId := l.nextId + 1 }

/-- Empty the log. -/
def clear (l : Log) : Log :=
  { l with entries := [], view := {} }

/-- The newest entry. -/
def last? (l : Log) : Option LogEntry :=
  l.entries.getLast?

def size (l : Log) : Nat :=
  l.entries.length

/-- The lines of the entries. -/
def messages (l : Log) : List String :=
  l.entries.map (·.message)

/-- Change the window. -/
def scroll (l : Log) (f : LogView → LogView) : Log :=
  { l with view := f l.view }

end Log

end Provision
