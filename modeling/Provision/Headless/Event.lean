/-
The events of a headless run, each one line of JSON.

A line is an object: the event's name first, then its fields in a fixed order,
the time last.  It is compact, and the strings in it escape the quote, the
backslash and the control characters below U+0020 and nothing else, so a line
never contains a line feed and can be read back.
-/
import Provision.Text.Decimal

namespace Provision.Headless

/-- What a headless run reports, without the time. -/
inductive Event where
  /-- The request was accepted and a connection asked for. -/
  | submitted (protocol remote endpoint : String)
  | connected (endpoint : String)
  /-- A line of progress. -/
  | message (text : String)
  | complete
  /-- The request was rejected (`fatal`) or the connection failed. -/
  | error (text : String) (fatal : Bool)
  | disconnected (reason : Option String)
  deriving DecidableEq, Repr

/-- A value of a field. -/
inductive Value where
  | string (s : String)
  | bool (b : Bool)
  | int (n : Int)
  | null
  deriving DecidableEq, Repr

namespace Event

/-- The name of the event. -/
def name : Event → String
  | submitted .. => "submitted"
  | connected .. => "connected"
  | message .. => "message"
  | complete => "complete"
  | error .. => "error"
  | disconnected .. => "disconnected"

/-- The fields after the name and before the time. -/
def fields : Event → List (String × Value)
  | submitted protocol remote endpoint =>
    [("protocol", .string protocol), ("remote", .string remote), ("endpoint", .string endpoint)]
  | connected endpoint => [("endpoint", .string endpoint)]
  | message text => [("message", .string text)]
  | complete => []
  | error text fatal => [("message", .string text), ("fatal", .bool fatal)]
  | disconnected reason => [("reason", (reason.map .string).getD .null)]

end Event

/-- How one character stands in a string. -/
def escapeChar (c : Char) : List Char :=
  match c with
  | '"' => ['\\', '"']
  | '\\' => ['\\', '\\']
  | '\x08' => ['\\', 'b']
  | '\x0C' => ['\\', 'f']
  | '\n' => ['\\', 'n']
  | '\r' => ['\\', 'r']
  | '\t' => ['\\', 't']
  | _ =>
    if c.toNat < 0x20 then
      let digits := Text.Decimal.hex c.toNat
      '\\' :: 'u' :: (List.replicate (4 - digits.length) '0' ++ digits)
    else [c]

/-- A string in quotes. -/
def string (s : String) : String :=
  String.ofList ('"' :: s.toList.flatMap escapeChar ++ ['"'])

def Value.render : Value → String
  | .string s => Headless.string s
  | .bool true => "true"
  | .bool false => "false"
  | .int n => toString n
  | .null => "null"

/-- An object with these members. -/
def object (members : List (String × Value)) : String :=
  "\x7b" ++ String.intercalate "," (members.map fun (k, v) => string k ++ ":" ++ v.render) ++ "\x7d"

/-- The line of an event at a time in milliseconds. -/
def Event.line (e : Event) (timestamp : Int) : String :=
  object ((("event", .string e.name) :: e.fields) ++ [("timestamp", .int timestamp)])

end Provision.Headless
