/-
The data of a TOML document.

A document is a table.  A table remembers how it came about, because that
decides what may still be added to it: a table written in braces is finished;
one with a header of its own takes keys and further headers but no second
header; one that a header merely passed through may still get its own; and one
made by a dotted key grows by dotted keys only.
-/

namespace Provision.Toml

/-- How a table came about. -/
inductive Origin where
  /-- Written in braces. -/
  | braces
  /-- By its own header, or as the document. -/
  | header
  /-- On the way to a header. -/
  | passed
  /-- On the way of a dotted key. -/
  | dotted
  deriving DecidableEq, Repr

/-- Whether the table was never written itself. -/
def Origin.implied : Origin → Bool
  | passed | dotted => true
  | _ => false

/-- A value. -/
inductive Node where
  | string (s : String)
  | integer (n : Int)
  /-- A floating-point number, as written. -/
  | float (text : String)
  | boolean (b : Bool)
  /-- A date, a time or both, as written. -/
  | datetime (text : String)
  | array (items : List Node)
  | table (origin : Origin) (entries : List (String × Node))
  /-- An array of tables that headers with two brackets made. -/
  | tables (items : List Node)
  deriving Inhabited

/-- The keys of a table with their values, in order. -/
abbrev Entries := List (String × Node)

/-- The value of a key. -/
def Entries.get? (es : Entries) (key : String) : Option Node :=
  (es.find? (·.1 = key)).map (·.2)

/-- Put in place of the value of `key` what `f` makes of it; a key without a
value is added at the end.  There is no result when `f` has none. -/
def Entries.alter (es : Entries) (key : String) (f : Option Node → Option Node) : Option Entries :=
  match es with
  | [] => (f none).map fun v => [(key, v)]
  | (k, v) :: rest =>
    if k = key then (f (some v)).map fun v => (k, v) :: rest
    else (alter rest key f).map ((k, v) :: ·)

/-- Change the table that `path` leads to by `act`, which is told how the table
came about.  Tables missing on the way are made, as a dotted key or a header
makes them; a dotted key may pass only tables that were never written. -/
def descend (isDotted : Bool) (act : Origin → Entries → Option Entries) :
    List String → Origin → Entries → Option Entries
  | [], origin, es => act origin es
  | key :: path, _, es =>
    es.alter key fun
      | none =>
        let origin := if isDotted then .dotted else .passed
        (descend isDotted act path origin []).map (.table origin ·)
      | some (.table origin inner) =>
        if origin = .braces ∨ (isDotted ∧ !origin.implied) then none
        else (descend isDotted act path origin inner).map (.table origin ·)
      | some (.tables items) =>
        match items.getLast? with
        | some (.table origin inner) =>
          (descend isDotted act path origin inner).map fun inner =>
            .tables (items.dropLast ++ [.table origin inner])
        | _ => none
      | some _ => none

/-- Give a key a value in the table that its dots lead to.  The key must be new,
and a dotted key ends in a table that dotted keys made. -/
def insert (path : List String) (key : String) (value : Node) (origin : Origin) (es : Entries) :
    Option Entries :=
  let put : Origin → Entries → Option Entries := fun reached es =>
    if (reached == .dotted) == path.isEmpty then none
    else es.alter key fun
      | none => some value
      | some _ => none
  descend true put path origin es

/-- Begin the table of a header. -/
def beginTable (path : List String) (key : String) (root : Entries) : Option Entries :=
  let put : Origin → Entries → Option Entries := fun _ es =>
    es.alter key fun
      | none => some (.table .header [])
      | some (.table .passed inner) => some (.table .header inner)
      | some _ => none
  descend false put path .header root

/-- Begin the next table of an array of tables. -/
def beginItem (path : List String) (key : String) (root : Entries) : Option Entries :=
  let put : Origin → Entries → Option Entries := fun _ es =>
    es.alter key fun
      | none => some (.tables [.table .header []])
      | some (.tables items) => some (.tables (items ++ [.table .header []]))
      | some _ => none
  descend false put path .header root

end Provision.Toml
