/-
Reading a TOML document.

`parse?` gives the top table of a document, or nothing if any line of it is
wrong.  Lines are read one after the other into the table of the last header.
-/
import Provision.Toml.Scan

namespace Provision.Toml

/-! ### Values -/

mutual

/-- A value; `fuel` bounds how deep values nest. -/
def value (fuel : Nat) (cs : List Char) : Option (Node × List Char) :=
  match cs with
  | [] => none
  | c :: rest =>
    if c = '[' then
      match fuel with
      | 0 => none
      | fuel + 1 =>
        (items fuel cs.length rest).map fun (vs, rest) => (.array vs, rest)
    else if c = '\x7b' then
      match fuel with
      | 0 => none
      | fuel + 1 =>
        (pairs fuel cs.length (Scan.spaces rest) []).map fun (es, rest) => (.table .braces es, rest)
    else if c = '"' ∨ c = '\'' then
      (Scan.string cs).map fun (s, rest) => (.string s, rest)
    else if c = 't' then
      (Scan.word? "true" cs).map fun rest => (.boolean true, rest)
    else if c = 'f' then
      (Scan.word? "false" cs).map fun rest => (.boolean false, rest)
    else if c.isDigit ∨ c = '+' ∨ c = '-' ∨ c = 'i' ∨ c = 'n' then
      Scan.numberOrTime cs
    else none
  termination_by (fuel, 1, 0)

/-- The values of an array after its bracket.  The last one may have a comma
behind it. -/
def items (fuel count : Nat) (cs : List Char) : Option (List Node × List Char) :=
  match count with
  | 0 => none
  | count + 1 =>
    match Scan.blanks cs.length cs with
    | ']' :: rest => some ([], rest)
    | cs => do
      let (v, rest) ← value fuel cs
      match Scan.blanks rest.length rest with
      | ',' :: rest =>
        let (vs, rest) ← items fuel count rest
        some (v :: vs, rest)
      | ']' :: rest => some ([v], rest)
      | _ => none
  termination_by (fuel, 2, count)

/-- The keys and values of a table in braces after its brace, added to `es`. -/
def pairs (fuel count : Nat) (cs : List Char) (es : Entries) : Option (Entries × List Char) :=
  match count with
  | 0 => none
  | count + 1 =>
    match cs with
    | '\x7d' :: rest => if es.isEmpty then some (es, rest) else none
    | _ => do
      let ((path, key), rest) ← Scan.key cs
      let rest ← Scan.mark? '=' rest
      let (v, rest) ← value fuel (Scan.spaces rest)
      let es ← insert path key v .braces es
      match Scan.spaces rest with
      | ',' :: rest => pairs fuel count (Scan.spaces rest) es
      | '\x7d' :: rest => some (es, rest)
      | _ => none
  termination_by (fuel, 2, count)

end

/-! ### Lines -/

/-- A document while it is read: the top table, and the last header. -/
structure Document where
  root : Entries := []
  /-- The keys that lead to the table of the last header. -/
  header : List String := []

/-- Begin the table that the header after a bracket names. -/
def Document.readHeader? (doc : Document) (cs : List Char) : Option (Document × List Char) := do
  match cs with
  | '[' :: cs =>
    let ((path, key), rest) ← Scan.key cs
    let rest ← Scan.mark? ']' rest
    let rest ← Scan.mark? ']' rest
    let root ← beginItem path key doc.root
    some ({ root, header := path ++ [key] }, ← Scan.lineEnd? rest)
  | _ =>
    let ((path, key), rest) ← Scan.key cs
    let rest ← Scan.mark? ']' rest
    let root ← beginTable path key doc.root
    some ({ root, header := path ++ [key] }, ← Scan.lineEnd? rest)

/-- Give the key at the front of a line its value, in the table of the last header. -/
def Document.readPair? (doc : Document) (cs : List Char) : Option (Document × List Char) := do
  let ((path, key), rest) ← Scan.key cs
  let rest ← Scan.mark? '=' rest
  let (v, rest) ← value Scan.depthLimit (Scan.spaces rest)
  let rest ← Scan.lineEnd? rest
  let root ← descend false (insert path key v) doc.header .header doc.root
  some ({ doc with root }, rest)

/-- Read the lines of a document to its end; `fuel` bounds their number. -/
def Document.readLines? (doc : Document) (fuel : Nat) (cs : List Char) : Option Document :=
  match fuel with
  | 0 => none
  | fuel + 1 =>
    match Scan.spaces cs with
    | [] => some doc
    | '#' :: rest => (Scan.lineEnd? ('#' :: rest)).bind (doc.readLines? fuel)
    | '[' :: rest => (doc.readHeader? rest).bind fun (doc, rest) => doc.readLines? fuel rest
    | cs =>
      match Scan.newline? cs with
      | some rest => doc.readLines? fuel rest
      | none => (doc.readPair? cs).bind fun (doc, rest) => doc.readLines? fuel rest

/-- The top table of a document.  A byte order mark at its front does not count. -/
def parse? (text : String) : Option Entries :=
  let cs := match text.toList with
    | '\uFEFF' :: rest => rest
    | cs => cs
  (({} : Document).readLines? (cs.length + 1) cs).map (·.root)

end Provision.Toml
