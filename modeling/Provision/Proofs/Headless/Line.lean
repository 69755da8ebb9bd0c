/-
Lines of events are read back.

A line is one JSON object and nothing in it breaks the line: no character of it
is below U+0020 (`le_of_mem_object`).  Read as JSON it gives its members, and the
tag, the fields and the time, looked up by their keys, give the event again
(`told?_document`, `time?_document`).  So a line stands for one event.  A text of
several lines is cut where the lines end (`Text.lines_intercalate`), and stands
for one row of events.

Main result: `lines_lossless`.
-/
import Mathlib.Data.List.TakeWhile
import Provision.Proofs.Json.Reading
import Provision.Text.Lines

namespace Provision

/-! ### Lines of a text -/

namespace Text

variable {line rest : List Char} {ls : List (List Char)}

theorem dropReturn_eq (h : '\r' ∉ line) : dropReturn line = line :=
  if_neg fun hlast => h (List.mem_of_getLast? hlast)

theorem ne_feed_of_mem (h : '\n' ∉ line) : ∀ c ∈ line, decide (c ≠ '\n') = true := by
  intro c hc
  rw [decide_eq_true_eq]
  rintro rfl
  exact h hc

theorem lines_append_feed (hfeed : '\n' ∉ line) (hreturn : '\r' ∉ line) :
    lines (line ++ '\n' :: rest) = line :: lines rest := by
  have hdrop : (line ++ '\n' :: rest).dropWhile (· ≠ '\n') = '\n' :: rest := by
    rw [List.dropWhile_append_of_pos (ne_feed_of_mem hfeed)]
    rfl
  have htake : (line ++ '\n' :: rest).takeWhile (· ≠ '\n') = line := by
    rw [List.takeWhile_append_of_pos (ne_feed_of_mem hfeed), List.takeWhile_cons_of_neg (by decide),
      List.append_nil]
  obtain ⟨c, cs, hcs⟩ : ∃ c cs, line ++ '\n' :: rest = c :: cs :=
    List.exists_cons_of_ne_nil (by simp)
  rw [hcs] at hdrop htake ⊢
  rw [lines]
  split
  · next heq => rw [hdrop] at heq; cases heq
  · next heq =>
    rw [hdrop] at heq
    cases heq
    rw [htake, dropReturn_eq hreturn]

/-- A last line needs no line feed. -/
theorem lines_of_last (hne : line ≠ []) (hfeed : '\n' ∉ line) : lines line = [line] := by
  have hdrop : line.dropWhile (· ≠ '\n') = [] :=
    List.dropWhile_eq_nil_iff.mpr (ne_feed_of_mem hfeed)
  obtain ⟨c, cs, rfl⟩ := List.exists_cons_of_ne_nil hne
  rw [lines]
  split
  · rfl
  · next heq => rw [hdrop] at heq; cases heq

/-- A text cut at its line feeds: lines with something in them are found again. -/
theorem lines_intercalate (h : ∀ line ∈ ls, line ≠ [] ∧ '\n' ∉ line ∧ '\r' ∉ line) :
    lines (['\n'].intercalate ls) = ls := by
  induction ls with
  | nil => rw [List.intercalate_nil, lines]
  | cons line ls ih =>
    obtain ⟨hne, hfeed, hreturn⟩ := h line List.mem_cons_self
    cases ls with
    | nil => rw [List.intercalate_singleton, lines_of_last hne hfeed]
    | cons next ls =>
      rw [List.intercalate_cons_cons, List.append_assoc, List.singleton_append,
        lines_append_feed hfeed hreturn, ih fun l hl => h l (List.mem_cons_of_mem line hl)]

/-- The same with a line feed behind each line. -/
theorem lines_flatMap (h : ∀ line ∈ ls, '\n' ∉ line ∧ '\r' ∉ line) :
    lines (ls.flatMap (· ++ ['\n'])) = ls := by
  induction ls with
  | nil => rw [List.flatMap_nil, lines]
  | cons line ls ih =>
    obtain ⟨hfeed, hreturn⟩ := h line List.mem_cons_self
    rw [List.flatMap_cons, List.append_assoc, List.singleton_append,
      lines_append_feed hfeed hreturn, ih fun l hl => h l (List.mem_cons_of_mem line hl)]

end Text

namespace Headless

variable {c : Char} {e : Event} {t : Int64}

/-! ### Characters of a line -/

theorem le_of_all {cs : List Char} (h : (cs.all fun c => decide (0x20 ≤ c.toNat)) = true) :
    ∀ c ∈ cs, 0x20 ≤ c.toNat :=
  fun c hc => of_decide_eq_true (List.all_eq_true.mp h c hc)

theorem le_of_mem_escapeChar {x : Char} (h : c ∈ escapeChar x) : 0x20 ≤ c.toNat := by
  revert h
  fun_cases escapeChar x with
  | case1 | case2 | case3 | case4 | case5 | case6 | case7 =>
    simp only [List.mem_cons, List.not_mem_nil, or_false]
    rintro (rfl | rfl) <;> decide
  | case8 _ hcontrol =>
    obtain ⟨-, hdigits, -⟩ := Text.Decimal.read?_fourDigits hcontrol
    rw [if_pos hcontrol]
    intro h
    -- A backslash, the letter, and four digits.
    rcases List.mem_cons.mp h with rfl | h
    · decide
    rcases List.mem_cons.mp h with rfl | h
    · decide
    exact (hdigits c h).1
  | case9 _ hcontrol =>
    rw [if_neg hcontrol, List.mem_singleton]
    rintro rfl
    omega

theorem le_of_mem_string {s : String} (h : c ∈ (string s).toList) : 0x20 ≤ c.toNat := by
  have hquote : 0x20 ≤ ('"').toNat := by decide
  rw [string, String.toList_ofList, List.cons_append, List.mem_cons, List.mem_append,
    List.mem_singleton] at h
  rcases h with rfl | h | rfl
  · exact hquote
  · obtain ⟨x, -, hx⟩ := List.mem_flatMap.mp h
    exact le_of_mem_escapeChar hx
  · exact hquote

theorem le_of_mem_render {v : Value} (h : c ∈ v.render.toList) : 0x20 ≤ c.toNat := by
  have hdigits : ∀ n, c ∈ Nat.toDigits 10 n → 0x20 ≤ c.toNat := fun n hc =>
    Nat.le_trans (by decide)
      (Text.Decimal.toNat_of_isDigit (Text.Decimal.isDigit_of_mem_toDigits hc)).1
  cases v with
  | string s => exact le_of_mem_string h
  | bool b =>
    cases b <;> exact le_of_all (by decide) c h
  | null => exact le_of_all (by decide) c h
  | int n =>
    cases n with
    | ofNat m =>
      rw [Value.toList_render_ofNat] at h
      exact hdigits m h
    | negSucc m =>
      rw [Value.toList_render_negSucc, List.mem_cons] at h
      rcases h with rfl | h
      · decide
      · exact hdigits (m + 1) h

theorem le_of_mem_intercalate {ls : List (List Char)} {separator : List Char}
    (hseparator : ∀ c ∈ separator, 0x20 ≤ c.toNat) (hls : ∀ l ∈ ls, ∀ c ∈ l, 0x20 ≤ c.toNat)
    (h : c ∈ separator.intercalate ls) : 0x20 ≤ c.toNat := by
  induction ls with
  | nil => cases h
  | cons l ls ih =>
    cases ls with
    | nil =>
      rw [List.intercalate_singleton] at h
      exact hls l List.mem_cons_self c h
    | cons next ls =>
      rw [List.intercalate_cons_cons, List.mem_append, List.mem_append] at h
      rcases h with (h | h) | h
      · exact hls l List.mem_cons_self c h
      · exact hseparator c h
      · exact ih (fun l' hl => hls l' (List.mem_cons_of_mem l hl)) h

/-- An object stays on its line. -/
theorem le_of_mem_object {ms : List (String × Value)} (h : c ∈ (object ms).toList) :
    0x20 ≤ c.toNat := by
  rw [object, String.toList_append, String.toList_append, String.toList_intercalate,
    List.mem_append, List.mem_append] at h
  rcases h with (h | h) | h
  · exact le_of_all (by decide) c h
  · refine le_of_mem_intercalate (le_of_all (by decide)) (fun l hl c hc => ?_) h
    rw [List.map_map] at hl
    obtain ⟨⟨k, v⟩, -, rfl⟩ := List.mem_map.mp hl
    rw [Function.comp_apply, String.toList_append, String.toList_append, List.mem_append,
      List.mem_append] at hc
    rcases hc with (hc | hc) | hc
    · exact le_of_mem_string hc
    · exact le_of_all (by decide) c hc
    · exact le_of_mem_render hc
  · exact le_of_all (by decide) c h

/-! ### What a line tells -/

namespace Event

/-- The members of the line of an event. -/
def members (e : Event) (time : Int) : List (String × Value) :=
  (("event", .string e.name) :: e.fields) ++ [("timestamp", .int time)]

theorem line_eq_object (e : Event) (time : Int) : e.line time = object (e.members time) := rfl

theorem fits_of_mem_fields {m : String × Value} (h : m ∈ e.fields) : m.2.Fits := by
  revert m
  cases e with
  | disconnected reason => cases reason <;> simp [fields, Value.Fits]
  | _ => simp [fields, Value.Fits]

/-- The time is a number of 64 bits, and there is no other number. -/
theorem fits_of_mem_members {m : String × Value} (h : m ∈ e.members t.toInt) : m.2.Fits := by
  have htime : (Value.int t.toInt).Fits := by
    have hle := t.le_toInt
    have hlt := t.toInt_lt
    exact ⟨hle, by omega⟩
  rw [members, List.mem_append, List.mem_cons, List.mem_singleton] at h
  rcases h with (rfl | h) | rfl
  · trivial
  · exact fits_of_mem_fields h
  · exact htime

/-- The event that an object tells: its tag says which fields it has. -/
def told? (d : Json.Document) : Option Event := do
  match ← d.text? "event" with
  | "submitted" =>
    return submitted (← d.text? "protocol") (← d.text? "remote") (← d.text? "endpoint")
  | "connected" => return connected (← d.text? "endpoint")
  | "message" => return message (← d.text? "message")
  | "complete" => return complete
  | "error" => return error (← d.text? "message") (← (← d.member? "fatal").boolean?)
  | "disconnected" =>
    match ← d.member? "reason" with
    | .null => return disconnected none
    | reason => return disconnected (some (← reason.string?))
  | _ => none

/-- The time that it gives, a number of 64 bits. -/
def time? (d : Json.Document) : Option Int64 := do
  let n ← (← d.member? "timestamp").integer?
  if (Int64.ofInt n).toInt = n then return Int64.ofInt n else none

/-- The line of an event, read as JSON. -/
def document (e : Event) (time : Int) : Json.Document :=
  .object ((e.members time).map fun m => (m.1, m.2.document))

/-- No key stands twice in the object, so each is found with its own value. -/
theorem told?_document (e : Event) (n : Int) : told? (e.document n) = some e := by
  cases e with
  | submitted | connected | message | complete | error => rfl
  | disconnected reason => cases reason <;> rfl

theorem time?_document (e : Event) (t : Int64) : time? (e.document t.toInt) = some t := by
  have hmember : (e.document t.toInt).member? "timestamp" = some (.number (.integer t.toInt)) := by
    cases e with
    | submitted | connected | message | complete | error => rfl
    | disconnected reason => cases reason <;> rfl
  rw [time?, hmember]
  simp only [bind, Option.bind, Json.Document.integer?, Int64.ofInt_toInt, if_true]
  rfl

theorem read?_line (e : Event) (t : Int64) :
    Json.Document.read? (e.line t.toInt) = some (e.document t.toInt) :=
  Json.Document.read?_object fun _ => fits_of_mem_members

/-- The event of a line, with its time. -/
def ofLine? (line : List Char) : Option (Event × Int64) := do
  let d ← Json.Document.read? (String.ofList line)
  return (← told? d, ← time? d)

theorem ofLine?_line (e : Event) (t : Int64) : ofLine? (e.line t.toInt).toList = some (e, t) := by
  rw [ofLine?, String.ofList_toList, read?_line]
  simp only [bind, Option.bind, told?_document, time?_document]
  rfl

/-- The events of a text, one on each line. -/
def ofText? (text : String) : Option (List (Event × Int64)) :=
  (Text.lines text.toList).mapM ofLine?

/-- The characters of the lines of events. -/
def lineChars (es : List (Event × Int64)) : List (List Char) :=
  es.map fun (e, t) => (e.line t.toInt).toList

theorem mapM_ofLine? (es : List (Event × Int64)) : (lineChars es).mapM ofLine? = some es := by
  have hline : ofLine? ∘ (fun (e, t) => (e.line t.toInt).toList) = pure :=
    funext fun (e, t) => ofLine?_line e t
  rw [lineChars, List.mapM_map, hline, List.mapM_pure, List.map_id']
  rfl

/-- A line is not empty, and neither a line feed nor a carriage return is in it. -/
theorem line_unbroken (e : Event) (time : Int) :
    (e.line time).toList ≠ [] ∧ '\n' ∉ (e.line time).toList ∧ '\r' ∉ (e.line time).toList := by
  rw [line_eq_object]
  refine ⟨?_, fun h => ?_, fun h => ?_⟩
  · rw [object, String.toList_append, String.toList_append]
    exact List.cons_ne_nil _ _
  · exact absurd (le_of_mem_object h) (by decide)
  · exact absurd (le_of_mem_object h) (by decide)

theorem unbroken_of_mem_lineChars {es : List (Event × Int64)} {line : List Char}
    (h : line ∈ lineChars es) : line ≠ [] ∧ '\n' ∉ line ∧ '\r' ∉ line := by
  obtain ⟨⟨e, t⟩, -, rfl⟩ := List.mem_map.mp h
  exact e.line_unbroken t.toInt

end Event

/-- Nothing of an event is lost on its line.  No character of the line is below U+0020;
read as JSON it is an object, and the tag, the fields and the time in it give the event
again.  So two events that differ have lines that differ, and lines with line feeds
between them, or with one behind each, are read back event by event. -/
theorem lines_lossless :
    (∀ (e : Event) (t : Int64),
      (∀ c ∈ (e.line t.toInt).toList, 0x20 ≤ c.toNat) ∧
      Json.Document.read? (e.line t.toInt) = some (e.document t.toInt) ∧
      Event.told? (e.document t.toInt) = some e ∧ Event.time? (e.document t.toInt) = some t) ∧
    (∀ (e e' : Event) (t t' : Int64), e.line t.toInt = e'.line t'.toInt → e = e' ∧ t = t') ∧
    ∀ es : List (Event × Int64),
      Event.ofText? (String.intercalate "\n" (es.map fun (e, t) => e.line t.toInt)) = some es ∧
      Event.ofText? (String.join (es.map fun (e, t) => e.line t.toInt ++ "\n")) = some es := by
  refine ⟨fun e t => ?_, fun e e' t t' h => ?_, fun es => ⟨?_, ?_⟩⟩
  · exact ⟨fun c => le_of_mem_object, e.read?_line t, e.told?_document t.toInt,
      e.time?_document t⟩
  · -- What is read from the one line is read from the other.
    have hsame := e.ofLine?_line t
    rw [h, e'.ofLine?_line t'] at hsame
    cases hsame
    exact ⟨rfl, rfl⟩
  · have hchars : (String.intercalate "\n" (es.map fun (e, t) => e.line t.toInt)).toList =
        ['\n'].intercalate (Event.lineChars es) := by
      rw [String.toList_intercalate, List.map_map]
      rfl
    rw [Event.ofText?, hchars,
      Text.lines_intercalate fun _ => Event.unbroken_of_mem_lineChars, Event.mapM_ofLine?]
  · have hchars : (String.join (es.map fun (e, t) => e.line t.toInt ++ "\n")).toList =
        (Event.lineChars es).flatMap (· ++ ['\n']) := by
      simp only [String.toList_join, Event.lineChars, List.flatMap_map, String.toList_append]
      rfl
    rw [Event.ofText?, hchars,
      Text.lines_flatMap fun _ h => (Event.unbroken_of_mem_lineChars h).2, Event.mapM_ofLine?]

end Headless

end Provision
