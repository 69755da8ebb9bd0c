/-
What subscribers hear of a session that runs.

The entries of a log are numbered in ascending order (`Log.Numbered`), so the
entries above the last one heard of are exactly the new ones (`notices_push`).
While a session runs, a message that is no event leaves the entries alone; it
is not heard of at all, or as the end of the session (`Interlude`,
`notices_of_keeps`).
-/
import Provision.Proofs.App.Progress
import Provision.Engine

namespace Provision

/-! ### Numbers of entries -/

/-- The numbers of the entries ascend, and the next one is above them. -/
structure Log.Numbered (l : Log) : Prop where
  ascending : l.entries.Pairwise (·.id < ·.id)
  below : ∀ entry ∈ l.entries, entry.id < l.nextId

namespace Log

variable {l : Log}

theorem numbered_clear (l : Log) : l.clear.Numbered :=
  ⟨.nil, by simp [clear]⟩

theorem Numbered.push (h : l.Numbered) (time : TimeOfDay) (message : String) :
    (l.push time message).Numbered := by
  refine ⟨?_, fun entry hentry => ?_⟩
  · refine List.pairwise_append.mpr ⟨h.ascending, List.pairwise_singleton .., ?_⟩
    intro entry hentry new hnew
    rw [List.mem_singleton.mp hnew]
    exact h.below entry hentry
  · rcases List.mem_append.mp hentry with hentry | hentry
    · exact Nat.lt_succ_of_lt (h.below entry hentry)
    · rw [List.mem_singleton.mp hentry]
      exact Nat.lt_succ_self _

/-- Numbers may be left out. -/
theorem Numbered.mono {l' : Log} (h : l.Numbered) (hentries : l'.entries = l.entries)
    (hnext : l.nextId ≤ l'.nextId) : l'.Numbered := by
  refine ⟨hentries ▸ h.ascending, fun entry hentry => ?_⟩
  rw [hentries] at hentry
  exact Nat.lt_of_lt_of_le (h.below entry hentry) hnext

theorem Numbered.congr {l' : Log} (h : l.Numbered) (hentries : l'.entries = l.entries)
    (hnext : l'.nextId = l.nextId) : l'.Numbered :=
  h.mono hentries (Nat.le_of_eq hnext.symm)

/-- No entry is above the last one. -/
theorem Numbered.le_last (h : l.Numbered) {last entry : LogEntry} (hlast : l.last? = some last)
    (hentry : entry ∈ l.entries) : entry.id ≤ last.id := by
  obtain ⟨earlier, heq⟩ := List.getLast?_eq_some_iff.mp hlast
  have hascending := h.ascending
  rw [heq] at hascending hentry
  rcases List.mem_append.mp hentry with hentry | hentry
  · exact Nat.le_of_lt ((List.pairwise_append.mp hascending).2.2 entry hentry last (by simp))
  · exact Nat.le_of_eq (congrArg LogEntry.id (List.mem_singleton.mp hentry))

end Log

/-! ### Other messages while a session runs -/

namespace App

variable {a a' : App} {m : Message}

/-- `a'` has the entries of `a`, and its endpoint. -/
structure Keeps (a a' : App) : Prop where
  entries : a'.log.entries = a.log.entries
  nextId : a'.log.nextId = a.log.nextId
  endpoint : a'.endpoint = a.endpoint

theorem Keeps.messages (h : a.Keeps a') : a'.log.messages = a.log.messages := by
  rw [Log.messages, h.entries, Log.messages]

/-- While a session runs, `a` comes to `a'` by a message that is no event: the
session goes on, with the log as it was, or it is given up. -/
structure Interlude (a a' : App) : Prop extends Keeps a a' where
  phase : a'.phase = a.phase ∧ a'.quitting = false ∨ a'.phase = .cancelled

theorem interlude_perform (h : a.inProgress = true) (hq : a.quitting = false) (c : Command) :
    a.Interlude (a.perform c).1 := by
  have hself : a.Interlude a := ⟨⟨rfl, rfl, rfl⟩, .inl ⟨rfl, hq⟩⟩
  have hquit : ∀ {a' : App}, a'.log = a.log → a'.endpoint = a.endpoint → a'.phase = a.phase →
      a.Interlude a'.cancelIfQuitting.1 := by
    intro a' hlog hendpoint hphase
    rcases hquitting : a'.quitting && a'.inProgress
    · have hgoes : a'.quitting = false := by
        have hrun : a'.inProgress = true := by rw [inProgress, hphase]; exact h
        simpa [hrun] using hquitting
      simp only [cancelIfQuitting, hquitting]
      exact ⟨⟨by rw [← hlog]; rfl, by rw [← hlog]; rfl, hendpoint⟩, .inl ⟨hphase, hgoes⟩⟩
    · simp only [cancelIfQuitting, hquitting, if_true]
      exact ⟨⟨by rw [← hlog]; rfl, by rw [← hlog]; rfl, hendpoint⟩, .inr rfl⟩
  cases c with
  | focusNext | focusPrevious | nextProtocol | previousProtocol | type | backspace
  | clearField =>
    -- The form is locked.
    simp only [perform, edit, h, if_true]
    exact hself
  | submit =>
    simp only [perform, submit, h, if_true]
    exact hself
  | cancel =>
    simp only [perform, cancel, h, if_true]
    exact ⟨⟨rfl, rfl, rfl⟩, .inr rfl⟩
  | scrollUp | scrollDown | scrollToTop | scrollToBottom | pageUp | pageDown | cancelQuit =>
    exact ⟨⟨rfl, rfl, rfl⟩, .inl ⟨rfl, hq⟩⟩
  | requestQuit =>
    rcases hask : a.inProgress && a.settings.confirmQuit <;>
      exact hquit (by simp [requestQuit, hask]) (a.phase_requestQuit).2 (a.phase_requestQuit).1
  | confirmQuit | quit => exact hquit rfl rfl rfl

theorem interlude_dispatch (h : a.inProgress = true) (hq : a.quitting = false)
    (hm : ∀ event, m ≠ .event event) : a.Interlude (a.dispatch m).1 := by
  cases m with
  | event e => exact absurd rfl (hm e)
  | command c => exact interlude_perform h hq c
  | key k =>
    rcases hk : a.keyCommand k with - | c
    · rw [dispatch_key_of_none hk]
      exact ⟨⟨rfl, rfl, rfl⟩, .inl ⟨rfl, hq⟩⟩
    · rw [dispatch_key_of_some hk]
      exact interlude_perform h hq c

end App

/-! ### What is heard of -/

namespace Engine

variable {a after : App}

/-- Without a new entry, at most a new phase is heard of. -/
theorem notices_of_keeps (h : a.Keeps after) :
    notices a after =
      if a.phase = after.phase then [] else [.phaseChanged a.phase after.phase] := by
  simp [notices, Log.last?, h.entries]

/-- A new entry is heard of, and no other one. -/
theorem notices_push (h : a.log.Numbered) (text : String) :
    notices a (a.onLog (·.push a.now text)) =
      [.logAppended ⟨a.log.nextId, a.now, .info, text⟩] := by
  have hnew : (a.log.push a.now text).last? = some ⟨a.log.nextId, a.now, .info, text⟩ :=
    List.getLast?_concat ..
  rcases hlast : a.log.last? with - | last
  · have hempty : a.log.entries = [] := List.getLast?_eq_none_iff.mp hlast
    have hentries : (a.log.push a.now text).entries = [⟨a.log.nextId, a.now, .info, text⟩] := by
      simp [Log.push, hempty]
    simp [notices, App.onLog, hlast, hnew, hentries]
  · have hbelow : last.id < a.log.nextId := h.below last (List.mem_of_getLast? hlast)
    have hold : a.log.entries.filter (last.id < ·.id) = [] :=
      List.filter_eq_nil_iff.mpr fun entry hentry => by simpa using h.le_last hlast hentry
    have hfresh : (a.log.push a.now text).entries.filter (last.id < ·.id) =
        [⟨a.log.nextId, a.now, .info, text⟩] := by
      simp [Log.push, List.filter_append, hold, hbelow]
    simp [notices, App.onLog, hlast, hnew, Nat.ne_of_lt hbelow, hfresh]

end Engine

end Provision
