/-
What the session of an engine owes.

The engine asks its session for one connection and one command at a time.
`Ledger` is what stays true of the session whatever the phase: its connections
are those of the requests so far, and each was handed nothing or its own
command.  `Agrees` ties it to a phase.  Each of the three things that the
engine does to its session, to start, to stop and to listen, keeps the ledger
and brings the session to where the next phase wants it.
-/
import Provision.Proofs.Session.Background
import Provision.Request.Command
import Provision.Phase

namespace Provision

/-- The payload that installs what a request asks for. -/
def Request.payload (r : Request) : Payload :=
  .text (Request.Command.encode r)

namespace Session

variable {s s' : Session} {endpoint : String} {rs : List Request} {phase : Phase}
  {c : Call} {done : List Payload}

/-- The connections so far are those of the requests `rs`. -/
structure Ledger (s : Session) (endpoint : String) (rs : List Request) : Prop where
  coherent : s.Coherent
  lastId : s.lastId = rs.length
  targets : ∀ l ∈ s.links, l.target = endpoint
  /-- Nothing was handed over but the command of the connection's own request. -/
  commands : ∀ id, s.accepted id = [] ∨
    ∃ i r, id = i + 1 ∧ rs[i]? = some r ∧ s.accepted id = [r.payload]

/-- The last command was handed over, or is queued. -/
def Owes (s : Session) (rs : List Request) : Prop :=
  ∃ r, rs.getLast? = some r ∧ s.accepted s.lastId ++ s.outbox.toList = [r.payload]

/-- The session is where a phase wants it. -/
def Agrees (s : Session) (rs : List Request) : Phase → Prop
  | .connecting => s.status = .connecting ∧ s.accepted s.lastId = [] ∧ s.Owes rs
  | .installing => s.status = .opened ∧ s.Owes rs
  | .idle | .complete | .failed _ | .cancelled => s.status = .idle ∧ s.outbox.toList = []

theorem agrees_of_idle (hp : phase.inProgress = false) :
    s.Agrees rs phase ↔ s.status = .idle ∧ s.outbox.toList = [] := by
  cases phase with
  | connecting | installing => cases hp
  | idle | complete | failed | cancelled => exact Iff.rfl

/-- While a session runs, the connection is there and the command is on its
way. -/
theorem Agrees.running (h : s.Agrees rs phase) (hp : phase.inProgress = true) :
    (s.status = .connecting ∨ s.status = .opened) ∧ s.Owes rs := by
  cases phase with
  | connecting => exact ⟨.inl h.1, h.2.2⟩
  | installing => exact ⟨.inr h.1, h.2⟩
  | idle | complete | failed | cancelled => cases hp

theorem Agrees.inProgress (h : s.Agrees rs phase) (hs : s.status ≠ .idle) :
    phase.inProgress = true := by
  by_cases hp : phase.inProgress = true
  · exact hp
  · exact absurd ((agrees_of_idle (by simpa using hp)).mp h).1 hs

/-- Of the session, only its state, its queue and the followed link matter. -/
theorem agrees_congr (hstatus : s'.status = s.status) (hlast : s'.lastId = s.lastId)
    (hacc : s'.accepted s.lastId = s.accepted s.lastId)
    (hout : s'.outbox.toList = s.outbox.toList) : s'.Agrees rs phase ↔ s.Agrees rs phase := by
  cases phase <;> simp [Agrees, Owes, hstatus, hlast, hacc, hout]

/-! ### Calls that start no connection -/

/-- The ledger survives a call, if what is handed over is the last command. -/
theorem Ledger.flow (h : s.Ledger endpoint rs) (hf : Flow s s' c done)
    (hlast : s'.lastId = s.lastId)
    (hdone : done = [] ∨ ∃ r, rs.getLast? = some r ∧ s'.accepted s.lastId = [r.payload]) :
    s'.Ledger endpoint rs := by
  refine ⟨hf.coherent, hlast.trans h.lastId, fun l' hl' => ?_, fun id => ?_⟩
  · rcases hf.links l' hl' with ⟨l, hl, hspared⟩ | ⟨target, -, rfl⟩
    · rw [hspared.target]
      exact h.targets l hl
    · -- A new link would have a new number.
      have := (hf.coherent.id_mem hl').2
      rw [hlast] at this
      exact absurd this (Nat.not_succ_le_self _)
  · -- Only the followed link is handed something, and that is the newest one.
    by_cases hid : s.active = some id
    · obtain ⟨rfl, hpos⟩ := h.coherent.active_eq hid
      rcases hdone with rfl | ⟨r, hr, hacc⟩
      · rw [hf.accepted, ite_self, List.append_nil]
        exact h.commands _
      · refine .inr ⟨s.lastId - 1, r, (Nat.sub_add_cancel hpos).symm, ?_, hacc⟩
        rw [h.lastId, ← List.getLast?_eq_getElem?]
        exact hr
    · rw [hf.accepted, if_neg hid, List.append_nil]
      exact h.commands id

/-- To stop: the session is idle then, and nothing is queued. -/
theorem Ledger.close (h : s.Ledger endpoint rs) (hs : s.status ≠ .idle)
    (hp : phase.inProgress = false) : s.close.Ledger endpoint rs ∧ s.close.Agrees rs phase := by
  refine ⟨h.flow (close_flow h.coherent) s.close_fields.1 (.inl rfl), ?_⟩
  rw [agrees_of_idle hp]
  simp [Session.close, hs]

/-! ### To start -/

/-- To start: the command is all that is queued for the new connection. -/
theorem Ledger.start (h : s.Ledger endpoint rs) (ha : s.Agrees rs phase)
    (hp : phase.inProgress = false) (r : Request) :
    ((s.connect endpoint).send r.payload).Ledger endpoint (rs ++ [r]) ∧
      ((s.connect endpoint).send r.payload).Agrees (rs ++ [r]) .connecting := by
  obtain ⟨-, hempty⟩ := (agrees_of_idle hp).mp ha
  have hf := connect_flow h.coherent endpoint
  obtain ⟨done, hf'⟩ := send_flow hf.coherent r.payload
  -- The connection is not open yet, so the command is queued.
  have hsend : (s.connect endpoint).send r.payload =
      { s.connect endpoint with outbox := (s.connect endpoint).outbox.push r.payload } := by
    simp [send, connect]
  have hacc : ∀ id, ((s.connect endpoint).send r.payload).accepted id = s.accepted id := by
    intro id
    rw [hsend]
    exact s.accepted_connect endpoint id
  have hlast : ((s.connect endpoint).send r.payload).lastId = s.lastId + 1 := by
    rw [hsend]
    simp [connect]
  have hnew : s.accepted (s.lastId + 1) = [] := accepted_eq_nil h.coherent.succ_lastId_not_mem
  constructor
  · refine ⟨hf'.coherent, ?_, fun l' hl' => ?_, fun id => ?_⟩
    · rw [hlast, h.lastId]
      simp
    · rw [hsend] at hl'
      rcases hf.links l' hl' with ⟨l, hl, hspared⟩ | ⟨target, htarget, rfl⟩
      · rw [hspared.target]
        exact h.targets l hl
      · cases htarget
        rfl
    · rw [hacc]
      rcases h.commands id with hnone | ⟨i, q, hid, hq, hcommand⟩
      · exact .inl hnone
      · refine .inr ⟨i, q, hid, ?_, hcommand⟩
        rw [List.getElem?_append_left (List.getElem?_eq_some_iff.mp hq).1]
        exact hq
  · refine ⟨by rw [hsend]; rfl, by rw [hlast, hacc, hnew], r, by simp, ?_⟩
    rw [hlast, hacc, hnew, hsend]
    simp [connect, hempty]

/-! ### To listen -/

/-- Handing over what is queued is no news for what is owed. -/
theorem Owes.flow (h : s.Owes rs) (hf : Flow s s' .next done) (hlast : s'.lastId = s.lastId)
    (ha : s.active = some s.lastId) : s'.Owes rs := by
  obtain ⟨r, hr, hsum⟩ := h
  refine ⟨r, hr, ?_⟩
  have hbalance : done ++ s'.outbox.toList = s.outbox.toList := hf.balance
  rw [hlast, hf.accepted, if_pos ha, List.append_assoc, hbalance]
  exact hsum

/-- What was handed over of a single payload is nothing or all of it. -/
theorem Owes.handed (h : s.Owes rs) : s.accepted s.lastId = [] ∨
    ∃ r, rs.getLast? = some r ∧ s.accepted s.lastId = [r.payload] := by
  obtain ⟨r, hr, hsum⟩ := h
  rcases List.append_eq_singleton_iff.mp hsum with ⟨hnone, -⟩ | ⟨hall, -⟩
  · exact .inl hnone
  · exact .inr ⟨r, hr, hall⟩

/-- To listen: the ledger is kept, and what is owed is still owed. -/
theorem Ledger.next (h : s.Ledger endpoint rs) (ha : s.Agrees rs phase) :
    s.next.1.Ledger endpoint rs ∧ (s.active ≠ none → s.next.1.Owes rs) := by
  obtain ⟨done, hf⟩ := next_flow h.coherent
  have howes : s.active ≠ none → s.next.1.Owes rs := by
    intro hactive
    have hrun := h.coherent.running_of_active hactive
    have hne : s.status ≠ .idle := by rcases hrun with hrun | hrun <;> simp [hrun]
    have howed := (ha.running (ha.inProgress hne)).2
    exact howed.flow hf s.lastId_next (h.coherent.active_of_running hrun)
  refine ⟨h.flow hf s.lastId_next ?_, howes⟩
  by_cases hactive : s.active = none
  · exact .inl (hf.done_eq_nil hactive)
  · obtain ⟨i, hi⟩ := Option.ne_none_iff_exists'.mp hactive
    have hlast := h.coherent.active_eq hi
    refine (howes hactive).handed.imp (fun hnone => ?_) fun hcommand => ?_
    · rw [s.lastId_next, hf.accepted, hi, hlast.1, if_pos rfl] at hnone
      exact (List.append_eq_nil_iff.mp hnone).2
    · rw [s.lastId_next] at hcommand
      exact hcommand

/-- Nothing to hear: everything stays as it is. -/
theorem Agrees.next_none (h : s.Agrees rs phase) (hnone : s.next.2 = none) :
    s.next.1.Agrees rs phase := by
  rcases s.next_cases with ⟨-, hnext⟩ | ⟨_, _, r, _, -, -, -, hnext⟩
  · rw [hnext]
    exact (agrees_congr rfl rfl rfl rfl).mpr h
  · rw [hnext] at hnone
    cases hnone

/-- Where an event finds the session: the news that the connection is open
finds it at the next phase, the end finds it closed, and other news where it
was. -/
def FoundBy (s : Session) (rs : List Request) (phase : Phase) : Event → Prop
  | .opened => s.Agrees rs .installing
  | .closed _ => s.status = .closed
  | .message _ | .error _ => s.Agrees rs phase

/-- Something is heard only while a session runs. -/
theorem Ledger.next_some (h : s.Ledger endpoint rs) (ha : s.Agrees rs phase) {event : Event}
    (hsome : s.next.2 = some event) :
    phase.inProgress = true ∧ s.next.1.status ≠ .idle ∧ s.next.1.FoundBy rs phase event := by
  have howes := (h.next ha).2
  rcases s.next_cases with ⟨-, hnext⟩ | ⟨_, id, r, rest, -, -, hactive, hnext⟩
  · rw [hnext] at hsome
    cases hsome
  · have hrun := h.coherent.running_of_active (by simp [hactive])
    have hne : s.status ≠ .idle := by rcases hrun with hrun | hrun <;> simp [hrun]
    have howes := howes (by simp [hactive])
    refine ⟨ha.inProgress hne, ?_⟩
    rw [hnext] at hsome howes ⊢
    cases hsome
    have hsame : Agrees { s with reports := rest } rs phase :=
      (agrees_congr rfl rfl rfl rfl).mpr ha
    cases r with
    | opened =>
      -- The command is flushed, as far as the task takes it.
      have hopen : (s.react .opened).status = .opened :=
        (flush_fields { s with status := .opened }).1
      exact ⟨by simp [hopen], hopen, howes⟩
    | frame | failed => exact ⟨hne, hsame⟩
    | ended info => exact ⟨by simp [react], rfl⟩

/-! ### The background -/

theorem Ledger.background {e e' : Exchange} {u : Trace} (h : e.session.Ledger endpoint rs)
    (hb : e.Background u e') : e'.session.Ledger endpoint rs := by
  obtain ⟨-, -, -, hlast, -⟩ := hb.session
  refine ⟨hb.coherent h.coherent, hlast.trans h.lastId, fun l' hl' => ?_, fun id => ?_⟩
  · obtain ⟨l, hl, hkept⟩ := hb.kept h.coherent hl'
    rw [hkept.target]
    exact h.targets l hl
  · rw [hb.accepted]
    exact h.commands id

theorem Agrees.background {e e' : Exchange} {u : Trace} (h : e.session.Agrees rs phase)
    (hb : e.Background u e') : e'.session.Agrees rs phase := by
  obtain ⟨hstatus, hout, -, hlast, -⟩ := hb.session
  exact (agrees_congr hstatus hlast (hb.accepted _) (by rw [hout])).mpr h

end Session

end Provision
