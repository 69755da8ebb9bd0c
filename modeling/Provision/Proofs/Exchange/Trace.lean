/-
Traces: what can be observed of a run, in the order in which it happens.

Both sides of a session leave observations.  The owner's calls leave what was
asked for, what the mailboxes accepted and what event came back; the tasks
leave their reports and the connections that come about.  The statements about
a run are about the functions of its trace that are defined here.
-/
import Provision.Session

namespace Provision

/-- One thing that can be observed of a run. -/
inductive Observation where
  /-- The session was asked to connect; this is its connection number `id`. -/
  | opened (id : ConnectionId) (target : String)
  /-- A payload was submitted. -/
  | sent (p : Payload)
  /-- The mailbox of a link accepted a payload. -/
  | handed (id : ConnectionId) (p : Payload)
  /-- The session was closed.  Unless it was idle, `lost` was queued then. -/
  | closed (lost : List Payload)
  /-- The session gave an event, on reading a report of the link `source`. -/
  | event (source : Option ConnectionId) (e : Event)
  /-- The task of a link made a report. -/
  | reported (id : ConnectionId) (r : Report)
  /-- The connection of a link came about, with this peer. -/
  | joined (id : ConnectionId) (peer : Nat)
  deriving DecidableEq, Repr

/-- The observations of a run, the oldest first. -/
abbrev Trace := List Observation

namespace Trace

/-! ### The outbound side -/

/-- Everything submitted. -/
def sent (t : Trace) : List Payload :=
  t.filterMap fun | .sent p => some p | _ => none

/-- Everything handed over, with the links that accepted it. -/
def handed (t : Trace) : List (ConnectionId × Payload) :=
  t.filterMap fun | .handed id p => some (id, p) | _ => none

/-- Everything handed over to one link. -/
def handedTo (t : Trace) (id : ConnectionId) : List Payload :=
  (t.handed.filter (·.1 = id)).map (·.2)

/-- What an observation leaves of the payloads that are on their way: a
submission adds one, and a close takes those away that it finds in the queue,
the newest. -/
def survive (ps : List Payload) : Observation → List Payload
  | .sent p => ps ++ [p]
  | .closed lost => ps.take (ps.length - lost.length)
  | _ => ps

/-- Everything submitted except for what was queued at a close. -/
def survivors (t : Trace) : List Payload :=
  t.foldl survive []

/-- The connections that came about, with their peers. -/
def joined (t : Trace) : List (ConnectionId × Nat) :=
  t.filterMap fun | .joined id peer => some (id, peer) | _ => none

/-- The peers of one link. -/
def joinedBy (t : Trace) (id : ConnectionId) : List Nat :=
  (t.joined.filter (·.1 = id)).map (·.2)

/-! ### The inbound side -/

/-- The connections that were asked for, with their addresses. -/
def opens (t : Trace) : List (ConnectionId × String) :=
  t.filterMap fun | .opened id target => some (id, target) | _ => none

/-- What an observation leaves of the connection that the owner wants. -/
def follow (current : Option ConnectionId) : Observation → Option ConnectionId
  | .opened id _ => some id
  | .closed _ => none
  | _ => current

/-- The connection asked for last, unless the session was closed since. -/
def current (t : Trace) : Option ConnectionId :=
  t.foldl follow none

/-- The events that the session gave on reports of one link. -/
def eventsOf (t : Trace) (id : ConnectionId) : List Event :=
  t.filterMap fun
    | .event source e => if source = some id then some e else none
    | _ => none

/-- The reports of one link. -/
def reportsOf (t : Trace) (id : ConnectionId) : List Report :=
  t.filterMap fun | .reported i r => if i = id then some r else none | _ => none

/-! ### Appending -/

variable (t u : Trace)

@[simp] theorem handed_append : handed (t ++ u) = handed t ++ handed u :=
  List.filterMap_append ..

@[simp] theorem handedTo_append (id : ConnectionId) :
    handedTo (t ++ u) id = handedTo t id ++ handedTo u id := by
  simp [handedTo]

theorem survivors_append : survivors (t ++ u) = u.foldl survive (survivors t) :=
  List.foldl_append ..

@[simp] theorem sent_append : sent (t ++ u) = sent t ++ sent u :=
  List.filterMap_append ..

@[simp] theorem joined_append : joined (t ++ u) = joined t ++ joined u :=
  List.filterMap_append ..

@[simp] theorem joinedBy_append (id : ConnectionId) :
    joinedBy (t ++ u) id = joinedBy t id ++ joinedBy u id := by
  simp [joinedBy]

@[simp] theorem opens_append : opens (t ++ u) = opens t ++ opens u :=
  List.filterMap_append ..

theorem current_append : current (t ++ u) = u.foldl follow (current t) :=
  List.foldl_append ..

@[simp] theorem eventsOf_append (id : ConnectionId) :
    eventsOf (t ++ u) id = eventsOf t id ++ eventsOf u id :=
  List.filterMap_append ..

@[simp] theorem reportsOf_append (id : ConnectionId) :
    reportsOf (t ++ u) id = reportsOf t id ++ reportsOf u id :=
  List.filterMap_append ..

variable {t u}

/-- A peer belongs to a link if it joined under the link's number. -/
theorem mem_joinedBy {id : ConnectionId} {peer : Nat} :
    peer ∈ joinedBy t id ↔ (id, peer) ∈ joined t := by
  simp [joinedBy]

/-- Observations that leave something as it is. -/
theorem foldl_eq_self {α : Type} {f : α → Observation → α} {a : α} (h : ∀ o ∈ u, f a o = a) :
    u.foldl f a = a := by
  induction u with
  | nil => rfl
  | cons o u ih =>
    rw [List.foldl_cons, h o List.mem_cons_self]
    exact ih fun k hk => h k (List.mem_cons_of_mem o hk)

/-- Nothing survives that was not submitted, and nothing changes places. -/
theorem survivors_sublist (t : Trace) : (survivors t).Sublist (sent t) := by
  -- Both sides grow with a submission, and a close only shortens the left one.
  have key : ∀ (u : Trace) (ps qs : List Payload), ps.Sublist qs →
      (u.foldl survive ps).Sublist (qs ++ sent u) := by
    intro u
    induction u with
    | nil => intro ps qs h; simpa [sent] using h
    | cons o u ih =>
      intro ps qs h
      cases o with
      | sent p =>
        have := ih (ps ++ [p]) (qs ++ [p]) (h.append_right [p])
        simpa [survive, sent] using this
      | closed lost => exact ih _ _ ((List.take_sublist ..).trans h)
      | opened | handed | event | reported | joined => exact ih _ _ h
  exact key t [] [] (List.Sublist.refl _)

/-! ### What holds of every observation -/

/-- Every observation stands in a relation to what was observed before it. -/
def Throughout (P : Trace → Observation → Prop) (t : Trace) : Prop :=
  ∀ t₁ o t₂, t = t₁ ++ o :: t₂ → P t₁ o

theorem throughout_nil (P : Trace → Observation → Prop) : Throughout P [] := by
  intro t₁ o t₂ h
  exact absurd h (by simp)

theorem Throughout.append {P : Trace → Observation → Prop} (ht : Throughout P t)
    (hu : ∀ u₁ o u₂, u = u₁ ++ o :: u₂ → P (t ++ u₁) o) : Throughout P (t ++ u) := by
  intro t₁ o t₂ h
  rcases List.append_eq_append_iff.mp h with ⟨as, rfl, hu'⟩ | ⟨bs, rfl, ht'⟩
  · exact hu as o t₂ hu'
  · cases bs with
    | nil =>
      have := hu [] o t₂ ht'.symm
      simpa using this
    | cons b bs =>
      cases ht'
      exact ht t₁ o bs rfl

/-! ### What tasks leave -/

/-- The trace of tasks: reports, and connections that come about. -/
def Silent (u : Trace) : Prop :=
  ∀ o ∈ u, (∃ id r, o = .reported id r) ∨ ∃ id peer, o = .joined id peer

theorem Silent.filterMap_eq_nil {α : Type} (h : u.Silent) {f : Observation → Option α}
    (hr : ∀ id r, f (.reported id r) = none) (hj : ∀ id peer, f (.joined id peer) = none) :
    u.filterMap f = [] := by
  rw [List.filterMap_eq_nil_iff]
  intro o ho
  rcases h o ho with ⟨id, r, rfl⟩ | ⟨id, peer, rfl⟩
  · exact hr id r
  · exact hj id peer

/-- Only calls hand payloads over. -/
theorem Silent.handed_eq_nil (h : u.Silent) : handed u = [] :=
  h.filterMap_eq_nil (fun _ _ => rfl) fun _ _ => rfl

theorem Silent.events_opens (h : u.Silent) (id : ConnectionId) :
    eventsOf u id = [] ∧ opens u = [] :=
  ⟨h.filterMap_eq_nil (fun _ _ => rfl) fun _ _ => rfl,
    h.filterMap_eq_nil (fun _ _ => rfl) fun _ _ => rfl⟩

/-- Tasks lose nothing and want nothing. -/
theorem Silent.foldl_eq {α : Type} (h : u.Silent) {f : α → Observation → α} {a : α}
    (hr : ∀ id r, f a (.reported id r) = a) (hj : ∀ id peer, f a (.joined id peer) = a) :
    u.foldl f a = a := by
  refine foldl_eq_self fun o ho => ?_
  rcases h o ho with ⟨id, r, rfl⟩ | ⟨id, peer, rfl⟩
  · exact hr id r
  · exact hj id peer

theorem Silent.survivors_append (h : u.Silent) : survivors (t ++ u) = survivors t := by
  rw [Trace.survivors_append]
  exact h.foldl_eq (fun _ _ => rfl) fun _ _ => rfl

theorem Silent.current_append (h : u.Silent) : current (t ++ u) = current t := by
  rw [Trace.current_append]
  exact h.foldl_eq (fun _ _ => rfl) fun _ _ => rfl

end Trace

end Provision
