/-
What an engine demands of its session.

For each request that it accepts, an engine demands one connection to its
endpoint and one command, and it demands nothing else (`demands_observed`).
Other messages, tasks and the passing of time demand nothing (`Pause.demands`,
`Taking.demands`).
-/
import Provision.Proofs.Engine.Following
import Provision.Proofs.Engine.Ledger

namespace Provision

/-- A call that gives the session something to do. -/
def Call.isDemand : Call → Bool
  | .connect _ | .send _ => true
  | .close | .next => false

/-- What a request demands: its connection, and its command. -/
def Request.demands (endpoint : String) (r : Request) : List Call :=
  [.connect endpoint, .send r.payload]

namespace Trace

variable {t u : Trace}

/-- The connections and the payloads that a session was asked for, in order. -/
def demands (t : Trace) : List Call :=
  t.filterMap fun
    | .opened _ target => some (.connect target)
    | .sent p => some (.send p)
    | _ => none

@[simp] theorem demands_append (t u : Trace) : demands (t ++ u) = demands t ++ demands u :=
  List.filterMap_append ..

theorem Silent.demands_eq_nil (h : u.Silent) : demands u = [] :=
  h.filterMap_eq_nil (fun _ _ => rfl) fun _ _ => rfl

end Trace

theorem Session.demands_observed (s : Session) (c : Call) :
    Trace.demands (s.observed c) = [c].filter (·.isDemand) := by
  rw [Trace.demands, filterMap_observed]
  cases c <;> simp [asked, Call.isDemand]

theorem Exchange.demands_observedAll (x : Exchange) (cs : List Call) :
    Trace.demands (x.observedAll cs) = cs.filter (·.isDemand) := by
  induction cs generalizing x with
  | nil => rfl
  | cons c cs ih =>
    rw [observedAll, Trace.demands_append, Session.demands_observed, ih, ← List.filter_append]
    rfl

namespace Engine

variable {e e' : Engine} {u : Trace} {m : Message}

/-- A message demands what the request demands that it submits, if the form
accepts it. -/
theorem demands_observed (e : Engine) (m : Message) :
    Trace.demands (e.observed m) = (e.app.accepts m).toList.flatMap (·.demands e.app.endpoint) := by
  rw [observed, Exchange.demands_observedAll, calls]
  have hturn : ∀ {request : Option Request} {out : App × List Action}, e.app.Turn request out →
      (out.2.flatMap Action.calls).filter (·.isDemand) =
        request.toList.flatMap (·.demands e.app.endpoint) := by
    intro request out ht
    cases ht <;> rfl
  by_cases hm : m = .event .opened
  · subst hm
    rw [(e.app.dispatch_event_opened).1]
    rfl
  · exact hturn (e.app.turn_dispatch hm)

theorem Pause.demands (h : e.Pause u e') : Trace.demands u = [] := by
  cases h with
  | poll => exact Session.demands_observed _ .next
  | post | tick => rfl
  | background hb => exact hb.silent.demands_eq_nil

theorem Taking.demands (h : e.Taking u m e') : Trace.demands u = [] := by
  cases h with
  | event => exact Session.demands_observed _ .next
  | channel => rfl

end Engine

end Provision
