/-
One session, one command, never replayed.

Each submit that is accepted opens one connection, and nothing else opens any
(`Run.opens`).  What a connection is handed is the command of its own request
or nothing, as the ledger says, and its peer receives the beginning of that.

Main result: `one_command`.
-/
import Provision.Proofs.Engine.Agreement
import Provision.Proofs.Exchange.Outbound

namespace Provision.Engine

variable {e e' : Engine} {t : Trace} {rs : List Request} {m : Message}

/-- A turn opens the connection of its request, if it has one. -/
theorem turn_opens {a : App} {r : Option Request} {out : App × List Action} (ht : a.Turn r out)
    (x : Exchange) :
    Trace.opens (x.observedAll (out.2.flatMap Action.calls)) =
        (r.map fun _ => (x.session.lastId + 1, a.endpoint)).toList ∧
      out.1.endpoint = a.endpoint := by
  cases ht with
  | quiet _ hendpoint => exact ⟨rfl, hendpoint⟩
  | @start a' r _ _ hendpoint =>
    refine ⟨?_, hendpoint⟩
    show Trace.opens (x.session.observed (.connect a.endpoint) ++
      ((x.call (.connect a.endpoint)).session.observed (.send r.payload) ++ [])) = _
    rw [Trace.opens_append, Trace.opens_append, Session.opens_observed, Session.opens_observed]
    rfl
  | stop _ _ hendpoint =>
    refine ⟨?_, hendpoint⟩
    show Trace.opens (x.session.observed .close ++ []) = _
    rw [Trace.opens_append, Session.opens_observed]
    rfl

theorem process_opens (e : Engine) (m : Message) :
    Trace.opens (e.observed m) =
        ((e.app.accepts m).map fun _ => (e.exchange.session.lastId + 1, e.app.endpoint)).toList ∧
      (e.process m).1.app.endpoint = e.app.endpoint := by
  by_cases hm : m = .event .opened
  · obtain ⟨hactions, hendpoint⟩ := App.dispatch_event_opened e.app
    refine ⟨?_, hm ▸ hendpoint⟩
    rw [observed, calls, hm, hactions]
    rfl
  · exact turn_opens (App.turn_dispatch e.app hm) e.exchange

/-- Connections and requests correspond one to one, in order. -/
theorem Run.opens (h : Run e t rs) :
    t.opens = rs.mapIdx fun i _ => (i + 1, e.app.endpoint) := by
  have hprocess : ∀ {e : Engine} {t : Trace} {rs : List Request} (m : Message),
      e.exchange.session.lastId = rs.length →
      t.opens = (rs.mapIdx fun i _ => (i + 1, e.app.endpoint)) →
      Trace.opens (t ++ e.observed m) = (rs ++ (e.app.accepts m).toList).mapIdx fun i _ =>
        (i + 1, (e.process m).1.app.endpoint) := by
    intro e t rs m hlast ht
    -- The next number is the next place in the list of requests.
    obtain ⟨hopens, hendpoint⟩ := process_opens e m
    rw [Trace.opens_append, ht, hopens, hendpoint, hlast]
    rcases e.app.accepts m with - | r <;> simp
  induction h with
  | start => rfl
  | process hrun _ ih => exact hprocess _ hrun.agreed.ledger.lastId ih
  | take hrun hnext ih =>
    obtain ⟨hexchange, happ⟩ := exchange_next hnext
    refine hprocess _ ?_ ?_
    · rw [hexchange]
      exact (Session.lastId_next _).trans hrun.agreed.ledger.lastId
    · rw [Trace.opens_append, Session.opens_observed, happ, ← ih]
      exact List.append_nil _
  | wait _ hnext ih =>
    rw [Trace.opens_append, Session.opens_observed, (exchange_next hnext).2, ← ih]
    exact List.append_nil _
  | post _ _ ih => exact ih
  | tick _ _ ih => exact ih
  | background _ hb ih =>
    rw [Trace.opens_append, (hb.silent.events_opens 0).2, List.append_nil]
    exact ih

/-- One session, one command.  In every run, the connections are opened one to
one and in order for the requests that were accepted.  Each peer belongs to one
connection and each connection to one peer at most, and the peer of a
connection has received nothing at all, or the command of the connection's own
request and nothing else. -/
theorem one_command (h : Run e t rs) :
    t.opens = (rs.mapIdx fun i _ => (i + 1, e.app.endpoint)) ∧
    t.joined.map (·.2) = List.range e.exchange.network.peers.length ∧
    ∀ id peer, (id, peer) ∈ t.joined → t.joinedBy id = [peer] ∧
      ∃ i r, id = i + 1 ∧ rs[i]? = some r ∧
        (e.exchange.network.written peer = [] ∨
          e.exchange.network.written peer = [.text (Request.Command.encode r)]) := by
  have ht := h.exchange.tracked
  have hledger := h.agreed.ledger
  refine ⟨h.opens, ht.joined, fun id peer hpeer => ?_⟩
  obtain ⟨hone, hprefix⟩ := ht.received hpeer
  refine ⟨hone, ?_⟩
  -- Either nothing was handed over, or the command, of which the peer has a beginning.
  rcases hledger.commands id with hnone | ⟨i, r, hid, hr, hcommand⟩
  · obtain ⟨hpos, hle⟩ := hledger.coherent.mem_ids.mp (ht.owners _ hpeer)
    have hlt : id - 1 < rs.length := by
      rw [← hledger.lastId]
      exact Nat.lt_of_lt_of_le (Nat.sub_lt hpos Nat.one_pos) hle
    rw [hnone] at hprefix
    exact ⟨id - 1, rs[id - 1], (Nat.sub_add_cancel hpos).symm, List.getElem?_eq_getElem hlt,
      .inl (List.prefix_nil.mp hprefix)⟩
  · rw [hcommand] at hprefix
    refine ⟨i, r, hid, hr, ?_⟩
    rcases List.prefix_cons_iff.mp hprefix with hnone | ⟨rest, hrest, hnil⟩
    · exact .inl hnone
    · rw [hrest, List.prefix_nil.mp hnil]
      exact .inr rfl

/-- The command of a session that was given up does not reach the next one. -/
theorem one_command_resubmitted :
    ∃ e t r, Run e t [r, r] ∧ t.opens = [(1, "x"), (2, "x")] ∧ t.joined = [(1, 0)] ∧
      e.exchange.network.written 0 = [.text "install outline h u p"] ∧ t.joinedBy 1 = [0] := by
  have h₁ := (Run.start {} "x" { remoteAddress := ⟨"h"⟩, username := ⟨"u"⟩, password := ⟨"p"⟩ }
    (n := {}) rfl).process (m := .command .submit) nofun
  have h₂ := h₁.background (@Exchange.Background.move _ [] [] _ _ rfl (.dial rfl))
  have h₃ := (h₂.take rfl).background
    (@Exchange.Background.move _ [] [] _ _ rfl (.transmit rfl rfl))
  have h₄ := (h₃.process (m := .key .escape) nofun).process (m := .key .enter) nofun
  obtain ⟨hopens, -, hpeers⟩ := one_command h₄
  obtain ⟨hone, -⟩ := hpeers 1 0 (by decide)
  exact ⟨_, _, ⟨.outline, "h", "u", "p", none⟩, h₄, hopens, by decide, by decide, hone⟩

end Provision.Engine
