/-
What each call of a session does.

`Flow s s' c done` says everything about a call `c` that takes `s` to `s'`:
the session stays coherent, its links are spared or new, its active link has
accepted `done`, and `done` together with the new queue is the old queue with
what the call itself adds or drops.  Every call flows (`Coherent.call`).

Reading the reports is opened up by `next_cases`: those of other links are
dropped, and the first of the active link gives the event.
-/
import Provision.Proofs.Link.Conversation
import Provision.Proofs.Session.Coherent

namespace Provision

namespace Session

variable {s s' : Session} {id : ConnectionId} {c : Call} {ps done rest : List Payload}

/-! ### Reading reports -/

/-- The session after a report of its active link. -/
def react (s : Session) : Report → Session
  | .opened => { s with status := .opened }.flush
  | .frame _ | .failed _ => s
  | .ended _ => { s.release with status := .closed }

theorem receive_of_active (h : s.active = some id) (r : Report) :
    s.receive id r = (s.react r, some r.event) := by
  cases r <;> simp [receive, react, Report.event, h]

theorem receive_of_stale (h : s.active ≠ some id) (r : Report) :
    s.receive id r = (s, none) := by
  simp [receive, h]

theorem nextOf_cases (s : Session) (reports : List (ConnectionId × Report)) :
    ((∀ x ∈ reports, s.active ≠ some x.1) ∧
      s.nextOf reports = ({ s with reports := [] }, none)) ∨
    ∃ stale id r rest, reports = stale ++ (id, r) :: rest ∧
      (∀ x ∈ stale, s.active ≠ some x.1) ∧ s.active = some id ∧
      s.nextOf reports = ({ s.react r with reports := rest }, some r.event) := by
  induction reports with
  | nil => exact .inl ⟨by simp, rfl⟩
  | cons x reports ih =>
    obtain ⟨id, r⟩ := x
    by_cases hid : s.active = some id
    · refine .inr ⟨[], id, r, reports, rfl, by simp, hid, ?_⟩
      simp [nextOf, receive_of_active hid]
    · have hskip : s.nextOf ((id, r) :: reports) = s.nextOf reports := by
        simp [nextOf, receive_of_stale hid]
      rw [hskip]
      rcases ih with ⟨hstale, heq⟩ | ⟨stale, i, q, rest, rfl, hstale, hi, heq⟩
      · exact .inl ⟨by simpa [hid] using hstale, heq⟩
      · exact .inr ⟨(id, r) :: stale, i, q, rest, rfl, by simpa [hid] using hstale, hi, heq⟩

/-- Either every waiting report is stale and no event comes, or the first one
that is not stale gives the event. -/
theorem next_cases (s : Session) :
    ((∀ x ∈ s.reports, s.active ≠ some x.1) ∧ s.next = ({ s with reports := [] }, none)) ∨
    ∃ stale id r rest, s.reports = stale ++ (id, r) :: rest ∧
      (∀ x ∈ stale, s.active ≠ some x.1) ∧ s.active = some id ∧
      s.next = ({ s.react r with reports := rest }, some r.event) :=
  s.nextOf_cases s.reports

/-! ### Releasing a link -/

theorem map_id_release (s : Session) : s.release.links.map (·.id) = s.links.map (·.id) := by
  rcases h : s.active with - | i
  · simp [release, h]
  · simp only [release, h]
    exact s.map_id_modifyLink i (f := ({ · with hungUp := true })) fun _ => rfl

theorem spared_release {l' : Link} (hl : l' ∈ s.release.links) :
    ∃ l ∈ s.links, Spared l l' := by
  rcases h : s.active with - | i
  · simp only [release, h] at hl
    exact ⟨l', hl, .refl l'⟩
  · simp only [release, h] at hl
    obtain ⟨l, hmem, rfl⟩ := mem_modifyLink.mp hl
    refine ⟨l, hmem, ?_⟩
    by_cases hid : l.id = i
    · rw [if_pos hid]
      exact spared_hangUp l
    · rw [if_neg hid]
      exact .refl l

@[simp] theorem active_release (s : Session) : s.release.active = none := by
  rcases h : s.active with - | i <;> simp [release, h]

@[simp] theorem status_release (s : Session) : s.release.status = s.status := by
  rcases h : s.active with - | i <;> simp [release, modifyLink, h]

@[simp] theorem outbox_release (s : Session) : s.release.outbox = s.outbox := by
  rcases h : s.active with - | i <;> simp [release, modifyLink, h]

@[simp] theorem lastId_release (s : Session) : s.release.lastId = s.lastId := by
  rcases h : s.active with - | i <;> simp [release, modifyLink, h]

@[simp] theorem reports_release (s : Session) : s.release.reports = s.reports := by
  rcases h : s.active with - | i <;> simp [release, modifyLink, h]

/-! ### What else stays -/

theorem send_fields (s : Session) (p : Payload) :
    (s.send p).status = s.status ∧ (s.send p).active = s.active ∧
      (s.send p).lastId = s.lastId ∧ (s.send p).reports = s.reports := by
  by_cases h : s.status = .opened
  · simpa [send, h] using s.handOver_fields [p]
  · simp [send, h]

theorem close_fields (s : Session) :
    s.close.lastId = s.lastId ∧ s.close.reports = s.reports := by
  by_cases h : s.status = .idle <;> simp [close, h]

theorem flush_fields (s : Session) :
    s.flush.status = s.status ∧ s.flush.active = s.active ∧
      s.flush.lastId = s.lastId ∧ s.flush.reports = s.reports := by
  rcases h : s.activeLink? with - | l
  · simp [flush, h]
  · simpa [flush, h] using handOver_fields { s with outbox := s.outbox.drain.2 } s.outbox.drain.1

theorem react_fields (s : Session) (r : Report) :
    (s.react r).lastId = s.lastId ∧ (s.react r).reports = s.reports := by
  cases r with
  | opened => exact (flush_fields { s with status := .opened }).2.2
  | frame | failed => exact ⟨rfl, rfl⟩
  | ended info => exact ⟨s.lastId_release, s.reports_release⟩

theorem lastId_next (s : Session) : s.next.1.lastId = s.lastId := by
  rcases s.next_cases with ⟨-, hnext⟩ | ⟨_, _, r, _, -, -, -, hnext⟩
  · rw [hnext]
  · rw [hnext]
    exact (s.react_fields r).1

theorem active_react_of_ne (s : Session) {r : Report} (h : ∀ info, r ≠ .ended info) :
    (s.react r).active = s.active := by
  cases r with
  | opened => exact (flush_fields { s with status := .opened }).2.1
  | frame | failed => rfl
  | ended info => exact absurd rfl (h info)

/-- The link that is followed is followed on until its end is read. -/
theorem active_react {s : Session} {id : ConnectionId} {r : Report}
    (h : (s.react r).active = some id) : s.active = some id := by
  cases r with
  | opened => exact (flush_fields { s with status := .opened }).2.1 ▸ h
  | frame | failed => exact h
  | ended info => simp [react] at h

/-! ### Flow -/

/-- Everything that a call does. -/
structure Flow (s s' : Session) (c : Call) (done : List Payload) : Prop where
  coherent : s'.Coherent
  links : ∀ l' ∈ s'.links, (∃ l ∈ s.links, Spared l l') ∨
    ∃ target, c = .connect target ∧ l' = { id := s.lastId + 1, target }
  lastId_le : s.lastId ≤ s'.lastId
  accepted : ∀ id, s'.accepted id = s.accepted id ++ if s.active = some id then done else []
  done_eq_nil : s.active = none → done = []
  /-- What is handed over and what is queued then make up what was queued, with
  what the call adds or drops. -/
  balance : done ++ s'.outbox.toList = (s.asked c).foldl Trace.survive s.outbox.toList

/-- After a hand-over, payloads may be queued again if the task has let go. -/
theorem Coherent.of_handedOver (h : s.Coherent) (ho : HandedOver s s' ps done rest) {q : Outbox}
    (hq : q.toList ≠ [] → rest ≠ [] ∨ s.outbox.toList ≠ []) :
    Coherent { s' with outbox := q } where
  ids := by
    dsimp only
    rw [ho.ids, ho.lastId]
    exact h.ids
  following := by
    dsimp only
    rw [ho.active, ho.lastId, ho.status]
    exact h.following
  reports := by
    dsimp only
    rw [ho.reports, ho.lastId]
    exact h.reports
  stuck hopen hne l' hl' hid := by
    have hopen : s.status = .opened := ho.status ▸ hopen
    have hactive := h.active_of_running (.inr hopen)
    have hid : l'.id = s.lastId := ho.lastId ▸ hid
    rcases hq hne with hrest | hout
    · exact ho.stuck (by simp [hactive]) hrest l' hl' (by rw [hactive, hid])
    · obtain ⟨l, hl, hspared⟩ := ho.spared l' hl'
      exact hspared.isAbandoned (h.stuck hopen hout l hl (hspared.id ▸ hid))

theorem connect_flow (h : s.Coherent) (target : String) :
    Flow s (s.connect target) (.connect target) [] where
  coherent :=
    { ids := by
        simp [connect, map_id_release, h.ids, List.range'_concat, Nat.add_comm]
      following := .inl ⟨by simp [connect], by simp [connect], .inl rfl⟩
      reports := fun x hx => by
        have := h.reports x (by simpa [connect] using hx)
        exact Nat.le_trans this (by simp [connect])
      stuck := fun hopen => by cases hopen }
  links l' hl' := by
    simp only [connect, lastId_release, List.mem_append, List.mem_singleton] at hl'
    rcases hl' with hl' | rfl
    · exact .inl (spared_release hl')
    · exact .inr ⟨target, rfl, rfl⟩
  lastId_le := by simp [connect]
  accepted id := by simp [accepted_connect]
  done_eq_nil _ := rfl
  balance := by simp [connect, asked, Trace.survive]

theorem send_flow (h : s.Coherent) (p : Payload) : ∃ done, Flow s (s.send p) (.send p) done := by
  by_cases hopen : s.status = .opened
  · obtain ⟨done, ho⟩ := h.handOver [p]
    refine ⟨done, ?_⟩
    have heq : s.send p = { (s.handOver [p]).1 with
        outbox := s.outbox.pushAll (s.handOver [p]).2 } := by
      simp [send, hopen, ho.outbox]
    rw [heq]
    refine ⟨h.of_handedOver ho fun hne => ?_, fun l' hl' => .inl (ho.spared l' hl'),
      Nat.le_of_eq ho.lastId.symm, ho.accepted, ho.done_eq_nil, ?_⟩
    · by_cases hrest : (s.handOver [p]).2 = []
      · exact .inr (by simpa [hrest] using hne)
      · exact .inl hrest
    · -- Nothing is accepted while payloads are queued, so none is overtaken.
      have hnone : s.outbox.toList ≠ [] → done = [] := by
        intro hout
        obtain ⟨l, hl, hid⟩ := h.exists_activeLink (h.active_of_running (.inr hopen))
        have hlink := (link?_of_activeLink? hl).2
        have hab := h.stuck hopen hout l (mem_of_link? hlink) hid
        have hrest : (s.handOver [p]).2 = [p] := by
          simp [handOver, hl, Mailbox.offerAll_of_isAbandoned hab]
        have := ho.split
        rw [hrest] at this
        exact List.append_left_eq_self.mp this.symm
      have hsplit := ho.split
      by_cases hout : s.outbox.toList = []
      · simp [asked, Trace.survive, hout, ← hsplit]
      · rw [hnone hout] at hsplit ⊢
        have hrest : (s.handOver [p]).2 = [p] := by simpa using hsplit.symm
        simp [asked, Trace.survive, hrest]
  · have heq : s.send p = { s with outbox := s.outbox.push p } := by simp [send, hopen]
    rw [heq]
    refine ⟨[], ⟨h.ids, h.following, h.reports, fun ho => absurd ho hopen⟩,
      fun l hl => .inl ⟨l, hl, .refl l⟩, Nat.le_refl _, fun id => ?_, fun _ => rfl, ?_⟩
    · simp [accepted, link?]
    · simp [asked, Trace.survive]

theorem close_flow (h : s.Coherent) : Flow s s.close .close [] := by
  by_cases hidle : s.status = .idle
  · have heq : s.close = s := by simp [close, hidle]
    rw [heq]
    refine ⟨h, fun l hl => .inl ⟨l, hl, .refl l⟩, Nat.le_refl _, by simp, fun _ => rfl, ?_⟩
    simp [asked, Trace.survive, hidle]
  · have heq : s.close = { s.release with outbox := s.outbox.clear.2, status := .idle } := by
      simp [close, hidle]
    rw [heq]
    refine ⟨⟨?_, .inr ⟨by simp, .inl rfl⟩, ?_, fun hopen => by cases hopen⟩,
      fun l' hl' => .inl (spared_release hl'), by simp, fun id => ?_, fun _ => rfl, ?_⟩
    · simpa [map_id_release] using h.ids
    · simpa using h.reports
    · have := s.accepted_release id
      simpa [accepted, link?] using this
    · simp [asked, Trace.survive, hidle]

/-- An opened connection takes the queue over, as far as its task accepts it. -/
theorem flush_eq (h : s.Coherent) (ha : s.active = some id) :
    ∃ done, HandedOver { s with status := .opened, outbox := {} }
      (handOver { s with status := .opened, outbox := {} } s.outbox.toList).1 s.outbox.toList done
      (handOver { s with status := .opened, outbox := {} } s.outbox.toList).2 ∧
      s.react .opened =
        { (handOver { s with status := .opened, outbox := {} } s.outbox.toList).1 with
          outbox := Outbox.pushAll {}
            (handOver { s with status := .opened, outbox := {} } s.outbox.toList).2 } := by
  have hid := h.active_eq ha
  have h₁ : Coherent { s with status := .opened, outbox := {} } :=
    ⟨h.ids, .inl ⟨hid.1 ▸ ha, hid.2, .inr rfl⟩, h.reports, fun _ hne => absurd rfl hne⟩
  obtain ⟨done, ho⟩ := h₁.handOver s.outbox.toList
  refine ⟨done, ho, ?_⟩
  obtain ⟨l, hl, -⟩ := h.exists_activeLink ha
  have hl' : activeLink? { s with status := .opened } = some l := hl
  have hout := ho.outbox
  simp only [react, flush, hl', Outbox.drain]
  rw [hout]

theorem react_flow (h : s.Coherent) (ha : s.active = some id) (r : Report) :
    ∃ done, Flow s (s.react r) .next done := by
  have hid := h.active_eq ha
  have hsame : Flow s s .next [] :=
    ⟨h, fun l hl => .inl ⟨l, hl, .refl l⟩, Nat.le_refl _, by simp, fun _ => rfl, rfl⟩
  cases r with
  | opened =>
    -- What the task does not accept is queued again, behind nothing.
    obtain ⟨done, ho, heq⟩ := flush_eq h ha
    have h₁ : Coherent { s with status := .opened, outbox := {} } :=
      ⟨h.ids, .inl ⟨hid.1 ▸ ha, hid.2, .inr rfl⟩, h.reports, fun _ hne => absurd rfl hne⟩
    refine ⟨done, ?_⟩
    rw [heq]
    refine ⟨h₁.of_handedOver ho fun hne => .inl (by simpa using hne),
      fun l' hl' => .inl (ho.spared l' hl'), Nat.le_of_eq ho.lastId.symm, ho.accepted,
      ho.done_eq_nil, ?_⟩
    simpa [asked] using ho.split.symm
  | frame p => exact ⟨[], hsame⟩
  | failed reason => exact ⟨[], hsame⟩
  | ended info =>
    refine ⟨[], ⟨?_, .inr ⟨by simp [react], .inr rfl⟩, ?_, fun hopen => by cases hopen⟩,
      fun l' hl' => .inl (spared_release hl'), by simp [react], fun id => ?_, fun _ => rfl, ?_⟩
    · simpa [react, map_id_release] using h.ids
    · simpa [react] using h.reports
    · have := s.accepted_release id
      simpa [react, accepted, link?] using this
    · simp [react, asked]

/-- Which reports are still waiting matters to the numbers only. -/
theorem Coherent.withReports (h : s.Coherent) {reports : List (ConnectionId × Report)}
    (hr : ∀ x ∈ reports, x.1 ≤ s.lastId) : Coherent { s with reports } :=
  ⟨h.ids, h.following, hr, h.stuck⟩

theorem next_flow (h : s.Coherent) : ∃ done, Flow s s.next.1 .next done := by
  -- Stale reports leave nothing behind, and then one report is reacted to, or none.
  rcases s.next_cases with ⟨-, heq⟩ | ⟨stale, id, r, rest, hreports, -, ha, heq⟩
  · rw [heq]
    exact ⟨[], h.withReports (by simp), fun l hl => .inl ⟨l, hl, .refl l⟩, Nat.le_refl _,
      fun id => by simp [accepted, link?], fun _ => rfl, rfl⟩
  · obtain ⟨done, hf⟩ := react_flow h ha r
    have hlast := (s.react_fields r).1
    rw [heq]
    refine ⟨done, hf.coherent.withReports fun x hx => ?_, hf.links, hf.lastId_le, hf.accepted,
      hf.done_eq_nil, hf.balance⟩
    rw [hlast]
    exact h.reports x (by rw [hreports]; simp [hx])

theorem Coherent.active_close (h : s.Coherent) : s.close.active = none := by
  by_cases hidle : s.status = .idle
  · simpa [close, hidle] using h.active_of_idle hidle
  · simp [close, hidle]

/-- Every call flows. -/
theorem Coherent.call (h : s.Coherent) (c : Call) : ∃ done, Flow s (s.call c).1 c done := by
  cases c with
  | connect target => exact ⟨[], connect_flow h target⟩
  | send p => exact send_flow h p
  | close => exact ⟨[], close_flow h⟩
  | next => exact next_flow h

/-- Numbers that were given out stay given out. -/
theorem Flow.mem_ids (hf : Flow s s' c done) (h : s.Coherent)
    (hid : id ∈ s.links.map (·.id)) : id ∈ s'.links.map (·.id) := by
  obtain ⟨hpos, hle⟩ := h.mem_ids.mp hid
  exact hf.coherent.mem_ids.mpr ⟨hpos, Nat.le_trans hle hf.lastId_le⟩

/-! ### What is observed of a call -/

/-- Of all numbers, only one has something to show. -/
theorem flatMap_eq_of_unique {α : Type} {f : ConnectionId → List α} {i : ConnectionId}
    {ids : List ConnectionId} (hnodup : ids.Nodup) (hi : i ∈ ids)
    (h : ∀ id, id ≠ i → f id = []) : ids.flatMap f = f i := by
  induction ids with
  | nil => cases hi
  | cons id ids ih =>
    obtain ⟨hnot, hnodup⟩ := List.nodup_cons.mp hnodup
    by_cases hid : id = i
    · subst hid
      have hnil : ids.flatMap f = [] :=
        List.flatMap_eq_nil_iff.mpr fun k hk => h k fun heq => hnot (heq ▸ hk)
      rw [List.flatMap_cons, hnil, List.append_nil]
    · rw [List.flatMap_cons, h id hid, List.nil_append]
      exact ih hnodup ((List.mem_cons.mp hi).resolve_left fun heq => hid heq.symm)

/-- What a call hands over goes to the newest link. -/
theorem Flow.handedSince (hf : Flow s s' c done) (h : s.Coherent) :
    s.handedSince s' = done.map (s.lastId, ·) := by
  have hdrop : ∀ id, ((s'.accepted id).drop (s.accepted id).length).map (id, ·) =
      if s.active = some id then done.map (id, ·) else [] := by
    intro id
    rw [hf.accepted id]
    by_cases hid : s.active = some id <;> simp [hid]
  rcases ha : s.active with - | i
  · rw [hf.done_eq_nil ha]
    refine List.flatMap_eq_nil_iff.mpr fun id _ => ?_
    rw [hdrop id, ha, if_neg (by simp)]
  · obtain ⟨hi, hpos⟩ := h.active_eq ha
    have hmem : i ∈ List.range' 1 s'.lastId := by
      rw [List.mem_range'_1, hi]
      exact ⟨hpos, Nat.lt_one_add_iff.mpr hf.lastId_le⟩
    have hother : ∀ id, id ≠ i →
        ((s'.accepted id).drop (s.accepted id).length).map (id, ·) = [] := by
      intro id hid
      rw [hdrop id, ha, if_neg fun heq => hid (Option.some.inj heq).symm]
    rw [Session.handedSince, flatMap_eq_of_unique List.nodup_range' hmem hother, hdrop i, if_pos ha,
      hi]

/-- What can be filtered out of a call's observations, part by part. -/
theorem filterMap_observed {β : Type} (s : Session) (c : Call) (f : Observation → Option β) :
    (s.observed c).filterMap f = (s.asked c).filterMap f ++
      (s.handedSince (s.call c).1).filterMap (fun x => f (.handed x.1 x.2)) ++
      (s.call c).2.toList.filterMap (fun e => f (.event (s.lastSource (s.call c).1) e)) := by
  rw [observed, List.filterMap_append, List.filterMap_append, List.filterMap_map,
    List.filterMap_map]
  rfl

theorem handed_observed (s : Session) (c : Call) :
    Trace.handed (s.observed c) = s.handedSince (s.call c).1 := by
  rw [Trace.handed, filterMap_observed]
  cases c <;> simp [asked]

theorem opens_observed (s : Session) (c : Call) :
    Trace.opens (s.observed c) = Trace.opens (s.asked c) := by
  rw [Trace.opens, filterMap_observed]
  simp [Trace.opens]

theorem joined_observed (s : Session) (c : Call) : Trace.joined (s.observed c) = [] := by
  rw [Trace.joined, filterMap_observed]
  cases c <;> simp [asked]

/-- What a call comes to beside hand-overs and events is known before it has any
effect. -/
theorem foldl_observed {α : Type} (s : Session) (c : Call) {f : α → Observation → α}
    (hh : ∀ a id p, f a (.handed id p) = a) (he : ∀ a source ev, f a (.event source ev) = a)
    (a : α) : (s.observed c).foldl f a = (s.asked c).foldl f a := by
  rw [observed, List.append_assoc, List.foldl_append]
  refine Trace.foldl_eq_self fun o ho => ?_
  rcases List.mem_append.mp ho with ho | ho
  · obtain ⟨x, -, rfl⟩ := List.mem_map.mp ho
    exact hh _ _ _
  · obtain ⟨ev, -, rfl⟩ := List.mem_map.mp ho
    exact he _ _ _

theorem foldl_survive_observed (s : Session) (c : Call) (ps : List Payload) :
    (s.observed c).foldl Trace.survive ps = (s.asked c).foldl Trace.survive ps :=
  s.foldl_observed c (fun _ _ _ => rfl) (fun _ _ _ => rfl) ps

theorem foldl_follow_observed (s : Session) (c : Call) (current : Option ConnectionId) :
    (s.observed c).foldl Trace.follow current = (s.asked c).foldl Trace.follow current :=
  s.foldl_observed c (fun _ _ _ => rfl) (fun _ _ _ => rfl) current

/-- What was handed over before is out of a call's reach. -/
theorem foldl_survive_asked (s : Session) (c : Call) (ps : List Payload) :
    (s.asked c).foldl Trace.survive (ps ++ s.outbox.toList) =
      ps ++ (s.asked c).foldl Trace.survive s.outbox.toList := by
  cases c with
  | connect target => rfl
  | send p => simp [asked, Trace.survive]
  | next => rfl
  | close =>
    -- A close takes away as many payloads as are queued, so none of `ps`.
    by_cases hidle : s.status = .idle
    · simp only [asked, hidle, if_true, List.foldl_cons, List.foldl_nil, Trace.survive,
        List.length_nil, Nat.sub_zero, List.take_length]
    · simp [asked, Trace.survive, hidle]

end Session

end Provision
