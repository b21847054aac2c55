import Mathlib.Data.List.Chain
import Mathlib.Data.List.Nodup
import WatchTower.Scheduler.IncidentRegister

set_option relaxedAutoImplicit false
set_option autoImplicit false

/-!
# Linearity of the incident store

Any number of calls of `openIncident` and `closeIncident`, on any monitors, their calls to the
database in any order. What one caller is told and what is dispatched agrees with what happens to
the incidents: every transition belongs to one caller.

## Main definitions

* `WatchTower.IncidentStep` — a call of the service starts, or performs a call to the database.
* `WatchTower.Reports`, `WatchTower.ReportedOnce` — who is told of a transition.
* `WatchTower.Linear` — what is asked of every moment of a run.

## Main results

* `WatchTower.Ledger.step` — the notes of a run agree with the store, after every step.
* `WatchTower.incidentStore_linear` — every run is linear, and what is settled stays.
-/

namespace WatchTower

open Documents Transition Transition.Prog

variable {ι : Type} [DecidableEq ι]

/-- The store and the calls of the service that work on it. -/
abbrev IncidentWorld (ι : Type) := Shared ι Db Op.Resp JsError (Option Incident × Bool)

/-- What happens to it. -/
abbrev IncidentStoreEvent (ι : Type) := SharedEvent ι Op.Resp JsError (Option Incident × Bool)

/-- A call of the service starts, or performs its next call to the database. -/
abbrev IncidentStep (calls : ι → IncidentCall) :
    IncidentWorld ι → IncidentStoreEvent ι → IncidentWorld ι → Prop :=
  SharedStep (fun i _ p => p = (calls i).prog) PerformsLoadable

/-- The incidents are numbered, and each monitor has at most one that is ongoing. -/
structure ConsistentStore (db : Db) : Prop where
  numbered : Numbered db.incidents
  oneOngoing : ∀ k, ongoingCount db k ≤ 1

/-- The last transition of a monitor's incidents. -/
def lastTransition (db : Db) (k : ℕ) : IncidentEvent :=
  if ongoingCount db k = 0 then .closed else .opened

/-- The transitions of a monitor's incidents in a run. -/
def monitorTransitions (k : ℕ) (es : List (IncidentStoreEvent ι)) : List IncidentEvent :=
  (notesOf noteTransition es).filterMap fun note =>
    if note.2.2.monitorId = k then some note.2.1 else none

/-- The transition that a dispatch is about, and the incident. -/
def Notification.key (payload : Notification) : IncidentEvent × ℕ :=
  (payload.event, payload.incident.id)

/-- The dispatches since the start of a run, of one transition of one incident. -/
def dispatchCount (db db' : Db) (event : IncidentEvent) (id : ℕ) : ℕ :=
  ((db'.dispatches.drop db.dispatches.length).map (·.key)).count (event, id)

/-- A call has returned that it has made a transition. -/
def Reports (calls : ι → IncidentCall) (w : IncidentWorld ι) (i : ι) (event : IncidentEvent)
    (id : ℕ) : Prop :=
  (calls i).event = event ∧
    ∃ incident, w.todo i = some (.ret (some incident, true)) ∧ incident.id = id

/-- A transition belongs to one call: no other call reports it, and once that call has ended, it
has reported the transition and there has been one dispatch of it. -/
def ReportedOnce (calls : ι → IncidentCall) (db : Db) (w : IncidentWorld ι)
    (event : IncidentEvent) (id : ℕ) : Prop :=
  dispatchCount db w.store event id ≤ 1 ∧ ∃ i, w.todo i ≠ none ∧ (calls i).event = event ∧
    (∀ j, Reports calls w j event id → j = i) ∧
    ∀ out, w.todo i = some (.done out) →
      Reports calls w i event id ∧ dispatchCount db w.store event id = 1

/-- What is asked of every moment of a run. -/
structure Linear (calls : ι → IncidentCall) (db : Db) (es : List (IncidentStoreEvent ι))
    (w : IncidentWorld ι) : Prop where
  oneOngoing : ∀ k, ongoingCount w.store k ≤ 1
  /-- Opening and closing alternate, from what there was at the start. -/
  alternates : ∀ k, (lastTransition db k :: monitorTransitions k es).IsChain (· ≠ ·)
  /-- Every incident created, and every one resolved, is reported once. -/
  reportedOnce : ∀ event id, HasHappened w.store.incidents event id →
    ¬HasHappened db.incidents event id → ReportedOnce calls db w event id
  /-- Only these are reported, and only these dispatched. -/
  reported : ∀ i event id, Reports calls w i event id →
    HasHappened w.store.incidents event id ∧ ¬HasHappened db.incidents event id
  dispatched : ∀ event id, dispatchCount db w.store event id ≠ 0 →
    HasHappened w.store.incidents event id ∧ ¬HasHappened db.incidents event id

/-! ## The ledger -/

/-- The incidents are numbered, and those of each monitor have alternated. -/
structure Alternating (db : Db) (es : List (IncidentStoreEvent ι)) (s : Db) : Prop where
  numbered : Numbered s.incidents
  oneOngoing : ∀ k, ongoingCount s k ≤ 1
  alternates : ∀ k, (lastTransition db k :: monitorTransitions k es).IsChain (· ≠ ·)
  last : ∀ k, (lastTransition db k :: monitorTransitions k es).getLast? =
    some (lastTransition s k)

/-- The transitions noted are those that have happened since the start, each noted for one call,
of its kind. -/
structure TransitionsNoted (calls : ι → IncidentCall) (db : Db)
    (es : List (IncidentStoreEvent ι)) (s : Db) : Prop where
  happened : ∀ event id, HasHappened s.incidents event id ↔ HasHappened db.incidents event id ∨
    ∃ i incident, (i, event, incident) ∈ notesOf noteTransition es ∧ incident.id = id
  fresh : ∀ i event incident, (i, event, incident) ∈ notesOf noteTransition es →
    ¬HasHappened db.incidents event incident.id
  unique : ∀ i j event incident incident', (i, event, incident) ∈ notesOf noteTransition es →
    (j, event, incident') ∈ notesOf noteTransition es → incident'.id = incident.id → j = i
  kind : ∀ i event incident, (i, event, incident) ∈ notesOf noteTransition es →
    (calls i).event = event

/-- The dispatches are those noted, no two of the same transition, and each for the call that made
it. -/
structure DispatchesNoted (db : Db) (es : List (IncidentStoreEvent ι)) (s : Db) : Prop where
  dispatches : s.dispatches.map (·.key) =
    db.dispatches.map (·.key) ++ (notesOf noteDispatch es).map (·.2)
  dispatched : ∀ i event id, (i, event, id) ∈ notesOf noteDispatch es →
    ∃ incident, (i, event, incident) ∈ notesOf noteTransition es ∧ incident.id = id
  nodup : ((notesOf noteDispatch es).map (·.2)).Nodup

variable {calls : ι → IncidentCall} {db : Db} {es : List (IncidentStoreEvent ι)} {s s' : Db}
  {i : ι} {o : Op} {r : Except JsError o.Resp}

omit [DecidableEq ι] in
/-- The transitions of a monitor's incidents, with one more call. -/
lemma monitorTransitions_call (k : ℕ) : monitorTransitions k (es ++ [.call i o r]) =
    monitorTransitions k es ++ ((noteTransition ⟨o, r⟩).bind fun note =>
      if note.2.monitorId = k then some note.1 else none).toList := by
  cases h : noteTransition ⟨o, r⟩ with
  | none => simp [monitorTransitions, h]
  | some note => by_cases hk : note.2.monitorId = k <;> simp [monitorTransitions, h, hk]

omit [DecidableEq ι] in
/-- **Alternation** is kept by a step of the register. -/
lemma Alternating.call (h : Alternating db es s)
    (hstep : RegisterStep s.incidents (noteTransition ⟨o, r⟩) s'.incidents) :
    Alternating db (es ++ [.call i o r]) s' := by
  have hcount := hstep.count_eq
  have hone : ∀ k, ongoingCount s' k ≤ 1 := by
    intro k
    have hle := h.oneOngoing k
    rcases hcount k with ⟨heq, -⟩ | ⟨event, incident, -, -, hfrom, heq⟩
    · exact heq.trans_le hle
    · have heq' : ongoingCount s' k = event.count (ongoingCount s k) := heq
      cases event with
      | opened =>
        have hzero : ongoingCount s k = 0 := hfrom
        simp [heq', IncidentEvent.count, hzero]
      | closed =>
        simp only [heq', IncidentEvent.count]
        omega
  have hlast : ∀ k, (monitorTransitions k (es ++ [.call i o r]) = monitorTransitions k es ∧
        lastTransition s' k = lastTransition s k) ∨
      (monitorTransitions k (es ++ [.call i o r]) =
          monitorTransitions k es ++ [lastTransition s' k] ∧
        lastTransition s k ≠ lastTransition s' k) := by
    intro k
    have hle := h.oneOngoing k
    rw [monitorTransitions_call]
    rcases hcount k with ⟨heq, hne⟩ | ⟨event, incident, hnote, hk, hfrom, heq⟩
    · refine .inl ⟨?_, ?_⟩
      · cases hnote : noteTransition ⟨o, r⟩ with
        | none => simp
        | some note => simp [hne note.1 note.2 hnote]
      · have heq' : ongoingCount s' k = ongoingCount s k := heq
        rw [lastTransition, heq', lastTransition]
    · have heq' : ongoingCount s' k = event.count (ongoingCount s k) := heq
      have hfrom' : event.From (ongoingCount s k) := hfrom
      rw [hnote]
      simp only [Option.bind_some, hk, if_true, Option.toList_some, lastTransition, heq']
      cases event with
      | opened =>
        have hzero : ongoingCount s k = 0 := hfrom'
        simp [hzero, IncidentEvent.count]
      | closed =>
        have hpos : ongoingCount s k ≠ 0 := Nat.pos_iff_ne_zero.1 hfrom'
        have hzero : ongoingCount s k - 1 = 0 := by omega
        simp [hpos, IncidentEvent.count, hzero]
  refine ⟨hstep.numbered h.numbered, hone, fun k => ?_, fun k => ?_⟩
  · rcases hlast k with ⟨heq, -⟩ | ⟨heq, hne⟩
    · rw [heq]
      exact h.alternates k
    · rw [heq, ← List.cons_append]
      refine (h.alternates k).append (.singleton _) fun x hx y hy => ?_
      rw [h.last k] at hx
      obtain rfl := Option.some.inj hx
      obtain rfl := Option.some.inj hy
      exact hne
  · rcases hlast k with ⟨heq, hsame⟩ | ⟨heq, -⟩
    · rw [heq, hsame]
      exact h.last k
    · rw [heq, ← List.cons_append, List.getLast?_concat]

omit [DecidableEq ι] in
/-- A transition noted of a run with one more call. -/
lemma mem_notesOf_call {γ : Type} {f : Answered Op.Resp JsError → Option γ} {j : ι} {c : γ} :
    (j, c) ∈ notesOf f (es ++ [.call i o r]) ↔
      (j, c) ∈ notesOf f es ∨ j = i ∧ f ⟨o, r⟩ = some c := by
  rw [notesOf_call, List.mem_append]
  refine or_congr_right ?_
  cases h : f ⟨o, r⟩ <;> simp [eq_comm]

omit [DecidableEq ι] in
/-- **The noted transitions** after a step of the register, by a call of the right kind. -/
lemma TransitionsNoted.call (h : TransitionsNoted calls db es s) (hnumbered : Numbered s.incidents)
    (hstep : RegisterStep s.incidents (noteTransition ⟨o, r⟩) s'.incidents)
    (hkind : ∀ event incident, noteTransition ⟨o, r⟩ = some (event, incident) →
      (calls i).event = event) : TransitionsNoted calls db (es ++ [.call i o r]) s' := by
  -- A transition made now has not happened before, so it is not noted yet.
  have hnew : ∀ event incident, noteTransition ⟨o, r⟩ = some (event, incident) →
      ¬HasHappened db.incidents event incident.id ∧
        ∀ j incident', (j, event, incident') ∈ notesOf noteTransition es →
          incident'.id ≠ incident.id := by
    intro event incident hnote
    rw [hnote] at hstep
    have hnot := (hstep.happens hnumbered).2
    rw [h.happened] at hnot
    exact ⟨fun hbefore => hnot (.inl hbefore),
      fun j incident' hj hid => hnot (.inr ⟨j, incident', hj, hid⟩)⟩
  refine ⟨fun event id => ?_, ?_, ?_, ?_⟩
  · rw [hstep.hasHappened_iff hnumbered, h.happened, or_assoc]
    refine or_congr_right ⟨?_, ?_⟩
    · rintro (⟨j, incident, hj, hid⟩ | ⟨incident, hnote, hid⟩)
      · exact ⟨j, incident, mem_notesOf_call.2 (.inl hj), hid⟩
      · exact ⟨i, incident, mem_notesOf_call.2 (.inr ⟨rfl, hnote⟩), hid⟩
    · rintro ⟨j, incident, hj, hid⟩
      rcases mem_notesOf_call.1 hj with hj | ⟨-, hnote⟩
      · exact .inl ⟨j, incident, hj, hid⟩
      · exact .inr ⟨incident, hnote, hid⟩
  · intro j event incident hj
    rcases mem_notesOf_call.1 hj with hj | ⟨-, hnote⟩
    · exact h.fresh j event incident hj
    · exact (hnew event incident hnote).1
  · intro j k event incident incident' hj hk hid
    rcases mem_notesOf_call.1 hj with hj' | ⟨hji, hnote⟩
    · rcases mem_notesOf_call.1 hk with hk' | ⟨-, hnote⟩
      · exact h.unique j k event incident incident' hj' hk' hid
      · exact absurd hid.symm ((hnew event incident' hnote).2 j incident hj')
    · rcases mem_notesOf_call.1 hk with hk' | ⟨hki, -⟩
      · exact absurd hid ((hnew event incident hnote).2 k incident' hk')
      · rw [hji, hki]
  · intro j event incident hj
    rcases mem_notesOf_call.1 hj with hj | ⟨rfl, hnote⟩
    · exact h.kind j event incident hj
    · exact hkind event incident hnote

/-- What a call to the database dispatches is noted. -/
lemma dispatches_of_performs (h : Performs o s r s') : s'.dispatches.map (·.key) =
    s.dispatches.map (·.key) ++ (noteDispatch ⟨o, r⟩).toList := by
  rcases h with ⟨ext, h⟩ | ⟨rfl, rfl, monitorId, ins, rfl, -⟩ | ⟨rfl, reason, rfl⟩
  · cases o with
    | dispatch payload =>
      obtain ⟨rfl, rfl⟩ := Prod.mk.inj h
      simp [noteDispatch, Notification.key]
    | upsertIncident monitorId ins =>
      simp only [exec] at h
      split at h
      · obtain ⟨rfl, rfl⟩ := Prod.mk.inj h
        simp [noteDispatch]
      · obtain ⟨rfl, rfl⟩ := Prod.mk.inj h
        simp [noteDispatch]
    | updateMonitor id update =>
      simp only [exec] at h
      split_ifs at h
      · obtain ⟨rfl, rfl⟩ := Prod.mk.inj h
        simp [noteDispatch]
      · obtain ⟨rfl, rfl⟩ := Prod.mk.inj h
        simp [noteDispatch]
    | _ =>
      obtain ⟨rfl, rfl⟩ := Prod.mk.inj h
      simp [noteDispatch]
  · simp [noteDispatch]
  · simp [noteDispatch]

/-- **The noted dispatches** after a permitted call. -/
lemma DispatchesNoted.call (h : DispatchesNoted db es s) (htransitions :
      TransitionsNoted calls db es s) (hperforms : Performs o s r s')
    (hpermitted : Permitted (calls i) (callsOf i es) o) :
    DispatchesNoted db (es ++ [.call i o r]) s' := by
  have hnew : ∀ event id, noteDispatch ⟨o, r⟩ = some (event, id) →
      dispatchesIn (callsOf i es) = [] ∧ ∃ incident,
        (i, event, incident) ∈ notesOf noteTransition es ∧ incident.id = id := by
    intro event id hnote
    unfold noteDispatch at hnote
    split at hnote
    · rename_i payload _ heq
      cases heq
      obtain ⟨rfl, rfl⟩ := Prod.mk.inj (Option.some.inj hnote)
      obtain ⟨hdispatches, incident, hincident, hid⟩ := hpermitted
      refine ⟨hdispatches, incident, (mem_notesOf noteTransition es).2 ?_, hid.symm⟩
      have hmem : (payload.event, incident) ∈ transitionsIn (callsOf i es) := by
        rw [hincident]
        exact List.mem_singleton.2 rfl
      exact hmem
    · cases hnote
  refine ⟨?_, ?_, ?_⟩
  · rw [dispatches_of_performs hperforms, h.dispatches, List.append_assoc, notesOf_call]
    cases noteDispatch ⟨o, r⟩ <;> simp
  · intro j event id hj
    rcases mem_notesOf_call.1 hj with hj | ⟨rfl, hnote⟩
    · obtain ⟨incident, hincident, hid⟩ := h.dispatched j event id hj
      exact ⟨incident, mem_notesOf_call.2 (.inl hincident), hid⟩
    · obtain ⟨-, incident, hincident, hid⟩ := hnew event id hnote
      exact ⟨incident, mem_notesOf_call.2 (.inl hincident), hid⟩
  · rw [notesOf_call]
    cases hnote : noteDispatch ⟨o, r⟩ with
    | none => simpa using h.nodup
    | some note =>
      obtain ⟨event, id⟩ := note
      obtain ⟨hnone, incident, hincident, hid⟩ := hnew event id hnote
      have hnot : (event, id) ∉ (notesOf noteDispatch es).map (·.2) := by
        intro hmem
        obtain ⟨⟨j, note⟩, hj, rfl⟩ := List.mem_map.1 hmem
        -- The other call has made the same transition, so it is this one.
        obtain ⟨incident', hincident', hid'⟩ := h.dispatched j event id hj
        obtain rfl := htransitions.unique i j event incident incident' hincident hincident'
          (hid'.trans hid.symm)
        have hmem' : (event, id) ∈ dispatchesIn (callsOf j es) :=
          (mem_notesOf noteDispatch es).1 hj
        rw [hnone] at hmem'
        cases hmem'
      simpa using List.Nodup.concat hnot h.nodup

/-! ## Runs -/

/-- The notes of a run agree with the store. -/
structure Ledger (calls : ι → IncidentCall) (db : Db) (es : List (IncidentStoreEvent ι))
    (s : Db) : Prop where
  alternating : Alternating db es s
  transitions : TransitionsNoted calls db es s
  dispatches : DispatchesNoted db es s

omit [DecidableEq ι] in
/-- At the start nothing is noted. -/
lemma Ledger.nil (calls : ι → IncidentCall) (hdb : ConsistentStore db) :
    Ledger calls db [] db where
  alternating := ⟨hdb.numbered, hdb.oneOngoing, fun _ => .singleton _, fun _ => rfl⟩
  transitions := ⟨by simp, by simp, by simp, by simp⟩
  dispatches := ⟨by simp, by simp, by simp⟩

/-- **The ledger rule.** A permitted call to the database keeps the notes in agreement. -/
theorem Ledger.step (h : Ledger calls db es s) (hperforms : Performs o s r s')
    (hpermitted : Permitted (calls i) (callsOf i es) o) :
    Ledger calls db (es ++ [.call i o r]) s' := by
  have hregister := registerStep_of_performs hperforms
  refine ⟨h.alternating.call hregister, ?_, ?_⟩
  · refine h.transitions.call h.alternating.numbered hregister fun event incident hnote => ?_
    unfold noteTransition at hnote
    split at hnote
    · rename_i heq
      cases heq
      obtain ⟨rfl, -⟩ := Prod.mk.inj (Option.some.inj hnote)
      exact hpermitted.2.1
    · rename_i heq
      cases heq
      obtain ⟨rfl, -⟩ := Prod.mk.inj (Option.some.inj hnote)
      exact hpermitted.2.1
    · cases hnote
  · exact h.dispatches.call h.transitions hperforms hpermitted

variable {w w' : IncidentWorld ι} {es' : List (IncidentStoreEvent ι)}

/-- What calls can answer when nothing fails. -/
lemma answersLoadable_of_performs (o : Op) (s : Db) (r : Except JsError o.Resp) (s' : Db)
    (h : PerformsLoadable o s r s') : AnswersLoadable o r :=
  ⟨s, s', h⟩

omit [DecidableEq ι] in
/-- Every call of the service is as its specification says, when its owner is known. -/
lemma spec_of_starts (howners : ∀ i, (calls i).monitor.userId.isSome) (i : ι) (_ : Db)
    (p : Async (Option Incident × Bool)) (hp : p = (calls i).prog) :
    p.Spec AnswersLoadable (Permitted (calls i)) (Ended (calls i)) [] := by
  subst hp
  exact (calls i).spec (howners i)

/-- Every run keeps its ledger. -/
theorem ledger_of_run (howners : ∀ i, (calls i).monitor.userId.isSome) (hdb : ConsistentStore db)
    (hrun : Run (IncidentStep calls) (.idle db) es w) : Ledger calls db es w.store := by
  refine hrun.induction_from (P := fun es w => Ledger calls db es w.store) (.nil calls hdb) ?_
  intro es a e b hrun' ih hstep
  cases hstep with
  | start _ _ =>
    obtain ⟨⟨hnumbered, hone, halternates, hlast⟩, ⟨hhappened, hfresh, hunique, hkind⟩,
      ⟨hdispatches, hdispatched, hnodup⟩⟩ := ih
    refine ⟨⟨hnumbered, hone, ?_, ?_⟩, ⟨?_, ?_, ?_, ?_⟩, ⟨?_, ?_, ?_⟩⟩
    all_goals simpa only [monitorTransitions, notesOf_start]
  | call hi hperforms =>
    exact ih.step hperforms.1
      (hrun'.permits (spec_of_starts howners) answersLoadable_of_performs hi)

/-! ## Linearity -/

omit [DecidableEq ι] in
/-- The dispatches counted are those noted. -/
lemma DispatchesNoted.count_eq (h : DispatchesNoted db es s) (event : IncidentEvent) (id : ℕ) :
    dispatchCount db s event id = ((notesOf noteDispatch es).map (·.2)).count (event, id) := by
  rw [dispatchCount, List.map_drop, h.dispatches, List.drop_left' (List.length_map _)]

/-- A call that reports a transition has made it. -/
lemma noted_of_reports (howners : ∀ i, (calls i).monitor.userId.isSome)
    (hrun : Run (IncidentStep calls) (.idle db) es w) {event : IncidentEvent} {id : ℕ}
    (h : Reports calls w i event id) :
    ∃ incident, (i, event, incident) ∈ notesOf noteTransition es ∧ incident.id = id := by
  obtain ⟨rfl, reported, htodo, rfl⟩ := h
  have hended : Ended (calls i) (callsOf i es) (.ok (some reported, true)) :=
    hrun.ends (spec_of_starts howners) answersLoadable_of_performs htodo
  rcases hended with ⟨-, -, incident, hout⟩ | ⟨incident, reported', htransitions, -, hout, hid⟩
  · cases hout
  · cases hout
    refine ⟨incident, (mem_notesOf noteTransition es).2 ?_, hid.symm⟩
    have hmem : ((calls i).event, incident) ∈ transitionsIn (callsOf i es) := by
      rw [htransitions]
      exact List.mem_singleton.2 rfl
    exact hmem

/-- A call that has made a transition and has ended, has dispatched and reported it. -/
lemma reports_of_noted (howners : ∀ i, (calls i).monitor.userId.isSome)
    (hrun : Run (IncidentStep calls) (.idle db) es w) {event : IncidentEvent}
    {incident : Incident} (hnoted : (i, event, incident) ∈ notesOf noteTransition es)
    {out : Except JsError (Option Incident × Bool)} (htodo : w.todo i = some (.done out)) :
    Reports calls w i event incident.id ∧
      (i, event, incident.id) ∈ notesOf noteDispatch es := by
  have hmem : (event, incident) ∈ transitionsIn (callsOf i es) :=
    (mem_notesOf noteTransition es).1 hnoted
  have hended := hrun.ends (spec_of_starts howners) answersLoadable_of_performs htodo
  rcases hended with ⟨hnone, -⟩ | ⟨incident', reported, htransitions, hdispatches, rfl, hid⟩
  · rw [hnone] at hmem
    cases hmem
  · rw [htransitions] at hmem
    obtain ⟨rfl, rfl⟩ := Prod.mk.inj (List.mem_singleton.1 hmem)
    refine ⟨⟨rfl, reported, htodo, hid⟩, (mem_notesOf noteDispatch es).2 ?_⟩
    have hmem' : ((calls i).event, incident.id) ∈ dispatchesIn (callsOf i es) := by
      rw [hdispatches]
      exact List.mem_singleton.2 rfl
    exact hmem'

/-- A call that has made a transition has started. -/
lemma started_of_noted (howners : ∀ i, (calls i).monitor.userId.isSome)
    (hrun : Run (IncidentStep calls) (.idle db) es w) {event : IncidentEvent}
    {incident : Incident} (hnoted : (i, event, incident) ∈ notesOf noteTransition es) :
    w.todo i ≠ none := by
  intro hnone
  have hspec := hrun.spec (spec_of_starts howners) answersLoadable_of_performs i
  rw [hnone] at hspec
  have hmem := (mem_notesOf noteTransition es).1 hnoted
  rw [show callsOf i es = [] from hspec] at hmem
  cases hmem

/-- **The incident store is linear.** For any number of calls of the service with loadable owners,
in every order of their calls to the database: each monitor has at most one ongoing incident; every
incident created, and every one resolved, is reported by exactly one call, with one dispatch;
opening and closing alternate for each monitor; and from any moment to any later one, no incident
changes its opening, and none that is resolved changes its end.

**Proof sketch.** Every call to the database is a step of the register, and whoever makes a
transition makes it for the first time. The ledger says so of the notes of the run; what a single
call of the service does with the transition it has made is in its specification. -/
theorem incidentStore_linear (howners : ∀ i, (calls i).monitor.userId.isSome)
    (hdb : ConsistentStore db) (hrun : Run (IncidentStep calls) (.idle db) es w) :
    Linear calls db es w ∧ ∀ es' w', Run (IncidentStep calls) w es' w' →
      Settled w.store.incidents w'.store.incidents := by
  obtain ⟨halternating, htransitions, hdispatches⟩ := ledger_of_run howners hdb hrun
  have hmade : ∀ i event incident, (i, event, incident) ∈ notesOf noteTransition es →
      HasHappened w.store.incidents event incident.id ∧
        ¬HasHappened db.incidents event incident.id := fun i event incident hnoted =>
    ⟨(htransitions.happened event incident.id).2 (.inr ⟨i, incident, hnoted, rfl⟩),
      htransitions.fresh i event incident hnoted⟩
  refine ⟨⟨halternating.oneOngoing, halternating.alternates, ?_, ?_, ?_⟩, ?_⟩
  · intro event id hnow hbefore
    obtain ⟨i, incident, hnoted, rfl⟩ :=
      ((htransitions.happened event id).1 hnow).resolve_left hbefore
    have hle : dispatchCount db w.store event incident.id ≤ 1 := by
      rw [hdispatches.count_eq]
      exact List.nodup_iff_count_le_one.1 hdispatches.nodup _
    refine ⟨hle, i, started_of_noted howners hrun hnoted, htransitions.kind i event incident hnoted,
      fun j hj => ?_, fun out hout => ?_⟩
    · obtain ⟨incident', hnoted', hid⟩ := noted_of_reports howners hrun hj
      exact htransitions.unique i j event incident incident' hnoted hnoted' hid
    · obtain ⟨hreports, hdispatched⟩ := reports_of_noted howners hrun hnoted hout
      refine ⟨hreports, le_antisymm hle ?_⟩
      rw [hdispatches.count_eq, Nat.one_le_iff_ne_zero, ← Nat.pos_iff_ne_zero, List.count_pos_iff]
      exact List.mem_map.2 ⟨_, hdispatched, rfl⟩
  · intro i event id hreports
    obtain ⟨incident, hnoted, rfl⟩ := noted_of_reports howners hrun hreports
    exact hmade i event incident hnoted
  · intro event id hcount
    rw [hdispatches.count_eq, ← Nat.pos_iff_ne_zero, List.count_pos_iff] at hcount
    obtain ⟨⟨i, note⟩, hmem, rfl⟩ := List.mem_map.1 hcount
    obtain ⟨incident, hnoted, rfl⟩ := hdispatches.dispatched i event id hmem
    exact hmade i event incident hnoted
  · intro es' w' hrun'
    have hstep : ∀ a e b, Settled w.store.incidents a.store.incidents →
        IncidentStep calls a e b → Settled w.store.incidents b.store.incidents := by
      intro a e b hsettled hstep
      cases hstep with
      | start _ _ => exact hsettled
      | call _ hperforms =>
        exact hsettled.trans (registerStep_of_performs hperforms.1).settled
    exact hrun'.invariant hstep fun n i hi => ⟨i, hi, .refl i⟩

/-- Two calls race to open the incident of a monitor. -/
def racingCalls (_ : Bool) : IncidentCall :=
  .opening (Monitor.fresh 1 (some 7) "http://a.test/" 0) "ETIMEDOUT" 0

/-- A database without incidents, whose users all have an account. -/
def emptyDb : Db := ⟨fun _ => none, [], [], fun _ => true, []⟩

/-- One of them creates it, the other is rejected by the index. -/
theorem incidentStore_linear_race : ∃ es w, Run (IncidentStep racingCalls) (.idle emptyDb) es w ∧
    w.store.incidents.length = 1 ∧ Linear racingCalls emptyDb es w := by
  let created := Incident.inserted 0 1 ⟨some 7, 0, "ETIMEDOUT"⟩
  let db : Db := { emptyDb with incidents := [created] }
  have hcreate : PerformsLoadable (.upsertIncident 1 ⟨some 7, 0, "ETIMEDOUT"⟩) emptyDb
      (.ok (created, false)) db := ⟨.inl ⟨answering .down, rfl⟩, by simp⟩
  have hreject : PerformsLoadable (.upsertIncident 1 ⟨some 7, 0, "ETIMEDOUT"⟩) db
      (.error duplicateKey) db := ⟨.inr (.inl ⟨rfl, rfl, 1, _, rfl, by decide⟩), by simp⟩
  have hrun : ∃ es w, Run (IncidentStep racingCalls) (.idle emptyDb) es w ∧ w.store = db :=
    ⟨_, _, .cons (.start (i := true) rfl rfl) (.cons (.start (i := false) rfl rfl)
      (.cons (.call (i := true) rfl hcreate) (.cons (.call (i := false) rfl hreject) (.nil _)))),
      rfl⟩
  obtain ⟨es, w, hrun, hstore⟩ := hrun
  have hdb : ConsistentStore emptyDb := ⟨by simp [Numbered, emptyDb], fun k => Nat.zero_le 1⟩
  exact ⟨es, w, hrun, by rw [hstore]; rfl, (incidentStore_linear (fun _ => rfl) hdb hrun).1⟩

end WatchTower
