import WatchTower.Scheduler.IncidentCalls

set_option relaxedAutoImplicit false
set_option autoImplicit false

/-!
# The register of incidents

The collection of incidents as a register of outages: an incident is opened when its monitor has
none that is ongoing, later resolved, and otherwise only its derived fields change. Every call to
the database is a step of the register (`WatchTower.registerStep_of_performs`), whoever makes it
and in whatever order.

## Main definitions

* `WatchTower.RegisterStep` — the steps of the register, with the transition that each makes.
* `WatchTower.Numbered` — the id of an incident is its position.
* `WatchTower.HasHappened` — whether an incident has been opened, or resolved.
* `WatchTower.Settled` — what never changes of the incidents there are.

## Main results

* `WatchTower.registerStep_of_performs` — the database refines the register.
* `WatchTower.RegisterStep.count_eq` — the ongoing incidents after a step.
* `WatchTower.RegisterStep.hasHappened_iff` — a step makes the transition it is labelled with, for
  the first time.
* `WatchTower.RegisterStep.settled` — a step leaves what is settled alone.
-/

namespace WatchTower

open Documents Transition

/-- The steps of the register: the label is the transition that is made, with the incident. -/
inductive RegisterStep : List Incident → Option (IncidentEvent × Incident) → List Incident → Prop
  | kept (l : List Incident) : RegisterStep l none l
  | saved (l : List Incident) (id : ℕ) (changes : IncidentChanges) :
      RegisterStep l none (updateAll (fun i => i.id = id) (·.change changes) l)
  | opened (l : List Incident) (monitorId : ℕ) (ins : NewIncident) :
      l.countP (isOngoing monitorId) = 0 →
      RegisterStep l (some (.opened, .inserted l.length monitorId ins))
        (l ++ [.inserted l.length monitorId ins])
  | closed (l₁ l₂ : List Incident) (i : Incident) (endTime : Time) :
      i.status = .ongoing →
      RegisterStep (l₁ ++ i :: l₂) (some (.closed, i.resolve endTime))
        (l₁ ++ i.resolve endTime :: l₂)

/-- An update of the first match, at the place where that is. -/
lemma updateFirst_eq_of_find {p : Incident → Bool} {f : Incident → Incident} {l : List Incident}
    {i : Incident} (h : l.find? p = some i) :
    ∃ l₁ l₂, l = l₁ ++ i :: l₂ ∧ updateFirst p f l = l₁ ++ f i :: l₂ := by
  induction l with
  | nil => cases h
  | cons a l ih =>
    by_cases ha : p a = true
    · obtain rfl : a = i := by simpa [ha] using h
      exact ⟨[], l, rfl, by simp [updateFirst, ha]⟩
    · obtain ⟨l₁, l₂, rfl, hupdate⟩ := ih (by simpa [ha] using h)
      exact ⟨a :: l₁, l₂, rfl, by simp [updateFirst, ha, hupdate]⟩

/-- **The database refines the register.** -/
theorem registerStep_of_performs {o : Op} {db db' : Db} {r : Except JsError o.Resp}
    (h : Performs o db r db') :
    RegisterStep db.incidents (noteTransition ⟨o, r⟩) db'.incidents := by
  rcases h with ⟨ext, h⟩ | ⟨rfl, rfl, monitorId, ins, rfl, -⟩ | ⟨rfl, reason, rfl⟩
  · cases o with
    | upsertIncident monitorId ins =>
      simp only [exec] at h
      split at h
      · obtain ⟨rfl, rfl⟩ := Prod.mk.inj h
        exact .kept _
      · rename_i hnone
        obtain ⟨rfl, rfl⟩ := Prod.mk.inj h
        exact .opened _ _ _ (find_eq_none_iff_countP.1 hnone)
    | resolveIncident monitorId endTime =>
      simp only [exec] at h
      obtain ⟨rfl, rfl⟩ := Prod.mk.inj h
      cases hfind : db.incidents.find? (isOngoing monitorId) with
      | none =>
        have hsame := updateFirst_of_countP_eq_zero (f := (·.resolve endTime))
          (find_eq_none_iff_countP.1 hfind)
        simp only [Option.map_none]
        rw [hsame]
        exact .kept _
      | some i =>
        obtain ⟨l₁, l₂, hl, hupdate⟩ :=
          updateFirst_eq_of_find (f := (·.resolve endTime)) hfind
        have hongoing : i.monitorId = monitorId ∧ i.status = .ongoing := by
          simpa [isOngoing] using List.find?_some hfind
        simp only [Option.map_some]
        rw [hl] at hupdate ⊢
        rw [hupdate]
        exact .closed l₁ l₂ i endTime hongoing.2
    | saveIncident id changes =>
      obtain ⟨rfl, rfl⟩ := Prod.mk.inj h
      exact .saved _ id changes
    | updateMonitor id update =>
      simp only [exec] at h
      split_ifs at h
      · obtain ⟨rfl, rfl⟩ := Prod.mk.inj h
        exact .kept _
      · obtain ⟨rfl, rfl⟩ := Prod.mk.inj h
        exact .kept _
    | _ =>
      obtain ⟨rfl, rfl⟩ := Prod.mk.inj h
      exact .kept _
  · exact .kept _
  · exact .kept _

variable {l l' : List Incident} {note : Option (IncidentEvent × Incident)} {event : IncidentEvent}
  {i : Incident}

/-! ## Ongoing incidents -/

/-- Whether a monitor had no ongoing incident before a transition. -/
def IncidentEvent.From : IncidentEvent → ℕ → Prop
  | .opened, n => n = 0
  | .closed, n => 0 < n

/-- **The ongoing incidents after a step**: a transition changes the number for the monitor of the
incident, as it is possible from the number before; nothing else does. -/
theorem RegisterStep.count_eq (h : RegisterStep l note l') (k : ℕ) :
    l'.countP (isOngoing k) = l.countP (isOngoing k) ∧
        (∀ event i, note = some (event, i) → i.monitorId ≠ k) ∨
      ∃ event i, note = some (event, i) ∧ i.monitorId = k ∧ event.From (l.countP (isOngoing k)) ∧
        l'.countP (isOngoing k) = event.count (l.countP (isOngoing k)) := by
  cases h with
  | kept _ => exact .inl ⟨rfl, by simp⟩
  | saved _ id changes => exact .inl ⟨ongoingCount_saveIncident _ _ _, by simp⟩
  | opened _ monitorId ins hzero =>
    by_cases hk : monitorId = k
    · subst hk
      refine .inr ⟨_, _, rfl, rfl, hzero, ?_⟩
      simp [List.countP_append, IncidentEvent.count]
    · refine .inl ⟨by simp [List.countP_append, hk], ?_⟩
      rintro event i hnote
      obtain ⟨rfl, rfl⟩ := Prod.mk.inj (Option.some.inj hnote)
      exact hk
  | closed l₁ l₂ i endTime hongoing =>
    have hresolved : isOngoing k (i.resolve endTime) = false := by
      simp [isOngoing, Incident.resolve]
    by_cases hk : i.monitorId = k
    · have hi : isOngoing k i = true := by simp [isOngoing, hk, hongoing]
      refine .inr ⟨_, _, rfl, hk, ?_, ?_⟩
      · simp only [IncidentEvent.From, List.countP_append, List.countP_cons_of_pos hi]
        omega
      · simp [IncidentEvent.count, List.countP_append, hi, hresolved]
    · have hi : isOngoing k i = false := by simp [isOngoing, hk]
      refine .inl ⟨by simp [List.countP_append, hi, hresolved], ?_⟩
      rintro event j hnote
      obtain ⟨rfl, rfl⟩ := Prod.mk.inj (Option.some.inj hnote)
      exact hk

/-! ## Incidents by position -/

/-- The id of an incident is its position. -/
def Numbered (l : List Incident) : Prop := ∀ (n : ℕ) (i : Incident), l[n]? = some i → i.id = n

/-- Whether an incident has been opened, or resolved. -/
def HasHappened (l : List Incident) : IncidentEvent → ℕ → Prop
  | .opened, n => n < l.length
  | .closed, n => ∃ i, l[n]? = some i ∧ i.status = .resolved

/-- What never changes of an incident: the times and the reason it was opened with, and once it is
resolved, that it is and since when. -/
structure Incident.Settles (i j : Incident) : Prop where
  id : j.id = i.id
  monitorId : j.monitorId = i.monitorId
  startTime : j.startTime = i.startTime
  reason : j.reason = i.reason
  resolved : i.status = .resolved → j.status = .resolved ∧ j.endTime = i.endTime

/-- No incident is lost, and what is settled of each stays. -/
def Settled (l l' : List Incident) : Prop :=
  ∀ (n : ℕ) (i : Incident), l[n]? = some i → ∃ j, l'[n]? = some j ∧ i.Settles j

/-- What is settled stays settled. -/
lemma Settled.trans {l'' : List Incident} (h : Settled l l') (h' : Settled l' l'') :
    Settled l l'' := by
  intro n i hi
  obtain ⟨j, hj, hij⟩ := h n i hi
  obtain ⟨k, hk, hjk⟩ := h' n j hj
  refine ⟨k, hk, hjk.id.trans hij.id, hjk.monitorId.trans hij.monitorId,
    hjk.startTime.trans hij.startTime, hjk.reason.trans hij.reason, fun hresolved => ?_⟩
  obtain ⟨hj, hend⟩ := hij.resolved hresolved
  obtain ⟨hk, hend'⟩ := hjk.resolved hj
  exact ⟨hk, hend'.trans hend⟩

/-- An incident settles to itself. -/
lemma Incident.Settles.refl (i : Incident) : i.Settles i := ⟨rfl, rfl, rfl, rfl, fun h => ⟨h, rfl⟩⟩

/-- What is at a position when one element has been replaced. -/
lemma getElem?_middle {l₁ l₂ : List Incident} (i j : Incident) (n : ℕ) :
    (l₁ ++ j :: l₂)[n]? = if n = l₁.length then some j else (l₁ ++ i :: l₂)[n]? := by
  rcases lt_trichotomy n l₁.length with hn | rfl | hn
  · rw [if_neg hn.ne, List.getElem?_append_left hn, List.getElem?_append_left hn]
  · simp
  · obtain ⟨m, rfl⟩ : ∃ m, n = l₁.length + (m + 1) := ⟨n - l₁.length - 1, by omega⟩
    rw [if_neg (by omega), List.getElem?_append_right (by omega),
      List.getElem?_append_right (by omega), Nat.add_sub_cancel_left]
    rfl

/-- **A step leaves alone what is settled.** -/
theorem RegisterStep.settled (h : RegisterStep l note l') : Settled l l' := by
  intro n i hi
  cases h with
  | kept _ => exact ⟨i, hi, .refl i⟩
  | saved _ id changes =>
    refine ⟨_, by rw [updateAll, List.getElem?_map, hi]; rfl, ?_⟩
    dsimp only
    split_ifs
    · exact ⟨rfl, rfl, rfl, rfl, fun h => ⟨h, rfl⟩⟩
    · exact .refl i
  | opened _ monitorId ins hzero =>
    refine ⟨i, ?_, .refl i⟩
    rw [List.getElem?_append_left (List.getElem?_eq_some_iff.1 hi).1]
    exact hi
  | closed l₁ l₂ j endTime hongoing =>
    rw [getElem?_middle j]
    split_ifs with hn
    · subst hn
      obtain rfl : j = i := by simpa using hi
      refine ⟨j.resolve endTime, rfl, rfl, rfl, rfl, rfl, fun h => ?_⟩
      rw [hongoing] at h
      cases h
    · exact ⟨i, hi, .refl i⟩

/-- A step keeps the numbering. -/
lemma RegisterStep.numbered (h : RegisterStep l note l') (hl : Numbered l) : Numbered l' := by
  intro n i hi
  cases h with
  | kept _ => exact hl n i hi
  | saved _ id changes =>
    rw [updateAll, List.getElem?_map] at hi
    obtain ⟨j, hj, rfl⟩ := Option.map_eq_some_iff.1 hi
    split_ifs
    · exact hl n j hj
    · exact hl n j hj
  | opened _ monitorId ins hzero =>
    rcases lt_trichotomy n l.length with hn | rfl | hn
    · rw [List.getElem?_append_left hn] at hi
      exact hl n i hi
    · obtain rfl : Incident.inserted l.length monitorId ins = i := by simpa using hi
      rfl
    · rw [List.getElem?_eq_none (by simp; omega)] at hi
      cases hi
  | closed l₁ l₂ j endTime hongoing =>
    rw [getElem?_middle j] at hi
    split_ifs at hi with hn
    · obtain rfl := Option.some.inj hi
      exact hl n j (by simp [hn])
    · exact hl n i hi

/-- A transition is made of the incident with its number. -/
lemma RegisterStep.happens (h : RegisterStep l (some (event, i)) l') (hl : Numbered l) :
    HasHappened l' event i.id ∧ ¬HasHappened l event i.id := by
  cases h with
  | opened _ monitorId ins hzero => simp [HasHappened, Incident.inserted]
  | closed l₁ l₂ j endTime hongoing =>
    have hid : (j.resolve endTime).id = l₁.length := hl l₁.length j (by simp)
    rw [hid]
    refine ⟨⟨j.resolve endTime, by simp, rfl⟩, ?_⟩
    rintro ⟨j', hj', hresolved⟩
    obtain rfl : j = j' := by simpa using hj'
    rw [hongoing] at hresolved
    cases hresolved

/-- **A step makes the transition that it is labelled with**, and no other. -/
theorem RegisterStep.hasHappened_iff (h : RegisterStep l note l') (hl : Numbered l)
    (e : IncidentEvent) (n : ℕ) : HasHappened l' e n ↔
      HasHappened l e n ∨ ∃ i, note = some (e, i) ∧ i.id = n := by
  constructor
  · intro hn
    cases h with
    | kept _ => exact .inl hn
    | saved _ id changes =>
      refine .inl ?_
      cases e with
      | opened => simpa [HasHappened, updateAll] using hn
      | closed =>
        obtain ⟨i, hi, hresolved⟩ := hn
        rw [updateAll, List.getElem?_map] at hi
        obtain ⟨j, hj, rfl⟩ := Option.map_eq_some_iff.1 hi
        refine ⟨j, hj, ?_⟩
        split_ifs at hresolved
        · exact hresolved
        · exact hresolved
    | opened _ monitorId ins hzero =>
      cases e with
      | opened =>
        have hle : n < l.length ∨ n = l.length := by
          simp only [HasHappened, List.length_append, List.length_singleton] at hn
          omega
        exact hle.imp_right fun hn => ⟨_, rfl, hn.symm⟩
      | closed =>
        obtain ⟨i, hi, hresolved⟩ := hn
        rcases lt_trichotomy n l.length with hn | rfl | hn
        · exact .inl ⟨i, by rwa [List.getElem?_append_left hn] at hi, hresolved⟩
        · obtain rfl : Incident.inserted l.length monitorId ins = i := by simpa using hi
          cases hresolved
        · rw [List.getElem?_eq_none (by simp; omega)] at hi
          cases hi
    | closed l₁ l₂ j endTime hongoing =>
      cases e with
      | opened => exact .inl (by simpa [HasHappened] using hn)
      | closed =>
        obtain ⟨i, hi, hresolved⟩ := hn
        rw [getElem?_middle j] at hi
        split_ifs at hi with hn
        · exact .inr ⟨_, rfl, hn ▸ hl l₁.length j (by simp)⟩
        · exact .inl ⟨i, hi, hresolved⟩
  · rintro (hn | ⟨i, rfl, rfl⟩)
    · cases e with
      | opened =>
        obtain ⟨j, hj, -⟩ := h.settled n l[n] (List.getElem?_eq_getElem hn)
        exact (List.getElem?_eq_some_iff.1 hj).1
      | closed =>
        obtain ⟨i, hi, hresolved⟩ := hn
        obtain ⟨j, hj, hij⟩ := h.settled n i hi
        exact ⟨j, hj, (hij.resolved hresolved).1⟩
    · exact (h.happens hl).1

end WatchTower
