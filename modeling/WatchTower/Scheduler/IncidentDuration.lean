import WatchTower.Scheduler.Incident

set_option relaxedAutoImplicit false
set_option autoImplicit false

/-!
# The duration of an incident

`closeIncident` computes the duration of the outage and clamps it at zero, since the clock that
closes an incident may be behind the one that opened it. It then saves the document, and the
`pre('save')` hook computes the same field again, without the clamp.

## Main definitions

* `WatchTower.clampedDuration` — the duration with the clamp.
* `WatchTower.ClosesWith` — the duration that a close persists, returns and dispatches.

## Main results

* `WatchTower.closesWith_elapsed` — it is the one of the hook.
* `WatchTower.closesClamped_iff` — which is the clamped one exactly when the clock that closes the
  incident is not behind its start.
-/

namespace WatchTower

open Documents Transition Transition.Prog

/-- `Math.max(0, Math.floor((endTime - startTime) / 1000))`. -/
def clampedDuration (startTime endTime : Time) : ℤ := max 0 ((endTime - startTime) / 1000)

variable (ext : External) (db : Db) (m : Monitor) (t : Time)

/-- Closing the ongoing incident of a monitor returns it with the given duration, leaves that
duration in the document which was ongoing, and dispatches no other. -/
structure ClosesWith (duration : ℤ) : Prop where
  returned : ∃ closed, ((closeIncident m t).run (exec ext) db).1 = .ok (some closed, true) ∧
    closed.duration = duration
  persisted : (((closeIncident m t).run (exec ext) db).2.incidents[
    db.incidents.findIdx (isOngoing m.id)]?).map (·.duration) = some duration
  dispatched : ∀ n ∈ ((closeIncident m t).run (exec ext) db).2.dispatches.drop
    db.dispatches.length, n.incident.duration = duration

variable {db m} {i : Incident}

/-- What a save persists of the duration is what the hook has computed. -/
lemma duration_change_modifiedPaths (loaded saved : Incident) :
    (loaded.change (loaded.modifiedPaths saved)).duration = saved.duration := by
  unfold Incident.change Incident.modifiedPaths
  dsimp only
  split_ifs with h
  · exact h.symm
  · rfl

/-- **A close leaves the duration of the hook**: the seconds from the start of the incident to the
time of the close, also when they are negative. -/
theorem closesWith_elapsed (hfind : db.incidents.find? (isOngoing m.id) = some i) :
    ClosesWith ext db m t ((t - i.startTime) / 1000) := by
  let loaded := i.resolve t
  let saved := { loaded with duration := clampedDuration i.startTime t }.preSave
  have hsaved : saved.duration = (t - i.startTime) / 1000 := rfl
  have hrun : (closeIncident m t).run (exec ext) db = (.ok (some saved, true), { db with
      incidents := updateAll (fun j => j.id = saved.id) (·.change (loaded.modifiedPaths saved))
        (updateFirst (isOngoing m.id) (·.resolve t) db.incidents)
      dispatches := db.dispatches ++ notices db m .closed saved t }) := by
    simp [closeIncident, exec, hfind, run_save, run_notifyOwner, notices, loadableOwner, loaded,
      saved, clampedDuration, Incident.resolve]
  refine ⟨⟨saved, by rw [hrun], hsaved⟩, ?_, ?_⟩
  · have hat : (updateFirst (isOngoing m.id) (·.resolve t) db.incidents)[
        db.incidents.findIdx (isOngoing m.id)]? = some loaded := by
      rw [getElem?_findIdx_updateFirst, hfind, Option.map_some]
    have hid : loaded.id = saved.id := rfl
    rw [hrun]
    simp only [getElem?_updateAll, hat, Option.map_some, hid, decide_true, if_true,
      duration_change_modifiedPaths, hsaved]
  · intro n hn
    rw [hrun, List.drop_left] at hn
    obtain ⟨uid, -, rfl⟩ := Option.map_eq_some_iff.1 (Option.mem_toList.1 hn)
    exact hsaved

/-- The seconds elapsed are the clamped ones exactly when they are not negative. -/
lemma elapsed_eq_clampedDuration_iff (startTime endTime : Time) :
    (endTime - startTime) / 1000 = clampedDuration startTime endTime ↔ startTime ≤ endTime := by
  have hnonneg : 0 ≤ (endTime - startTime) / 1000 ↔ 0 ≤ endTime - startTime :=
    Int.ediv_nonneg_iff_of_pos (by decide)
  unfold clampedDuration
  rw [eq_comm, max_eq_right_iff, hnonneg, sub_nonneg]

variable (db m)

/-- **A close leaves the clamped duration exactly when the clock is not behind the start** of the
incident that it closes. -/
theorem closesClamped_iff :
    (∀ i, db.incidents.find? (isOngoing m.id) = some i →
        ClosesWith ext db m t (clampedDuration i.startTime t)) ↔
      ∀ i, db.incidents.find? (isOngoing m.id) = some i → i.startTime ≤ t := by
  refine forall_congr' fun i => forall_congr' fun hfind => ?_
  obtain ⟨⟨closed, hclosed, hduration⟩, -⟩ := closesWith_elapsed ext t hfind
  rw [← elapsed_eq_clampedDuration_iff]
  constructor
  · rintro ⟨⟨closed', hclosed', hduration'⟩, -⟩
    obtain rfl : closed = closed' := by simpa [hclosed] using hclosed'
    exact hduration.symm.trans hduration'
  · intro heq
    exact heq ▸ closesWith_elapsed ext t hfind

/-- An incident that opened ten seconds after the epoch, with its monitor. -/
def laterIncident : Db where
  monitors := fun _ => some (.fresh 0 (some 7) "http://a.test/" 0)
  incidents := [.inserted 0 0 ⟨some 7, 10000, "connection refused"⟩]
  logs := []
  users := fun _ => true
  dispatches := []

/-- An incident that is closed by a clock ten seconds behind lasts minus ten seconds. -/
theorem closesClamped_fails_on_skewed_clock :
    ¬∀ i, laterIncident.incidents.find? (isOngoing 0) = some i →
      ClosesWith (answering .up) laterIncident (.fresh 0 (some 7) "http://a.test/" 0) 0
        (clampedDuration i.startTime 0) := by
  intro h
  have hle := (closesClamped_iff (answering .up) laterIncident
    (.fresh 0 (some 7) "http://a.test/" 0) 0).1 h _ rfl
  exact absurd hle (by decide)

end WatchTower
