import WatchTower.Scheduler.Deletion
import WatchTower.Scheduler.Tick

set_option relaxedAutoImplicit false
set_option autoImplicit false

/-!
# The incidents of deleted monitors

An incident is closed by a check of its monitor. Once the monitor has been deleted there is no
such check any more, and the deletion itself leaves its incidents alone: an outage that is ongoing
then is reported as ongoing for ever.

## Main definitions

* `WatchTower.DeletingWorld` — the world of a single leader, with the documents deleted so far.
* `WatchTower.DeletingStep` — its steps, and the deletion of a monitor by its owner.
* `WatchTower.OutagesKept` — what the ongoing incidents of a monitor say.

## Main results

* `WatchTower.OutagesKept.step` — every step keeps the incidents accounted for.
* `WatchTower.ongoing_iff_of_deleted` — a deleted monitor has an ongoing incident, at any later
  time, exactly when it was down when it was deleted.
-/

namespace WatchTower

open Transition

/-- The world, and the documents that have been deleted. -/
structure DeletingWorld where
  /-- The world. -/
  world : World
  /-- The document of each deleted monitor, as it was. -/
  deleted : ℕ → Option Monitor

/-- A world in which nothing has been deleted. -/
def DeletingWorld.intact (w : World) : DeletingWorld := ⟨w, fun _ => none⟩

/-- What happens to it. -/
inductive DeletingEvent
  /-- The world goes on. -/
  | works (e : Event)
  /-- `deleteMonitorController`. -/
  | delete (userId id : ℕ)

/-- The steps. No document gets the `_id` of one that has been deleted. -/
inductive DeletingStep (env : CheckEnv) : DeletingWorld → DeletingEvent → DeletingWorld → Prop
  | works {w w' : World} {deleted : ℕ → Option Monitor} {e : Event} :
      Step env w e w' →
      (∀ id userId url t, e = .create id userId url t → deleted id = none) →
      DeletingStep env ⟨w, deleted⟩ (.works e) ⟨w', deleted⟩
  | delete {w : World} {deleted : ℕ → Option Monitor} {userId id : ℕ} {m : Monitor} :
      w.db.monitors id = some m →
      m.userId = some userId →
      DeletingStep env ⟨w, deleted⟩ (.delete userId id)
        ⟨{ w with db := (OwnerRequest.delete userId id).write w.db },
          Function.update deleted id (some m)⟩

/-- The ongoing incidents that a monitor with this document has. -/
def ongoingFor (m : Monitor) : ℕ := if confirmedOf m = .down then 1 else 0

/-- Every ongoing incident belongs to a monitor that is down, or was when it was deleted. -/
structure OutagesKept (s : DeletingWorld) : Prop where
  keyed : Keyed s.world.db
  absent : ∀ id, s.world.db.monitors id = none → s.deleted id = none →
    ongoingCount s.world.db id = 0
  present : ∀ id m, s.world.db.monitors id = some m → ongoingCount s.world.db id = ongoingFor m
  deleted : ∀ id m, s.deleted id = some m →
    s.world.db.monitors id = none ∧ ongoingCount s.world.db id = ongoingFor m

variable {env : CheckEnv} {s s' : DeletingWorld} {w w' : World} {es : List DeletingEvent}
  {id userId : ℕ} {m : Monitor}

/-- The empty world is accounted for. -/
lemma outagesKept_empty (users : ℕ → Bool) : OutagesKept (.intact (.empty users)) where
  keyed := (consistent_empty users).keyed
  absent := fun id hnone _ => (consistent_empty users).absent id hnone
  present := (consistent_empty users).agrees
  deleted := by simp [DeletingWorld.intact]

/-- The document of one monitor is written, and its ongoing incidents fit. -/
lemma OutagesKept.write (hs : OutagesKept s)
    (hmon : w'.db.monitors = Function.update s.world.db.monitors id (some m)) (hid : m.id = id)
    (hself : ongoingCount w'.db id = ongoingFor m) (hdeleted : s.deleted id = none)
    (hne : ∀ k, k ≠ id → ongoingCount w'.db k = ongoingCount s.world.db k) :
    OutagesKept ⟨w', s.deleted⟩ where
  keyed := hs.keyed.write hmon hid
  absent k hk hkd := by
    change w'.db.monitors k = none at hk
    change ongoingCount w'.db k = 0
    rw [hmon] at hk
    by_cases hki : k = id
    · subst hki
      simp at hk
    · rw [Function.update_of_ne hki] at hk
      rw [hne k hki]
      exact hs.absent k hk hkd
  present k m' hk := by
    change w'.db.monitors k = some m' at hk
    change ongoingCount w'.db k = ongoingFor m'
    rw [hmon] at hk
    by_cases hki : k = id
    · subst hki
      rw [Function.update_self, Option.some.injEq] at hk
      exact hk ▸ hself
    · rw [Function.update_of_ne hki] at hk
      rw [hne k hki]
      exact hs.present k m' hk
  deleted k m' hk := by
    have hki : k ≠ id := by
      rintro rfl
      rw [hdeleted] at hk
      cases hk
    obtain ⟨hgone, hcount⟩ := hs.deleted k m' hk
    refine ⟨?_, (hne k hki).trans hcount⟩
    change w'.db.monitors k = none
    rw [hmon, Function.update_of_ne hki]
    exact hgone

/-- What has a document has not been deleted. -/
lemma OutagesKept.deleted_eq_none (hs : OutagesKept s) (hm : s.world.db.monitors id = some m) :
    s.deleted id = none := by
  cases hd : s.deleted id with
  | none => rfl
  | some m' =>
    rw [(hs.deleted id m' hd).1] at hm
    cases hm

/-- The owner deletes a monitor. -/
lemma OutagesKept.delete (hs : OutagesKept ⟨w, s.deleted⟩) (hm : w.db.monitors id = some m)
    (howner : m.userId = some userId) :
    OutagesKept ⟨{ w with db := (OwnerRequest.delete userId id).write w.db },
      Function.update s.deleted id (some m)⟩ := by
  have hself : ((OwnerRequest.delete userId id).write w.db).monitors id = none := by
    simp [OwnerRequest.write, hm, howner, Option.filter]
  have hother : ∀ k, k ≠ id →
      ((OwnerRequest.delete userId id).write w.db).monitors k = w.db.monitors k :=
    fun k hk => Function.update_of_ne hk _ _
  constructor
  · intro k m' hk
    by_cases hki : k = id
    · subst hki
      exact absurd (hself.symm.trans hk) (by simp)
    · exact hs.keyed k m' ((hother k hki).symm.trans hk)
  · intro k hk hkd
    by_cases hki : k = id
    · subst hki
      simp at hkd
    · exact hs.absent k ((hother k hki).symm.trans hk)
        ((Function.update_of_ne hki _ _).symm.trans hkd)
  · intro k m' hk
    by_cases hki : k = id
    · subst hki
      exact absurd (hself.symm.trans hk) (by simp)
    · exact hs.present k m' ((hother k hki).symm.trans hk)
  · intro k m' hk
    by_cases hki : k = id
    · subst hki
      obtain rfl : m = m' := by simpa using hk
      exact ⟨hself, hs.present k m hm⟩
    · obtain ⟨hgone, hcount⟩ := hs.deleted k m' ((Function.update_of_ne hki _ _).symm.trans hk)
      exact ⟨(hother k hki).trans hgone, hcount⟩

/-- **Every step keeps the incidents accounted for.** -/
theorem OutagesKept.step {e : DeletingEvent} (hs : OutagesKept s) (h : DeletingStep env s e s') :
    OutagesKept s' := by
  cases h with
  | @delete w deleted userId id m hm howner =>
    exact @OutagesKept.delete ⟨w, deleted⟩ w id userId m hs hm howner
  | @works w w' deleted e hstep hfresh =>
    cases e with
    | create id userId url createdAt =>
      cases hstep with
      | create hnone =>
        have hdeleted := hfresh id userId url createdAt rfl
        refine hs.write rfl rfl ?_ hdeleted fun _ _ => rfl
        simpa [ongoingFor, confirmedOf, Monitor.fresh] using! hs.absent id hnone hdeleted
    | edit id o =>
      cases hstep with
      | edit hm =>
        rename_i m
        exact hs.write rfl (show m.id = id from hs.keyed _ _ hm) (hs.present id m hm)
          (hs.deleted_eq_none hm) fun _ _ => rfl
    | check c m result transition =>
      have hc := hstep.checked hs.keyed
      have hagrees := hs.present _ _ hc.loaded
      rw [← hc.id_eq] at hagrees
      have hafter := (hc.effect.consistent hagrees).2
      rw [hc.id_eq] at hafter
      refine hs.write hc.monitors hc.id_eq ?_ (hs.deleted_eq_none hc.loaded) hc.count_of_ne
      rw [hafter, ongoingFor, confirmedOf_set]

/-- **A deleted monitor has an ongoing incident exactly when it was down when it was deleted**: one
that no check can close any more. -/
theorem ongoing_iff_of_deleted {users : ℕ → Bool}
    (h : Run (DeletingStep env) (.intact (.empty users)) es s) (hm : s.deleted id = some m) :
    0 < ongoingCount s.world.db id ↔ confirmedOf m = .down := by
  have hs : OutagesKept s :=
    h.invariant (fun _ _ _ hs hstep => hs.step hstep) (outagesKept_empty users)
  rw [(hs.deleted id m hm).2, ongoingFor]
  split_ifs with hdown
  · exact iff_of_true Nat.one_pos hdown
  · exact iff_of_false (Nat.lt_irrefl 0) hdown

/-- A run of the world is one without deletions. -/
lemma run_works {es : List Event} (h : Run (Step env) w es w') :
    Run (DeletingStep env) (.intact w) (es.map .works) (.intact w') := by
  induction h with
  | nil w => exact .nil _
  | cons hstep _ ih => exact .cons (.works hstep fun _ _ _ _ _ => rfl) ih

/-- A monitor is deleted after three failed checks: its incident is ongoing without it. -/
theorem ongoing_iff_of_deleted_down : ∃ (s : DeletingWorld) (m : Monitor),
    s.deleted 0 = some m ∧ s.world.db.monitors 0 = none ∧ 0 < ongoingCount s.world.db 0 := by
  obtain ⟨es, w, hrun, hdown⟩ := exists_run_of_performAll defaultEnv (.empty fun _ => true)
    [.create 0 (some 7) "http://a" 0, .check (checkAt 0 0 .down), .check (checkAt 0 60000 .down),
      .check (checkAt 0 120000 .down)]
    (fun x => (x.2.db.monitors 0).any fun m => confirmedOf m = .down ∧ m.userId = some 7)
    (by decide +kernel)
  obtain ⟨m, hm, hdown⟩ := (Option.any_eq_true _ _).1 hdown
  obtain ⟨hdown, howner⟩ := of_decide_eq_true hdown
  change w.db.monitors 0 = some m at hm
  let s : DeletingWorld := ⟨{ w with db := (OwnerRequest.delete 7 0).write w.db },
    Function.update (fun _ => none) 0 (some m)⟩
  have hstep : DeletingStep defaultEnv (.intact w) (.delete 7 0) s := .delete hm howner
  have hdeleted : s.deleted 0 = some m := by simp [s]
  refine ⟨s, m, hdeleted, ?_,
    (ongoing_iff_of_deleted ((run_works hrun).snoc hstep) hdeleted).2 hdown⟩
  simp [s, OwnerRequest.write, hm, howner, Option.filter]

end WatchTower
