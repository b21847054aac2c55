import WatchTower.Lease.Register
import WatchTower.Runtime.Js
import WatchTower.Transition.Run

set_option relaxedAutoImplicit false
set_option autoImplicit false

/-!
# The scheduler's lease lock

`services/lock.service.js`: one document names the leader and when its lease expires. An
`acquire` reads the local time, and later performs one atomic upsert whose filter admits an
expired document or the instance's own; a `release` deletes the document if it still is the
instance's own. The database may sweep an expired document away at any time.

The instances share a clock that never runs backwards. The acquires of one instance do not
overlap each other; everything else interleaves freely.

## Main definitions

* `WatchTower.LockDoc`, `WatchTower.findOneAndUpdate`, `WatchTower.lockWrite` — the document and
  the database step of an acquire.
* `WatchTower.LockState`, `WatchTower.LockEvent`, `WatchTower.LockStep` — the instances.
* `WatchTower.LockLaws` — what a single step is to respect.

## Main results

* `WatchTower.LockStep.refines` — the lock refines the lease register.
* `WatchTower.lockLaws_step` — no step harms a live lease of another instance, and an acquire
  that succeeds has written its own lease.
* `WatchTower.lease_lock_safety` — these laws, and the disjointness of leadership intervals.
-/

namespace WatchTower

open Transition Lease

/-- The lock document. -/
structure LockDoc (ι : Type) where
  /-- The leader. -/
  owner : ι
  /-- When its lease ends. -/
  expiresAt : Time
  /-- When the document was inserted. -/
  acquiredAt : Time
  /-- When it was last written. -/
  heartbeatAt : Time
  deriving DecidableEq

/-- Where an instance is in `acquire`: not in it, waiting for the database with the `now` it
read, or with the answer of the database in hand. -/
inductive Acquiring (ι : Type)
  | idle
  | pending (now : Time)
  | answered (now : Time) (answer : Except JsError (LockDoc ι))

/-- All instances, with the document they share. -/
structure LockState (ι : Type) where
  /-- The common clock. -/
  clock : Time
  /-- The lock document, if there is one. -/
  doc : Option (LockDoc ι)
  /-- Where each instance is in `acquire`. -/
  acquiring : ι → Acquiring ι
  /-- `isLeader` of each instance. -/
  isLeader : ι → Bool
  /-- How many deletions each instance has under way. -/
  releasing : ι → ℕ

/-- What happens. -/
inductive LockEvent (ι : Type)
  /-- Time passes. -/
  | advance (t : Time)
  /-- `acquire` is called and reads its `now`. -/
  | acquire (i : ι)
  /-- The database performs the upsert of `acquire`. -/
  | write (i : ι)
  /-- `acquire` returns. -/
  | acquired (i : ι) (held : Bool)
  /-- `release` is called. -/
  | release (i : ι)
  /-- The database performs the deletion of `release`. -/
  | delete (i : ι)
  /-- The TTL monitor deletes the document. -/
  | sweep

/-- Nobody has called anything yet. -/
def LockState.init {ι : Type} (clock : Time) (doc : Option (LockDoc ι)) : LockState ι where
  clock := clock
  doc := doc
  acquiring _ := .idle
  isLeader _ := false
  releasing _ := 0

variable {ι : Type} [DecidableEq ι]

/-- `findOneAndUpdate` with the filter of `acquire`, upserting. A document that exists and does
not match makes the upsert insert a second one, which the unique `_id` index rejects. -/
def findOneAndUpdate (doc : Option (LockDoc ι)) (self : ι) (now expiresAt : Time) :
    Except JsError (LockDoc ι) × Option (LockDoc ι) :=
  match doc with
  | none =>
    let d : LockDoc ι := ⟨self, expiresAt, now, now⟩
    (.ok d, some d)
  | some d =>
    if d.expiresAt ≤ now ∨ d.owner = self then
      let d' : LockDoc ι := { d with owner := self, expiresAt := expiresAt, heartbeatAt := now }
      (.ok d', some d')
    else (.error duplicateKey, some d)

/-- The database step of an acquire that read `now`. An expiry that is no date is rejected
before it reaches the database. -/
def lockWrite (ttlMs : ℕ) (doc : Option (LockDoc ι)) (self : ι) (now : Time) :
    Except JsError (LockDoc ι) × Option (LockDoc ι) :=
  match newDate (now + ttlMs) with
  | some expiresAt => findOneAndUpdate doc self now expiresAt
  | none => (.error ⟨"Cast to date failed", none⟩, doc)

/-- `held` of an acquire: the document that came back names this instance. -/
def heldBy (self : ι) (answer : Except JsError (LockDoc ι)) : Bool :=
  match answer with
  | .ok d => d.owner = self
  | .error _ => false

/-- The steps of the instances and of the database. -/
inductive LockStep (ttlMs : ℕ) : LockState ι → LockEvent ι → LockState ι → Prop
  | advance {s : LockState ι} {t : Time} :
      s.clock ≤ t → LockStep ttlMs s (.advance t) { s with clock := t }
  | acquire {s : LockState ι} {i : ι} :
      s.acquiring i = .idle →
      LockStep ttlMs s (.acquire i)
        { s with acquiring := Function.update s.acquiring i (.pending s.clock) }
  | write {s : LockState ι} {i : ι} {now : Time} :
      s.acquiring i = .pending now →
      LockStep ttlMs s (.write i)
        { s with
          doc := (lockWrite ttlMs s.doc i now).2
          acquiring := Function.update s.acquiring i
            (.answered now (lockWrite ttlMs s.doc i now).1) }
  | acquired {s : LockState ι} {i : ι} {now : Time} {answer : Except JsError (LockDoc ι)} :
      s.acquiring i = .answered now answer →
      LockStep ttlMs s (.acquired i (heldBy i answer))
        { s with
          acquiring := Function.update s.acquiring i .idle
          isLeader := Function.update s.isLeader i (heldBy i answer) }
  | release {s : LockState ι} {i : ι} :
      LockStep ttlMs s (.release i)
        (if s.isLeader i then
          { s with
            isLeader := Function.update s.isLeader i false
            releasing := Function.update s.releasing i (s.releasing i + 1) }
        else s)
  | delete {s : LockState ι} {i : ι} {n : ℕ} :
      s.releasing i = n + 1 →
      LockStep ttlMs s (.delete i)
        { s with
          doc := s.doc.filter fun d => d.owner ≠ i
          releasing := Function.update s.releasing i n }
  | sweep {s : LockState ι} {d : LockDoc ι} :
      s.doc = some d → d.expiresAt ≤ s.clock → LockStep ttlMs s .sweep { s with doc := none }

/-! ## The database step of an acquire -/

variable {ttlMs : ℕ} {s s' : LockState ι} {e : LockEvent ι} {i : ι} {now : Time}

/-- **The database step of an acquire** either writes a lease of this instance that lasts until
`now + ttlMs`, the document before having been absent, expired or its own, or fails and changes
nothing. -/
theorem lockWrite_cases (ttlMs : ℕ) (doc : Option (LockDoc ι)) (i : ι) (now : Time) :
    (∃ d, lockWrite ttlMs doc i now = (.ok d, some d) ∧ d.owner = i ∧
        d.expiresAt = now + ttlMs ∧ ∀ d₀, doc = some d₀ → d₀.expiresAt ≤ now ∨ d₀.owner = i) ∨
      ∃ err, lockWrite ttlMs doc i now = (.error err, doc) := by
  unfold lockWrite
  cases hd : newDate (now + ttlMs) with
  | none => exact .inr ⟨_, rfl⟩
  | some expiresAt =>
    have he := eq_of_newDate_eq_some hd
    cases doc with
    | none => exact .inl ⟨_, rfl, rfl, he, by simp⟩
    | some d₀ =>
      by_cases hq : d₀.expiresAt ≤ now ∨ d₀.owner = i
      · refine .inl ⟨{ d₀ with owner := i, expiresAt := expiresAt, heartbeatAt := now },
          by simp [findOneAndUpdate, hq], rfl, he, ?_⟩
        simpa using hq
      · exact .inr ⟨duplicateKey, by simp [findOneAndUpdate, hq]⟩

/-- A write that fails changes nothing. -/
lemma lockWrite_of_error {doc doc' : Option (LockDoc ι)} {err : JsError}
    (h : lockWrite ttlMs doc i now = (.error err, doc')) : doc' = doc := by
  rcases lockWrite_cases ttlMs doc i now with ⟨d, hw, -⟩ | ⟨err', hw⟩
  · rw [hw] at h
    cases h
  · rw [hw] at h
    exact (Prod.mk.inj h).2.symm

/-! ## Invariants -/

/-- What holds of the calls under way: a pending acquire read its time in the past, and an answer
that names a document names the instance's own lease. -/
structure LockInv (ttlMs : ℕ) (s : LockState ι) : Prop where
  pending : ∀ i now, s.acquiring i = .pending now → now ≤ s.clock
  answered : ∀ i now d, s.acquiring i = .answered now (.ok d) →
    d.owner = i ∧ d.expiresAt = now + ttlMs

omit [DecidableEq ι] in
/-- It holds when nobody has called anything. -/
lemma lockInv_init (clock : Time) (doc : Option (LockDoc ι)) :
    LockInv ttlMs (.init clock doc) := ⟨by simp [LockState.init], by simp [LockState.init]⟩

/-- Every step keeps it. -/
theorem LockInv.step (hs : LockInv ttlMs s) (h : LockStep ttlMs s e s') : LockInv ttlMs s' := by
  obtain ⟨hpending, hanswered⟩ := hs
  cases h with
  | advance ht => exact ⟨fun i now hi => (hpending i now hi).trans ht, hanswered⟩
  | @acquire i hidle =>
    refine ⟨fun j now hj => ?_, fun j now d hj => ?_⟩ <;> by_cases hij : j = i
    · subst hij
      simp only [Function.update_self, Acquiring.pending.injEq] at hj
      exact hj.ge
    · exact hpending j now (by simpa [hij] using hj)
    · subst hij
      simp at hj
    · exact hanswered j now d (by simpa [hij] using hj)
  | @write i t hi =>
    refine ⟨fun j now hj => ?_, fun j now d hj => ?_⟩ <;> by_cases hij : j = i
    · subst hij
      simp at hj
    · exact hpending j now (by simpa [hij] using hj)
    · subst hij
      simp only [Function.update_self, Acquiring.answered.injEq] at hj
      obtain ⟨rfl, hans⟩ := hj
      rcases lockWrite_cases ttlMs s.doc j t with
        ⟨d', hw, howner, hexp, -⟩ | ⟨err, hw⟩
      · rw [hw, Except.ok.injEq] at hans
        subst hans
        exact ⟨howner, hexp⟩
      · rw [hw] at hans
        cases hans
    · exact hanswered j now d (by simpa [hij] using hj)
  | @acquired i t answer hi =>
    refine ⟨fun j now hj => ?_, fun j now d hj => ?_⟩ <;> by_cases hij : j = i
    · subst hij
      simp at hj
    · exact hpending j now (by simpa [hij] using hj)
    · subst hij
      simp at hj
    · exact hanswered j now d (by simpa [hij] using hj)
  | release =>
    split_ifs
    · exact ⟨hpending, hanswered⟩
    · exact ⟨hpending, hanswered⟩
  | delete => exact ⟨hpending, hanswered⟩
  | sweep => exact ⟨hpending, hanswered⟩

/-! ## Refinement of the lease register -/

/-- The lock as a lease register. -/
def LockState.register (s : LockState ι) : Register ι Time where
  clock := s.clock
  cell := s.doc.map fun d => (d.owner, d.expiresAt)

/-- What a successful write has done: it granted the register to the instance, until the time
the instance read plus the lease's length. -/
structure Granted (ttlMs : ℕ) (i : ι) (now : Time) (d : LockDoc ι) (s s' : LockState ι) :
    Prop where
  grant : Lease.Step s.register (.grant i (now + ttlMs)) s'.register
  clock : s'.clock = s.clock
  pending : s.acquiring i = .pending now
  doc : s'.doc = some d
  owner : d.owner = i
  expiresAt : d.expiresAt = now + ttlMs

/-- An answer that names a document reports a grant. -/
lemma granted_of_write {d : LockDoc ι} (hs : LockInv ttlMs s)
    (h : LockStep ttlMs s (.write i) s') (hd : s'.acquiring i = .answered now (.ok d)) :
    Granted ttlMs i now d s s' := by
  cases h with
  | write hi =>
    simp only [Function.update_self, Acquiring.answered.injEq] at hd
    obtain ⟨rfl, hans⟩ := hd
    rcases lockWrite_cases ttlMs s.doc i _ with ⟨d', hw, howner, hexp, hfree⟩ | ⟨err, hw⟩
    · rw [hw, Except.ok.injEq] at hans
      subst hans
      refine ⟨?_, rfl, hi, by rw [hw], howner, hexp⟩
      simp only [LockState.register, hw, Option.map_some, howner, hexp]
      refine .grant fun j u hcell => ?_
      simp only [Option.map_eq_some_iff, Prod.mk.injEq] at hcell
      obtain ⟨d₀, hd₀, rfl, rfl⟩ := hcell
      exact (hfree d₀ hd₀).symm.imp_right fun hle => hle.trans (hs.pending i _ hi)
    · rw [hw] at hans
      cases hans

/-- **The lock refines the lease register.** Every step is an action of the register; a removal is
a deletion by that owner, and a grant is a write which the instance's answer reports. -/
theorem LockStep.refines (hs : LockInv ttlMs s) (h : LockStep ttlMs s e s') :
    ∃ a, Lease.Step s.register a s'.register ∧ (∀ i, a = .remove i → e = .delete i) ∧
      ∀ i u, a = .grant i u → e = .write i ∧ ∃ now, s.acquiring i = .pending now ∧
        u = now + ttlMs := by
  cases h with
  | advance ht => exact ⟨.advance, .advance ht, by simp, by simp⟩
  | acquire => exact ⟨.skip, .skip, by simp, by simp⟩
  | @write i now hi =>
    rcases hw : lockWrite ttlMs s.doc i now with ⟨err | d, doc'⟩
    · refine ⟨.skip, ?_, by simp, by simp⟩
      simp only [LockState.register, lockWrite_of_error hw]
      exact .skip
    · have hans : (Acquiring.answered now (lockWrite ttlMs s.doc i now).1) =
          .answered now (.ok d) := by rw [hw]
      have hg := granted_of_write hs (.write hi)
        ((Function.update_self i _ s.acquiring).trans hans)
      refine ⟨.grant i (now + ttlMs), by simpa only [hw] using hg.grant, by simp, fun j u hj => ?_⟩
      simp only [Act.grant.injEq] at hj
      obtain ⟨rfl, rfl⟩ := hj
      exact ⟨rfl, now, hi, rfl⟩
  | acquired => exact ⟨.skip, .skip, by simp, by simp⟩
  | release =>
    refine ⟨.skip, ?_, by simp, by simp⟩
    split_ifs
    · exact .skip
    · exact .skip
  | @delete i n hn =>
    cases hd : s.doc with
    | none => exact ⟨.skip, by simpa [LockState.register, hd] using .skip, by simp, by simp⟩
    | some d =>
      by_cases hi : d.owner = i
      · refine ⟨.remove i, ?_, by simp, by simp⟩
        have hr : Lease.Step s.register (.remove i) { s.register with cell := none } :=
          .remove (u := d.expiresAt) (by simp [LockState.register, hd, hi])
        simpa [LockState.register, hd, hi, Option.filter] using hr
      · refine ⟨.skip, ?_, by simp, by simp⟩
        simpa [LockState.register, hd, hi, Option.filter] using .skip
  | sweep hd hexp =>
    refine ⟨.sweep, ?_, by simp, by simp⟩
    simp only [LockState.register, hd, Option.map_some, Option.map_none]
    exact .sweep rfl hexp

/-! ## Leases in force -/

/-- A lease of `i` until `expiry` is in force, and no later acquire of `i` can cut it short. -/
structure InForce (ttlMs : ℕ) (i : ι) (expiry : Time) (s : LockState ι) : Prop where
  inv : LockInv ttlMs s
  covered : Covered i expiry s.register
  reach : expiry ≤ s.clock + ttlMs
  pending : ∀ now, s.acquiring i = .pending now → expiry ≤ now + ttlMs

omit [DecidableEq ι] in
/-- A successful write puts its lease in force. -/
lemma Granted.inForce {d : LockDoc ι} (h : Granted ttlMs i now d s s') (hs : LockInv ttlMs s)
    (hs' : LockInv ttlMs s') (hans : s'.acquiring i = .answered now (.ok d)) :
    InForce ttlMs i (now + ttlMs) s' where
  inv := hs'
  covered := .of_grant h.grant
  reach := by rw [h.clock]; exact Int.add_le_add_right (hs.pending i now h.pending) _
  pending t ht := by rw [hans] at ht; cases ht

/-- **A lease stays in force** until its expiry, unless its owner's deletion strikes. -/
theorem InForce.step {expiry : Time} (hs : InForce ttlMs i expiry s) (he : e ≠ .delete i)
    (h : LockStep ttlMs s e s') : InForce ttlMs i expiry s' := by
  obtain ⟨hinv, hcov, hreach, hpend⟩ := hs
  obtain ⟨a, ha, hremove, hgrant⟩ := h.refines hinv
  refine ⟨hinv.step h, hcov.step ha (fun hr => he (hremove i hr)) fun u hu => ?_, ?_, ?_⟩
  · obtain ⟨-, now, hi, rfl⟩ := hgrant i u hu
    exact hpend now hi
  · cases h with
    | advance ht => exact hreach.trans (Int.add_le_add_right ht _)
    | release => split_ifs <;> exact hreach
    | _ => exact hreach
  · intro now hnow
    cases h with
    | @acquire j hidle =>
      by_cases hij : i = j
      · subst hij
        simp only [Function.update_self, Acquiring.pending.injEq] at hnow
        rwa [← hnow]
      · exact hpend now (by simpa [hij] using hnow)
    | @write j t hj =>
      by_cases hij : i = j
      · subst hij
        simp at hnow
      · exact hpend now (by simpa [hij] using hnow)
    | @acquired j t answer hj =>
      by_cases hij : i = j
      · subst hij
        simp at hnow
      · exact hpend now (by simpa [hij] using hnow)
    | release => split_ifs at hnow <;> exact hpend now hnow
    | _ => exact hpend now hnow

/-- The lease of `i` that began at `t` is in force, and is the last one that `i` has taken. -/
structure LeaseOf (ttlMs : ℕ) (i : ι) (t : Time) (s : LockState ι) : Prop where
  inForce : InForce ttlMs i (t + ttlMs) s
  last : ∀ d, s.doc = some d → d.owner = i → d.expiresAt = t + ttlMs

/-- A successful write is the last lease its instance has taken. -/
lemma leaseOf_of_write {d : LockDoc ι} (hs : LockInv ttlMs s) (h : LockStep ttlMs s (.write i) s')
    (hans : s'.acquiring i = .answered now (.ok d)) : LeaseOf ttlMs i now s' := by
  have hg := granted_of_write hs h hans
  refine ⟨hg.inForce hs (hs.step h) hans, fun d' hd' _ => ?_⟩
  obtain rfl := Option.some.inj (hd'.symm.trans hg.doc)
  exact hg.expiresAt

/-- It stays so until the instance writes again or deletes the document. -/
lemma LeaseOf.step {t : Time} (hs : LeaseOf ttlMs i t s) (hw : e ≠ .write i)
    (hd : e ≠ .delete i) (h : LockStep ttlMs s e s') : LeaseOf ttlMs i t s' := by
  refine ⟨hs.inForce.step hd h, fun d hdoc howner => ?_⟩
  have hlast := hs.last
  cases h with
  | @write j now hj =>
    rcases lockWrite_cases ttlMs s.doc j now with ⟨d', hwr, howner', -⟩ | ⟨err, hwr⟩
    · simp only [hwr, Option.some.injEq] at hdoc
      subst hdoc
      exact absurd (by rw [← howner, howner']) hw
    · simp only [hwr] at hdoc
      exact hlast d hdoc howner
  | delete => exact hlast d (Option.filter_eq_some_iff.1 hdoc).1 howner
  | sweep => cases hdoc
  | release => split_ifs at hdoc <;> exact hlast d hdoc howner
  | _ => exact hlast d hdoc howner

/-- An answer that an instance has in hand came with its own write. -/
lemma LockStep.answered_before {answer : Except JsError (LockDoc ι)} (h : LockStep ttlMs s e s')
    (he : e ≠ .write i) (hans : s'.acquiring i = .answered now answer) :
    s.acquiring i = .answered now answer := by
  cases h with
  | @acquire j hj =>
    by_cases hij : i = j
    · subst hij
      simp at hans
    · simpa [hij] using hans
  | @write j t hj =>
    have hij : i ≠ j := fun hij => he (hij ▸ rfl)
    simpa [hij] using hans
  | @acquired j t a hj =>
    by_cases hij : i = j
    · subst hij
      simp at hans
    · simpa [hij] using hans
  | release => split_ifs at hans <;> exact hans
  | _ => exact hans

/-- An instance that is not in `acquire` stays out of it until it calls it. -/
lemma LockStep.idle_after (h : LockStep ttlMs s e s') (he : e ≠ .acquire i)
    (hidle : s.acquiring i = .idle) : s'.acquiring i = .idle ∧ e ≠ .write i := by
  cases h with
  | @acquire j hj =>
    have hij : i ≠ j := fun hij => he (hij ▸ rfl)
    simpa [hij] using hidle
  | @write j t hj =>
    have hij : i ≠ j := fun hij => by rw [← hij, hidle] at hj; cases hj
    simpa [hij, Ne.symm hij] using hidle
  | @acquired j t a hj =>
    by_cases hij : i = j
    · subst hij
      simp
    · simpa [hij] using hidle
  | release => split_ifs <;> simpa using hidle
  | _ => simpa using hidle

/-! ## Safety -/

/-- A live lease of another instance than `i` is left as it is. -/
def Unharmed (i : ι) (s s' : LockState ι) : Prop :=
  ∀ d, s.doc = some d → d.owner ≠ i → s.clock < d.expiresAt → s'.doc = some d

/-- What a single step is to respect. The database step of an acquire or a release harms no live
lease of another instance; an answer that names a document is the one just written; and an
acquire that returns true had such an answer, naming its own lease until `now + ttlMs`. -/
def LockLaws (ttlMs : ℕ) (s : LockState ι) (e : LockEvent ι) (s' : LockState ι) : Prop :=
  match e with
  | .write i => Unharmed i s s' ∧ ∀ now d, s'.acquiring i = .answered now (.ok d) →
      s.acquiring i = .pending now ∧ s'.doc = some d
  | .acquired i held => held = true → ∃ now d, s.acquiring i = .answered now (.ok d) ∧
      d.owner = i ∧ d.expiresAt = now + ttlMs
  | .delete i => Unharmed i s s'
  | _ => True

/-- **Every step respects the laws.** A stale `now` is harmless: the filter compares the expiry
with a time that lies in the past. -/
theorem lockLaws_step (hs : LockInv ttlMs s) (h : LockStep ttlMs s e s') :
    LockLaws ttlMs s e s' := by
  cases e with
  | write i =>
    refine ⟨fun d hd hne hlive => ?_, fun now d hans => ?_⟩
    · cases h with
      | @write _ now hi =>
        rcases lockWrite_cases ttlMs s.doc i now with
          ⟨d', -, -, -, hfree⟩ | ⟨err, hw⟩
        · rcases hfree d hd with hexp | howner
          · exact absurd (hexp.trans (hs.pending i now hi)) (not_le.2 hlive)
          · exact absurd howner hne
        · simpa only [hw] using hd
    · have hg := granted_of_write hs h hans
      exact ⟨hg.pending, hg.doc⟩
  | acquired i held =>
    intro hheld
    cases h with
    | @acquired _ now answer hi =>
      cases answer with
      | error err => cases hheld
      | ok d => exact ⟨now, d, hi, hs.answered i now d hi⟩
  | delete i =>
    intro d hd hne _
    cases h with
    | delete => simp [hd, Option.filter, hne]
  | _ => trivial

/-- **Lease lock safety.** In every run of any instances, every step respects the laws of the
lock; and of two successful acquires of different owners, the leadership intervals are disjoint,
unless the owner of the earlier one deleted the document in between.

**Proof sketch.** A write that succeeds puts its lease in force (`Granted.inForce`) and it stays
so up to the second write (`InForce.step`). That one is a grant of the register to another owner,
so the first lease has expired by then (`Covered.expired_of_grant`). -/
theorem lease_lock_safety (ttlMs : ℕ) (clock : Time) (doc : Option (LockDoc ι)) :
    (∀ es, AllSteps (LockStep ttlMs) (LockLaws ttlMs) (.init clock doc) es) ∧
      ∀ es fs (i j : ι) (a b c d : LockState ι) (t₁ t₂ : Time) (d₁ d₂ : LockDoc ι),
        Run (LockStep ttlMs) (.init clock doc) es a → LockStep ttlMs a (.write i) b →
        Run (LockStep ttlMs) b fs c → LockStep ttlMs c (.write j) d →
        b.acquiring i = .answered t₁ (.ok d₁) → d.acquiring j = .answered t₂ (.ok d₂) →
        i ≠ j → .delete i ∉ fs →
        Disjoint (Set.Ico a.clock (t₁ + ttlMs)) (Set.Ico c.clock (t₂ + ttlMs)) := by
  have hinv : ∀ s e s', LockInv (ι := ι) ttlMs s → LockStep ttlMs s e s' → LockInv ttlMs s' :=
    fun _ _ _ => LockInv.step
  refine ⟨fun es => allSteps_of_invariant hinv (fun _ _ _ => lockLaws_step)
    (lockInv_init clock doc) es, ?_⟩
  intro es fs i j a b c d t₁ t₂ d₁ d₂ hrun₁ hw₁ hrun₂ hw₂ hd₁ hd₂ hij hfs
  have ha := hrun₁.invariant hinv (lockInv_init clock doc)
  have hb := (granted_of_write ha hw₁ hd₁).inForce ha (ha.step hw₁) hd₁
  have hstep : ∀ s e s', InForce ttlMs i (t₁ + ttlMs) s → e ≠ .delete i →
      LockStep ttlMs s e s' → InForce ttlMs i (t₁ + ttlMs) s' := fun _ _ _ => InForce.step
  have hc := hrun₂.invariant_of_forall hstep (fun e he heq => hfs (heq ▸ he)) hb
  have hg := granted_of_write hc.inv hw₂ hd₂
  exact disjoint_of_le (hc.covered.expired_of_grant hg.grant hij)

/-- Two leaders, one after the other: when the lease of the first one has expired, the second one
takes it over, and the leadership intervals meet, but do not overlap. -/
theorem lease_lock_safety_takeOver : ∃ (fs : List (LockEvent ℕ)) (a b c d : LockState ℕ),
    Run (LockStep 30000) (.init 0 none) [.acquire 0] a ∧ LockStep 30000 a (.write 0) b ∧
      Run (LockStep 30000) b fs c ∧ LockStep 30000 c (.write 1) d ∧ .acquired 0 true ∈ fs ∧
      (∃ e, LockStep 30000 d (.acquired 1 true) e) ∧
      Disjoint (Set.Ico a.clock (0 + 30000)) (Set.Ico c.clock (30000 + 30000)) := by
  let d₁ : LockDoc ℕ := ⟨0, 30000, 0, 0⟩
  let d₂ : LockDoc ℕ := ⟨1, 60000, 0, 30000⟩
  let a : LockState ℕ :=
    { LockState.init 0 none with acquiring := Function.update (fun _ => .idle) 0 (.pending 0) }
  let b : LockState ℕ :=
    { a with doc := some d₁, acquiring := Function.update a.acquiring 0 (.answered 0 (.ok d₁)) }
  let b₁ : LockState ℕ :=
    { b with
      acquiring := Function.update b.acquiring 0 .idle
      isLeader := Function.update b.isLeader 0 true }
  let c : LockState ℕ :=
    { b₁ with
      clock := 30000
      acquiring := Function.update b₁.acquiring 1 (.pending 30000) }
  let d : LockState ℕ :=
    { c with
      doc := some d₂
      acquiring := Function.update c.acquiring 1 (.answered 30000 (.ok d₂)) }
  have ha : LockStep 30000 (.init 0 none) (.acquire 0) a := .acquire rfl
  have hb : LockStep 30000 a (.write 0) b := .write (show a.acquiring 0 = .pending 0 from rfl)
  have hb₁ : LockStep 30000 b (.acquired 0 true) b₁ :=
    .acquired (show b.acquiring 0 = .answered 0 (.ok d₁) from rfl)
  have hc : LockStep 30000 { b₁ with clock := 30000 } (.acquire 1) c := .acquire rfl
  have hd : LockStep 30000 c (.write 1) d := .write (show c.acquiring 1 = .pending 30000 from rfl)
  have hrun₁ : Run (LockStep 30000) (.init 0 none) [.acquire 0] a := run_singleton_iff.2 ha
  have hrun₂ : Run (LockStep 30000) b [.acquired 0 true, .advance 30000, .acquire 1] c :=
    .cons hb₁ (.cons (.advance (by decide)) (run_singleton_iff.2 hc))
  refine ⟨_, a, b, c, d, hrun₁, hb, hrun₂, hd, List.mem_cons_self,
    ⟨_, .acquired (show d.acquiring 1 = .answered 30000 (.ok d₂) from rfl)⟩, ?_⟩
  exact (lease_lock_safety 30000 0 none).2 _ _ 0 1 a b c d 0 30000 d₁ d₂ hrun₁ hb hrun₂ hd rfl rfl
    (by decide) (by simp)

end WatchTower
