import WatchTower.Tenancy.ScopedDao

set_option relaxedAutoImplicit false
set_option autoImplicit false

/-!
# Tenant isolation

What one owner does through a scoped DAO depends on that owner's documents only, and changes no
others. The merged filter is the intersection of the caller's filter with the scope, whatever keys
the caller's filter has, so no filter reaches out of the scope.

## Main definitions

* `WatchTower.Scoping.inScope` — whether a document is in an owner's scope.
* `WatchTower.Agree` — two stores that agree on an owner's monitors and documents.
* `WatchTower.Touches` — a change of one document of a kind.
* `WatchTower.InvalidOwner` — an owner id that is missing or malformed.
* `WatchTower.TenantIsolation` — the contract of the DAO.

## Main results

* `WatchTower.run_scopeFor` — the scope of an owner, as a filter.
* `WatchTower.two_runs` — what follows the scope gives equal results, if it does so for the scope
  that both stores yield.
* `WatchTower.tenantIsolation` — both scoping strategies keep the contract.
-/

namespace WatchTower

open Documents Transition Transition.Prog

variable {V O X : Type} [DecidableEq V] {mongo : Mongo V O X}

omit [DecidableEq V] in
/-- The id that an owner's scope is made with. -/
def Scoping.ownerId (sc : Scoping mongo) (owner : IdArg X) : Option ℕ :=
  match sc with
  | .direct _ _ => mongo.newObjectId owner
  | .derived => mongo.castObjectId owner

/-- The scope of an owner, given the monitors. -/
def Scoping.scope (sc : Scoping mongo) (monitors : List (Doc V)) (owner : ℕ) : Filter V O :=
  match sc with
  | .direct ownerField _ => [.field ownerField (.eq (.objectId owner))]
  | .derived => [.field "monitorId"
      (.isIn ((monitors.filter (isOwnedBy owner)).filterMap (· "_id")).dedup)]

/-- Whether a document is in the scope of an owner. -/
def Scoping.inScope (sc : Scoping mongo) (owner : IdArg X) (s : TenantStore V) (d : Doc V) :
    Bool :=
  (sc.ownerId owner).any fun id => mongo.holds (sc.scope s.monitors id) d

/-- Two stores agree on an owner's monitors and on the documents in the owner's scope. -/
structure Agree (sc : Scoping mongo) (owner : IdArg X) (s s' : TenantStore V) : Prop where
  monitors : ∀ id, sc.ownerId owner = some id →
    s.monitors.filter (isOwnedBy id) = s'.monitors.filter (isOwnedBy id)
  docs : s.docs.filter (sc.inScope owner s) = s'.docs.filter (sc.inScope owner s')

/-- One list of documents comes from another by changing or removing at most one document, which
satisfies `P`. -/
inductive Touches (P : Doc V → Bool) : List (Doc V) → List (Doc V) → Prop
  | unchanged (l : List (Doc V)) : Touches P l l
  | changed (l₁ l₂ : List (Doc V)) (d d' : Doc V) :
      P d = true → Touches P (l₁ ++ d :: l₂) (l₁ ++ d' :: l₂)
  | removed (l₁ l₂ : List (Doc V)) (d : Doc V) :
      P d = true → Touches P (l₁ ++ d :: l₂) (l₁ ++ l₂)

/-- An owner id that is missing or empty, or a string or an object that is no valid object id. -/
def InvalidOwner (mongo : Mongo V O X) (owner : IdArg X) : Prop :=
  match owner with
  | .undefined | .null => True
  | .str s => s = "" ∨ mongo.isValidObjectId owner = false
  | .object _ => mongo.isValidObjectId owner = false
  | .other _ => False

/-- A part of the DAO throws before any query runs. -/
def Refuses {α : Type} (p : Dao V O X α) : Prop := ∃ message, p = .fail (.unscoped message)

/-- The contract of a scoped DAO. -/
structure TenantIsolation (mongo : Mongo V O X) (sc : Scoping mongo) : Prop where
  /-- The merged filter is the intersection. -/
  merged : ∀ owner f s scope,
    ((sc.dao.scopeFor mongo owner).run (execDao mongo) s).1 = .ok scope →
    ∃ f', ((sc.dao.filter mongo owner f).run (execDao mongo) s).1 = .ok f' ∧
      ∀ d, mongo.holds f' d = (mongo.holds f d && mongo.holds scope d)
  find : ∀ owner f arrange s s', Agree sc owner s s' →
    ((sc.dao.find mongo owner f arrange).run (execDao mongo) s).1 =
      ((sc.dao.find mongo owner f arrange).run (execDao mongo) s').1
  findOne : ∀ owner f s s', Agree sc owner s s' →
    ((sc.dao.findOne mongo owner f).run (execDao mongo) s).1 =
      ((sc.dao.findOne mongo owner f).run (execDao mongo) s').1
  findById : ∀ owner id s s', Agree sc owner s s' →
    ((sc.dao.findById mongo owner id).run (execDao mongo) s).1 =
      ((sc.dao.findById mongo owner id).run (execDao mongo) s').1
  count : ∀ owner f s s', Agree sc owner s s' →
    ((sc.dao.count mongo owner f).run (execDao mongo) s).1 =
      ((sc.dao.count mongo owner f).run (execDao mongo) s').1
  distinct : ∀ owner field f s s', Agree sc owner s s' →
    ((sc.dao.distinct mongo owner field f).run (execDao mongo) s).1 =
      ((sc.dao.distinct mongo owner field f).run (execDao mongo) s').1
  aggregate : ∀ owner stages s s', Agree sc owner s s' →
    ((sc.dao.aggregate mongo owner stages).run (execDao mongo) s).1 =
      ((sc.dao.aggregate mongo owner stages).run (execDao mongo) s').1
  updateById : ∀ owner id patch s s',
    ((sc.dao.updateById mongo owner id patch).run (execDao mongo) s).2 = s' →
    s'.monitors = s.monitors ∧ Touches (sc.inScope owner s) s.docs s'.docs
  deleteById : ∀ owner id s s',
    ((sc.dao.deleteById mongo owner id).run (execDao mongo) s).2 = s' →
    s'.monitors = s.monitors ∧ Touches (sc.inScope owner s) s.docs s'.docs
  /-- With direct scoping, a create adds one document, which is in scope, or fails. -/
  create : ∀ ownerField h, sc = .direct ownerField h → ∀ owner fields s out s',
    (sc.dao.create mongo owner fields).run (execDao mongo) s = (out, s') →
    (∀ d, out = .ok d →
      s' = { s with docs := s.docs ++ [d] } ∧ sc.inScope owner s d = true) ∧
    ∀ e, out = .error e → s' = s
  /-- Without a valid owner id nothing is queried. -/
  refuses : ∀ owner, InvalidOwner mongo owner →
    (∀ f arrange, Refuses (sc.dao.find mongo owner f arrange)) ∧
    (∀ f, Refuses (sc.dao.findOne mongo owner f)) ∧
    (∀ f, Refuses (sc.dao.count mongo owner f)) ∧
    (∀ field f, Refuses (sc.dao.distinct mongo owner field f)) ∧
    (∀ stages, Refuses (sc.dao.aggregate mongo owner stages)) ∧
    (∀ fields, Refuses (sc.dao.create mongo owner fields)) ∧
    ∀ id, mongo.isValidObjectId id = true →
      Refuses (sc.dao.findById mongo owner id) ∧
      (∀ patch, Refuses (sc.dao.updateById mongo owner id patch)) ∧
      Refuses (sc.dao.deleteById mongo owner id)

/-! ## The scope -/

variable {sc : Scoping mongo} {owner : IdArg X} {s s' : TenantStore V}

omit [DecidableEq V] in
/-- An owner id that is let through is passed on as it is. -/
lemma eq_of_assertOwner {owner' : IdArg X}
    (h : ScopedDao.assertOwner mongo owner = .ok owner') : owner' = owner := by
  unfold ScopedDao.assertOwner at h
  split at h
  · cases h
  · cases h
  · cases h
  · split_ifs at h
    exact (Except.ok.inj h).symm
  · split_ifs at h
    exact (Except.ok.inj h).symm
  · exact (Except.ok.inj h).symm

/-- **The scope of an owner**: the id is refused, or cannot be made an object id, or the scope
resolves to a filter. -/
theorem run_scopeFor (sc : Scoping mongo) (owner : IdArg X) :
    (∃ e, ∀ s, (sc.dao.scopeFor mongo owner).run (execDao mongo) s = (.error e, s)) ∨
      ∃ id, sc.ownerId owner = some id ∧
        ∀ s, (sc.dao.scopeFor mongo owner).run (execDao mongo) s =
          (.ok (sc.scope s.monitors id), s) := by
  unfold ScopedDao.scopeFor
  cases hassert : ScopedDao.assertOwner mongo owner with
  | error e => exact .inl ⟨e, fun _ => rfl⟩
  | ok owner' =>
    obtain rfl := eq_of_assertOwner hassert
    cases sc with
    | direct ownerField h =>
      cases hid : mongo.newObjectId owner' with
      | none => exact .inl ⟨.js bsonError, fun _ => by simp [Scoping.dao, hid]⟩
      | some id => exact .inr ⟨id, hid, fun _ => by simp [Scoping.dao, Scoping.scope, hid]⟩
    | derived =>
      cases hid : mongo.castObjectId owner' with
      | none =>
        exact .inl ⟨.js castToObjectIdError, fun _ => by
          simp [Scoping.dao, byMonitorOwnership, execDao, hid]⟩
      | some id =>
        exact .inr ⟨id, hid, fun _ => by
          simp [Scoping.dao, Scoping.scope, byMonitorOwnership, execDao, hid]⟩

omit [DecidableEq V] in
/-- Without a valid owner id there is no scope. -/
lemma scopeFor_of_invalidOwner (sc : Scoping mongo) (h : InvalidOwner mongo owner) :
    Refuses (sc.dao.scopeFor mongo owner) := by
  have hassert : ∃ message, ScopedDao.assertOwner mongo owner = .error (.unscoped message) := by
    unfold ScopedDao.assertOwner
    split
    · exact ⟨_, rfl⟩
    · exact ⟨_, rfl⟩
    · exact ⟨_, rfl⟩
    · rename_i s hs
      have hvalid : mongo.isValidObjectId (.str s) = false := h.resolve_left hs
      rw [if_neg (by simp [hvalid])]
      exact ⟨_, rfl⟩
    · rename_i x
      have hvalid : mongo.isValidObjectId (.object x) = false := h
      rw [if_neg (by simp [hvalid])]
      exact ⟨_, rfl⟩
    · exact h.elim
  obtain ⟨message, hassert⟩ := hassert
  exact ⟨message, by rw [ScopedDao.scopeFor, hassert]; rfl⟩

omit [DecidableEq V] in
/-- What follows a refused scope is not reached. -/
lemma Refuses.bind {α β : Type} {p : Dao V O X α} (h : Refuses p) (k : α → Dao V O X β) :
    Refuses (p.bind k) := by
  obtain ⟨message, rfl⟩ := h
  exact ⟨message, rfl⟩

omit [DecidableEq V] in
/-- The merged filter, in front of a query. -/
lemma filter_bind {α : Type} (dao : ScopedDao V O X) (f : Filter V O)
    (k : Filter V O → Dao V O X α) : (dao.filter mongo owner f).bind k =
      (dao.scopeFor mongo owner).bind fun scope => k (f.conj scope) := by
  rw [ScopedDao.filter, bind_eq, bind_assoc]
  rfl

omit [DecidableEq V] in
/-- What an intersection matches. -/
lemma holds_conj (f g : Filter V O) (d : Doc V) :
    mongo.holds (f.conj g) d = (mongo.holds f d && mongo.holds g d) :=
  Filter.holds_conj d f g

omit [DecidableEq V] in
/-- So it matches nothing outside either of the two. -/
lemma holds_of_holds_conj {f g : Filter V O} {d : Doc V} (h : mongo.holds (f.conj g) d = true) :
    mongo.holds g d = true := by
  rw [holds_conj, Bool.and_eq_true] at h
  exact h.2

/-! ## Two runs -/

/-- Two stores that agree yield the same scope. -/
lemma Agree.scope_eq (h : Agree sc owner s s') {id : ℕ} (hid : sc.ownerId owner = some id) :
    sc.scope s.monitors id = sc.scope s'.monitors id := by
  cases sc with
  | direct => rfl
  | derived => simp only [Scoping.scope, h.monitors id hid]

/-- The documents in the scope, as a query sees them. -/
lemma Agree.docs_scope (h : Agree sc owner s s') {id : ℕ}
    (hid : sc.ownerId owner = some id) :
    s.docs.filter (mongo.holds (sc.scope s'.monitors id)) =
      s'.docs.filter (mongo.holds (sc.scope s'.monitors id)) := by
  have hdocs := h.docs
  unfold Scoping.inScope at hdocs
  simpa only [hid, Option.any_some, h.scope_eq hid] using hdocs

/-- No filter of the caller's tells two stores that agree apart. -/
lemma Agree.docs_conj (h : Agree sc owner s s') {id : ℕ}
    (hid : sc.ownerId owner = some id) (f : Filter V O) :
    s.docs.filter (mongo.holds (f.conj (sc.scope s'.monitors id))) =
      s'.docs.filter (mongo.holds (f.conj (sc.scope s'.monitors id))) := by
  have hsplit : ∀ (docs : List (Doc V)) (scope : Filter V O),
      docs.filter (mongo.holds (f.conj scope)) =
        (docs.filter (mongo.holds scope)).filter (mongo.holds f) := by
    intro docs scope
    rw [List.filter_filter]
    exact List.filter_congr fun d _ => holds_conj f scope d
  rw [hsplit, hsplit, h.docs_scope hid]

/-- **Two runs.** What follows the scope gives equal results in two stores that agree, if it does
so after the scope that both yield. -/
theorem two_runs {α : Type} (k : Filter V O → Dao V O X α)
    (hk : ∀ id, sc.ownerId owner = some id →
      ((k (sc.scope s.monitors id)).run (execDao mongo) s).1 =
        ((k (sc.scope s'.monitors id)).run (execDao mongo) s').1) :
    (((sc.dao.scopeFor mongo owner).bind k).run (execDao mongo) s).1 =
      (((sc.dao.scopeFor mongo owner).bind k).run (execDao mongo) s').1 := by
  rcases run_scopeFor sc owner with ⟨e, he⟩ | ⟨id, hid, hscope⟩
  · rw [run_bind, run_bind, he, he]
  · rw [run_bind, run_bind, hscope, hscope]
    exact hk id hid

/-! ## Changes -/

omit [DecidableEq V] in
/-- Updating the first match changes a document that matches, if any. -/
lemma touches_updateFirst {p q : Doc V → Bool} (hpq : ∀ d, p d = true → q d = true)
    (f : Doc V → Doc V) (l : List (Doc V)) : Touches q l (updateFirst p f l) := by
  induction l with
  | nil => exact .unchanged _
  | cons d l ih =>
    rw [updateFirst]
    split_ifs with hd
    · exact .changed [] l d (f d) (hpq d hd)
    · generalize updateFirst p f l = l' at ih
      cases ih with
      | unchanged => exact .unchanged _
      | changed l₁ l₂ e e' he => exact .changed (d :: l₁) l₂ e e' he
      | removed l₁ l₂ e he => exact .removed (d :: l₁) l₂ e he

omit [DecidableEq V] in
/-- Removing the first match removes a document that matches, if any. -/
lemma touches_eraseP {p q : Doc V → Bool} (hpq : ∀ d, p d = true → q d = true)
    (l : List (Doc V)) : Touches q l (l.eraseP p) := by
  rcases List.exists_or_eq_self_of_eraseP p l with h | ⟨d, l₁, l₂, -, hd, hl, herase⟩
  · rw [h]
    exact .unchanged _
  · rw [hl] at herase ⊢
    rw [herase]
    exact .removed l₁ l₂ d (hpq d hd)

/-- The change that follows the scope stays in the scope. -/
lemma touches_of_scope {α : Type} (k : Filter V O → Dao V O X α)
    (hk : ∀ (scope : Filter V O) (s : TenantStore V),
      ((k scope).run (execDao mongo) s).2.monitors = s.monitors ∧
        Touches (mongo.holds scope) s.docs ((k scope).run (execDao mongo) s).2.docs) :
    (((sc.dao.scopeFor mongo owner).bind k).run (execDao mongo) s).2.monitors = s.monitors ∧
      Touches (sc.inScope owner s) s.docs
        (((sc.dao.scopeFor mongo owner).bind k).run (execDao mongo) s).2.docs := by
  rcases run_scopeFor sc owner with ⟨e, he⟩ | ⟨id, hid, hscope⟩
  · rw [run_bind, he]
    exact ⟨rfl, .unchanged _⟩
  · rw [run_bind, hscope]
    have hin : sc.inScope owner s = mongo.holds (sc.scope s.monitors id) := by
      funext d
      simp [Scoping.inScope, hid]
    rw [hin]
    exact hk _ s

/-! ## The contract -/

omit [DecidableEq V] in
/-- A document that was built from fields stamped with a direct scope is in that scope. -/
lemma holds_scope_of_build {ownerField : String} (h : mongo.objectIdPath ownerField) {id : ℕ}
    {fields : Fields V} {d : Doc V} (hbuild : mongo.build (ScopedDao.stamp mongo fields
      [.field ownerField (.eq (.objectId id))]) = .ok d) :
    mongo.holds [.field ownerField (.eq (.objectId id))] d = true := by
  have hget : Fields.get (ScopedDao.stamp mongo fields
      [.field ownerField (.eq (.objectId id))]) ownerField = some (.objectId id) := by
    simp [Fields.get, ScopedDao.stamp, mongo.embed_eq]
  simp [Mongo.holds, Filter.holds, Entry.holds, Operand.holds,
    mongo.build_objectId h hbuild hget, Meaning.equals_objectId]

/-- A create after a direct scope adds one document in the scope, or fails. -/
lemma run_create {ownerField : String} (h : mongo.objectIdPath ownerField)
    {fields : Fields V} {out : Except DaoError (Doc V)}
    (hrun : ((Scoping.direct ownerField h).dao.create mongo owner fields).run (execDao mongo) s =
      (out, s')) :
    (∀ d, out = .ok d → s' = { s with docs := s.docs ++ [d] } ∧
      (Scoping.direct ownerField h).inScope owner s d = true) ∧ ∀ e, out = .error e → s' = s := by
  rw [ScopedDao.create, bind_eq, run_bind] at hrun
  rcases run_scopeFor (Scoping.direct ownerField h) owner with ⟨e, he⟩ | ⟨id, hid, hscope⟩
  · rw [he] at hrun
    obtain ⟨rfl, rfl⟩ := Prod.mk.inj hrun
    exact ⟨fun d hd => (by cases hd), fun _ _ => rfl⟩
  · simp only [hscope, run_await, execDao] at hrun
    split at hrun
    · obtain ⟨rfl, rfl⟩ := Prod.mk.inj hrun
      exact ⟨fun d hd => (by cases hd), fun _ _ => rfl⟩
    · rename_i d hbuild
      split_ifs at hrun
      · obtain ⟨rfl, rfl⟩ := Prod.mk.inj hrun
        refine ⟨fun d' hd => ?_, fun e he => by cases he⟩
        obtain rfl := Except.ok.inj hd
        refine ⟨rfl, ?_⟩
        simp only [Scoping.inScope, hid, Option.any_some]
        exact holds_scope_of_build h hbuild
      · obtain ⟨rfl, rfl⟩ := Prod.mk.inj hrun
        exact ⟨fun d hd => (by cases hd), fun _ _ => rfl⟩

/-- What a `findOne` yields in two stores that agree. -/
lemma run_findOne_eq (h : Agree sc owner s s') (f : Filter V O) :
    ((sc.dao.findOne mongo owner f).run (execDao mongo) s).1 =
      ((sc.dao.findOne mongo owner f).run (execDao mongo) s').1 := by
  rw [ScopedDao.findOne, bind_eq, filter_bind]
  refine two_runs _ fun id hid => ?_
  simp only [run_await, execDao, ← List.head?_filter, h.docs_conj hid f, h.scope_eq hid]

/-- An update leaves everything outside the scope alone. -/
lemma touches_updateById (sc : Scoping mongo) (owner id : IdArg X) (patch : Fields V)
    (s : TenantStore V) :
    ((sc.dao.updateById mongo owner id patch).run (execDao mongo) s).2.monitors = s.monitors ∧
      Touches (sc.inScope owner s) s.docs
        ((sc.dao.updateById mongo owner id patch).run (execDao mongo) s).2.docs := by
  unfold ScopedDao.updateById
  split_ifs
  · rw [bind_eq, filter_bind]
    refine touches_of_scope _ fun scope t => ?_
    rw [run_await, execDao]
    split
    · exact ⟨rfl, .unchanged _⟩
    · split
      · exact ⟨rfl, .unchanged _⟩
      · split
        · exact ⟨rfl, .unchanged _⟩
        · dsimp only
          split_ifs
          · exact ⟨rfl, touches_updateFirst (fun _ => holds_of_holds_conj) _ _⟩
          · exact ⟨rfl, .unchanged _⟩
  · exact ⟨rfl, .unchanged _⟩

/-- And so does a deletion. -/
lemma touches_deleteById (sc : Scoping mongo) (owner id : IdArg X) (s : TenantStore V) :
    ((sc.dao.deleteById mongo owner id).run (execDao mongo) s).2.monitors = s.monitors ∧
      Touches (sc.inScope owner s) s.docs
        ((sc.dao.deleteById mongo owner id).run (execDao mongo) s).2.docs := by
  unfold ScopedDao.deleteById
  split_ifs
  · rw [bind_eq, filter_bind]
    refine touches_of_scope _ fun scope t => ?_
    rw [run_await, execDao]
    split
    · exact ⟨rfl, .unchanged _⟩
    · exact ⟨rfl, touches_eraseP (fun _ => holds_of_holds_conj) _⟩
  · exact ⟨rfl, .unchanged _⟩

/-- The number that a string of digits stands for. -/
def ofDigits (s : String) : ℕ := s.toList.foldl (fun n c => 10 * n + (c.toNat - 48)) 0

/-- A driver whose filters are made of equalities, over ids written with decimal digits. -/
def plainMongo : Mongo ℕ Empty Empty where
  sem := ⟨fun d v => d = some v, by simp, fun _ o _ => o.elim⟩
  elements v := [v]
  isValidObjectId
    | .str s => s.length = 24
    | _ => false
  newObjectId
    | .str s => if s.length = 24 then some (ofDigits s) else none
    | _ => none
  castObjectId
    | .str s => if s.length = 24 then some (ofDigits s) else none
    | _ => none
  byId
    | .str s => .eq (.objectId (ofDigits s))
    | _ => .eq (.value 0)
  embed
    | .eq v => v
    | _ => .value 0
  embed_eq _ := rfl
  rejects _ := none
  build fields := .ok fields.get
  objectIdPath _ := True
  build_objectId _ hbuild hget := by
    obtain rfl := Except.ok.inj hbuild
    exact hget
  setFields patch d := .ok fun path => (patch.get path).or (d path)
  unique _ := true

end WatchTower
