import Mathlib.Data.List.Dedup
import WatchTower.Documents.Collection
import WatchTower.Documents.Query
import WatchTower.Runtime.Js
import WatchTower.Transition.Program

set_option relaxedAutoImplicit false
set_option autoImplicit false

/-!
# The owner-scoped data access objects

`dao/scopedDao.js` and the scopes of `dao/index.js`. Every operation first computes a filter
fragment that confines it to one owner, and merges it with the caller's filter.

The database driver and mongoose are a parameter: what the conditions of a filter mean, which
filters are rejected, how a document is built from fields, and the unique indexes.

## Main definitions

* `WatchTower.Mongo` — the driver and mongoose.
* `WatchTower.TenantStore`, `WatchTower.DaoOp`, `WatchTower.execDao` — the queries.
* `WatchTower.ScopedDao`, with `assertOwner`, `scopeFor` and the operations `find`, `findOne`,
  `findById`, `create`, `updateById`, `deleteById`, `count`, `distinct` and `aggregate`.
* `WatchTower.Scoping` — the two scoping strategies, `WatchTower.Scoping.dao` their DAOs.
-/

namespace WatchTower

open Documents Transition Transition.Prog

variable {V O X : Type}

/-- A value handed over as an id. -/
inductive IdArg (X : Type)
  | undefined
  | null
  | str (s : String)
  | object (x : X)
  /-- A number, a boolean or the like. -/
  | other (x : X)

/-- The fields of an object, later ones overriding earlier ones with the same key. -/
abbrev Fields (V : Type) : Type := List (String × Bson V)

/-- The value of a key. -/
def Fields.get (fields : Fields V) (key : String) : Option (Bson V) :=
  (fields.reverse.find? (·.1 = key)).map (·.2)

/-- The driver and mongoose. -/
structure Mongo (V O X : Type) where
  /-- What the conditions of a filter mean. -/
  sem : Meaning V O
  /-- The values that `distinct` finds in a field: those of an array are its elements. -/
  elements : Bson V → List (Bson V)
  /-- `mongoose.isValidObjectId`. -/
  isValidObjectId : IdArg X → Bool
  /-- The id of `new ObjectId(String(value))`, unless it throws. -/
  newObjectId : IdArg X → Option ℕ
  /-- The id that a query on a path with object ids casts a value to, unless the cast fails. -/
  castObjectId : IdArg X → Option ℕ
  /-- The condition `value` on the path `_id`. -/
  byId : IdArg X → Operand V O
  /-- A condition as the value of a field. -/
  embed : Operand V O → Bson V
  /-- A plain value is itself. -/
  embed_eq : ∀ v, embed (.eq v) = v
  /-- The error with which a filter is rejected. -/
  rejects : Filter V O → Option JsError
  /-- The document that `create` makes of the fields: casts, defaults and validators. -/
  build : Fields V → Except JsError (Doc V)
  /-- The paths of the schema that hold an object id. -/
  objectIdPath : String → Prop
  /-- Such a path keeps an object id that it is given. -/
  build_objectId : ∀ {fields d path id}, objectIdPath path → build fields = .ok d →
    Fields.get fields path = some (.objectId id) → d path = some (.objectId id)
  /-- The document after `{ $set: patch }`, with validators. -/
  setFields : Fields V → Doc V → Except JsError (Doc V)
  /-- Whether a collection satisfies the unique indexes. -/
  unique : List (Doc V) → Bool

/-- The monitors, and the collection that a DAO is for. -/
structure TenantStore (V : Type) where
  /-- The monitors. -/
  monitors : List (Doc V)
  /-- The documents of the DAO's model. -/
  docs : List (Doc V)

/-- An error of the DAO. -/
inductive DaoError
  /-- `UnscopedQueryError`. -/
  | unscoped (message : String)
  /-- Any other error. -/
  | js (err : JsError)

/-- The queries of the DAO. -/
inductive DaoOp (V O X : Type)
  /-- `monitorModel.find({ userId }).distinct('_id')`. -/
  | ownedMonitorIds (owner : IdArg X)
  /-- `model.find(filter)`, sorted and limited by `arrange`. -/
  | find (filter : Filter V O) (arrange : List (Doc V) → List (Doc V))
  /-- `model.findOne(filter)`. -/
  | findOne (filter : Filter V O)
  /-- `model.create(fields)`. -/
  | create (fields : Fields V)
  /-- `model.findOneAndUpdate(filter, { $set: patch })`. -/
  | findOneAndUpdate (filter : Filter V O) (patch : Fields V)
  /-- `model.findOneAndDelete(filter)`. -/
  | findOneAndDelete (filter : Filter V O)
  /-- `model.countDocuments(filter)`. -/
  | countDocuments (filter : Filter V O)
  /-- `model.distinct(field, filter)`. -/
  | distinct (field : String) (filter : Filter V O)
  /-- `model.aggregate([{ $match }, …stages])`, each stage a function of its input. -/
  | aggregate (filter : Filter V O) (stages : List (List (Doc V) → List (Doc V)))

/-- What a query answers. -/
abbrev DaoOp.Resp : DaoOp V O X → Type
  | .ownedMonitorIds _ => List (Bson V)
  | .find _ _ => List (Doc V)
  | .findOne _ => Option (Doc V)
  | .create _ => Doc V
  | .findOneAndUpdate _ _ => Option (Doc V)
  | .findOneAndDelete _ => Option (Doc V)
  | .countDocuments _ => ℕ
  | .distinct _ _ => List (Bson V)
  | .aggregate _ _ => List (Doc V)

/-- A part of the DAO that talks to the database. -/
abbrev Dao (V O X : Type) := Prog (DaoOp V O X) DaoOp.Resp DaoError

/-- The error of a cast to an object id. -/
def castToObjectIdError : JsError := ⟨"Cast to ObjectId failed", none⟩

/-- The error of `new ObjectId`. -/
def bsonError : JsError :=
  ⟨"input must be a 24 character hex string, 12 byte Uint8Array, or an integer", none⟩

section Queries

variable [DecidableEq V] (mongo : Mongo V O X)

/-- Whether a filter matches a document. -/
def Mongo.holds (f : Filter V O) (d : Doc V) : Bool := Filter.holds mongo.sem d f

/-- Whether a monitor is an owner's. -/
def isOwnedBy (owner : ℕ) (d : Doc V) : Bool := d "userId" = some (.objectId owner)

/-- Answer a query with a filter, unless the filter is rejected. -/
def Mongo.answer {α : Type} (f : Filter V O) (a : α) : Except DaoError α :=
  match mongo.rejects f with
  | some err => .error (.js err)
  | none => .ok a

/-- One query. -/
def execDao : (o : DaoOp V O X) → TenantStore V → Except DaoError o.Resp × TenantStore V
  | .ownedMonitorIds owner, s =>
    match mongo.castObjectId owner with
    | none => (.error (.js castToObjectIdError), s)
    | some id => (.ok ((s.monitors.filter (isOwnedBy id)).filterMap (· "_id")).dedup, s)
  | .find f arrange, s => (mongo.answer f (arrange (s.docs.filter (mongo.holds f))), s)
  | .findOne f, s => (mongo.answer f (s.docs.find? (mongo.holds f)), s)
  | .create fields, s =>
    match mongo.build fields with
    | .error err => (.error (.js err), s)
    | .ok d =>
      if mongo.unique (s.docs ++ [d]) then (.ok d, { s with docs := s.docs ++ [d] })
      else (.error (.js duplicateKey), s)
  | .findOneAndUpdate f patch, s =>
    match mongo.rejects f with
    | some err => (.error (.js err), s)
    | none =>
      match s.docs.find? (mongo.holds f) with
      | none => (.ok none, s)
      | some d =>
        match mongo.setFields patch d with
        | .error err => (.error (.js err), s)
        | .ok d' =>
          let docs := updateFirst (mongo.holds f) (fun _ => d') s.docs
          if mongo.unique docs then (.ok (some d'), { s with docs })
          else (.error (.js duplicateKey), s)
  | .findOneAndDelete f, s =>
    match mongo.rejects f with
    | some err => (.error (.js err), s)
    | none => (.ok (s.docs.find? (mongo.holds f)), { s with docs := s.docs.eraseP (mongo.holds f) })
  | .countDocuments f, s => (mongo.answer f (s.docs.countP (mongo.holds f)), s)
  | .distinct field f, s =>
    (mongo.answer f
      (((s.docs.filter (mongo.holds f)).filterMap (· field)).flatMap mongo.elements).dedup, s)
  | .aggregate f stages, s =>
    (mongo.answer f (stages.foldl (fun docs stage => stage docs)
      (s.docs.filter (mongo.holds f))), s)

end Queries

/-! ## The data access object -/

/-- A scoped DAO: the field with the owner's id, or a scope that is resolved by a query. -/
structure ScopedDao (V O X : Type) where
  /-- `ownerField`. -/
  ownerField : String := "userId"
  /-- `resolveScope`. -/
  resolveScope : Option (IdArg X → Dao V O X (Filter V O)) := none

namespace ScopedDao

variable (mongo : Mongo V O X) (dao : ScopedDao V O X)

/-- An owner id must be present, and a string or an object must be a valid object id. -/
def assertOwner (owner : IdArg X) : Except DaoError (IdArg X) :=
  match owner with
  | .undefined | .null | .str "" =>
    .error (.unscoped "Refusing to run an unscoped query: ownerId is required")
  | .str _ | .object _ =>
    if mongo.isValidObjectId owner then .ok owner
    else .error
      (.unscoped "Refusing to run an unscoped query: ownerId is not a valid identifier")
  | .other _ => .ok owner

/-- The filter fragment that confines a query to one owner. -/
def scopeFor (owner : IdArg X) : Dao V O X (Filter V O) :=
  match assertOwner mongo owner with
  | .error err => throw err
  | .ok owner =>
    match dao.resolveScope with
    | some resolveScope => resolveScope owner
    | none =>
      match mongo.newObjectId owner with
      | none => throw (.js bsonError)
      | some id => return [.field dao.ownerField (.eq (.objectId id))]

/-- Merge the caller's filter with the owner's scope. -/
def filter (owner : IdArg X) (f : Filter V O) : Dao V O X (Filter V O) := do
  let scope ← dao.scopeFor mongo owner
  return f.conj scope

/-- `find`, with `sort` and `limit`. -/
def find (owner : IdArg X) (f : Filter V O) (arrange : List (Doc V) → List (Doc V)) :
    Dao V O X (List (Doc V)) := do
  let f ← dao.filter mongo owner f
  await (DaoOp.find f arrange)

/-- `findOne`. -/
def findOne (owner : IdArg X) (f : Filter V O) : Dao V O X (Option (Doc V)) := do
  let f ← dao.filter mongo owner f
  await (DaoOp.findOne f)

/-- `findById`: an invalid id finds nothing. -/
def findById (owner id : IdArg X) : Dao V O X (Option (Doc V)) :=
  if mongo.isValidObjectId id then dao.findOne mongo owner [.field "_id" (mongo.byId id)]
  else return none

/-- The fields of a scope, spread over those of a document. -/
def stamp (fields : Fields V) (scope : Filter V O) : Fields V :=
  fields ++ scope.filterMap fun e => match e with
    | .field path operand => some (path, mongo.embed operand)
    | _ => none

/-- `create`: ownership is stamped by the DAO. -/
def create (owner : IdArg X) (fields : Fields V) : Dao V O X (Doc V) := do
  let scope ← dao.scopeFor mongo owner
  await (DaoOp.create (stamp mongo fields scope))

/-- `updateById`. -/
def updateById (owner id : IdArg X) (patch : Fields V) : Dao V O X (Option (Doc V)) :=
  if mongo.isValidObjectId id then do
    let f ← dao.filter mongo owner [.field "_id" (mongo.byId id)]
    await (DaoOp.findOneAndUpdate f patch)
  else return none

/-- `deleteById`. -/
def deleteById (owner id : IdArg X) : Dao V O X (Option (Doc V)) :=
  if mongo.isValidObjectId id then do
    let f ← dao.filter mongo owner [.field "_id" (mongo.byId id)]
    await (DaoOp.findOneAndDelete f)
  else return none

/-- `count`. -/
def count (owner : IdArg X) (f : Filter V O) : Dao V O X ℕ := do
  let f ← dao.filter mongo owner f
  await (DaoOp.countDocuments f)

/-- `distinct`. -/
def distinct (owner : IdArg X) (field : String) (f : Filter V O) :
    Dao V O X (List (Bson V)) := do
  let f ← dao.filter mongo owner f
  await (DaoOp.distinct field f)

/-- `aggregate`: the scope is the first stage. -/
def aggregate (owner : IdArg X) (stages : List (List (Doc V) → List (Doc V))) :
    Dao V O X (List (Doc V)) := do
  let scope ← dao.scopeFor mongo owner
  await (DaoOp.aggregate scope stages)

end ScopedDao

/-- The scope of logs and incidents: the monitors of the owner. -/
def byMonitorOwnership (owner : IdArg X) : Dao V O X (Filter V O) := do
  let ids : List (Bson V) ← await (DaoOp.ownedMonitorIds owner)
  return [.field "monitorId" (.isIn ids)]

/-- The two scoping strategies. -/
inductive Scoping (mongo : Mongo V O X)
  /-- The collection carries the owner, in a path that holds an object id. -/
  | direct (ownerField : String) (h : mongo.objectIdPath ownerField)
  /-- It belongs to whoever owns the monitor. -/
  | derived

/-- The DAO with a scoping strategy. -/
def Scoping.dao {mongo : Mongo V O X} : Scoping mongo → ScopedDao V O X
  | .direct ownerField _ => { ownerField }
  | .derived => { resolveScope := some byMonitorOwnership }

end WatchTower
