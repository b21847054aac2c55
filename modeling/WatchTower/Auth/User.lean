import WatchTower.Documents.Indexed
import WatchTower.Runtime.Text
import WatchTower.Transition.Program

set_option relaxedAutoImplicit false
set_option autoImplicit false

/-!
# User accounts

`models/user.model.js` and `services/user.service.js`: the documents of the users collection with
its unique indexes, the operations that the handlers perform on it, the methods of the model and
the lookups of the service.

What Mongoose does with a request field of unknown type, bcrypt, SHA-256 and the functions of
JavaScript strings are parameters (`AuthRuntime`).

## Main definitions

* `WatchTower.AuthRuntime` — the parameters.
* `WatchTower.User`, `WatchTower.UserStore` — the documents, and the collection.
* `WatchTower.UserOp`, `WatchTower.execUser` — the operations and their effect.
* `WatchTower.UserDoc` — a document in memory.
* `WatchTower.saveUser`, `WatchTower.createUser`, `WatchTower.findUserByEmailOrUsername` and the
  other functions of the source.

## Main results

* `WatchTower.exists_run_saveUnvalidated` — a save that leaves the binding alone is carried out.
* `WatchTower.run_createUser` — the creation of an account.
-/

namespace WatchTower

open Documents Transition Transition.Prog

/-- The functions that the account code applies to request data. -/
structure AuthRuntime where
  /-- The cast of a value that is no string, and not absent, to a string path. -/
  castOther : Js → Except JsError (Option String)
  /-- The strings that a query on a string path asks for, given such a value. -/
  queryOther : Js → Except JsError (List String)
  /-- The functions on texts, of which `String(value)` is used. -/
  text : TextRuntime
  /-- `text.toLowerCase()`. -/
  toLowerCase : String → String
  /-- `text.trim()`. -/
  trim : String → String
  /-- The cast of a path parameter to an `ObjectId`. -/
  castObjectId : String → Except JsError ℕ
  /-- `bcrypt.hash(password, salt)`. -/
  hash : String → String → String
  /-- `bcrypt.compare(entered, hash)`. -/
  compare : Js → String → Except JsError Bool
  /-- The SHA-256 digest in hexadecimal. -/
  sha256 : String → String

namespace AuthRuntime

variable (rt : AuthRuntime)

/-- `String(value)`. -/
def toText (v : Js) : Except JsError String := (rt.text.string v).map String.ofList

/-- The cast of a value to a string path. -/
def castString : Js → Except JsError (Option String)
  | .undefined | .null => .ok none
  | .str s => .ok (some s)
  | v => rt.castOther v

/-- The strings that a query on a string path asks for. No account lacks the paths queried, so an
absent value asks for none. -/
def queryStrings : Js → Except JsError (List String)
  | .undefined | .null => .ok []
  | .str s => .ok [s]
  | v => rt.queryOther v

/-- The setters of a path with `lowercase` and `trim`. -/
def normalize (s : String) : String := rt.trim (rt.toLowerCase s)

end AuthRuntime

/-- An `ApiError`, or any other error that was thrown. -/
inductive Thrown
  | api (statusCode : ℕ) (message : String)
  | js (err : JsError)
  deriving DecidableEq

/-- An `ApiResponse`. -/
structure ApiResponse (α : Type) where
  /-- The status code. -/
  statusCode : ℕ
  /-- `data`. -/
  data : α
  /-- `message`. -/
  message : String
  deriving DecidableEq

/-! ## Documents -/

/-- `provider`. -/
inductive Provider
  | localAccount
  | google
  deriving DecidableEq

/-- A document of the users collection. -/
structure User where
  /-- `_id`. -/
  id : ℕ
  /-- `username`. -/
  username : String
  /-- `fullname`. -/
  fullname : String
  /-- `email`. -/
  email : String
  /-- `password`, a hash. -/
  password : Option String
  /-- `provider`. -/
  provider : Provider
  /-- `googleId`. -/
  googleId : Option String
  /-- `forgotPasswordToken`, a hash. -/
  forgotPasswordToken : Option String
  /-- `forgotPasswordExpire`. -/
  forgotPasswordExpire : Option Time
  /-- `isVerified`. -/
  isVerified : Bool
  /-- `otp`. -/
  otp : Option String
  /-- `otpExpire`. -/
  otpExpire : Option Time
  /-- `avatar`. -/
  avatar : String
  deriving DecidableEq

/-- The number of UTF-16 code units of a string, its `length`. -/
def jsLength (s : String) : ℕ :=
  s.toList.foldl (fun n c => n + if c.toNat < 0x10000 then 1 else 2) 0

namespace User

/-- The unique indexes: `_id`, `email`, `username`, and `googleId` where there is one. -/
def clash (u v : User) : Bool :=
  u.id = v.id || u.email = v.email || u.username = v.username ||
    (u.googleId.isSome && u.googleId = v.googleId)

/-- Clashing is symmetric. -/
lemma clash_comm (u v : User) : u.clash v = v.clash u := by
  rw [Bool.eq_iff_iff]
  simp only [clash, Bool.or_eq_true, Bool.and_eq_true, decide_eq_true_eq]
  constructor <;> rintro (((h | h) | h) | ⟨h₁, h₂⟩) <;> simp_all

/-- The default of `otpExpire`: twenty minutes. -/
def defaultOtpExpire (now : Time) : Time := now + 20 * 60 * 1000

/-- A document read from the database gets the default of `otpExpire` if it has none. -/
def hydrate (u : User) (now : Time) : User :=
  { u with otpExpire := some (u.otpExpire.getD (defaultOtpExpire now)) }

/-- `password` has `select: false`: it is read only when asked for. -/
def select (u : User) (withPassword : Bool) : User :=
  if withPassword then u else { u with password := none }

/-- The validators of the schema. A required text must not be empty. -/
def valid (u : User) : Bool :=
  u.username ≠ "" && u.fullname ≠ "" && u.email ≠ "" &&
    (u.provider = .google || u.password.isSome) && u.password.all (6 ≤ jsLength ·)

end User

/-- The error of a failed validation. -/
def validationError : JsError := ⟨"User validation failed", none⟩

/-- The error of a save whose document is gone. -/
def documentNotFound : JsError := ⟨"No document found for query on model \"User\"", none⟩

/-- The modified paths of a document, each with its new value. -/
structure UserChanges where
  /-- `password`. -/
  password : Option (Option String)
  /-- `googleId`. -/
  googleId : Option (Option String)
  /-- `forgotPasswordToken`. -/
  forgotPasswordToken : Option (Option String)
  /-- `forgotPasswordExpire`. -/
  forgotPasswordExpire : Option (Option Time)
  /-- `isVerified`. -/
  isVerified : Option Bool
  /-- `otp`. -/
  otp : Option (Option String)
  /-- `otpExpire`. -/
  otpExpire : Option (Option Time)
  /-- `avatar`. -/
  avatar : Option String

/-- The new value of a field that was modified. -/
def changed {α : Type} [DecidableEq α] (old new : α) : Option α :=
  if old = new then none else some new

/-- Writing a field that was modified, or leaving it, gives the value it has in memory. -/
@[simp] lemma changed_getD {α : Type} [DecidableEq α] (old new : α) :
    (changed old new).getD old = new := by
  unfold changed
  split_ifs with h
  · exact h
  · rfl

/-- Apply the changes to a document. -/
def User.set (u : User) (c : UserChanges) : User :=
  { u with
    password := c.password.getD u.password
    googleId := c.googleId.getD u.googleId
    forgotPasswordToken := c.forgotPasswordToken.getD u.forgotPasswordToken
    forgotPasswordExpire := c.forgotPasswordExpire.getD u.forgotPasswordExpire
    isVerified := c.isVerified.getD u.isVerified
    otp := c.otp.getD u.otp
    otpExpire := c.otpExpire.getD u.otpExpire
    avatar := c.avatar.getD u.avatar }

/-! ## The collection -/

/-- The indexes of the collection. -/
abbrev userIndexes : Indexes User ℕ where
  key := User.id
  clash := User.clash
  clash_comm := User.clash_comm
  clash_of_key h := by simp [User.clash, h]

/-- The users collection. -/
abbrev UserStore := Indexed userIndexes

/-- The operations on the collection. -/
inductive UserOp
  /-- `findOne`, with the password if asked for. -/
  | findOne (p : User → Bool) (withPassword : Bool)
  /-- `exists`. -/
  | exists (p : User → Bool)
  /-- The insertion of a new document. -/
  | insert (u : User)
  /-- The update of the modified paths of a document. -/
  | update (id : ℕ) (changes : UserChanges)

/-- What an operation answers. -/
abbrev UserOp.Resp : UserOp → Type
  | .findOne _ _ => Option User
  | .exists _ => Bool
  | .insert _ => Unit
  | .update _ _ => Unit

/-- The first document that matches. -/
def findUser (p : User → Bool) (s : UserStore) : Option User := s.docs.find? p

/-- An operation on the collection. -/
def execUser : (o : UserOp) → UserStore → Except Thrown o.Resp × UserStore
  | .findOne p withPassword, s => (.ok ((findUser p s).map (·.select withPassword)), s)
  | .exists p, s => (.ok (s.docs.any p), s)
  | .insert u, s =>
    match s.insert u with
    | some t => (.ok (), t)
    | none => (.error (.js duplicateKey), s)
  | .update id changes, s =>
    match findUser (fun u => u.id = id) s with
    | none => (.error (.js documentNotFound), s)
    | some u =>
      match s.replace (u.set changes) with
      | some t => (.ok (), t)
      | none => (.error (.js duplicateKey), s)

/-- A handler's part that talks to the users collection. -/
abbrev Accounts := Prog UserOp UserOp.Resp Thrown

/-- Throw the error of a pure part. -/
def ofExcept {Op : Type} {Resp : Op → Type} {α : Type} : Except JsError α → Prog Op Resp Thrown α
  | .ok a => .ret a
  | .error err => .fail (.js err)

/-! ## Documents in memory -/

/-- A document in memory. -/
structure UserDoc where
  /-- Its fields as they were loaded. -/
  loaded : User
  /-- Its fields now. -/
  user : User

/-- A user with the password hashed. -/
def User.hashed (rt : AuthRuntime) (salt : String) (u : User) : User :=
  { u with password := u.password.map (rt.hash · salt) }

namespace UserDoc

/-- A document just loaded. -/
def ofLoaded (u : User) (now : Time) : UserDoc := ⟨u, u.hydrate now⟩

/-- Assign to fields of a document. -/
def assign (doc : UserDoc) (f : User → User) : UserDoc := { doc with user := f doc.user }

/-- The paths to write: those that differ from what was loaded. -/
def modifiedPaths (doc : UserDoc) : UserChanges where
  password := changed doc.loaded.password doc.user.password
  googleId := changed doc.loaded.googleId doc.user.googleId
  forgotPasswordToken := changed doc.loaded.forgotPasswordToken doc.user.forgotPasswordToken
  forgotPasswordExpire := changed doc.loaded.forgotPasswordExpire doc.user.forgotPasswordExpire
  isVerified := changed doc.loaded.isVerified doc.user.isVerified
  otp := changed doc.loaded.otp doc.user.otp
  otpExpire := changed doc.loaded.otpExpire doc.user.otpExpire
  avatar := changed doc.loaded.avatar doc.user.avatar

/-- The `pre('save')` hook: a password that was modified is hashed. -/
def preSave (rt : AuthRuntime) (salt : String) (doc : UserDoc) : UserDoc :=
  if doc.user.password = doc.loaded.password then doc
  else doc.assign (User.hashed rt salt)

/-- The hook keeps the id. -/
@[simp] lemma preSave_id (rt : AuthRuntime) (salt : String) (doc : UserDoc) :
    (doc.preSave rt salt).user.id = doc.user.id := by
  unfold preSave
  split_ifs <;> rfl

end UserDoc

/-- `user.save({ validateBeforeSave: false })`, for a document whose password was not modified. -/
def saveUnvalidated (doc : UserDoc) : Accounts Unit :=
  await (UserOp.update doc.user.id doc.modifiedPaths)

/-- `user.save()`. -/
def saveUser (rt : AuthRuntime) (salt : String) (doc : UserDoc) : Accounts Unit :=
  if doc.user.valid then saveUnvalidated (doc.preSave rt salt)
  else throw (.js validationError)

/-- `User.create(…)`, after the casts: validate, hash the password, insert. -/
def createUser (rt : AuthRuntime) (salt : String) (u : User) : Accounts UserDoc := do
  if u.valid then
    let () ← await (UserOp.insert (u.hashed rt salt))
    return ⟨u.hashed rt salt, u.hashed rt salt⟩
  else throw (.js validationError)

/-! ## Lookups -/

/-- `User.findOne(…)`. -/
def findOneUser (p : User → Bool) (withPassword : Bool) (now : Time) :
    Accounts (Option UserDoc) := do
  let found : Option User ← await (UserOp.findOne p withPassword)
  return found.map (UserDoc.ofLoaded · now)

/-- `User.findById(id)`. -/
def findUserById (id : ℕ) (now : Time) : Accounts (Option UserDoc) :=
  findOneUser (fun u => u.id = id) false now

/-- The filter `{ $or: [{ username }, { email }] }`. -/
def emailOrUsername (rt : AuthRuntime) (email username : Js) :
    Except JsError (User → Bool) := do
  let usernames ← rt.queryStrings username
  let emails ← rt.queryStrings email
  return fun u => (usernames.map rt.normalize).contains u.username ||
    (emails.map rt.normalize).contains u.email

/-- The lookup by e-mail or username, with the password. -/
def findUserByEmailOrUsername (rt : AuthRuntime) (email username : Js) (now : Time) :
    Accounts (Option UserDoc) := do
  let p ← ofExcept (emailOrUsername rt email username)
  findOneUser p true now

/-- Whether an account has this e-mail address, or would have it once stored. -/
def User.hasEmail (rt : AuthRuntime) (email : String) (u : User) : Bool :=
  u.email = rt.normalize email

/-- The lookup by e-mail. -/
def findUserByEmail (rt : AuthRuntime) (email : String) (now : Time) :
    Accounts (Option UserDoc) :=
  findOneUser (User.hasEmail rt email) false now

/-- The lookup of a pending reset by its raw token, with the password. -/
def findUserByForgotToken (rt : AuthRuntime) (token : String) (now : Time) :
    Accounts (Option UserDoc) :=
  if token = "" then return none
  else findOneUser (fun u => u.forgotPasswordToken = some (rt.sha256 token) &&
    u.forgotPasswordExpire.any (now < ·)) true now

/-! ## Methods -/

/-- The claims that `generateAccessToken` signs. -/
structure AccessToken where
  /-- `id`. -/
  id : ℕ
  /-- `email`. -/
  email : String
  /-- `username`. -/
  username : String
  deriving DecidableEq

/-- `generateAccessToken`. -/
def User.generateAccessToken (u : User) : AccessToken := ⟨u.id, u.email, u.username⟩

/-- `comparePassword`: an account without a password, or an empty one, never matches. -/
def User.comparePassword (rt : AuthRuntime) (u : User) (enteredPassword : Js) :
    Except JsError Bool :=
  match u.password with
  | none => .ok false
  | some hash =>
    if hash = "" ∨ enteredPassword.truthy = false then .ok false
    else rt.compare enteredPassword hash

/-- The assignments of `generateOTP`. -/
def User.setOTP (otp : String) (now : Time) (u : User) : User :=
  { u with otp := some otp, otpExpire := some (now + 20 * 60 * 1000) }

/-- `Math.floor(100000 + Math.random() * 900000).toString()`, for the number drawn. -/
def drawOTP (draw : ℚ) : String := toString (toInteger (100000 + draw * 900000))

/-- `generateOTP`: six digits, valid for twenty minutes. -/
def UserDoc.generateOTP (doc : UserDoc) (draw : ℚ) (now : Time) : Accounts String := do
  let () ← saveUnvalidated (doc.assign (User.setOTP (drawOTP draw) now))
  return drawOTP draw

/-- `generateForgotToken`, from the random token drawn: only its hash is stored, for fifteen
minutes. -/
def User.generateForgotToken (rt : AuthRuntime) (token : String) (now : Time) (u : User) : User :=
  { u with
    forgotPasswordToken := some (rt.sha256 token)
    forgotPasswordExpire := some (now + 15 * 60 * 1000) }

/-! ## What the operations do -/

variable {s t : UserStore} {u v : User} {p : User → Bool}

/-- A document that is found is in the collection and matches. -/
lemma findUser_eq_some (h : findUser p s = some u) : u ∈ s ∧ p u = true :=
  ⟨List.mem_of_find?_eq_some h, List.find?_some h⟩

/-- A lookup finds nothing iff no document matches. -/
lemma findUser_eq_none_iff : findUser p s = none ↔ ∀ u ∈ s, p u = false := by
  simp [findUser, Indexed.mem_def]

/-- A document is found by its key. -/
lemma findUser_id (h : u ∈ s) : findUser (fun v => v.id = u.id) s = some u := by
  cases hv : findUser (fun v => v.id = u.id) s with
  | none => simpa using findUser_eq_none_iff.1 hv u h
  | some v =>
    obtain ⟨hmem, hid⟩ := findUser_eq_some hv
    rw [Indexed.eq_of_key_eq hmem h (by simpa using hid)]

/-- Looking a document up leaves the collection alone. -/
@[simp] lemma run_findOneUser (p : User → Bool) (withPassword : Bool) (now : Time)
    (s : UserStore) : (findOneUser p withPassword now).run execUser s =
      (.ok ((findUser p s).map fun u => .ofLoaded (u.select withPassword) now), s) := by
  simp [findOneUser, execUser, Function.comp_def]

/-- A lookup hands on what it finds. -/
@[simp] lemma wp_findOneUser (withPassword : Bool) (now : Time)
    {Q : Except Thrown (Option UserDoc) → UserStore → Prop} :
    (findOneUser p withPassword now).wp execUser Q s ↔
      Q (.ok ((findUser p s).map fun u => .ofLoaded (u.select withPassword) now)) s := by
  rw [wp, run_findOneUser]

/-- A pure part hands on its result. -/
@[simp] lemma wp_ofExcept_ok {α : Type} {a : α} {Q : Except Thrown α → UserStore → Prop} :
    (ofExcept (.ok a)).wp execUser Q s ↔ Q (.ok a) s := Iff.rfl

/-- A pure part throws its error. -/
@[simp] lemma wp_ofExcept_error {α : Type} {err : JsError}
    {Q : Except Thrown α → UserStore → Prop} :
    (ofExcept (.error err)).wp execUser Q s ↔ Q (.error (.js err)) s := Iff.rfl

/-- Looking an account up by its key finds it. -/
lemma run_findUserById (h : u ∈ s) (now : Time) : (findUserById u.id now).run execUser s =
    (.ok (some (.ofLoaded (u.select false) now)), s) := by
  rw [findUserById, run_findOneUser, findUser_id h]
  rfl

/-- A document as it is stored once its modified paths are written: every field is the one in
memory, but for a password that was not read. -/
def UserDoc.stored (doc : UserDoc) (u : User) : User :=
  { u with
    password := (changed doc.loaded.password doc.user.password).getD u.password
    googleId := doc.user.googleId
    forgotPasswordToken := doc.user.forgotPasswordToken
    forgotPasswordExpire := doc.user.forgotPasswordExpire
    isVerified := doc.user.isVerified
    otp := doc.user.otp
    otpExpire := doc.user.otpExpire
    avatar := doc.user.avatar }

/-- The modified paths, applied to the document that they were read from. -/
lemma set_modifiedPaths (doc : UserDoc) (withPassword : Bool)
    (h : doc.loaded = u.select withPassword) : u.set doc.modifiedPaths = doc.stored u := by
  cases withPassword <;>
    simp [User.set, UserDoc.modifiedPaths, UserDoc.stored, h, User.select]

/-- A save writes the modified paths. -/
lemma run_saveUnvalidated (doc : UserDoc) (withPassword : Bool) (hu : u ∈ s)
    (hl : doc.loaded = u.select withPassword) (hid : doc.user.id = u.id)
    (ht : s.replace (doc.stored u) = some t) :
    (saveUnvalidated doc).run execUser s = (.ok (), t) := by
  simp only [saveUnvalidated, run_await, execUser, hid, findUser_id hu,
    set_modifiedPaths doc withPassword hl, ht]

/-- A new account is validated, and inserted unless it clashes. -/
lemma run_createUser (rt : AuthRuntime) (salt : String) (u : User) (s : UserStore) :
    (createUser rt salt u).run execUser s =
      if u.valid then
        match s.insert (u.hashed rt salt) with
        | some t => (.ok ⟨u.hashed rt salt, u.hashed rt salt⟩, t)
        | none => (.error (.js duplicateKey), s)
      else (.error (.js validationError), s) := by
  unfold createUser
  split
  · cases hins : s.insert (u.hashed rt salt) <;>
      simp only [bind_eq, run_bind, run_await, execUser, hins, pure_eq, run_ret]
  · rfl

/-- What holds after the creation of an account. -/
lemma wp_createUser (rt : AuthRuntime) (salt : String) (u : User)
    {Q : Except Thrown UserDoc → UserStore → Prop}
    (hcreated : ∀ t, u.valid → s.insert (u.hashed rt salt) = some t →
      Q (.ok ⟨u.hashed rt salt, u.hashed rt salt⟩) t)
    (hfailed : ∀ err, Q (.error err) s) : (createUser rt salt u).wp execUser Q s := by
  rw [wp, run_createUser]
  split_ifs with hvalid
  · cases hins : s.insert (u.hashed rt salt) with
    | none => exact hfailed _
    | some t => exact hcreated t hvalid hins
  · exact hfailed _

/-- **A save that leaves the binding alone** is carried out: no other indexed field is ever
written. -/
theorem exists_run_saveUnvalidated (doc : UserDoc) (withPassword : Bool) (hu : u ∈ s)
    (hl : doc.loaded = u.select withPassword) (hid : doc.user.id = u.id)
    (hgoogle : doc.user.googleId = u.googleId) :
    ∃ t, (saveUnvalidated doc).run execUser s = (.ok (), t) ∧
      s.replace (doc.stored u) = some t := by
  obtain ⟨t, ht⟩ : ∃ t, s.replace (doc.stored u) = some t := by
    refine Indexed.exists_replace fun w hw hne => ?_
    have hclash : w.clash u = false :=
      Indexed.clash_eq_false hw hu fun h => hne (by rw [h]; rfl)
    simpa [User.clash, UserDoc.stored, hgoogle] using hclash
  exact ⟨t, run_saveUnvalidated doc withPassword hu hl hid ht, ht⟩

end WatchTower
