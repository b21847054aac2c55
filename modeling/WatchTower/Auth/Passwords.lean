import WatchTower.Auth.ResetLinks

set_option relaxedAutoImplicit false
set_option autoImplicit false

/-!
# The password in force

Any number of requests of the account endpoints, and of changes of a password, are served at once,
their calls to the users collection in any order. Three handlers write a password: a registration
with the new document, a reset and a change with a save that comes some time after they have read
the account. Whichever is performed last counts, and a login is judged by the password that its
lookup has read.

The stored value is a bcrypt hash, and a password that equals the stored hash itself is taken for
unmodified and not written. bcrypt reads a part of a long password only; `sameKey` says which
passwords it does not tell apart.

## Main definitions

* `WatchTower.changePassword` — the handler of a change.
* `WatchTower.AccountFlow`, `WatchTower.AccountStep` — the requests, and their calls in any order.
* `WatchTower.lastPassword` — the password last written to an account.
* `WatchTower.Bcrypt` — what is assumed of the hash.

## Main results

* `WatchTower.allCalls_handler` — what a request can write to a password.
* `WatchTower.hashed_of_run` — every document holds a hash of the password last written.
* `WatchTower.login_iff_of_run` — a login signs an account in exactly when it carries the password
  that was in force when it looked the account up.
-/

namespace WatchTower

open Documents Transition Transition.Prog

variable {ι : Type}

/-! ## A change of password -/

/-- The fields that `changePassword` reads. -/
structure ChangeBody where
  /-- `oldPassword`. -/
  oldPassword : Js
  /-- `newPassword`. -/
  newPassword : Js

/-- A change of password. -/
structure ChangeRequest where
  /-- `req.user.id`, from the session. -/
  userid : ℕ
  /-- `req.body`, nothing when it was not parsed. -/
  body : Option ChangeBody
  /-- `Date.now()`. -/
  now : Time
  /-- The salt drawn. -/
  salt : String

/-- `UserService.findUserByIdWithPassword`. -/
def findUserByIdWithPassword (id : ℕ) (now : Time) : Accounts (Option UserDoc) :=
  findOneUser (fun u => u.id = id) true now

/-- The error of `user.comparePassword` when there is no user. -/
def comparePasswordError : JsError :=
  ⟨"Cannot read properties of null (reading 'comparePassword')", none⟩

/-- `POST /api/auth/change-password`. -/
def changePassword (rt : AuthRuntime) (req : ChangeRequest) : Accounts Response := do
  let found : Option UserDoc ← findUserByIdWithPassword req.userid req.now
  match req.body with
  | none => throw (.js (destructureError "oldPassword"))
  | some body =>
    if body.oldPassword.truthy = false ∨ body.newPassword.truthy = false then
      throw (.api 401 "Invalid password")
    else
      match found with
      | none => throw (.js comparePasswordError)
      | some doc =>
        let ispassword : Bool ← ofExcept (doc.user.comparePassword rt body.oldPassword)
        if ispassword = false then throw (.api 401 "Invalid password")
        else
          let password : Option String ←
            ofExcept ((rt.castString body.newPassword).mapError fun _ => validationError)
          saveUser rt req.salt (doc.assign fun u => { u with password := password })
          return .plain 200 "Password changed successfully"

/-! ## Requests -/

/-- A request: one of the account endpoints, or a change of password. -/
inductive AccountFlow
  | request (req : Request)
  | change (req : ChangeRequest)

namespace AccountFlow

/-- The handler of a request. -/
def handler (rt : AuthRuntime) (cfg : AuthConfig) : AccountFlow → Accounts Response
  | request req => req.handler rt cfg
  | change req => changePassword rt req

/-- The password that a request is to set, if it sets one. -/
def newPassword (rt : AuthRuntime) : AccountFlow → Option String
  | request (.register req) => req.body.bind fun body => (rt.castString body.password).toOption.join
  | request (.reset req) => req.newPassword.bind fun password =>
      (rt.castString password).toOption.join
  | change req => req.body.bind fun body => (rt.castString body.newPassword).toOption.join
  | request _ => none

/-- The salt that it draws. -/
def salt : AccountFlow → String
  | request (.register req) => req.salt
  | request (.reset req) => req.salt
  | change req => req.salt
  | request _ => ""

/-- What a request can write to a password: the hash of the one it is to set. -/
def Stores (rt : AuthRuntime) (f : AccountFlow) : UserOp → Prop
  | .insert u => u.password = (f.newPassword rt).map (rt.hash · f.salt)
  | .update _ changes => ∀ password, changes.password = some password →
      password = (f.newPassword rt).map (rt.hash · f.salt)
  | .findOne _ _ => True
  | .exists _ => True

end AccountFlow

/-- The requests and the collection that they share. -/
abbrev AccountWorld (ι : Type) := Shared ι UserStore UserOp.Resp Thrown Response

/-- What happens. -/
abbrev AccountEvent (ι : Type) := SharedEvent ι UserOp.Resp Thrown Response

/-- A request starts with its handler. -/
def StartsAccount (rt : AuthRuntime) (cfg : AuthConfig) (requests : ι → AccountFlow) (i : ι)
    (_ : UserStore) (p : Accounts Response) : Prop :=
  p = (requests i).handler rt cfg

/-- An operation on the collection. -/
def PerformsUser (o : UserOp) (s : UserStore) (r : Except Thrown o.Resp) (s' : UserStore) : Prop :=
  execUser o s = (r, s')

/-- A request arrives, or performs its next operation. -/
abbrev AccountStep [DecidableEq ι] (rt : AuthRuntime) (cfg : AuthConfig)
    (requests : ι → AccountFlow) : AccountWorld ι → AccountEvent ι → AccountWorld ι → Prop :=
  SharedStep (StartsAccount rt cfg requests) PerformsUser

/-! ## The passwords written -/

/-- The account whose password a call has written. -/
def notePassword : Answered UserOp.Resp Thrown → Option ℕ
  | ⟨.insert u, .ok _⟩ => some u.id
  | ⟨.update account changes, .ok _⟩ => if changes.password.isSome then some account else none
  | _ => none

/-- What has been written to the password of an account, oldest first. -/
def passwordsWritten (rt : AuthRuntime) (requests : ι → AccountFlow) (account : ℕ)
    (h : List (AccountEvent ι)) : List (Option String) :=
  (notesOf notePassword h).filterMap fun (i, written) =>
    if written = account then some ((requests i).newPassword rt) else none

/-- The password in force: the one last written. -/
def lastPassword (rt : AuthRuntime) (requests : ι → AccountFlow) (account : ℕ)
    (h : List (AccountEvent ι)) : Option String :=
  (passwordsWritten rt requests account h).getLast?.join

section Written

variable {rt : AuthRuntime} {requests : ι → AccountFlow} {account : ℕ} {h : List (AccountEvent ι)}
  {i : ι} {o : UserOp} {r : Except Thrown o.Resp}

/-- A call that writes the password of the account puts its own in force. -/
lemma lastPassword_of_written (hnote : notePassword ⟨o, r⟩ = some account) :
    lastPassword rt requests account (h ++ [.call i o r]) = (requests i).newPassword rt := by
  simp [lastPassword, passwordsWritten, hnote]

/-- Every other call leaves the password in force. -/
lemma lastPassword_of_not_written (hnote : notePassword ⟨o, r⟩ ≠ some account) :
    lastPassword rt requests account (h ++ [.call i o r]) =
      lastPassword rt requests account h := by
  cases hwritten : notePassword ⟨o, r⟩ with
  | none => simp [lastPassword, passwordsWritten, hwritten]
  | some written =>
    have hne : written ≠ account := fun heq => hnote (by rw [hwritten, heq])
    simp [lastPassword, passwordsWritten, hwritten, hne]

/-- A request that arrives leaves the password in force. -/
@[simp] lemma lastPassword_start (p : Accounts Response) :
    lastPassword rt requests account (h ++ [.start i p]) = lastPassword rt requests account h := by
  simp [lastPassword, passwordsWritten]

end Written

/-! ## What a request writes -/

section Writes

variable {rt : AuthRuntime} {f : AccountFlow}

/-- A field that was modified is written with its new value. -/
lemma eq_of_changed_eq_some {α : Type} [DecidableEq α] {old new value : α}
    (h : changed old new = some value) : new = value := by
  unfold changed at h
  split_ifs at h
  exact Option.some.inj h

/-- A lookup writes nothing. -/
lemma allCalls_findOneUser (p : User → Bool) (withPassword : Bool) (now : Time) :
    (findOneUser p withPassword now).AllCalls (f.Stores rt) :=
  (allCalls_await.2 trivial).bind fun _ => trivial

/-- What is done with an account that was looked up is done with a document just loaded. -/
lemma allCalls_findOneUser_bind {α : Type} {p : User → Bool} {withPassword : Bool} {now : Time}
    {k : Option UserDoc → Accounts α}
    (hk : ∀ found : Option User, (k (found.map (UserDoc.ofLoaded · now))).AllCalls (f.Stores rt)) :
    ((findOneUser p withPassword now).bind k).AllCalls (f.Stores rt) :=
  ⟨trivial, fun r => by cases r <;> first | exact hk _ | trivial⟩

/-- A pure part writes nothing. -/
lemma allCalls_ofExcept {α : Type} (x : Except JsError α) :
    (ofExcept x : Accounts α).AllCalls (f.Stores rt) := by
  cases x <;> trivial

/-- A save of a document whose password was not modified writes none. -/
lemma allCalls_saveUnvalidated {doc : UserDoc} (h : doc.user.password = doc.loaded.password) :
    (saveUnvalidated doc).AllCalls (f.Stores rt) := by
  refine allCalls_await.2 fun password hpassword => ?_
  simp [UserDoc.modifiedPaths, changed, h] at hpassword

/-- A save writes no password, or the hash of the one in memory. -/
lemma allCalls_saveUser {doc : UserDoc} {salt : String}
    (h : doc.user.password = doc.loaded.password ∨
      doc.user.password = f.newPassword rt ∧ salt = f.salt) :
    (saveUser rt salt doc).AllCalls (f.Stores rt) := by
  unfold saveUser UserDoc.preSave
  split_ifs with hvalid heq
  · exact allCalls_saveUnvalidated heq
  · obtain ⟨hnew, rfl⟩ := h.resolve_left heq
    refine allCalls_await.2 fun password hpassword => ?_
    rw [← eq_of_changed_eq_some hpassword, ← hnew]
    rfl
  · trivial

/-- A new account gets the hash of the password that it is created with. -/
lemma allCalls_createUser {u : User} {salt : String}
    (h : u.password.map (rt.hash · salt) = (f.newPassword rt).map (rt.hash · f.salt)) :
    (createUser rt salt u).AllCalls (f.Stores rt) := by
  unfold createUser
  split_ifs with hvalid
  · exact AllCalls.bind (allCalls_await.2 h) fun _ => trivial
  · trivial

/-- What is done with a new account, once it is inserted, is done with the document stored. -/
lemma allCalls_createUser_bind {α : Type} {u : User} {salt : String} {k : UserDoc → Accounts α}
    (h : u.password.map (rt.hash · salt) = (f.newPassword rt).map (rt.hash · f.salt))
    (hk : (k ⟨u.hashed rt salt, u.hashed rt salt⟩).AllCalls (f.Stores rt)) :
    ((createUser rt salt u).bind k).AllCalls (f.Stores rt) := by
  unfold createUser
  split_ifs with hvalid
  · exact ⟨h, fun r => by cases r <;> first | exact hk | trivial⟩
  · trivial

/-- A lookup by e-mail or username writes nothing. -/
lemma allCalls_findUserByEmailOrUsername (email username : Js) (now : Time) :
    (findUserByEmailOrUsername rt email username now).AllCalls (f.Stores rt) :=
  (allCalls_ofExcept _).bind fun p => allCalls_findOneUser p true now

end Writes

/-- The password of a new account is the one that was sent. -/
lemma password_of_newLocalUser {rt : AuthRuntime} {req : RegisterRequest} {body : RegisterBody}
    {username : String} {draft : User} (h : newLocalUser rt req body username = .ok draft) :
    draft.password = (rt.castString body.password).toOption.join := by
  obtain ⟨fullname, -, h⟩ := exists_of_bind_eq_ok h
  obtain ⟨email, -, h⟩ := exists_of_bind_eq_ok h
  obtain ⟨password, hcast, h⟩ := exists_of_bind_eq_ok h
  obtain rfl := Except.ok.inj h
  cases htext : rt.castString body.password with
  | error err => simp [htext, Except.mapError] at hcast
  | ok text =>
    obtain rfl : text = password := by simpa [htext, Except.mapError] using hcast
    rfl

/-- A registration writes the password of its body. -/
lemma allCalls_registerUser (rt : AuthRuntime) (cfg : AuthConfig) (req : RegisterRequest) :
    (registerUser rt cfg req).AllCalls ((AccountFlow.request (.register req)).Stores rt) := by
  unfold registerUser
  split
  · trivial
  · rename_i body hbody
    refine (allCalls_findUserByEmailOrUsername _ _ _).bind fun existedUser => ?_
    split
    · trivial
    · split
      · rename_i username husername
        cases hdraft : newLocalUser rt req body username with
        | error err => trivial
        | ok draft =>
          have hpassword : draft.password.map (rt.hash · req.salt) =
              ((AccountFlow.request (.register req)).newPassword rt).map
                (rt.hash · req.salt) := by
            rw [password_of_newLocalUser hdraft, AccountFlow.newPassword, hbody]
            rfl
          refine allCalls_createUser_bind hpassword ?_
          have hanswer : ∀ (user : UserDoc), (answerRegistration user req.now).AllCalls
              ((AccountFlow.request (.register req)).Stores rt) := by
            refine fun user => (allCalls_findOneUser _ _ _).bind fun createdUser => ?_
            cases createdUser <;> trivial
          split_ifs
          · exact (allCalls_saveUser (.inl rfl)).bind fun _ => hanswer _
          · exact hanswer _
      · trivial

/-- A login writes nothing. -/
lemma allCalls_loginUser (rt : AuthRuntime) (req : LoginRequest) {f : AccountFlow} :
    (loginUser rt req).AllCalls (f.Stores rt) := by
  unfold loginUser
  split
  · trivial
  · split_ifs
    · trivial
    · refine (allCalls_findUserByEmailOrUsername _ _ _).bind fun found => ?_
      cases found with
      | none => trivial
      | some doc =>
        refine (allCalls_ofExcept _).bind fun isPasswordValid => ?_
        split_ifs
        · trivial
        · trivial
        · exact (allCalls_findOneUser _ _ _).bind fun _ => trivial

/-- A verification writes no password. -/
lemma allCalls_verifyUser (rt : AuthRuntime) (req : VerifyRequest) {f : AccountFlow} :
    (verifyUser rt req).AllCalls (f.Stores rt) := by
  unfold verifyUser
  split
  · trivial
  · refine (allCalls_ofExcept _).bind fun userid => ?_
    refine allCalls_findOneUser_bind fun found => ?_
    cases found with
    | none => trivial
    | some u =>
      simp only [Option.map_some]
      split_ifs
      · trivial
      · trivial
      · exact (allCalls_saveUnvalidated rfl).bind fun _ => trivial

/-- A request for a reset link writes no password. -/
lemma allCalls_forgotPassword (rt : AuthRuntime) (req : ForgotRequest) {f : AccountFlow} :
    (forgotPassword rt req).AllCalls (f.Stores rt) := by
  unfold forgotPassword
  split
  · trivial
  · split_ifs
    · trivial
    · refine (allCalls_ofExcept _).bind fun text => ?_
      split_ifs
      · trivial
      · refine allCalls_findOneUser_bind fun found => ?_
        cases found with
        | none => trivial
        | some u => exact (allCalls_saveUnvalidated rfl).bind fun _ => trivial

/-- A reset writes the password of its body. -/
lemma allCalls_resetPassword (rt : AuthRuntime) (req : ResetRequest) :
    (resetPassword rt req).AllCalls ((AccountFlow.request (.reset req)).Stores rt) := by
  unfold resetPassword
  split
  · trivial
  · rename_i newPassword hpassword
    split_ifs
    · trivial
    · refine (allCalls_ofExcept _).bind fun text => ?_
      split_ifs
      · trivial
      · unfold findUserByForgotToken
        split_ifs
        · trivial
        · refine (allCalls_findOneUser _ _ _).bind fun found => ?_
          cases found with
          | none => trivial
          | some doc =>
            cases hcast : rt.castString newPassword with
            | error err => trivial
            | ok password =>
              refine (allCalls_saveUser (.inr ⟨?_, rfl⟩)).bind fun _ => trivial
              simp [AccountFlow.newPassword, hpassword, hcast, Except.toOption, UserDoc.assign]

/-- A change writes the password of its body. -/
lemma allCalls_changePassword (rt : AuthRuntime) (req : ChangeRequest) :
    (changePassword rt req).AllCalls ((AccountFlow.change req).Stores rt) := by
  unfold changePassword
  refine (allCalls_findOneUser _ _ _).bind fun found => ?_
  split
  · trivial
  · rename_i body hbody
    split_ifs
    · trivial
    · cases found with
      | none => trivial
      | some doc =>
        refine (allCalls_ofExcept _).bind fun ispassword => ?_
        split_ifs
        · trivial
        · cases hcast : rt.castString body.newPassword with
          | error err => trivial
          | ok password =>
            refine (allCalls_saveUser (.inr ⟨?_, rfl⟩)).bind fun _ => trivial
            simp [AccountFlow.newPassword, hbody, hcast, Except.toOption, UserDoc.assign]

/-- Looking for a username writes nothing. -/
lemma allCalls_tryUsernames (rt : AuthRuntime) (seed : String) (now : Time) (attempt left : ℕ)
    {f : AccountFlow} : (tryUsernames rt seed now attempt left).AllCalls (f.Stores rt) := by
  induction left generalizing attempt with
  | zero => trivial
  | succ left ih =>
    refine AllCalls.bind (allCalls_await.2 trivial) fun taken => ?_
    split
    · exact ih (attempt + 1)
    · trivial

/-- A Google sign-in writes no password. -/
lemma allCalls_googleAuth (rt : AuthRuntime) (cfg : AuthConfig) (req : GoogleRequest) :
    (googleAuth rt cfg req).AllCalls ((AccountFlow.request (.google req)).Stores rt) := by
  unfold googleAuth
  split
  · trivial
  · rename_i payload address hauth
    refine AllCalls.bind ?_ fun user => (allCalls_findOneUser _ _ _).bind fun _ => trivial
    refine (allCalls_findOneUser _ _ _).bind fun found => ?_
    cases found with
    | some user => trivial
    | none =>
      refine allCalls_findOneUser_bind fun byEmail => ?_
      cases byEmail with
      | some u => exact (allCalls_saveUnvalidated rfl).bind fun _ => trivial
      | none =>
        exact (allCalls_tryUsernames rt _ _ _ _).bind fun username => allCalls_createUser rfl

/-- **What a request can write to a password** is the hash of the one it is to set. -/
theorem allCalls_handler (rt : AuthRuntime) (cfg : AuthConfig) (f : AccountFlow) :
    (f.handler rt cfg).AllCalls (f.Stores rt) := by
  cases f with
  | change req => exact allCalls_changePassword rt req
  | request req =>
    cases req with
    | register req => exact allCalls_registerUser rt cfg req
    | login req => exact allCalls_loginUser rt req
    | verify req => exact allCalls_verifyUser rt req
    | forgot req => exact allCalls_forgotPassword rt req
    | reset req => exact allCalls_resetPassword rt req
    | google req => exact allCalls_googleAuth rt cfg req

/-! ## What the documents hold -/

section Hashed

variable {rt : AuthRuntime} {cfg : AuthConfig} {requests : ι → AccountFlow}
  {h : List (AccountEvent ι)} {s s' : UserStore}

/-- Every document holds a hash of the password in force, and none where there is none. -/
def Hashed (rt : AuthRuntime) (requests : ι → AccountFlow) (h : List (AccountEvent ι))
    (s : UserStore) : Prop :=
  ∀ u ∈ s, ∃ salt, u.password = (lastPassword rt requests u.id h).map (rt.hash · salt)

/-- **One call** keeps the documents so, if it writes what its request is to set. -/
theorem Hashed.call {i : ι} {o : UserOp} {r : Except Thrown o.Resp} (hs : Hashed rt requests h s)
    (hstores : (requests i).Stores rt o) (hexec : execUser o s = (r, s')) :
    Hashed rt requests (h ++ [.call i o r]) s' := by
  -- A document that the call leaves alone holds what it held.
  have hkeep : ∀ u ∈ s, notePassword ⟨o, r⟩ ≠ some u.id → ∃ salt,
      u.password = (lastPassword rt requests u.id (h ++ [.call i o r])).map (rt.hash · salt) := by
    intro u hu hnote
    rw [lastPassword_of_not_written hnote]
    exact hs u hu
  cases o with
  | findOne p withPassword =>
    obtain ⟨rfl, rfl⟩ := Prod.mk.inj hexec
    exact fun u hu => hkeep u hu (by simp [notePassword])
  | «exists» p =>
    obtain ⟨rfl, rfl⟩ := Prod.mk.inj hexec
    exact fun u hu => hkeep u hu (by simp [notePassword])
  | insert u =>
    simp only [execUser] at hexec
    cases hins : s.insert u with
    | none =>
      rw [hins] at hexec
      obtain ⟨rfl, rfl⟩ := Prod.mk.inj hexec
      exact fun u hu => hkeep u hu (by simp [notePassword])
    | some t =>
      rw [hins] at hexec
      obtain ⟨rfl, rfl⟩ := Prod.mk.inj hexec
      intro v hv
      rcases (Indexed.mem_insert hins).1 hv with hv | rfl
      · refine hkeep v hv fun hnote => ?_
        exact Indexed.key_ne_of_insert hins hv (Option.some.inj hnote).symm
      · rw [lastPassword_of_written rfl]
        exact ⟨_, hstores⟩
  | update account changes =>
    cases r with
    | error err =>
      obtain rfl := exec_eq_of_noteSave hexec rfl (by simp)
      exact fun u hu => hkeep u hu (by simp [notePassword])
    | ok =>
      obtain ⟨u, hu, rfl, hmem⟩ := exec_update_eq_ok hexec
      intro v hv
      rcases (hmem v).1 hv with ⟨hv, hne⟩ | rfl
      · refine hkeep v hv fun hnote => hne ?_
        simp only [notePassword, Option.ite_none_right_eq_some] at hnote
        exact (Option.some.inj hnote.2).symm
      · cases hchanges : changes.password with
        | none =>
          have hkept := hkeep u hu (by simp [notePassword, hchanges])
          simpa [User.set, hchanges] using hkept
        | some password =>
          have hwritten : lastPassword rt requests (u.set changes).id
              (h ++ [.call i (.update u.id changes) (.ok ())]) = (requests i).newPassword rt :=
            lastPassword_of_written (by simp [notePassword, hchanges, User.set])
          rw [hwritten]
          refine ⟨(requests i).salt, ?_⟩
          simpa [User.set, hchanges] using hstores password hchanges

variable [DecidableEq ι]

/-- **Every document holds a hash of the password last written**, in every interleaving. -/
theorem hashed_of_run {es : List (AccountEvent ι)} {w : AccountWorld ι}
    (hrun : Run (AccountStep rt cfg requests) (.idle (.empty userIndexes)) es w) :
    Hashed rt requests es w.store := by
  refine hrun.induction_from (P := fun es w => Hashed rt requests es w.store) ?_ ?_
  · exact fun u hu => absurd hu Indexed.not_mem_empty
  · intro es w e w' hpre hs hstep
    cases hstep with
    | start =>
      intro u hu
      rw [lastPassword_start]
      exact hs u hu
    | @call i o k r s' hi hexec =>
      have hstarts : ∀ i s p, StartsAccount rt cfg requests i s p → p.Spec
          (fun _ _ => True) (fun _ o => (requests i).Stores rt o) (fun h' _ =>
            ∃ added, h' = [] ++ added ∧ ∀ a ∈ added, (requests i).Stores rt a.1) [] := by
        rintro i _ _ rfl
        exact (allCalls_handler rt cfg (requests i)).spec fun _ _ ho => ho
      exact hs.call (hpre.permits hstarts (fun _ _ _ _ _ => trivial) hi) hexec

end Hashed

/-! ## Logins -/

/-- What bcrypt does: a hash is not empty, a password passes against it if bcrypt does not tell it
from the one that was hashed, and what is no string is refused. -/
structure Bcrypt (rt : AuthRuntime) (sameKey : String → String → Bool) : Prop where
  /-- A hash is not empty. -/
  hash_ne : ∀ password salt, rt.hash password salt ≠ ""
  /-- The comparison. -/
  compare_hash : ∀ entered password salt,
    rt.compare (.str entered) (rt.hash password salt) = .ok (sameKey entered password)
  /-- The refusal. -/
  compare_other : ∀ entered hash, (∀ text, entered ≠ .str text) →
    rt.compare entered hash ≠ .ok true

/-- A lookup answers. -/
def AnswersLookup : (o : UserOp) → Except Thrown o.Resp → Prop
  | .findOne _ _, r => ∃ found, r = .ok found
  | .exists _, _ => True
  | .insert _, _ => True
  | .update _ _, _ => True

/-- How a login ends, given its calls: with a session of the account that its first lookup has
found, if this is verified and the password passes. -/
def LoginEnds (rt : AuthRuntime) (password : Js) (h : List (Answered UserOp.Resp Thrown))
    (out : Except Thrown Response) : Prop :=
  ∀ k, (∃ res, out = .ok res ∧ k ∈ res.sessions) ↔
    ∃ p u, (⟨.findOne p true, .ok (some u)⟩ : Answered UserOp.Resp Thrown) ∈ h ∧
      u.comparePassword rt password = .ok true ∧ u.isVerified = true ∧ k = u.generateAccessToken

section Login

variable {rt : AuthRuntime} {req : LoginRequest} {body : LoginBody}

/-- A pure part goes on with its result. -/
lemma spec_ofExcept_ok {α : Type} {a : α} {A : (o : UserOp) → Except Thrown o.Resp → Prop}
    {I : List (Answered UserOp.Resp Thrown) → UserOp → Prop}
    {Q : List (Answered UserOp.Resp Thrown) → Except Thrown α → Prop}
    {h : List (Answered UserOp.Resp Thrown)} :
    (ofExcept (.ok a)).Spec A I Q h ↔ Q h (.ok a) := Iff.rfl

/-- A lookup goes on with what it has found. -/
lemma spec_findOneUser {p : User → Bool} {withPassword : Bool} {now : Time}
    {I : List (Answered UserOp.Resp Thrown) → UserOp → Prop}
    {Q : List (Answered UserOp.Resp Thrown) → Except Thrown (Option UserDoc) → Prop}
    {h : List (Answered UserOp.Resp Thrown)} (hI : I h (.findOne p withPassword))
    (hQ : ∀ found : Option User, Q (h ++ [⟨.findOne p withPassword, .ok found⟩])
      (.ok (found.map (UserDoc.ofLoaded · now)))) :
    (findOneUser p withPassword now).Spec AnswersLookup I Q h := by
  refine ⟨hI, fun r hr => ?_⟩
  obtain ⟨found, rfl⟩ := hr
  exact hQ found

/-- A login that throws issues no session. -/
lemma loginEnds_error {password : Js} {h : List (Answered UserOp.Resp Thrown)} {err : Thrown}
    (hnone : ∀ p u, (⟨.findOne p true, .ok (some u)⟩ : Answered UserOp.Resp Thrown) ∈ h →
      ¬(u.comparePassword rt password = .ok true ∧ u.isVerified = true)) :
    LoginEnds rt password h (.error err) := by
  intro k
  constructor
  · rintro ⟨res, hres, -⟩
    cases hres
  · rintro ⟨p, u, hfound, hpasses, hverified, -⟩
    exact absurd ⟨hpasses, hverified⟩ (hnone p u hfound)

/-- The lookup of a login with the password is its first one. -/
lemma eq_of_found {p p' q : User → Bool} {u u' : User} {r : Except Thrown (Option User)}
    (h : (⟨.findOne p' true, .ok (some u')⟩ : Answered UserOp.Resp Thrown) ∈
      ([⟨.findOne p true, .ok (some u)⟩, ⟨.findOne q false, r⟩] :
        List (Answered UserOp.Resp Thrown))) : u' = u := by
  simp only [List.mem_cons, List.not_mem_nil, or_false] at h
  rcases h with h | h
  · obtain ⟨⟩ := h
    rfl
  · obtain ⟨⟩ := h

/-- **A login** looks the account up, and judges the password by what it has read. -/
theorem spec_loginUser (hbody : req.body = some body) :
    (loginUser rt req).Spec AnswersLookup (fun _ _ => True) (LoginEnds rt body.password) [] := by
  unfold loginUser
  rw [hbody]
  simp only [bind_eq]
  split_ifs
  · exact loginEnds_error fun p u hfound => by cases hfound
  · unfold findUserByEmailOrUsername
    cases emailOrUsername rt body.email body.username with
    | error err => exact loginEnds_error fun p u hfound => by cases hfound
    | ok p =>
      refine Spec.bind (Spec.bind (spec_ofExcept_ok.2 (spec_findOneUser trivial fun found => ?_)))
      cases found with
      | none => exact loginEnds_error fun p u hfound => by simp at hfound
      | some u =>
        have hfailed : ∀ err : Thrown,
            ¬(u.comparePassword rt body.password = .ok true ∧ u.isVerified = true) →
            LoginEnds rt body.password [⟨.findOne p true, .ok (some u)⟩] (.error err) := by
          intro err hnot
          refine loginEnds_error fun p' u' hfound => ?_
          obtain ⟨⟩ := List.mem_singleton.1 hfound
          exact hnot
        change Spec _ _ _ _ (Prog.bind (ofExcept (u.comparePassword rt body.password)) _)
        cases hpasses : u.comparePassword rt body.password with
        | error err => exact hfailed _ fun hboth => by rw [hpasses] at hboth; cases hboth.1
        | ok isPasswordValid =>
          refine Spec.bind (spec_ofExcept_ok.2 ?_)
          change Spec _ _ _ _ (if _ then _ else if u.isVerified = false then _ else _)
          split_ifs with hvalid hverified
          · exact hfailed _ fun hboth => by rw [hpasses, hvalid] at hboth; cases hboth.1
          · exact hfailed _ fun hboth => by rw [hverified] at hboth; cases hboth.2
          · refine Spec.bind (spec_findOneUser trivial fun loggedInUser k => ?_)
            constructor
            · rintro ⟨res, hres, hk⟩
              obtain rfl := Except.ok.inj hres
              refine ⟨p, u, by simp, ?_, by simpa using hverified, mem_sessions_signIn.1 hk⟩
              simpa using hpasses.trans (congrArg _ (by simpa using hvalid))
            · rintro ⟨p', u', hfound, -, -, rfl⟩
              rw [eq_of_found hfound]
              exact ⟨_, rfl, mem_sessions_signIn.2 rfl⟩

/-- A password passes against the hash of one that bcrypt does not tell it from. -/
lemma comparePassword_iff {sameKey : String → String → Bool} (hbcrypt : Bcrypt rt sameKey)
    {u : User} {entered : Js} {salt : String} {last : Option String}
    (hpassword : u.password = last.map (rt.hash · salt)) :
    u.comparePassword rt entered = .ok true ↔ ∃ text password, entered = .str text ∧ text ≠ "" ∧
      last = some password ∧ sameKey text password = true := by
  unfold User.comparePassword
  rw [hpassword]
  cases last with
  | none => simp
  | some password =>
    simp only [Option.map_some, hbcrypt.hash_ne, false_or]
    by_cases hstring : ∃ text, entered = .str text
    · obtain ⟨text, rfl⟩ := hstring
      split_ifs with hempty
      · have htext : text = "" := by simpa [Js.truthy] using hempty
        simp [htext]
      · have htext : text ≠ "" := by simpa [Js.truthy] using hempty
        simp [hbcrypt.compare_hash, htext]
    · have hother : ∀ text, entered ≠ .str text := fun text heq => hstring ⟨text, heq⟩
      split_ifs <;> simp [hother, hbcrypt.compare_other entered _ hother]

variable [DecidableEq ι] {cfg : AuthConfig} {requests : ι → AccountFlow}
  {es : List (AccountEvent ι)} {w : AccountWorld ι}

/-- An account that was looked up with its password held a hash of the one in force then. -/
lemma hashed_of_found (hrun : Run (AccountStep rt cfg requests) (.idle (.empty userIndexes)) es w)
    {i : ι} {p : User → Bool} {u : User} {pre post : List (AccountEvent ι)}
    (hes : es = pre ++ .call i (.findOne p true) (.ok (some u)) :: post) :
    ∃ salt, u.password = (lastPassword rt requests u.id pre).map (rt.hash · salt) := by
  subst hes
  obtain ⟨w₁, hpre, hrest⟩ := run_append_iff.1 hrun
  obtain ⟨w₂, hstep, -⟩ := run_cons_iff.1 hrest
  cases hstep with
  | call _ hexec =>
    have hfound : (findUser p w₁.store).map (·.select true) = some u :=
      Except.ok.inj (Prod.mk.inj hexec).1
    obtain ⟨v, hv, rfl⟩ := Option.map_eq_some_iff.1 hfound
    exact hashed_of_run hpre v (findUser_eq_some hv).1

/-- **A login signs an account in exactly when it carries the password in force**: in every
interleaving, it ends with a session exactly when the account that it has looked up is verified,
and the password entered is, as far as bcrypt can tell, the one last written to this account before
the lookup. -/
theorem login_iff_of_run {sameKey : String → String → Bool} (hbcrypt : Bcrypt rt sameKey)
    (hrun : Run (AccountStep rt cfg requests) (.idle (.empty userIndexes)) es w) {i : ι}
    (hi : requests i = .request (.login req)) (hbody : req.body = some body)
    {out : Except Thrown Response} (hout : w.todo i = some (.done out)) (k : AccessToken) :
    (∃ res, out = .ok res ∧ k ∈ res.sessions) ↔
      ∃ pre p u post, es = pre ++ .call i (.findOne p true) (.ok (some u)) :: post ∧
        u.isVerified = true ∧ k = u.generateAccessToken ∧
        ∃ entered password, body.password = .str entered ∧ entered ≠ "" ∧
          lastPassword rt requests u.id pre = some password ∧ sameKey entered password = true := by
  have hstarts : ∀ j s p, StartsAccount rt cfg requests j s p →
      p.Spec AnswersLookup (fun _ _ => True)
        (fun h out => j = i → LoginEnds rt body.password h out) [] := by
    rintro j _ _ rfl
    by_cases hj : j = i
    · subst hj
      rw [hi]
      exact (spec_loginUser hbody).mono fun h out hends _ => hends
    · exact ((allCalls_handler rt cfg (requests j)).spec fun _ _ _ => trivial).mono
        fun h out _ heq => absurd heq hj
  have hanswers : ∀ o s r s', PerformsUser o s r s' → AnswersLookup o r := by
    intro o s r s' hexec
    cases o with
    | findOne p withPassword => exact ⟨_, (Prod.mk.inj hexec).1.symm⟩
    | «exists» p => trivial
    | insert u => trivial
    | update account changes => trivial
  rw [hrun.ends hstarts hanswers hout rfl k]
  constructor
  · rintro ⟨p, u, hfound, hpasses, hverified, rfl⟩
    obtain ⟨pre, post, hes⟩ := List.append_of_mem (mem_callsOf.1 hfound)
    obtain ⟨salt, hpassword⟩ := hashed_of_found hrun hes
    exact ⟨pre, p, u, post, hes, hverified, rfl, (comparePassword_iff hbcrypt hpassword).1 hpasses⟩
  · rintro ⟨pre, p, u, post, hes, hverified, rfl, hpasses⟩
    obtain ⟨salt, hpassword⟩ := hashed_of_found hrun hes
    refine ⟨p, u, mem_callsOf.2 (by simp [hes]), ?_, hverified, rfl⟩
    exact (comparePassword_iff hbcrypt hpassword).2 hpasses

end Login

/-! ## A changed password -/

/-- How a hash of bcrypt begins: with the version, the cost and a salt of 22 characters. -/
def bcryptPrefix (salt : String) : List Char := "$2b$10$".toList ++ salt.toList.takeD 22 '.'

/-- The hash comes after 29 characters. -/
lemma length_bcryptPrefix (salt : String) : (bcryptPrefix salt).length = 29 := by
  have hcost : "$2b$10$".toList.length = 7 := by decide
  have hsalt : (salt.toList.takeD 22 '.').length = 22 := List.takeD_length ..
  exact List.length_append.trans (congrArg₂ (· + ·) hcost hsalt)

/-- The sample deployment, with salted hashes. -/
def saltedRuntime : AuthRuntime :=
  { sampleRuntime with
    hash := fun password salt => .ofList (bcryptPrefix salt ++ password.toList)
    compare := fun entered hash => match entered with
      | .str password => .ok (hash.toList.drop 29 = password.toList)
      | _ => .error ⟨"Illegal arguments", none⟩ }

/-- Its hash tells every password from every other, whatever the salt is. -/
lemma bcrypt_saltedRuntime : Bcrypt saltedRuntime fun entered password => entered = password where
  hash_ne password salt h := by
    have hnil : bcryptPrefix salt ++ password.toList = [] :=
      String.toList_ofList.symm.trans (congrArg String.toList h)
    have hlength := length_bcryptPrefix salt
    rw [(List.append_eq_nil_iff.1 hnil).1] at hlength
    cases hlength
  compare_hash entered password salt := by
    have hdrop : (saltedRuntime.hash password salt).toList.drop 29 = password.toList := by
      change (String.ofList (bcryptPrefix salt ++ password.toList)).toList.drop 29 = _
      rw [String.toList_ofList, List.drop_left' (length_bcryptPrefix salt)]
    change Except.ok (decide (_ = entered.toList)) = _
    rw [hdrop]
    simp only [String.toList_inj, eq_comm]
  compare_other entered hash hother := by
    cases entered with
    | str text => exact absurd rfl (hother text)
    | _ => simp [saltedRuntime]

/-- A deployment that verifies new accounts by itself. -/
def openConfig : AuthConfig := ⟨"", true⟩

/-- `ada` registers, changes her password, and logs in with the new one. -/
def changeRequests (i : ℕ) : AccountFlow :=
  if i = 0 then .request adaRegisters
  else if i = 1 then
    .change ⟨0, some ⟨.str "correct-horse", .str "battery-staple"⟩, 0, "salt"⟩
  else .request (.login ⟨some ⟨.str "ada@example.test", .undefined, .str "battery-staple"⟩, 0⟩)

/-- The sessions that a request has issued. -/
def sessionsOf : Option (Accounts Response) → List AccessToken
  | some (.ret res) => res.sessions
  | _ => []

/-- The requests in this order, one after another. -/
def changeRun : AccountWorld ℕ :=
  [0, 0, 0, 0, 0, 1, 1, 1, 2, 2, 2].foldl
    (Shared.advance execUser fun i => (changeRequests i).handler saltedRuntime openConfig)
    (.idle (.empty userIndexes))

/-- The law, for the login after the change. -/
theorem login_iff_of_run_changed :
    ∃ es, Run (AccountStep saltedRuntime openConfig changeRequests) (.idle (.empty userIndexes)) es
        changeRun ∧
      ∃ pre p u post, es = pre ++ .call 2 (.findOne p true) (.ok (some u)) :: post ∧
        lastPassword saltedRuntime changeRequests u.id pre = some "battery-staple" := by
  have hperforms : ∀ o s, PerformsUser o s (execUser o s).1 (execUser o s).2 := fun _ _ => rfl
  have hstarts : ∀ i s, StartsAccount saltedRuntime openConfig changeRequests i s
      ((changeRequests i).handler saltedRuntime openConfig) := fun _ _ => rfl
  obtain ⟨es, hrun⟩ : ∃ es, Run (AccountStep saltedRuntime openConfig changeRequests)
      (.idle (.empty userIndexes)) es changeRun :=
    ⟨_, run_schedule hperforms hstarts _ _⟩
  have hsession : ⟨0, "ada@example.test", "ada"⟩ ∈ sessionsOf (changeRun.todo 2) := by
    decide +kernel
  cases hdone : changeRun.todo 2 with
  | none => simp [hdone, sessionsOf] at hsession
  | some p =>
    cases p with
    | fail err => simp [hdone, sessionsOf] at hsession
    | call o k => simp [hdone, sessionsOf] at hsession
    | ret res =>
      have hout : changeRun.todo 2 = some (.done (.ok res)) := hdone
      rw [hdone] at hsession
      obtain ⟨pre, p, u, post, hes, -, -, entered, password, hentered, -, hlast, hsame⟩ :=
        (login_iff_of_run bcrypt_saltedRuntime hrun rfl rfl hout _).1 ⟨res, rfl, hsession⟩
      obtain rfl := Js.str.inj hentered
      exact ⟨es, hrun, pre, p, u, post, hes, by rw [hlast, of_decide_eq_true hsame]⟩

end WatchTower
