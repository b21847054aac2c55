import Mathlib.Data.Nat.Digits.Defs
import WatchTower.Auth.UserController

set_option relaxedAutoImplicit false
set_option autoImplicit false

/-!
# Google sign-in

`controllers/googleAuth.controller.js`: the checks on the credential, the two lookups (by `sub`,
then by e-mail), and the account that is signed in: the one bound to the `sub`, the one with the
e-mail, which is bound to the `sub` now, or a new one.

What `verifyIdToken` makes of the credential is part of the request.

## Main definitions

* `WatchTower.TokenPayload`, `WatchTower.GoogleRequest` — a verified token, and a request.
* `WatchTower.authenticate` — the checks that precede the first lookup.
* `WatchTower.allocateUsername`, `WatchTower.googleAuth` — the functions of the source.
* `WatchTower.linked` — an existing account as it is bound to a `sub`.

## Main results

* `WatchTower.run_googleAuth_of_error`, `WatchTower.run_googleAuth_of_sub`,
  `WatchTower.run_googleAuth_of_email`, `WatchTower.run_googleAuth_of_new` — the outcomes.
-/

namespace WatchTower

open Documents Transition Transition.Prog

/-- The claims of a Google ID token that the handler reads. -/
structure TokenPayload where
  /-- `iss`. -/
  iss : String
  /-- `sub`. -/
  sub : String
  /-- `email`. -/
  email : Option String
  /-- `email_verified`. -/
  emailVerified : Option Bool
  /-- `name`. -/
  name : Option String
  /-- `picture`. -/
  picture : Option String
  deriving DecidableEq

/-- A Google sign-in. -/
structure GoogleRequest where
  /-- The field `credential` of `req.body`, nothing when the body was not parsed. -/
  credential : Option Js
  /-- What verifying the credential gives: an error, or the payload of the ticket. -/
  ticket : Except JsError (Option TokenPayload)
  /-- `Date.now()`. -/
  now : Time
  /-- The `ObjectId` drawn. -/
  newId : ℕ

/-- `VALID_ISSUERS`. -/
def validIssuers : List String := ["accounts.google.com", "https://accounts.google.com"]

/-- `text || fallback`, nothing when neither is there. -/
def nonempty (text : Option String) : Option String := text.filter (· ≠ "")

/-- The checks before the first lookup: the payload to trust, with its e-mail address. -/
def authenticate (cfg : AuthConfig) (req : GoogleRequest) :
    Except Thrown (TokenPayload × String) :=
  if cfg.googleClientId = "" then
    .error (.api 501 "Google sign-in is not configured on this server")
  else
    match req.credential with
    | none => .error (.js (destructureError "credential"))
    | some (.str credential) =>
      if credential = "" then .error (.api 400 "Google credential is required")
      else
        match req.ticket with
        | .error _ => .error (.api 401 "Google sign-in failed. Please try again.")
        | .ok none => .error (.api 401 "Google sign-in failed. Please try again.")
        | .ok (some payload) =>
          if validIssuers.contains payload.iss = false then
            .error (.api 401 "Google sign-in failed. Please try again.")
          else
            match nonempty payload.email with
            | some email =>
              if payload.emailVerified = some true then .ok (payload, email)
              else .error (.api 401 "Your Google account does not have a verified email address")
            | none => .error (.api 401 "Your Google account does not have a verified email address")
    | some _ => .error (.api 400 "Google credential is required")

/-! ## New accounts -/

/-- The part of an address before the first `@`. -/
def mailbox (email : String) : String := .ofList (email.toList.takeWhile (· ≠ '@'))

/-- Whether a character stays in a username. -/
def isUsernameChar (c : Char) : Bool := ('a' ≤ c && c ≤ 'z') || ('0' ≤ c && c ≤ '9')

/-- The name that usernames are tried from: at least three characters. -/
def usernameSeed (rt : AuthRuntime) (email : String) : String :=
  let letters := (rt.toLowerCase (mailbox email)).toList.filter isUsernameChar
  let base := if letters = [] then "user" else .ofList letters
  if 3 ≤ base.length then base else base ++ "user"

/-- The digits of `toString(36)`. -/
def base36Digits : List Char := "0123456789abcdefghijklmnopqrstuvwxyz".toList

/-- `value.toString(36)`. -/
def base36 (t : Time) : String :=
  if t = 0 then "0"
  else
    (if t < 0 then "-" else "") ++
      .ofList ((Nat.digits 36 t.natAbs).reverse.map fun d => base36Digits.getD d '0')

/-- Whether an account has this username, or would have it once stored. -/
def User.hasUsername (rt : AuthRuntime) (username : String) (u : User) : Bool :=
  u.username = rt.normalize username

/-- The loop of `allocateUsername` from an attempt on, with the attempts that are left. -/
def tryUsernames (rt : AuthRuntime) (seed : String) (now : Time) : ℕ → ℕ → Accounts String
  | _, 0 => return seed ++ base36 now
  | attempt, left + 1 => do
    let candidate := if attempt = 0 then seed else seed ++ toString attempt
    let taken : Bool ← await (UserOp.exists (User.hasUsername rt candidate))
    if taken then tryUsernames rt seed now (attempt + 1) left else return candidate

/-- `allocateUsername`. -/
def allocateUsername (rt : AuthRuntime) (email : String) (now : Time) : Accounts String :=
  tryUsernames rt (usernameSeed rt email) now 0 20

/-- The document of a new Google account, before it is validated. -/
def newGoogleUser (rt : AuthRuntime) (req : GoogleRequest) (payload : TokenPayload)
    (email username : String) : User where
  id := req.newId
  username := rt.normalize username
  fullname := rt.trim ((nonempty payload.name).getD (mailbox email))
  email := rt.normalize email
  password := none
  provider := .google
  googleId := some payload.sub
  forgotPasswordToken := none
  forgotPasswordExpire := none
  isVerified := true
  otp := none
  otpExpire := some (User.defaultOtpExpire req.now)
  avatar := payload.picture.getD ""

/-! ## The handler -/

/-- An existing account as it is bound to a `sub`. -/
def User.bind (payload : TokenPayload) (u : User) : User :=
  { u with
    googleId := some payload.sub
    isVerified := true
    avatar := if u.avatar = "" then (nonempty payload.picture).getD u.avatar else u.avatar }

/-- Whether an account is bound to a `sub`. -/
def User.hasGoogleId (sub : String) (u : User) : Bool := u.googleId = some sub

/-- The account that signs in, by its address in lower case. -/
def resolveAccount (rt : AuthRuntime) (req : GoogleRequest) (payload : TokenPayload)
    (email : String) : Accounts UserDoc := do
  let found : Option UserDoc ← findOneUser (User.hasGoogleId payload.sub) false req.now
  match found with
  | some user => return user
  | none =>
    let byEmail : Option UserDoc ← findOneUser (User.hasEmail rt email) false req.now
    match byEmail with
    | some byEmail =>
      let user := byEmail.assign (User.bind payload)
      let () ← saveUnvalidated user
      return user
    | none =>
      let username : String ← allocateUsername rt email req.now
      createUser rt "" (newGoogleUser rt req payload email username)

/-- `POST /api/auth/google`. -/
def googleAuth (rt : AuthRuntime) (cfg : AuthConfig) (req : GoogleRequest) :
    Accounts Response := do
  match authenticate cfg req with
  | .error err => throw err
  | .ok (payload, address) =>
    let email := rt.toLowerCase address
    let user : UserDoc ← resolveAccount rt req payload email
    let safeUser : Option UserDoc ← findUserById user.user.id req.now
    return signIn 200 "Signed in with Google successfully" user.user (safeUser.map (·.user))

/-! ## Outcomes -/

section Outcomes

variable {rt : AuthRuntime} {cfg : AuthConfig} {req : GoogleRequest} {payload : TokenPayload}
  {address : String} {s t : UserStore} {u : User}

/-- Looking for a username writes nothing, and finds one. -/
lemma run_tryUsernames (rt : AuthRuntime) (seed : String) (now : Time) (attempt left : ℕ)
    (s : UserStore) :
    ∃ name, (tryUsernames rt seed now attempt left).run execUser s = (.ok name, s) := by
  induction left generalizing attempt with
  | zero => exact ⟨_, rfl⟩
  | succ left ih =>
    simp only [tryUsernames, bind_eq, run_bind, run_await, execUser]
    split_ifs
    all_goals first | exact ih (attempt + 1) | exact ⟨_, rfl⟩

/-- A sign-in from the account that signs in. -/
lemma run_googleAuth (h : authenticate cfg req = .ok (payload, address)) (doc : UserDoc)
    (hrun : (resolveAccount rt req payload (rt.toLowerCase address)).run execUser s =
      (.ok doc, t)) :
    ∃ res, (googleAuth rt cfg req).run execUser s = (.ok res, t) ∧
      res.sessions = [doc.user.generateAccessToken, doc.user.generateAccessToken] := by
  simp only [googleAuth, h, bind_eq, run_bind, hrun, findUserById, run_findOneUser]
  exact ⟨_, rfl, rfl⟩

/-- **A credential that is not accepted** changes nothing and issues no session. -/
theorem run_googleAuth_of_error {err : Thrown} (h : authenticate cfg req = .error err) :
    (googleAuth rt cfg req).run execUser s = (.error err, s) := by
  simp only [googleAuth, h, throw_eq, run_fail]

/-- **An account bound to the `sub`** is signed in as it is. -/
theorem run_googleAuth_of_sub (rt : AuthRuntime)
    (h : authenticate cfg req = .ok (payload, address))
    (hu : findUser (User.hasGoogleId payload.sub) s = some u) :
    ∃ res, (googleAuth rt cfg req).run execUser s = (.ok res, s) ∧
      res.sessions = [u.generateAccessToken, u.generateAccessToken] := by
  refine run_googleAuth h (.ofLoaded (u.select false) req.now) ?_
  simp only [resolveAccount, bind_eq, run_bind, run_findOneUser, hu, Option.map_some, pure_eq,
    run_ret]

/-- The account with the e-mail, as it is stored once it is bound. -/
def linked (payload : TokenPayload) (now : Time) (u : User) : User := (u.hydrate now).bind payload

/-- **An account with the e-mail**, if none is bound to the `sub`, is bound to it, and signed
in. -/
theorem run_googleAuth_of_email (h : authenticate cfg req = .ok (payload, address))
    (hsub : findUser (User.hasGoogleId payload.sub) s = none)
    (hu : findUser (User.hasEmail rt (rt.toLowerCase address)) s = some u) :
    ∃ res t, (googleAuth rt cfg req).run execUser s = (.ok res, t) ∧
      s.replace (linked payload req.now u) = some t ∧
      res.sessions = [u.generateAccessToken, u.generateAccessToken] := by
  have hmem : u ∈ s := (findUser_eq_some hu).1
  let doc : UserDoc := (UserDoc.ofLoaded (u.select false) req.now).assign (User.bind payload)
  obtain ⟨t, ht⟩ : ∃ t, s.replace (linked payload req.now u) = some t := by
    refine Indexed.exists_replace fun w hw hne => ?_
    have hclash : w.clash u = false :=
      Indexed.clash_eq_false hw hmem fun heq => hne (by rw [heq]; rfl)
    have hw' := findUser_eq_none_iff.1 hsub w hw
    simp_all [User.clash, linked, User.bind, User.hydrate, User.hasGoogleId]
  have hrun : (resolveAccount rt req payload (rt.toLowerCase address)).run execUser s =
      (.ok doc, t) := by
    have hsave := run_saveUnvalidated doc false hmem rfl rfl ht
    simp only [resolveAccount, bind_eq, run_bind, run_findOneUser, hsub, hu, Option.map_none,
      Option.map_some, pure_eq, run_ret]
    rw [hsave]
  obtain ⟨res, hres, hsessions⟩ := run_googleAuth h doc hrun
  exact ⟨res, t, hres, ht, hsessions⟩

/-- **With neither**, a new account is created and signed in, or the request fails. -/
theorem run_googleAuth_of_new (h : authenticate cfg req = .ok (payload, address))
    (hsub : findUser (User.hasGoogleId payload.sub) s = none)
    (hemail : findUser (User.hasEmail rt (rt.toLowerCase address)) s = none) :
    (∃ err, (googleAuth rt cfg req).run execUser s = (.error err, s)) ∨
      ∃ res name t, (googleAuth rt cfg req).run execUser s = (.ok res, t) ∧
        s.insert (newGoogleUser rt req payload (rt.toLowerCase address) name) = some t ∧
        ∀ k ∈ res.sessions, k.id = req.newId := by
  obtain ⟨name, hname⟩ := run_tryUsernames rt
    (usernameSeed rt (rt.toLowerCase address)) req.now 0 20 s
  let v := newGoogleUser rt req payload (rt.toLowerCase address) name
  have hresolve : (resolveAccount rt req payload (rt.toLowerCase address)).run execUser s =
      (createUser rt "" v).run execUser s := by
    simp only [resolveAccount, bind_eq, run_bind, run_findOneUser, hsub, hemail, Option.map_none,
      allocateUsername, hname]
    rfl
  rw [run_createUser] at hresolve
  have hfails : ∀ err, (resolveAccount rt req payload (rt.toLowerCase address)).run execUser s =
      (.error err, s) → (googleAuth rt cfg req).run execUser s = (.error err, s) := by
    intro err herr
    simp only [googleAuth, h, bind_eq, run_bind, herr]
  by_cases hvalid : v.valid = true
  · rw [if_pos hvalid] at hresolve
    cases hins : s.insert v with
    | none =>
      have hclash : s.insert (v.hashed rt "") = none := hins
      exact .inl ⟨_, hfails _ (by rw [hresolve, hclash])⟩
    | some t =>
      have hinsert : s.insert (v.hashed rt "") = some t := hins
      rw [hinsert] at hresolve
      obtain ⟨res, hres, hsessions⟩ := run_googleAuth h _ hresolve
      refine .inr ⟨res, name, t, hres, hins, fun k hk => ?_⟩
      rw [hsessions] at hk
      simp only [List.mem_cons, List.not_mem_nil, or_false, or_self] at hk
      rw [hk]
      rfl
  · rw [if_neg hvalid] at hresolve
    exact .inl ⟨_, hfails _ hresolve⟩

end Outcomes

end WatchTower
