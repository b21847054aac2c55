import WatchTower.Auth.GoogleAuth
import WatchTower.Transition.Run

set_option relaxedAutoImplicit false
set_option autoImplicit false

/-!
# Requests to the account endpoints

The requests of the account endpoints, served one after another, and what every one of them does
to the accounts: it keeps their ids, never takes a verification back, and leaves the one-time code
of an unverified account alone. Only a Google sign-in binds an account to a `sub`, and an account
that it binds is verified.

## Main definitions

* `WatchTower.errorMiddleware` — the answer to an error.
* `WatchTower.Request`, `WatchTower.serve`, `WatchTower.Served` — the requests.
* `WatchTower.User.Keeps`, `WatchTower.User.Fresh` — what a request keeps of an account, and what
  holds of a new one.

## Main results

* `WatchTower.evolves_serve` — every request keeps the accounts.
* `WatchTower.evolves_serve_local` — every request but a Google sign-in keeps their bindings too.
-/

namespace WatchTower

open Documents Transition Transition.Prog

/-- `errorMiddleware`: the answer to an error. -/
def errorMiddleware : Thrown → Response
  | .api statusCode message => .plain statusCode message
  | .js err => .plain 500 (if err.message = "" then "Internal Server Error" else err.message)

/-- The requests. -/
inductive Request
  | register (req : RegisterRequest)
  | login (req : LoginRequest)
  | verify (req : VerifyRequest)
  | forgot (req : ForgotRequest)
  | reset (req : ResetRequest)
  | google (req : GoogleRequest)

/-- The handler of a request. -/
def Request.handler (rt : AuthRuntime) (cfg : AuthConfig) : Request → Accounts Response
  | .register req => registerUser rt cfg req
  | .login req => loginUser rt req
  | .verify req => verifyUser rt req
  | .forgot req => forgotPassword rt req
  | .reset req => resetPassword rt req
  | .google req => googleAuth rt cfg req

/-- A request is served: the answer, and the collection it leaves. -/
def serve (rt : AuthRuntime) (cfg : AuthConfig) (req : Request) (s : UserStore) :
    Response × UserStore :=
  match (req.handler rt cfg).run execUser s with
  | (.ok res, t) => (res, t)
  | (.error err, t) => (errorMiddleware err, t)

/-- The collection after one request. -/
def Served (rt : AuthRuntime) (cfg : AuthConfig) (s : UserStore) (req : Request)
    (t : UserStore) : Prop :=
  t = (serve rt cfg req s).2

variable {rt : AuthRuntime} {cfg : AuthConfig} {s t : UserStore} {u v : User}

/-- An error issues no session. -/
@[simp] lemma sessions_errorMiddleware (err : Thrown) : (errorMiddleware err).sessions = [] := by
  cases err <;> rfl

/-- The collection left by a request is the one left by its handler. -/
lemma serve_snd (req : Request) (s : UserStore) :
    (serve rt cfg req s).2 = ((req.handler rt cfg).run execUser s).2 := by
  unfold serve
  rcases (req.handler rt cfg).run execUser s with ⟨_ | _, _⟩ <;> rfl

/-- A request whose handler returns. -/
lemma serve_of_ok {req : Request} {res : Response}
    (h : (req.handler rt cfg).run execUser s = (.ok res, t)) : serve rt cfg req s = (res, t) := by
  simp only [serve, h]

/-- A request whose handler throws. -/
lemma serve_of_error {req : Request} {err : Thrown}
    (h : (req.handler rt cfg).run execUser s = (.error err, t)) :
    serve rt cfg req s = (errorMiddleware err, t) := by
  simp only [serve, h]

/-! ## What a request keeps -/

/-- What every request keeps of an account. -/
structure User.Keeps (u v : User) : Prop where
  /-- Its key. -/
  id : v.id = u.id
  /-- Its binding, unless it is verified when it changes. -/
  binding : v.googleId = u.googleId ∨ v.isVerified = true
  /-- Its verification. -/
  verified : u.isVerified = true → v.isVerified = true
  /-- Its one-time code, while it is not verified. -/
  otp : v.isVerified = false → v.otp = u.otp
  /-- The expiry of the code, if there is one. -/
  otpExpire : v.isVerified = false → ∀ e, u.otpExpire = some e → v.otpExpire = some e

/-- What every request but a Google sign-in keeps: the binding too. -/
def User.KeepsBound (u v : User) : Prop := u.Keeps v ∧ v.googleId = u.googleId

/-- A new account: it has no code, and is verified if it is bound. -/
structure User.Fresh (u : User) : Prop where
  /-- No code was generated for it. -/
  otp : u.isVerified = false → u.otp = none
  /-- Google has verified its address. -/
  binding : u.googleId.isSome → u.isVerified = true

lemma User.Keeps.refl (u : User) : u.Keeps u :=
  ⟨rfl, .inl rfl, fun h => h, fun _ => rfl, fun _ _ h => h⟩

/-- A verification takes nothing back. -/
lemma User.Keeps.of_verified (hid : v.id = u.id) (hv : v.isVerified = true) : u.Keeps v where
  id := hid
  binding := .inr hv
  verified := fun _ => hv
  otp := fun h => by rw [hv] at h; cases h
  otpExpire := fun h => by rw [hv] at h; cases h

lemma User.KeepsBound.refl (u : User) : u.KeepsBound u := ⟨.refl u, rfl⟩

lemma User.KeepsBound.trans (u v w : User) (h₁ : u.KeepsBound v) (h₂ : v.KeepsBound w) :
    u.KeepsBound w := by
  have hv : w.isVerified = false → v.isVerified = false := fun hw => by
    cases hv : v.isVerified with
    | false => rfl
    | true => rw [h₂.1.verified hv] at hw; cases hw
  exact ⟨{
    id := h₂.1.id.trans h₁.1.id
    binding := .inl (h₂.2.trans h₁.2)
    verified := fun h => h₂.1.verified (h₁.1.verified h)
    otp := fun h => (h₂.1.otp h).trans (h₁.1.otp (hv h))
    otpExpire := fun h e he => h₂.1.otpExpire h e (h₁.1.otpExpire (hv h) e he) },
    h₂.2.trans h₁.2⟩

/-- What is kept depends on five fields only. -/
lemma User.KeepsBound.of_eq {w : User} (h : u.KeepsBound v) (hid : w.id = v.id)
    (hgoogle : w.googleId = v.googleId) (hverified : w.isVerified = v.isVerified)
    (hotp : w.otp = v.otp) (hexpire : w.otpExpire = v.otpExpire) : u.KeepsBound w := by
  refine ⟨⟨hid.trans h.1.id, ?_, ?_, ?_, ?_⟩, hgoogle.trans h.2⟩
  · rw [hgoogle, hverified]
    exact h.1.binding
  · rw [hverified]
    exact h.1.verified
  · rw [hverified, hotp]
    exact h.1.otp
  · rw [hverified, hexpire]
    exact h.1.otpExpire

/-- What is kept of a new account is new. -/
lemma User.Fresh.of_keepsBound (hu : u.Fresh) (h : u.KeepsBound v) : v.Fresh where
  otp hv := by
    have hu' : u.isVerified = false := by
      cases hu' : u.isVerified with
      | false => rfl
      | true => rw [h.1.verified hu'] at hv; cases hv
    rw [h.1.otp hv, hu.otp hu']
  binding hg := h.1.verified (hu.binding (h.2 ▸ hg))

/-- What a request but a Google sign-in does to the accounts. -/
abbrev KeepsAccounts (s t : UserStore) : Prop := Indexed.Evolves User.KeepsBound User.Fresh s t

/-- Doing nothing keeps the accounts. -/
lemma KeepsAccounts.refl (s : UserStore) : KeepsAccounts s s := Indexed.Evolves.refl .refl s

/-- **A save keeps the accounts**, if the document in memory keeps the account. -/
theorem keepsAccounts_save (doc : UserDoc) (withPassword : Bool) (hu : u ∈ s)
    (hl : doc.loaded = u.select withPassword) (h : u.KeepsBound doc.user) :
    (saveUnvalidated doc).wp execUser (fun r t => r = .ok () ∧ KeepsAccounts s t) s := by
  obtain ⟨t, hrun, ht⟩ := exists_run_saveUnvalidated doc withPassword hu hl h.1.id h.2
  rw [wp, hrun]
  exact ⟨rfl, Indexed.evolves_replace .refl ht hu rfl (h.of_eq h.1.id.symm rfl rfl rfl rfl)⟩

/-- Reading a document and applying the default of `otpExpire` keeps the account. -/
lemma keepsBound_ofLoaded (u : User) (withPassword : Bool) (now : Time) :
    u.KeepsBound (UserDoc.ofLoaded (u.select withPassword) now).user := by
  cases withPassword <;>
    exact ⟨⟨rfl, .inl rfl, fun h => h, fun _ => rfl, fun _ e he => by
      simp [UserDoc.ofLoaded, User.hydrate, User.select, he]⟩, rfl⟩

/-! ## Every request -/

/-- An outcome without a session. -/
def Silent : Except Thrown Response → Prop
  | .ok res => res.sessions = []
  | .error _ => True

/-- A validated save writes the document, or is refused. -/
lemma wp_saveUser (rt : AuthRuntime) (salt : String) (doc : UserDoc) (withPassword : Bool)
    (hu : u ∈ s) (hl : doc.loaded = u.select withPassword) (hid : doc.user.id = u.id)
    (hgoogle : doc.user.googleId = u.googleId) :
    (saveUser rt salt doc).wp execUser
      (fun _ t => t = s ∨ s.replace ((doc.preSave rt salt).stored u) = some t) s := by
  unfold saveUser
  split
  · have hpre : (doc.preSave rt salt).loaded = doc.loaded ∧
        (doc.preSave rt salt).user.googleId = doc.user.googleId := by
      unfold UserDoc.preSave
      split <;> exact ⟨rfl, rfl⟩
    obtain ⟨t, hrun, ht⟩ := exists_run_saveUnvalidated (doc.preSave rt salt) withPassword hu
      (hpre.1.trans hl) ((doc.preSave_id rt salt).trans hid) (hpre.2.trans hgoogle)
    rw [wp, hrun]
    exact .inr ht
  · exact .inl rfl

/-- The document that a save writes keeps the account, if the one in memory does. -/
lemma keepsBound_preSave (rt : AuthRuntime) (salt : String) (doc : UserDoc)
    (h : u.KeepsBound doc.user) : u.KeepsBound ((doc.preSave rt salt).stored u) := by
  unfold UserDoc.preSave
  split <;> exact h.of_eq h.1.id.symm rfl rfl rfl rfl

/-- A validated save keeps the accounts, whether it is carried out or not. -/
lemma keepsAccounts_saveUser (rt : AuthRuntime) (salt : String) (doc : UserDoc)
    (withPassword : Bool) (hu : u ∈ s) (hl : doc.loaded = u.select withPassword)
    (h : u.KeepsBound doc.user) :
    (saveUser rt salt doc).wp execUser (fun _ t => KeepsAccounts s t) s := by
  refine (wp_saveUser rt salt doc withPassword hu hl h.1.id h.2).mono ?_
  rintro - t (rfl | ht)
  · exact .refl t
  · exact Indexed.evolves_replace .refl ht hu rfl (keepsBound_preSave rt salt doc h)

/-- A verification keeps the accounts and issues no session. -/
lemma keepsAccounts_verifyUser (req : VerifyRequest) (s : UserStore) :
    (verifyUser rt req).wp execUser (fun r t => KeepsAccounts s t ∧ Silent r) s := by
  unfold verifyUser
  split
  · exact ⟨.refl s, trivial⟩
  · cases rt.castObjectId req.id with
    | error err => exact ⟨.refl s, trivial⟩
    | ok id =>
      simp only [bind_eq, wp_bind, wp_ofExcept_ok, findUserById, wp_findOneUser]
      cases hu : findUser (fun u => u.id = id) s with
      | none => exact ⟨.refl s, trivial⟩
      | some u =>
        simp only [Option.map_some]
        split_ifs
        · exact ⟨.refl s, rfl⟩
        · exact ⟨.refl s, trivial⟩
        · have hsave := keepsAccounts_save
            ((UserDoc.ofLoaded (u.select false) req.now).assign User.verified) false
            (findUser_eq_some hu).1 rfl ⟨.of_verified rfl rfl, rfl⟩
          rw [wp_bind]
          refine hsave.mono ?_
          rintro _ t ⟨rfl, hkeeps⟩
          exact ⟨hkeeps, rfl⟩

/-- An account as a request for a reset link stores it. -/
def linkStored (rt : AuthRuntime) (req : ForgotRequest) (u : User) : User :=
  (u.hydrate req.now).generateForgotToken rt req.token req.now

/-- **A request for a reset link** issues no session, and stores the link with one account at
most. -/
lemma wp_forgotPassword (req : ForgotRequest) (s : UserStore) :
    (forgotPassword rt req).wp execUser (fun r t => Silent r ∧
      (t = s ∨ ∃ u ∈ s, s.replace (linkStored rt req u) = some t)) s := by
  unfold forgotPassword
  split
  · exact ⟨trivial, .inl rfl⟩
  · rename_i email hemail
    split_ifs
    · exact ⟨trivial, .inl rfl⟩
    · cases rt.toText email with
      | error err => exact ⟨trivial, .inl rfl⟩
      | ok text =>
        simp only [bind_eq, wp_bind, wp_ofExcept_ok]
        split_ifs
        · exact ⟨trivial, .inl rfl⟩
        · simp only [findUserByEmail, wp_bind, wp_findOneUser]
          cases hu : findUser (User.hasEmail rt (rt.trim text)) s with
          | none => exact ⟨rfl, .inl rfl⟩
          | some u =>
            let doc := (UserDoc.ofLoaded (u.select false) req.now).assign
              (User.generateForgotToken rt req.token req.now)
            obtain ⟨t, hrun, ht⟩ := exists_run_saveUnvalidated doc false (findUser_eq_some hu).1
              rfl rfl rfl
            have hstored : doc.stored u = linkStored rt req u := by
              simp [doc, UserDoc.stored, UserDoc.assign, UserDoc.ofLoaded, linkStored,
                User.generateForgotToken, User.hydrate, User.select, changed]
            rw [hstored] at ht
            simp only [Option.map_some, wp_bind]
            rw [wp, hrun]
            exact ⟨rfl, .inr ⟨u, (findUser_eq_some hu).1, ht⟩⟩

/-- A request for a reset link keeps the accounts and issues no session. -/
lemma keepsAccounts_forgotPassword (req : ForgotRequest) (s : UserStore) :
    (forgotPassword rt req).wp execUser (fun r t => KeepsAccounts s t ∧ Silent r) s := by
  refine (wp_forgotPassword req s).mono ?_
  rintro r t ⟨hsilent, rfl | ⟨u, hu, ht⟩⟩
  · exact ⟨.refl t, hsilent⟩
  · have hkeeps : u.KeepsBound (linkStored rt req u) :=
      (keepsBound_ofLoaded u true req.now).of_eq rfl rfl rfl rfl rfl
    exact ⟨Indexed.evolves_replace .refl ht hu rfl hkeeps, hsilent⟩

/-- Whether an account has a pending reset with this token. -/
def User.hasForgotToken (rt : AuthRuntime) (token : String) (now : Time) (u : User) : Bool :=
  u.forgotPasswordToken = some (rt.sha256 token) && u.forgotPasswordExpire.any (now < ·)

/-- **A reset** issues no session, and writes to an account with its token at most. -/
lemma wp_resetPassword (req : ResetRequest) (s : UserStore) :
    (resetPassword rt req).wp execUser (fun r t => Silent r ∧
      (t = s ∨ ∃ u ∈ s, u.hasForgotToken rt req.token req.now = true ∧ ∃ v, u.KeepsBound v ∧
        v.isVerified = u.isVerified ∧ s.replace v = some t)) s := by
  unfold resetPassword
  split
  · exact ⟨trivial, .inl rfl⟩
  · rename_i newPassword hpassword
    split_ifs
    · exact ⟨trivial, .inl rfl⟩
    · cases rt.toText newPassword with
      | error err => exact ⟨trivial, .inl rfl⟩
      | ok text =>
        simp only [bind_eq, wp_bind, wp_ofExcept_ok]
        split_ifs
        · exact ⟨trivial, .inl rfl⟩
        · unfold findUserByForgotToken
          split_ifs
          · exact ⟨trivial, .inl rfl⟩
          · simp only [wp_bind, wp_findOneUser]
            cases hu : findUser (fun u => u.forgotPasswordToken = some (rt.sha256 req.token) &&
                u.forgotPasswordExpire.any (req.now < ·)) s with
            | none => exact ⟨trivial, .inl rfl⟩
            | some u =>
              obtain ⟨hmem, htoken⟩ := findUser_eq_some hu
              simp only [Option.map_some, wp_bind]
              cases (rt.castString newPassword).mapError fun _ => validationError with
              | error err => exact ⟨trivial, .inl rfl⟩
              | ok password =>
                let doc := (UserDoc.ofLoaded (u.select true) req.now).assign fun u =>
                  { u with
                    password := password
                    forgotPasswordToken := none
                    forgotPasswordExpire := none }
                have hkeeps : u.KeepsBound doc.user :=
                  (keepsBound_ofLoaded u true req.now).of_eq rfl rfl rfl rfl rfl
                have hverified : ((doc.preSave rt req.salt).stored u).isVerified =
                    u.isVerified := by
                  unfold UserDoc.preSave
                  split <;> rfl
                simp only [wp_ofExcept_ok]
                refine (wp_saveUser rt req.salt doc true hmem rfl rfl rfl).mono fun r t ht => ?_
                have houtcome : t = s ∨ ∃ u ∈ s,
                    u.hasForgotToken rt req.token req.now = true ∧ ∃ v, u.KeepsBound v ∧
                      v.isVerified = u.isVerified ∧ s.replace v = some t :=
                  ht.imp_right fun ht => ⟨u, hmem, htoken, _,
                    keepsBound_preSave rt req.salt doc hkeeps, hverified, ht⟩
                cases r with
                | error err => exact ⟨trivial, houtcome⟩
                | ok => exact ⟨rfl, houtcome⟩

/-- A reset keeps the accounts and issues no session. -/
lemma keepsAccounts_resetPassword (req : ResetRequest) (s : UserStore) :
    (resetPassword rt req).wp execUser (fun r t => KeepsAccounts s t ∧ Silent r) s := by
  refine (wp_resetPassword req s).mono ?_
  rintro r t ⟨hsilent, rfl | ⟨u, hu, -, v, hkeeps, -, ht⟩⟩
  · exact ⟨.refl t, hsilent⟩
  · exact ⟨Indexed.evolves_replace .refl ht hu hkeeps.1.id.symm hkeeps, hsilent⟩

/-- **A login** writes nothing, and signs in a verified account whose password was compared. -/
lemma wp_loginUser_outcome (req : LoginRequest) (s : UserStore) :
    (loginUser rt req).wp execUser (fun r t => t = s ∧ ∀ res, r = .ok res →
      ∃ u ∈ s, u.isVerified = true ∧ u.password.isSome ∧ ∃ user shown, user.id = u.id ∧
        res = signIn 200 "User logged in successfully" user shown) s := by
  unfold loginUser
  split
  · exact ⟨rfl, by simp⟩
  · rename_i body hbody
    split_ifs
    · exact ⟨rfl, by simp⟩
    · unfold findUserByEmailOrUsername
      cases emailOrUsername rt body.email body.username with
      | error err => exact ⟨rfl, by simp [ofExcept]⟩
      | ok p =>
        simp only [bind_eq, wp_bind, wp_ofExcept_ok, wp_findOneUser]
        cases hu : findUser p s with
        | none => exact ⟨rfl, by simp⟩
        | some u =>
          simp only [Option.map_some, wp_bind]
          cases hvalid : User.comparePassword rt (UserDoc.ofLoaded (u.select true) req.now).user
              body.password with
          | error err => exact ⟨rfl, by simp⟩
          | ok isPasswordValid =>
            simp only [wp_ofExcept_ok]
            split_ifs with hinvalid hunverified
            · exact ⟨rfl, by simp⟩
            · exact ⟨rfl, by simp⟩
            · have hpassword : u.password.isSome := by
                cases hnone : u.password with
                | some hash => rfl
                | none =>
                  have hread : (UserDoc.ofLoaded (u.select true) req.now).user.password = none :=
                    hnone
                  simp only [User.comparePassword, hread, Except.ok.injEq] at hvalid
                  exact absurd hvalid.symm hinvalid
              have hverified : u.isVerified = true := (Bool.not_eq_false _).mp hunverified
              simp only [findUserById, wp_bind, wp_findOneUser]
              refine ⟨rfl, fun res hres => ?_⟩
              exact ⟨u, (findUser_eq_some hu).1, hverified, hpassword, _, _, rfl,
                (Except.ok.inj hres).symm⟩

/-- A login writes nothing. -/
lemma wp_loginUser (req : LoginRequest) (s : UserStore) :
    (loginUser rt req).wp execUser (fun _ t => t = s) s :=
  (wp_loginUser_outcome req s).mono fun _ _ h => h.1

/-- The document of a new local account is not verified, and has no binding and no code. -/
lemma newLocalUser_eq_ok {req : RegisterRequest} {body : RegisterBody} {username : String}
    (h : newLocalUser rt req body username = .ok u) :
    u.isVerified = false ∧ u.googleId = none ∧ u.otp = none := by
  unfold newLocalUser at h
  obtain ⟨fullname, -, h⟩ := exists_of_bind_eq_ok h
  obtain ⟨email, -, h⟩ := exists_of_bind_eq_ok h
  obtain ⟨password, -, h⟩ := exists_of_bind_eq_ok h
  obtain rfl := Except.ok.inj h
  exact ⟨rfl, rfl, rfl⟩

/-- The end of a registration writes nothing. -/
lemma wp_answerRegistration (user : UserDoc) (now : Time) (s : UserStore) :
    (answerRegistration user now).wp execUser (fun _ t => t = s) s := by
  simp only [answerRegistration, findUserById, bind_eq, wp_bind, wp_findOneUser]
  split <;> rfl

/-- A registration keeps the accounts: it inserts a new one, at most. -/
lemma keepsAccounts_registerUser (req : RegisterRequest) (s : UserStore) :
    (registerUser rt cfg req).wp execUser (fun _ t => KeepsAccounts s t) s := by
  unfold registerUser
  split
  · exact .refl s
  · rename_i body hbody
    unfold findUserByEmailOrUsername
    cases emailOrUsername rt body.email body.username with
    | error err => exact .refl s
    | ok p =>
      simp only [bind_eq, wp_bind, wp_ofExcept_ok, wp_findOneUser]
      split
      · exact .refl s
      · split
        · rename_i username husername
          cases hdraft : newLocalUser rt req body username with
          | error err => exact .refl s
          | ok draft =>
            obtain ⟨hverified, hgoogle, hotp⟩ := newLocalUser_eq_ok hdraft
            let v := draft.hashed rt req.salt
            have hfresh : v.Fresh :=
              ⟨fun _ => hotp, fun h => by simp [v, User.hashed, hgoogle] at h⟩
            simp only [wp_bind, wp_ofExcept_ok]
            refine wp_createUser rt req.salt draft (fun t _ hins => ?_) fun _ => .refl s
            have hinserted : KeepsAccounts s t := Indexed.evolves_insert .refl hins hfresh
            have hv : v ∈ t := (Indexed.mem_insert hins).2 (.inr rfl)
            dsimp only
            split_ifs
            · have hsave := keepsAccounts_saveUser rt req.salt
                ((⟨v, v⟩ : UserDoc).assign fun u => { u with isVerified := true }) true hv rfl
                ⟨.of_verified rfl rfl, rfl⟩
              rw [wp_bind]
              refine hsave.mono fun r t' hkeeps => ?_
              have hboth : KeepsAccounts s t' := hinserted.trans hkeeps User.KeepsBound.trans
                fun _ _ hu h => hu.of_keepsBound h
              cases r with
              | error err => exact hboth
              | ok => exact (wp_answerRegistration _ _ _).mono fun _ _ ht => ht ▸ hboth
            · exact (wp_answerRegistration _ _ _).mono fun _ _ ht => ht ▸ hinserted
        · exact .refl s

/-! ## The requests together -/

/-- **Every request but a Google sign-in keeps the accounts**, their bindings included. -/
theorem evolves_serve_local (rt : AuthRuntime) (cfg : AuthConfig) (req : Request)
    (h : ∀ g, req ≠ .google g) (s : UserStore) :
    KeepsAccounts s (serve rt cfg req s).2 := by
  rw [serve_snd]
  cases req with
  | register req => exact keepsAccounts_registerUser req s
  | login req =>
    have hlogin : ((loginUser rt req).run execUser s).2 = s := wp_loginUser req s
    simp only [Request.handler, hlogin]
    exact .refl s
  | verify req => exact (keepsAccounts_verifyUser req s).1
  | forgot req => exact (keepsAccounts_forgotPassword req s).1
  | reset req => exact (keepsAccounts_resetPassword req s).1
  | google req => exact absurd rfl (h req)

/-- **Every request** keeps the accounts; a binding that it changes is of a verified account. -/
theorem evolves_serve (rt : AuthRuntime) (cfg : AuthConfig) (req : Request) (s : UserStore) :
    Indexed.Evolves User.Keeps User.Fresh s (serve rt cfg req s).2 := by
  by_cases h : ∀ g, req ≠ .google g
  · exact (evolves_serve_local rt cfg req h s).mono fun _ _ hk => hk.1
  · simp only [not_forall, not_not] at h
    obtain ⟨g, rfl⟩ := h
    rw [serve_snd]
    simp only [Request.handler]
    cases hauth : authenticate cfg g with
    | error err =>
      rw [run_googleAuth_of_error hauth]
      exact Indexed.Evolves.refl .refl s
    | ok token =>
      obtain ⟨payload, address⟩ := token
      cases hsub : findUser (User.hasGoogleId payload.sub) s with
      | some u =>
        obtain ⟨res, hrun, -⟩ := run_googleAuth_of_sub rt hauth hsub
        rw [hrun]
        exact Indexed.Evolves.refl .refl s
      | none =>
        cases hemail : findUser (User.hasEmail rt (rt.toLowerCase address)) s with
        | some u =>
          obtain ⟨res, t, hrun, ht, -⟩ := run_googleAuth_of_email hauth hsub hemail
          rw [hrun]
          exact Indexed.evolves_replace .refl ht (findUser_eq_some hemail).1 rfl
            (.of_verified rfl rfl)
        | none =>
          rcases run_googleAuth_of_new hauth hsub hemail with
            ⟨err, hrun⟩ | ⟨res, name, t, hrun, ht, -⟩
          · rw [hrun]
            exact Indexed.Evolves.refl .refl s
          · rw [hrun]
            exact Indexed.evolves_insert .refl ht ⟨fun _ => rfl, fun _ => rfl⟩

/-! ## A sample deployment -/

/-- The parameters at lower-case texts without surrounding blanks, and one account id. -/
def sampleRuntime : AuthRuntime where
  castOther _ := .error ⟨"Cast to string failed", none⟩
  queryOther _ := .error ⟨"Cast to string failed", none⟩
  text := .ascii
  toLowerCase s := s
  trim s := s
  castObjectId text :=
    if text = "64b0f0c2a1d3e4f506172839" then .ok 0 else .error ⟨"Cast to ObjectId failed", none⟩
  hash password salt := salt ++ password
  compare _ _ := .ok false
  sha256 s := s

/-- A deployment that requires verification, with Google sign-in. -/
def strictConfig : AuthConfig := ⟨"client-id", false⟩

/-- A registration of `ada`. -/
def adaRegisters : Request :=
  .register ⟨some ⟨.str "ada", .str "ada@example.test", .str "Ada", .str "correct-horse"⟩,
    0, 0, "salt"⟩

/-- A sign-in with a token of a `sub`, for `ada@example.test`. -/
def adaSignsIn (sub : String) (newId : ℕ) : Request :=
  .google ⟨some (.str "credential"), .ok (some ⟨"accounts.google.com", sub,
    some "ada@example.test", some true, some "Ada", none⟩), 0, newId⟩

end WatchTower
