import WatchTower.Auth.Requests

set_option relaxedAutoImplicit false
set_option autoImplicit false

/-!
# Sessions and verification

Who gets a session when verification is required? A login tests the verification. A Google
sign-in does not test it for an account that is bound already, but such an account was verified
when it was bound. A registration tests nothing: it signs the new account in, verified or not.

## Main definitions

* `WatchTower.SessionsVerified` — the law of sessions.
* `WatchTower.CreatesAccount` — the registrations that create an account.
* `WatchTower.BoundVerified` — the invariant: bound accounts are verified.

## Main results

* `WatchTower.sessionsVerified_step_iff` — at one request, the law holds exactly when the request
  creates no account by registration.
* `WatchTower.sessions_verified_iff` — the same for every run.
-/

namespace WatchTower

open Documents Transition Transition.Prog

/-- **The law of sessions**: a session is issued only for an account that is verified when the
answer is given. -/
def SessionsVerified (rt : AuthRuntime) (cfg : AuthConfig) (s : UserStore) (req : Request)
    (t : UserStore) : Prop :=
  ∀ k ∈ (serve rt cfg req s).1.sessions, ∃ u ∈ t, u.id = k.id ∧ u.isVerified = true

/-- A registration is accepted: its body is there, its e-mail and username are not taken, and the
account is valid and clashes with none. -/
def CreatesAccount (rt : AuthRuntime) (req : Request) (s : UserStore) : Prop :=
  match req with
  | .register req => ∃ body p username u, req.body = some body ∧
      emailOrUsername rt body.email body.username = .ok p ∧ findUser p s = none ∧
      body.username = .str username ∧ newLocalUser rt req body username = .ok u ∧
      u.valid = true ∧ ∃ t, s.insert (u.hashed rt req.salt) = some t
  | _ => False

/-- Accounts that are bound to a Google account are verified. -/
def BoundVerified (s : UserStore) : Prop := ∀ u ∈ s, u.googleId.isSome → u.isVerified = true

variable {rt : AuthRuntime} {cfg : AuthConfig} {s t : UserStore} {u v : User}

/-- With no accounts, none is bound. -/
lemma boundVerified_empty : BoundVerified (.empty _) := fun _ hu =>
  absurd hu Indexed.not_mem_empty

/-- Every request keeps the bound accounts verified. -/
lemma BoundVerified.serve (h : BoundVerified s) (req : Request) :
    BoundVerified (serve rt cfg req s).2 := by
  intro v hv hbound
  rcases (evolves_serve rt cfg req s).origin v hv with ⟨u, hu, hkeeps⟩ | hfresh
  · rcases hkeeps.binding with heq | hverified
    · exact hkeeps.verified (h u hu (heq ▸ hbound))
    · exact hverified
  · exact hfresh.binding hbound

/-! ## The sessions of each request -/

/-- **A registration that creates an account** signs it in, unverified. -/
lemma run_registerUser_of_creates {req : RegisterRequest} (hcfg : cfg.autoVerifyUsers = false)
    (h : CreatesAccount rt (.register req) s) :
    ∃ res v t, (registerUser rt cfg req).run execUser s = (.ok res, t) ∧ v ∈ t ∧
      v.isVerified = false ∧ v.generateAccessToken ∈ res.sessions := by
  obtain ⟨body, p, username, u, hbody, hp, hnone, husername, hu, hvalid, t, ht⟩ := h
  have hv : u.hashed rt req.salt ∈ t := (Indexed.mem_insert ht).2 (.inr rfl)
  have hread := run_findUserById hv req.now
  refine ⟨signIn 201 "User registered successfully" (u.hashed rt req.salt)
    (some (UserDoc.ofLoaded ((u.hashed rt req.salt).select false) req.now).user),
    u.hashed rt req.salt, t, ?_, hv, (newLocalUser_eq_ok hu).1, List.mem_cons_self⟩
  rw [husername] at hp
  simp only [registerUser, hbody, findUserByEmailOrUsername, husername, hp, ofExcept, bind_eq,
    run_bind, run_ret, run_findOneUser, hnone, Option.map_none, Option.isSome_none,
    Bool.false_eq_true, if_false, hu, run_createUser, hvalid, if_true, ht, hcfg,
    answerRegistration, hread, pure_eq]

/-- **Any other registration** fails. -/
lemma wp_registerUser_of_not_creates (cfg : AuthConfig) {req : RegisterRequest}
    (h : ¬CreatesAccount rt (.register req) s) :
    (registerUser rt cfg req).wp execUser (fun r _ => ∃ err, r = .error err) s := by
  unfold registerUser
  split
  · exact ⟨_, rfl⟩
  · rename_i body hbody
    unfold findUserByEmailOrUsername
    cases hp : emailOrUsername rt body.email body.username with
    | error err => exact ⟨_, rfl⟩
    | ok p =>
      simp only [bind_eq, wp_bind, wp_ofExcept_ok, wp_findOneUser]
      cases hfound : findUser p s with
      | some u => exact ⟨_, rfl⟩
      | none =>
        simp only [Option.map_none, Option.isSome_none, Bool.false_eq_true, if_false]
        split
        · rename_i username husername
          cases hu : newLocalUser rt req body username with
          | error err => exact ⟨_, rfl⟩
          | ok u =>
            simp only [wp_bind, wp_ofExcept_ok]
            refine wp_createUser rt req.salt u (fun t hvalid hins => ?_) fun _ => ⟨_, rfl⟩
            exact absurd ⟨body, p, username, u, hbody, hp, hfound, husername, hu, hvalid, t, hins⟩ h
        · exact ⟨_, rfl⟩

/-- The sessions of an outcome are of verified accounts. -/
def SignsVerified (s : UserStore) : Except Thrown Response → Prop
  | .ok res => ∀ k ∈ res.sessions, ∃ u ∈ s, u.id = k.id ∧ u.isVerified = true
  | .error _ => True

/-- Signing a verified account in. -/
lemma signsVerified_signIn (hu : u ∈ s) (hverified : u.isVerified = true) {statusCode : ℕ}
    {message : String} {user : User} {shown : Option User} (hid : user.id = u.id) :
    SignsVerified s (.ok (signIn statusCode message user shown)) := by
  intro k hk
  rw [mem_sessions_signIn] at hk
  exact ⟨u, hu, by rw [hk, ← hid]; rfl, hverified⟩

/-- **A login** issues a session for a verified account only. -/
lemma wp_loginUser_sessions (req : LoginRequest) (s : UserStore) :
    (loginUser rt req).wp execUser (fun r _ => SignsVerified s r) s := by
  refine (wp_loginUser_outcome req s).mono fun r t hr => ?_
  cases r with
  | error err => trivial
  | ok res =>
    obtain ⟨u, hu, hverified, -, user, shown, hid, rfl⟩ := hr.2 res rfl
    exact signsVerified_signIn hu hverified hid

/-- **A Google sign-in** issues a session for a verified account only, if the bound accounts
are. -/
lemma run_googleAuth_sessions (hs : BoundVerified s) (req : GoogleRequest) :
    SignsVerified ((googleAuth rt cfg req).run execUser s).2
      ((googleAuth rt cfg req).run execUser s).1 := by
  cases hauth : authenticate cfg req with
  | error err =>
    rw [run_googleAuth_of_error hauth]
    trivial
  | ok token =>
    obtain ⟨payload, address⟩ := token
    cases hsub : findUser (User.hasGoogleId payload.sub) s with
    | some u =>
      obtain ⟨res, hrun, hsessions⟩ := run_googleAuth_of_sub rt hauth hsub
      obtain ⟨hu, hbound⟩ := findUser_eq_some hsub
      have hgoogle : u.googleId = some payload.sub := by simpa [User.hasGoogleId] using hbound
      rw [hrun]
      intro k hk
      simp only [hsessions, List.mem_cons, List.not_mem_nil, or_false, or_self] at hk
      exact ⟨u, hu, by rw [hk]; rfl, hs u hu (by simp [hgoogle])⟩
    | none =>
      cases hemail : findUser (User.hasEmail rt (rt.toLowerCase address)) s with
      | some u =>
        obtain ⟨res, t, hrun, ht, hsessions⟩ := run_googleAuth_of_email hauth hsub hemail
        rw [hrun]
        intro k hk
        simp only [hsessions, List.mem_cons, List.not_mem_nil, or_false, or_self] at hk
        exact ⟨linked payload req.now u, (Indexed.mem_replace ht).2
          (.inr ⟨rfl, u, (findUser_eq_some hemail).1, rfl⟩), by rw [hk]; rfl, rfl⟩
      | none =>
        rcases run_googleAuth_of_new hauth hsub hemail with
          ⟨err, hrun⟩ | ⟨res, name, t, hrun, ht, hsessions⟩
        · rw [hrun]
          trivial
        · rw [hrun]
          intro k hk
          exact ⟨_, (Indexed.mem_insert ht).2 (.inr rfl), (hsessions k hk).symm, rfl⟩

/-! ## The law -/

/-- The law of sessions is about the outcome of the handler. -/
lemma sessionsVerified_iff {req : Request} :
    SessionsVerified rt cfg s req (serve rt cfg req s).2 ↔
      SignsVerified ((req.handler rt cfg).run execUser s).2
        ((req.handler rt cfg).run execUser s).1 := by
  unfold SessionsVerified serve
  rcases (req.handler rt cfg).run execUser s with ⟨err | res, t⟩
  · simp [SignsVerified]
  · exact Iff.rfl

/-- An outcome without a session obeys the law. -/
lemma signsVerified_of_silent {r : Except Thrown Response} (h : Silent r) : SignsVerified s r := by
  cases r with
  | error err => trivial
  | ok res =>
    have hnil : res.sessions = [] := h
    simp [SignsVerified, hnil]

/-- **At one request**, where verification is required, the law holds exactly when the request
creates no account by registration. -/
theorem sessionsVerified_step_iff (hcfg : cfg.autoVerifyUsers = false) (hs : BoundVerified s)
    {req : Request} (h : Served rt cfg s req t) :
    SessionsVerified rt cfg s req t ↔ ¬CreatesAccount rt req s := by
  obtain rfl := h
  rw [sessionsVerified_iff]
  cases req with
  | register req =>
    constructor
    · intro hlaw hcreates
      obtain ⟨res, v, t, hrun, hv, hunverified, hsession⟩ :=
        run_registerUser_of_creates hcfg hcreates
      simp only [Request.handler, hrun] at hlaw
      obtain ⟨u, hu, hid, hverified⟩ := hlaw _ hsession
      obtain rfl := Indexed.eq_of_key_eq hu hv hid
      rw [hunverified] at hverified
      cases hverified
    · intro hno
      obtain ⟨err, herr⟩ := wp_registerUser_of_not_creates cfg hno
      simp only [Request.handler, herr]
      trivial
  | login req =>
    have hstore : ((loginUser rt req).run execUser s).2 = s := wp_loginUser req s
    refine iff_of_true ?_ not_false
    simp only [Request.handler, hstore]
    exact wp_loginUser_sessions req s
  | verify req =>
    exact iff_of_true (signsVerified_of_silent (keepsAccounts_verifyUser req s).2) not_false
  | forgot req =>
    exact iff_of_true (signsVerified_of_silent (keepsAccounts_forgotPassword req s).2) not_false
  | reset req =>
    exact iff_of_true (signsVerified_of_silent (keepsAccounts_resetPassword req s).2) not_false
  | google req => exact iff_of_true (run_googleAuth_sessions hs req) not_false

/-- **Sessions are for verified accounts, exactly along runs without a registration.** Where
verification is required, and from no accounts: every session of a run of requests is issued for
an account that is verified at that moment if and only if no request of it creates an account by
registration. -/
theorem sessions_verified_iff (rt : AuthRuntime) (cfg : AuthConfig)
    (hcfg : cfg.autoVerifyUsers = false) (es : List Request) :
    AllSteps (Served rt cfg) (SessionsVerified rt cfg) (.empty _) es ↔
      AllSteps (Served rt cfg) (fun s req _ => ¬CreatesAccount rt req s) (.empty _) es := by
  have hiff : ∀ s req t, BoundVerified s → Served rt cfg s req t →
      (SessionsVerified rt cfg s req t ↔ ¬CreatesAccount rt req s) :=
    fun _ _ _ hs => sessionsVerified_step_iff hcfg hs
  have hinv : ∀ s req t, BoundVerified s → Served rt cfg s req t → ¬CreatesAccount rt req s →
      BoundVerified t := by
    rintro s req t hs rfl -
    exact hs.serve req
  exact allSteps_iff hiff hinv boundVerified_empty es

/-- The law on a run of one registration. -/
theorem sessions_verified_iff_registration :
    AllSteps (Served sampleRuntime strictConfig) (SessionsVerified sampleRuntime strictConfig)
        (.empty _) [adaRegisters] ↔
      AllSteps (Served sampleRuntime strictConfig)
        (fun s req _ => ¬CreatesAccount sampleRuntime req s) (.empty _) [adaRegisters] :=
  sessions_verified_iff sampleRuntime strictConfig rfl [adaRegisters]

/-- **A registration signs an unverified account in.** -/
theorem registration_signs_unverified_in :
    ¬AllSteps (Served sampleRuntime strictConfig) (SessionsVerified sampleRuntime strictConfig)
      (.empty _) [adaRegisters] := by
  intro h
  have hlaw := h [] adaRegisters [] _ _ rfl (.nil _) rfl
  have hfails : ¬∀ k ∈ (serve sampleRuntime strictConfig adaRegisters (.empty _)).1.sessions,
      ∃ u ∈ (serve sampleRuntime strictConfig adaRegisters (.empty _)).2.docs,
        u.id = k.id ∧ u.isVerified = true := by decide +kernel
  exact hfails hlaw

end WatchTower
