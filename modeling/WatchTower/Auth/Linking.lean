import WatchTower.Auth.Verification

set_option relaxedAutoImplicit false
set_option autoImplicit false

/-!
# Linking and passwords

A Google sign-in binds the account with its address and verifies it, and leaves the password
untouched. The comment in the handler calls this safe because whoever signs in controls the
mailbox. The password need not be theirs: with verification required, an account that somebody
else has registered cannot be logged in to, until the sign-in verifies it.

Here requests have senders. For each account it is recorded who has set the password that it has,
and who has proved to control its mailbox.

## Main definitions

* `WatchTower.PartyWorld`, `WatchTower.PartyStep` — the accounts with these records.
* `WatchTower.Proves` — the requests by which a sender proves control of a mailbox.
* `WatchTower.RejectsUnproven` — the law: a login with a password is accepted only if whoever set
  it has proved control.
* `WatchTower.VerifiesOwn` — the condition: nobody verifies an account with the password of somebody
  else who has proved nothing.

## Main results

* `WatchTower.origin_serve` — what a request does to passwords and verifications.
* `WatchTower.Armed.step` — under the condition, the password of a verified account was set by
  somebody who has proved control.
* `WatchTower.rejectsUnproven_of_verifiesOwn` — the law, along every run under the condition.
-/

namespace WatchTower

open Documents Transition Transition.Prog

variable {π : Type}

/-- The password stored with an account. -/
def passwordOf (s : UserStore) (id : ℕ) : Option String :=
  (findUser (fun u => u.id = id) s).bind (·.password)

/-- What happens: a request of some sender, or a code is generated. -/
inductive PartyEvent (π : Type)
  | request (sender : π) (req : Request)
  | generateOTP (id : ℕ) (draw : ℚ) (now : Time)

/-- The event without its sender. -/
def PartyEvent.event : PartyEvent π → AuthEvent
  | .request _ req => .request req
  | .generateOTP id draw now => .generateOTP id draw now

/-- The accounts, who has set their passwords, and who has proved to control their mailboxes. -/
structure PartyWorld (π : Type) where
  /-- The accounts, with the codes. -/
  accounts : AuthWorld
  /-- Who has set the password of an account. -/
  setter : ℕ → Option π
  /-- Who has proved to control the mailbox of an account. -/
  proved : π → ℕ → Prop

/-- No accounts. -/
def PartyWorld.empty : PartyWorld π := ⟨.empty, fun _ => none, fun _ _ => False⟩

/-- By a request, the sender proves control of the mailbox of an account: it verifies the account
with a code generated for it, carries the token of its pending reset, or signs in to it. -/
def Proves (rt : AuthRuntime) (cfg : AuthConfig) (w : AuthWorld) (req : Request) (id : ℕ) : Prop :=
  match req with
  | .verify r => becomesVerified w.store (serve rt cfg (.verify r) w.store).2 id = true ∧
      ∃ c ∈ w.codes, c.userId = id ∧ r.otp = some (.str c.otp)
  | .reset r => ∃ u ∈ w.store, u.id = id ∧ u.hasForgotToken rt r.token r.now = true
  | .login r => ∃ k ∈ (serve rt cfg (.login r) w.store).1.sessions, k.id = id
  | .google r => ∃ k ∈ (serve rt cfg (.google r) w.store).1.sessions, k.id = id
  | .register _ | .forgot _ => False

/-- The world after an event. A password that has changed was set by the sender of the request. -/
def PartyWorld.after (rt : AuthRuntime) (cfg : AuthConfig) (w : PartyWorld π) :
    PartyEvent π → PartyWorld π
  | .request sender req =>
    let accounts := w.accounts.after rt cfg (.request req)
    { accounts := accounts
      setter := fun id =>
        if passwordOf accounts.store id = passwordOf w.accounts.store id then w.setter id
        else some sender
      proved := fun p id => w.proved p id ∨ p = sender ∧ Proves rt cfg w.accounts req id }
  | .generateOTP id draw now =>
    { w with accounts := w.accounts.after rt cfg (.generateOTP id draw now) }

/-- The world steps. No verification omits the code. -/
def PartyStep (rt : AuthRuntime) (cfg : AuthConfig) (w : PartyWorld π) (e : PartyEvent π)
    (w' : PartyWorld π) : Prop :=
  ¬OmitsCode rt w.accounts e.event ∧ w' = w.after rt cfg e

/-- **The law**: a login is accepted only if whoever has set the password of the account has proved
to control its mailbox. -/
def RejectsUnproven (rt : AuthRuntime) (cfg : AuthConfig) (w : PartyWorld π) (e : PartyEvent π)
    (_ : PartyWorld π) : Prop :=
  match e with
  | .request _ (.login req) =>
    ∀ k ∈ (serve rt cfg (.login req) w.accounts.store).1.sessions,
      ∃ p, w.setter k.id = some p ∧ w.proved p k.id
  | _ => True

/-- A request verifies an account: it submits the code of the account, or its credential is of a
Google account with the same address that no account is bound to. -/
def Verifies (rt : AuthRuntime) (cfg : AuthConfig) (s : UserStore) (req : Request) (u : User) :
    Prop :=
  match req with
  | .verify r => rt.castObjectId r.id = .ok u.id ∧ Passes r u
  | .google r => ∃ payload address, authenticate cfg r = .ok (payload, address) ∧
      findUser (User.hasGoogleId payload.sub) s = none ∧
      findUser (User.hasEmail rt (rt.toLowerCase address)) s = some u
  | _ => False

/-- **The condition**: whoever verifies an account that has a password has set it, or somebody has
who has proved control of the mailbox. -/
def VerifiesOwn (rt : AuthRuntime) (cfg : AuthConfig) (w : PartyWorld π) (e : PartyEvent π)
    (_ : PartyWorld π) : Prop :=
  match e with
  | .request sender req => ∀ u ∈ w.accounts.store, u.isVerified = false → u.password.isSome →
      Verifies rt cfg w.accounts.store req u →
      ∀ p, w.setter u.id = some p → p = sender ∨ w.proved p u.id
  | .generateOTP _ _ _ => True

variable {rt : AuthRuntime} {cfg : AuthConfig} {s t : UserStore} {u v : User}

/-! ## What becomes of passwords -/

/-- A reset carries the token of an account. -/
def CarriesToken (rt : AuthRuntime) (req : Request) (u : User) : Prop :=
  match req with
  | .reset r => u.hasForgotToken rt r.token r.now = true
  | _ => False

/-- Where an account after a request comes from. Its password is the one it had, unless the request
resets it, and it was verified before, unless the request verifies it. A new account is not
verified or has no password. -/
def Origin (rt : AuthRuntime) (cfg : AuthConfig) (s : UserStore) (req : Request) (v : User) :
    Prop :=
  (∃ u ∈ s, u.id = v.id ∧ (v.password = u.password ∨ CarriesToken rt req u) ∧
    (v.isVerified = true → u.isVerified = true ∨ Verifies rt cfg s req u)) ∨
  (v.isVerified = true → v.password = none)

/-- An account that was there is its own origin. -/
lemma Origin.of_mem (req : Request) (hv : v ∈ s) : Origin rt cfg s req v :=
  .inl ⟨v, hv, rfl, .inl rfl, .inl⟩

/-- The origins after a replacement. -/
lemma Origin.of_replace {req : Request} {b : User} (ht : s.replace b = some t) (hu : u ∈ s)
    (hid : u.id = b.id) (hpassword : b.password = u.password ∨ CarriesToken rt req u)
    (hverified : b.isVerified = true → u.isVerified = true ∨ Verifies rt cfg s req u) :
    ∀ v ∈ t, Origin rt cfg s req v := by
  intro v hv
  rcases (Indexed.mem_replace ht).1 hv with ⟨hv, -⟩ | ⟨rfl, -⟩
  · exact .of_mem req hv
  · exact .inl ⟨u, hu, hid, hpassword, hverified⟩

/-- The origins after an insertion. -/
lemma Origin.of_insert {req : Request} {b : User} (ht : s.insert b = some t)
    (hb : b.isVerified = true → b.password = none) : ∀ v ∈ t, Origin rt cfg s req v := by
  intro v hv
  rcases (Indexed.mem_insert ht).1 hv with hv | rfl
  · exact .of_mem req hv
  · exact .inr hb

/-- **A registration** inserts an unverified account at most, where verification is required. -/
lemma wp_registerUser_unverified (hcfg : cfg.autoVerifyUsers = false) (req : RegisterRequest)
    (s : UserStore) : (registerUser rt cfg req).wp execUser (fun _ t => t = s ∨
      ∃ b, b.isVerified = false ∧ s.insert b = some t) s := by
  unfold registerUser
  split
  · exact .inl rfl
  · rename_i body hbody
    unfold findUserByEmailOrUsername
    cases emailOrUsername rt body.email body.username with
    | error err => exact .inl rfl
    | ok p =>
      simp only [bind_eq, wp_bind, wp_ofExcept_ok, wp_findOneUser]
      split
      · exact .inl rfl
      · split
        · rename_i username husername
          cases hdraft : newLocalUser rt req body username with
          | error err => exact .inl rfl
          | ok draft =>
            simp only [wp_bind, wp_ofExcept_ok, hcfg]
            refine wp_createUser rt req.salt draft (fun t _ hins => ?_) fun _ => .inl rfl
            have hunverified : (draft.hashed rt req.salt).isVerified = false :=
              (newLocalUser_eq_ok hdraft).1
            refine (wp_answerRegistration _ _ _).mono fun _ t' ht' => ?_
            exact ht' ▸ .inr ⟨_, hunverified, hins⟩
        · exact .inl rfl

/-- The origins after a sign-in by Google. -/
lemma origin_googleAuth (r : GoogleRequest) (s : UserStore) :
    ∀ v ∈ ((googleAuth rt cfg r).run execUser s).2, Origin rt cfg s (.google r) v := by
  cases hauth : authenticate cfg r with
  | error err =>
    rw [run_googleAuth_of_error hauth]
    exact fun v hv => .of_mem _ hv
  | ok token =>
    obtain ⟨payload, address⟩ := token
    cases hsub : findUser (User.hasGoogleId payload.sub) s with
    | some u =>
      obtain ⟨res, hrun, -⟩ := run_googleAuth_of_sub rt hauth hsub
      rw [hrun]
      exact fun v hv => .of_mem _ hv
    | none =>
      cases hemail : findUser (User.hasEmail rt (rt.toLowerCase address)) s with
      | some u =>
        obtain ⟨res, t, hrun, ht, -⟩ := run_googleAuth_of_email hauth hsub hemail
        rw [hrun]
        exact Origin.of_replace ht (findUser_eq_some hemail).1 rfl (.inl rfl) fun _ =>
          .inr ⟨payload, address, hauth, hsub, hemail⟩
      | none =>
        rcases run_googleAuth_of_new hauth hsub hemail with
          ⟨err, hrun⟩ | ⟨res, name, t, hrun, ht, -⟩
        · rw [hrun]
          exact fun v hv => .of_mem _ hv
        · rw [hrun]
          exact Origin.of_insert ht fun _ => rfl

/-- **What a request does** to passwords and verifications, where verification is required. -/
theorem origin_serve (hcfg : cfg.autoVerifyUsers = false) (req : Request) (s : UserStore) :
    ∀ v ∈ (serve rt cfg req s).2, Origin rt cfg s req v := by
  rw [serve_snd]
  cases req with
  | register r =>
    have hrun : ((registerUser rt cfg r).run execUser s).2 = s ∨ ∃ b, b.isVerified = false ∧
        s.insert b = some ((registerUser rt cfg r).run execUser s).2 :=
      wp_registerUser_unverified hcfg r s
    rcases hrun with heq | ⟨b, hb, ht⟩
    · simp only [Request.handler, heq]
      exact fun v hv => .of_mem _ hv
    · exact Origin.of_insert ht fun h => by rw [hb] at h; cases h
  | login r =>
    have heq : ((loginUser rt r).run execUser s).2 = s := wp_loginUser r s
    simp only [Request.handler, heq]
    exact fun v hv => .of_mem _ hv
  | verify r =>
    by_cases hpasses : ∀ u ∈ s, rt.castObjectId r.id = .ok u.id → u.isVerified = false →
        ¬Passes r u
    · simp only [Request.handler, run_verifyUser_of_not_passes hpasses]
      exact fun v hv => .of_mem _ hv
    · simp only [not_forall, not_not] at hpasses
      obtain ⟨u, hu, hid, hunverified, hpasses⟩ := hpasses
      obtain ⟨t, hrun, ht⟩ := run_verifyUser_of_passes hu hid hunverified hpasses
      simp only [Request.handler, hrun]
      exact Origin.of_replace ht hu rfl (.inl rfl) fun _ => .inr ⟨hid, hpasses⟩
  | forgot r =>
    rcases (@wp_forgotPassword rt r s).2 with heq | ⟨u, hu, ht⟩
    · simp only [Request.handler, heq]
      exact fun v hv => .of_mem _ hv
    · exact Origin.of_replace ht hu rfl (.inl rfl) .inl
  | reset r =>
    rcases (@wp_resetPassword rt r s).2 with heq | ⟨u, hu, htoken, b, hb, hverified, ht⟩
    · simp only [Request.handler, heq]
      exact fun v hv => .of_mem _ hv
    · exact Origin.of_replace ht hu hb.1.id.symm (.inr htoken) fun h => .inl (hverified ▸ h)
  | google r =>
    exact origin_googleAuth r s

/-- Generating a code changes no password and no verification. -/
lemma origin_generateOTP (rt : AuthRuntime) (cfg : AuthConfig) (w : AuthWorld) (id : ℕ) (draw : ℚ)
    (now : Time) : ∀ v ∈ (w.after rt cfg (.generateOTP id draw now)).store,
      ∃ u ∈ w.store, u.id = v.id ∧ u.password = v.password ∧ u.isVerified = v.isVerified := by
  by_cases hex : ∃ u ∈ w.store, u.id = id
  · obtain ⟨u, hu, rfl⟩ := hex
    obtain ⟨t, hrun, ht⟩ := run_issueOTP hu draw now
    simp only [AuthWorld.after, hrun]
    intro v hv
    rcases (Indexed.mem_replace ht).1 hv with ⟨hv, -⟩ | ⟨rfl, -⟩
    · exact ⟨v, hv, rfl, rfl, rfl⟩
    · exact ⟨u, hu, rfl, rfl, rfl⟩
  · have hnone : findUser (fun u => u.id = id) w.store = none :=
      findUser_eq_none_iff.2 fun u hu => decide_eq_false fun h => hex ⟨u, hu, h⟩
    simp only [AuthWorld.after, issueOTP, findUserById, bind_eq, run_bind, run_findOneUser, hnone]
    exact fun v hv => ⟨v, hv, rfl, rfl, rfl⟩

/-- The password of an account is the one stored with it. -/
lemma passwordOf_of_mem (hu : u ∈ s) : passwordOf s u.id = u.password := by
  simp [passwordOf, findUser_id hu]

/-- A stored password is that of an account. -/
lemma exists_of_passwordOf {id : ℕ} (h : (passwordOf s id).isSome) :
    ∃ u ∈ s, u.id = id ∧ u.password.isSome := by
  unfold passwordOf at h
  cases hu : findUser (fun u => u.id = id) s with
  | none => simp [hu] at h
  | some u =>
    obtain ⟨hmem, hid⟩ := findUser_eq_some hu
    exact ⟨u, hmem, by simpa using hid, by simpa [hu] using h⟩

/-! ## Who has set them -/

/-- The password of every account was set by somebody, and that of a verified account by somebody
who has proved control of its mailbox. -/
structure Armed (w : PartyWorld π) : Prop where
  /-- The codes stored were generated. -/
  codes : CodesIssued w.accounts
  /-- Somebody has set the password. -/
  set : ∀ u ∈ w.accounts.store, u.password.isSome → ∃ p, w.setter u.id = some p
  /-- And has proved control, if the account is verified. -/
  proved : ∀ u ∈ w.accounts.store, u.isVerified = true → u.password.isSome →
    ∀ p, w.setter u.id = some p → w.proved p u.id

variable {w w' : PartyWorld π} {e : PartyEvent π}

/-- With no accounts, there is nothing to set. -/
lemma armed_empty : Armed (PartyWorld.empty : PartyWorld π) where
  codes := codesIssued_empty
  set _ hu := absurd hu Indexed.not_mem_empty
  proved _ hu := absurd hu Indexed.not_mem_empty

/-- **Verifying an account proves control** of its mailbox: it takes a code that was generated, or
a Google account with the address. -/
lemma proves_of_verifies {w : AuthWorld} {req : Request} (hw : CodesIssued w)
    (homits : ¬OmitsCode rt w (.request req)) (hu : u ∈ w.store)
    (hunverified : u.isVerified = false) (h : Verifies rt cfg w.store req u) :
    Proves rt cfg w req u.id := by
  cases req with
  | verify r =>
    obtain ⟨hid, hpasses⟩ := h
    obtain ⟨t, hrun, ht⟩ := run_verifyUser_of_passes hu hid hunverified hpasses
    have hserve : (serve rt cfg (.verify r) w.store).2 = t := (serve_snd _ _).trans hrun
    have hmem : u.verified ∈ t := (Indexed.mem_replace ht).2 (.inr ⟨rfl, u, hu, rfl⟩)
    constructor
    · simp only [hserve, becomesVerified, Bool.and_eq_true, List.any_eq_true, decide_eq_true_eq,
        Bool.not_eq_true']
      exact ⟨⟨u, hu, rfl, hunverified⟩, u.verified, hmem, rfl, rfl⟩
    · have hlaw : VerifiesByCode w (.request (.verify r)) (w.after rt cfg (.request (.verify r))) :=
        (verifiesByCode_step_iff hw rfl).2 homits
      have hmem' : u.verified ∈ (serve rt cfg (.verify r) w.store).2 := hserve ▸ hmem
      obtain ⟨c, hc, hcid, -, hsubmitted⟩ := hlaw u hu u.verified hmem' rfl hunverified rfl
      exact ⟨c, hc, hcid, hsubmitted⟩
  | google r =>
    obtain ⟨payload, address, hauth, hsub, hemail⟩ := h
    obtain ⟨res, t, hrun, -, hsessions⟩ := run_googleAuth_of_email hauth hsub hemail
    have hserve : serve rt cfg (.google r) w.store = (res, t) := serve_of_ok hrun
    refine ⟨u.generateAccessToken, ?_, rfl⟩
    rw [hserve, hsessions]
    exact List.mem_cons_self
  | register r => exact h.elim
  | login r => exact h.elim
  | forgot r => exact h.elim
  | reset r => exact h.elim

/-- **One request.** A request under the condition keeps the passwords armed by their owners.

**Proof sketch.** A verified account with a password comes from an account with the same id. If
its password has changed, the request carries the token of its reset, and the sender has set it. If
it has not, whoever had set it before has, and has proved control already, or else the request
verifies the account and its sender proves control by that. -/
lemma Armed.request (hcfg : cfg.autoVerifyUsers = false) (hw : Armed w) {sender : π}
    {req : Request} (homits : ¬OmitsCode rt w.accounts (.request req))
    (hown : VerifiesOwn rt cfg w (.request sender req) w') :
    Armed (w.after rt cfg (.request sender req)) := by
  let t := (serve rt cfg req w.accounts.store).2
  have hstored : ∀ v ∈ t, passwordOf t v.id = passwordOf w.accounts.store v.id →
      passwordOf w.accounts.store v.id = v.password := by
    intro v hv hsame
    rw [← hsame, passwordOf_of_mem hv]
  refine ⟨hw.codes.request rt cfg req, fun v hv hpassword => ?_, ?_⟩
  · change ∃ p, (if passwordOf t v.id = passwordOf w.accounts.store v.id then w.setter v.id
      else some sender) = some p
    split_ifs with hsame
    · obtain ⟨u, hu, hid, hpassword'⟩ := exists_of_passwordOf (hstored v hv hsame ▸ hpassword)
      rw [← hid]
      exact hw.set u hu hpassword'
    · exact ⟨sender, rfl⟩
  · intro v hv hverified hpassword p hp
    change (if passwordOf t v.id = passwordOf w.accounts.store v.id then w.setter v.id
      else some sender) = some p at hp
    rcases origin_serve hcfg req w.accounts.store v hv with
      ⟨u, hu, hid, hchanged, hbecomes⟩ | hnew
    · rw [← hid] at hp ⊢
      split_ifs at hp with hsame
      · have hpassword' : u.password.isSome := by
          rw [← passwordOf_of_mem hu, hid, hstored v hv (hid ▸ hsame)]
          exact hpassword
        cases hunverified : u.isVerified with
        | true => exact .inl (hw.proved u hu hunverified hpassword' p hp)
        | false =>
          have hverifies : Verifies rt cfg w.accounts.store req u :=
            (hbecomes hverified).resolve_left (by simp [hunverified])
          rcases hown u hu hunverified hpassword' hverifies p hp with rfl | hproved
          · exact .inr ⟨rfl, proves_of_verifies hw.codes homits hu hunverified hverifies⟩
          · exact .inl hproved
      · obtain rfl := Option.some.inj hp
        refine .inr ⟨rfl, ?_⟩
        rcases hchanged with hkept | htoken
        · have hsame' : passwordOf t v.id = passwordOf w.accounts.store v.id := by
            rw [passwordOf_of_mem (s := t) hv, hkept, ← hid, passwordOf_of_mem hu]
          exact absurd (hid ▸ hsame') hsame
        · cases req with
          | reset r => exact ⟨u, hu, rfl, htoken⟩
          | _ => exact htoken.elim
    · rw [hnew hverified] at hpassword
      cases hpassword

/-- **One step.** A step under the condition keeps the passwords armed by their owners. -/
theorem Armed.step (hcfg : cfg.autoVerifyUsers = false) (hw : Armed w)
    (h : PartyStep rt cfg w e w') (hown : VerifiesOwn rt cfg w e w') : Armed w' := by
  obtain ⟨homits, rfl⟩ := h
  cases e with
  | request sender req => exact hw.request hcfg homits hown
  | generateOTP id draw now =>
    have horigin := origin_generateOTP rt cfg w.accounts id draw now
    refine ⟨hw.codes.generateOTP rt cfg id draw now, fun v hv hpassword => ?_,
      fun v hv hverified hpassword p hp => ?_⟩
    · obtain ⟨u, hu, hid, hpassword', -⟩ := horigin v hv
      rw [← hpassword'] at hpassword
      rw [← hid]
      exact hw.set u hu hpassword
    · obtain ⟨u, hu, hid, hpassword', hverified'⟩ := horigin v hv
      rw [← hpassword'] at hpassword
      rw [← hverified'] at hverified
      rw [← hid] at hp ⊢
      exact hw.proved u hu hverified hpassword p hp

/-- Where the passwords are armed by their owners, the law holds. -/
lemma Armed.rejectsUnproven (hw : Armed w) (e : PartyEvent π) (w' : PartyWorld π) :
    RejectsUnproven rt cfg w e w' := by
  cases e with
  | generateOTP id draw now => trivial
  | request sender req =>
    cases req with
    | login r =>
      intro k hk
      have hlogin := (@wp_loginUser_outcome rt r w.accounts.store).2
      rcases hrun : (loginUser rt r).run execUser w.accounts.store with ⟨err | res, t⟩
      · have hserve : serve rt cfg (.login r) w.accounts.store = (errorMiddleware err, t) :=
          serve_of_error hrun
        simp [hserve] at hk
      · have hserve : serve rt cfg (.login r) w.accounts.store = (res, t) := serve_of_ok hrun
        rw [hserve] at hk
        obtain ⟨u, hu, hverified, hpassword, user, shown, hid, rfl⟩ := hlogin res (by rw [hrun])
        rw [mem_sessions_signIn] at hk
        have hkey : k.id = u.id := by rw [hk, ← hid]; rfl
        obtain ⟨p, hp⟩ := hw.set u hu hpassword
        rw [hkey]
        exact ⟨p, hp, hw.proved u hu hverified hpassword p hp⟩
    | _ => trivial

/-- **Linking arms no unproven password**, along every run whose verifications meet the
condition. -/
theorem rejectsUnproven_of_verifiesOwn (rt : AuthRuntime) (cfg : AuthConfig)
    (hcfg : cfg.autoVerifyUsers = false) (es : List (PartyEvent π))
    (h : AllSteps (PartyStep rt cfg) (VerifiesOwn rt cfg) .empty es) :
    AllSteps (PartyStep rt cfg) (RejectsUnproven rt cfg) .empty es :=
  h.imp (fun _ e w' hw _ _ => hw.rejectsUnproven e w') (fun _ _ _ hw hstep hown =>
    hw.step hcfg hstep hown) armed_empty

/-! ## An account registered by somebody else -/

/-- The sample deployment, comparing passwords with hashes of one salt. -/
def comparingRuntime : AuthRuntime :=
  { sampleRuntime with
    compare := fun entered hash => .ok (match entered with
      | .str password => hash = sampleRuntime.hash password "salt"
      | _ => false) }

/-- A login with the password of the registration. -/
def adaLogsIn : Request :=
  .login ⟨some ⟨.str "ada@example.test", .undefined, .str "correct-horse"⟩, 0⟩

/-- The law, when the account is registered, linked and logged in to by the same sender. -/
theorem rejectsUnproven_of_verifiesOwn_owner :
    AllSteps (PartyStep comparingRuntime strictConfig)
      (RejectsUnproven comparingRuntime strictConfig) (.empty : PartyWorld Bool)
      [.request true adaRegisters, .request true (adaSignsIn "100" 1),
        .request true adaLogsIn] := by
  refine rejectsUnproven_of_verifiesOwn comparingRuntime strictConfig rfl _ ?_
  rw [allSteps_cons]
  rintro w₁ ⟨-, rfl⟩
  refine ⟨fun u hu => absurd hu Indexed.not_mem_empty, ?_⟩
  rw [allSteps_cons]
  rintro w₂ ⟨-, rfl⟩
  constructor
  · have hsetter : ∀ u ∈ (PartyWorld.after comparingRuntime strictConfig .empty
        (.request true adaRegisters)).accounts.store.docs,
          (PartyWorld.after comparingRuntime strictConfig .empty
            (.request true adaRegisters)).setter u.id = some true := by decide +kernel
    intro u hu _ _ _ p hp
    exact .inl (Option.some.inj (hp.symm.trans (hsetter u hu)))
  · rw [allSteps_cons]
    rintro w₃ ⟨-, rfl⟩
    exact ⟨fun _ _ _ _ hno => hno.elim, allSteps_nil _ _⟩

/-- **Linking arms an unproven password**: one sender registers the address of another, who signs
in with Google; then the first one logs in. -/
theorem linking_arms_unproven_password :
    ¬AllSteps (PartyStep comparingRuntime strictConfig)
      (RejectsUnproven comparingRuntime strictConfig) (.empty : PartyWorld Bool)
      [.request false adaRegisters, .request true (adaSignsIn "100" 1),
        .request false adaLogsIn] := by
  intro h
  let w : PartyWorld Bool := (PartyWorld.after comparingRuntime strictConfig .empty
    (.request false adaRegisters)).after comparingRuntime strictConfig
      (.request true (adaSignsIn "100" 1))
  have hlaw : ∀ k ∈ (serve comparingRuntime strictConfig adaLogsIn w.accounts.store).1.sessions,
      ∃ p, w.setter k.id = some p ∧ w.proved p k.id :=
    h [.request false adaRegisters, .request true (adaSignsIn "100" 1)] _ [] _ _ rfl
      (.cons ⟨not_false, rfl⟩ (.cons ⟨not_false, rfl⟩ (.nil _))) ⟨not_false, rfl⟩
  have hsession : ∃ k ∈ (serve comparingRuntime strictConfig adaLogsIn
      w.accounts.store).1.sessions, k.id = 0 := by decide +kernel
  have hsetter : w.setter 0 = some false := by decide +kernel
  obtain ⟨k, hk, hid⟩ := hsession
  obtain ⟨p, hp, hproved⟩ := hlaw k hk
  rw [hid] at hp hproved
  obtain rfl := Option.some.inj (hp.symm.trans hsetter)
  rcases hproved with (hnone | ⟨-, hregister⟩) | ⟨hother, -⟩
  · exact hnone
  · exact hregister
  · cases hother

end WatchTower
