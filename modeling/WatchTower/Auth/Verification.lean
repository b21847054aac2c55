import WatchTower.Auth.Requests

set_option relaxedAutoImplicit false
set_option autoImplicit false

/-!
# E-mail verification

When does `verifyUser` verify an account on the strength of a one-time code? It compares the
submitted value with the stored code and tests the expiry. An account for which no code was
generated has no stored code, but an expiry by default, so a body without an `otp` passes both
tests.

The codes are generated by the method `generateOTP` of the model. No request calls it; it is a
step of its own here, next to the requests.

## Main definitions

* `WatchTower.IssuedCode`, `WatchTower.AuthWorld` — the codes generated and not yet consumed, with
  the accounts.
* `WatchTower.VerifiesByCode` — the law of verification.
* `WatchTower.OmitsCode` — the requests that break it.

## Main results

* `WatchTower.verifiesByCode_step_iff` — at one step, the law holds exactly when the step is no
  such request.
* `WatchTower.verification_requires_code_iff` — the same for every run.
-/

namespace WatchTower

open Documents Transition Transition.Prog

/-- A one-time code that was generated for an account. -/
structure IssuedCode where
  /-- The account. -/
  userId : ℕ
  /-- The code. -/
  otp : String
  /-- Its expiry. -/
  otpExpire : Time
  deriving DecidableEq

/-- The accounts, with the codes that were generated and not consumed. -/
structure AuthWorld where
  /-- The users collection. -/
  store : UserStore
  /-- The codes. -/
  codes : List IssuedCode

/-- No accounts. -/
def AuthWorld.empty : AuthWorld := ⟨.empty _, []⟩

/-- What happens. -/
inductive AuthEvent
  /-- A request. -/
  | request (req : Request)
  /-- A code is generated for an account, from a random number. -/
  | generateOTP (id : ℕ) (draw : ℚ) (now : Time)

/-- Load an account and generate a code for it. -/
def issueOTP (id : ℕ) (draw : ℚ) (now : Time) : Accounts (Option String) := do
  let found : Option UserDoc ← findUserById id now
  match found with
  | none => return none
  | some doc =>
    let otp : String ← doc.generateOTP draw now
    return some otp

/-- Whether an account was not verified and now is. -/
def becomesVerified (s t : UserStore) (id : ℕ) : Bool :=
  s.docs.any (fun u => u.id = id && !u.isVerified) && t.docs.any fun v => v.id = id && v.isVerified

/-- The world after an event. A code is consumed when its account is verified. -/
def AuthWorld.after (rt : AuthRuntime) (cfg : AuthConfig) (w : AuthWorld) : AuthEvent → AuthWorld
  | .request req =>
    let t := (serve rt cfg req w.store).2
    ⟨t, w.codes.filter fun c => !becomesVerified w.store t c.userId⟩
  | .generateOTP id draw now =>
    match (issueOTP id draw now).run execUser w.store with
    | (.ok (some otp), t) => ⟨t, w.codes ++ [⟨id, otp, now + 20 * 60 * 1000⟩]⟩
    | (_, t) => ⟨t, w.codes⟩

/-- The world steps. -/
def AuthStep (rt : AuthRuntime) (cfg : AuthConfig) (w : AuthWorld) (e : AuthEvent)
    (w' : AuthWorld) : Prop :=
  w' = w.after rt cfg e

/-- **The law of verification**: a verification verifies an account only if a code was generated
for it that has not expired and was not consumed, and that is the code submitted. -/
def VerifiesByCode (w : AuthWorld) (e : AuthEvent) (w' : AuthWorld) : Prop :=
  match e with
  | .request (.verify req) => ∀ u ∈ w.store, ∀ v ∈ w'.store, v.id = u.id →
      u.isVerified = false → v.isVerified = true →
      ∃ c ∈ w.codes, c.userId = u.id ∧ req.now ≤ c.otpExpire ∧ req.otp = some (.str c.otp)
  | _ => True

/-- A verification submits no code, for an account that is not verified and has no code, before
the expiry that the account has all the same. -/
def OmitsCode (rt : AuthRuntime) (w : AuthWorld) (e : AuthEvent) : Prop :=
  match e with
  | .request (.verify req) => ∃ u ∈ w.store, rt.castObjectId req.id = .ok u.id ∧
      u.isVerified = false ∧ u.otp = none ∧ req.otp = some .undefined ∧
      isPast (u.hydrate req.now).otpExpire req.now = false
  | _ => False

/-- Every code stored with an account that is not verified was generated for it and not
consumed, and is stored with its expiry. -/
def CodesIssued (w : AuthWorld) : Prop :=
  ∀ u ∈ w.store, u.isVerified = false → ∀ otp, u.otp = some otp →
    ∃ e, u.otpExpire = some e ∧ ⟨u.id, otp, e⟩ ∈ w.codes

variable {rt : AuthRuntime} {cfg : AuthConfig} {s t : UserStore} {u v : User}
  {w w' : AuthWorld} {e : AuthEvent}

/-! ## One verification -/

/-- The tests of `verifyUser` on an account. -/
def Passes (req : VerifyRequest) (u : User) : Prop :=
  req.otp = some (Js.ofField u.otp) ∧ isPast (u.hydrate req.now).otpExpire req.now = false

/-- The tests on a document that was read are those on the account. -/
lemma passes_iff {req : VerifyRequest} {otp : Js} (hotp : req.otp = some otp) :
    Passes req u ↔ ¬(Js.ofField (UserDoc.ofLoaded (u.select false) req.now).user.otp ≠ otp ∨
      isPast (UserDoc.ofLoaded (u.select false) req.now).user.otpExpire req.now = true) := by
  rw [Passes, hotp, not_or, not_not, Option.some.injEq, Bool.not_eq_true, eq_comm (a := otp)]
  exact Iff.rfl

/-- **A request that passes the tests** verifies the account. -/
lemma run_verifyUser_of_passes {req : VerifyRequest} (hu : u ∈ s)
    (hid : rt.castObjectId req.id = .ok u.id) (hunverified : u.isVerified = false)
    (h : Passes req u) : ∃ t, ((verifyUser rt req).run execUser s).2 = t ∧
      s.replace u.verified = some t := by
  obtain ⟨t, hsave, ht⟩ := exists_run_saveUnvalidated
    ((UserDoc.ofLoaded (u.select false) req.now).assign User.verified) false hu rfl rfl rfl
  have hdoc : (UserDoc.ofLoaded (u.select false) req.now).user.isVerified = false := hunverified
  obtain ⟨otp, hotp⟩ : ∃ otp, req.otp = some otp := ⟨_, h.1⟩
  refine ⟨t, ?_, ht⟩
  simp only [verifyUser, hotp, hid, ofExcept, bind_eq, run_bind, run_ret, run_findUserById hu,
    hdoc, Bool.false_eq_true, if_false]
  rw [if_neg ((passes_iff hotp).1 h), run_bind, hsave]
  rfl

/-- **Any other request** changes nothing. -/
lemma run_verifyUser_of_not_passes {req : VerifyRequest}
    (h : ∀ u ∈ s, rt.castObjectId req.id = .ok u.id → u.isVerified = false → ¬Passes req u) :
    ((verifyUser rt req).run execUser s).2 = s := by
  change (verifyUser rt req).wp execUser (fun _ t => t = s) s
  unfold verifyUser
  split
  · rfl
  · rename_i otp hotp
    cases hid : rt.castObjectId req.id with
    | error err => rfl
    | ok id =>
      simp only [bind_eq, wp_bind, wp_ofExcept_ok, findUserById, wp_findOneUser]
      cases hfound : findUser (fun u => u.id = id) s with
      | none => rfl
      | some u =>
        obtain ⟨hu, hkey⟩ := findUser_eq_some hfound
        obtain rfl : u.id = id := by simpa using hkey
        simp only [Option.map_some]
        split
        · rfl
        · rename_i hunverified
          rw [if_pos]
          · rfl
          · by_contra htests
            have hu' : u.isVerified = false := Bool.eq_false_iff.2 hunverified
            exact h u hu hid hu' ((passes_iff hotp).2 htests)

/-! ## Runs -/

/-- Without an account that changes, nothing becomes verified. -/
lemma not_becomes_verified (hv : v ∈ s) (hu : u ∈ s) (hid : v.id = u.id)
    (hunverified : u.isVerified = false) : v.isVerified ≠ true := by
  obtain rfl := Indexed.eq_of_key_eq hv hu hid
  simp [hunverified]

/-- **At one step**, the law holds exactly when the step is no request that omits the code.

**Proof sketch.** An account becomes verified only if the request passes the tests on it. Then
the value submitted is what is stored with the account: a code, which was generated, or nothing,
in which case the request omits the code. -/
theorem verifiesByCode_step_iff (hw : CodesIssued w) (h : AuthStep rt cfg w e w') :
    VerifiesByCode w e w' ↔ ¬OmitsCode rt w e := by
  obtain rfl := h
  cases e with
  | generateOTP => simp [VerifiesByCode, OmitsCode]
  | request r =>
    cases r with
    | verify req =>
      have hstore : (w.after rt cfg (.request (.verify req))).store =
          ((verifyUser rt req).run execUser w.store).2 := serve_snd _ _
      simp only [VerifiesByCode, OmitsCode, hstore]
      constructor
      · rintro hlaw ⟨u, hu, hid, hunverified, hnone, homitted, hpast⟩
        have hpasses : Passes req u := ⟨by rw [homitted, hnone]; rfl, hpast⟩
        obtain ⟨t, ht, hreplace⟩ := run_verifyUser_of_passes hu hid hunverified hpasses
        rw [ht] at hlaw
        obtain ⟨c, -, -, -, hsubmitted⟩ := hlaw u hu u.verified
          ((Indexed.mem_replace hreplace).2 (.inr ⟨rfl, u, hu, rfl⟩)) rfl hunverified rfl
        rw [homitted] at hsubmitted
        cases hsubmitted
      · intro hno u hu v hv hvid hunverified hverified
        by_cases hpasses : ∀ x ∈ w.store, rt.castObjectId req.id = .ok x.id →
            x.isVerified = false → ¬Passes req x
        · rw [run_verifyUser_of_not_passes hpasses] at hv
          exact absurd hverified (not_becomes_verified hv hu hvid hunverified)
        · simp only [not_forall, not_not] at hpasses
          obtain ⟨x, hx, hid, hx', hpasses⟩ := hpasses
          obtain ⟨t, ht, hreplace⟩ := run_verifyUser_of_passes hx hid hx' hpasses
          rw [ht] at hv
          have hux : u = x := by
            rcases (Indexed.mem_replace hreplace).1 hv with ⟨hv, -⟩ | ⟨rfl, -⟩
            · exact absurd hverified (not_becomes_verified hv hu hvid hunverified)
            · exact Indexed.eq_of_key_eq hu hx hvid.symm
          subst hux
          obtain ⟨hsubmitted, hpast⟩ := hpasses
          cases hotp : u.otp with
          | none =>
            rw [hotp] at hsubmitted
            exact absurd ⟨u, hu, hid, hx', hotp, hsubmitted, hpast⟩ hno
          | some otp =>
            obtain ⟨expire, hexpire, hmem⟩ := hw u hu hx' otp hotp
            refine ⟨_, hmem, rfl, ?_, by rw [hsubmitted, hotp]; rfl⟩
            simpa [isPast, User.hydrate, hexpire] using hpast
    | _ => simp [VerifiesByCode, OmitsCode]

/-- With no accounts, no code is stored. -/
lemma codesIssued_empty : CodesIssued .empty := fun _ hu => absurd hu Indexed.not_mem_empty

/-- A request consumes the codes of the accounts it verifies, and keeps the others. -/
lemma CodesIssued.request (rt : AuthRuntime) (cfg : AuthConfig) (hw : CodesIssued w)
    (req : Request) :
    CodesIssued (w.after rt cfg (.request req)) := by
  have hevolves := evolves_serve rt cfg req w.store
  intro v hv hunverified otp hotp
  rcases hevolves.origin v hv with ⟨u, hu, hkeeps⟩ | hfresh
  · have hu' : u.isVerified = false := by
      cases hu' : u.isVerified with
      | false => rfl
      | true => rw [hkeeps.verified hu'] at hunverified; cases hunverified
    obtain ⟨e, he, hmem⟩ := hw u hu hu' otp (by rw [← hkeeps.otp hunverified, hotp])
    refine ⟨e, hkeeps.otpExpire hunverified e he, ?_⟩
    rw [hkeeps.id]
    refine List.mem_filter.2 ⟨hmem, ?_⟩
    -- The account is not verified after the request, so its codes are not consumed.
    have hstays : ∀ x ∈ (serve rt cfg req w.store).2.docs, x.id = u.id → x.isVerified = false := by
      intro x hx hid
      obtain rfl := Indexed.eq_of_key_eq hx hv (hid.trans hkeeps.id.symm)
      exact hunverified
    simp only [becomesVerified, Bool.not_eq_true', Bool.and_eq_false_imp, List.any_eq_false,
      Bool.and_eq_true, decide_eq_true_eq, not_and, Bool.not_eq_true]
    exact fun _ => hstays
  · rw [hfresh.otp hunverified] at hotp
    cases hotp

/-- Generating a code stores it with the account, and its expiry. -/
lemma run_issueOTP (hu : u ∈ s) (draw : ℚ) (now : Time) :
    ∃ t, (issueOTP u.id draw now).run execUser s = (.ok (some (drawOTP draw)), t) ∧
      s.replace (u.setOTP (drawOTP draw) now) = some t := by
  obtain ⟨t, hsave, ht⟩ := exists_run_saveUnvalidated
    ((UserDoc.ofLoaded (u.select false) now).assign (User.setOTP (drawOTP draw) now))
    false hu rfl rfl rfl
  refine ⟨t, ?_, ht⟩
  simp only [issueOTP, bind_eq, run_bind, run_findUserById hu, UserDoc.generateOTP, hsave]
  rfl

/-- After a code was generated, the codes stored are those generated. -/
lemma CodesIssued.generateOTP (rt : AuthRuntime) (cfg : AuthConfig) (hw : CodesIssued w)
    (id : ℕ) (draw : ℚ) (now : Time) :
    CodesIssued (w.after rt cfg (.generateOTP id draw now)) := by
  by_cases hex : ∃ u ∈ w.store, u.id = id
  · obtain ⟨u, hu, rfl⟩ := hex
    obtain ⟨t, hrun, hreplace⟩ := run_issueOTP hu draw now
    simp only [AuthWorld.after, hrun]
    intro v hv hunverified otp' hotp'
    rcases (Indexed.mem_replace hreplace).1 hv with ⟨hv, -⟩ | ⟨rfl, -⟩
    · obtain ⟨e, he, hmem⟩ := hw v hv hunverified otp' hotp'
      exact ⟨e, he, List.mem_append_left _ hmem⟩
    · obtain rfl := Option.some.inj hotp'
      exact ⟨_, rfl, List.mem_append_right _ (List.mem_singleton.2 rfl)⟩
  · have hnone : findUser (fun u => u.id = id) w.store = none :=
      findUser_eq_none_iff.2 fun u hu => decide_eq_false fun h => hex ⟨u, hu, h⟩
    simp only [AuthWorld.after, issueOTP, findUserById, bind_eq, run_bind, run_findOneUser, hnone]
    exact hw

/-- **E-mail verification requires an issued code, exactly along requests that do not omit it.**
For every sequence of requests and generated codes, from no accounts: every verification obeys the
law if and only if no request omits the code for an account that has none, before the default
expiry. -/
theorem verification_requires_code_iff (rt : AuthRuntime) (cfg : AuthConfig)
    (es : List AuthEvent) :
    AllSteps (AuthStep rt cfg) VerifiesByCode .empty es ↔
      AllSteps (AuthStep rt cfg) (fun w e _ => ¬OmitsCode rt w e) .empty es := by
  have hiff : ∀ w e w', CodesIssued w → AuthStep rt cfg w e w' →
      (VerifiesByCode w e w' ↔ ¬OmitsCode rt w e) := fun _ _ _ => verifiesByCode_step_iff
  have hinv : ∀ w e w', CodesIssued w → AuthStep rt cfg w e w' → ¬OmitsCode rt w e →
      CodesIssued w' := by
    rintro w e w' hw rfl -
    cases e with
    | request req => exact hw.request rt cfg req
    | generateOTP id draw now => exact hw.generateOTP rt cfg id draw now
  exact allSteps_iff hiff hinv codesIssued_empty es

/-- **A verification without a code is accepted**: an account is registered, and verified by a
request whose body has no `otp`. -/
theorem verification_accepts_missing_code :
    ¬AllSteps (AuthStep sampleRuntime strictConfig) VerifiesByCode .empty
      [.request adaRegisters,
        .request (.verify ⟨"64b0f0c2a1d3e4f506172839", some .undefined, 60000⟩)] := by
  intro h
  have hlaw := h [.request adaRegisters] _ [] _ _ rfl (.cons rfl (.nil _)) rfl
  have hissued := codesIssued_empty.request sampleRuntime strictConfig adaRegisters
  refine (verifiesByCode_step_iff hissued rfl).1 hlaw ?_
  simp only [OmitsCode, Indexed.mem_def]
  decide +kernel

end WatchTower
