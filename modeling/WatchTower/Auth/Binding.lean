import WatchTower.Auth.Requests

set_option relaxedAutoImplicit false
set_option autoImplicit false

/-!
# Bindings to Google accounts

When does an account keep the `sub` it is bound to? The lookup by `sub` comes first, so a token of
a bound `sub` signs in the account bound to it. A token of any other `sub` falls through to the
account with its e-mail address and binds that one, also if it was bound before.

## Main definitions

* `WatchTower.BindingsKept` — the law of bindings.
* `WatchTower.Rebinds` — the requests that break it.

## Main results

* `WatchTower.bindingsKept_step_iff` — at one request, the law holds exactly when the request is
  no such sign-in.
* `WatchTower.binding_permanent_iff` — the same for every run, and what follows for the accounts
  it leaves.
-/

namespace WatchTower

open Documents Transition Transition.Prog

/-- **The law of bindings**: every account that is bound stays bound to the same `sub`, and a
Google sign-in issues a session for it only to a token of that `sub`. -/
def BindingsKept (rt : AuthRuntime) (cfg : AuthConfig) (s : UserStore) (req : Request)
    (t : UserStore) : Prop :=
  ∀ u ∈ s, ∀ sub, u.googleId = some sub →
    (∃ v ∈ t, v.id = u.id ∧ v.googleId = some sub) ∧
      ∀ g, req = .google g → ∀ k ∈ (serve rt cfg req s).1.sessions, k.id = u.id →
        ∃ payload address, authenticate cfg g = .ok (payload, address) ∧ payload.sub = sub

/-- A token of a `sub` to which no account is bound carries the e-mail address of an account that
is bound. -/
def Rebinds (rt : AuthRuntime) (cfg : AuthConfig) (s : UserStore) (req : Request) : Prop :=
  match req with
  | .google g => ∃ payload address, authenticate cfg g = .ok (payload, address) ∧
      (∀ v ∈ s, v.googleId ≠ some payload.sub) ∧
      ∃ u ∈ s, u.email = rt.normalize (rt.toLowerCase address) ∧ u.googleId.isSome
  | _ => False

variable {rt : AuthRuntime} {cfg : AuthConfig} {s t : UserStore} {u v : User}

/-- An account is found by its e-mail address. -/
lemma findUser_hasEmail {email : String} (hu : u ∈ s) (h : u.email = rt.normalize email) :
    findUser (User.hasEmail rt email) s = some u := by
  cases hv : findUser (User.hasEmail rt email) s with
  | none => simpa [User.hasEmail, h] using findUser_eq_none_iff.1 hv u hu
  | some v =>
    obtain ⟨hmem, hemail⟩ := findUser_eq_some hv
    by_contra hne
    have hclash : v.clash u = false :=
      Indexed.clash_eq_false hmem hu fun heq => hne (congrArg some heq)
    simp only [User.hasEmail, decide_eq_true_eq] at hemail
    simp [User.clash, hemail, h] at hclash

/-- A request that changes no account and issues no session keeps the bindings. -/
lemma bindingsKept_of_silent {req : Request} (hstore : (serve rt cfg req s).2 = s)
    (hsessions : (serve rt cfg req s).1.sessions = []) :
    BindingsKept rt cfg s req (serve rt cfg req s).2 := by
  refine fun u hu sub hsub => ⟨⟨u, by rw [hstore]; exact hu, rfl, hsub⟩, fun g hg k hk => ?_⟩
  rw [hsessions] at hk
  cases hk

section SignIn

variable {g : GoogleRequest} {payload : TokenPayload} {address : String}

/-- A sign-in by the `sub` keeps the bindings. -/
lemma bindingsKept_of_sub (h : authenticate cfg g = .ok (payload, address))
    (hu : findUser (User.hasGoogleId payload.sub) s = some u) :
    BindingsKept rt cfg s (.google g) (serve rt cfg (.google g) s).2 := by
  obtain ⟨res, hrun, hsessions⟩ := run_googleAuth_of_sub rt h hu
  obtain ⟨hmem, hbound⟩ := findUser_eq_some hu
  have hgoogle : u.googleId = some payload.sub := by simpa [User.hasGoogleId] using hbound
  have hserve : serve rt cfg (.google g) s = (res, s) := serve_of_ok hrun
  intro v hv sub hsub
  rw [hserve]
  refine ⟨⟨v, hv, rfl, hsub⟩, ?_⟩
  rintro _ ⟨⟩ k hk hid
  simp only [hsessions, List.mem_cons, List.not_mem_nil, or_false, or_self] at hk
  rw [hk] at hid
  obtain rfl : u = v := Indexed.eq_of_key_eq hmem hv hid
  exact ⟨payload, address, h, Option.some.inj (hgoogle.symm.trans hsub)⟩

/-- A sign-in by the e-mail address keeps the bindings exactly if the account had none. -/
lemma bindingsKept_of_email_iff (h : authenticate cfg g = .ok (payload, address))
    (hsub : findUser (User.hasGoogleId payload.sub) s = none)
    (hu : findUser (User.hasEmail rt (rt.toLowerCase address)) s = some u) :
    BindingsKept rt cfg s (.google g) (serve rt cfg (.google g) s).2 ↔ u.googleId = none := by
  obtain ⟨res, t, hrun, ht, hsessions⟩ := run_googleAuth_of_email h hsub hu
  have hmem : u ∈ s := (findUser_eq_some hu).1
  have hserve : serve rt cfg (.google g) s = (res, t) := serve_of_ok hrun
  have hlinked : linked payload g.now u ∈ t :=
    (Indexed.mem_replace ht).2 (.inr ⟨rfl, u, hmem, rfl⟩)
  simp only [BindingsKept, hserve]
  constructor
  · intro hlaw
    cases hgoogle : u.googleId with
    | none => rfl
    | some sub =>
      obtain ⟨⟨v, hv, hid, hv'⟩, -⟩ := hlaw u hmem sub hgoogle
      obtain rfl : v = linked payload g.now u := Indexed.eq_of_key_eq hv hlinked hid
      -- The binding is the token's `sub` now, to which no account was bound before.
      have hnone := findUser_eq_none_iff.1 hsub u hmem
      simp only [User.hasGoogleId, decide_eq_false_iff_not] at hnone
      exact absurd (hgoogle.trans hv'.symm) hnone
  · intro hnone v hv sub hv'
    have hne : v ≠ u := by
      rintro rfl
      rw [hnone] at hv'
      cases hv'
    have hid : v.id ≠ u.id := fun hid => hne (Indexed.eq_of_key_eq hv hmem hid)
    refine ⟨⟨v, (Indexed.mem_replace ht).2 (.inl ⟨hv, hid⟩), rfl, hv'⟩, ?_⟩
    rintro _ ⟨⟩ k hk hkid
    simp only [hsessions, List.mem_cons, List.not_mem_nil, or_false, or_self] at hk
    rw [hk] at hkid
    exact absurd hkid.symm hid

/-- A sign-in with a new account, or one that fails, keeps the bindings. -/
lemma bindingsKept_of_new (h : authenticate cfg g = .ok (payload, address))
    (hsub : findUser (User.hasGoogleId payload.sub) s = none)
    (hemail : findUser (User.hasEmail rt (rt.toLowerCase address)) s = none) :
    BindingsKept rt cfg s (.google g) (serve rt cfg (.google g) s).2 := by
  rcases run_googleAuth_of_new h hsub hemail with
    ⟨err, hrun⟩ | ⟨res, name, t, hrun, ht, hsessions⟩
  · have hserve : serve rt cfg (.google g) s = (errorMiddleware err, s) := serve_of_error hrun
    exact bindingsKept_of_silent (by rw [hserve]) (by rw [hserve, sessions_errorMiddleware])
  · have hserve : serve rt cfg (.google g) s = (res, t) := serve_of_ok hrun
    intro u hu sub hu'
    rw [hserve]
    refine ⟨⟨u, (Indexed.mem_insert ht).2 (.inl hu), rfl, hu'⟩, ?_⟩
    rintro _ ⟨⟩ k hk hkid
    exact absurd (hkid.symm.trans (hsessions k hk)) (Indexed.key_ne_of_insert ht hu)

end SignIn

/-- **At one request**, the law holds exactly when the request does not rebind an account.

**Proof sketch.** A request other than a Google sign-in leaves the bindings alone. A sign-in finds
an account bound to its `sub`, and leaves everything as it is; or one with its e-mail address,
whose binding it writes; or it creates a new one. -/
theorem bindingsKept_step_iff {req : Request} (h : Served rt cfg s req t) :
    BindingsKept rt cfg s req t ↔ ¬Rebinds rt cfg s req := by
  obtain rfl := h
  by_cases hlocal : ∀ g, req ≠ .google g
  · have hno : ¬Rebinds rt cfg s req := by
      cases req with
      | google g => exact absurd rfl (hlocal g)
      | _ => exact not_false
    refine iff_of_true (fun u hu sub hsub => ⟨?_, fun g hg => absurd hg (hlocal g)⟩) hno
    obtain ⟨v, hv, hkeeps⟩ := (evolves_serve_local rt cfg req hlocal s).kept u hu
    exact ⟨v, hv, hkeeps.1.id, hkeeps.2.trans hsub⟩
  · simp only [not_forall, not_not] at hlocal
    obtain ⟨g, rfl⟩ := hlocal
    cases hauth : authenticate cfg g with
    | error err =>
      have hserve : serve rt cfg (.google g) s = (errorMiddleware err, s) :=
        serve_of_error (run_googleAuth_of_error hauth)
      refine iff_of_true (bindingsKept_of_silent (by rw [hserve])
        (by rw [hserve, sessions_errorMiddleware])) ?_
      rintro ⟨payload, address, hok, -⟩
      rw [hauth] at hok
      cases hok
    | ok token =>
      obtain ⟨payload, address⟩ := token
      have hrebinds : Rebinds rt cfg s (.google g) ↔ (∀ v ∈ s, v.googleId ≠ some payload.sub) ∧
          ∃ u ∈ s, u.email = rt.normalize (rt.toLowerCase address) ∧ u.googleId.isSome := by
        simp [Rebinds, hauth]
      rw [hrebinds]
      cases hsub : findUser (User.hasGoogleId payload.sub) s with
      | some u =>
        refine iff_of_true (bindingsKept_of_sub hauth hsub) fun hno => ?_
        obtain ⟨hu, hbound⟩ := findUser_eq_some hsub
        exact hno.1 u hu (by simpa [User.hasGoogleId] using hbound)
      | none =>
        have hunbound : ∀ v ∈ s, v.googleId ≠ some payload.sub := fun v hv => by
          simpa [User.hasGoogleId] using findUser_eq_none_iff.1 hsub v hv
        cases hemail : findUser (User.hasEmail rt (rt.toLowerCase address)) s with
        | some u =>
          rw [bindingsKept_of_email_iff hauth hsub hemail]
          constructor
          · rintro hnone ⟨-, v, hv, hvemail, hvbound⟩
            rw [findUser_hasEmail hv hvemail] at hemail
            obtain rfl := Option.some.inj hemail
            simp [hnone] at hvbound
          · intro hno
            obtain ⟨hu, hmatch⟩ := findUser_eq_some hemail
            by_contra hbound
            exact hno ⟨hunbound, u, hu, by simpa [User.hasEmail] using hmatch,
              Option.isSome_iff_ne_none.2 hbound⟩
        | none =>
          refine iff_of_true (bindingsKept_of_new hauth hsub hemail) ?_
          rintro ⟨-, v, hv, hvemail, -⟩
          rw [findUser_hasEmail hv hvemail] at hemail
          cases hemail

/-- Along requests that obey the law, an account keeps its binding. -/
lemma binding_kept_of_run {es : List Request} (hrun : Run (Served rt cfg) s es t)
    (hlaw : AllSteps (Served rt cfg) (BindingsKept rt cfg) s es) (hu : u ∈ s) {sub : String}
    (hsub : u.googleId = some sub) : ∃ v ∈ t, v.id = u.id ∧ v.googleId = some sub := by
  have hinv : ∀ s req t, (∃ v ∈ s, v.id = u.id ∧ v.googleId = some sub) →
      Served rt cfg s req t → BindingsKept rt cfg s req t →
      ∃ v ∈ t, v.id = u.id ∧ v.googleId = some sub := by
    rintro s req t ⟨v, hv, hid, hv'⟩ - hkept
    obtain ⟨⟨x, hx, hxid, hx'⟩, -⟩ := hkept v hv sub hv'
    exact ⟨x, hx, hxid.trans hid, hx'⟩
  exact hrun.invariant_of_allSteps hinv hlaw ⟨u, hu, rfl, hsub⟩

/-- **A Google binding is permanent exactly along runs that rebind no account.** For every run of
requests, from any accounts: every request obeys the law of bindings if and only if no sign-in
rebinds an account. Along such a run every account that is bound keeps its `sub`. -/
theorem binding_permanent_iff (rt : AuthRuntime) (cfg : AuthConfig) (s : UserStore)
    (es : List Request) :
    (AllSteps (Served rt cfg) (BindingsKept rt cfg) s es ↔
      AllSteps (Served rt cfg) (fun s req _ => ¬Rebinds rt cfg s req) s es) ∧
    (AllSteps (Served rt cfg) (fun s req _ => ¬Rebinds rt cfg s req) s es →
      ∀ t, Run (Served rt cfg) s es t → ∀ u ∈ s, ∀ sub, u.googleId = some sub →
        ∃ v ∈ t, v.id = u.id ∧ v.googleId = some sub) := by
  have hiff : ∀ s req t, True → Served rt cfg s req t →
      (BindingsKept rt cfg s req t ↔ ¬Rebinds rt cfg s req) := fun _ _ _ _ => bindingsKept_step_iff
  have hlaw : AllSteps (Served rt cfg) (BindingsKept rt cfg) s es ↔
      AllSteps (Served rt cfg) (fun s req _ => ¬Rebinds rt cfg s req) s es :=
    allSteps_iff hiff (fun _ _ _ _ _ _ => trivial) trivial es
  exact ⟨hlaw, fun hno t hrun u hu sub hsub => binding_kept_of_run hrun (hlaw.2 hno) hu hsub⟩

/-- **A reassigned address takes the account over**: the address of an account that the first
token created is carried by a token of another `sub`. -/
theorem reassigned_address_rebinds :
    ¬AllSteps (Served sampleRuntime strictConfig) (BindingsKept sampleRuntime strictConfig)
      (.empty _) [adaSignsIn "100" 0, adaSignsIn "200" 1] := by
  intro h
  have hlaw := h [adaSignsIn "100" 0] (adaSignsIn "200" 1) [] _ _ rfl (.cons rfl (.nil _)) rfl
  refine (bindingsKept_step_iff rfl).1 hlaw ⟨⟨"accounts.google.com", "200",
    some "ada@example.test", some true, some "Ada", none⟩, "ada@example.test", rfl, ?_, ?_⟩
  · simp only [Indexed.mem_def]
    decide +kernel
  · simp only [Indexed.mem_def]
    decide +kernel

end WatchTower
