import Mathlib.Logic.Equiv.Basic
import WatchTower.Auth.Requests
import WatchTower.Transition.Interleave

set_option relaxedAutoImplicit false
set_option autoImplicit false

/-!
# Reset links under concurrency

Any number of requests of the password reset are served at once. Each reads an account and saves
it later, and the save writes the modified paths to the document with that id, whatever has become
of the token in the meantime. A link therefore works once when its requests come one after
another, as the tests send them, but not when two of them read the account before either saves it.

## Main definitions

* `WatchTower.ResetStep` — the requests, their calls to the collection in any order, and the time.
* `WatchTower.issued`, `WatchTower.used` — the links issued for an account, and the resets saved.
* `WatchTower.SingleUse` — a reset carries the newest link of the account, unexpired and unused.
* `WatchTower.Stands` — the token of a reset still stands in the document when it is saved.

## Main results

* `WatchTower.spec_handler` — what a request calls.
* `WatchTower.Links.step` — while resets are saved under the condition, the token in a document is
  that of the newest link, until it is used.
* `WatchTower.singleUse_iff` — links are used once exactly in the runs whose resets all meet the
  condition.
-/

namespace WatchTower

open Documents Transition Transition.Prog

variable {ι : Type}

/-- A request of the password reset. -/
inductive ResetFlow
  | forgot (req : ForgotRequest)
  | reset (req : ResetRequest)

/-- The handler of a request. -/
def ResetFlow.handler (rt : AuthRuntime) : ResetFlow → Accounts Response
  | .forgot req => forgotPassword rt req
  | .reset req => resetPassword rt req

/-- The users collection, and the time. -/
structure ResetStore where
  /-- The collection. -/
  users : UserStore
  /-- The time of the last operation. -/
  clock : Time

/-- An operation is performed, at some later time. -/
def ResetStore.Performs (o : UserOp) (s : ResetStore) (r : Except Thrown o.Resp)
    (s' : ResetStore) : Prop :=
  execUser o s.users = (r, s'.users) ∧ s.clock ≤ s'.clock

/-- The requests and the collection that they share. -/
abbrev ResetWorld (ι : Type) := Shared ι ResetStore UserOp.Resp Thrown Response

/-- What happens. -/
abbrev ResetEvent (ι : Type) := SharedEvent ι UserOp.Resp Thrown Response

/-- A request arrives, or performs its next operation. -/
abbrev ResetStep [DecidableEq ι] (rt : AuthRuntime) (requests : ι → ResetFlow) :
    ResetWorld ι → ResetEvent ι → ResetWorld ι → Prop :=
  SharedStep (fun i _ p => p = (requests i).handler rt) ResetStore.Performs

/-- When the link of a request expires. -/
def ForgotRequest.expires (req : ForgotRequest) : Time := req.now + 15 * 60 * 1000

/-- Every link has a token of its own. -/
def FreshTokens (requests : ι → ResetFlow) : Prop :=
  ∀ i j link link', requests i = .forgot link → requests j = .forgot link' →
    link.token = link'.token → i = j

/-! ## What has happened -/

/-- The account that a lookup has found. -/
def noteFound : Answered UserOp.Resp Thrown → Option User
  | ⟨.findOne _ _, .ok found⟩ => found
  | _ => none

/-- The account that a save has written to. -/
def noteSave : Answered UserOp.Resp Thrown → Option ℕ
  | ⟨.update account _, .ok _⟩ => some account
  | _ => none

/-- The links issued for an account, oldest first: those whose save was performed. -/
def issued (requests : ι → ResetFlow) (account : ℕ) (h : List (ResetEvent ι)) :
    List ForgotRequest :=
  (notesOf noteSave h).filterMap fun (i, saved) => match requests i with
    | .forgot link => if saved = account then some link else none
    | .reset _ => none

/-- The resets that have changed a password, oldest first. -/
def used (requests : ι → ResetFlow) (h : List (ResetEvent ι)) : List ResetRequest :=
  (notesOf noteSave h).filterMap fun (i, _) => match requests i with
    | .forgot _ => none
    | .reset req => some req

/-- **Single use.** When a reset changes a password, it carries the newest link issued for the
account, which has not expired, and no reset before it carried the same token. -/
def SingleUse (requests : ι → ResetFlow) (h : List (ResetEvent ι)) (_ : ResetWorld ι)
    (e : ResetEvent ι) (w' : ResetWorld ι) : Prop :=
  ∀ i account changes req, e = .call i (.update account changes) (.ok ()) →
    requests i = .reset req →
    (∃ link, (issued requests account h).getLast? = some link ∧ link.token = req.token ∧
      w'.store.clock < link.expires) ∧
    ∀ earlier ∈ used requests h, earlier.token ≠ req.token

/-- The condition: when a reset is saved, the document still holds the hash of its token, and the
link with this token has not expired. -/
def Stands (rt : AuthRuntime) (requests : ι → ResetFlow) (_ : List (ResetEvent ι))
    (w : ResetWorld ι) (e : ResetEvent ι) (w' : ResetWorld ι) : Prop :=
  ∀ i account changes req, e = .call i (.update account changes) (.ok ()) →
    requests i = .reset req →
    (∃ u ∈ w.store.users, u.id = account ∧
      u.forgotPasswordToken = some (rt.sha256 req.token)) ∧
    ∃ j link, requests j = .forgot link ∧ link.token = req.token ∧ w'.store.clock < link.expires

section Notes

variable {requests : ι → ResetFlow} {account : ℕ} {h : List (ResetEvent ι)}

/-- A link issued is one of a request that has saved. -/
lemma mem_issued {link : ForgotRequest} : link ∈ issued requests account h ↔
    ∃ i, (i, account) ∈ notesOf noteSave h ∧ requests i = .forgot link := by
  simp only [issued, List.mem_filterMap, Prod.exists]
  constructor
  · rintro ⟨i, saved, hmem, hlink⟩
    cases hi : requests i with
    | reset req => simp [hi] at hlink
    | forgot link' =>
      simp only [hi, Option.ite_none_right_eq_some, Option.some.injEq] at hlink
      obtain ⟨rfl, rfl⟩ := hlink
      exact ⟨i, hmem, hi⟩
  · rintro ⟨i, hmem, hi⟩
    exact ⟨i, account, hmem, by simp [hi]⟩

/-- A reset used is one of a request that has saved. -/
lemma mem_used {req : ResetRequest} : req ∈ used requests h ↔
    ∃ i saved, (i, saved) ∈ notesOf noteSave h ∧ requests i = .reset req := by
  simp only [used, List.mem_filterMap, Prod.exists]
  constructor
  · rintro ⟨i, saved, hmem, hreq⟩
    cases hi : requests i with
    | forgot link => simp [hi] at hreq
    | reset req' =>
      obtain rfl : req' = req := by simpa [hi] using hreq
      exact ⟨i, saved, hmem, hi⟩
  · rintro ⟨i, saved, hmem, hi⟩
    exact ⟨i, saved, hmem, by simp [hi]⟩

/-- The links issued so far remain issued. -/
lemma issued_append (h' : List (ResetEvent ι)) : issued requests account (h ++ h') =
    issued requests account h ++ issued requests account h' := by
  simp [issued, notesOf]

end Notes

/-! ## One request -/

/-- What a request writes to an account that it has found: a new token, or none in the place of
the token that it carries. -/
def ResetFlow.Writes (rt : AuthRuntime) (u : User) (changes : UserChanges) : ResetFlow → Prop
  | .forgot link => changes.forgotPasswordToken =
      changed u.forgotPasswordToken (some (rt.sha256 link.token))
  | .reset req => u.forgotPasswordToken = some (rt.sha256 req.token) ∧
      changes.forgotPasswordToken = some none

/-- What a request may call next: one lookup, and one save to the account that was found. -/
def ResetFlow.Permits (rt : AuthRuntime) (f : ResetFlow) (h : List (Answered UserOp.Resp Thrown)) :
    UserOp → Prop
  | .findOne _ _ => h = []
  | .update account changes => ∃ p withPassword u,
      h = [⟨.findOne p withPassword, .ok (some u)⟩] ∧ account = u.id ∧ f.Writes rt u changes
  | .exists _ => False
  | .insert _ => False

/-- A lookup answers with a document that matches. -/
def AnswersMatching : (o : UserOp) → Except Thrown o.Resp → Prop
  | .findOne p withPassword, r =>
    ∀ u, r = .ok (some u) → ∃ v, p v = true ∧ u = v.select withPassword
  | .exists _, _ => True
  | .insert _, _ => True
  | .update _ _, _ => True

lemma answersMatching_of_performs (o : UserOp) (s : ResetStore) (r : Except Thrown o.Resp)
    (s' : ResetStore) (h : ResetStore.Performs o s r s') : AnswersMatching o r := by
  cases o with
  | findOne p withPassword =>
    intro u hu
    have hr : Except.ok ((findUser p s.users).map (·.select withPassword)) = r :=
      (Prod.mk.inj h.1).1
    rw [hu] at hr
    obtain ⟨v, hv, rfl⟩ := Option.map_eq_some_iff.1 (Except.ok.inj hr)
    exact ⟨v, (findUser_eq_some hv).2, rfl⟩
  | «exists» p => trivial
  | insert u => trivial
  | update id changes => trivial

/-- A request for a link looks an account up and saves the new token. -/
lemma spec_forgotPassword (rt : AuthRuntime) (req : ForgotRequest) :
    (forgotPassword rt req).Spec AnswersMatching ((ResetFlow.forgot req).Permits rt)
      (fun _ _ => True) [] := by
  unfold forgotPassword
  split
  · trivial
  · rename_i email hemail
    split_ifs
    · trivial
    · cases rt.toText email with
      | error err => trivial
      | ok text =>
        simp only [bind_eq]
        refine Spec.bind ?_
        change Spec _ _ _ _ (if _ then _ else _)
        split_ifs
        · trivial
        · refine Spec.bind (Spec.bind (spec_await.2 ⟨rfl, fun r _ => ?_⟩))
          cases r with
          | error err => trivial
          | ok found =>
            cases found with
            | none => trivial
            | some u =>
              refine Spec.bind (spec_await.2 ⟨⟨_, _, u, rfl, rfl, rfl⟩, fun r _ => ?_⟩)
              cases r <;> trivial

/-- A reset looks up the account with its token, and clears the token with the save. -/
lemma spec_resetPassword (rt : AuthRuntime) (req : ResetRequest) :
    (resetPassword rt req).Spec AnswersMatching ((ResetFlow.reset req).Permits rt)
      (fun _ _ => True) [] := by
  unfold resetPassword
  split
  · trivial
  · rename_i newPassword hpassword
    split_ifs
    · trivial
    · cases rt.toText newPassword with
      | error err => trivial
      | ok text =>
        simp only [bind_eq]
        refine Spec.bind ?_
        change Spec _ _ _ _ (if _ then _ else _)
        split_ifs
        · trivial
        · unfold findUserByForgotToken
          split_ifs
          · trivial
          · refine Spec.bind (Spec.bind (spec_await.2 ⟨rfl, fun r hr => ?_⟩))
            cases r with
            | error err => trivial
            | ok found =>
              cases found with
              | none => trivial
              | some u =>
                obtain ⟨_, hmatches, rfl⟩ := hr u rfl
                have htoken : u.forgotPasswordToken = some (rt.sha256 req.token) := by
                  simpa using (Bool.and_eq_true_iff.1 hmatches).1
                refine Spec.bind ?_
                cases (rt.castString newPassword).mapError fun _ => validationError with
                | error err => trivial
                | ok password =>
                  refine Spec.bind ?_
                  unfold saveUser
                  split_ifs
                  · refine spec_await.2 ⟨⟨_, _, _, rfl, by simp; rfl, htoken, ?_⟩, fun r _ => ?_⟩
                    · unfold UserDoc.preSave
                      split_ifs <;> simp [UserDoc.modifiedPaths, UserDoc.assign, UserDoc.ofLoaded,
                        User.hashed, htoken, changed]
                    · cases r <;> trivial
                  · trivial

/-- **Every request** makes only the calls permitted. -/
theorem spec_handler (rt : AuthRuntime) (f : ResetFlow) :
    (f.handler rt).Spec AnswersMatching (f.Permits rt) (fun _ _ => True) [] := by
  cases f with
  | forgot req => exact spec_forgotPassword rt req
  | reset req => exact spec_resetPassword rt req

/-! ## What stands in the documents -/

variable {rt : AuthRuntime} {requests : ι → ResetFlow} {s : ResetStore} {w w' : ResetWorld ι}
  {h : List (ResetEvent ι)} {e : ResetEvent ι}

/-- A save that is carried out replaces the document with its id. -/
lemma exec_update_eq_ok {users users' : UserStore} {account : ℕ} {changes : UserChanges}
    (h : execUser (.update account changes) users = (.ok (), users')) :
    ∃ u ∈ users, u.id = account ∧ ∀ v, v ∈ users' ↔
      (v ∈ users ∧ v.id ≠ account) ∨ v = u.set changes := by
  simp only [execUser] at h
  cases hu : findUser (fun u => u.id = account) users with
  | none => simp [hu] at h
  | some u =>
    obtain ⟨hmem, hid⟩ := findUser_eq_some hu
    have hid : u.id = account := by simpa using hid
    simp only [hu] at h
    cases ht : users.replace (u.set changes) with
    | none => simp [ht] at h
    | some t =>
      obtain rfl : t = users' := by simpa [ht] using h
      refine ⟨u, hmem, hid, fun v => ?_⟩
      rw [Indexed.mem_replace ht]
      refine or_congr (and_congr_right fun _ => ?_) ⟨And.left, fun hv => ⟨hv, u, hmem, rfl⟩⟩
      rw [← hid]
      rfl

/-- Every other answer leaves the collection as it is. -/
lemma exec_eq_of_noteSave {o : UserOp} {r : Except Thrown o.Resp} {users users' : UserStore}
    (h : execUser o users = (r, users')) (hquiet : noteSave ⟨o, r⟩ = none)
    (hinsert : ∀ u, o ≠ .insert u) : users' = users := by
  cases o with
  | findOne p withPassword => exact (Prod.mk.inj h).2.symm
  | «exists» p => exact (Prod.mk.inj h).2.symm
  | insert u => exact absurd rfl (hinsert u)
  | update account changes =>
    simp only [execUser] at h
    split at h
    · exact (Prod.mk.inj h).2.symm
    · split at h
      · obtain ⟨rfl, -⟩ := Prod.mk.inj h
        cases hquiet
      · exact (Prod.mk.inj h).2.symm

/-- The tokens in the documents, given what has happened. -/
structure Links (rt : AuthRuntime) (requests : ι → ResetFlow) (h : List (ResetEvent ι))
    (w : ResetWorld ι) : Prop where
  /-- A token in a document is that of the newest link, which is not used. -/
  standing : ∀ u ∈ w.store.users, ∀ hash, u.forgotPasswordToken = some hash →
    ∃ link, (issued requests u.id h).getLast? = some link ∧ rt.sha256 link.token = hash ∧
      ∀ req ∈ used requests h, req.token ≠ link.token
  /-- Where there is none, the newest link is used. -/
  cleared : ∀ u ∈ w.store.users, u.forgotPasswordToken = none →
    ∀ link, (issued requests u.id h).getLast? = some link →
      ∃ req ∈ used requests h, req.token = link.token
  /-- Only tokens of links are used. -/
  genuine : ∀ req ∈ used requests h, ∃ account, ∃ link ∈ issued requests account h,
    link.token = req.token
  /-- A token that was read is that of a link issued for the account. -/
  found : ∀ i u, (i, u) ∈ notesOf noteFound h → ∀ hash, u.forgotPasswordToken = some hash →
    ∃ link ∈ issued requests u.id h, rt.sha256 link.token = hash
  /-- A request saves to one account. -/
  once : ∀ i account account', (i, account) ∈ notesOf noteSave h →
    (i, account') ∈ notesOf noteSave h → account = account'

/-- Before anything has happened, no document has a token. -/
lemma Links.idle (hs : ∀ u ∈ s.users, u.forgotPasswordToken = none) :
    Links rt requests [] (.idle s) where
  standing u hu hash htoken := by simp [hs u hu] at htoken
  cleared u _ _ link hlink := by simp [issued] at hlink
  genuine req hreq := by simp [used] at hreq
  found i u hu := by simp at hu
  once i account account' hsaved := by simp at hsaved

/-- A token in a document is that of a link issued for the account. -/
lemma Links.exists_issued (hl : Links rt requests h w) {u : User} (hu : u ∈ w.store.users)
    {hash : String} (htoken : u.forgotPasswordToken = some hash) :
    ∃ link ∈ issued requests u.id h, rt.sha256 link.token = hash := by
  obtain ⟨link, hlast, hlink, -⟩ := hl.standing u hu hash htoken
  exact ⟨link, List.mem_of_getLast? hlast, hlink⟩

/-- A step without a save keeps the links. -/
lemma Links.quiet (hl : Links rt requests h w) (husers : w'.store.users = w.store.users)
    (hsaves : notesOf noteSave [e] = [])
    (hfound : ∀ i u, (i, u) ∈ notesOf noteFound [e] →
      ∃ v ∈ w.store.users, v.id = u.id ∧ v.forgotPasswordToken = u.forgotPasswordToken) :
    Links rt requests (h ++ [e]) w' := by
  have hissued : ∀ account, issued requests account (h ++ [e]) = issued requests account h :=
    fun account => by rw [issued, notesOf_append, hsaves, List.append_nil, issued]
  have hused : used requests (h ++ [e]) = used requests h := by
    rw [used, notesOf_append, hsaves, List.append_nil, used]
  constructor
  · simpa only [husers, hissued, hused] using hl.standing
  · simpa only [husers, hissued, hused] using hl.cleared
  · simpa only [hissued, hused] using hl.genuine
  · intro i u hu hash htoken
    rw [hissued]
    rcases List.mem_append.1 (notesOf_append noteFound h [e] ▸ hu) with hu | hu
    · exact hl.found i u hu hash htoken
    · obtain ⟨v, hv, hid, htoken'⟩ := hfound i u hu
      rw [← hid]
      exact hl.exists_issued hv (htoken'.trans htoken)
  · simpa only [notesOf_append, hsaves, List.append_nil] using hl.once

/-- A link whose request has not saved has a token that no link issued so far has. -/
lemma ne_token_of_not_saved (hfresh : FreshTokens requests) {i : ι} {link : ForgotRequest}
    (hi : requests i = .forgot link) (hsaved : ∀ account, (i, account) ∉ notesOf noteSave h)
    {account : ℕ} {link' : ForgotRequest} (hlink' : link' ∈ issued requests account h) :
    link'.token ≠ link.token := by
  intro heq
  obtain ⟨j, hj, hrequest⟩ := mem_issued.1 hlink'
  obtain rfl := hfresh j i link' link hrequest hi heq
  exact hsaved account hj

section Save

/-! ## A save -/

variable {i : ι} {read : User} {changes : UserChanges}

/-- The event of a save to an account that was read. -/
abbrev saveOf (i : ι) (read : User) (changes : UserChanges) : ResetEvent ι :=
  .call i (.update read.id changes) (.ok ())

/-- A save of a request that has not saved keeps what is found and that saves are single. -/
lemma Links.save (hl : Links rt requests h w)
    (hsaved : ∀ account, (i, account) ∉ notesOf noteSave h) :
    (∀ j u, (j, u) ∈ notesOf noteFound (h ++ [saveOf i read changes]) →
      ∀ hash, u.forgotPasswordToken = some hash →
        ∃ link ∈ issued requests u.id (h ++ [saveOf i read changes]),
          rt.sha256 link.token = hash) ∧
    ∀ j account account', (j, account) ∈ notesOf noteSave (h ++ [saveOf i read changes]) →
      (j, account') ∈ notesOf noteSave (h ++ [saveOf i read changes]) → account = account' := by
  constructor
  · intro j u hu hash htoken
    have hu : (j, u) ∈ notesOf noteFound h := by simpa [noteFound] using hu
    obtain ⟨link, hlink, heq⟩ := hl.found j u hu hash htoken
    rw [issued_append]
    exact ⟨link, List.mem_append_left _ hlink, heq⟩
  · intro j account account' hj hj'
    simp only [notesOf_call, noteSave, Option.map_some, Option.toList_some, List.mem_append,
      List.mem_singleton, Prod.mk.injEq] at hj hj'
    rcases hj with hj | ⟨rfl, rfl⟩
    · rcases hj' with hj' | ⟨rfl, rfl⟩
      · exact hl.once j account account' hj hj'
      · exact absurd hj (hsaved account)
    · rcases hj' with hj' | ⟨-, rfl⟩
      · exact absurd hj' (hsaved account')
      · rfl

/-- **A new link keeps the links.** -/
lemma Links.issue (hsha : Function.Injective rt.sha256) (hfresh : FreshTokens requests)
    (hl : Links rt requests h w) {link : ForgotRequest} (hi : requests i = .forgot link)
    (hread : (i, read) ∈ notesOf noteFound h)
    (hsaved : ∀ account, (i, account) ∉ notesOf noteSave h)
    (hwrites : (requests i).Writes rt read changes)
    (hexec : execUser (.update read.id changes) w.store.users = (.ok (), w'.store.users)) :
    Links rt requests (h ++ [saveOf i read changes]) w' := by
  have hused : used requests (h ++ [saveOf i read changes]) = used requests h := by
    simp [used, notesOf, noteSave, hi]
  have hissued : issued requests read.id (h ++ [saveOf i read changes]) =
      issued requests read.id h ++ [link] := by
    simp [issued, notesOf, noteSave, hi]
  have hothers : ∀ account, account ≠ read.id →
      issued requests account (h ++ [saveOf i read changes]) = issued requests account h := by
    intro account hne
    simp [issued, notesOf, noteSave, hi, Ne.symm hne]
  have hnew : ∀ {account link'}, link' ∈ issued requests account h → link'.token ≠ link.token :=
    ne_token_of_not_saved hfresh hi hsaved
  -- The token that was read is an older one, so the new one is among the modified paths.
  have hchanges : changes.forgotPasswordToken = some (some (rt.sha256 link.token)) := by
    rw [hi] at hwrites
    rw [hwrites, changed, if_neg]
    intro htoken
    obtain ⟨link', hlink', heq⟩ := hl.found i read hread _ htoken
    exact hnew hlink' (hsha heq)
  obtain ⟨u, -, hid, hmem⟩ := exec_update_eq_ok hexec
  have hset : (u.set changes).forgotPasswordToken = some (rt.sha256 link.token) := by
    simp [User.set, hchanges]
  have hkey : (u.set changes).id = read.id := hid
  refine ⟨?_, ?_, ?_, (hl.save hsaved).1, (hl.save hsaved).2⟩
  · intro v hv hash htoken
    rw [hused]
    rcases (hmem v).1 hv with ⟨hv, hne⟩ | rfl
    · rw [hothers _ hne]
      exact hl.standing v hv hash htoken
    · rw [hkey, hissued]
      refine ⟨link, by simp, Option.some.inj (hset.symm.trans htoken), fun req hreq heq => ?_⟩
      obtain ⟨account, link', hlink', heq'⟩ := hl.genuine req hreq
      exact hnew hlink' (heq'.trans heq)
  · intro v hv htoken link' hlink'
    rw [hused]
    rcases (hmem v).1 hv with ⟨hv, hne⟩ | rfl
    · rw [hothers _ hne] at hlink'
      exact hl.cleared v hv htoken link' hlink'
    · rw [hset] at htoken
      cases htoken
  · intro req hreq
    rw [hused] at hreq
    obtain ⟨account, link', hlink', heq⟩ := hl.genuine req hreq
    simp only [issued_append]
    exact ⟨account, link', List.mem_append_left _ hlink', heq⟩

/-- **A reset keeps the links**, if its token stands in the document. -/
lemma Links.consume (hsha : Function.Injective rt.sha256) (hfresh : FreshTokens requests)
    (hl : Links rt requests h w) {req : ResetRequest} (hi : requests i = .reset req)
    (hsaved : ∀ account, (i, account) ∉ notesOf noteSave h)
    (hwrites : (requests i).Writes rt read changes)
    (hexec : execUser (.update read.id changes) w.store.users = (.ok (), w'.store.users))
    (hstands : ∃ u ∈ w.store.users, u.id = read.id ∧
      u.forgotPasswordToken = some (rt.sha256 req.token)) :
    Links rt requests (h ++ [saveOf i read changes]) w' := by
  have hissued : ∀ account, issued requests account (h ++ [saveOf i read changes]) =
      issued requests account h := by
    intro account
    simp [issued, notesOf, noteSave, hi]
  have hused : used requests (h ++ [saveOf i read changes]) = used requests h ++ [req] := by
    simp [used, notesOf, noteSave, hi]
  obtain ⟨u, hu, hid, htoken⟩ := hstands
  obtain ⟨link, hlast, hhash, -⟩ := hl.standing u hu _ htoken
  have hlink : link.token = req.token := hsha hhash
  rw [hid] at hlast
  rw [hi] at hwrites
  obtain ⟨u', -, hid', hmem⟩ := exec_update_eq_ok hexec
  have hset : (u'.set changes).forgotPasswordToken = none := by simp [User.set, hwrites.2]
  have hkey : (u'.set changes).id = read.id := hid'
  refine ⟨?_, ?_, ?_, (hl.save hsaved).1, (hl.save hsaved).2⟩
  · intro v hv hash hv'
    rcases (hmem v).1 hv with ⟨hv, hne⟩ | rfl
    · obtain ⟨link', hlast', hhash', hunused⟩ := hl.standing v hv hash hv'
      refine ⟨link', by rw [hissued, hlast'], hhash', fun req' hreq' => ?_⟩
      rw [hused, List.mem_append, List.mem_singleton] at hreq'
      rcases hreq' with hreq' | rfl
      · exact hunused req' hreq'
      · -- The token is that of the link of this account, and no request saves to two accounts.
        intro heq
        obtain ⟨j, hj, hrequest⟩ := mem_issued.1 (List.mem_of_getLast? hlast)
        obtain ⟨j', hj', hrequest'⟩ := mem_issued.1 (List.mem_of_getLast? hlast')
        obtain rfl := hfresh j j' link link' hrequest hrequest' (hlink.trans heq)
        exact hne (hl.once j v.id read.id hj' hj)
    · rw [hset] at hv'
      cases hv'
  · intro v hv hv' link' hlink'
    rw [hused]
    rw [hissued] at hlink'
    rcases (hmem v).1 hv with ⟨hv, hne⟩ | rfl
    · obtain ⟨req', hreq', heq⟩ := hl.cleared v hv hv' link' hlink'
      exact ⟨req', List.mem_append_left _ hreq', heq⟩
    · rw [hkey, hlast] at hlink'
      obtain rfl := Option.some.inj hlink'
      exact ⟨req, by simp, hlink.symm⟩
  · intro req' hreq'
    rw [hused, List.mem_append, List.mem_singleton] at hreq'
    rcases hreq' with hreq' | rfl
    · obtain ⟨account, link', hlink', heq⟩ := hl.genuine req' hreq'
      exact ⟨account, link', by rwa [hissued], heq⟩
    · exact ⟨read.id, link, by
        rw [hissued]
        exact List.mem_of_getLast? hlast, hlink⟩

end Save

/-! ## Runs -/

section Runs

variable [DecidableEq ι]

/-- What a request does next is permitted. -/
lemma permits_of_run (hrun : Run (ResetStep rt requests) (.idle s) h w) {i : ι} {o : UserOp}
    {k : Except Thrown o.Resp → Accounts Response} (hi : w.todo i = some (.call o k)) :
    (requests i).Permits rt (callsOf i h) o := by
  have hstarts : ∀ i (_ : ResetStore) (p : Accounts Response), p = (requests i).handler rt →
      p.Spec AnswersMatching ((requests i).Permits rt) (fun _ _ => True) [] := by
    rintro i _ _ rfl
    exact spec_handler rt (requests i)
  exact hrun.permits hstarts answersMatching_of_performs hi

/-- A request that saves has read the account, and has not saved before. -/
lemma read_of_permits {i : ι} {account : ℕ} {changes : UserChanges}
    (hp : (requests i).Permits rt (callsOf i h) (.update account changes)) :
    ∃ read, account = read.id ∧ (requests i).Writes rt read changes ∧
      (i, read) ∈ notesOf noteFound h ∧ ∀ saved, (i, saved) ∉ notesOf noteSave h := by
  obtain ⟨p, withPassword, read, hcalls, hid, hwrites⟩ := hp
  refine ⟨read, hid, hwrites, ?_, fun saved => ?_⟩
  · rw [mem_notesOf, hcalls]
    simp [noteFound]
  · rw [mem_notesOf, hcalls]
    simp [noteSave]

/-- **One step.** A step under the condition keeps the links. -/
theorem Links.step (hsha : Function.Injective rt.sha256) (hfresh : FreshTokens requests)
    (hrun : Run (ResetStep rt requests) (.idle s) h w) (hl : Links rt requests h w)
    (hstep : ResetStep rt requests w e w') (hstands : Stands rt requests h w e w') :
    Links rt requests (h ++ [e]) w' := by
  cases hstep with
  | start hi hp => exact hl.quiet rfl rfl (by simp [notesOf])
  | @call i o k r s' hi hperforms =>
    have hpermits := permits_of_run hrun hi
    have hquiet : noteSave ⟨o, r⟩ = none → Links rt requests (h ++ [.call i o r])
        ⟨s', Function.update w.todo i (some (k r))⟩ := by
      intro hnone
      have husers : s'.users = w.store.users :=
        exec_eq_of_noteSave hperforms.1 hnone (by rintro u rfl; exact hpermits)
      refine hl.quiet husers (by simp [notesOf, hnone]) fun j u hu => ?_
      cases o with
      | findOne p withPassword =>
        have hr : Except.ok ((findUser p w.store.users).map (·.select withPassword)) = r :=
          (Prod.mk.inj hperforms.1).1
        subst hr
        obtain ⟨v, hv, -, rfl⟩ : ∃ v, findUser p w.store.users = some v ∧ i = j ∧
            v.select withPassword = u := by simpa [notesOf, noteFound] using hu
        refine ⟨v, (findUser_eq_some hv).1, ?_⟩
        cases withPassword <;> exact ⟨rfl, rfl⟩
      | «exists» p => exact hpermits.elim
      | insert u => exact hpermits.elim
      | update account changes => simp [notesOf, noteFound] at hu
    cases o with
    | findOne p withPassword => exact hquiet rfl
    | «exists» p => exact hquiet rfl
    | insert u => exact hquiet rfl
    | update account changes =>
      cases r with
      | error err => exact hquiet rfl
      | ok =>
        obtain ⟨read, rfl, hwrites, hread, hsaved⟩ := read_of_permits hpermits
        cases hrequest : requests i with
        | forgot link => exact hl.issue hsha hfresh hrequest hread hsaved hwrites hperforms.1
        | reset req =>
          exact hl.consume hsha hfresh hrequest hsaved hwrites hperforms.1
            (hstands i read.id changes req rfl hrequest).1

/-- A reset is saved lawfully exactly when it meets the condition. -/
lemma Links.singleUse_iff_stands (hsha : Function.Injective rt.sha256)
    (hfresh : FreshTokens requests) (hl : Links rt requests h w)
    (hstep : ResetStep rt requests w e w') :
    SingleUse requests h w e w' ↔ Stands rt requests h w e w' := by
  constructor
  · rintro hlaw i account changes req rfl hi
    obtain ⟨⟨link, hlast, htoken, hexpires⟩, hunused⟩ := hlaw i account changes req rfl hi
    obtain ⟨j, -, hj⟩ := mem_issued.1 (List.mem_of_getLast? hlast)
    refine ⟨?_, j, link, hj, htoken, hexpires⟩
    cases hstep with
    | call _ hperforms =>
      obtain ⟨u, hu, rfl, -⟩ := exec_update_eq_ok hperforms.1
      cases hstored : u.forgotPasswordToken with
      | none =>
        obtain ⟨earlier, hearlier, heq⟩ := hl.cleared u hu hstored link hlast
        exact absurd (heq.trans htoken) (hunused earlier hearlier)
      | some hash =>
        obtain ⟨link', hlast', hhash, -⟩ := hl.standing u hu hash hstored
        obtain rfl := Option.some.inj (hlast'.symm.trans hlast)
        exact ⟨u, hu, rfl, by rw [hstored, ← hhash, htoken]⟩
  · rintro hstands i account changes req rfl hi
    obtain ⟨⟨u, hu, rfl, hstored⟩, j, link', hj, htoken', hexpires⟩ :=
      hstands i account changes req rfl hi
    obtain ⟨link, hlast, hhash, hunused⟩ := hl.standing u hu _ hstored
    have htoken : link.token = req.token := hsha hhash
    obtain ⟨j', -, hj'⟩ := mem_issued.1 (List.mem_of_getLast? hlast)
    obtain rfl := hfresh j' j link link' hj' hj (htoken.trans htoken'.symm)
    obtain rfl := ResetFlow.forgot.inj (hj'.symm.trans hj)
    exact ⟨⟨link, hlast, htoken, hexpires⟩, fun earlier hearlier heq =>
      hunused earlier hearlier (heq.trans htoken.symm)⟩

/-- **Reset links are used once, while they are new**, exactly in the runs whose resets are saved
while their token stands in the document and has not expired. -/
theorem singleUse_iff (rt : AuthRuntime) (requests : ι → ResetFlow)
    (hsha : Function.Injective rt.sha256) (hfresh : FreshTokens requests) (s : ResetStore)
    (hs : ∀ u ∈ s.users, u.forgotPasswordToken = none) (es : List (ResetEvent ι)) :
    AllStepsAfter (ResetStep rt requests) (SingleUse requests) (.idle s) es ↔
      AllStepsAfter (ResetStep rt requests) (Stands rt requests) (.idle s) es :=
  allStepsAfter_iff (fun _ _ _ _ _ hl hstep => hl.singleUse_iff_stands hsha hfresh hstep)
    (fun _ _ _ _ hrun hl hstep hstands => hl.step hsha hfresh hrun hstep hstands)
    (Links.idle hs) es

end Runs

/-! ## A link that is used twice -/

/-- A reset with a long enough password looks an account up, and then saves to the account found. -/
lemma exists_calls_resetPassword (rt : AuthRuntime) {req : ResetRequest} {text : String}
    (hpassword : req.newPassword = some (.str text)) (htext : (Js.str text).truthy = true)
    (hlong : 6 ≤ jsLength text) (htoken : req.token ≠ "") :
    ∃ k, resetPassword rt req = .call (.findOne (fun u =>
        u.forgotPasswordToken = some (rt.sha256 req.token) &&
          u.forgotPasswordExpire.any (req.now < ·)) true) k ∧
      ∀ u : User, (u.username ≠ "" ∧ u.fullname ≠ "" ∧ u.email ≠ "") →
        ∃ changes k', k (.ok (some u)) = .call (.update u.id changes) k' := by
  have htoText : rt.toText (.str text) = .ok text := by
    simp [AuthRuntime.toText, Except.map]
  unfold resetPassword
  simp only [hpassword, htext, htoText, ofExcept, bind_eq, Prog.bind, if_neg (Nat.not_lt.2 hlong),
    Bool.true_eq_false, if_false, findUserByForgotToken, if_neg htoken]
  refine ⟨_, rfl, fun u hu => ?_⟩
  have hvalid : ((UserDoc.ofLoaded u req.now).assign fun u => { u with
      password := some text, forgotPasswordToken := none,
      forgotPasswordExpire := none }).user.valid = true := by
    simp [User.valid, UserDoc.assign, UserDoc.ofLoaded, User.hydrate, hu, hlong]
  change ∃ changes k', Prog.bind (saveUser rt req.salt _) _ = call (.update u.id changes) k'
  rw [saveUser, if_pos hvalid, saveUnvalidated, UserDoc.preSave_id]
  exact ⟨_, _, rfl⟩

/-- A save to the only account is carried out. -/
lemma exists_exec_update {users : UserStore} {u : User} (hdocs : users.docs = [u])
    (changes : UserChanges) : ∃ users', users'.docs = [u.set changes] ∧
      execUser (.update u.id changes) users = (.ok (), users') := by
  have hmem : u ∈ users := by simp [Indexed.mem_def, hdocs]
  obtain ⟨users', ht⟩ : ∃ users', users.replace (u.set changes) = some users' := by
    refine Indexed.exists_replace fun v hv hne => ?_
    obtain rfl : v = u := by simpa [Indexed.mem_def, hdocs] using hv
    exact absurd rfl hne
  refine ⟨users', ?_, by simp only [execUser, findUser_id hmem, ht]⟩
  unfold Indexed.replace at ht
  split_ifs at ht
  obtain rfl := Option.some.inj ht
  simp [hdocs, User.set]

/-- The account of `ada`. -/
def ada : User where
  id := 0
  username := "ada"
  fullname := "Ada"
  email := "ada@example.test"
  password := some "hash"
  provider := .localAccount
  googleId := none
  forgotPasswordToken := none
  forgotPasswordExpire := none
  isVerified := true
  otp := none
  otpExpire := some 0
  avatar := ""

/-- Her account alone. -/
def adaStore : ResetStore := ⟨⟨[ada], List.pairwise_singleton _ _⟩, 0⟩

lemma noToken_adaStore : ∀ u ∈ adaStore.users, u.forgotPasswordToken = none := by
  intro u hu
  obtain rfl : u = ada := List.mem_singleton.1 hu
  rfl

/-- A token drawn. -/
def drawnToken : String :=
  "6b86b273ff34fce19d6b804eff5a3f5747ada4eaa22f1d49c01e52ddb7875b4b"

/-- Its SHA-256 digest. -/
def drawnDigest : String :=
  "e0bc614e4fd035a488619799853b075143deea596c477b8dc077e309c0fe42e9"

/-- The sample deployment, with the digest of this token. -/
def digestRuntime : AuthRuntime :=
  { sampleRuntime with sha256 := Equiv.swap drawnToken drawnDigest }

lemma injective_sha256_digestRuntime : Function.Injective digestRuntime.sha256 :=
  (Equiv.swap drawnToken drawnDigest).injective

/-- Two resets that carry one link. -/
def rivalReset (i : Fin 3) : ResetRequest where
  token := drawnToken
  newPassword := some (.str (if i = 1 then "correct-horse" else "battery-staple"))
  now := 1
  salt := "salt"

/-- The request for the link, and these resets. -/
def rivalRequests (i : Fin 3) : ResetFlow :=
  if i = 0 then .forgot ⟨some (.str "ada@example.test"), 0, drawnToken⟩ else .reset (rivalReset i)

lemma freshTokens_rivalRequests : FreshTokens rivalRequests := by
  intro i j link link' hi hj _
  unfold rivalRequests at hi hj
  split_ifs at hi hj with hi₀ hj₀
  rw [hi₀, hj₀]

/-- Her account once the link is issued. -/
def linkedAda : User := User.generateForgotToken digestRuntime drawnToken 0 ada

/-- The filter of both resets. -/
def pendingLink (u : User) : Bool :=
  u.forgotPasswordToken = some (digestRuntime.sha256 drawnToken) &&
    u.forgotPasswordExpire.any (1 < ·)

/-- Each reset reads by this filter, and saves the account it is given. -/
lemma rivalRequests_calls {i : Fin 3} (hi : i ≠ 0) : ∃ k changes k',
    (rivalRequests i).handler digestRuntime = .call (.findOne pendingLink true) k ∧
      k (.ok (some linkedAda)) = .call (.update 0 changes) k' := by
  have htext : (Js.str (if i = 1 then "correct-horse" else "battery-staple")).truthy = true := by
    split_ifs <;> decide +kernel
  have hlong : 6 ≤ jsLength (if i = 1 then "correct-horse" else "battery-staple") := by
    split_ifs <;> decide +kernel
  obtain ⟨k, hk, hsave⟩ := exists_calls_resetPassword digestRuntime
    (show (rivalReset i).newPassword = some (.str _) from rfl) htext hlong
    (show drawnToken ≠ "" by decide +kernel)
  obtain ⟨changes, k', hk'⟩ := hsave linkedAda (by decide +kernel)
  refine ⟨k, changes, k', ?_, hk'⟩
  rw [rivalRequests, if_neg hi]
  exact hk

/-- While the link stands, the filter finds the account. -/
lemma performs_pendingLink {s : ResetStore} (hdocs : s.users.docs = [linkedAda]) :
    ResetStore.Performs (.findOne pendingLink true) s (.ok (some linkedAda)) s := by
  have hfound : findUser pendingLink s.users = some linkedAda := by
    rw [findUser, hdocs]
    decide +kernel
  refine ⟨?_, Int.le_refl s.clock⟩
  simp only [execUser, hfound]
  rfl

/-- Both resets read the account before either of them saves. -/
lemma not_singleUse_rivals : ¬∀ es, AllStepsAfter (ResetStep digestRuntime rivalRequests)
    (SingleUse rivalRequests) (.idle adaStore) es := by
  intro h
  let perform (o : UserOp) (s : ResetStore) : Except Thrown o.Resp × ResetStore :=
    ((execUser o s.users).1, ⟨(execUser o s.users).2, s.clock⟩)
  have hperform : ∀ o s, ResetStore.Performs o s (perform o s).1 (perform o s).2 :=
    fun o s => ⟨rfl, Int.le_refl s.clock⟩
  -- The link is issued.
  let p := (rivalRequests 0).handler digestRuntime
  let w₀ : ResetWorld (Fin 3) := ⟨adaStore, Function.update (fun _ => none) 0 (some p)⟩
  have hstart : ResetStep digestRuntime rivalRequests (.idle adaStore) (.start 0 p) w₀ :=
    .start rfl rfl
  obtain ⟨es, hrun⟩ : ∃ es, Run (ResetStep digestRuntime rivalRequests) w₀ es
      ⟨(p.run perform adaStore).2,
        Function.update w₀.todo 0 (some (.done (p.run perform adaStore).1))⟩ :=
    exists_run_alone hperform p w₀ (by simp [w₀])
  let s₁ := (p.run perform adaStore).2
  have hdocs : s₁.users.docs = [linkedAda] := by decide +kernel
  -- Both resets find it.
  have hfind := performs_pendingLink hdocs
  obtain ⟨k₁, changes₁, k₁', hprog₁, hsave₁⟩ := rivalRequests_calls (i := 1) (by decide)
  obtain ⟨k₂, changes₂, k₂', hprog₂, hsave₂⟩ := rivalRequests_calls (i := 2) (by decide)
  obtain ⟨users₂, hdocs₂, hexec₁⟩ := exists_exec_update hdocs changes₁
  obtain ⟨users₃, -, hexec₂⟩ := exists_exec_update hdocs₂ changes₂
  -- Both save.
  let todo₁ : Fin 3 → Option (Accounts Response) :=
    Function.update w₀.todo 0 (some (.done (p.run perform adaStore).1))
  let todo₂ := Function.update todo₁ 1 (some (.call (.findOne pendingLink true) k₁))
  let todo₃ := Function.update todo₂ 1 (some (k₁ (.ok (some linkedAda))))
  let todo₄ := Function.update todo₃ 2 (some (.call (.findOne pendingLink true) k₂))
  let todo₅ := Function.update todo₄ 2 (some (k₂ (.ok (some linkedAda))))
  let todo₆ := Function.update todo₅ 1 (some (k₁' (.ok ())))
  let s₂ : ResetStore := ⟨users₂, s₁.clock⟩
  let s₃ : ResetStore := ⟨users₃, s₁.clock⟩
  let Step := ResetStep digestRuntime rivalRequests
  have h₁ : Step ⟨s₁, todo₁⟩ (.start 1 _) ⟨s₁, todo₂⟩ := .start (by simp [todo₁, w₀]) hprog₁.symm
  have h₂ : Step ⟨s₁, todo₂⟩ (.call 1 _ _) ⟨s₁, todo₃⟩ := .call (by simp [todo₂]) hfind
  have h₃ : Step ⟨s₁, todo₃⟩ (.start 2 _) ⟨s₁, todo₄⟩ :=
    .start (by simp [todo₃, todo₂, todo₁, w₀]) hprog₂.symm
  have h₄ : Step ⟨s₁, todo₄⟩ (.call 2 _ _) ⟨s₁, todo₅⟩ := .call (by simp [todo₄]) hfind
  have h₅ : Step ⟨s₁, todo₅⟩ (.call 1 (.update 0 changes₁) (.ok ())) ⟨s₂, todo₆⟩ :=
    .call (by simp [todo₅, todo₄, todo₃, hsave₁]) ⟨hexec₁, Int.le_refl s₁.clock⟩
  have h₆ : Step ⟨s₂, todo₆⟩ (.call 2 (.update 0 changes₂) (.ok ()))
      ⟨s₃, Function.update todo₆ 2 (some (k₂' (.ok ())))⟩ :=
    .call (by simp [todo₆, todo₅, hsave₂]) ⟨hexec₂, Int.le_refl s₁.clock⟩
  have hreads := (Run.cons hstart hrun).append
    (.cons h₁ (.cons h₂ (.cons h₃ (.cons h₄ (.cons h₅ (.nil _))))))
  have hlaw := h _ _ _ [] _ _ rfl hreads h₆ 2 0 changes₂ (rivalReset 2) rfl rfl
  refine hlaw.2 (rivalReset 1) (mem_used.2 ⟨1, 0, ?_, rfl⟩) rfl
  simp [notesOf, noteSave]

/-- In some run the second reset is saved although its token is gone. -/
theorem singleUse_iff_rivals : ∃ es, ¬AllStepsAfter (ResetStep digestRuntime rivalRequests)
    (Stands digestRuntime rivalRequests) (.idle adaStore) es := by
  obtain ⟨es, hes⟩ := not_forall.1 not_singleUse_rivals
  have hiff := singleUse_iff digestRuntime rivalRequests injective_sha256_digestRuntime
    freshTokens_rivalRequests adaStore noToken_adaStore es
  exact ⟨es, fun hstands => hes (hiff.2 hstands)⟩

/-- **A link may be used twice**: by two resets that both read the account before either saves. -/
theorem reset_link_used_twice : Function.Injective digestRuntime.sha256 ∧
    FreshTokens rivalRequests ∧ (∀ u ∈ adaStore.users, u.forgotPasswordToken = none) ∧
    ¬∀ es, AllStepsAfter (ResetStep digestRuntime rivalRequests) (SingleUse rivalRequests)
      (.idle adaStore) es :=
  ⟨injective_sha256_digestRuntime, freshTokens_rivalRequests, noToken_adaStore,
    not_singleUse_rivals⟩

end WatchTower
