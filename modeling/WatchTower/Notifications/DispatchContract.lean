import WatchTower.Notifications.Notifier

set_option relaxedAutoImplicit false
set_option autoImplicit false

/-!
# The contract of dispatch

A notifier that fails while it sends costs one entry, its own. But the notifiers are asked whether
they support the event before anything is sent, by a plain `filter`: one that throws there rejects
the whole dispatch, and nothing is sent or recorded. So does a failed send whose reason has a
message that the log line cannot print, and a failed audit write whose reason has none to read.

## Main definitions

* `WatchTower.Notifier.entries`, `WatchTower.promised` — what the contract promises of the results.
* `WatchTower.DispatchContract` — the contract of one dispatch, over all its runs.
* `WatchTower.Isolated` — another behaviour of one notifier changes its own entries only.
* `WatchTower.Behave`, `WatchTower.Dispatches` — no notifier, and no audit write either, throws
  where that is not caught.

## Main results

* `WatchTower.Dispatch.Stage.step` — every step keeps the invariant of a dispatch.
* `WatchTower.dispatchContract_iff` — a dispatch keeps its contract, and isolates its notifiers,
  exactly when neither a notifier nor an audit write throws where that is not caught.
-/

namespace WatchTower

open Transition

variable {payload : Payload} {audit audit' : ℕ → Recorded} {ns ns' : List Notifier}
  {n n' : Notifier} {s s' : Dispatch}

/-! ## What is promised -/

/-- The entries of a notifier whose `send` is called. -/
def Sent.entries (name : String) : Sent → List NotificationResult
  | .returned value => value.outcomes.map (·.entry name)
  | .failed (.undefined) | .failed (.null) => [failedEntry name none]
  | .failed (.message text) => [failedEntry name text]
  | .failed (.unprintable err) => [failedEntry name (some err.message)]

/-- The entries of a notifier: its outcomes if it supports the event, and one failure if it
throws. -/
def Notifier.entries (payload : Payload) (n : Notifier) : List NotificationResult :=
  match n.supports payload.event with
  | .error err => [failedEntry n.name (some err.message)]
  | .ok supported => if supported.truthy then (n.send payload).entries n.name else []

/-- The results that the contract promises: those of all notifiers, in the order of registration; of
an opt-out, its own entry. -/
def promised (payload : Payload) (ns : List Notifier) : List NotificationResult :=
  if payload.optedOut then [optOutEntry payload] else ns.flatMap (·.entries payload)

/-- Nothing that the dispatch waits for is left. -/
def Dispatch.Ended (payload : Payload) (audit : ℕ → Recorded) (s : Dispatch) : Prop :=
  ∀ e s', ¬DispatchStep payload audit s e s'

/-- **The contract of `dispatch`.** It never rejects; when all it waits for has ended, which takes a
bounded number of steps, it has resolved; it resolves with the promised results, and then one audit
write has been attempted for each. -/
structure DispatchContract (payload : Payload) (audit : ℕ → Recorded) (ns : List Notifier) :
    Prop where
  never_rejects : ∀ es s err, Run (DispatchStep payload audit) (dispatch payload ns) es s →
    s.promise ≠ .rejected err
  bounded : ∃ bound, ∀ es s, Run (DispatchStep payload audit) (dispatch payload ns) es s →
    es.length ≤ bound
  answers : ∀ es s, Run (DispatchStep payload audit) (dispatch payload ns) es s →
    s.Ended payload audit → s.promise = .resolved (promised payload ns)
  results : ∀ es s results, Run (DispatchStep payload audit) (dispatch payload ns) es s →
    s.promise = .resolved results → results = promised payload ns
  audited : ∀ es s results, Run (DispatchStep payload audit) (dispatch payload ns) es s →
    s.promise = .resolved results → s.attempted = results.map (auditRow payload)

/-- A notifier behaves, or behaves otherwise: when both dispatches have ended, they have resolved
with the same entries before and after its own. The audit writes of the two may end differently. -/
def Isolated (payload : Payload) (audit audit' : ℕ → Recorded) (ns : List Notifier) (i : ℕ)
    (n n' : Notifier) : Prop :=
  ∀ es s es' s', Run (DispatchStep payload audit) (dispatch payload ns) es s →
    s.Ended payload audit →
    Run (DispatchStep payload audit') (dispatch payload (ns.set i n')) es' s' →
    s'.Ended payload audit' →
    ∃ before own own' after, (payload.optedOut = false →
        own = n.entries payload ∧ own' = n'.entries payload) ∧
      (payload.optedOut = true → own = [] ∧ own' = []) ∧
      s.promise = .resolved (before ++ own ++ after) ∧
      s'.promise = .resolved (before ++ own' ++ after)

/-- A notifier that does not throw where that is not caught: in `supports`, and, if it supports the
event, with a reason that cannot be printed. -/
def Notifier.Behaves (payload : Payload) (n : Notifier) : Prop :=
  ∃ supported, n.supports payload.event = .ok supported ∧
    (supported.truthy = true → ∀ err, n.send payload ≠ .failed (.unprintable err))

/-- The user has opted out, or no notifier throws where that is not caught. -/
def Behave (payload : Payload) (ns : List Notifier) : Prop :=
  payload.optedOut = true ∨ ∀ n ∈ ns, n.Behaves payload

/-- **Nothing throws where that is not caught**: no notifier, unless the user has opted out, and no
audit write, of which there is one for each promised result. -/
structure Dispatches (payload : Payload) (audit : ℕ → Recorded) (ns : List Notifier) : Prop where
  notifiers : Behave payload ns
  audits : ∀ i < (promised payload ns).length, (audit i).logged = .ok ()

/-! ## What a dispatch comes to -/

/-- What the notifiers that support the event come to, once all sends have ended. -/
def sentReports (payload : Payload) (ns : List Notifier) :
    Except JsError (List NotificationResult) :=
  reports (ns.map fun n => (n, n.send payload))

/-- What a dispatch comes to. -/
def finalResults (payload : Payload) (ns : List Notifier) :
    Except JsError (List NotificationResult) :=
  if payload.optedOut then .ok [optOutEntry payload]
  else applicable payload.event ns >>= sentReports payload

/-- The notifier says that it supports an event. -/
def Notifier.supported (event : IncidentEvent) (n : Notifier) : Bool :=
  match n.supports event with
  | .ok supported => supported.truthy
  | .error _ => false

/-- Where no `supports` throws, the applicable notifiers are those that support the event. -/
lemma applicable_of_forall (event : IncidentEvent)
    (h : ∀ n ∈ ns, ∃ supported, n.supports event = .ok supported) :
    applicable event ns = .ok (ns.filter (·.supported event)) := by
  induction ns with
  | nil => rfl
  | cons n ns ih =>
    obtain ⟨supported, hn⟩ := h n List.mem_cons_self
    have hsupported : n.supported event = supported.truthy := by simp only [Notifier.supported, hn]
    rw [applicable, hn, ih fun m hm => h m (List.mem_cons_of_mem _ hm), List.filter_cons,
      hsupported]
    rfl

/-- A `supports` that throws makes the `filter` throw. -/
lemma applicable_of_throws {event : IncidentEvent} {err : JsError} (hn : n ∈ ns)
    (h : n.supports event = .error err) : ∃ err, applicable event ns = .error err := by
  induction ns with
  | nil => cases hn
  | cons m ns ih =>
    cases hm : m.supports event with
    | error err => exact ⟨err, by rw [applicable, hm]; rfl⟩
    | ok supported =>
      rcases List.mem_cons.1 hn with rfl | hn
      · rw [h] at hm
        cases hm
      · obtain ⟨err, herr⟩ := ih hn
        exact ⟨err, by rw [applicable, hm, herr]; rfl⟩

/-- Where every reason can be printed, the entries are those of the notifiers in order. -/
lemma sentReports_of_forall (h : ∀ n ∈ ns, ∀ err, n.send payload ≠ .failed (.unprintable err)) :
    sentReports payload ns = .ok (ns.flatMap fun n => (n.send payload).entries n.name) := by
  induction ns with
  | nil => rfl
  | cons n ns ih =>
    have hrest := ih fun m hm => h m (List.mem_cons_of_mem _ hm)
    have hown : n.report (n.send payload) = .ok ((n.send payload).entries n.name) := by
      have hn := h n List.mem_cons_self
      cases hsend : n.send payload with
      | returned value => rfl
      | failed reason =>
        cases reason with
        | unprintable err => exact absurd hsend (hn err)
        | _ => rfl
    rw [sentReports] at hrest ⊢
    rw [List.map_cons, reports, hown, hrest, List.flatMap_cons]
    rfl

/-- A reason that cannot be printed makes the log line throw. -/
lemma sentReports_of_unprintable {err : JsError} (hn : n ∈ ns)
    (h : n.send payload = .failed (.unprintable err)) :
    ∃ err, sentReports payload ns = .error err := by
  unfold sentReports
  induction ns with
  | nil => cases hn
  | cons m ns ih =>
    cases hm : m.report (m.send payload) with
    | error err => exact ⟨err, by rw [List.map_cons, reports, hm]; rfl⟩
    | ok own =>
      rcases List.mem_cons.1 hn with rfl | hn
      · rw [h] at hm
        cases hm
      · obtain ⟨err, herr⟩ := ih hn
        exact ⟨err, by rw [List.map_cons, reports, hm, herr]; rfl⟩

/-- **A dispatch comes to what is promised**, if no notifier throws where that is not caught. -/
theorem finalResults_of_behave (h : Behave payload ns) :
    finalResults payload ns = .ok (promised payload ns) := by
  unfold finalResults promised
  split_ifs with hout
  · rfl
  have hall := h.resolve_left hout
  have hsupports : ∀ n ∈ ns, ∃ supported, n.supports payload.event = .ok supported := by
    intro n hn
    obtain ⟨supported, heq, -⟩ := hall n hn
    exact ⟨supported, heq⟩
  have happ := applicable_of_forall payload.event hsupports
  have hprint : ∀ n ∈ ns.filter (·.supported payload.event), ∀ err,
      n.send payload ≠ .failed (.unprintable err) := by
    intro n hn
    obtain ⟨hmem, hsupported⟩ := List.mem_filter.1 hn
    obtain ⟨supported, heq, hsend⟩ := hall n hmem
    exact hsend (by simpa only [Notifier.supported, heq] using hsupported)
  have hentries : (ns.filter (·.supported payload.event)).flatMap
      (fun n => (n.send payload).entries n.name) = ns.flatMap (·.entries payload) := by
    clear hsupports happ hprint h
    induction ns with
    | nil => rfl
    | cons n ns ih =>
      obtain ⟨supported, heq, -⟩ := hall n List.mem_cons_self
      have hrest := ih fun m hm => hall m (List.mem_cons_of_mem _ hm)
      rw [List.filter_cons, List.flatMap_cons, ← hrest]
      simp only [Notifier.supported, Notifier.entries, heq]
      split_ifs <;> simp
  rw [happ, ← hentries, ← sentReports_of_forall hprint]
  rfl

/-- **A dispatch comes to nothing otherwise.** -/
theorem finalResults_of_not_behave (h : ¬Behave payload ns) :
    ∃ err, finalResults payload ns = .error err := by
  obtain ⟨hout, hall⟩ := not_or.1 h
  unfold finalResults
  rw [if_neg hout]
  by_cases hthrows : ∃ n ∈ ns, ∃ err, n.supports payload.event = .error err
  · obtain ⟨n, hn, err, hsupports⟩ := hthrows
    obtain ⟨err, herr⟩ := applicable_of_throws hn hsupports
    exact ⟨err, by rw [herr]; rfl⟩
  · have hok : ∀ n ∈ ns, ∃ supported, n.supports payload.event = .ok supported := by
      intro n hn
      cases hs : n.supports payload.event with
      | ok supported => exact ⟨supported, rfl⟩
      | error err => exact (hthrows ⟨n, hn, err, hs⟩).elim
    simp only [not_forall] at hall
    obtain ⟨n, hn, hbad⟩ := hall
    obtain ⟨supported, hsupported⟩ := hok n hn
    have hunprintable : supported.truthy = true ∧ ∃ err, n.send payload =
        .failed (.unprintable err) := by
      by_contra hgood
      refine hbad ⟨supported, hsupported, fun htruthy err heq => hgood ⟨htruthy, err, heq⟩⟩
    obtain ⟨htruthy, err, hsend⟩ := hunprintable
    have hmem : n ∈ ns.filter (·.supported payload.event) :=
      List.mem_filter.2 ⟨hn, by simp only [Notifier.supported, hsupported, htruthy]⟩
    obtain ⟨err, herr⟩ := sentReports_of_unprintable hmem hsend
    exact ⟨err, by rw [applicable_of_forall _ hok]; exact herr⟩

/-! ## The stages of a dispatch -/

/-- What has been recorded so far, without an exception. -/
def Recording (audit : ℕ → Recorded) (audits : Slots Recorded) : Prop :=
  ∀ (i : ℕ) (ended : Recorded), audits[i]? = some (some ended) →
    ended = audit i ∧ ended.logged = .ok ()

/-- The promise of a dispatch that records these results. -/
def recordedPromise (results : List NotificationResult) (audits : Slots Recorded) :
    DispatchPromise :=
  if audits.values?.isSome then .resolved results else .pending

/-- One more write is recorded. -/
lemma Recording.fill {audits : Slots Recorded} {i : ℕ} (h : Recording audit audits)
    (hlogged : (audit i).logged = .ok ()) : Recording audit (audits.fill i (audit i)) := by
  intro j ended hj
  rw [Slots.fill, List.getElem?_set] at hj
  split_ifs at hj with hij hlt
  · obtain rfl := Option.some.inj (Option.some.inj hj)
    exact ⟨congrArg audit hij, hlogged⟩
  · exact h j ended hj

/-- The stages of a dispatch that comes to `final`: it sends through the notifiers `ns`, it records
its results, or it has been rejected, before the results were built or by an audit write. -/
inductive Dispatch.Stage (payload : Payload) (audit : ℕ → Recorded)
    (final : Except JsError (List NotificationResult)) : Dispatch → Prop
  | sending {s : Dispatch} : final = sentReports payload s.notifiers →
      Slots.Follows (s.notifiers.map (·.send payload)) s.sends → s.sends.values? = none →
      s.results = none → s.audits = [] → s.promise = .pending → Stage payload audit final s
  | recording {s : Dispatch} {results : List NotificationResult} : final = .ok results →
      s.sends.values?.isSome = true → s.results = some results →
      s.attempted = results.map (auditRow payload) → s.audits.length = results.length →
      Recording audit s.audits → s.promise = recordedPromise results s.audits →
      Stage payload audit final s
  | rejected {s : Dispatch} {err : JsError} : final = .error err →
      s.sends.values?.isSome = true → s.results = none → s.audits = [] →
      s.promise = .rejected err → Stage payload audit final s
  | unrecorded {s : Dispatch} {results : List NotificationResult} {i : ℕ} {err : JsError} :
      final = .ok results → s.sends.values?.isSome = true → s.results = some results →
      s.audits.length = results.length → i < results.length → (audit i).logged = .error err →
      s.promise = .rejected err → Stage payload audit final s

namespace Dispatch

variable {final : Except JsError (List NotificationResult)} {results : List NotificationResult}

/-- The number of ends that the dispatch still waits for, or will wait for. -/
def remaining (final : Except JsError (List NotificationResult)) (s : Dispatch) : ℕ :=
  match s.results with
  | none => s.sends.running + (final.toOption.getD []).length
  | some _ => s.audits.running

/-- The call returns when the audit writes have ended. -/
lemma promise_settle (hresults : s.results = some results) (hpromise : s.promise = .pending) :
    s.settle.promise = recordedPromise results s.audits := by
  unfold settle recordedPromise
  rw [hresults]
  cases s.audits.values? with
  | none => exact hpromise
  | some _ => rfl

/-- Returning changes the promise only. -/
lemma settle_eq (s : Dispatch) : s.settle = { s with promise := s.settle.promise } := by
  unfold settle
  split <;> rfl

/-- The end of an audit write changes the audits and the promise only. -/
lemma recorded_eq (s : Dispatch) (i : ℕ) (ended : Recorded) : s.recorded i ended =
    { s with audits := s.audits.fill i ended, promise := (s.recorded i ended).promise } := by
  unfold recorded
  dsimp only
  split
  · rw [settle_eq]
  · rfl
  · rfl

/-- A dispatch that has been rejected stays so. -/
lemma promise_recorded_of_rejected {err : JsError} (h : s.promise = .rejected err) (i : ℕ)
    (ended : Recorded) : (s.recorded i ended).promise = .rejected err := by
  unfold recorded
  dsimp only
  rw [h]

/-- A dispatch that begins to record its results. -/
lemma Stage.record (hfinal : final = .ok results) (hsends : s.sends.values?.isSome = true)
    (hpromise : s.promise = .pending) : Stage payload audit final (s.record payload results) := by
  unfold Dispatch.record
  rw [settle_eq]
  refine .recording hfinal hsends rfl rfl (by simp [Slots.empty]) ?_ ?_
  · intro i ended h
    cases (List.mem_replicate.1 (List.mem_of_getElem? h)).2
  · exact promise_settle (by rfl) hpromise

/-- A dispatch whose sends may all have ended. -/
lemma Stage.collect (hfinal : final = sentReports payload s.notifiers)
    (hsends : Slots.Follows (s.notifiers.map (·.send payload)) s.sends)
    (hresults : s.results = none) (haudits : s.audits = []) (hpromise : s.promise = .pending) :
    Stage payload audit final (s.collect payload) := by
  unfold Dispatch.collect
  cases hvalues : s.sends.values? with
  | none => exact .sending hfinal hsends hvalues hresults haudits hpromise
  | some sent =>
    have hreports : reports (s.notifiers.zip sent) = final := by
      rw [hfinal, hsends.values? hvalues, ← List.map_prod_left_eq_zip, sentReports]
    have hended : s.sends.values?.isSome = true := by rw [hvalues, Option.isSome_some]
    dsimp only
    rw [hreports]
    cases hf : final with
    | error err => exact .rejected rfl hended hresults haudits rfl
    | ok results => exact .record rfl hended hpromise

/-- **The stage a dispatch starts in.** -/
lemma stage_dispatch (payload : Payload) (ns : List Notifier) :
    Stage payload audit (finalResults payload ns) (dispatch payload ns) := by
  unfold dispatch finalResults
  dsimp only
  split_ifs
  · exact .record rfl rfl rfl
  · cases happ : applicable payload.event ns with
    | error err => exact .rejected rfl rfl rfl rfl rfl
    | ok ns' =>
      refine .collect rfl ?_ rfl rfl rfl
      simpa using Slots.follows_empty (ns'.map (·.send payload))

/-- Building the results leaves the sends as they are. -/
lemma sends_collect (s : Dispatch) (payload : Payload) :
    (s.collect payload).sends = s.sends := by
  unfold Dispatch.collect
  cases s.sends.values? with
  | none => rfl
  | some sent =>
    dsimp only
    cases reports (s.notifiers.zip sent) with
    | error err => rfl
    | ok results =>
      dsimp only
      rw [Dispatch.record, settle_eq, count]

/-- A send that ends leaves less to wait for. -/
lemma Stage.remaining_lt {i : ℕ} {sent : Sent} (hs : Stage payload audit final s')
    (hsends : s'.sends = s.sends.fill i sent) (hrunning : s.sends.Running i)
    (hresults : s.results = none) : s'.remaining final < s.remaining final := by
  have hfill := Slots.running_fill (a := sent) hrunning
  rw [← hsends] at hfill
  simp only [remaining, hresults]
  cases hs with
  | sending _ _ _ hnone =>
    simp only [hnone]
    omega
  | recording hfinal _ hsome _ hlen =>
    have hle := s'.audits.running_le_length
    rw [hfinal]
    simp only [hsome, Except.toOption, Option.getD_some]
    omega
  | rejected _ _ hnone =>
    simp only [hnone]
    omega
  | unrecorded hfinal _ hsome hlen =>
    have hle := s'.audits.running_le_length
    rw [hfinal]
    simp only [hsome, Except.toOption, Option.getD_some]
    omega

/-- An audit write that ends leaves less to wait for. -/
lemma remaining_recorded {i : ℕ} (hrunning : s.audits.Running i)
    (hresults : s.results = some results) (ended : Recorded) :
    (s.recorded i ended).remaining final < s.remaining final := by
  have hfill := Slots.running_fill (a := ended) hrunning
  rw [recorded_eq]
  simp only [remaining, hresults]
  omega

/-- **Every step keeps the stage, and leaves less to wait for.** -/
theorem Stage.step {e : DispatchEvent} (hs : Stage payload audit final s)
    (h : DispatchStep payload audit s e s') :
    Stage payload audit final s' ∧ s'.remaining final < s.remaining final := by
  cases h with
  | @sent i n hrunning hn =>
    cases hs with
    | sending hfinal hsends hvalues hresults haudits hpromise =>
      have hstage : Stage payload audit final
          (({ s with sends := s.sends.fill i (n.send payload) }).collect payload) :=
        .collect hfinal (hsends.fill (by rw [List.getElem?_map, hn, Option.map_some])) hresults
          haudits hpromise
      exact ⟨hstage, hstage.remaining_lt (sends_collect _ payload) hrunning hresults⟩
    | recording _ hended => exact (Slots.not_running_of_isSome hended i hrunning).elim
    | rejected _ hended => exact (Slots.not_running_of_isSome hended i hrunning).elim
    | unrecorded _ hended => exact (Slots.not_running_of_isSome hended i hrunning).elim
  | @recorded i hrunning =>
    have hlength : (s.audits.fill i (audit i)).length = s.audits.length := List.length_set
    cases hs with
    | sending _ _ _ _ haudits => simp [haudits, Slots.Running] at hrunning
    | rejected _ _ _ haudits => simp [haudits, Slots.Running] at hrunning
    | @recording results hfinal hended hresults hattempted hlen hrecording hpromise =>
      have hpending : s.promise = .pending := by
        rw [hpromise, recordedPromise, Slots.values?_eq_none_iff.2 ⟨i, hrunning⟩]
        rfl
      refine ⟨?_, remaining_recorded hrunning hresults _⟩
      rw [recorded_eq]
      cases hlogged : (audit i).logged with
      | ok =>
        refine .recording hfinal hended hresults hattempted (hlength.trans hlen) ?_ ?_
        · exact hrecording.fill hlogged
        · rw [recorded, hpending, hlogged]
          exact promise_settle hresults rfl
      | error err =>
        have hlt : i < results.length := hlen ▸ (List.getElem?_eq_some_iff.1 hrunning).1
        refine .unrecorded hfinal hended hresults (hlength.trans hlen) hlt hlogged ?_
        rw [recorded, hpending, hlogged]
    | unrecorded hfinal hended hresults hlen hlt hlogged hpromise =>
      refine ⟨?_, remaining_recorded hrunning hresults _⟩
      rw [recorded_eq]
      exact .unrecorded hfinal hended hresults (hlength.trans hlen) hlt hlogged
        (promise_recorded_of_rejected hpromise i _)

/-- A dispatch that waits for nothing has resolved with its results, or has been rejected. -/
lemma Stage.promise_of_ended (hs : Stage payload audit final s) (hended : s.Ended payload audit) :
    (∃ results, final = .ok results ∧ s.promise = .resolved results) ∨
      (∃ err, final = .error err ∧ s.promise = .rejected err) ∨
      ∃ results i err, final = .ok results ∧ i < results.length ∧
        (audit i).logged = .error err ∧ s.promise = .rejected err := by
  cases hs with
  | sending _ hsends hvalues =>
    obtain ⟨i, hi⟩ := Slots.values?_eq_none_iff.1 hvalues
    obtain ⟨sent, hsent⟩ := hsends.exists_of_running hi
    obtain ⟨n, hn, -⟩ := Option.map_eq_some_iff.1 (List.getElem?_map ▸ hsent)
    exact (hended _ _ (.sent hi hn)).elim
  | recording hfinal _ _ _ _ _ hpromise =>
    cases hvalues : s.audits.values? with
    | none =>
      obtain ⟨i, hi⟩ := Slots.values?_eq_none_iff.1 hvalues
      exact (hended _ _ (.recorded hi)).elim
    | some _ => exact .inl ⟨_, hfinal, by rw [hpromise, recordedPromise, hvalues]; rfl⟩
  | rejected hfinal _ _ _ hpromise => exact .inr (.inl ⟨_, hfinal, hpromise⟩)
  | unrecorded hfinal _ _ _ hlt hlogged hpromise =>
    exact .inr (.inr ⟨_, _, _, hfinal, hlt, hlogged, hpromise⟩)

/-- A dispatch that has resolved has come to its results, and has attempted one audit write for
each; these have ended as they do, without an exception. -/
lemma Stage.of_resolved (hs : Stage payload audit final s) (h : s.promise = .resolved results) :
    final = .ok results ∧ s.attempted = results.map (auditRow payload) ∧
      s.audits = (List.range results.length).map (some ∘ audit) ∧
      ∀ i < results.length, (audit i).logged = .ok () := by
  cases hs with
  | sending _ _ _ _ _ hpromise =>
    rw [hpromise] at h
    cases h
  | recording hfinal _ _ hattempted hlen hrecording hpromise =>
    rw [hpromise, recordedPromise] at h
    split_ifs at h with hsome
    obtain rfl := DispatchPromise.resolved.inj h
    obtain ⟨ended, hvalues⟩ := Option.isSome_iff_exists.1 hsome
    have haudits := Slots.values?_eq_some_iff.1 hvalues
    rw [haudits, List.length_map] at hlen
    have hended : ∀ (i : ℕ) (hi : i < ended.length),
        ended[i] = audit i ∧ (audit i).logged = .ok () := by
      intro i hi
      obtain ⟨heq, hlogged⟩ := hrecording i ended[i] (by
        rw [haudits, List.getElem?_map, List.getElem?_eq_getElem hi, Option.map_some])
      exact ⟨heq, heq ▸ hlogged⟩
    refine ⟨hfinal, hattempted, ?_, fun i hi => (hended i (hlen ▸ hi)).2⟩
    rw [haudits, ← hlen]
    refine List.ext_getElem (by simp) fun i hi hi' => ?_
    rw [List.length_map] at hi
    simp [(hended i hi).1]
  | rejected _ _ _ _ hpromise =>
    rw [hpromise] at h
    cases h
  | unrecorded _ _ _ _ _ _ hpromise =>
    rw [hpromise] at h
    cases h

/-- A dispatch that has been rejected has come to nothing, or an audit write has thrown. -/
lemma Stage.of_rejected {err : JsError} (hs : Stage payload audit final s)
    (h : s.promise = .rejected err) : final = .error err ∨
      ∃ results i, final = .ok results ∧ i < results.length ∧ (audit i).logged = .error err := by
  cases hs with
  | sending _ _ _ _ _ hpromise =>
    rw [hpromise] at h
    cases h
  | recording _ _ _ _ _ _ hpromise =>
    rw [hpromise, recordedPromise] at h
    split_ifs at h
  | rejected hfinal _ _ _ hpromise =>
    rw [hpromise] at h
    exact .inl (DispatchPromise.rejected.inj h ▸ hfinal)
  | unrecorded hfinal _ _ _ hlt hlogged hpromise =>
    rw [hpromise] at h
    exact .inr ⟨_, _, hfinal, hlt, DispatchPromise.rejected.inj h ▸ hlogged⟩

/-- Every state of a dispatch is in some stage. -/
lemma stage_of_run {es : List DispatchEvent}
    (h : Run (DispatchStep payload audit) (dispatch payload ns) es s) :
    Stage payload audit (finalResults payload ns) s := by
  have hstep : ∀ s e s', Stage payload audit (finalResults payload ns) s →
      DispatchStep payload audit s e s' → Stage payload audit (finalResults payload ns) s' :=
    fun _ _ _ hs h => (hs.step h).1
  exact h.invariant hstep (stage_dispatch payload ns)

/-- Every dispatch can come to its end. -/
lemma exists_ended (payload : Payload) (audit : ℕ → Recorded) (ns : List Notifier) :
    ∃ es s, Run (DispatchStep payload audit) (dispatch payload ns) es s ∧
      s.Ended payload audit := by
  have hstep : ∀ s : Dispatch, Stage payload audit (finalResults payload ns) s →
      ¬s.Ended payload audit → ∃ e t, DispatchStep payload audit s e t ∧
        Stage payload audit (finalResults payload ns) t ∧
        t.remaining (finalResults payload ns) < s.remaining (finalResults payload ns) := by
    intro s hs hgoing
    simp only [Ended, not_forall, not_not] at hgoing
    obtain ⟨e, t, h⟩ := hgoing
    exact ⟨e, t, h, hs.step h⟩
  obtain ⟨es, s, hrun, -, hended⟩ := exists_run_of_progress hstep (stage_dispatch payload ns)
  exact ⟨es, s, hrun, hended⟩

end Dispatch

open Dispatch

/-- **A dispatch in which nothing throws where that is not caught keeps its contract.** -/
theorem dispatchContract_of_dispatches (h : Dispatches payload audit ns) :
    DispatchContract payload audit ns := by
  have hfinal := finalResults_of_behave h.notifiers
  have hlogged : ∀ {results i err}, finalResults payload ns = .ok results → i < results.length →
      (audit i).logged ≠ .error err := by
    intro results i err hok hi herr
    rw [hfinal] at hok
    obtain rfl := Except.ok.inj hok
    rw [h.audits i hi] at herr
    cases herr
  constructor
  · intro es s err hrun heq
    rcases (stage_of_run hrun).of_rejected heq with herr | ⟨results, i, hok, hi, herr⟩
    · rw [hfinal] at herr
      cases herr
    · exact hlogged hok hi herr
  · have hinv : ∀ s e s', Stage payload audit (finalResults payload ns) s →
        DispatchStep payload audit s e s' → Stage payload audit (finalResults payload ns) s' :=
      fun _ _ _ hs h => (hs.step h).1
    have hdecr : ∀ s e s', Stage payload audit (finalResults payload ns) s →
        DispatchStep payload audit s e s' →
        s'.remaining (finalResults payload ns) < s.remaining (finalResults payload ns) :=
      fun _ _ _ hs h => (hs.step h).2
    refine ⟨(dispatch payload ns).remaining (finalResults payload ns), fun es s hrun => ?_⟩
    exact le_of_add_le_left (hrun.length_add_le hinv hdecr (stage_dispatch payload ns))
  · intro es s hrun hended
    rcases (stage_of_run hrun).promise_of_ended hended with
      ⟨results, heq, hpromise⟩ | ⟨err, heq, -⟩ | ⟨results, i, err, hok, hi, herr, -⟩
    · rw [hfinal] at heq
      rw [hpromise, Except.ok.inj heq]
    · rw [hfinal] at heq
      cases heq
    · exact (hlogged hok hi herr).elim
  · intro es s results hrun heq
    have hok := ((stage_of_run hrun).of_resolved heq).1
    rw [hfinal] at hok
    exact (Except.ok.inj hok).symm
  · intro es s results hrun heq
    exact ((stage_of_run hrun).of_resolved heq).2.1

/-- **Only such a dispatch resolves.** -/
lemma dispatches_of_resolved {es : List DispatchEvent}
    (hrun : Run (DispatchStep payload audit) (dispatch payload ns) es s)
    {results : List NotificationResult} (h : s.promise = .resolved results) :
    Dispatches payload audit ns := by
  obtain ⟨hok, -, -, hlogged⟩ := (stage_of_run hrun).of_resolved h
  have hbehave : Behave payload ns := by
    by_contra hbad
    obtain ⟨err, herr⟩ := finalResults_of_not_behave hbad
    rw [herr] at hok
    cases hok
  rw [finalResults_of_behave hbehave] at hok
  obtain rfl := Except.ok.inj hok
  exact ⟨hbehave, hlogged⟩

/-- The promised results of two lists that differ in one notifier. -/
lemma promised_set {i : ℕ} (hn : ns[i]? = some n) (n' : Notifier)
    (hout : payload.optedOut = false) :
    ∃ before after, promised payload ns = before ++ n.entries payload ++ after ∧
      promised payload (ns.set i n') = before ++ n'.entries payload ++ after := by
  obtain ⟨hlt, rfl⟩ := List.getElem?_eq_some_iff.1 hn
  have hsplit : ns.take i ++ ns[i] :: ns.drop (i + 1) = ns := by
    rw [← List.drop_eq_getElem_cons hlt, List.take_append_drop]
  refine ⟨(ns.take i).flatMap (·.entries payload), (ns.drop (i + 1)).flatMap (·.entries payload),
    ?_, ?_⟩
  · simp only [promised, hout, Bool.false_eq_true, if_false]
    rw [List.append_assoc, ← List.flatMap_cons, ← List.flatMap_append, hsplit]
  · simp only [promised, hout, Bool.false_eq_true, if_false]
    rw [List.set_eq_take_append_cons_drop, if_pos hlt, List.append_assoc, ← List.flatMap_cons,
      ← List.flatMap_append]

/-- **A dispatch keeps its contract exactly when the user has opted out, or no notifier throws in
`supports`, nor fails with a reason that cannot be printed, and no audit write fails with a reason
that has no message to print; and two dispatches that differ in the behaviour of one notifier differ
in its entries only, exactly when both are such.** -/
theorem dispatchContract_iff (payload : Payload) (audit : ℕ → Recorded) (ns : List Notifier) :
    (DispatchContract payload audit ns ↔ Dispatches payload audit ns) ∧
      ∀ audit' i n n', ns[i]? = some n → (Isolated payload audit audit' ns i n n' ↔
        Dispatches payload audit ns ∧ Dispatches payload audit' (ns.set i n')) := by
  refine ⟨⟨fun h => ?_, dispatchContract_of_dispatches⟩,
    fun audit' i n n' hn => ⟨fun h => ?_, ?_⟩⟩
  · obtain ⟨es, s, hrun, hended⟩ := exists_ended payload audit ns
    exact dispatches_of_resolved hrun (h.answers es s hrun hended)
  · obtain ⟨es, s, hrun, hended⟩ := exists_ended payload audit ns
    obtain ⟨es', s', hrun', hended'⟩ := exists_ended payload audit' (ns.set i n')
    obtain ⟨before, own, own', after, -, -, hs, hs'⟩ := h es s es' s' hrun hended hrun' hended'
    exact ⟨dispatches_of_resolved hrun hs, dispatches_of_resolved hrun' hs'⟩
  · rintro ⟨h, h'⟩ es s es' s' hrun hended hrun' hended'
    have hs := (dispatchContract_of_dispatches h).answers es s hrun hended
    have hs' := (dispatchContract_of_dispatches h').answers es' s' hrun' hended'
    cases hout : payload.optedOut with
    | true =>
      refine ⟨[optOutEntry payload], [], [], [], by simp, fun _ => ⟨rfl, rfl⟩, ?_, ?_⟩
      · simpa [promised, hout] using hs
      · simpa [promised, hout] using hs'
    | false =>
      obtain ⟨before, after, heq, heq'⟩ := promised_set hn n' hout
      exact ⟨before, _, _, after, fun _ => ⟨rfl, rfl⟩, by simp, heq ▸ hs, heq' ▸ hs'⟩

/-- An incident that has been opened, for an owner who is alerted at `a@b.test`. -/
def samplePayload : Payload where
  event := .opened
  monitorId := 1
  userId := 2
  incident := ⟨3, 1, some 2, .ongoing, 0, none, 0, "HTTP 503", none⟩
  occurredAt := 0
  email := some "a@b.test"
  incidentAlerts := none

/-- The second of two notifiers would deliver, but the first one throws when it is asked whether it
supports the event: the dispatch is rejected, and nothing is sent or recorded. -/
theorem dispatchContract_fails_on_throwing_supports :
    ¬DispatchContract samplePayload (fun _ => .stored)
      [⟨"Pager", fun _ => .error ⟨"events is not iterable", none⟩, fun _ => .returned (.many [])⟩,
        ⟨"Email", fun _ => .ok (.bool true), fun _ =>
          .returned (.one (some ⟨none, some .delivered, some "a@b.test", none⟩))⟩] := by
  intro h
  exact h.never_rejects [] _ ⟨"events is not iterable", none⟩ (.nil _) rfl

end WatchTower
