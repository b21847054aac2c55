import Mathlib.Algebra.BigOperators.Group.Finset.Piecewise
import WatchTower.Transition.Beside

set_option relaxedAutoImplicit false
set_option autoImplicit false

/-!
# Programs that count

A program can increment counters between its calls. An increment is a step of its own, so that the
counters are as they are at any time the programs are looked at, also when others are in between.
Without its increments, such a program is an ordinary one, and its runs are runs of that.

## Main definitions

* `Transition.Metered` — a call, or the increment of a counter.
* `Transition.Prog.metered`, `Transition.Prog.unmetered` — a program that counts nothing, and what a
  program does besides counting.
* `Transition.MeteredActs` — calls act on the store, increments on the counters.
* `Transition.opsIn`, `Transition.incsIn` — the calls and the increments of a history.
* `Transition.callCount`, `Transition.callers` — how many calls of a kind there have been, and who
  has made them.

## Main results

* `Transition.Prog.Spec.metered` — what a program does, it does without counting.
* `Transition.Run.unmetered` — a run of programs that count is a run of them without counting.
* `Transition.counter_eq_of_run` — a counter counts its increments.
* `Transition.callCount_eq_sum` — calls are counted program by program.
-/

namespace Transition

variable {Op M : Type} {Resp : Op → Type} {E α β σ ι ω : Type}

/-- A call, or the increment of a counter. -/
inductive Metered (Op M : Type)
  | op (o : Op)
  | inc (m : M)

/-- What it answers with. -/
abbrev MeteredResp (Resp : Op → Type) : Metered Op M → Type
  | .op o => Resp o
  | .inc _ => Unit

namespace Prog

/-- The program, which counts nothing. -/
def metered : Prog Op Resp E α → Prog (Metered Op M) (MeteredResp Resp) E α
  | ret a => ret a
  | fail e => fail e
  | call o k => call (.op o) fun r => (k r).metered

/-- What a program does besides counting. -/
def unmetered : Prog (Metered Op M) (MeteredResp Resp) E α → Prog Op Resp E α
  | ret a => ret a
  | fail e => fail e
  | call (.op o) k => call o fun r => (k r).unmetered
  | call (.inc _) k => (k (.ok ())).unmetered

@[simp] lemma unmetered_metered (p : Prog Op Resp E α) :
    (p.metered : Prog (Metered Op M) (MeteredResp Resp) E α).unmetered = p := by
  induction p with
  | ret a => rfl
  | fail e => rfl
  | call o k ih => simp only [metered, unmetered, ih]

@[simp] lemma unmetered_bind (p : Prog (Metered Op M) (MeteredResp Resp) E α)
    (f : α → Prog (Metered Op M) (MeteredResp Resp) E β) :
    (p.bind f).unmetered = p.unmetered.bind fun a => (f a).unmetered := by
  induction p with
  | ret a => rfl
  | fail e => rfl
  | call o k ih =>
    cases o with
    | op o => simp only [bind, unmetered, ih]
    | inc m => simp only [bind, unmetered, ih]

@[simp] lemma unmetered_catchError (p : Prog (Metered Op M) (MeteredResp Resp) E α)
    (f : E → Prog (Metered Op M) (MeteredResp Resp) E α) :
    (p.catchError f).unmetered = p.unmetered.catchError fun e => (f e).unmetered := by
  induction p with
  | ret a => rfl
  | fail e => rfl
  | call o k ih =>
    cases o with
    | op o => simp only [catchError, unmetered, ih]
    | inc m => simp only [catchError, unmetered, ih]

/-- Increment a counter. -/
def inc (m : M) : Prog (Metered Op M) (MeteredResp Resp) E Unit := await (Metered.inc m)

end Prog

/-! ## Histories -/

/-- The call that was made, if it is one. -/
def opOf : Answered (MeteredResp (M := M) Resp) E → Option (Answered Resp E)
  | ⟨.op o, r⟩ => some ⟨o, r⟩
  | ⟨.inc _, _⟩ => none

/-- The counter that was incremented. -/
def incOf : Answered (MeteredResp (M := M) Resp) E → Option M
  | ⟨.op _, _⟩ => none
  | ⟨.inc m, _⟩ => some m

/-- The calls of a history. -/
def opsIn (h : List (Answered (MeteredResp (M := M) Resp) E)) : List (Answered Resp E) :=
  h.filterMap opOf

/-- The increments of a history. -/
def incsIn (h : List (Answered (MeteredResp (M := M) Resp) E)) : List M := h.filterMap incOf

section Histories

variable (h : List (Answered (MeteredResp (M := M) Resp) E))

@[simp] lemma opsIn_op (o : Op) (r : Except E (Resp o)) :
    opsIn (h ++ [⟨.op o, r⟩]) = opsIn h ++ [⟨o, r⟩] := by
  simp [opsIn, opOf]

@[simp] lemma opsIn_inc (m : M) (r : Except E Unit) : opsIn (h ++ [⟨.inc m, r⟩]) = opsIn h := by
  simp [opsIn, opOf]

@[simp] lemma incsIn_op (o : Op) (r : Except E (Resp o)) :
    incsIn (h ++ [⟨.op o, r⟩]) = incsIn h := by
  simp [incsIn, incOf]

@[simp] lemma incsIn_inc (m : M) (r : Except E Unit) :
    incsIn (h ++ [⟨.inc m, r⟩]) = incsIn h ++ [m] := by
  simp [incsIn, incOf]

end Histories

/-- What a call may answer. An increment succeeds. -/
def MeteredAnswers (A : (o : Op) → Except E (Resp o) → Prop) :
    (o : Metered Op M) → Except E (MeteredResp Resp o) → Prop
  | .op o, r => A o r
  | .inc _, r => r = .ok ()

namespace Prog

variable {A : (o : Op) → Except E (Resp o) → Prop}
  {I : List (Answered (MeteredResp (M := M) Resp) E) → Metered Op M → Prop}
  {h : List (Answered (MeteredResp (M := M) Resp) E)}

/-- Two specifications of one program. -/
lemma Spec.and {J J' : List (Answered Resp E) → Op → Prop}
    {Q Q' : List (Answered Resp E) → Except E α → Prop} {h : List (Answered Resp E)}
    {p : Prog Op Resp E α} (hp : p.Spec A J Q h) (hp' : p.Spec A J' Q' h) :
    p.Spec A J (fun h' out => Q h' out ∧ Q' h' out) h := by
  induction p generalizing h with
  | ret a => exact ⟨hp, hp'⟩
  | fail e => exact ⟨hp, hp'⟩
  | call o k ih => exact ⟨hp.1, fun r hr => ih r (hp.2 r hr) (hp'.2 r hr)⟩

/-- **What a program does, it does without counting.** -/
lemma Spec.metered {J : List (Answered Resp E) → Op → Prop}
    {Q : List (Answered Resp E) → Except E α → Prop} (hI : ∀ h o, J (opsIn h) o → I h (.op o))
    {p : Prog Op Resp E α} (hp : p.Spec A J Q (opsIn h)) :
    p.metered.Spec (MeteredAnswers A) I
      (fun h' out => Q (opsIn h') out ∧ incsIn h' = incsIn h) h := by
  induction p generalizing h with
  | ret a => exact ⟨hp, rfl⟩
  | fail e => exact ⟨hp, rfl⟩
  | call o k ih =>
    refine ⟨hI h o hp.1, fun r hr => ?_⟩
    have hrest : (k r).Spec A J Q (opsIn (h ++ [⟨.op o, r⟩])) := by
      rw [opsIn_op]
      exact hp.2 r hr
    exact (ih r hrest).mono fun h' out hout => ⟨hout.1, by rw [hout.2, incsIn_op]⟩

/-- The rule of a single call. -/
lemma spec_metered_await {o : Op}
    {Q : List (Answered (MeteredResp (M := M) Resp) E) → Except E (Resp o) → Prop} :
    (await o : Prog Op Resp E (Resp o)).metered.Spec (MeteredAnswers A) I Q h ↔
      I h (.op o) ∧ ∀ r, A o r → Q (h ++ [⟨.op o, r⟩]) r := by
  refine and_congr_right fun _ => forall_congr' fun r => imp_congr_right fun _ => ?_
  cases r <;> rfl

/-- The rule of increments. -/
lemma spec_inc {m : M} {Q : List (Answered (MeteredResp (M := M) Resp) E) → Except E Unit → Prop} :
    (inc m : Prog (Metered Op M) (MeteredResp Resp) E Unit).Spec (MeteredAnswers A) I Q h ↔
      I h (.inc m) ∧ Q (h ++ [⟨.inc m, .ok ()⟩]) (.ok ()) := by
  exact ⟨fun h => ⟨h.1, h.2 _ rfl⟩, fun h => ⟨h.1, by rintro r rfl; exact h.2⟩⟩

end Prog

/-! ## Runs -/

section Runs

variable [DecidableEq M]

/-- A call acts on the store, and an increment on its counter. -/
def MeteredActs (H : (o : Op) → σ → Except E (Resp o) → σ → Prop) :
    (o : Metered Op M) → σ × (M → ℕ) → Except E (MeteredResp Resp o) → σ × (M → ℕ) → Prop
  | .op o, s, r, s' => H o s.1 r s'.1 ∧ s'.2 = s.2
  | .inc m, s, r, s' => r = .ok () ∧ s'.1 = s.1 ∧ s'.2 = Function.update s.2 m (s.2 m + 1)

/-- The store, and the programs without counting. -/
def Shared.unmetered (w : Shared ι (σ × (M → ℕ)) (MeteredResp (M := M) Resp) E α) :
    Shared ι σ Resp E α :=
  ⟨w.store.1, fun i => (w.todo i).map Prog.unmetered⟩

/-- An event, if it is no increment. -/
def BesideEvent.unmetered? :
    BesideEvent ι (MeteredResp (M := M) Resp) E α ω → Option (BesideEvent ι Resp E α ω)
  | .program (.start i p) => some (.program (.start i p.unmetered))
  | .program (.call i (.op o) r) => some (.program (.call i o r))
  | .program (.call _ (.inc _) _) => none
  | .other a => some (.other a)

/-- A run without its increments. -/
def unmeteredEvents (es : List (BesideEvent ι (MeteredResp (M := M) Resp) E α ω)) :
    List (BesideEvent ι Resp E α ω) :=
  es.filterMap BesideEvent.unmetered?

variable [DecidableEq ι] {H : (o : Op) → σ → Except E (Resp o) → σ → Prop}
  {starts : ι → σ × (M → ℕ) → Prog (Metered Op M) (MeteredResp Resp) E α → Prop}
  {starts' : ι → σ → Prog Op Resp E α → Prop}
  {acts : ω → σ × (M → ℕ) → σ × (M → ℕ) → Prop} {acts' : ω → σ → σ → Prop}
  {w w' : Shared ι (σ × (M → ℕ)) (MeteredResp (M := M) Resp) E α}
  {es : List (BesideEvent ι (MeteredResp (M := M) Resp) E α ω)}

omit [DecidableEq M] in
/-- What is left after a step of a program. -/
lemma Shared.unmetered_update (s : σ × (M → ℕ)) (todo : ι → Option _) (i : ι)
    (p : Prog (Metered Op M) (MeteredResp (M := M) Resp) E α) :
    (⟨s, Function.update todo i (some p)⟩ : Shared ι (σ × (M → ℕ)) _ E α).unmetered =
      ⟨s.1, Function.update (fun j => (todo j).map Prog.unmetered) i (some p.unmetered)⟩ := by
  rw [Shared.unmetered]
  congr
  funext j
  by_cases hji : j = i
  · subst hji
    simp
  · simp [Function.update_of_ne hji]

/-- **Counting changes nothing**: a run of programs that count is one of the same programs without
counting. -/
theorem Run.unmetered (hstarts : ∀ i s p, starts i s p → starts' i s.1 p.unmetered)
    (hacts : ∀ a s s', acts a s s' → acts' a s.1 s'.1)
    (h : Run (BesideStep starts (MeteredActs H) acts) w es w') :
    Run (BesideStep starts' H acts') w.unmetered (unmeteredEvents es) w'.unmetered := by
  induction h with
  | nil w => exact .nil _
  | @cons w v u e es hstep _ ih =>
    cases hstep with
    | other ha => exact .cons (.other (hacts _ _ _ ha)) ih
    | program hstep =>
      cases hstep with
      | @start i p hi hp =>
        rw [Shared.unmetered_update] at ih
        exact .cons (.program (.start (by simp [Shared.unmetered, hi]) (hstarts i _ p hp))) ih
      | @call i o k r s' hi hH =>
        rw [Shared.unmetered_update] at ih
        have htodo : w.unmetered.todo i = some (Prog.call o k).unmetered := by
          simp [Shared.unmetered, hi]
        cases o with
        | op o => exact .cons (.program (.call htodo hH.1)) ih
        | inc m =>
          obtain ⟨rfl, hs, -⟩ := hH
          have hsame : (⟨s'.1, Function.update (fun j => (w.todo j).map Prog.unmetered) i
              (some (k (.ok ())).unmetered)⟩ : Shared ι σ Resp E α) = w.unmetered := by
            rw [hs, Shared.unmetered]
            exact congrArg _ (Function.update_eq_self_iff.2 htodo.symm)
          rw [hsame] at ih
          exact ih

omit [DecidableEq M] in
/-- The calls of a program in the run without increments. -/
lemma callsOf_unmeteredEvents (i : ι)
    (es : List (BesideEvent ι (MeteredResp (M := M) Resp) E α ω)) :
    callsOf i (ofPrograms (unmeteredEvents es)) = opsIn (callsOf i (ofPrograms es)) := by
  simp only [callsOf, ofPrograms, unmeteredEvents, opsIn, List.filterMap_filterMap]
  congr 1
  funext e
  rcases e with (⟨j, p⟩ | ⟨j, o | m, r⟩) | a
  · rfl
  · by_cases hji : j = i
    · simp [BesideEvent.unmetered?, BesideEvent.program?, SharedEvent.callOf, hji, opOf]
    · simp [BesideEvent.unmetered?, BesideEvent.program?, SharedEvent.callOf, hji]
  · by_cases hji : j = i
    · simp [BesideEvent.unmetered?, BesideEvent.program?, SharedEvent.callOf, hji, opOf]
    · simp [BesideEvent.unmetered?, BesideEvent.program?, SharedEvent.callOf, hji]
  · rfl

end Runs

/-! ## Counting -/

section Counting

/-- How many calls of a run are of a kind. -/
def callCount (p : Answered Resp E → Bool) (es : List (SharedEvent ι Resp E α)) : ℕ :=
  es.countP fun e => match e with
    | .start _ _ => false
    | .call _ o r => p ⟨o, r⟩

variable (p : Answered Resp E → Bool) (es : List (SharedEvent ι Resp E α))

@[simp] lemma callCount_start (i : ι) (q : Prog Op Resp E α) :
    callCount p (es ++ [.start i q]) = callCount p es := by
  simp [callCount]

@[simp] lemma callCount_call (i : ι) (o : Op) (r : Except E (Resp o)) :
    callCount p (es ++ [.call i o r]) = callCount p es + (p ⟨o, r⟩).toNat := by
  cases hp : p ⟨o, r⟩ <;> simp [callCount, hp]

variable [DecidableEq ι]

/-- The programs that have made a call. -/
def callers (es : List (SharedEvent ι Resp E α)) : Finset ι :=
  (es.filterMap fun e => match e with
    | .start _ _ => none
    | .call i _ _ => some i).toFinset

variable {es} in
lemma mem_callers {i : ι} (h : callsOf i es ≠ []) : i ∈ callers es := by
  obtain ⟨⟨o, r⟩, ha⟩ := List.exists_mem_of_ne_nil _ h
  exact List.mem_toFinset.2 (List.mem_filterMap.2 ⟨_, mem_callsOf.1 ha, rfl⟩)

variable {es} in
/-- **Calls are counted program by program.** -/
lemma callCount_eq_sum {s : Finset ι} (hs : ∀ i, callsOf i es ≠ [] → i ∈ s) :
    callCount p es = ∑ i ∈ s, (callsOf i es).countP p := by
  induction es using List.reverseRecOn with
  | nil => simp [callCount]
  | append_singleton es e ih =>
    cases e with
    | start j q =>
      simp only [callsOf_start] at hs ⊢
      rw [callCount_start, ih hs]
    | call j o r =>
      have hes : ∀ i, callsOf i es ≠ [] → i ∈ s := by
        intro i hi
        refine hs i fun hnil => hi ?_
        rw [callsOf, List.filterMap_append] at hnil
        exact (List.append_eq_nil_iff.1 hnil).1
      have hj : j ∈ s := hs j (by simp)
      have hcount : ∀ i, (callsOf i (es ++ [.call j o r])).countP p =
          (callsOf i es).countP p + if i = j then (p ⟨o, r⟩).toNat else 0 := by
        intro i
        by_cases hij : i = j
        · subst hij
          cases hp : p ⟨o, r⟩ <;> simp [hp]
        · rw [callsOf_call_of_ne (Ne.symm hij), if_neg hij, Nat.add_zero]
      simp only [hcount]
      rw [callCount_call, ih hes, Finset.sum_add_distrib, Finset.sum_ite_eq' s j, if_pos hj]

end Counting

section Counters

variable [DecidableEq M] [DecidableEq ι] {H : (o : Op) → σ → Except E (Resp o) → σ → Prop}
  {starts : ι → σ × (M → ℕ) → Prog (Metered Op M) (MeteredResp Resp) E α → Prop}
  {acts : ω → σ × (M → ℕ) → σ × (M → ℕ) → Prop}
  {w w' : Shared ι (σ × (M → ℕ)) (MeteredResp (M := M) Resp) E α}
  {es : List (BesideEvent ι (MeteredResp (M := M) Resp) E α ω)}

/-- Whether a counter is incremented. -/
def incs (m : M) (a : Answered (MeteredResp (M := M) Resp) E) : Bool := incOf a = some m

/-- **A counter counts its increments**, if others leave it alone. -/
theorem counter_eq_of_run (hacts : ∀ a s s', acts a s s' → s'.2 = s.2)
    (h : Run (BesideStep starts (MeteredActs H) acts) w es w') (m : M) :
    w'.store.2 m = w.store.2 m + callCount (incs m) (ofPrograms es) := by
  refine h.induction_from
    (P := fun es w' => w'.store.2 m = w.store.2 m + callCount (incs m) (ofPrograms es)) rfl ?_
  intro es a e b _ ih hstep
  cases hstep with
  | other ha => rw [ofPrograms_other, ← ih, hacts _ _ _ ha]
  | program hstep =>
    rw [ofPrograms_program]
    cases hstep with
    | start => rw [callCount_start, ← ih]
    | @call i o k r s' hi hH =>
      rw [callCount_call, ← Nat.add_assoc, ← ih]
      cases o with
      | op o => rw [hH.2]; rfl
      | inc m' =>
        rw [hH.2.2]
        by_cases hm : m = m'
        · subst hm
          simp [incs, incOf]
        · simp [incs, incOf, Function.update_of_ne hm, Ne.symm hm]

end Counters

end Transition
