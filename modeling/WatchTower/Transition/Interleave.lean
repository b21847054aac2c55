import Mathlib.Data.List.Induction
import Mathlib.Logic.Function.Basic
import WatchTower.Transition.Program
import WatchTower.Transition.Run

set_option relaxedAutoImplicit false
set_option autoImplicit false

/-!
# Interleaved programs

Any number of programs work on one store. Each starts at some time, possibly depending on the
store as it is then, and its calls are performed one at a time, in any order with those of the
others. A call is an atomic step of the store; its answer is given by a relation, so that it may
depend on more than the store.

What a single program does is described by its history, the calls it has made with their answers:
`Prog.Spec` says which call may come next after a history, and with which one the program ends.
A specification is proved once about the program, with a rule for each way of composing
programs, and then holds of the program's part in every interleaving.

## Main definitions

* `Transition.Shared` — a store and what the programs working on it still have to do.
* `Transition.SharedStep` — a program starts, or performs its next call.
* `Transition.callsOf` — the history of one program in a run.
* `Transition.notesOf` — what can be noted of the calls of all programs.
* `Transition.Prog.Spec` — a program's behaviour after a history.
* `Transition.Prog.Returns` — the same for what it returns, whatever its exceptions.

## Main results

* `Transition.Prog.Spec.bind`, `Transition.Prog.Spec.catchError`, `Transition.Prog.Returns.bind` —
  the rules of composition.
* `Transition.Run.store_invariant` — what every call of every program keeps, all interleavings
  keep.
* `Transition.Run.spec` — in every interleaving each program satisfies its specification, hence
  makes only permitted calls (`Transition.Run.permits`) and ends as it should
  (`Transition.Run.ends`).
* `Transition.Run.store_invariant_of_facts` — what calls keep that are permitted by the answers
  before them, if these stay true.
* `Transition.exists_run_alone` — one of the interleavings runs a program on its own.
* `Transition.run_schedule` — the programs can be run in any given order.
-/

namespace Transition

variable {Op : Type} {Resp : Op → Type} {E α β σ ι : Type}

/-- A call with its answer. -/
abbrev Answered (Resp : Op → Type) (E : Type) : Type := Σ o : Op, Except E (Resp o)

namespace Prog

/-- The program that has ended. -/
def done : Except E α → Prog Op Resp E α
  | .ok a => ret a
  | .error e => fail e

/-- The behaviour of a program after the history `h`, for answers in `A`: each call it makes is
permitted by `I` after the history so far, and it ends as `Q` says. -/
def Spec (A : (o : Op) → Except E (Resp o) → Prop) (I : List (Answered Resp E) → Op → Prop)
    (Q : List (Answered Resp E) → Except E α → Prop) :
    List (Answered Resp E) → Prog Op Resp E α → Prop
  | h, ret a => Q h (.ok a)
  | h, fail e => Q h (.error e)
  | h, call o k => I h o ∧ ∀ r, A o r → (k r).Spec A I Q (h ++ [⟨o, r⟩])

variable {A : (o : Op) → Except E (Resp o) → Prop} {I : List (Answered Resp E) → Op → Prop}
  {h : List (Answered Resp E)}

/-- The rule of consequence. -/
lemma Spec.mono {Q Q' : List (Answered Resp E) → Except E α → Prop}
    (hQ : ∀ h out, Q h out → Q' h out) {p : Prog Op Resp E α} (hp : p.Spec A I Q h) :
    p.Spec A I Q' h := by
  induction p generalizing h with
  | ret a => exact hQ _ _ hp
  | fail e => exact hQ _ _ hp
  | call o k ih => exact ⟨hp.1, fun r hr => ih r (hp.2 r hr)⟩

/-- The rule of sequences: an exception ends it. -/
lemma Spec.bind {Q : List (Answered Resp E) → Except E β → Prop}
    {p : Prog Op Resp E α} {f : α → Prog Op Resp E β}
    (hp : p.Spec A I (fun h out => match out with
      | .ok a => (f a).Spec A I Q h
      | .error e => Q h (.error e)) h) : (p.bind f).Spec A I Q h := by
  induction p generalizing h with
  | ret a => exact hp
  | fail e => exact hp
  | call o k ih => exact ⟨hp.1, fun r hr => ih r (hp.2 r hr)⟩

/-- The rule of `try … catch` blocks. -/
lemma Spec.catchError {Q : List (Answered Resp E) → Except E α → Prop}
    {p : Prog Op Resp E α} {f : E → Prog Op Resp E α}
    (hp : p.Spec A I (fun h out => match out with
      | .ok a => Q h (.ok a)
      | .error e => (f e).Spec A I Q h) h) : (p.catchError f).Spec A I Q h := by
  induction p generalizing h with
  | ret a => exact hp
  | fail e => exact hp
  | call o k ih => exact ⟨hp.1, fun r hr => ih r (hp.2 r hr)⟩

/-- The rule of a single call. -/
lemma spec_await {o : Op} {Q : List (Answered Resp E) → Except E (Resp o) → Prop} :
    (await o : Prog Op Resp E (Resp o)).Spec A I Q h ↔
      I h o ∧ ∀ r, A o r → Q (h ++ [⟨o, r⟩]) r := by
  refine and_congr_right fun _ => forall_congr' fun r => imp_congr_right fun _ => ?_
  cases r <;> rfl

/-- The rule of a call whose rejection is looked at. -/
lemma spec_attempt {o : Op} {Q : List (Answered Resp E) → Except E (Except E (Resp o)) → Prop} :
    (attempt o : Prog Op Resp E (Except E (Resp o))).Spec A I Q h ↔
      I h o ∧ ∀ r, A o r → Q (h ++ [⟨o, r⟩]) (.ok r) := Iff.rfl

/-- A specification that permits only calls in `B` describes a program with only such calls. -/
lemma Spec.allCalls {B : Op → Prop} {Q : List (Answered Resp E) → Except E α → Prop}
    {p : Prog Op Resp E α} (hp : p.Spec (fun _ _ => True) (fun _ => B) Q h) : p.AllCalls B := by
  induction p generalizing h with
  | ret a => trivial
  | fail e => trivial
  | call o k ih => exact ⟨hp.1, fun r => ih r (hp.2 r trivial)⟩

/-- A program whose calls are in `B` adds such calls to its history. -/
lemma AllCalls.spec {B : Op → Prop} (hB : ∀ h o, B o → I h o) {p : Prog Op Resp E α}
    (hp : p.AllCalls B) :
    p.Spec A I (fun h' _ => ∃ added, h' = h ++ added ∧ ∀ a ∈ added, B a.1) h := by
  induction p generalizing h with
  | ret a => exact ⟨[], by simp⟩
  | fail e => exact ⟨[], by simp⟩
  | call o k ih =>
    refine ⟨hB h o hp.1, fun r _ => (ih r (hp.2 r)).mono fun h' out hadded => ?_⟩
    obtain ⟨added, rfl, hcalls⟩ := hadded
    refine ⟨⟨o, r⟩ :: added, by simp, fun a ha => ?_⟩
    rcases List.mem_cons.1 ha with rfl | ha
    · exact hp.1
    · exact hcalls a ha

/-- After the history `h` a program makes only permitted calls, and what it returns is as `P` says.
Nothing is said of its exceptions. -/
def Returns (I : List (Answered Resp E) → Op → Prop) (P : List (Answered Resp E) → α → Prop)
    (h : List (Answered Resp E)) (p : Prog Op Resp E α) : Prop :=
  p.Spec (fun _ _ => True) I (fun h' out => ∀ a, out = .ok a → P h' a) h

section Returns

variable {P : List (Answered Resp E) → α → Prop} {P' : List (Answered Resp E) → β → Prop}

lemma Returns.ret {a : α} (ha : P h a) : (ret a : Prog Op Resp E α).Returns I P h := by
  intro b hb
  obtain rfl := Except.ok.inj hb
  exact ha

lemma Returns.fail (e : E) : (fail e : Prog Op Resp E α).Returns I P h := by
  intro b hb
  cases hb

lemma Returns.bind {p : Prog Op Resp E α} {f : α → Prog Op Resp E β} (hp : p.Returns I P h)
    (hf : ∀ h a, P h a → (f a).Returns I P' h) : (p.bind f).Returns I P' h := by
  refine Spec.bind (Spec.mono (fun h' out hout => ?_) hp)
  cases out with
  | ok a => exact hf h' a (hout a rfl)
  | error e =>
    intro b hb
    cases hb

lemma Returns.catchError {p : Prog Op Resp E α} {f : E → Prog Op Resp E α}
    (hp : p.Returns I P h) (hf : ∀ h e, (f e).Returns I P h) :
    (p.catchError f).Returns I P h := by
  refine Spec.catchError (Spec.mono (fun h' out hout => ?_) hp)
  cases out with
  | ok a => exact hout
  | error e => exact hf h' e

lemma Returns.await {o : Op} {P : List (Answered Resp E) → Resp o → Prop} (ho : I h o)
    (hP : ∀ a, P (h ++ [⟨o, .ok a⟩]) a) : (await o : Prog Op Resp E (Resp o)).Returns I P h := by
  refine spec_await.2 ⟨ho, ?_⟩
  rintro r - a rfl
  exact hP a

lemma Returns.attempt {o : Op} {P : List (Answered Resp E) → Except E (Resp o) → Prop}
    (ho : I h o) (hP : ∀ r, P (h ++ [⟨o, r⟩]) r) :
    (attempt o : Prog Op Resp E (Except E (Resp o))).Returns I P h := by
  refine spec_attempt.2 ⟨ho, ?_⟩
  rintro r - a ⟨⟩
  exact hP r

lemma Returns.ite {c : Prop} [Decidable c] {p q : Prog Op Resp E α}
    (hp : c → p.Returns I P h) (hq : ¬c → q.Returns I P h) :
    (if c then p else q).Returns I P h := by
  split_ifs with hc
  · exact hp hc
  · exact hq hc

end Returns

end Prog

/-! ## The shared store -/

/-- A store and the programs working on it: what each still has to do, and `none` for one that
has not started. -/
structure Shared (ι σ : Type) (Resp : Op → Type) (E α : Type) where
  /-- The store. -/
  store : σ
  /-- What the programs still have to do. -/
  todo : ι → Option (Prog Op Resp E α)

/-- A store on which nothing has started. -/
def Shared.idle (s : σ) : Shared ι σ Resp E α where
  store := s
  todo := fun _ => none

/-- What happens to a shared store. -/
inductive SharedEvent (ι : Type) (Resp : Op → Type) (E α : Type)
  /-- A program starts. -/
  | start (i : ι) (p : Prog Op Resp E α)
  /-- It performs a call. -/
  | call (i : ι) (o : Op) (r : Except E (Resp o))

/-- The steps: `starts` says with which program one can start in a store, and `H` what a call can
answer and do. -/
inductive SharedStep [DecidableEq ι] (starts : ι → σ → Prog Op Resp E α → Prop)
    (H : (o : Op) → σ → Except E (Resp o) → σ → Prop) :
    Shared ι σ Resp E α → SharedEvent ι Resp E α → Shared ι σ Resp E α → Prop
  | start {w : Shared ι σ Resp E α} {i : ι} {p : Prog Op Resp E α} :
      w.todo i = none →
      starts i w.store p →
      SharedStep starts H w (.start i p) ⟨w.store, Function.update w.todo i (some p)⟩
  | call {w : Shared ι σ Resp E α} {i : ι} {o : Op} {k : Except E (Resp o) → Prog Op Resp E α}
      {r : Except E (Resp o)} {s' : σ} :
      w.todo i = some (.call o k) →
      H o w.store r s' →
      SharedStep starts H w (.call i o r) ⟨s', Function.update w.todo i (some (k r))⟩

section Histories

variable [DecidableEq ι]

/-- The call that an event is, if it is one of program `i`. -/
def SharedEvent.callOf (i : ι) : SharedEvent ι Resp E α → Option (Answered Resp E)
  | .start _ _ => none
  | .call j o r => if j = i then some ⟨o, r⟩ else none

/-- The calls of program `i` in a run, with their answers: its history. -/
def callsOf (i : ι) (es : List (SharedEvent ι Resp E α)) : List (Answered Resp E) :=
  es.filterMap (·.callOf i)

@[simp] lemma callsOf_nil (i : ι) :
    callsOf i ([] : List (SharedEvent ι Resp E α)) = [] := rfl

@[simp] lemma callsOf_start (i j : ι) (p : Prog Op Resp E α)
    (es : List (SharedEvent ι Resp E α)) : callsOf i (es ++ [.start j p]) = callsOf i es := by
  simp [callsOf, SharedEvent.callOf]

@[simp] lemma callsOf_call_self (i : ι) (o : Op) (r : Except E (Resp o))
    (es : List (SharedEvent ι Resp E α)) :
    callsOf i (es ++ [.call i o r]) = callsOf i es ++ [⟨o, r⟩] := by
  simp [callsOf, SharedEvent.callOf]

lemma callsOf_call_of_ne {i j : ι} (h : j ≠ i) (o : Op) (r : Except E (Resp o))
    (es : List (SharedEvent ι Resp E α)) : callsOf i (es ++ [.call j o r]) = callsOf i es := by
  simp [callsOf, SharedEvent.callOf, h]

/-- A history consists of the calls of the run. -/
lemma mem_callsOf {i : ι} {o : Op} {r : Except E (Resp o)} {es : List (SharedEvent ι Resp E α)} :
    (⟨o, r⟩ : Answered Resp E) ∈ callsOf i es ↔ .call i o r ∈ es := by
  rw [callsOf, List.mem_filterMap]
  constructor
  · rintro ⟨e, he, hcall⟩
    cases e with
    | start j p => cases hcall
    | call j o' r' =>
      simp only [SharedEvent.callOf] at hcall
      split_ifs at hcall with hji
      obtain ⟨⟩ := Option.some.inj hcall
      exact hji ▸ he
  · exact fun he => ⟨_, he, if_pos rfl⟩

/-- The history after a call. -/
lemma mem_callsOf_call {i j : ι} {o : Op} {r : Except E (Resp o)}
    {es : List (SharedEvent ι Resp E α)} {a : Answered Resp E} :
    a ∈ callsOf i (es ++ [.call j o r]) ↔ a ∈ callsOf i es ∨ j = i ∧ a = ⟨o, r⟩ := by
  by_cases hji : j = i
  · subst hji
    rw [callsOf_call_self, List.mem_append, List.mem_singleton]
    exact or_congr_right (and_iff_right rfl).symm
  · rw [callsOf_call_of_ne hji]
    exact (or_iff_left fun h => hji h.1).symm

/-- What `f` notes of the calls of a run, with the program that made each. -/
def notesOf {γ : Type} (f : Answered Resp E → Option γ) (es : List (SharedEvent ι Resp E α)) :
    List (ι × γ) :=
  es.filterMap fun e => match e with
    | .start _ _ => none
    | .call i o r => (f ⟨o, r⟩).map (i, ·)

section Notes

variable {γ : Type} (f : Answered Resp E → Option γ) (es : List (SharedEvent ι Resp E α))

omit [DecidableEq ι] in
@[simp] lemma notesOf_nil : notesOf f ([] : List (SharedEvent ι Resp E α)) = [] := rfl

omit [DecidableEq ι] in
lemma notesOf_append (es' : List (SharedEvent ι Resp E α)) :
    notesOf f (es ++ es') = notesOf f es ++ notesOf f es' :=
  List.filterMap_append

omit [DecidableEq ι] in
@[simp] lemma notesOf_start (i : ι) (p : Prog Op Resp E α) :
    notesOf f (es ++ [.start i p]) = notesOf f es := by
  simp [notesOf]

omit [DecidableEq ι] in
@[simp] lemma notesOf_call (i : ι) (o : Op) (r : Except E (Resp o)) :
    notesOf f (es ++ [.call i o r]) = notesOf f es ++ ((f ⟨o, r⟩).map (i, ·)).toList := by
  cases h : f ⟨o, r⟩ <;> simp [notesOf, h]

/-- A note of the run is a note of one program's history. -/
lemma mem_notesOf {i : ι} {c : γ} : (i, c) ∈ notesOf f es ↔ c ∈ (callsOf i es).filterMap f := by
  induction es using List.reverseRecOn with
  | nil => simp
  | append_singleton es e ih =>
    cases e with
    | start j p => simpa using ih
    | call j o r =>
      by_cases hij : j = i
      · subst hij
        cases h : f ⟨o, r⟩ <;> simp [ih, h]
      · cases h : f ⟨o, r⟩ <;> simp [ih, h, callsOf_call_of_ne hij, Ne.symm hij]

end Notes

end Histories

section Runs

variable [DecidableEq ι] {starts : ι → σ → Prog Op Resp E α → Prop}
  {H : (o : Op) → σ → Except E (Resp o) → σ → Prop} {s : σ} {w : Shared ι σ Resp E α}
  {es : List (SharedEvent ι Resp E α)}

/-- **The store's rule.** If every program that can start makes only calls in `A`, and every call
in `A` keeps `P`, then `P` holds of the store throughout every interleaving. -/
theorem Run.store_invariant {A : Op → Prop} {P : σ → Prop}
    (hstarts : ∀ i s p, P s → starts i s p → p.AllCalls A)
    (hA : ∀ o s r s', A o → P s → H o s r s' → P s')
    (hrun : Run (SharedStep starts H) (.idle s) es w) (hs : P s) : P w.store := by
  let All : Shared ι σ Resp E α → Prop := fun w =>
    P w.store ∧ ∀ i p, w.todo i = some p → p.AllCalls A
  have hstep : ∀ w e w', All w → SharedStep starts H w e w' → All w' := by
    rintro w e w' ⟨hinv, htodo⟩ hstep
    cases hstep with
    | @start i p _ hp =>
      refine ⟨hinv, fun j q hj => ?_⟩
      by_cases hji : j = i
      · subst hji
        obtain rfl : p = q := by simpa using hj
        exact hstarts j _ p hinv hp
      · exact htodo j q (by simpa [Function.update_of_ne hji] using hj)
    | @call i o k r s' hi hH =>
      obtain ⟨ho, hk⟩ := htodo i _ hi
      refine ⟨hA o _ r s' ho hinv hH, fun j q hj => ?_⟩
      by_cases hji : j = i
      · subst hji
        obtain rfl : k r = q := by simpa using hj
        exact hk r
      · exact htodo j q (by simpa [Function.update_of_ne hji] using hj)
  exact (hrun.invariant hstep ⟨hs, by simp [Shared.idle]⟩).1

/-- **The program's rule.** If a program satisfies its specification whenever it starts, and the
calls answer as the specification assumes, then in every interleaving what it still has to do
satisfies the specification after its history. A program that has not started has no history. -/
theorem Run.spec {A : (o : Op) → Except E (Resp o) → Prop}
    {I : ι → List (Answered Resp E) → Op → Prop}
    {Q : ι → List (Answered Resp E) → Except E α → Prop}
    (hstarts : ∀ i s p, starts i s p → p.Spec A (I i) (Q i) [])
    (hA : ∀ o s r s', H o s r s' → A o r)
    (hrun : Run (SharedStep starts H) (.idle s) es w) (i : ι) :
    match w.todo i with
    | none => callsOf i es = []
    | some p => p.Spec A (I i) (Q i) (callsOf i es) := by
  refine hrun.induction_from (P := fun es w => match w.todo i with
    | none => callsOf i es = []
    | some p => p.Spec A (I i) (Q i) (callsOf i es)) rfl ?_
  intro es a e b _ ih hstep
  cases hstep with
  | @start j p hj hp =>
    by_cases hij : i = j
    · subst hij
      rw [hj] at ih
      simpa [ih] using hstarts i _ p hp
    · simpa [Function.update_of_ne hij] using ih
  | @call j o k r s' hj hH =>
    by_cases hij : i = j
    · subst hij
      rw [hj] at ih
      simpa using ih.2 r (hA o _ r s' hH)
    · simpa [Function.update_of_ne hij, callsOf_call_of_ne (Ne.symm hij)] using ih

/-- What a program does next is permitted after its history. -/
theorem Run.permits {A : (o : Op) → Except E (Resp o) → Prop}
    {I : ι → List (Answered Resp E) → Op → Prop}
    {Q : ι → List (Answered Resp E) → Except E α → Prop}
    (hstarts : ∀ i s p, starts i s p → p.Spec A (I i) (Q i) [])
    (hA : ∀ o s r s', H o s r s' → A o r) (hrun : Run (SharedStep starts H) (.idle s) es w)
    {i : ι} {o : Op} {k : Except E (Resp o) → Prog Op Resp E α}
    (hi : w.todo i = some (.call o k)) : I i (callsOf i es) o := by
  have hspec := hrun.spec hstarts hA i
  rw [hi] at hspec
  exact hspec.1

/-- A program that has ended has ended as its specification says. -/
theorem Run.ends {A : (o : Op) → Except E (Resp o) → Prop}
    {I : ι → List (Answered Resp E) → Op → Prop}
    {Q : ι → List (Answered Resp E) → Except E α → Prop}
    (hstarts : ∀ i s p, starts i s p → p.Spec A (I i) (Q i) [])
    (hA : ∀ o s r s', H o s r s' → A o r) (hrun : Run (SharedStep starts H) (.idle s) es w)
    {i : ι} {out : Except E α} (hi : w.todo i = some (.done out)) :
    Q i (callsOf i es) out := by
  have hspec := hrun.spec hstarts hA i
  rw [hi] at hspec
  cases out with
  | ok a => exact hspec
  | error e => exact hspec

/-- **The rule of stable facts.** Suppose every answer establishes a fact about the store that later
calls keep true, and a call that is permitted after a history keeps `P` while the facts of that
history hold. Then `P` holds of the store throughout every interleaving. -/
theorem Run.store_invariant_of_facts {I : List (Answered Resp E) → Op → Prop}
    {F : Answered Resp E → σ → Prop} {P : σ → Prop}
    (hstarts : ∀ i s p, starts i s p → p.Spec (fun _ _ => True) I (fun _ _ => True) [])
    (hnew : ∀ o s r s', P s → H o s r s' → F ⟨o, r⟩ s')
    (hstable : ∀ a o s r s', P s → H o s r s' → F a s → F a s')
    (hkeep : ∀ h o s r s', (∀ a ∈ h, F a s) → I h o → P s → H o s r s' → P s')
    (hrun : Run (SharedStep starts H) (.idle s) es w) (hs : P s) : P w.store := by
  have hall : P w.store ∧ ∀ i, ∀ a ∈ callsOf i es, F a w.store := by
    refine hrun.induction_from
      (P := fun es w => P w.store ∧ ∀ i, ∀ a ∈ callsOf i es, F a w.store)
      ⟨hs, fun i a ha => by cases ha⟩ ?_
    rintro es w e w' hpre ⟨hP, hfacts⟩ hstep
    cases hstep with
    | start => exact ⟨hP, fun i => by rw [callsOf_start]; exact hfacts i⟩
    | @call j o k r s' hj hH =>
      have hpermitted : I (callsOf j es) o :=
        hpre.permits (I := fun _ => I) (Q := fun _ _ _ => True) hstarts
          (fun _ _ _ _ _ => trivial) hj
      refine ⟨hkeep _ o _ r s' (hfacts j) hpermitted hP hH, fun i a ha => ?_⟩
      by_cases hji : j = i
      · subst hji
        rw [callsOf_call_self, List.mem_append, List.mem_singleton] at ha
        rcases ha with ha | rfl
        · exact hstable a o _ r s' hP hH (hfacts j a ha)
        · exact hnew o _ r s' hP hH
      · rw [callsOf_call_of_ne hji] at ha
        exact hstable a o _ r s' hP hH (hfacts i a ha)
  exact hall.1

/-- **A program alone.** A program that has started can run to its end without the others, if the
calls can answer and act as the handler `h` says. -/
theorem exists_run_alone {h : (o : Op) → σ → Except E (Resp o) × σ}
    (hH : ∀ o s, H o s (h o s).1 (h o s).2) {i : ι} (p : Prog Op Resp E α)
    (w : Shared ι σ Resp E α) (hi : w.todo i = some p) :
    ∃ es, Run (SharedStep starts H) w es
      ⟨(p.run h w.store).2, Function.update w.todo i (some (.done (p.run h w.store).1))⟩ := by
  induction p generalizing w with
  | ret a =>
    have hw : w = ⟨w.store, Function.update w.todo i (some (.done (.ok a)))⟩ := by
      rw [Prog.done, ← hi, Function.update_eq_self]
    exact ⟨[], run_nil_iff.2 hw⟩
  | fail e =>
    have hw : w = ⟨w.store, Function.update w.todo i (some (.done (.error e)))⟩ := by
      rw [Prog.done, ← hi, Function.update_eq_self]
    exact ⟨[], run_nil_iff.2 hw⟩
  | call o k ih =>
    obtain ⟨es, hrun⟩ := ih (h o w.store).1
      ⟨(h o w.store).2, Function.update w.todo i (some (k (h o w.store).1))⟩ (by simp)
    rw [Function.update_idem] at hrun
    exact ⟨_, .cons (.call hi (hH o w.store)) hrun⟩

/-- The same for the first program to start. -/
theorem exists_run_first {h : (o : Op) → σ → Except E (Resp o) × σ}
    (hH : ∀ o s, H o s (h o s).1 (h o s).2) {i : ι} {p : Prog Op Resp E α} (hp : starts i s p) :
    ∃ es w', Run (SharedStep starts H) (.idle s) es w' ∧ w'.store = (p.run h s).2 := by
  let started : Shared ι σ Resp E α := ⟨s, Function.update (fun _ => none) i (some p)⟩
  have hi : started.todo i = some p := by simp [started]
  have hstart : SharedStep starts H (.idle s) (.start i p) started := .start rfl hp
  obtain ⟨es, hrun⟩ := exists_run_alone hH p started hi
  exact ⟨_, _, .cons hstart hrun, rfl⟩

/-! ## Schedules -/

/-- Program `i` starts, or performs its next call, as the handler `h` says. -/
def Shared.advance (h : (o : Op) → σ → Except E (Resp o) × σ) (p : ι → Prog Op Resp E α)
    (w : Shared ι σ Resp E α) (i : ι) : Shared ι σ Resp E α :=
  match w.todo i with
  | none => ⟨w.store, Function.update w.todo i (some (p i))⟩
  | some (.call o k) => ⟨(h o w.store).2, Function.update w.todo i (some (k (h o w.store).1))⟩
  | some _ => w

/-- What happens when it does. A program that has ended does nothing. -/
def Shared.event (h : (o : Op) → σ → Except E (Resp o) × σ) (p : ι → Prog Op Resp E α)
    (w : Shared ι σ Resp E α) (i : ι) : Option (SharedEvent ι Resp E α) :=
  match w.todo i with
  | none => some (.start i (p i))
  | some (.call o _) => some (.call i o (h o w.store).1)
  | some _ => none

/-- What happens along a schedule. -/
def Shared.trace (h : (o : Op) → σ → Except E (Resp o) × σ) (p : ι → Prog Op Resp E α) :
    Shared ι σ Resp E α → List ι → List (SharedEvent ι Resp E α)
  | _, [] => []
  | w, i :: schedule => (w.event h p i).toList ++ Shared.trace h p (w.advance h p i) schedule

/-- **A schedule can be run**, if programs can always start, and calls answer as the handler
says. -/
theorem run_schedule {h : (o : Op) → σ → Except E (Resp o) × σ}
    (hH : ∀ o s, H o s (h o s).1 (h o s).2) {p : ι → Prog Op Resp E α}
    (hp : ∀ i s, starts i s (p i)) (schedule : List ι) (w : Shared ι σ Resp E α) :
    Run (SharedStep starts H) w (w.trace h p schedule)
      (schedule.foldl (Shared.advance h p) w) := by
  induction schedule generalizing w with
  | nil => exact .nil w
  | cons i schedule ih =>
    have hrest := ih (w.advance h p i)
    rw [List.foldl_cons, Shared.trace]
    cases hi : w.todo i with
    | none =>
      have hstep : SharedStep starts H w (.start i (p i)) (w.advance h p i) := by
        rw [Shared.advance, hi]
        exact .start hi (hp i w.store)
      rw [Shared.event, hi]
      exact .cons hstep hrest
    | some q =>
      cases q with
      | call o k =>
        have hstep : SharedStep starts H w (.call i o (h o w.store).1) (w.advance h p i) := by
          rw [Shared.advance, hi]
          exact .call hi (hH o w.store)
        rw [Shared.event, hi]
        exact .cons hstep hrest
      | ret a =>
        have hsame : w.advance h p i = w := by rw [Shared.advance, hi]
        rw [Shared.event, hi]
        rwa [hsame] at hrest ⊢
      | fail e =>
        have hsame : w.advance h p i = w := by rw [Shared.advance, hi]
        rw [Shared.event, hi]
        rwa [hsame] at hrest ⊢

end Runs

end Transition
