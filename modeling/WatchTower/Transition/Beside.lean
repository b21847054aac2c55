import WatchTower.Transition.Interleave

set_option relaxedAutoImplicit false
set_option autoImplicit false

/-!
# Programs beside other writers

Interleaved programs work on a store that others write to as well, each of their writes being one
atomic step. A program's specification does not speak of the store, so it holds of the program's
part whatever the others write.

## Main definitions

* `Transition.BesideEvent`, `Transition.BesideStep` — a program goes on, or another one writes.
* `Transition.ofPrograms` — the programs' part of a run.
* `Transition.FollowsSpec` — what a program still has to do is as its specification says.

## Main results

* `Transition.Run.beside_spec` — a program satisfies its specification in every such run.
* `Transition.Run.beside_history` — what permitted calls keep of a history, holds of a program's.
* `Transition.nodup_notesOf` — notes are distinct if those of each program are.
-/

namespace Transition

variable {Op : Type} {Resp : Op → Type} {E α σ ι ω : Type}

/-- What happens to a store that programs and others work on. -/
inductive BesideEvent (ι : Type) (Resp : Op → Type) (E α ω : Type)
  /-- A program starts, or performs a call. -/
  | program (e : SharedEvent ι Resp E α)
  /-- Another one writes. -/
  | other (a : ω)

/-- The event of a program, if it is one. -/
def BesideEvent.program? : BesideEvent ι Resp E α ω → Option (SharedEvent ι Resp E α)
  | .program e => some e
  | .other _ => none

/-- The programs' part of a run. -/
def ofPrograms (es : List (BesideEvent ι Resp E α ω)) : List (SharedEvent ι Resp E α) :=
  es.filterMap BesideEvent.program?

@[simp] lemma ofPrograms_nil : ofPrograms ([] : List (BesideEvent ι Resp E α ω)) = [] := rfl

lemma ofPrograms_append (es es' : List (BesideEvent ι Resp E α ω)) :
    ofPrograms (es ++ es') = ofPrograms es ++ ofPrograms es' := List.filterMap_append

@[simp] lemma ofPrograms_program (es : List (BesideEvent ι Resp E α ω))
    (e : SharedEvent ι Resp E α) : ofPrograms (es ++ [.program e]) = ofPrograms es ++ [e] :=
  ofPrograms_append es [.program e]

@[simp] lemma ofPrograms_other (es : List (BesideEvent ι Resp E α ω)) (a : ω) :
    ofPrograms (es ++ [.other a]) = ofPrograms es := by
  rw [ofPrograms_append]
  exact List.append_nil _

variable [DecidableEq ι] {starts : ι → σ → Prog Op Resp E α → Prop}
  {H : (o : Op) → σ → Except E (Resp o) → σ → Prop} {acts : ω → σ → σ → Prop} {s : σ}
  {w w' : Shared ι σ Resp E α} {A : (o : Op) → Except E (Resp o) → Prop}
  {I : ι → List (Answered Resp E) → Op → Prop}
  {Q : ι → List (Answered Resp E) → Except E α → Prop}

variable (starts H acts) in
/-- The steps: those of the programs, and what `acts` says that others write. -/
inductive BesideStep : Shared ι σ Resp E α → BesideEvent ι Resp E α ω → Shared ι σ Resp E α → Prop
  | program {w w' : Shared ι σ Resp E α} {e : SharedEvent ι Resp E α} :
      SharedStep starts H w e w' → BesideStep w (.program e) w'
  | other {w : Shared ι σ Resp E α} {a : ω} {s' : σ} :
      acts a w.store s' → BesideStep w (.other a) ⟨s', w.todo⟩

/-- A run of the programs is one beside others that do nothing. -/
lemma Run.beside {es : List (SharedEvent ι Resp E α)} (h : Run (SharedStep starts H) w es w') :
    Run (BesideStep starts H acts) w (es.map .program) w' := by
  induction h with
  | nil w => exact .nil w
  | cons hstep _ ih => exact .cons (.program hstep) ih

/-- What a program still has to do satisfies its specification after its history `h`; one that has
not started has no history. -/
def FollowsSpec (A : (o : Op) → Except E (Resp o) → Prop)
    (I : ι → List (Answered Resp E) → Op → Prop)
    (Q : ι → List (Answered Resp E) → Except E α → Prop) (i : ι) (h : List (Answered Resp E)) :
    Option (Prog Op Resp E α) → Prop
  | none => h = []
  | some p => p.Spec A (I i) (Q i) h

/-- **One step of the programs**, for one of them. -/
lemma FollowsSpec.step (hstarts : ∀ i s p, starts i s p → p.Spec A (I i) (Q i) [])
    (hA : ∀ o s r s', H o s r s' → A o r) {i : ι} {es : List (SharedEvent ι Resp E α)}
    {e : SharedEvent ι Resp E α} (h : FollowsSpec A I Q i (callsOf i es) (w.todo i))
    (hstep : SharedStep starts H w e w') :
    FollowsSpec A I Q i (callsOf i (es ++ [e])) (w'.todo i) := by
  cases hstep with
  | @start j p hj hp =>
    by_cases hij : i = j
    · subst hij
      rw [hj] at h
      simp only [callsOf_start, show callsOf i es = [] from h, Function.update_self]
      exact hstarts i _ p hp
    · simp only [callsOf_start, Function.update_of_ne hij]
      exact h
  | @call j o k r s' hj hH =>
    by_cases hij : i = j
    · subst hij
      rw [hj] at h
      simp only [callsOf_call_self, Function.update_self]
      exact h.2 r (hA o _ r s' hH)
    · simp only [callsOf_call_of_ne (Ne.symm hij), Function.update_of_ne hij]
      exact h

/-- **The program's rule, beside other writers.** -/
theorem Run.beside_spec (hstarts : ∀ i s p, starts i s p → p.Spec A (I i) (Q i) [])
    (hA : ∀ o s r s', H o s r s' → A o r) {es : List (BesideEvent ι Resp E α ω)}
    (hrun : Run (BesideStep starts H acts) (.idle s) es w) (i : ι) :
    FollowsSpec A I Q i (callsOf i (ofPrograms es)) (w.todo i) := by
  refine hrun.induction_from
    (P := fun es w => FollowsSpec A I Q i (callsOf i (ofPrograms es)) (w.todo i)) ?_ ?_
  · rfl
  · intro es a e b _ ih hstep
    cases hstep with
    | program hstep =>
      rw [ofPrograms_program]
      exact ih.step hstarts hA hstep
    | other =>
      rw [ofPrograms_other]
      exact ih

/-- **The rule of histories.** What holds of the empty history, and is kept by a permitted call,
holds of the history of every program. -/
theorem Run.beside_history (hstarts : ∀ i s p, starts i s p → p.Spec A (I i) (Q i) [])
    (hA : ∀ o s r s', H o s r s' → A o r) {es : List (BesideEvent ι Resp E α ω)}
    (hrun : Run (BesideStep starts H acts) (.idle s) es w) {i : ι}
    {P : List (Answered Resp E) → Prop} (nil : P [])
    (call : ∀ h o r, P h → I i h o → P (h ++ [⟨o, r⟩])) : P (callsOf i (ofPrograms es)) := by
  refine hrun.induction_from (P := fun es _ => P (callsOf i (ofPrograms es))) nil ?_
  intro es a e b hpre ih hstep
  cases hstep with
  | other =>
    rw [ofPrograms_other]
    exact ih
  | program hstep =>
    rw [ofPrograms_program]
    cases hstep with
    | start =>
      rw [callsOf_start]
      exact ih
    | @call j o k r s' hj hH =>
      by_cases hij : j = i
      · subst hij
        rw [callsOf_call_self]
        have hspec := hpre.beside_spec hstarts hA j
        rw [hj] at hspec
        exact call _ o r ih hspec.1
      · rw [callsOf_call_of_ne hij]
        exact ih

/-- **Notes are distinct** if those of each program are. -/
lemma nodup_notesOf {γ : Type} (f : Answered Resp E → Option γ)
    {es : List (SharedEvent ι Resp E α)} (h : ∀ i, ((callsOf i es).filterMap f).Nodup) :
    (notesOf f es).Nodup := by
  induction es using List.reverseRecOn with
  | nil => exact List.nodup_nil
  | append_singleton es e ih =>
    cases e with
    | start j p =>
      simp only [callsOf_start] at h
      rw [notesOf_start]
      exact ih h
    | call j o r =>
      have hes : ∀ i, ((callsOf i es).filterMap f).Nodup := by
        intro i
        have hi := h i
        rw [callsOf, List.filterMap_append, List.filterMap_append] at hi
        exact (List.nodup_append.1 hi).1
      rw [notesOf_call]
      cases hf : f ⟨o, r⟩ with
      | none =>
        rw [Option.map_none, Option.toList_none, List.append_nil]
        exact ih hes
      | some c =>
        have hj := h j
        rw [callsOf_call_self, List.filterMap_append, List.filterMap_cons_some hf,
          List.filterMap_nil] at hj
        have hc : c ∉ (callsOf j es).filterMap f :=
          fun hmem => (List.nodup_append.1 hj).2.2 c hmem c (List.mem_singleton_self c) rfl
        rw [Option.map_some, Option.toList_some]
        refine List.nodup_append.2 ⟨ih hes, List.pairwise_singleton _ _, ?_⟩
        rintro note hnote _ hlast rfl
        obtain rfl := List.mem_singleton.1 hlast
        exact hc ((mem_notesOf f es).1 hnote)

end Transition
