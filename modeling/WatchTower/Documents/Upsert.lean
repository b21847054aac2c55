import WatchTower.Documents.Collection

set_option relaxedAutoImplicit false
set_option autoImplicit false

/-!
# Updates that insert

An update of the first document that matches a filter, which inserts a document if there is none.
A collection that is only written so keeps, for each of several filters that no document matches two
of, what the writes of that filter make of one document, in whatever order they come with the
others.

## Main definitions

* `Documents.upsert` — update the first document that matches, or insert one.

## Main results

* `Documents.filter_upsert_self` — what the filter of the write matches afterwards.
* `Documents.filter_upsert_of_disjoint` — what another filter matches afterwards.
-/

namespace Documents

variable {α : Type*} {p q : α → Bool} {f : α → α} {a b : α} {l : List α}

/-- Update the first document satisfying `p`; without one, add `a` at the end. -/
def upsert (p : α → Bool) (f : α → α) (a : α) (l : List α) : List α :=
  if l.any p then updateFirst p f l else l ++ [a]

/-- A document that has been updated is one of before or the result of the update. -/
lemma mem_updateFirst (h : b ∈ updateFirst p f l) : b ∈ l ∨ ∃ c ∈ l, p c = true ∧ b = f c := by
  induction l with
  | nil => exact .inl h
  | cons c l ih =>
    rw [updateFirst] at h
    split_ifs at h with hc
    · rcases List.mem_cons.1 h with rfl | h
      · exact .inr ⟨c, List.mem_cons_self, hc, rfl⟩
      · exact .inl (List.mem_cons_of_mem _ h)
    · rcases List.mem_cons.1 h with rfl | h
      · exact .inl List.mem_cons_self
      · refine (ih h).imp (List.mem_cons_of_mem _) ?_
        rintro ⟨d, hd, hpd, rfl⟩
        exact ⟨d, List.mem_cons_of_mem _ hd, hpd, rfl⟩

/-- A document after the write is one of before, an updated one, or the one inserted. -/
lemma mem_upsert (h : b ∈ upsert p f a l) :
    b ∈ l ∨ (∃ c ∈ l, p c = true ∧ b = f c) ∨ b = a := by
  unfold upsert at h
  split_ifs at h with hany
  · exact (mem_updateFirst h).imp_right .inl
  · rw [List.mem_append, List.mem_singleton] at h
    exact h.imp_right .inr

/-- An update does not concern another kind of documents. -/
lemma filter_updateFirst_of_disjoint
    (hq : ∀ c ∈ l, p c = true → q c = false ∧ q (f c) = false) :
    (updateFirst p f l).filter q = l.filter q := by
  induction l with
  | nil => rfl
  | cons c l ih =>
    rw [List.forall_mem_cons] at hq
    rw [updateFirst]
    split_ifs with hc
    · simp [hq.1 hc]
    · rw [List.filter_cons, List.filter_cons, ih hq.2]

/-- **The write does not concern another kind of documents.** -/
theorem filter_upsert_of_disjoint (hq : ∀ c ∈ l, p c = true → q c = false ∧ q (f c) = false)
    (ha : q a = false) : (upsert p f a l).filter q = l.filter q := by
  unfold upsert
  split_ifs with hany
  · exact filter_updateFirst_of_disjoint hq
  · simp [ha]

/-- The one document of a kind, updated. -/
lemma filter_updateFirst_singleton (hf : p (f b) = true) (h : l.filter p = [b]) :
    (updateFirst p f l).filter p = [f b] := by
  induction l with
  | nil => cases h
  | cons c l ih =>
    rw [updateFirst]
    split_ifs with hc
    · rw [List.filter_cons_of_pos hc, List.cons.injEq] at h
      obtain ⟨rfl, hnone⟩ := h
      rw [List.filter_cons_of_pos hf, hnone]
    · rw [List.filter_cons_of_neg hc] at h ⊢
      exact ih h

/-- **The write makes one document of its kind** out of at most one. -/
theorem filter_upsert_self (hf : ∀ c, p c = true → p (f c) = true) (ha : p a = true)
    {o : Option α} (h : l.filter p = o.toList) : (upsert p f a l).filter p = [o.elim a f] := by
  unfold upsert
  cases o with
  | none =>
    have hnone : ¬l.any p = true := by
      rw [List.any_eq_true]
      rintro ⟨c, hc, hpc⟩
      exact List.filter_eq_nil_iff.1 h c hc hpc
    rw [if_neg hnone, List.filter_append, h, List.filter_cons_of_pos ha]
    rfl
  | some c =>
    have hc : c ∈ l.filter p := h ▸ List.mem_singleton_self c
    rw [List.mem_filter] at hc
    rw [if_pos (List.any_eq_true.2 ⟨c, hc⟩)]
    exact filter_updateFirst_singleton (hf c hc.2) h

end Documents
