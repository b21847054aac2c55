import Mathlib.Data.List.Induction
import Mathlib.Data.List.Nodup
import Mathlib.Tactic.Common

set_option relaxedAutoImplicit false
set_option autoImplicit false

/-!
# Queries with an order and a limit

The first documents of a collection by some order, up to a limit. Documents of the same rank come
in any order, so the results are a relation. What is done with the results afterwards, such as
leaving some out, does not bring in documents past the limit.

## Main definitions

* `Documents.Limited` — the results of such a query.

## Main results

* `Documents.Limited.rank` — a result is ranked no later than a document past the limit.
* `Documents.Limited.countP_lt` — how many documents come before a result.
* `Documents.limited_mergeSort` — there are results.
* `Documents.limited_concat_iff`, `Documents.limited_iff_of_pairwise` — the results when documents
  are inserted in the reverse order: the last ones.
* `Documents.Limited.le_countP_iff` — when as many other documents as the limit satisfy a
  predicate and are ranked no later than a document past it.
-/

namespace Documents

variable {α : Type*}

/-- The results of a query for the documents of a list, in the order `R` and up to `k`. -/
def Limited (R : α → α → Bool) (k : ℕ) (docs results : List α) : Prop :=
  ∃ sorted : List α, sorted.Perm docs ∧ sorted.Pairwise (R · ·) ∧ results = sorted.take k

variable {R : α → α → Bool} {k : ℕ} {docs results : List α} {a b : α}

/-- The documents are the results and those past the limit. -/
lemma Limited.exists_rest (h : Limited R k docs results) :
    ∃ rest, (results ++ rest).Perm docs ∧ (∀ a ∈ results, ∀ b ∈ rest, R a b = true) ∧
      (rest ≠ [] → results.length = k) := by
  obtain ⟨sorted, hperm, hsorted, rfl⟩ := h
  rw [← List.take_append_drop k sorted, List.pairwise_append] at hsorted
  refine ⟨sorted.drop k, by rwa [List.take_append_drop], hsorted.2.2, fun hne => ?_⟩
  rw [Ne, List.drop_eq_nil_iff] at hne
  rw [List.length_take]
  omega

/-- There are no more results than the limit. -/
lemma Limited.length_le (h : Limited R k docs results) : results.length ≤ k := by
  obtain ⟨sorted, -, -, rfl⟩ := h
  exact List.length_take_le k sorted

/-- A result is a document. -/
lemma Limited.mem (h : Limited R k docs results) (ha : a ∈ results) : a ∈ docs := by
  obtain ⟨rest, hperm, -⟩ := h.exists_rest
  exact hperm.subset (List.mem_append_left _ ha)

/-- A document past the limit, after the results. -/
lemma Limited.exists_mem_rest (h : Limited R k docs results) (hb : b ∈ docs) (hnot : b ∉ results) :
    ∃ rest, (results ++ rest).Perm docs ∧ (∀ a ∈ results, ∀ b ∈ rest, R a b = true) ∧
      results.length = k ∧ b ∈ rest := by
  obtain ⟨rest, hperm, hrank, hlength⟩ := h.exists_rest
  have hrest : b ∈ rest := (List.mem_append.1 (hperm.symm.subset hb)).resolve_left hnot
  exact ⟨rest, hperm, hrank, hlength (List.ne_nil_of_mem hrest), hrest⟩

/-- Without more documents than the limit, all are results. -/
lemma Limited.mem_of_length_le (h : Limited R k docs results) (hle : docs.length ≤ k)
    (hb : b ∈ docs) : b ∈ results := by
  by_contra hnot
  obtain ⟨rest, hperm, -, hlength, hrest⟩ := h.exists_mem_rest hb hnot
  have hpos := List.length_pos_of_mem hrest
  have htotal := hperm.length_eq
  rw [List.length_append] at htotal
  omega

/-- **Fewer documents than the limit come before a result.** -/
theorem Limited.countP_lt (h : Limited R k docs results) (ha : a ∈ results)
    (hrefl : R a a = true) : docs.countP (fun b => !R a b) < k := by
  obtain ⟨rest, hperm, hrank, -⟩ := h.exists_rest
  have hrest : rest.countP (fun b => !R a b) = 0 := by
    rw [List.countP_eq_zero]
    intro b hb
    simp [hrank a ha b hb]
  have hresults : results.countP (fun b => !R a b) < results.length := by
    refine Nat.lt_of_le_of_ne List.countP_le_length fun hall => ?_
    have hself := List.countP_eq_length.1 hall a ha
    simp [hrefl] at hself
  rw [← hperm.countP_eq, List.countP_append, hrest]
  exact Nat.lt_of_lt_of_le hresults h.length_le

/-- **A result is ranked no later** than a document past the limit. -/
theorem Limited.rank (h : Limited R k docs results) (ha : a ∈ results) (hb : b ∈ docs)
    (hnot : b ∉ results) : R a b = true := by
  obtain ⟨rest, -, hrank, -, hrest⟩ := h.exists_mem_rest hb hnot
  exact hrank a ha b hrest

/-- There are results, if the order is one. -/
lemma limited_mergeSort (htrans : ∀ a b c, R a b = true → R b c = true → R a c = true)
    (htotal : ∀ a b, (R a b || R b a) = true) (k : ℕ) (docs : List α) :
    Limited R k docs ((docs.mergeSort R).take k) :=
  ⟨docs.mergeSort R, List.mergeSort_perm docs R, List.pairwise_mergeSort htrans htotal docs, rfl⟩

/-- **A document that comes first** is the first result, and the others are the results without it,
up to one less. -/
theorem limited_concat_iff (ha : ∀ b ∈ docs, R a b = true ∧ R b a = false) :
    Limited R (k + 1) (docs ++ [a]) results ↔
      ∃ others, Limited R k docs others ∧ results = a :: others := by
  constructor
  · rintro ⟨sorted, hperm, hsorted, rfl⟩
    have hmem : a ∈ sorted :=
      hperm.symm.subset (List.mem_append_right _ (List.mem_singleton_self a))
    obtain ⟨pre, post, rfl⟩ := List.append_of_mem hmem
    have hrest : (pre ++ post).Perm docs := by
      refine (List.perm_cons a).1 (List.perm_middle.symm.trans (hperm.trans ?_))
      exact List.perm_append_comm
    cases pre with
    | nil =>
      rw [List.nil_append, List.pairwise_cons] at hsorted
      exact ⟨post.take k, ⟨post, hrest, hsorted.2, rfl⟩, rfl⟩
    | cons b pre =>
      have hb : R b a = true := by
        rw [List.cons_append, List.pairwise_cons] at hsorted
        exact hsorted.1 a (List.mem_append_right _ List.mem_cons_self)
      rw [(ha b (hrest.subset List.mem_cons_self)).2] at hb
      cases hb
  · rintro ⟨others, ⟨sorted, hperm, hsorted, rfl⟩, rfl⟩
    refine ⟨a :: sorted, (hperm.cons a).trans (List.perm_append_singleton a docs).symm, ?_, rfl⟩
    exact List.pairwise_cons.2 ⟨fun b hb => (ha b (hperm.subset hb)).1, hsorted⟩

/-- The results up to a limit are the first ones of those up to a larger one. -/
lemma limited_iff_exists_take {k' : ℕ} (hle : k ≤ k') :
    Limited R k docs results ↔ ∃ more, Limited R k' docs more ∧ results = more.take k := by
  constructor
  · rintro ⟨sorted, hperm, hsorted, rfl⟩
    exact ⟨sorted.take k', ⟨sorted, hperm, hsorted, rfl⟩, by
      rw [List.take_take, Nat.min_eq_left hle]⟩
  · rintro ⟨more, ⟨sorted, hperm, hsorted, rfl⟩, rfl⟩
    exact ⟨sorted, hperm, hsorted, by rw [List.take_take, Nat.min_eq_left hle]⟩

/-- **Documents in the reverse order**: the results are the last ones, and there are no others. -/
theorem limited_iff_of_pairwise (h : docs.Pairwise fun a b => R b a = true ∧ R a b = false) :
    Limited R k docs results ↔ results = docs.reverse.take k := by
  induction docs using List.reverseRecOn generalizing k results with
  | nil =>
    constructor
    · rintro ⟨sorted, hperm, -, rfl⟩
      rw [hperm.eq_nil, List.reverse_nil]
    · rintro rfl
      exact ⟨[], .nil, .nil, rfl⟩
  | append_singleton docs a ih =>
    rw [List.pairwise_append] at h
    cases k with
    | zero =>
      constructor
      · rintro ⟨sorted, -, -, rfl⟩
        rw [List.take_zero, List.take_zero]
      · rintro rfl
        have hdocs : Limited R 0 docs [] := (ih h.1).2 (List.take_zero).symm
        obtain ⟨sorted, hperm, hsorted, -⟩ := hdocs
        refine ⟨a :: sorted, (hperm.cons a).trans (List.perm_append_singleton a docs).symm, ?_, rfl⟩
        refine List.pairwise_cons.2 ⟨fun b hb => ?_, hsorted⟩
        exact (h.2.2 b (hperm.subset hb) a (List.mem_singleton_self a)).1
    | succ k =>
      have ha : ∀ b ∈ docs, R a b = true ∧ R b a = false :=
        fun b hb => h.2.2 b hb a (List.mem_singleton_self a)
      rw [limited_concat_iff ha, List.reverse_append, List.reverse_singleton,
        List.singleton_append, List.take_succ_cons]
      constructor
      · rintro ⟨others, hothers, rfl⟩
        rw [(ih h.1).1 hothers]
      · rintro rfl
        exact ⟨_, (ih h.1).2 rfl, rfl⟩

/-- **Documents past the limit.** As many other documents as the limit satisfy `p` and are ranked
no later than `b`, which is past it, exactly when there are at least as many of them past the limit
as there are results without `p`.

**Proof sketch.** All results are ranked no later than `b`. So those with `p` count, and those
without it have to be made up for past the limit. -/
theorem Limited.le_countP_iff [DecidableEq α] (h : Limited R k docs results) (hnodup : docs.Nodup)
    (hb : b ∈ docs) (hnot : b ∉ results) (p : α → Bool) :
    k ≤ docs.countP (fun a => p a && (R a b && a ≠ b)) ↔
      results.countP (fun a => !p a) ≤
        docs.countP fun a => a ∉ results && (p a && (R a b && a ≠ b)) := by
  obtain ⟨rest, hperm, hrank, hlength, hrest⟩ := h.exists_mem_rest hb hnot
  have hdisjoint := (List.nodup_append.1 (hperm.nodup_iff.2 hnodup)).2.2
  have hresults : results.countP (fun a => p a && (R a b && a ≠ b)) = results.countP p := by
    refine List.countP_congr fun a ha => ?_
    have hne : a ≠ b := fun heq => hnot (heq ▸ ha)
    simp [hrank a ha b hrest, hne]
  have hinside : results.countP (fun a => a ∉ results && (p a && (R a b && a ≠ b))) = 0 := by
    rw [List.countP_eq_zero]
    intro a ha
    simp [ha]
  have houtside : rest.countP (fun a => a ∉ results && (p a && (R a b && a ≠ b))) =
      rest.countP fun a => p a && (R a b && a ≠ b) := by
    refine List.countP_congr fun a ha => ?_
    have hmem : a ∉ results := fun hmem => hdisjoint a hmem a ha rfl
    simp [hmem]
  have hsplit := List.length_eq_countP_add_countP p (l := results)
  have hneg : results.countP (fun a => decide ¬p a = true) = results.countP fun a => !p a := by
    refine List.countP_congr fun a _ => ?_
    simp
  rw [← hperm.countP_eq, ← hperm.countP_eq, List.countP_append, List.countP_append, hresults,
    hinside, houtside]
  omega

end Documents
