import Mathlib.Data.List.Nodup
import WatchTower.Documents.Collection

set_option relaxedAutoImplicit false
set_option autoImplicit false

/-!
# Unique keys

A collection in which no two documents have the same key. Where nothing but the code that writes
keeps it so, every write has to look for the key first.

## Main definitions

* `Documents.UniqueKey` — no two documents have the same key.

## Main results

* `Documents.uniqueKey_concat` — an insert keeps a key unique exactly when it is a new one.
* `Documents.uniqueKey_updateFirst_iff` — an update of one document keeps a key unique exactly when
  no other document has the new one.
* `Documents.mem_updateFirst_iff` — what is in a collection after an update of one document.
-/

namespace Documents

variable {α κ : Type*} {p : α → Bool} {f : α → α} {key : α → κ} {l : List α}

/-- No two documents have the same key. -/
def UniqueKey (key : α → κ) (l : List α) : Prop := (l.map key).Nodup

lemma uniqueKey_nil : UniqueKey key ([] : List α) := List.nodup_nil

lemma uniqueKey_cons {a : α} :
    UniqueKey key (a :: l) ↔ (∀ b ∈ l, key b ≠ key a) ∧ UniqueKey key l := by
  rw [UniqueKey, List.map_cons, List.nodup_cons, List.mem_map]
  simp only [not_exists, not_and]
  rfl

/-- **An insert** keeps a key unique exactly when it is a new one. -/
theorem uniqueKey_concat {a : α} :
    UniqueKey key (l ++ [a]) ↔ UniqueKey key l ∧ ∀ b ∈ l, key b ≠ key a := by
  rw [UniqueKey, List.map_append, List.nodup_append]
  simp [UniqueKey]

/-- A document among others. -/
lemma uniqueKey_middle {pre post : List α} {a : α} :
    UniqueKey key (pre ++ a :: post) ↔
      (∀ b ∈ pre ++ post, key b ≠ key a) ∧ UniqueKey key (pre ++ post) := by
  have hperm : ((pre ++ a :: post).map key).Perm ((a :: (pre ++ post)).map key) :=
    List.perm_middle.map key
  rw [UniqueKey, hperm.nodup_iff]
  exact uniqueKey_cons

/-- A filter that fixes a unique key matches at most one document. -/
lemma countP_le_one_of_uniqueKey (h : UniqueKey key l) {k : κ}
    (hp : ∀ a, p a = true → key a = k) : l.countP p ≤ 1 := by
  induction l with
  | nil => exact Nat.zero_le 1
  | cons a l ih =>
    rw [uniqueKey_cons] at h
    by_cases ha : p a = true
    · have hnone : l.countP p = 0 := List.countP_eq_zero.2 fun b hb hpb =>
        h.1 b hb ((hp b hpb).trans (hp a ha).symm)
      exact Nat.le_of_eq (by rw [List.countP_cons_of_pos ha, hnone])
    · rw [List.countP_cons_of_neg ha]
      exact ih h.2

/-- An update that keeps the key keeps it unique. -/
lemma uniqueKey_updateFirst_of_eq (hf : ∀ a, p a = true → key (f a) = key a) :
    UniqueKey key (updateFirst p f l) ↔ UniqueKey key l := by
  have hkeys : (updateFirst p f l).map key = l.map key := by
    induction l with
    | nil => rfl
    | cons a l ih =>
      by_cases ha : p a = true
      · simp only [updateFirst, if_pos ha, List.map_cons, hf a ha]
      · simp only [updateFirst, if_neg ha, List.map_cons, ih]
  rw [UniqueKey, hkeys, UniqueKey]

/-- The document that is updated, among the others. -/
lemma updateFirst_middle {pre post : List α} {a : α} (hpre : ∀ b ∈ pre, p b = false)
    (ha : p a = true) : updateFirst p f (pre ++ a :: post) = pre ++ f a :: post := by
  induction pre with
  | nil => rw [List.nil_append, updateFirst, if_pos ha, List.nil_append]
  | cons b pre ih =>
    have hb : ¬p b = true := Bool.eq_false_iff.1 (hpre b List.mem_cons_self)
    rw [List.cons_append, updateFirst, if_neg hb, ih fun c hc => hpre c (List.mem_cons_of_mem _ hc),
      List.cons_append]

/-- The one document that matches, among the others. -/
lemma exists_middle_of_countP_le_one (hone : l.countP p ≤ 1) {a : α} (hmem : a ∈ l)
    (ha : p a = true) :
    ∃ pre post, l = pre ++ a :: post ∧ ∀ b ∈ pre ++ post, p b = false := by
  obtain ⟨pre, post, rfl⟩ := List.append_of_mem hmem
  refine ⟨pre, post, rfl, fun b hb => Bool.eq_false_iff.2 fun hpb => ?_⟩
  have hpos : 0 < (pre ++ post).countP p := List.countP_pos_iff.2 ⟨b, hb, hpb⟩
  rw [List.countP_append] at hpos
  rw [List.countP_append, List.countP_cons_of_pos ha] at hone
  omega

/-- **What is in a collection** after an update of the one document that matches. -/
theorem mem_updateFirst_iff (hone : l.countP p ≤ 1) {a b : α} (hmem : a ∈ l) (ha : p a = true) :
    b ∈ updateFirst p f l ↔ b = f a ∨ b ∈ l ∧ p b = false := by
  obtain ⟨pre, post, rfl, hothers⟩ := exists_middle_of_countP_le_one hone hmem ha
  rw [updateFirst_middle (fun c hc => hothers c (List.mem_append_left _ hc)) ha,
    List.perm_middle.mem_iff, List.perm_middle.mem_iff, List.mem_cons, List.mem_cons]
  refine or_congr_right ⟨fun hb => ⟨.inr hb, hothers b hb⟩, ?_⟩
  rintro ⟨rfl | hb, hpb⟩
  · rw [ha] at hpb
    cases hpb
  · exact hb

/-- **An update** of the one document that matches keeps a key unique exactly when no other document
has the new one. -/
theorem uniqueKey_updateFirst_iff (h : UniqueKey key l) (hone : l.countP p ≤ 1) {a : α}
    (hmem : a ∈ l) (ha : p a = true) :
    UniqueKey key (updateFirst p f l) ↔ ∀ b ∈ l, p b = false → key b ≠ key (f a) := by
  obtain ⟨pre, post, rfl, hothers⟩ := exists_middle_of_countP_le_one hone hmem ha
  rw [updateFirst_middle (fun c hc => hothers c (List.mem_append_left _ hc)) ha, uniqueKey_middle,
    and_iff_left (uniqueKey_middle.1 h).2]
  constructor
  · intro hnew b hb hpb
    rw [List.perm_middle.mem_iff, List.mem_cons] at hb
    rcases hb with rfl | hb
    · rw [ha] at hpb
      cases hpb
    · exact hnew b hb
  · intro hnew b hb
    exact hnew b (List.perm_middle.mem_iff.2 (List.mem_cons_of_mem _ hb)) (hothers b hb)

end Documents
