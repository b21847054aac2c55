import Mathlib.Data.List.Count
import Mathlib.Tactic.Common

set_option relaxedAutoImplicit false
set_option autoImplicit false

/-!
# Collections of documents

A collection is a list of documents in insertion order. The operations are those of a document
store that act on the first document matching a filter, or on the document with a given key.
What is proved is how the number of documents of a kind changes.

## Main definitions

* `Documents.updateFirst` — update the first document that matches.
* `Documents.updateAll` — update every document that matches.

## Main results

* `Documents.countP_updateFirst_of_leaves` — an update after which the document no longer
  matches lowers the count by one.
* `Documents.countP_updateFirst_of_iff`, `Documents.countP_updateAll_of_iff` — an update that
  does not change whether a document is of a kind keeps the count of that kind.
* `Documents.find_isSome_iff_countP_pos` — a filter finds a document iff some document matches.
* `Documents.getElem?_findIdx_updateFirst`, `Documents.getElem?_updateAll` — what the updates leave
  at a position.
* `Documents.filter_updateFirst_of_not`, `Documents.map_filter_updateAll` — what the updates keep of
  the documents of a kind.
-/

namespace Documents

variable {α : Type*} {p q : α → Bool} {f : α → α}

/-- Update the first document satisfying `p`. -/
def updateFirst (p : α → Bool) (f : α → α) : List α → List α
  | [] => []
  | a :: l => if p a then f a :: l else a :: updateFirst p f l

/-- Update every document satisfying `p`. -/
def updateAll (p : α → Bool) (f : α → α) (l : List α) : List α :=
  l.map fun a => if p a then f a else a

/-- With no matching document, nothing is updated. -/
lemma updateFirst_of_countP_eq_zero {l : List α} (h : l.countP p = 0) :
    updateFirst p f l = l := by
  induction l with
  | nil => rfl
  | cons a l ih =>
    by_cases ha : p a = true
    · simp [ha] at h
    · simp only [updateFirst, if_neg ha, List.countP_cons_of_neg ha] at h ⊢
      rw [ih h]

/-- Only what an update makes of matching documents matters. -/
lemma updateFirst_congr {g : α → α} (h : ∀ a, p a = true → f a = g a) (l : List α) :
    updateFirst p f l = updateFirst p g l := by
  induction l with
  | nil => rfl
  | cons a l ih =>
    by_cases ha : p a = true
    · simp only [updateFirst, if_pos ha, h a ha]
    · simp only [updateFirst, if_neg ha, ih]

/-- An update that leaves matching documents alone does nothing. -/
lemma updateFirst_eq_self (h : ∀ a, p a = true → f a = a) (l : List α) :
    updateFirst p f l = l := by
  induction l with
  | nil => rfl
  | cons a l ih =>
    by_cases ha : p a = true
    · simp only [updateFirst, if_pos ha, h a ha]
    · simp only [updateFirst, if_neg ha, ih]

/-- An update after which the document no longer matches lowers the count by one. -/
lemma countP_updateFirst_of_leaves (hf : ∀ a, p a = true → p (f a) = false) (l : List α) :
    (updateFirst p f l).countP p = l.countP p - 1 := by
  induction l with
  | nil => rfl
  | cons a l ih =>
    by_cases ha : p a = true
    · simp [updateFirst, ha, hf a ha]
    · simp only [updateFirst, if_neg ha, List.countP_cons_of_neg ha, ih]

/-- An update adds and removes nothing. -/
lemma length_updateFirst (l : List α) : (updateFirst p f l).length = l.length := by
  induction l with
  | nil => rfl
  | cons a l ih =>
    by_cases ha : p a = true
    · simp [updateFirst, ha]
    · simp [updateFirst, ha, ih]

/-- An update that makes the first match satisfy `q`, which no match does, counts one more. -/
lemma countP_updateFirst_of_enters (hq : ∀ a, p a = true → q a = false)
    (hf : ∀ a, p a = true → q (f a) = true) {l : List α} (h : (l.find? p).isSome) :
    (updateFirst p f l).countP q = l.countP q + 1 := by
  induction l with
  | nil => cases h
  | cons a l ih =>
    by_cases ha : p a = true
    · simp [updateFirst, ha, hq a ha, hf a ha]
    · rw [List.find?_cons_of_neg ha] at h
      simp only [updateFirst, if_neg ha, List.countP_cons, ih h]
      omega

/-- An update that does not change whether a document is of the kind `q` keeps the number of
documents of that kind. -/
lemma countP_updateFirst_of_iff (hf : ∀ a, p a = true → q (f a) = q a) (l : List α) :
    (updateFirst p f l).countP q = l.countP q := by
  induction l with
  | nil => rfl
  | cons a l ih =>
    by_cases ha : p a = true
    · simp only [updateFirst, if_pos ha, List.countP_cons, hf a ha]
    · simp only [updateFirst, if_neg ha, List.countP_cons, ih]

/-- The same for an update of every matching document. -/
lemma countP_updateAll_of_iff (hf : ∀ a, p a = true → q (f a) = q a) (l : List α) :
    (updateAll p f l).countP q = l.countP q := by
  induction l with
  | nil => rfl
  | cons a l ih =>
    simp only [updateAll, List.map_cons, List.countP_cons] at ih ⊢
    by_cases ha : p a = true
    · rw [if_pos ha, hf a ha, ih]
    · rw [if_neg ha, ih]

/-- The first document that matches is updated where it is. -/
lemma getElem?_findIdx_updateFirst (l : List α) :
    (updateFirst p f l)[l.findIdx p]? = (l.find? p).map f := by
  induction l with
  | nil => rfl
  | cons a l ih =>
    by_cases ha : p a = true
    · simp [updateFirst, List.findIdx_cons, ha]
    · simp [updateFirst, List.findIdx_cons, ha, ih]

/-- If it still matches, it is found again. -/
lemma find?_updateFirst (hf : ∀ a, p a = true → p (f a) = true) (l : List α) :
    (updateFirst p f l).find? p = (l.find? p).map f := by
  induction l with
  | nil => rfl
  | cons a l ih =>
    by_cases ha : p a = true
    · simp [updateFirst, ha, hf a ha]
    · simp [updateFirst, ha, ih]

/-- Every document that matches is updated where it is. -/
lemma getElem?_updateAll (l : List α) (k : ℕ) :
    (updateAll p f l)[k]? = l[k]?.map fun a => if p a then f a else a := by
  simp [updateAll]

/-- An update of documents of another kind keeps those of the kind `q`. -/
lemma filter_updateFirst_of_not (hq : ∀ a, p a = true → q a = false)
    (hf : ∀ a, p a = true → q (f a) = false) (l : List α) :
    (updateFirst p f l).filter q = l.filter q := by
  induction l with
  | nil => rfl
  | cons a l ih =>
    by_cases ha : p a = true
    · simp [updateFirst, ha, hq a ha, hf a ha]
    · simp only [updateFirst, if_neg ha, List.filter_cons, ih]

/-- An update that keeps the kind of a document, and what `g` reads of it, keeps what `g` reads of
the documents of a kind. -/
lemma map_filter_updateAll {β : Type*} {g : α → β} (hq : ∀ a, p a = true → q (f a) = q a)
    (hg : ∀ a, p a = true → g (f a) = g a) (l : List α) :
    ((updateAll p f l).filter q).map g = (l.filter q).map g := by
  induction l with
  | nil => rfl
  | cons a l ih =>
    simp only [updateAll, List.map_cons, List.filter_cons] at ih ⊢
    by_cases ha : p a = true
    · rw [if_pos ha, hq a ha]
      split_ifs
      · rw [List.map_cons, List.map_cons, hg a ha, ih]
      · exact ih
    · rw [if_neg ha]
      split_ifs
      · rw [List.map_cons, List.map_cons, ih]
      · exact ih

/-- A filter finds a document iff some document matches. -/
lemma find_isSome_iff_countP_pos {l : List α} : (l.find? p).isSome ↔ 0 < l.countP p := by
  simp [List.find?_isSome, List.countP_pos_iff]

/-- A filter finds nothing iff no document matches. -/
lemma find_eq_none_iff_countP {l : List α} : l.find? p = none ↔ l.countP p = 0 := by
  simp [List.find?_eq_none, List.countP_eq_zero]

end Documents
