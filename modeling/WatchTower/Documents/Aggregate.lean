import Mathlib.Algebra.GroupWithZero.Nat
import Mathlib.Algebra.Order.BigOperators.Group.List
import Mathlib.Algebra.Order.Ring.Rat
import Mathlib.Data.List.Count

set_option relaxedAutoImplicit false
set_option autoImplicit false

/-!
# Aggregation pipelines

The stages and accumulators of an aggregation over a collection: `$match` keeps the documents of a
filter, `$group` with no key makes one document of all of them, and nothing of none. A field of a
document may be missing or `null`, which `$avg` and `$max` ignore.

## Main definitions

* `Documents.groupAll` — `{ $group: { _id: null, … } }`.
* `Documents.sumOf`, `Documents.avgOf`, `Documents.maxOf` — the accumulators.
* `Documents.mean` — the mean of a list of numbers, and none of no numbers.

## Main results

* `Documents.filter_filter_of_imp` — a wider `$match` before a narrower one has no effect.
* `Documents.sumOf_ite` — a sum of ones and zeros is a count.
* `Documents.avgOf_ite` — an average over the documents of a kind.
* `Documents.countP_filter_le` — a narrower `$match` leaves no more documents of a kind.
-/

namespace Documents

variable {α β : Type*}

/-- `{ $group: { _id: null, … } }`: one document, unless there is nothing to group. -/
def groupAll (accumulate : List α → β) (docs : List α) : List β :=
  if docs = [] then [] else [accumulate docs]

/-- The mean of a list of numbers. -/
def mean (l : List ℚ) : Option ℚ := if l = [] then none else some (l.sum / l.length)

/-- `{ $sum: … }`. -/
def sumOf (f : α → ℕ) (docs : List α) : ℕ := (docs.map f).sum

/-- `{ $avg: … }`, of the documents for which there is a number. -/
def avgOf (f : α → Option ℚ) (docs : List α) : Option ℚ := mean (docs.filterMap f)

/-- `{ $max: … }`, of the documents for which there is a value. -/
def maxOf [Max β] (f : α → Option β) (docs : List α) : Option β := (docs.filterMap f).max?

/-- The first document of a group stage. -/
lemma head?_groupAll (accumulate : List α → β) (docs : List α) :
    (groupAll accumulate docs).head? = if docs = [] then none else some (accumulate docs) := by
  unfold groupAll
  split_ifs with h
  · rfl
  · rfl

/-- A wider `$match` before a narrower one has no effect. -/
lemma filter_filter_of_imp {p q : α → Bool} (h : ∀ a, q a = true → p a = true) (r : α → Bool)
    (docs : List α) :
    (docs.filter fun a => r a && p a).filter q = docs.filter fun a => r a && q a := by
  rw [List.filter_filter]
  refine List.filter_congr fun a _ => ?_
  cases hq : q a with
  | false => simp
  | true => simp [h a hq]

/-- A sum of ones is the number of documents. -/
@[simp] lemma sumOf_one (docs : List α) : sumOf (fun _ => 1) docs = docs.length := by
  simp [sumOf]

/-- A sum of ones and zeros counts. -/
lemma sumOf_ite (p : α → Bool) (docs : List α) :
    sumOf (fun a => if p a then 1 else 0) docs = docs.countP p := by
  induction docs with
  | nil => rfl
  | cons a docs ih =>
    rw [sumOf, List.map_cons, List.sum_cons, ← sumOf, ih, List.countP_cons, Nat.add_comm]

/-- An average over the documents of a kind, the others giving `null`. -/
lemma avgOf_ite (p : α → Bool) (f : α → Option ℚ) (docs : List α) :
    avgOf (fun a => if p a then f a else none) docs = mean ((docs.filter p).filterMap f) := by
  unfold avgOf
  rw [List.filterMap_filter]

/-- A document of a narrower filter is one of a wider one. -/
lemma countP_filter_le {p q : α → Bool} (h : ∀ a, p a = true → q a = true) (r : α → Bool)
    (docs : List α) : (docs.filter p).countP r ≤ (docs.filter q).countP r := by
  rw [List.countP_filter, List.countP_filter]
  refine List.countP_mono_left fun a _ ha => ?_
  simp only [Bool.and_eq_true] at ha ⊢
  exact ⟨ha.1, h a ha.2⟩

end Documents
