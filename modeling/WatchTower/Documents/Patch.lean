import Mathlib.Data.List.Induction
import Mathlib.Data.Set.Disjoint
import Mathlib.Data.Set.Lattice
import Mathlib.Logic.Function.Basic
import Mathlib.Order.CompletePartialOrder

set_option relaxedAutoImplicit false
set_option autoImplicit false

/-!
# Partial updates of a document

A document by its fields, and the updates that set some of them. An update is an object: it is
built by assigning to keys and by spreading other objects. Updates of disjoint sets of fields
commute, and after any number of updates a field holds what the last one that set it has written.

## Main definitions

* `Documents.Record`, `Documents.Patch` — documents and updates, by field.
* `Documents.Patch.assign`, `Documents.Patch.assignSome`, `Documents.Patch.spread` — how an update
  is built.
* `Documents.Patch.apply` — the document after an update.
* `Documents.Patch.Within` — an update sets fields of a set only.
* `Documents.Patch.last` — what a list of updates last sets a field to.

## Main results

* `Documents.Patch.apply_comm` — updates of disjoint sets of fields commute.
* `Documents.Patch.foldl_apply` — the last writer of a field wins.
* `Documents.Patch.last_filter` — writers of other fields do not matter.
-/

namespace Documents

variable {F V ι : Type*}

/-- A document: the value of each field that it has. -/
abbrev Record (F V : Type*) : Type _ := F → Option V

/-- An update: the value it sets each of its fields to. -/
abbrev Patch (F V : Type*) : Type _ := F → Option V

namespace Patch

/-- `{}`. -/
def empty : Patch F V := fun _ => none

section Assign

variable [DecidableEq F]

/-- `patch[key] = value`. -/
def assign (p : Patch F V) (key : F) (v : V) : Patch F V := Function.update p key (some v)

/-- The same, unless the value is `undefined`. -/
def assignSome (p : Patch F V) (key : F) : Option V → Patch F V
  | none => p
  | some v => p.assign key v

end Assign

/-- `{ ...p, ...q }`. -/
def spread (p q : Patch F V) : Patch F V := fun f => (q f).or (p f)

/-- The document after `{ $set: p }`. -/
def apply (p : Patch F V) (d : Record F V) : Record F V := fun f => (p f).or (d f)

/-- An update sets fields of a set only. -/
def Within (S : Set F) (p : Patch F V) : Prop := ∀ f ∉ S, p f = none

/-- What a list of updates last sets a field to. -/
def last (ps : List (Patch F V)) (f : F) : Option V := (ps.filterMap (· f)).getLast?

variable {S T : Set F} {p q : Patch F V} {d : Record F V} {f : F}

@[simp] lemma empty_apply (f : F) : (empty : Patch F V) f = none := rfl

@[simp] lemma spread_apply (p q : Patch F V) (f : F) : p.spread q f = (q f).or (p f) := rfl

section Assign

variable [DecidableEq F]

@[simp] lemma assign_apply (p : Patch F V) (key : F) (v : V) (f : F) :
    p.assign key v f = if f = key then some v else p f := by
  rw [assign, Function.update_apply]

@[simp] lemma assignSome_apply (p : Patch F V) (key : F) (v : Option V) (f : F) :
    p.assignSome key v f = if f = key then v.or (p f) else p f := by
  cases v with
  | none => simp [assignSome]
  | some v => simp [assignSome]

end Assign

lemma within_empty : Within S (empty : Patch F V) := fun _ _ => rfl

section Assign

variable [DecidableEq F]

lemma Within.assign (h : p.Within S) {key : F} (hkey : key ∈ S) (v : V) :
    (p.assign key v).Within S := by
  intro f hf
  have hne : f ≠ key := by
    rintro rfl
    exact hf hkey
  rw [Patch.assign, Function.update_of_ne hne, h f hf]

lemma Within.assignSome (h : p.Within S) {key : F} (hkey : key ∈ S) (v : Option V) :
    (p.assignSome key v).Within S := by
  cases v with
  | none => exact h
  | some v => exact h.assign hkey v

end Assign

lemma Within.spread (hp : p.Within S) (hq : q.Within S) : (p.spread q).Within S := by
  intro f hf
  rw [Patch.spread, hq f hf, hp f hf]
  rfl

/-- A field outside the set keeps its value. -/
lemma Within.apply_eq (h : p.Within S) (hf : f ∉ S) (d : Record F V) : p.apply d f = d f := by
  rw [apply, h f hf, Option.none_or]

/-- **Updates of disjoint sets of fields commute.** -/
theorem apply_comm (hp : p.Within S) (hq : q.Within T) (hdisjoint : Disjoint S T)
    (d : Record F V) : p.apply (q.apply d) = q.apply (p.apply d) := by
  funext f
  by_cases hf : f ∈ S
  · have hT : f ∉ T := Set.disjoint_left.1 hdisjoint hf
    rw [hq.apply_eq hT]
    exact congrArg (p f).or (hq.apply_eq hT d)
  · rw [hp.apply_eq hf]
    exact congrArg (q f).or (hp.apply_eq hf d).symm

lemma last_concat (ps : List (Patch F V)) (p : Patch F V) :
    last (ps ++ [p]) f = (p f).or (last ps f) := by
  rw [last, List.filterMap_append]
  cases hp : p f with
  | none => simp [hp, last]
  | some v => simp [hp]

/-- **The last writer of a field wins.** -/
theorem foldl_apply (ps : List (Patch F V)) (d : Record F V) (f : F) :
    ps.foldl (fun d p => p.apply d) d f = (last ps f).or (d f) := by
  induction ps using List.reverseRecOn with
  | nil => rfl
  | append_singleton ps p ih =>
    rw [List.foldl_append, List.foldl_cons, List.foldl_nil, apply, ih, last_concat, Option.or_assoc]

/-- **Writers of other fields do not matter.** -/
theorem last_filter {patch : ι → Patch F V} {keep : ι → Bool} {l : List ι}
    (h : ∀ a ∈ l, keep a = false → patch a f = none) :
    last (l.map patch) f = last ((l.filter keep).map patch) f := by
  induction l using List.reverseRecOn with
  | nil => rfl
  | append_singleton l a ih =>
    have hl := ih fun b hb => h b (List.mem_append_left _ hb)
    rw [List.map_append, List.map_singleton, last_concat, hl, List.filter_append]
    cases hkeep : keep a with
    | true =>
      rw [List.filter_cons_of_pos hkeep, List.filter_nil, List.map_append, List.map_singleton,
        last_concat]
    | false =>
      rw [List.filter_cons_of_neg (Bool.eq_false_iff.1 hkeep), List.filter_nil, List.append_nil,
        h a (by simp) hkeep, Option.none_or]

end Patch

end Documents
