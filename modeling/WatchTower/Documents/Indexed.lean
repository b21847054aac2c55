import Mathlib.Data.List.Pairwise
import Mathlib.Tactic.Common

set_option relaxedAutoImplicit false
set_option autoImplicit false

/-!
# Collections with unique indexes

A collection no two documents of which clash: they differ in the key, and in every field with a
unique index. An insertion and a replacement of the document with a given key are refused when
the result would clash. The absence of clashes is a field of the collection, so the writes carry
its proof along.

## Main definitions

* `Documents.Indexes` — the key of a document, and which documents clash.
* `Documents.Indexed` — a collection without clashes.
* `Documents.Indexed.insert`, `Documents.Indexed.replace`, `Documents.Indexed.remove` — its
  writes.
* `Documents.Indexed.Evolves` — what became of the documents, and where they come from.

## Main results

* `Documents.Indexed.eq_of_key_eq` — a document is determined by its key.
* `Documents.Indexed.mem_insert`, `Documents.Indexed.mem_replace` — what a write leaves in the
  collection.
* `Documents.Indexed.exists_replace` — a replacement that clashes with no other document is
  carried out.
* `Documents.Indexed.evolves_insert`, `Documents.Indexed.evolves_replace` — the writes are
  evolutions.
-/

namespace Documents

variable {α κ : Type*}

/-- The unique indexes of a collection of documents `α` with keys `κ`. -/
structure Indexes (α κ : Type*) where
  /-- The key of a document. -/
  key : α → κ
  /-- Whether two documents have a value of some unique index in common. -/
  clash : α → α → Bool
  /-- Clashing is symmetric. -/
  clash_comm : ∀ a b, clash a b = clash b a
  /-- The key is a unique index. -/
  clash_of_key : ∀ {a b}, key a = key b → clash a b = true

/-- A collection of documents, no two of which clash. -/
structure Indexed (I : Indexes α κ) where
  /-- The documents, in insertion order. -/
  docs : List α
  /-- No two of them clash. -/
  unique : docs.Pairwise fun a b => I.clash a b = false

namespace Indexed

variable {I : Indexes α κ} {s t : Indexed I} {a b : α}

instance : Membership α (Indexed I) := ⟨fun s a => a ∈ s.docs⟩

/-- Membership is membership in the list of documents. -/
lemma mem_def : a ∈ s ↔ a ∈ s.docs := Iff.rfl

/-- The empty collection. -/
def empty (I : Indexes α κ) : Indexed I := ⟨[], .nil⟩

@[simp] lemma not_mem_empty : a ∉ empty I := List.not_mem_nil

/-- Two different documents do not clash. -/
lemma clash_eq_false (ha : a ∈ s) (hb : b ∈ s) (hne : a ≠ b) : I.clash a b = false := by
  have : Std.Symm fun a b => I.clash a b = false := ⟨fun a b hab => (I.clash_comm b a).trans hab⟩
  exact s.unique.forall ha hb hne

/-- **A document is determined by its key.** -/
theorem eq_of_key_eq (ha : a ∈ s) (hb : b ∈ s) (h : I.key a = I.key b) : a = b := by
  by_contra hne
  have hclash := clash_eq_false ha hb hne
  rw [I.clash_of_key h] at hclash
  cases hclash

/-! ## Insertion -/

/-- Insert a document, unless it clashes with one that is there. -/
def insert (s : Indexed I) (a : α) : Option (Indexed I) :=
  if h : ∀ b ∈ s.docs, I.clash b a = false then
    some ⟨s.docs ++ [a], List.pairwise_append.2 ⟨s.unique, List.pairwise_singleton _ _, by
      simpa using h⟩⟩
  else none

/-- An insertion adds the document at the end. -/
lemma docs_insert (h : s.insert a = some t) : t.docs = s.docs ++ [a] := by
  unfold insert at h
  split_ifs at h with hclash
  rw [← Option.some.inj h]

/-- An insertion that is refused clashes with a document. -/
lemma exists_clash_of_insert (h : s.insert a = none) : ∃ b ∈ s, I.clash b a = true := by
  unfold insert at h
  split_ifs at h with hclash
  push Not at hclash
  obtain ⟨b, hb, hba⟩ := hclash
  exact ⟨b, hb, by simpa using hba⟩

/-- An insertion adds the document. -/
theorem mem_insert (h : s.insert a = some t) : b ∈ t ↔ b ∈ s ∨ b = a := by
  unfold insert at h
  split_ifs at h with hclash
  obtain rfl := Option.some.inj h
  simp [mem_def]

/-- The key of an inserted document is new. -/
lemma key_ne_of_insert (h : s.insert a = some t) (hb : b ∈ s) : I.key b ≠ I.key a := by
  unfold insert at h
  split_ifs at h with hclash
  intro hkey
  have hfalse := hclash b hb
  rw [I.clash_of_key hkey] at hfalse
  cases hfalse

/-! ## Replacement -/

section Replace

variable [DecidableEq κ]

/-- Replace the document with the key of `b`, unless `b` clashes with another one. -/
def replace (s : Indexed I) (b : α) : Option (Indexed I) :=
  if h : ∀ a ∈ s.docs, I.key a ≠ I.key b → I.clash a b = false then
    some ⟨s.docs.map fun a => if I.key a = I.key b then b else a, by
      rw [List.pairwise_map]
      refine s.unique.imp_of_mem fun {x y} hx hy hxy => ?_
      -- Two different documents do not both have the key of `b`.
      have hne : I.key x ≠ I.key y := fun hkey => by
        rw [I.clash_of_key hkey] at hxy
        cases hxy
      by_cases hxb : I.key x = I.key b
      · have hyb : I.key y ≠ I.key b := fun hyb => hne (hxb.trans hyb.symm)
        rw [if_pos hxb, if_neg hyb, I.clash_comm]
        exact h y hy hyb
      · rw [if_neg hxb]
        split_ifs with hyb
        · exact h x hx hxb
        · exact hxy⟩
  else none

/-- A replacement exchanges the document with that key and keeps the others. -/
theorem mem_replace (h : s.replace b = some t) {x : α} :
    x ∈ t ↔ (x ∈ s ∧ I.key x ≠ I.key b) ∨ (x = b ∧ ∃ a ∈ s, I.key a = I.key b) := by
  unfold replace at h
  split_ifs at h with hclash
  obtain rfl := Option.some.inj h
  simp only [mem_def, List.mem_map]
  constructor
  · rintro ⟨a, ha, rfl⟩
    by_cases hkey : I.key a = I.key b
    · exact .inr ⟨if_pos hkey, a, ha, hkey⟩
    · rw [if_neg hkey]
      exact .inl ⟨ha, hkey⟩
  · rintro (⟨hx, hkey⟩ | ⟨rfl, a, ha, hkey⟩)
    · exact ⟨x, hx, if_neg hkey⟩
    · exact ⟨a, ha, if_pos hkey⟩

/-- A replacement that clashes with no other document is carried out. -/
theorem exists_replace (h : ∀ a ∈ s, I.key a ≠ I.key b → I.clash a b = false) :
    ∃ t, s.replace b = some t :=
  ⟨_, dif_pos h⟩

end Replace

/-! ## Removal -/

/-- Remove the documents that match. -/
def remove (s : Indexed I) (p : α → Bool) : Indexed I :=
  ⟨s.docs.filter (!p ·), s.unique.filter _⟩

/-- A removal keeps the other documents. -/
lemma mem_remove {p : α → Bool} : a ∈ s.remove p ↔ a ∈ s ∧ p a = false := by
  simp [mem_def, remove]

/-! ## Evolution -/

/-- The collection `t` comes from `s`: every document of `s` has become one of `t`, related to it
by `R`, and every document of `t` comes from one of `s` in this way, or is new, with the
property `N`. -/
structure Evolves (R : α → α → Prop) (N : α → Prop) (s t : Indexed I) : Prop where
  /-- What became of a document. -/
  kept : ∀ a ∈ s, ∃ b ∈ t, R a b
  /-- Where a document comes from. -/
  origin : ∀ b ∈ t, (∃ a ∈ s, R a b) ∨ N b

variable {R R' : α → α → Prop} {N : α → Prop}

/-- A collection evolves into itself. -/
lemma Evolves.refl (hR : ∀ a, R a a) (s : Indexed I) : Evolves R N s s :=
  ⟨fun a ha => ⟨a, ha, hR a⟩, fun a ha => .inl ⟨a, ha, hR a⟩⟩

/-- An evolution is one for every weaker relation. -/
lemma Evolves.mono (h : Evolves R N s t) (hR : ∀ a b, R a b → R' a b) : Evolves R' N s t where
  kept a ha := by
    obtain ⟨b, hb, hab⟩ := h.kept a ha
    exact ⟨b, hb, hR a b hab⟩
  origin b hb := by
    rcases h.origin b hb with ⟨a, ha, hab⟩ | hN
    · exact .inl ⟨a, ha, hR a b hab⟩
    · exact .inr hN

/-- Evolutions compose, if what becomes of a new document counts as new. -/
lemma Evolves.trans {u : Indexed I} (h₁ : Evolves R N s t) (h₂ : Evolves R N t u)
    (hR : ∀ a b c, R a b → R b c → R a c) (hN : ∀ a b, N a → R a b → N b) :
    Evolves R N s u where
  kept a ha := by
    obtain ⟨b, hb, hab⟩ := h₁.kept a ha
    obtain ⟨c, hc, hbc⟩ := h₂.kept b hb
    exact ⟨c, hc, hR a b c hab hbc⟩
  origin c hc := by
    rcases h₂.origin c hc with ⟨b, hb, hbc⟩ | hnew
    · rcases h₁.origin b hb with ⟨a, ha, hab⟩ | hnew
      · exact .inl ⟨a, ha, hR a b c hab hbc⟩
      · exact .inr (hN b c hnew hbc)
    · exact .inr hnew

/-- **An insertion is an evolution.** -/
theorem evolves_insert (hR : ∀ a, R a a) (h : s.insert a = some t) (ha : N a) :
    Evolves R N s t where
  kept b hb := ⟨b, (mem_insert h).2 (.inl hb), hR b⟩
  origin b hb := by
    rcases (mem_insert h).1 hb with hb | rfl
    · exact .inl ⟨b, hb, hR b⟩
    · exact .inr ha

/-- **A replacement is an evolution**, if the replaced document is related to the new one. -/
theorem evolves_replace [DecidableEq κ] (hR : ∀ a, R a a) (h : s.replace b = some t) (ha : a ∈ s)
    (hkey : I.key a = I.key b) (hab : R a b) : Evolves R N s t where
  kept x hx := by
    by_cases hxb : I.key x = I.key b
    · obtain rfl := eq_of_key_eq hx ha (hxb.trans hkey.symm)
      exact ⟨b, (mem_replace h).2 (.inr ⟨rfl, x, hx, hkey⟩), hab⟩
    · exact ⟨x, (mem_replace h).2 (.inl ⟨hx, hxb⟩), hR x⟩
  origin x hx := by
    rcases (mem_replace h).1 hx with ⟨hx, -⟩ | ⟨rfl, -⟩
    · exact .inl ⟨x, hx, hR x⟩
    · exact .inl ⟨a, ha, hab⟩

end Indexed

end Documents
