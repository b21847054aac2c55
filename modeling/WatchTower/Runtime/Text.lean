import Mathlib.Data.List.Chain
import Mathlib.Data.List.DropRight
import Mathlib.Data.List.Infix
import WatchTower.Runtime.Js

set_option relaxedAutoImplicit false
set_option autoImplicit false

/-!
# Strings of the JavaScript runtime

The string functions that the backend builds addresses with, on lists of code points. Unicode
normalisation and case folding need the Unicode tables, so they are parameters; on ASCII they are
what Unicode guarantees.

## Main definitions

* `WatchTower.TextRuntime` — `String(…)`, `normalize('NFKD')` and `toLowerCase`.
* `WatchTower.trim`, `WatchTower.collapse`, `WatchTower.strip`, `WatchTower.includes` — `trim`,
  and the regular expressions `/[^…]+/g`, `/^-+|-+$/g` and substring tests of the source.
* `WatchTower.Separated` — no two separators in a row, and none at the start.

## Main results

* `WatchTower.separated_strip_collapse` — collapsing and stripping leaves a separated text.
* `WatchTower.collapse_of_separated`, `WatchTower.strip_of_separated` — what they do to a
  separated text: nothing, except for a separator at its end.
* `WatchTower.includes_append_cons` — a word without a character does not straddle it.
-/

namespace WatchTower

/-- A string, as its code points. -/
abbrev Text := List Char

/-- Whether a text is ASCII. -/
def IsAscii (s : Text) : Prop := ∀ c ∈ s, c.toNat < 128

/-- The runtime's string functions that are not defined here. -/
structure TextRuntime where
  /-- `String(value)` of a number, a boolean or an object, if it has a string form: an object whose
  `toString` is not a function has none. -/
  ofOther : Js → Option Text
  /-- `text.normalize('NFKD')`. -/
  normalize : Text → Text
  /-- `text.toLowerCase()`. -/
  toLowerCase : Text → Text
  /-- ASCII text is unaffected by normalisation. -/
  normalize_ascii : ∀ s, IsAscii s → normalize s = s
  /-- Lower case in ASCII text concerns the letters `A` to `Z`. -/
  toLowerCase_ascii : ∀ s, IsAscii s → toLowerCase s = s.map Char.toLower

/-- The error of `String(value)` for a value without a string form. -/
def noStringForm : JsError := ⟨"Cannot convert object to primitive value", none⟩

/-- `String(value)`. -/
def TextRuntime.string (rt : TextRuntime) : Js → Except JsError Text
  | .undefined => .ok "undefined".toList
  | .null => .ok "null".toList
  | .str s => .ok s.toList
  | v =>
    match rt.ofOther v with
    | some text => .ok text
    | none => .error noStringForm

/-- A string is its own string form. -/
@[simp] lemma TextRuntime.string_str (rt : TextRuntime) (s : String) :
    rt.string (.str s) = .ok s.toList := rfl

/-- A runtime that treats every text as ASCII, and in which no object has a string form. -/
def TextRuntime.ascii : TextRuntime where
  ofOther _ := none
  normalize s := s
  toLowerCase s := s.map Char.toLower
  normalize_ascii _ _ := rfl
  toLowerCase_ascii _ _ := rfl

/-- The characters that `trim` removes: white space and line terminators. -/
def isWhiteSpace (c : Char) : Bool :=
  (0x9 ≤ c.toNat && c.toNat ≤ 0xD) || c.toNat = 0x20 || c.toNat = 0xA0 || c.toNat = 0x1680 ||
    (0x2000 ≤ c.toNat && c.toNat ≤ 0x200A) || c.toNat = 0x2028 || c.toNat = 0x2029 ||
    c.toNat = 0x202F || c.toNat = 0x205F || c.toNat = 0x3000 || c.toNat = 0xFEFF

/-- `text.trim()`. -/
def trim (s : Text) : Text := (s.dropWhile isWhiteSpace).rdropWhile isWhiteSpace

/-- Replace every run of characters that are not to be kept by one separator. The flag says that
the text begins inside such a run, whose separator has been written. -/
def collapse (keep : Char → Bool) (sep : Char) : Bool → Text → Text
  | _, [] => []
  | inRun, c :: s =>
    if keep c then c :: collapse keep sep false s
    else if inRun then collapse keep sep true s
    else sep :: collapse keep sep true s

/-- Remove a character from both ends. -/
def strip (sep : Char) (s : Text) : Text := (s.dropWhile (· = sep)).rdropWhile (· = sep)

/-- `text.includes(word)`. -/
def includes (s word : Text) : Bool := word <:+: s

/-! ## Separated texts -/

/-- Kept characters with single separators among them, and none at the start. -/
structure Separated (keep : Char → Bool) (sep : Char) (s : Text) : Prop where
  chars : ∀ c ∈ s, keep c = true ∨ c = sep
  single : s.IsChain fun a b => ¬(a = sep ∧ b = sep)
  start : s.head? ≠ some sep

variable {keep : Char → Bool} {sep : Char} {s t : Text}

/-- A prefix of a separated text is separated. -/
lemma Separated.of_isPrefix (h : Separated keep sep s) (hts : t <+: s) : Separated keep sep t where
  chars c hc := h.chars c (hts.subset hc)
  single := h.single.prefix hts
  start := by
    intro hstart
    obtain ⟨u, rfl⟩ := hts
    cases t with
    | nil => cases hstart
    | cons c t => exact h.start hstart

/-- The characters of a collapsed text. -/
lemma mem_collapse {inRun : Bool} {c : Char} (hc : c ∈ collapse keep sep inRun s) :
    keep c = true ∨ c = sep := by
  induction s generalizing inRun with
  | nil => cases hc
  | cons d s ih =>
    rw [collapse] at hc
    split_ifs at hc with hd hrun
    · rcases List.mem_cons.1 hc with rfl | hc
      · exact .inl hd
      · exact ih hc
    · exact ih hc
    · rcases List.mem_cons.1 hc with rfl | hc
      · exact .inr rfl
      · exact ih hc

/-- A text collapsed inside a run does not start with a separator. -/
lemma head_collapse_ne (hsep : keep sep = false) :
    (collapse keep sep true s).head? ≠ some sep := by
  induction s with
  | nil => simp [collapse]
  | cons c s ih =>
    rw [collapse, if_pos rfl]
    split_ifs with hc
    · have hne : c ≠ sep := by
        rintro rfl
        rw [hsep] at hc
        cases hc
      simpa using hne
    · exact ih

/-- A collapsed text has no two separators in a row. -/
lemma isChain_collapse (hsep : keep sep = false) (inRun : Bool) :
    (collapse keep sep inRun s).IsChain fun a b => ¬(a = sep ∧ b = sep) := by
  induction s generalizing inRun with
  | nil => exact .nil
  | cons c s ih =>
    rw [collapse]
    split_ifs with hc hrun
    · have hne : c ≠ sep := by
        rintro rfl
        rw [hsep] at hc
        cases hc
      exact (ih false).cons fun y _ hy => hne hy.1
    · exact ih true
    · refine (ih true).cons fun y hy hyy => ?_
      rw [hyy.2] at hy
      exact head_collapse_ne hsep hy

/-- A text without its leading separators does not start with one. -/
lemma head_dropWhile_ne : (s.dropWhile (· = sep)).head? ≠ some sep := by
  induction s with
  | nil => simp
  | cons c s ih =>
    rw [List.dropWhile_cons]
    split_ifs with hc
    · exact ih
    · simpa using hc

/-- **Collapsing and stripping leaves a separated text.** -/
theorem separated_strip_collapse (hsep : keep sep = false) :
    Separated keep sep (strip sep (collapse keep sep false s)) := by
  have hdrop : Separated keep sep ((collapse keep sep false s).dropWhile (· = sep)) :=
    { chars := fun c hc => mem_collapse ((List.dropWhile_suffix _).subset hc)
      single := (isChain_collapse hsep false).suffix (List.dropWhile_suffix _)
      start := head_dropWhile_ne }
  exact hdrop.of_isPrefix (List.rdropWhile_prefix _ _)

/-- A separated text is collapsed already. -/
lemma collapse_of_separated (hsep : keep sep = false) (h : Separated keep sep s) :
    collapse keep sep false s = s := by
  -- Inside a run, the text must not go on with a separator.
  have hgen : ∀ s : Text, (∀ c ∈ s, keep c = true ∨ c = sep) →
      (s.IsChain fun a b => ¬(a = sep ∧ b = sep)) → ∀ inRun : Bool,
      (inRun = true → s.head? ≠ some sep) → collapse keep sep inRun s = s := by
    intro s
    induction s with
    | nil => intros; rfl
    | cons c s ih =>
      intro hchars hsingle inRun hstart
      have ih := ih (fun d hd => hchars d (List.mem_cons_of_mem _ hd)) hsingle.tail
      rw [collapse]
      split_ifs with hc hrun
      · rw [ih false (by simp)]
      · obtain rfl : c = sep := (hchars c List.mem_cons_self).resolve_left hc
        exact absurd rfl (hstart hrun)
      · obtain rfl : c = sep := (hchars c List.mem_cons_self).resolve_left hc
        have hnext : s.head? ≠ some c := fun hs => hsingle.rel_head? hs ⟨rfl, rfl⟩
        rw [ih true fun _ => hnext]
  exact hgen s h.chars h.single false (by simp)

/-- Stripping a separated text removes a separator at its end only. -/
lemma strip_of_separated (h : Separated keep sep s) :
    strip sep s = s.rdropWhile (· = sep) := by
  have hdrop : s.dropWhile (· = sep) = s := by
    cases s with
    | nil => rfl
    | cons c s =>
      have hne : c ≠ sep := by simpa using h.start
      simp [hne]
  rw [strip, hdrop]

/-- White space is outside the visible ASCII characters. -/
lemma toNat_of_isWhiteSpace {c : Char} (h : isWhiteSpace c = true) :
    c.toNat ≤ 32 ∨ 127 < c.toNat := by
  by_contra hc
  simp [isWhiteSpace] at h
  omega

/-- Capital letters are the characters that change in lower case. -/
lemma toLower_of_lt {c : Char} (h : c.toNat < 65 ∨ 90 < c.toNat) : c.toLower = c := by
  have hnot : ¬(c.val ≥ 'A'.val ∧ c.val ≤ 'Z'.val) := by
    rintro ⟨h₁, h₂⟩
    have h₁ : 65 ≤ c.toNat := h₁
    have h₂ : c.toNat ≤ 90 := h₂
    omega
  exact dif_neg hnot

/-- Text without white space at its ends is trimmed already. -/
lemma trim_of_forall (h : ∀ c ∈ s, isWhiteSpace c = false) : trim s = s := by
  have hdrop : s.dropWhile isWhiteSpace = s := by
    cases s with
    | nil => rfl
    | cons c s => simp [h c List.mem_cons_self]
  rw [trim, hdrop, List.rdropWhile_eq_self_iff]
  intro hs
  simp [h _ (List.getLast_mem hs)]

/-- Trimming a second time does nothing. -/
lemma trim_trim (s : Text) : trim (trim s) = trim s := by
  obtain ⟨rest, hrest⟩ : trim s <+: s.dropWhile isWhiteSpace := List.rdropWhile_prefix _ _
  have hstart : (trim s).dropWhile isWhiteSpace = trim s := by
    cases htrim : trim s with
    | nil => rfl
    | cons c t =>
      have hnot := List.head?_dropWhile_not isWhiteSpace s
      rw [← hrest, htrim] at hnot
      exact List.dropWhile_cons_of_neg (by simpa using hnot)
  calc trim (trim s) = ((trim s).dropWhile isWhiteSpace).rdropWhile isWhiteSpace := rfl
    _ = (trim s).rdropWhile isWhiteSpace := by rw [hstart]
    _ = trim s := List.rdropWhile_idempotent _ _

/-- **A word without a character does not straddle it.** -/
theorem includes_append_cons {word : Text} {c : Char} (hword : word ≠ []) (hc : c ∉ word) :
    includes (s ++ c :: t) word = true ↔ includes s word = true ∨ includes t word = true := by
  simp only [includes, decide_eq_true_eq]
  constructor
  · intro h
    rcases List.infix_append_iff.1 h with h | h | ⟨l₁, l₂, rfl, h₁, h₂⟩
    · exact .inl h
    · rcases List.infix_cons_iff.1 h with h | h
      · obtain ⟨u, hu⟩ := h
        cases word with
        | nil => exact absurd rfl hword
        | cons d word =>
          simp only [List.cons_append, List.cons.injEq] at hu
          exact absurd List.mem_cons_self (hu.1 ▸ hc)
      · exact .inr h
    · cases l₂ with
      | nil => exact .inl (by simpa using h₁.isInfix)
      | cons d l₂ =>
        obtain ⟨u, hu⟩ := h₂
        simp only [List.cons_append, List.cons.injEq] at hu
        exact absurd (List.mem_append_right _ List.mem_cons_self) (hu.1 ▸ hc)
  · rintro (h | h)
    · exact List.infix_append_of_infix_left h
    · exact List.infix_append_of_infix_right (List.infix_cons h)

end WatchTower
