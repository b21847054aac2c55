import WatchTower.Runtime.Text

set_option relaxedAutoImplicit false
set_option autoImplicit false

/-!
# Slugs

`slugify` and `isReservedSlug` of `models/statusPage.model.js`, and the path filter of
`app.middleware.js` that every request crosses. A slug is computed on write, and once more from
the address on read.

## Main definitions

* `WatchTower.slugify`, `WatchTower.isReservedSlug`, `WatchTower.blockUnwantedRequests`.
* `WatchTower.slugOf` — what `slugify` makes of a text.
* `WatchTower.IsSlug` — the form of what `slugify` produces.
* `WatchTower.Addressable` — a slug that its own address leads to.

## Main results

* `WatchTower.isSlug_slugOf` — what `slugify` produces is of that form.
* `WatchTower.slugOf_of_isSlug` — `slugify` on a slug removes a hyphen at its end, and nothing
  else.
* `WatchTower.blocked_publicUrl` — the addresses that the path filter refuses.
-/

namespace WatchTower

/-- A letter or a digit of a slug. -/
def isSlugChar (c : Char) : Bool := ('a' ≤ c && c ≤ 'z') || ('0' ≤ c && c ≤ '9')

/-- A combining mark, `[̀-ͯ]` in the source. -/
def isCombiningMark (c : Char) : Bool := 0x300 ≤ c.toNat && c.toNat ≤ 0x36F

/-- `String(input ?? '')`. -/
def TextRuntime.stringOrEmpty (rt : TextRuntime) : Js → Except JsError Text
  | .undefined | .null => .ok []
  | v => rt.string v

/-- The slug of a text. -/
def slugOf (rt : TextRuntime) (text : Text) : Text :=
  let text := (rt.normalize text).filter (!isCombiningMark ·)
  (strip '-' (collapse isSlugChar '-' false (trim (rt.toLowerCase text)))).take 60

/-- Normalise arbitrary text into a URL-safe slug. -/
def slugify (rt : TextRuntime) (input : Js) : Except JsError Text :=
  (rt.stringOrEmpty input).map (slugOf rt)

/-- The slug of a string. -/
@[simp] lemma slugify_str (rt : TextRuntime) (s : String) :
    slugify rt (.str s) = .ok (slugOf rt s.toList) := rfl

/-- A slug is the slug of a text. -/
lemma slugify_eq_ok {rt : TextRuntime} {input : Js} {slug : Text}
    (h : slugify rt input = .ok slug) : ∃ text, slug = slugOf rt text := by
  unfold slugify at h
  cases htext : rt.stringOrEmpty input with
  | error err => simp [htext, Except.map] at h
  | ok text =>
    rw [htext] at h
    exact ⟨text, (Except.ok.inj h).symm⟩

/-- `RESERVED_SLUGS`. -/
def reservedSlugs : List String :=
  ["api", "admin", "login", "logout", "register", "dashboard", "settings", "status", "metrics",
    "health", "assets", "static", "new", "edit", "null", "undefined"]

/-- Whether a slug is reserved. -/
def isReservedSlug (slug : Text) : Bool := (reservedSlugs.map String.toList).contains slug

/-- `'wp-admin'`. -/
def wpAdmin : Text := ['w', 'p', '-', 'a', 'd', 'm', 'i', 'n']

/-- `'phpmyadmin'`. -/
def phpMyAdmin : Text := ['p', 'h', 'p', 'm', 'y', 'a', 'd', 'm', 'i', 'n']

/-- `unwantedPaths`: `'.env'`, `'.git'` and these two. -/
def unwantedPaths : List Text := [['.', 'e', 'n', 'v'], ['.', 'g', 'i', 't'], wpAdmin, phpMyAdmin]

/-- Whether the path filter refuses a URL. -/
def blockUnwantedRequests (url : Text) : Bool := unwantedPaths.any (includes url ·)

/-- Where the public status pages are mounted: `'/api/status'`. -/
def publicMount : Text := ['/', 'a', 'p', 'i', '/', 's', 't', 'a', 't', 'u', 's']

/-- The URL of a public status page, as the server sees it. -/
def publicUrl (slug : Text) : Text := publicMount ++ '/' :: slug

/-! ## The form of a slug -/

/-- Letters and digits with single hyphens among them, none at the start, at most `60` in all. -/
structure IsSlug (s : Text) : Prop where
  separated : Separated isSlugChar '-' s
  length : s.length ≤ 60

variable {rt : TextRuntime} {s : Text}

/-- **What `slugify` produces is of this form.** -/
theorem isSlug_slugOf (rt : TextRuntime) (text : Text) : IsSlug (slugOf rt text) where
  separated := (separated_strip_collapse (by decide)).of_isPrefix (List.take_prefix _ _)
  length := List.length_take_le _ _

/-- The code points of the letters and digits of a slug. -/
lemma toNat_of_isSlugChar {c : Char} (h : isSlugChar c = true) :
    (97 ≤ c.toNat ∧ c.toNat ≤ 122) ∨ (48 ≤ c.toNat ∧ c.toNat ≤ 57) := by
  simp only [isSlugChar, Bool.or_eq_true, Bool.and_eq_true, decide_eq_true_eq, Char.le_def,
    UInt32.le_iff_toNat_le] at h
  exact h

/-- The code points of a slug. -/
lemma IsSlug.toNat (h : IsSlug s) {c : Char} (hc : c ∈ s) :
    (97 ≤ c.toNat ∧ c.toNat ≤ 122) ∨ (48 ≤ c.toNat ∧ c.toNat ≤ 57) ∨ c.toNat = 45 := by
  rcases h.separated.chars c hc with hc | rfl
  · have := toNat_of_isSlugChar hc
    omega
  · exact .inr (.inr rfl)

/-- A slug is ASCII. -/
lemma IsSlug.isAscii (h : IsSlug s) : IsAscii s := by
  intro c hc
  have := h.toNat hc
  omega

/-- A slug is in lower case. -/
lemma IsSlug.toLowerCase_eq (h : IsSlug s) : rt.toLowerCase s = s := by
  rw [rt.toLowerCase_ascii s h.isAscii]
  have hmap : s.map Char.toLower = s.map id := List.map_congr_left fun c hc => by
    have := h.toNat hc
    exact toLower_of_lt (by omega)
  rw [hmap, List.map_id]

/-- A slug has no white space. -/
lemma IsSlug.trim_eq (h : IsSlug s) : trim s = s := by
  refine trim_of_forall fun c hc => ?_
  rw [Bool.eq_false_iff]
  intro hspace
  have := toNat_of_isWhiteSpace hspace
  have := h.toNat hc
  omega

/-- **`slugify` on a slug** removes a hyphen at its end, and nothing else. -/
theorem slugOf_of_isSlug (rt : TextRuntime) (h : IsSlug s) :
    slugOf rt s = s.rdropWhile (· = '-') := by
  have hmarks : s.filter (!isCombiningMark ·) = s := by
    rw [List.filter_eq_self]
    intro c hc
    have := h.toNat hc
    simp only [isCombiningMark, Bool.not_eq_true', Bool.and_eq_false_iff, decide_eq_false_iff_not]
    omega
  have hlength : (s.rdropWhile (· = '-')).length ≤ 60 :=
    (List.rdropWhile_prefix _ _).length_le.trans h.length
  have hcollapse : collapse isSlugChar '-' false s = s :=
    collapse_of_separated (by decide) h.separated
  rw [slugOf, rt.normalize_ascii s h.isAscii]
  simp only [hmarks]
  rw [h.toLowerCase_eq, h.trim_eq, hcollapse, strip_of_separated h.separated]
  exact List.take_of_length_le hlength

/-- A slug is its own slug exactly when it does not end with a hyphen. -/
lemma slugOf_eq_self_iff (rt : TextRuntime) (h : IsSlug s) :
    slugOf rt s = s ↔ s.getLast? ≠ some '-' := by
  rw [slugOf_of_isSlug rt h, List.rdropWhile_eq_self_iff]
  constructor
  · intro hlast hs
    have hne : s ≠ [] := by
      rintro rfl
      cases hs
    rw [List.getLast?_eq_some_getLast hne, Option.some.injEq] at hs
    exact hlast hne (by simpa using hs)
  · intro hlast hne hs
    rw [List.getLast?_eq_some_getLast hne] at hlast
    simp_all

/-! ## Addresses -/

/-- A slug that its own address leads to: it does not end with a hyphen, and holds no word that
the path filter looks for. -/
def Addressable (s : Text) : Prop :=
  s.getLast? ≠ some '-' ∧ includes s wpAdmin = false ∧ includes s phpMyAdmin = false

/-- A word without a slash is in a public URL only if it is in the mount or in the slug. -/
lemma includes_publicUrl (word : Text) (hne : word ≠ []) (hslash : '/' ∉ word)
    (hmount : includes publicMount word = false) :
    includes (publicUrl s) word = includes s word := by
  have hcons : includes (publicUrl s) word = true ↔ _ := includes_append_cons hne hslash
  rw [hmount] at hcons
  rw [Bool.eq_iff_iff, hcons]
  simp

/-- A word with a dot is in no slug. -/
lemma IsSlug.includes_eq_false (h : IsSlug s) (word : Text) (hword : '.' ∈ word) :
    includes s word = false := by
  rw [includes, decide_eq_false_iff_not]
  intro hin
  have := h.toNat (hin.subset hword)
  revert this
  decide

/-- **The path filter** refuses the address of a slug that holds one of two words. -/
theorem blocked_publicUrl (h : IsSlug s) : blockUnwantedRequests (publicUrl s) =
    (includes s wpAdmin || includes s phpMyAdmin) := by
  simp only [blockUnwantedRequests, unwantedPaths, List.any_cons, List.any_nil, Bool.or_false]
  rw [includes_publicUrl ['.', 'e', 'n', 'v'] (by decide) (by decide) (by decide),
    includes_publicUrl ['.', 'g', 'i', 't'] (by decide) (by decide) (by decide),
    includes_publicUrl wpAdmin (by decide) (by decide) (by decide),
    includes_publicUrl phpMyAdmin (by decide) (by decide) (by decide),
    h.includes_eq_false ['.', 'e', 'n', 'v'] (by decide),
    h.includes_eq_false ['.', 'g', 'i', 't'] (by decide), Bool.false_or, Bool.false_or]

end WatchTower
