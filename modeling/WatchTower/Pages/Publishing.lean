import WatchTower.Pages.PublicPage

set_option relaxedAutoImplicit false
set_option autoImplicit false

/-!
# Published pages and their addresses

The pages of a site come from any number of create, update and delete requests, in any
interleaving of their queries. The slug of a page was computed by `slugify` when it was written;
a visit of its address computes it once more, behind the path filter.

## Main definitions

* `WatchTower.Serves` — the steps of a site that serves requests.
* `WatchTower.LeadsTo` — a visit of the address of a page is answered with that page.

## Main results

* `WatchTower.slugs_resolved` — every slug of a reachable site comes from `slugify`.
* `WatchTower.leadsTo_iff` — a public page is reached at its own address exactly when its slug
  does not end with a hyphen and holds no word that the path filter looks for.
* `WatchTower.published_iff` — the same on all reachable sites, and `slugify` is idempotent
  exactly on the slugs without a hyphen at the end.
-/

namespace WatchTower

open Documents Transition

variable (rt : PageRuntime)

/-- A request starts, whatever the site holds, with its handler. -/
def Starts {ι : Type} (requests : ι → PageRequest) (i : ι) (_ : Site)
    (p : Pages (ApiResponse StatusPage)) : Prop :=
  p = (requests i).handler rt

/-- The steps of a site that serves the given requests: their queries interleave. -/
abbrev Serves {ι : Type} [DecidableEq ι] (requests : ι → PageRequest) :=
  SharedStep (Starts rt requests) (PageHandler rt.toTextRuntime)

/-- A visit of the address of a page is answered with that page. -/
def LeadsTo (s : Site) (p : StatusPage) (now : Time) : Prop :=
  visit rt.toTextRuntime s p.slug now =
    .answered (.ok ⟨200, publicPage s now p, "Status page retrieved successfully"⟩)

variable {rt} {s : Site} {p : StatusPage}

/-- A resolved slug is a slug. -/
lemma Resolved.isSlug {slug : Text} (h : Resolved rt slug) : IsSlug slug := by
  obtain ⟨v, rfl, -⟩ := h
  exact isSlug_slugOf _ v

/-- The setters of the slug path leave a slug alone. -/
lemma IsSlug.setter_eq {slug : Text} (h : IsSlug slug) (rt : TextRuntime) :
    slugSetter rt slug = slug := by
  rw [slugSetter, h.toLowerCase_eq, h.trim_eq]

/-- **Every slug of a reachable site comes from `slugify`**, was not empty and not reserved. -/
theorem slugs_resolved {ι : Type} [DecidableEq ι] {requests : ι → PageRequest}
    {es : List (SharedEvent ι PageOp.Resp Thrown (ApiResponse StatusPage))}
    {w : Shared ι Site PageOp.Resp Thrown (ApiResponse StatusPage)}
    (hrun : Run (Serves rt requests) (.idle .empty) es w) (hp : p ∈ w.store.pages) :
    Resolved rt p.slug := by
  have hinv : ∀ p ∈ w.store.pages, Resolved rt p.slug := by
    refine hrun.store_invariant (A := PageOp.WritesResolved rt)
      (P := fun s : Site => ∀ p ∈ s.pages, Resolved rt p.slug) ?_ ?_ ?_
    · rintro i s p - rfl
      exact (requests i).handler_writes rt
    · intro o s r s' ho hs hH p hp
      rcases hH.pages hp with hp | ⟨id, owner, doc, rfl, rfl⟩ |
        ⟨owner, id, patch, q, hq, rfl, -, rfl⟩
      · exact hs p hp
      · have hslug : Resolved rt doc.slug := ho
        rwa [StatusPage.created, hslug.isSlug.setter_eq]
      · rw [StatusPage.patch]
        cases hpatch : patch.slug with
        | none => exact hs q hq
        | some slug =>
          have hslug : Resolved rt slug := ho slug hpatch
          simpa [hpatch, hslug.isSlug.setter_eq] using hslug
    · intro p hp
      exact absurd hp Indexed.not_mem_empty
  exact hinv p hp

/-- **A public page is reached at its own address** exactly when its slug is addressable.

**Proof sketch.** `slugify` on the slug removes a hyphen at its end. If there is none the lookup
finds the page with that slug, the only one there is; if there is one, whatever page is found has
another slug, which the answer shows. -/
theorem leadsTo_iff (rt : PageRuntime) (hp : p ∈ s.pages) (hpublic : p.isPublic = true)
    (hslug : IsSlug p.slug) (now : Time) : LeadsTo rt s p now ↔ Addressable p.slug := by
  unfold LeadsTo visit
  rw [blocked_publicUrl hslug]
  by_cases hblocked : (includes p.slug wpAdmin || includes p.slug phpMyAdmin) = true
  · rw [if_pos hblocked]
    refine iff_of_false ?_ fun h => ?_
    · intro h
      cases h
    · simp [h.2.1, h.2.2] at hblocked
  · rw [if_neg hblocked]
    have hwords : includes p.slug wpAdmin = false ∧ includes p.slug phpMyAdmin = false := by
      simpa using hblocked
    simp only [Addressable, hwords, and_self, and_true, Visit.answered.injEq]
    have hsetter : slugSetter rt.toTextRuntime (slugOf rt.toTextRuntime p.slug) =
        slugOf rt.toTextRuntime p.slug := (isSlug_slugOf _ _).setter_eq _
    rw [← slugOf_eq_self_iff rt.toTextRuntime hslug, getPublicStatusPage, slugify_str,
      String.toList_ofList]
    dsimp only
    rw [findPublicPage, hsetter]
    constructor
    · intro hanswer
      cases hfind : s.pages.docs.find? fun q =>
          q.slug = slugOf rt.toTextRuntime p.slug && q.isPublic with
      | none => simp [hfind] at hanswer
      | some q =>
        simp only [hfind, Except.ok.injEq, ApiResponse.mk.injEq, true_and, and_true] at hanswer
        have hqs : q.slug = p.slug := congrArg PublicPage.slug hanswer
        exact (find_eq_some_iff.1 hfind).2.1.symm.trans hqs
    · intro hself
      rw [hself, find_eq_some_iff.2 ⟨hp, rfl, hpublic⟩]

/-- **Published pages are reachable exactly where their slugs are addressable**, on every
reachable site; and `slugify` is idempotent exactly on the slugs without a hyphen at the end. -/
theorem published_iff (rt : PageRuntime) :
    (∀ (ι : Type) [DecidableEq ι] (requests : ι → PageRequest) es w,
      Run (Serves rt requests) (.idle .empty) es w → ∀ p ∈ w.store.pages, p.isPublic = true →
        ∀ now, LeadsTo rt w.store p now ↔ Addressable p.slug) ∧
    ∀ v slug, slugify rt.toTextRuntime v = .ok slug →
      (slugify rt.toTextRuntime (.str (.ofList slug)) = .ok slug ↔ slug.getLast? ≠ some '-') := by
  refine ⟨fun ι _ requests es w hrun p hp hpublic now => ?_, fun v slug hslug => ?_⟩
  · exact leadsTo_iff rt hp hpublic (slugs_resolved hrun hp).isSlug now
  · obtain ⟨text, rfl⟩ := slugify_eq_ok hslug
    rw [slugify_str, String.toList_ofList, Except.ok.injEq]
    exact slugOf_eq_self_iff rt.toTextRuntime (isSlug_slugOf _ text)

/-! ## Concrete pages -/

/-- A runtime that treats every text as ASCII, with ids written in unary. -/
def PageRuntime.sample : PageRuntime where
  toTextRuntime := .ascii
  parseObjectId s := some s.length
  hex id := List.replicate id '0'
  parse_hex := by simp

/-- A request to create a page with the given name. -/
def createNamed (name : Text) : PageRequest := .create 1 (some { name := .str (.ofList name) })

/-- What the site is after one request on its own. -/
def siteAfter (req : PageRequest) : Site :=
  ((req.handler .sample).run (execPage .ascii) .empty).2

/-- A page whose creation can be computed is a page of a reachable site. -/
lemma exists_published (name slug : Text)
    (h : (siteAfter (createNamed name)).pages.docs.map (fun p => (p.slug, p.isPublic)) =
      [(slug, true)]) :
    ∃ es w, Run (Serves .sample fun _ : Unit => createNamed name) (.idle .empty) es w ∧
      ∃ p ∈ w.store.pages, p.slug = slug ∧ p.isPublic = true := by
  have hH : ∀ o s, PageHandler .ascii o s (execPage .ascii o s).1 (execPage .ascii o s).2 :=
    fun o s => ⟨s, rfl, rfl, .inl rfl⟩
  have hstart : Starts .sample (fun _ : Unit => createNamed name) () .empty
      ((createNamed name).handler .sample) := rfl
  obtain ⟨es, w, hrun, hstore⟩ := exists_run_first hH hstart
  refine ⟨es, w, hrun, ?_⟩
  have hmem : (slug, true) ∈ w.store.pages.docs.map fun p => (p.slug, p.isPublic) := by
    rw [hstore]
    exact h ▸ List.mem_singleton_self _
  obtain ⟨p, hp, hslug⟩ := List.mem_map.1 hmem
  exact ⟨p, hp, congrArg Prod.fst hslug, congrArg Prod.snd hslug⟩

/-- Fifty-nine letters, a space and one more. -/
def longName : Text := List.replicate 59 'a' ++ [' ', 'b']

/-- A page with that name gets an address that does not lead to it. -/
theorem published_unreachable :
    ¬∀ (requests : Unit → PageRequest) es w,
      Run (Serves .sample requests) (.idle .empty) es w → ∀ p ∈ w.store.pages,
        p.isPublic = true → ∀ now, LeadsTo .sample w.store p now := by
  intro h
  obtain ⟨es, w, hrun, p, hp, hslug, hpublic⟩ :=
    exists_published longName (List.replicate 59 'a' ++ ['-']) (by decide +kernel)
  have haddressable := (leadsTo_iff .sample hp hpublic (slugs_resolved hrun hp).isSlug 0).1
    (h _ es w hrun p hp hpublic 0)
  refine haddressable.1 ?_
  rw [hslug]
  decide

/-- A page with a short name. -/
theorem published_iff_shop :
    ∃ (s : Site) (p : StatusPage), p.slug = ['s', 'h', 'o', 'p'] ∧
      (LeadsTo .sample s p 0 ↔ Addressable p.slug) := by
  obtain ⟨es, w, hrun, p, hp, hslug, hpublic⟩ :=
    exists_published ['S', 'h', 'o', 'p'] ['s', 'h', 'o', 'p'] (by decide +kernel)
  exact ⟨w.store, p, hslug, (published_iff .sample).1 Unit _ es w hrun p hp hpublic 0⟩

end WatchTower
