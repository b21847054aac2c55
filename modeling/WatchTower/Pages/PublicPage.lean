import WatchTower.Pages.StatusPageController
import WatchTower.Pages.Uptime

set_option relaxedAutoImplicit false
set_option autoImplicit false

/-!
# The public status page

`getPublicStatusPage`: the page of an address, with its monitors populated, projected onto what an
anonymous visitor may see. A visitor's request crosses the path filter first.

## Main definitions

* `WatchTower.PublicPage` — what is published of a page.
* `WatchTower.getPublicStatusPage`, `WatchTower.visit` — the endpoint, and a request to it.
* `WatchTower.SameProjection` — two sites with the same published projection.

## Main results

* `WatchTower.publicPage_congr` — what is published of a page depends on its projection only.
* `WatchTower.getPublicStatusPage_projection` — so does every answer, and a hidden page is
  answered as one that does not exist.
-/

namespace WatchTower

open Documents Transition

/-- `status` of a service. -/
inductive ServiceStatus
  /-- `'PAUSED'`. -/
  | paused
  /-- The status of the monitor. -/
  | of (status : Option Status)
  deriving DecidableEq

/-- `overall`. -/
inductive Overall
  | degraded
  | operational
  deriving DecidableEq

/-- What is published of a monitor. -/
structure PublicService where
  /-- `name`. -/
  name : Text
  /-- `status`. -/
  status : ServiceStatus
  /-- `lastCheckedAt`. -/
  lastCheckedAt : Option Time
  /-- `uptime['24h']`. -/
  uptime24h : Option ℚ
  /-- `uptime['7d']`. -/
  uptime7d : Option ℚ
  /-- `uptime['30d']`. -/
  uptime30d : Option ℚ
  /-- `avgResponseMs`. -/
  avgResponseMs : Option ℤ
  deriving DecidableEq

/-- What is published of a page. -/
structure PublicPage where
  /-- `name`. -/
  name : Text
  /-- `description`. -/
  description : Text
  /-- `slug`. -/
  slug : Text
  /-- `overall`. -/
  overall : Overall
  /-- `services`. -/
  services : List PublicService
  /-- `updatedAt`. -/
  updatedAt : Time
  deriving DecidableEq

/-- The monitors of a page, populated: in display order, without those that are gone. -/
def populate (s : Site) (page : StatusPage) : List TitledMonitor :=
  page.monitors.filterMap fun id => s.monitors.find? (·.id = id)

/-- One service of the page. -/
def publicService (s : Site) (now : Time) (monitor : TitledMonitor) : PublicService :=
  let windows := getUptimeWindows s.logs monitor.id now
  { name := monitor.title
    status := if monitor.active = some false then .paused else .of monitor.status
    lastCheckedAt := monitor.lastChecked
    uptime24h := windows.day.uptime
    uptime7d := windows.week.uptime
    uptime30d := windows.month.uptime
    avgResponseMs := windows.day.avgLatencyMs }

/-- The body of the answer for a page. -/
def publicPage (s : Site) (now : Time) (page : StatusPage) : PublicPage :=
  let services := (populate s page).map (publicService s now)
  { name := page.name
    description := page.description
    slug := page.slug
    overall := if services.any (·.status = .of (some .down)) then .degraded else .operational
    services := services
    updatedAt := now }

/-- `statusPageModel.findOne({ slug, isPublic: true })`. -/
def findPublicPage (rt : TextRuntime) (s : Site) (slug : Text) : Option StatusPage :=
  s.pages.docs.find? fun p => p.slug = slugSetter rt slug && p.isPublic

/-- Render a status page for an anonymous visitor. -/
def getPublicStatusPage (rt : TextRuntime) (s : Site) (slug : Js) (now : Time) :
    Except Thrown (ApiResponse PublicPage) :=
  match slugify rt slug with
  | .error err => .error (.js err)
  | .ok slug =>
    match findPublicPage rt s slug with
    | none => .error (.api 404 "Status page not found")
    | some page => .ok ⟨200, publicPage s now page, "Status page retrieved successfully"⟩

/-- The answer to a visit of an address. -/
inductive Visit
  /-- `403`, by the path filter. -/
  | forbidden
  /-- What the endpoint answers or throws. -/
  | answered (out : Except Thrown (ApiResponse PublicPage))

/-- A visit of the public address of a slug. -/
def visit (rt : TextRuntime) (s : Site) (slug : Text) (now : Time) : Visit :=
  if blockUnwantedRequests (publicUrl slug) then .forbidden
  else .answered (getPublicStatusPage rt s (.str (.ofList slug)) now)

/-! ## What an answer depends on -/

/-- Two monitors, each in its site, with the same published projection: the title, the status,
the time of the last check, whether it is active, and the checks. -/
structure SameService (s s' : Site) (m m' : TitledMonitor) : Prop where
  title : m.title = m'.title
  status : m.status = m'.status
  lastChecked : m.lastChecked = m'.lastChecked
  active : m.active = m'.active
  checks : SameChecks s.logs s'.logs m.id m'.id

/-- Two pages, each in its site, with the same published projection. -/
structure SamePage (s s' : Site) (p p' : StatusPage) : Prop where
  name : p.name = p'.name
  description : p.description = p'.description
  slug : p.slug = p'.slug
  services : List.Forall₂ (SameService s s') (populate s p) (populate s' p')

/-- Two sites that agree on which slugs have a public page, and on the projection of each. Ids,
and everything else, are arbitrary in either. -/
def SameProjection (s s' : Site) : Prop :=
  ∀ slug, Option.Rel (SamePage s s') (s.pages.docs.find? fun p => p.slug = slug && p.isPublic)
    (s'.pages.docs.find? fun p => p.slug = slug && p.isPublic)

/-- Two sites whose public pages are the same but for the ids: `f` renames the listed monitors. -/
structure RenamedBy (f : ℕ → ℕ) (s s' : Site) : Prop where
  kept : ∀ p ∈ s.pages, p.isPublic = true → ∃ p' ∈ s'.pages, p'.isPublic = true ∧
    p.name = p'.name ∧ p.description = p'.description ∧ p.slug = p'.slug ∧
    p'.monitors = p.monitors.map f
  origin : ∀ p' ∈ s'.pages, p'.isPublic = true → ∃ p ∈ s.pages, p.isPublic = true ∧
    p.slug = p'.slug
  services : ∀ p ∈ s.pages, p.isPublic = true → ∀ id ∈ p.monitors,
    Option.Rel (SameService s s') (s.monitors.find? (·.id = id))
      (s'.monitors.find? (·.id = f id))

variable {rt : TextRuntime} {s s' : Site} {p p' : StatusPage}

/-- What is published of a monitor depends on its projection only. -/
lemma publicService_congr {m m' : TitledMonitor} (h : SameService s s' m m') (now : Time) :
    publicService s now m = publicService s' now m' := by
  have hwindows := getUptimeWindows_congr h.checks now
  simp only [publicService, hwindows, h.title, h.status, h.lastChecked, h.active]

/-- **What is published of a page depends on its projection only.** -/
theorem publicPage_congr (h : SamePage s s' p p') (now : Time) :
    publicPage s now p = publicPage s' now p' := by
  have hservices : List.Forall₂ (fun a b : PublicService => a = b)
      ((populate s p).map (publicService s now)) ((populate s' p').map (publicService s' now)) :=
    List.rel_map (R := SameService s s') (fun _ _ hm => publicService_congr hm now) h.services
  rw [List.forall₂_eq_eq_eq] at hservices
  simp only [publicPage, hservices, h.name, h.description, h.slug]

/-- The page that `findOne` yields is the one with that slug. -/
lemma find_eq_some_iff {slug : Text} :
    (s.pages.docs.find? fun p => p.slug = slug && p.isPublic) = some p ↔
      p ∈ s.pages ∧ p.slug = slug ∧ p.isPublic = true := by
  constructor
  · intro h
    have hp := List.find?_some h
    simp only [Bool.and_eq_true, decide_eq_true_eq] at hp
    exact ⟨List.mem_of_find?_eq_some h, hp⟩
  · rintro ⟨hp, hslug, hpublic⟩
    obtain ⟨q, hq⟩ : ∃ q, (s.pages.docs.find? fun p => p.slug = slug && p.isPublic) = some q := by
      rw [← Option.isSome_iff_exists, List.find?_isSome]
      exact ⟨p, hp, by simp [hslug, hpublic]⟩
    have hqs := List.find?_some hq
    simp only [Bool.and_eq_true, decide_eq_true_eq] at hqs
    have hpq : p = q := by
      by_contra hne
      have hclash := Indexed.clash_eq_false hp (List.mem_of_find?_eq_some hq) hne
      simp [hslug, hqs.1] at hclash
    rw [hq, hpq]

/-- **Renaming the ids keeps the projection.** -/
theorem RenamedBy.sameProjection {f : ℕ → ℕ} (h : RenamedBy f s s') : SameProjection s s' := by
  intro slug
  cases hfind : s.pages.docs.find? fun p => p.slug = slug && p.isPublic with
  | some p =>
    obtain ⟨hp, rfl, hpublic⟩ := find_eq_some_iff.1 hfind
    obtain ⟨p', hp', hpublic', hname, hdescription, hslug, hmonitors⟩ := h.kept p hp hpublic
    rw [find_eq_some_iff.2 ⟨hp', hslug.symm, hpublic'⟩]
    refine .some ⟨hname, hdescription, hslug, ?_⟩
    have hids : List.Forall₂ (fun id id' => id ∈ p.monitors ∧ id' = f id) p.monitors
        p'.monitors := by
      rw [hmonitors, List.forall₂_map_right_iff, List.forall₂_same]
      exact fun id hid => ⟨hid, rfl⟩
    refine List.rel_filterMap (R := fun id id' => id ∈ p.monitors ∧ id' = f id) ?_ hids
    rintro id _ ⟨hid, rfl⟩
    exact h.services p hp hpublic id hid
  | none =>
    cases hfind' : s'.pages.docs.find? fun p => p.slug = slug && p.isPublic with
    | none => exact .none
    | some p' =>
      obtain ⟨hp', rfl, hpublic'⟩ := find_eq_some_iff.1 hfind'
      obtain ⟨p, hp, hpublic, hslug⟩ := h.origin p' hp' hpublic'
      rw [find_eq_some_iff.2 ⟨hp, hslug, hpublic⟩] at hfind
      cases hfind

/-- A page that is not public can be removed without a visitor noticing. -/
lemma findPublicPage_remove (rt : TextRuntime) (slug : Text) (hp : p ∈ s.pages)
    (hhidden : p.isPublic = false) :
    findPublicPage rt { s with pages := s.pages.remove (·.id = p.id) } slug =
      findPublicPage rt s slug := by
  ext q
  rw [findPublicPage, findPublicPage, find_eq_some_iff, find_eq_some_iff, Indexed.mem_remove]
  constructor
  · rintro ⟨⟨hq, -⟩, hrest⟩
    exact ⟨hq, hrest⟩
  · rintro ⟨hq, hslug, hpublic⟩
    refine ⟨⟨hq, ?_⟩, hslug, hpublic⟩
    rw [decide_eq_false_iff_not]
    intro hid
    rw [Indexed.eq_of_key_eq hq hp hid, hhidden] at hpublic
    cases hpublic

/-- **The public page leaks only the published projection.** Two sites with the same projection
are answered alike, for every slug at every time; and a page that is not public is answered as if
it did not exist. -/
theorem getPublicStatusPage_projection (rt : TextRuntime) :
    (∀ s s', SameProjection s s' → ∀ slug now,
      getPublicStatusPage rt s slug now = getPublicStatusPage rt s' slug now) ∧
    ∀ (s s' : Site) (p : StatusPage), p ∈ s.pages → p.isPublic = false →
      s' = { s with pages := s.pages.remove (·.id = p.id) } → ∀ slug now,
      getPublicStatusPage rt s slug now = getPublicStatusPage rt s' slug now := by
  constructor
  · intro s s' h slug now
    unfold getPublicStatusPage findPublicPage
    cases slugify rt slug with
    | error err => rfl
    | ok slug =>
      have hpage := h (slugSetter rt slug)
      dsimp only
      revert hpage
      generalize (s.pages.docs.find? _) = found
      generalize (s'.pages.docs.find? _) = found'
      intro hpage
      cases hpage with
      | none => rfl
      | some hsame => simp only [publicPage_congr hsame now]
  · rintro s s' p hp hhidden rfl slug now
    unfold getPublicStatusPage
    cases slugify rt slug with
    | error err => rfl
    | ok slug =>
      dsimp only
      rw [findPublicPage_remove rt _ hp hhidden]
      rfl

/-! ## Two shops -/

/-- A site with one public page, showing one monitor with one failed check. -/
def shopSite (pageId owner monitorId : ℕ) (url error : String) : Site where
  pages := ⟨[⟨pageId, owner, ['S'], ['s'], [], [monitorId], true⟩], List.pairwise_singleton _ _⟩
  nextId := pageId + 1
  monitors := [⟨.fresh monitorId (some owner) url 0, ['A']⟩]
  logs := [⟨monitorId, .down, some 5, {}, none, some error, 1, 7⟩]
  incidents := []

/-- A page that is not public. -/
def hiddenPage : StatusPage := ⟨0, 1, ['S'], ['s'], [], [], false⟩

/-- A site with that page only. -/
def hiddenSite : Site := { Site.empty with pages := ⟨[hiddenPage], List.pairwise_singleton _ _⟩ }

/-- Two shops with different owners, addresses and errors look alike; and a hidden page looks
like none. -/
theorem getPublicStatusPage_projection_shops :
    getPublicStatusPage .ascii (shopSite 0 1 2 "http://a" "timeout") (.str "s") 8 =
        getPublicStatusPage .ascii (shopSite 3 4 5 "http://b" "refused") (.str "s") 8 ∧
      getPublicStatusPage .ascii hiddenSite (.str "s") 8 =
        getPublicStatusPage .ascii
          { hiddenSite with pages := hiddenSite.pages.remove (·.id = hiddenPage.id) }
          (.str "s") 8 := by
  have hsame : SameProjection (shopSite 0 1 2 "http://a" "timeout")
      (shopSite 3 4 5 "http://b" "refused") := by
    refine RenamedBy.sameProjection (f := fun _ => 5) ⟨?_, ?_, ?_⟩
    · intro p hp _
      obtain rfl := List.mem_singleton.1 hp
      exact ⟨_, List.mem_singleton_self _, rfl, rfl, rfl, rfl, rfl⟩
    · intro p hp _
      obtain rfl := List.mem_singleton.1 hp
      exact ⟨_, List.mem_singleton_self _, rfl, rfl⟩
    · intro p hp _ id hid
      obtain rfl := List.mem_singleton.1 hp
      obtain rfl := List.mem_singleton.1 hid
      exact .some ⟨rfl, rfl, rfl, rfl, .refl _⟩
  constructor
  · exact (getPublicStatusPage_projection .ascii).1 _ _ hsame (.str "s") 8
  · have hmem : hiddenPage ∈ hiddenSite.pages := List.mem_singleton_self _
    exact (getPublicStatusPage_projection .ascii).2 _ _ _ hmem rfl rfl (.str "s") 8

end WatchTower
