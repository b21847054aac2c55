import WatchTower.Auth.User
import WatchTower.Pages.Slug
import WatchTower.Scheduler.Store

set_option relaxedAutoImplicit false
set_option autoImplicit false

/-!
# The database behind the status pages

The collections that `controllers/statusPage.controller.js` reads and writes: the pages of
`models/statusPage.model.js`, with their unique index on the slug, and the monitors and check
logs that a page shows. The page operations are those of the owner-scoped DAO, each one query.

## Main definitions

* `WatchTower.StatusPage`, `WatchTower.TitledMonitor`, `WatchTower.Site`.
* `WatchTower.PageOp`, `WatchTower.PageOp.Resp`, `WatchTower.execPage` — the operations.
* `WatchTower.PageHandler` — the same on a live site, where other collections change meanwhile
  and a query can fail.

## Main results

* `WatchTower.PageHandler.pages` — what an operation leaves of the pages.
-/

namespace WatchTower

open Documents Transition

/-- A document of the status pages. -/
structure StatusPage where
  /-- `_id`. -/
  id : ℕ
  /-- `userId`, the owner. -/
  userId : ℕ
  /-- `name`. -/
  name : Text
  /-- `slug`. -/
  slug : Text
  /-- `description`. -/
  description : Text
  /-- `monitors`, in display order. -/
  monitors : List ℕ
  /-- `isPublic`. -/
  isPublic : Bool
  deriving DecidableEq

/-- A monitor with its title. -/
structure TitledMonitor extends Monitor where
  /-- `title`. -/
  title : Text

/-- The indexes of the status pages: `_id` and `slug`. -/
abbrev pageIndexes : Indexes StatusPage ℕ where
  key := StatusPage.id
  clash p q := p.id = q.id || p.slug = q.slug
  clash_comm p q := by simp [eq_comm]
  clash_of_key h := by simp [h]

/-- The database. -/
structure Site where
  /-- The status pages. -/
  pages : Indexed pageIndexes
  /-- An `_id` that no page has had yet. -/
  nextId : ℕ
  /-- The monitors. -/
  monitors : List TitledMonitor
  /-- The check logs. -/
  logs : List LogRow
  /-- The incidents. -/
  incidents : List Incident

/-- A site without pages. -/
def Site.empty : Site := ⟨.empty _, 0, [], [], []⟩

/-- The fields that `createStatusPage` hands over. -/
structure NewPage where
  /-- `name`. -/
  name : Text
  /-- `slug`. -/
  slug : Text
  /-- `description`. -/
  description : Text
  /-- `monitors`. -/
  monitors : List ℕ
  /-- `isPublic`. -/
  isPublic : Bool

/-- The `$set` object of `updateStatusPage`. -/
structure PagePatch where
  /-- A new name. -/
  name : Option Text := none
  /-- A new slug. -/
  slug : Option Text := none
  /-- A new description. -/
  description : Option Text := none
  /-- New monitors. -/
  monitors : Option (List ℕ) := none
  /-- Publish or hide. -/
  isPublic : Option Bool := none

/-- The setters of the slug path: `lowercase` and `trim`. -/
def slugSetter (rt : TextRuntime) (slug : Text) : Text := trim (rt.toLowerCase slug)

/-- The validators of the name: required, and at most `80` code units. -/
def validName (name : Text) : Bool := name ≠ [] && jsLength (.ofList name) ≤ 80

/-- The validator of the description. -/
def validDescription (description : Text) : Bool := jsLength (.ofList description) ≤ 280

/-- The document that a create makes. -/
def StatusPage.created (rt : TextRuntime) (id owner : ℕ) (doc : NewPage) : StatusPage where
  id := id
  userId := owner
  name := trim doc.name
  slug := slugSetter rt doc.slug
  description := trim doc.description
  monitors := doc.monitors
  isPublic := doc.isPublic

/-- The document after an update. -/
def StatusPage.patch (rt : TextRuntime) (patch : PagePatch) (p : StatusPage) : StatusPage :=
  { p with
    name := (patch.name.map trim).getD p.name
    slug := (patch.slug.map (slugSetter rt)).getD p.slug
    description := (patch.description.map trim).getD p.description
    monitors := patch.monitors.getD p.monitors
    isPublic := patch.isPublic.getD p.isPublic }

/-- Whether the validators accept an update. -/
def PagePatch.valid (rt : TextRuntime) (patch : PagePatch) : Bool :=
  patch.name.all (fun name => validName (trim name)) &&
    patch.slug.all (fun slug => slugSetter rt slug ≠ []) &&
    patch.description.all (fun description => validDescription (trim description))

/-- The operations of the status page endpoints. -/
inductive PageOp
  /-- `statusPageDao.count(owner, {})`. -/
  | countPages (owner : ℕ)
  /-- `statusPageModel.findOne({ slug }).select('_id')`. -/
  | findBySlug (slug : Text)
  /-- `monitorDao.find(owner, { _id: { $in: ids } })`, of which the ids are used. -/
  | findOwnedMonitors (owner : ℕ) (ids : List ℕ)
  /-- `statusPageDao.create(owner, doc)`. -/
  | createPage (owner : ℕ) (doc : NewPage)
  /-- `statusPageDao.findById(owner, id)`. -/
  | findPage (owner id : ℕ)
  /-- `statusPageDao.updateById(owner, id, patch)`. -/
  | updatePage (owner id : ℕ) (patch : PagePatch)
  /-- `statusPageDao.deleteById(owner, id)`. -/
  | deletePage (owner id : ℕ)

/-- What an operation answers. -/
abbrev PageOp.Resp : PageOp → Type
  | .countPages _ => ℕ
  | .findBySlug _ => Option ℕ
  | .findOwnedMonitors _ _ => List ℕ
  | .createPage _ _ => StatusPage
  | .findPage _ _ => Option StatusPage
  | .updatePage _ _ _ => Option StatusPage
  | .deletePage _ _ => Option StatusPage

/-- The error of a document that its schema does not accept. -/
def pageValidationError : JsError := ⟨"StatusPage validation failed", none⟩

/-- Whether a page is the one with an id, within an owner's scope. -/
def StatusPage.isOwned (owner id : ℕ) (p : StatusPage) : Bool := p.id = id && p.userId = owner

/-- One operation on the database. -/
def execPage (rt : TextRuntime) : (o : PageOp) → Site → Except Thrown o.Resp × Site
  | .countPages owner, s => (.ok (s.pages.docs.countP (·.userId = owner)), s)
  | .findBySlug slug, s =>
    (.ok ((s.pages.docs.find? (·.slug = slugSetter rt slug)).map (·.id)), s)
  | .findOwnedMonitors owner ids, s =>
    (.ok ((s.monitors.filter fun m => m.userId = some owner && ids.contains m.id).map (·.id)), s)
  | .createPage owner doc, s =>
    let page := StatusPage.created rt s.nextId owner doc
    if validName page.name && validDescription page.description && page.slug ≠ [] then
      match s.pages.insert page with
      | some pages => (.ok page, { s with pages, nextId := s.nextId + 1 })
      | none => (.error (.js duplicateKey), s)
    else (.error (.js pageValidationError), s)
  | .findPage owner id, s => (.ok (s.pages.docs.find? (·.isOwned owner id)), s)
  | .updatePage owner id patch, s =>
    if patch.valid rt then
      match s.pages.docs.find? (·.isOwned owner id) with
      | none => (.ok none, s)
      | some page =>
        match s.pages.replace (page.patch rt patch) with
        | some pages => (.ok (some (page.patch rt patch)), { s with pages })
        | none => (.error (.js duplicateKey), s)
    else (.error (.js pageValidationError), s)
  | .deletePage owner id, s =>
    (.ok (s.pages.docs.find? (·.isOwned owner id)),
      { s with pages := s.pages.remove (·.isOwned owner id) })

/-- One operation on a live site: the monitors, the logs and the incidents are whatever the rest
of the backend has made of them, and the query can fail. -/
def PageHandler (rt : TextRuntime) (o : PageOp) (s : Site) (r : Except Thrown o.Resp)
    (s' : Site) : Prop :=
  ∃ t : Site, t.pages = s.pages ∧ t.nextId = s.nextId ∧
    ((r, s') = execPage rt o t ∨ (s' = t ∧ ∃ e, r = .error e))

/-- A part of a handler that talks to the database. -/
abbrev Pages := Prog PageOp PageOp.Resp Thrown

variable {rt : TextRuntime} {s s' : Site} {p : StatusPage}

/-- A page after an operation was there before, or was created or updated by it. -/
lemma mem_pages_execPage {o : PageOp} (hp : p ∈ (execPage rt o s).2.pages) :
    p ∈ s.pages ∨ (∃ id owner doc, o = .createPage owner doc ∧ p = .created rt id owner doc) ∨
      ∃ owner id patch, ∃ q ∈ s.pages, o = .updatePage owner id patch ∧ q.userId = owner ∧
        p = q.patch rt patch := by
  cases o with
  | createPage owner doc =>
    rw [execPage] at hp
    split_ifs at hp with hvalid
    · split at hp
      · rename_i pages hinsert
        rcases (Indexed.mem_insert hinsert).1 hp with hp | rfl
        · exact .inl hp
        · exact .inr (.inl ⟨_, _, _, rfl, rfl⟩)
      · exact .inl hp
    · exact .inl hp
  | updatePage owner id patch =>
    rw [execPage] at hp
    split_ifs at hp with hvalid
    · split at hp
      · exact .inl hp
      · rename_i page hfind
        split at hp
        · rename_i pages hreplace
          rcases (Indexed.mem_replace hreplace).1 hp with ⟨hp, -⟩ | ⟨rfl, -⟩
          · exact .inl hp
          · have howned := List.find?_some hfind
            rw [StatusPage.isOwned, Bool.and_eq_true, decide_eq_true_eq,
              decide_eq_true_eq] at howned
            exact .inr (.inr ⟨_, _, _, page, List.mem_of_find?_eq_some hfind, rfl, howned.2, rfl⟩)
        · exact .inl hp
    · exact .inl hp
  | deletePage owner id => exact .inl (Indexed.mem_remove.1 hp).1
  | _ => exact .inl hp

/-- **What an operation leaves of the pages**: those that were there, and one that it has created
or updated. -/
theorem PageHandler.pages {o : PageOp} {r : Except Thrown o.Resp} (h : PageHandler rt o s r s')
    (hp : p ∈ s'.pages) :
    p ∈ s.pages ∨ (∃ id owner doc, o = .createPage owner doc ∧ p = .created rt id owner doc) ∨
      ∃ owner id patch, ∃ q ∈ s.pages, o = .updatePage owner id patch ∧ q.userId = owner ∧
        p = q.patch rt patch := by
  obtain ⟨t, hpages, -, hexec | ⟨rfl, -⟩⟩ := h
  · rw [← hpages]
    have hs' : s' = (execPage rt o t).2 := congrArg Prod.snd hexec
    exact mem_pages_execPage (hs' ▸ hp)
  · exact .inl (hpages ▸ hp)

end WatchTower
