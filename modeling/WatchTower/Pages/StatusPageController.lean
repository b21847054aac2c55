import WatchTower.Auth.UserController
import WatchTower.Pages.Site
import WatchTower.Transition.Interleave

set_option relaxedAutoImplicit false
set_option autoImplicit false

/-!
# The status page endpoints

The management half of `controllers/statusPage.controller.js`: creating, updating and deleting a
page. The address of a page is resolved from the requested slug, or from the name, before the
page is written; the unique index has the last word.

## Main definitions

* `WatchTower.PageRuntime` — the runtime, with object ids.
* `WatchTower.resolveOwnedMonitors`, `WatchTower.resolveSlug`, `WatchTower.createStatusPage`,
  `WatchTower.updateStatusPage`, `WatchTower.deleteStatusPage`.
* `WatchTower.PageRequest` — a request to one of the endpoints, with its handler.
* `WatchTower.Resolved` — a slug that `resolveSlug` lets through.

## Main results

* `WatchTower.PageRequest.handler_writes` — every slug that a handler writes is resolved.
-/

namespace WatchTower

open Transition Transition.Prog

/-- The runtime's functions on texts and on object ids. -/
structure PageRuntime extends TextRuntime where
  /-- The object id that a text spells, if it is a valid one. -/
  parseObjectId : Text → Option ℕ
  /-- `String(_id)`. -/
  hex : ℕ → Text
  /-- The text of an object id spells it. -/
  parse_hex : ∀ id, parseObjectId (hex id) = some id

/-- `MAX_PAGES_PER_USER`. -/
def maxPagesPerUser : ℕ := 25

/-- `MAX_MONITORS_PER_PAGE`. -/
def maxMonitorsPerPage : ℕ := 50

/-- The field `monitors` of a request. -/
inductive MonitorIds
  /-- It is absent. -/
  | absent
  /-- It is no array. -/
  | other
  /-- An array of ids. -/
  | array (ids : List Js)

/-- The fields that the endpoints read. -/
structure PageBody where
  /-- `name`. -/
  name : Js := .undefined
  /-- `description`. -/
  description : Js := .undefined
  /-- `monitors`. -/
  monitors : MonitorIds := .absent
  /-- `isPublic`. -/
  isPublic : Js := .undefined
  /-- `slug`. -/
  slug : Js := .undefined

/-- The boolean a value is, if it is one. -/
def Js.asBool : Js → Option Bool
  | .bool b => some b
  | _ => none

variable (rt : PageRuntime)

/-- Resolve the caller's own monitor ids from a client-supplied list. -/
def resolveOwnedMonitors (owner : ℕ) : MonitorIds → Pages (Option (List ℕ))
  | .absent => return none
  | .other => throw (.api 400 "monitors must be an array of monitor ids")
  | .array ids =>
    if maxMonitorsPerPage < ids.length then
      throw (.api 400 "A status page can show at most 50 monitors")
    else do
      let texts : List Text ← ofExcept (ids.mapM rt.string)
      let unique := texts.eraseDups
      match unique.find? fun id => (rt.parseObjectId id).isNone with
      | some id => throw (.api 400 ("Not a valid monitor id: " ++ .ofList id))
      | none =>
        let owned : List ℕ ←
          await (PageOp.findOwnedMonitors owner (unique.filterMap rt.parseObjectId))
        if unique.all fun id => (owned.map rt.hex).contains id then
          return some (unique.filterMap rt.parseObjectId)
        else throw (.api 404 "Monitor not found")

/-- Turn a requested name or slug into a free, legal slug, or explain why not. -/
def resolveSlug (requested : Js) (excludeId : Option Text) : Pages Text := do
  let slug : Text ← ofExcept (slugify rt.toTextRuntime requested)
  if slug = [] then
    throw (.api 400 "Name must contain at least one letter or number to build a URL from")
  else if isReservedSlug slug then
    throw (.api 400 ("\"" ++ .ofList slug ++ "\" is reserved — choose another name"))
  else
    let clash : Option ℕ ← await (PageOp.findBySlug slug)
    match clash with
    | none => return slug
    | some id =>
      if excludeId = some (rt.hex id) then return slug
      else throw (.api 409 ("The address /status/" ++ .ofList slug ++ " is already taken"))

/-- The description of a new page. -/
def createdDescription (description : Js) : Pages Text :=
  if description.truthy then ofExcept (rt.string description) else return []

/-- Create a page. -/
def createStatusPage (owner : ℕ) : Option PageBody → Pages (ApiResponse StatusPage)
  | none => throw (.js (destructureError "name"))
  | some body =>
    if body.name.truthy = false then throw (.api 400 "Name is required")
    else do
      let name : Text ← ofExcept (rt.string body.name)
      if trim name = [] then throw (.api 400 "Name is required")
      else
        let existing : ℕ ← await (PageOp.countPages owner)
        if maxPagesPerUser ≤ existing then
          throw (.api 400 "You can create at most 25 status pages")
        else
          let resolvedSlug ←
            resolveSlug rt (if body.slug.truthy then body.slug else body.name) none
          let monitorIds ← resolveOwnedMonitors rt owner body.monitors
          -- What this throws inside the `try` is no duplicate key, and is thrown again.
          let description ← createdDescription rt body.description
          let created : Except Thrown StatusPage ← attempt (PageOp.createPage owner
            { name := trim name
              slug := resolvedSlug
              description := trim description
              monitors := monitorIds.getD []
              isPublic := body.isPublic.asBool.getD true })
          match created with
          | .ok page => return ⟨201, page, "Status page created successfully"⟩
          | .error (.js ⟨_, some (.num 11000)⟩) =>
            throw (.api 409 ("The address /status/" ++ .ofList resolvedSlug ++ " is already taken"))
          | .error err => throw err

/-- The name of an update: absent, or not blank. -/
def updatedName (name : Js) : Pages (Option Text) :=
  if name = .undefined then return none
  else do
    let text : Text ← ofExcept (rt.string name)
    if trim text = [] then throw (.api 400 "Name cannot be empty")
    else return some (trim text)

/-- The description of an update. -/
def updatedDescription (description : Js) : Pages (Option Text) :=
  if description = .undefined then return none
  else do
    let text : Text ← ofExcept (rt.string description)
    return some (trim text)

/-- The slug of an update: it moves only when explicitly asked. -/
def updatedSlug (slug : Js) (pageId : Text) : Pages (Option Text) :=
  if slug = .undefined then return none
  else do
    let resolved ← resolveSlug rt slug (some pageId)
    return some resolved

/-- `statusPageDao.findById(owner, pageId)`, where an invalid id finds nothing. -/
def findPageById (owner : ℕ) (pageId : Text) : Pages (Option StatusPage) :=
  match rt.parseObjectId pageId with
  | none => return none
  | some id => await (PageOp.findPage owner id)

/-- `statusPageDao.updateById(owner, pageId, patch)`. -/
def updatePageById (owner : ℕ) (pageId : Text) (patch : PagePatch) : Pages (Option StatusPage) :=
  match rt.parseObjectId pageId with
  | none => return none
  | some id => await (PageOp.updatePage owner id patch)

/-- Update a page. -/
def updateStatusPage (owner : ℕ) (pageId : Text) :
    Option PageBody → Pages (ApiResponse StatusPage)
  | none => throw (.js (destructureError "name"))
  | some body => do
    let existing ← findPageById rt owner pageId
    match existing with
    | none => throw (.api 404 "Status page not found")
    | some _ =>
      let name ← updatedName rt body.name
      let description ← updatedDescription rt body.description
      let slug ← updatedSlug rt body.slug pageId
      let monitorIds ← resolveOwnedMonitors rt owner body.monitors
      let updated ← tryCatch
        (updatePageById rt owner pageId
          { name := name
            slug := slug
            description := description
            monitors := monitorIds
            isPublic := body.isPublic.asBool })
        fun err => match err with
          | .js ⟨_, some (.num 11000)⟩ => throw (.api 409 "That address is already taken")
          | err => throw err
      match updated with
      | some page => return ⟨200, page, "Status page updated successfully"⟩
      | none => throw (.api 404 "Status page not found")

/-- Delete a page. -/
def deleteStatusPage (owner : ℕ) (pageId : Text) : Pages (ApiResponse StatusPage) :=
  match rt.parseObjectId pageId with
  | none => throw (.api 404 "Status page not found")
  | some id => do
    let deleted : Option StatusPage ← await (PageOp.deletePage owner id)
    match deleted with
    | some page => return ⟨200, page, "Status page deleted successfully"⟩
    | none => throw (.api 404 "Status page not found")

/-- A request to one of the endpoints, by an authenticated user. -/
inductive PageRequest
  | create (owner : ℕ) (body : Option PageBody)
  | update (owner : ℕ) (pageId : Text) (body : Option PageBody)
  | delete (owner : ℕ) (pageId : Text)

/-- The handler of a request. -/
def PageRequest.handler : PageRequest → Pages (ApiResponse StatusPage)
  | .create owner body => createStatusPage rt owner body
  | .update owner pageId body => updateStatusPage rt owner pageId body
  | .delete owner pageId => deleteStatusPage rt owner pageId

/-! ## The slugs that are written -/

/-- A slug that `resolveSlug` lets through. -/
def Resolved (slug : Text) : Prop :=
  ∃ text, slug = slugOf rt.toTextRuntime text ∧ slug ≠ [] ∧ isReservedSlug slug = false

/-- Every slug that an operation writes is resolved. -/
def PageOp.WritesResolved : PageOp → Prop
  | .createPage _ doc => Resolved rt doc.slug
  | .updatePage _ _ patch => ∀ slug, patch.slug = some slug → Resolved rt slug
  | _ => True

/-- A pure part makes no operations. -/
lemma returns_ofExcept {α : Type} {I : List (Answered PageOp.Resp Thrown) → PageOp → Prop}
    {P : List (Answered PageOp.Resp Thrown) → α → Prop} {h : List (Answered PageOp.Resp Thrown)}
    {x : Except JsError α} (hP : ∀ a, x = .ok a → P h a) :
    (ofExcept x : Pages α).Returns I P h := by
  cases x with
  | error err => exact .fail _
  | ok a => exact .ret (hP a rfl)

/-- A part of a handler makes such operations only, and returns values in `P`. -/
def WritesAndReturns {α : Type} (P : α → Prop) (p : Pages α) : Prop :=
  ∀ h, p.Spec (fun _ _ => True) (fun _ => PageOp.WritesResolved rt)
    (fun _ out => ∀ a, out = .ok a → P a) h

section Rules

variable {rt} {α β : Type} {P : α → Prop} {P' : β → Prop}

lemma WritesAndReturns.ret {a : α} (ha : P a) : WritesAndReturns rt P (.ret a) :=
  fun _ => Returns.ret ha

lemma WritesAndReturns.fail (e : Thrown) : WritesAndReturns rt P (.fail e) :=
  fun _ => Returns.fail e

lemma WritesAndReturns.bind {p : Pages α} {f : α → Pages β} (hp : WritesAndReturns rt P p)
    (hf : ∀ a, P a → WritesAndReturns rt P' (f a)) : WritesAndReturns rt P' (p.bind f) :=
  fun h => Returns.bind (hp h) fun h' a ha => hf a ha h'

lemma WritesAndReturns.catchError {p : Pages α} {f : Thrown → Pages α}
    (hp : WritesAndReturns rt P p) (hf : ∀ e, WritesAndReturns rt P (f e)) :
    WritesAndReturns rt P (p.catchError f) :=
  fun h => Returns.catchError (hp h) fun h' e => hf e h'

lemma WritesAndReturns.await {o : PageOp} (ho : o.WritesResolved rt) :
    WritesAndReturns rt (fun _ => True) (await o : Pages o.Resp) :=
  fun _ => Returns.await ho fun _ => trivial

lemma WritesAndReturns.attempt {o : PageOp} (ho : o.WritesResolved rt) :
    WritesAndReturns rt (fun _ => True) (attempt o : Pages (Except Thrown o.Resp)) :=
  fun _ => Returns.attempt ho fun _ => trivial

lemma WritesAndReturns.ofExcept {x : Except JsError α} (h : ∀ a, x = .ok a → P a) :
    WritesAndReturns rt P (ofExcept x) :=
  fun _ => returns_ofExcept h

lemma WritesAndReturns.ite {c : Prop} [Decidable c] {p q : Pages α}
    (hp : c → WritesAndReturns rt P p) (hq : ¬c → WritesAndReturns rt P q) :
    WritesAndReturns rt P (if c then p else q) :=
  fun h => Returns.ite (fun hc => hp hc h) fun hc => hq hc h

end Rules

section Handlers

variable (owner : ℕ) (pageId : Text)

/-- The lookup of the monitors writes nothing. -/
lemma resolveOwnedMonitors_writes (ids : MonitorIds) :
    WritesAndReturns rt (fun _ => True) (resolveOwnedMonitors rt owner ids) := by
  cases ids with
  | absent => exact .ret trivial
  | other => exact .fail _
  | array ids =>
    refine .ite (fun _ => .fail _) fun _ => ?_
    refine .bind (P := fun _ => True) (.ofExcept fun _ _ => trivial) fun texts _ => ?_
    dsimp only
    split
    · exact .fail _
    · refine .bind (.await trivial) fun owned _ => ?_
      exact .ite (fun _ => .ret trivial) fun _ => .fail _

/-- **`resolveSlug`** returns resolved slugs. -/
theorem resolveSlug_writes (requested : Js) (excludeId : Option Text) :
    WritesAndReturns rt (Resolved rt) (resolveSlug rt requested excludeId) := by
  refine .bind (.ofExcept fun slug => slugify_eq_ok) fun slug hslug => ?_
  refine .ite (fun _ => .fail _) fun hempty => .ite (fun _ => .fail _) fun hreserved => ?_
  obtain ⟨text, rfl⟩ := hslug
  have hresolved : Resolved rt (slugOf rt.toTextRuntime text) :=
    ⟨text, rfl, hempty, Bool.eq_false_iff.2 hreserved⟩
  refine .bind (.await trivial) fun clash _ => ?_
  cases clash with
  | none => exact .ret hresolved
  | some id => exact .ite (fun _ => .ret hresolved) fun _ => .fail _

/-- Creating a page writes a resolved slug. -/
lemma createStatusPage_writes (body : Option PageBody) :
    WritesAndReturns rt (fun _ => True) (createStatusPage rt owner body) := by
  cases body with
  | none => exact .fail _
  | some body =>
    refine .ite (fun _ => .fail _) fun _ => ?_
    refine .bind (P := fun _ => True) (.ofExcept fun _ _ => trivial) fun name _ => ?_
    refine .ite (fun _ => .fail _) fun _ => ?_
    refine .bind (.await trivial) fun existing _ => .ite (fun _ => .fail _) fun _ => ?_
    refine .bind (resolveSlug_writes rt _ _) fun slug hslug => ?_
    refine .bind (resolveOwnedMonitors_writes rt owner _) fun monitorIds _ => ?_
    have hdescription : WritesAndReturns rt (fun _ => True)
        (createdDescription rt body.description) :=
      .ite (fun _ => .ofExcept fun _ _ => trivial) fun _ => .ret trivial
    refine .bind hdescription fun description _ => ?_
    refine .bind (.attempt hslug) fun created _ => ?_
    split
    · exact .ret trivial
    · exact .fail _
    · exact .fail _

/-- The slug of an update is resolved. -/
lemma updatedSlug_writes (slug : Js) :
    WritesAndReturns rt (fun moved => ∀ slug, moved = some slug → Resolved rt slug)
      (updatedSlug rt slug pageId) := by
  refine .ite (fun _ => .ret ?_) fun _ => ?_
  · intro slug hslug
    cases hslug
  · refine .bind (resolveSlug_writes rt _ _) fun resolved hresolved => .ret ?_
    rintro slug ⟨⟩
    exact hresolved

/-- The name of an update is no write, -/
lemma updatedName_writes (name : Js) :
    WritesAndReturns rt (fun _ => True) (updatedName rt name) :=
  .ite (fun _ => .ret trivial) fun _ =>
    .bind (P := fun _ => True) (.ofExcept fun _ _ => trivial) fun _ _ =>
      .ite (fun _ => .fail _) fun _ => .ret trivial

/-- and neither is the description. -/
lemma updatedDescription_writes (description : Js) :
    WritesAndReturns rt (fun _ => True) (updatedDescription rt description) :=
  .ite (fun _ => .ret trivial) fun _ =>
    .bind (P := fun _ => True) (.ofExcept fun _ _ => trivial) fun _ _ => .ret trivial

/-- Updating a page writes a resolved slug, if any. -/
lemma updateStatusPage_writes (body : Option PageBody) :
    WritesAndReturns rt (fun _ => True) (updateStatusPage rt owner pageId body) := by
  cases body with
  | none => exact .fail _
  | some body =>
    have hfind : WritesAndReturns rt (fun _ => True) (findPageById rt owner pageId) := by
      rw [findPageById]
      split
      · exact .ret trivial
      · exact .await trivial
    refine .bind hfind fun existing _ => ?_
    cases existing with
    | none => exact .fail _
    | some existing =>
      refine .bind (updatedName_writes rt body.name) fun name _ => ?_
      refine .bind (updatedDescription_writes rt body.description) fun description _ => ?_
      refine .bind (updatedSlug_writes rt pageId _) fun slug hslug => ?_
      refine .bind (resolveOwnedMonitors_writes rt owner _) fun monitorIds _ => ?_
      refine .bind (P := fun _ => True) (.catchError ?_ fun err => ?_) fun updated _ => ?_
      · rw [updatePageById]
        split
        · exact .ret trivial
        · exact .await hslug
      · split
        · exact .fail _
        · exact .fail _
      · cases updated with
        | none => exact .fail _
        | some page => exact .ret trivial

/-- Deleting a page writes no slug. -/
lemma deleteStatusPage_writes :
    WritesAndReturns rt (fun _ => True) (deleteStatusPage rt owner pageId) := by
  rw [deleteStatusPage]
  split
  · exact .fail _
  · refine .bind (.await trivial) fun deleted _ => ?_
    cases deleted with
    | none => exact .fail _
    | some page => exact .ret trivial

end Handlers

/-- **Every slug that a handler writes is resolved.** -/
theorem PageRequest.handler_writes (req : PageRequest) :
    (req.handler rt).AllCalls (PageOp.WritesResolved rt) := by
  have hreq : WritesAndReturns rt (fun _ => True) (req.handler rt) := by
    cases req with
    | create owner body => exact createStatusPage_writes rt owner body
    | update owner pageId body => exact updateStatusPage_writes rt owner pageId body
    | delete owner pageId => exact deleteStatusPage_writes rt owner pageId
  exact (hreq []).allCalls

end WatchTower
