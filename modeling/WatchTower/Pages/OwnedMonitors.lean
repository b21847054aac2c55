import Mathlib.Data.Nat.Digits.Defs
import WatchTower.Pages.StatusPageController

set_option relaxedAutoImplicit false
set_option autoImplicit false

/-!
# The monitors that a page lists

`resolveOwnedMonitors` is the boundary that keeps the monitors of others off a public page. The
client's strings are validated and looked up as object ids, in either case of their hexadecimal
digits, but compared as strings with the ids that were found, which are in lower case. So an owned
monitor is refused when it is spelled otherwise; no other monitor is ever let through.

## Main definitions

* `WatchTower.Denotes` — a string spells the id of a monitor of the owner.
* `WatchTower.ResolvesOwned` — what is asked of `resolveOwnedMonitors` and of the requests.
* `WatchTower.OwnedSite`, `WatchTower.Evolves` — a site whose monitors are created, edited and
  deleted by the rest of the backend, with the owner of every monitor there has been.
* `WatchTower.OwnedHandler` — the operations of the endpoints on such a site.

## Main results

* `WatchTower.resolvesOwned_iff` — one request does what is asked exactly when, if it denotes owned
  monitors only, it spells them in lower case.
* `WatchTower.ownedMonitors_iff` — and on every reachable site, every monitor that a page lists
  belongs to the owner of the page.
-/

namespace WatchTower

open Documents Transition Transition.Prog

/-! ## Lists without duplicates -/

/-- Removing duplicates commutes with an injective function. -/
lemma eraseDups_map {α β : Type} [BEq α] [LawfulBEq α] [BEq β] [LawfulBEq β] {f : α → β}
    (hf : Function.Injective f) (l : List α) : (l.map f).eraseDups = l.eraseDups.map f := by
  generalize hn : l.length = n
  induction n using Nat.strongRecOn generalizing l with
  | ind n ih =>
    cases l with
    | nil => rfl
    | cons a l =>
      have hfilter : (l.map f).filter (fun b => !b == f a) = (l.filter fun b => !b == a).map f := by
        rw [List.filter_map]
        congr 1
        refine List.filter_congr fun b _ => ?_
        rw [Function.comp_apply, Bool.not_inj_iff, Bool.eq_iff_iff, beq_iff_eq, beq_iff_eq,
          hf.eq_iff]
      have hlen := List.length_filter_le (fun b => !b == a) l
      rw [List.map_cons, List.eraseDups_cons, List.eraseDups_cons, List.map_cons, hfilter,
        ih _ (by rw [List.length_cons] at hn; omega) _ rfl]

variable {rt : PageRuntime} {owner : ℕ} {ids : List String} {s : Site}

/-! ## What is asked -/

/-- A string spells the id of a monitor of the owner. -/
def Denotes (rt : PageRuntime) (owner : ℕ) (s : Site) (x : String) : Prop :=
  ∃ m ∈ s.monitors, rt.parseObjectId x.toList = some m.id ∧ m.userId = some owner

/-- The ids that a list of strings spells, each once, by its first occurrence. -/
def denoted (rt : PageRuntime) (ids : List String) : List ℕ :=
  (ids.filterMap fun x => rt.parseObjectId x.toList).eraseDups

/-- The lookup of a list of strings, by itself. -/
def resolveRun (rt : PageRuntime) (owner : ℕ) (ids : List String) (s : Site) :
    Except Thrown (Option (List ℕ)) × Site :=
  (resolveOwnedMonitors rt owner (.array (ids.map .str))).run (execPage rt.toTextRuntime) s

/-- A program throws, and leaves the site as it was. -/
def Fails {α : Type} (rt : PageRuntime) (p : Pages α) (s : Site) : Prop :=
  ∃ err, p.run (execPage rt.toTextRuntime) s = (.error err, s)

/-- What it throws is an `ApiError`. -/
def Rejects {α : Type} (rt : PageRuntime) (p : Pages α) (s : Site) : Prop :=
  ∃ statusCode message,
    p.run (execPage rt.toTextRuntime) s = (.error (.api statusCode message), s)

/-- What is asked of `resolveOwnedMonitors` for a list of strings: if all of them spell ids of
monitors of the owner, it returns these; otherwise it throws an `ApiError`, and the requests that
hand it the list fail, at it or before, and write nothing. -/
structure ResolvesOwned (rt : PageRuntime) (owner : ℕ) (ids : List String) (s : Site) : Prop where
  owned : (∀ x ∈ ids, Denotes rt owner s x) →
    resolveRun rt owner ids s = (.ok (some (denoted rt ids)), s)
  refused : (∃ x ∈ ids, ¬Denotes rt owner s x) →
    Rejects rt (resolveOwnedMonitors rt owner (.array (ids.map .str))) s ∧
      ∀ body : PageBody, body.monitors = .array (ids.map .str) →
        Fails rt (createStatusPage rt owner (some body)) s ∧
          ∀ pageId, Fails rt (updateStatusPage rt owner pageId (some body)) s

/-- If all strings spell ids of monitors of the owner, they are in the spelling of `String(_id)`. -/
def SpelledAsStored (rt : PageRuntime) (owner : ℕ) (ids : List String) (s : Site) : Prop :=
  (∀ x ∈ ids, Denotes rt owner s x) → ∀ x ∈ ids, ∃ id, x.toList = rt.hex id

/-! ## One lookup -/

/-- The strings of ids are different. -/
lemma hex_injective (rt : PageRuntime) : Function.Injective rt.hex := by
  intro a b h
  have := congrArg rt.parseObjectId h
  rwa [rt.parse_hex, rt.parse_hex, Option.some.injEq] at this

/-- The strings of a request, as texts. -/
lemma mapM_string_str (rt : PageRuntime) (ids : List String) :
    (ids.map Js.str).mapM rt.string = .ok (ids.map String.toList) := by
  induction ids with
  | nil => rfl
  | cons x ids ih => rw [List.map_cons, List.mapM_cons, ih, List.map_cons]; rfl

/-- **Owned monitors in the spelling of `String(_id)`** are found, each once, in order. -/
lemma resolveRun_of_spelled (hlen : ids.length ≤ maxMonitorsPerPage)
    (hdenotes : ∀ x ∈ ids, Denotes rt owner s x)
    (hspelled : ∀ x ∈ ids, ∃ id, x.toList = rt.hex id) :
    resolveRun rt owner ids s = (.ok (some (denoted rt ids)), s) := by
  obtain ⟨l, hl⟩ : ∃ l : List ℕ, ids.map String.toList = l.map rt.hex := by
    clear hlen hdenotes
    induction ids with
    | nil => exact ⟨[], rfl⟩
    | cons x ids ih =>
      obtain ⟨id, hid⟩ := hspelled x List.mem_cons_self
      obtain ⟨l, hl⟩ := ih fun y hy => hspelled y (List.mem_cons_of_mem _ hy)
      exact ⟨id :: l, by rw [List.map_cons, List.map_cons, hid, hl]⟩
  have hparse : ∀ l : List ℕ, (l.map rt.hex).filterMap rt.parseObjectId = l := by
    intro l
    rw [List.filterMap_map]
    simp [rt.parse_hex]
  have hunique : (ids.map String.toList).eraseDups = l.eraseDups.map rt.hex := by
    rw [hl, eraseDups_map (hex_injective rt)]
  have hdenoted : denoted rt ids = l.eraseDups := by
    have hmap : ids.filterMap (fun x => rt.parseObjectId x.toList) =
        (ids.map String.toList).filterMap rt.parseObjectId := by
      rw [List.filterMap_map]
      rfl
    rw [denoted, hmap, hl, hparse]
  have howned : ∀ id ∈ l.eraseDups, ∃ m ∈ s.monitors, m.id = id ∧ m.userId = some owner := by
    intro id hid
    have hmem : rt.hex id ∈ ids.map String.toList := by
      rw [hl]
      exact List.mem_map_of_mem (List.mem_eraseDups.1 hid)
    obtain ⟨x, hx, hxid⟩ := List.mem_map.1 hmem
    obtain ⟨m, hm, hparse, howner⟩ := hdenotes x hx
    rw [hxid, rt.parse_hex, Option.some.injEq] at hparse
    exact ⟨m, hm, hparse.symm, howner⟩
  have hvalid : (l.eraseDups.map rt.hex).find? (fun id => (rt.parseObjectId id).isNone) = none := by
    simp [rt.parse_hex]
  unfold resolveRun resolveOwnedMonitors
  dsimp only
  rw [if_neg (by rw [List.length_map]; omega), mapM_string_str]
  simp only [ofExcept, hunique, hvalid, hparse, bind_eq, run_bind, run_ret, run_await, execPage]
  rw [if_pos]
  · rw [pure_eq, run_ret, hdenoted]
  · rw [List.all_eq_true]
    intro x hx
    obtain ⟨id, hid, rfl⟩ := List.mem_map.1 hx
    obtain ⟨m, hm, rfl, howner⟩ := howned id hid
    rw [List.contains_iff_mem]
    refine List.mem_map_of_mem (List.mem_map.2 ⟨m, List.mem_filter.2 ⟨hm, ?_⟩, rfl⟩)
    simp [howner, List.mem_eraseDups.1 hid]

/-- **Any other list** is refused. -/
lemma rejects_resolveOwnedMonitors (hlen : ids.length ≤ maxMonitorsPerPage)
    (hbad : ∃ x ∈ ids, ¬(Denotes rt owner s x ∧ ∃ id, x.toList = rt.hex id)) :
    Rejects rt (resolveOwnedMonitors rt owner (.array (ids.map .str))) s := by
  obtain ⟨x, hx, hbad⟩ := hbad
  have hmem : x.toList ∈ (ids.map String.toList).eraseDups := by
    rw [List.mem_eraseDups]
    exact List.mem_map_of_mem hx
  unfold Rejects resolveOwnedMonitors
  dsimp only
  rw [if_neg (by rw [List.length_map]; omega), mapM_string_str]
  simp only [ofExcept, bind_eq, run_bind, run_ret]
  cases hfind : ((ids.map String.toList).eraseDups).find? fun id =>
      (rt.parseObjectId id).isNone with
  | some id => exact ⟨_, _, rfl⟩
  | none =>
    simp only [run_bind, run_await, execPage]
    rw [if_neg]
    · exact ⟨_, _, rfl⟩
    · intro hall
      have hcontains := List.all_eq_true.1 hall _ hmem
      rw [List.contains_iff_mem] at hcontains
      obtain ⟨id, hid, heq⟩ := List.mem_map.1 hcontains
      obtain ⟨m, hm, rfl⟩ := List.mem_map.1 hid
      obtain ⟨hm, howner⟩ := List.mem_filter.1 hm
      rw [Bool.and_eq_true, decide_eq_true_eq] at howner
      exact hbad ⟨⟨m, hm, by rw [← heq, rt.parse_hex], howner.1⟩, m.id, heq.symm⟩

/-! ## One request -/

section Refusals

variable {α β : Type} {p : Pages α} {f : α → Pages β}

/-- A program returns, or throws, and leaves the site as it was. -/
def Looks (rt : PageRuntime) (p : Pages α) (s : Site) : Prop :=
  (∃ a, p.run (execPage rt.toTextRuntime) s = (.ok a, s)) ∨ Fails rt p s

/-- To throw an `ApiError` is to throw. -/
lemma Rejects.fails (h : Rejects rt p s) : Fails rt p s := by
  obtain ⟨statusCode, message, h⟩ := h
  exact ⟨_, h⟩

/-- What follows a failure is not reached. -/
lemma Fails.bind (h : Fails rt p s) (f : α → Pages β) : Fails rt (p >>= f) s := by
  obtain ⟨err, h⟩ := h
  exact ⟨err, by rw [bind_eq, run_bind, h]⟩

/-- What follows a look fails if it does so whatever has been seen. -/
lemma Looks.fails_bind (h : Looks rt p s) (hf : ∀ a, Fails rt (f a) s) : Fails rt (p >>= f) s := by
  rcases h with ⟨a, h⟩ | h
  · obtain ⟨err, ha⟩ := hf a
    refine ⟨err, ?_⟩
    rw [bind_eq, run_bind, h]
    exact ha
  · exact h.bind f

/-- A look after a look. -/
lemma Looks.bind (h : Looks rt p s) (hf : ∀ a, Looks rt (f a) s) : Looks rt (p >>= f) s := by
  rcases h with ⟨a, h⟩ | h
  · have hrun : (p >>= f).run (execPage rt.toTextRuntime) s =
        (f a).run (execPage rt.toTextRuntime) s := by
      rw [bind_eq, run_bind, h]
    rw [Looks, Fails, hrun]
    exact hf a
  · exact .inr (h.bind f)

lemma Fails.ite {c : Prop} [Decidable c] {q : Pages α} (hp : c → Fails rt p s)
    (hq : ¬c → Fails rt q s) : Fails rt (if c then p else q) s := by
  split_ifs with hc
  · exact hp hc
  · exact hq hc

lemma Looks.ite {c : Prop} [Decidable c] {q : Pages α} (hp : c → Looks rt p s)
    (hq : ¬c → Looks rt q s) : Looks rt (if c then p else q) s := by
  split_ifs with hc
  · exact hp hc
  · exact hq hc

/-- What throws. -/
lemma fails_throw (err : Thrown) : Fails rt (throw err : Pages α) s := ⟨err, rfl⟩

/-- A value. -/
lemma looks_pure (a : α) : Looks rt (pure a : Pages α) s := .inl ⟨a, rfl⟩

/-- A pure part that may throw. -/
lemma looks_ofExcept (x : Except JsError α) : Looks rt (ofExcept x : Pages α) s := by
  cases x with
  | error err => exact .inr ⟨_, rfl⟩
  | ok a => exact .inl ⟨a, rfl⟩

end Refusals

/-- The lookup of a slug. -/
lemma looks_resolveSlug (requested : Js) (excludeId : Option Text) :
    Looks rt (resolveSlug rt requested excludeId) s := by
  refine (looks_ofExcept _).bind fun slug => ?_
  refine .ite (fun _ => .inr (fails_throw _)) fun _ => ?_
  refine .ite (fun _ => .inr (fails_throw _)) fun _ => ?_
  have hlook : Looks rt (await (PageOp.findBySlug slug) : Pages (Option ℕ)) s :=
    .inl ⟨_, by rw [run_await]; rfl⟩
  refine hlook.bind fun clash => ?_
  cases clash with
  | none => exact looks_pure _
  | some id => exact .ite (fun _ => looks_pure _) fun _ => .inr (fails_throw _)

/-- A create fails if the lookup of its monitors does. -/
lemma fails_createStatusPage {body : PageBody}
    (h : Fails rt (resolveOwnedMonitors rt owner body.monitors) s) :
    Fails rt (createStatusPage rt owner (some body)) s := by
  have hlook : Looks rt (await (PageOp.countPages owner) : Pages ℕ) s :=
    .inl ⟨_, by rw [run_await]; rfl⟩
  refine Fails.ite (fun _ => fails_throw _) fun _ => ?_
  refine (looks_ofExcept _).fails_bind fun name => .ite (fun _ => fails_throw _) fun _ => ?_
  refine hlook.fails_bind fun existing => .ite (fun _ => fails_throw _) fun _ => ?_
  exact (looks_resolveSlug _ _).fails_bind fun resolvedSlug => h.bind _

/-- So does an update. -/
lemma fails_updateStatusPage {body : PageBody} (pageId : Text)
    (h : Fails rt (resolveOwnedMonitors rt owner body.monitors) s) :
    Fails rt (updateStatusPage rt owner pageId (some body)) s := by
  have hpage : Looks rt (findPageById rt owner pageId) s := by
    unfold findPageById
    cases rt.parseObjectId pageId with
    | none => exact looks_pure _
    | some id => exact .inl ⟨_, by dsimp only; rw [run_await]; rfl⟩
  have hname : Looks rt (updatedName rt body.name) s :=
    .ite (fun _ => looks_pure _) fun _ => (looks_ofExcept _).bind fun text =>
      .ite (fun _ => .inr (fails_throw _)) fun _ => looks_pure _
  have hdescription : Looks rt (updatedDescription rt body.description) s :=
    .ite (fun _ => looks_pure _) fun _ => (looks_ofExcept _).bind fun text => looks_pure _
  have hslug : Looks rt (updatedSlug rt body.slug pageId) s :=
    .ite (fun _ => looks_pure _) fun _ => (looks_resolveSlug _ _).bind fun _ => looks_pure _
  refine hpage.fails_bind fun existing => ?_
  cases existing with
  | none => exact fails_throw _
  | some existing =>
    exact hname.fails_bind fun name => hdescription.fails_bind fun description =>
      hslug.fails_bind fun slug => h.bind _

/-- **One request does what is asked of it exactly when, if its strings spell ids of monitors of the
owner, they are in the spelling of `String(_id)`.** -/
theorem resolvesOwned_iff (hlen : ids.length ≤ maxMonitorsPerPage) :
    ResolvesOwned rt owner ids s ↔ SpelledAsStored rt owner ids s := by
  constructor
  · intro h hdenotes x hx
    by_contra hspelled
    have hrefused : Rejects rt (resolveOwnedMonitors rt owner (.array (ids.map .str))) s :=
      rejects_resolveOwnedMonitors hlen ⟨x, hx, fun h => hspelled h.2⟩
    obtain ⟨statusCode, message, hrun⟩ := hrefused
    have hok := h.owned hdenotes
    rw [resolveRun, hrun] at hok
    cases hok
  · intro h
    refine ⟨fun hdenotes => resolveRun_of_spelled hlen hdenotes (h hdenotes), fun hbad => ?_⟩
    obtain ⟨x, hx, hnot⟩ := hbad
    have hrefused : Rejects rt (resolveOwnedMonitors rt owner (.array (ids.map .str))) s :=
      rejects_resolveOwnedMonitors hlen ⟨x, hx, fun h => hnot h.1⟩
    refine ⟨hrefused, fun body hbody => ?_⟩
    rw [← hbody] at hrefused
    exact ⟨fails_createStatusPage hrefused.fails,
      fun pageId => fails_updateStatusPage pageId hrefused.fails⟩

/-! ## The rest of the backend -/

/-- A site, with the owner of every monitor that has been created. -/
structure OwnedSite where
  /-- The site. -/
  site : Site
  /-- The owners, by monitor id. -/
  owners : ℕ → Option ℕ

/-- What the rest of the backend makes of a site: a monitor is created with an id of its own, for an
owner; edits leave both alone; deletes; and other collections change. -/
inductive Evolves (s : OwnedSite) : OwnedSite → Prop
  | refl : Evolves s s
  | create {t : OwnedSite} {m : TitledMonitor} {owner : ℕ} : Evolves s t →
      t.owners m.id = none → m.userId = some owner →
      Evolves s ⟨{ t.site with monitors := t.site.monitors ++ [m] },
        Function.update t.owners m.id (some owner)⟩
  | edit {t : OwnedSite} {id : ℕ} {f : TitledMonitor → TitledMonitor} : Evolves s t →
      (∀ m, (f m).id = m.id ∧ (f m).userId = m.userId) →
      Evolves s ⟨{ t.site with
        monitors := t.site.monitors.map fun m => if m.id = id then f m else m }, t.owners⟩
  | delete {t : OwnedSite} (id : ℕ) : Evolves s t →
      Evolves s ⟨{ t.site with monitors := t.site.monitors.filter (·.id ≠ id) }, t.owners⟩
  | log {t : OwnedSite} (logs : List LogRow) (incidents : List Incident) : Evolves s t →
      Evolves s ⟨{ t.site with logs := logs, incidents := incidents }, t.owners⟩

/-- One operation of the endpoints, after the rest of the backend has done something. It can also
fail. -/
def OwnedHandler (rt : TextRuntime) (o : PageOp) (s : OwnedSite) (r : Except Thrown o.Resp)
    (s' : OwnedSite) : Prop :=
  ∃ t, Evolves s t ∧ s'.owners = t.owners ∧
    ((r, s'.site) = execPage rt o t.site ∨ (s'.site = t.site ∧ ∃ e, r = .error e))

/-- A site on which every monitor has the owner it was created for. -/
def OwnedSite.Faithful (s : OwnedSite) : Prop :=
  ∀ m ∈ s.site.monitors, ∃ owner, m.userId = some owner ∧ s.owners m.id = some owner

variable {w t : OwnedSite}

/-- A fresh id is none that has an owner. -/
lemma update_owners_of_some {owners : ℕ → Option ℕ} {fresh id o : ℕ} (hfresh : owners fresh = none)
    (hid : owners id = some o) (owner : ℕ) :
    Function.update owners fresh (some owner) id = some o := by
  have hne : id ≠ fresh := by
    rintro rfl
    rw [hid] at hfresh
    cases hfresh
  rw [Function.update_of_ne hne, hid]

/-- The pages stay as they are while the rest of the backend works. -/
lemma Evolves.pages (h : Evolves w t) :
    t.site.pages = w.site.pages ∧ t.site.nextId = w.site.nextId := by
  induction h with
  | refl => exact ⟨rfl, rfl⟩
  | create _ _ _ ih => exact ih
  | edit _ _ ih => exact ih
  | delete _ _ ih => exact ih
  | log _ _ _ ih => exact ih

/-- A monitor that has had an owner has had no other. -/
lemma Evolves.owners (h : Evolves w t) {id o : ℕ} (ho : w.owners id = some o) :
    t.owners id = some o := by
  induction h with
  | refl => exact ho
  | create _ hfresh _ ih => exact update_owners_of_some hfresh ih _
  | edit _ _ ih => exact ih
  | delete _ _ ih => exact ih
  | log _ _ _ ih => exact ih

/-- Every monitor keeps the owner it was created for. -/
lemma Evolves.faithful (h : Evolves w t) (hw : w.Faithful) : t.Faithful := by
  induction h with
  | refl => exact hw
  | @create t m owner _ hfresh howner ih =>
    intro m' hm'
    rcases List.mem_append.1 hm' with hm' | hm'
    · obtain ⟨o, ho, howners⟩ := ih m' hm'
      exact ⟨o, ho, update_owners_of_some hfresh howners owner⟩
    · obtain rfl := List.mem_singleton.1 hm'
      exact ⟨owner, howner, Function.update_self _ _ _⟩
  | edit _ hf ih =>
    intro m hm
    obtain ⟨m', hm', rfl⟩ := List.mem_map.1 hm
    dsimp only
    split_ifs
    · rw [(hf m').1, (hf m').2]
      exact ih m' hm'
    · exact ih m' hm'
  | delete id _ ih => exact fun m hm => ih m (List.mem_filter.1 hm).1
  | log _ _ _ ih => exact ih

/-! ## What the requests write -/

section Writes

variable {h : List (Answered PageOp.Resp Thrown)} (pageId : Text)

/-- A lookup in the history has found a monitor of the owner. -/
def Found (h : List (Answered PageOp.Resp Thrown)) (owner id : ℕ) : Prop :=
  ∃ ids, ∃ owned : List ℕ,
    (⟨.findOwnedMonitors owner ids, .ok owned⟩ : Answered PageOp.Resp Thrown) ∈ h ∧ id ∈ owned

/-- A write lists only monitors of its owner that have been found before. -/
def PageOp.ListsFound (h : List (Answered PageOp.Resp Thrown)) : PageOp → Prop
  | .createPage owner doc => ∀ id ∈ doc.monitors, Found h owner id
  | .updatePage owner _ patch => ∀ ids, patch.monitors = some ids → ∀ id ∈ ids, Found h owner id
  | _ => True

/-- **`resolveOwnedMonitors`** returns monitors that its lookup has found.

**Proof sketch.** Every string is that of a found monitor, and spells the id of that monitor. -/
theorem resolveOwnedMonitors_returns (rt : PageRuntime) (owner : ℕ) (ids : MonitorIds) :
    (resolveOwnedMonitors rt owner ids).Returns PageOp.ListsFound
      (fun h' l => ∀ ids, l = some ids → ∀ id ∈ ids, Found h' owner id) h := by
  cases ids with
  | absent => exact .ret (by rintro ids ⟨⟩)
  | other => exact .fail _
  | array ids =>
    refine .ite (fun _ => .fail _) fun _ => ?_
    refine .bind (P := fun _ _ => True) (returns_ofExcept fun _ _ => trivial) fun h₁ texts _ => ?_
    dsimp only
    split
    · exact .fail _
    · refine .bind (P := fun h' owned => ∀ id ∈ owned, Found h' owner id) ?_
        fun h' owned howned => ?_
      · exact .await trivial fun owned id hid =>
          ⟨_, owned, List.mem_append_right _ (List.mem_singleton_self _), hid⟩
      · refine .ite (fun hall => .ret ?_) fun _ => .fail _
        rintro l ⟨⟩ id hid
        obtain ⟨x, hx, hparse⟩ := List.mem_filterMap.1 hid
        have hcontains := List.all_eq_true.1 hall x hx
        obtain ⟨id', hid', rfl⟩ := List.mem_map.1 (List.contains_iff_mem.1 hcontains)
        rw [rt.parse_hex, Option.some.injEq] at hparse
        exact howned id (hparse ▸ hid')

/-- The lookup of a slug writes nothing. -/
lemma resolveSlug_returns (requested : Js) (excludeId : Option Text) :
    (resolveSlug rt requested excludeId).Returns PageOp.ListsFound (fun _ _ => True) h := by
  refine .bind (P := fun _ _ => True) (returns_ofExcept fun _ _ => trivial) fun h₁ slug _ => ?_
  refine .ite (fun _ => .fail _) fun _ => .ite (fun _ => .fail _) fun _ => ?_
  refine .bind (P := fun _ _ => True) (.await trivial fun _ => trivial) fun h' clash _ => ?_
  cases clash with
  | none => exact .ret trivial
  | some id => exact .ite (fun _ => .ret trivial) fun _ => .fail _

/-- Creating a page lists monitors that have been found. -/
lemma createStatusPage_returns (body : Option PageBody) :
    (createStatusPage rt owner body).Returns PageOp.ListsFound (fun _ _ => True) h := by
  cases body with
  | none => exact .fail _
  | some body =>
    refine .ite (fun _ => .fail _) fun _ => ?_
    refine .bind (P := fun _ _ => True) (returns_ofExcept fun _ _ => trivial) fun h₁ name _ => ?_
    refine .ite (fun _ => .fail _) fun _ => ?_
    refine .bind (P := fun _ _ => True) (.await trivial fun _ => trivial) fun h₂ existing _ => ?_
    refine .ite (fun _ => .fail _) fun _ => ?_
    refine .bind (resolveSlug_returns _ _) fun h₃ slug _ => ?_
    refine .bind (resolveOwnedMonitors_returns rt owner _) fun h₄ monitorIds hmonitors => ?_
    have hfound : ∀ id ∈ monitorIds.getD [], Found h₄ owner id := by
      cases monitorIds with
      | none => exact fun id hid => by cases hid
      | some ids => exact hmonitors ids rfl
    have hdescription : (createdDescription rt body.description).Returns PageOp.ListsFound
        (fun h' _ => ∀ id ∈ monitorIds.getD [], Found h' owner id) h₄ :=
      .ite (fun _ => returns_ofExcept fun _ _ => hfound) fun _ => .ret hfound
    refine .bind hdescription fun h₅ description hfound => ?_
    refine .bind (P := fun _ _ => True) (.attempt hfound fun _ => trivial) fun h₆ created _ => ?_
    split
    · exact .ret trivial
    · exact .fail _
    · exact .fail _

/-- So does updating a page. -/
lemma updateStatusPage_returns (body : Option PageBody) :
    (updateStatusPage rt owner pageId body).Returns PageOp.ListsFound (fun _ _ => True) h := by
  cases body with
  | none => exact .fail _
  | some body =>
    have hfind : (findPageById rt owner pageId).Returns PageOp.ListsFound (fun _ _ => True) h := by
      rw [findPageById]
      split
      · exact .ret trivial
      · exact .await trivial fun _ => trivial
    refine .bind hfind fun h₁ existing _ => ?_
    cases existing with
    | none => exact .fail _
    | some existing =>
      have hname : (updatedName rt body.name).Returns PageOp.ListsFound (fun _ _ => True) h₁ :=
        .ite (fun _ => .ret trivial) fun _ =>
          .bind (P := fun _ _ => True) (returns_ofExcept fun _ _ => trivial) fun _ _ _ =>
            .ite (fun _ => .fail _) fun _ => .ret trivial
      have hdescription : ∀ h₂, (updatedDescription rt body.description).Returns
          PageOp.ListsFound (fun _ _ => True) h₂ := fun h₂ =>
        .ite (fun _ => .ret trivial) fun _ =>
          .bind (P := fun _ _ => True) (returns_ofExcept fun _ _ => trivial) fun _ _ _ =>
            .ret trivial
      have hslug : ∀ h₂, (updatedSlug rt body.slug pageId).Returns PageOp.ListsFound
          (fun _ _ => True) h₂ := fun h₂ =>
        .ite (fun _ => .ret trivial) fun _ =>
          .bind (resolveSlug_returns _ _) fun _ _ _ => .ret trivial
      refine .bind hname fun h₂ name _ => .bind (hdescription h₂) fun h₃ description _ => ?_
      refine .bind (hslug h₃) fun h₄ slug _ => ?_
      refine .bind (resolveOwnedMonitors_returns rt owner _) fun h₅ monitorIds hmonitors => ?_
      refine .bind (P := fun _ _ => True) (.catchError ?_ fun h₆ err => ?_) fun h₆ updated _ => ?_
      · rw [updatePageById]
        split
        · exact .ret trivial
        · exact .await hmonitors fun _ => trivial
      · split
        · exact .fail _
        · exact .fail _
      · cases updated with
        | none => exact .fail _
        | some page => exact .ret trivial

/-- Deleting a page lists none. -/
lemma deleteStatusPage_returns :
    (deleteStatusPage rt owner pageId).Returns PageOp.ListsFound (fun _ _ => True) h := by
  rw [deleteStatusPage]
  split
  · exact .fail _
  · refine .bind (P := fun _ _ => True) (.await trivial fun _ => trivial) fun h' deleted _ => ?_
    cases deleted with
    | none => exact .fail _
    | some page => exact .ret trivial

/-- **A request lists only monitors of its owner that it has found.** -/
theorem PageRequest.handler_returns (req : PageRequest) :
    (req.handler rt).Returns PageOp.ListsFound (fun _ _ => True) h := by
  cases req with
  | create owner body => exact createStatusPage_returns body
  | update owner pageId body => exact updateStatusPage_returns pageId body
  | delete owner pageId => exact deleteStatusPage_returns pageId

end Writes

/-! ## Reachable sites -/

/-- A site on which nothing has been created. -/
def OwnedSite.empty : OwnedSite := ⟨.empty, fun _ => none⟩

/-- The steps of a site that serves the given requests while the rest of the backend works. -/
abbrev ServesOwned {ι : Type} [DecidableEq ι] (rt : PageRuntime) (requests : ι → PageRequest) :=
  SharedStep (fun i (_ : OwnedSite) p => p = (requests i).handler rt)
    (OwnedHandler rt.toTextRuntime)

/-- What an answer has said of the owners. -/
def Learned (a : Answered PageOp.Resp Thrown) (s : OwnedSite) : Prop :=
  ∀ owner ids owned, a = ⟨.findOwnedMonitors owner ids, .ok owned⟩ →
    ∀ id ∈ owned, s.owners id = some owner

/-- Every monitor has the owner it was created for, and every page lists monitors that were created
for its owner. -/
structure PublishesOwned (s : OwnedSite) : Prop where
  faithful : s.Faithful
  listed : ∀ p ∈ s.site.pages, ∀ id ∈ p.monitors, s.owners id = some p.userId

variable {o : PageOp} {r : Except Thrown o.Resp}

/-- An operation of the endpoints leaves the monitors alone. -/
lemma execPage_monitors (rt : TextRuntime) (o : PageOp) (s : Site) :
    (execPage rt o s).2.monitors = s.monitors := by
  cases o with
  | createPage owner doc =>
    rw [execPage]
    split_ifs
    · split <;> rfl
    · rfl
  | updatePage owner id patch =>
    rw [execPage]
    split_ifs
    · split
      · rfl
      · split <;> rfl
    · rfl
  | _ => rfl

namespace OwnedHandler

/-- It is an operation on a live site. -/
lemma pageHandler (h : OwnedHandler rt.toTextRuntime o w r t) :
    PageHandler rt.toTextRuntime o w.site r t.site := by
  obtain ⟨u, hu, -, hstep⟩ := h
  refine ⟨u.site, hu.pages.1, hu.pages.2, ?_⟩
  rcases hstep with hexec | ⟨hsite, hfail⟩
  · exact .inl hexec
  · exact .inr ⟨hsite, hfail⟩

lemma owners (h : OwnedHandler rt.toTextRuntime o w r t) {id owner : ℕ}
    (hid : w.owners id = some owner) : t.owners id = some owner := by
  obtain ⟨u, hu, howners, -⟩ := h
  rw [howners]
  exact hu.owners hid

lemma faithful (h : OwnedHandler rt.toTextRuntime o w r t) (hw : w.Faithful) : t.Faithful := by
  obtain ⟨u, hu, howners, hstep⟩ := h
  have hmonitors : t.site.monitors = u.site.monitors := by
    rcases hstep with hexec | ⟨hsite, -⟩
    · have hsite : t.site = (execPage rt.toTextRuntime o u.site).2 := congrArg Prod.snd hexec
      rw [hsite, execPage_monitors]
    · rw [hsite]
  intro m hm
  rw [howners]
  exact hu.faithful hw m (hmonitors ▸ hm)

/-- **A lookup** finds monitors of the owner it is made for. -/
lemma learned (h : OwnedHandler rt.toTextRuntime o w r t) (hw : w.Faithful) :
    Learned ⟨o, r⟩ t := by
  rintro owner ids owned heq id hid
  obtain ⟨rfl, rfl⟩ := Sigma.mk.inj_iff.1 heq
  obtain ⟨u, hu, howners, hexec | ⟨-, e, hfail⟩⟩ := h
  · have hr := Except.ok.inj (congrArg Prod.fst hexec)
    rw [hr] at hid
    obtain ⟨m, hm, rfl⟩ := List.mem_map.1 hid
    obtain ⟨hm, howner⟩ := List.mem_filter.1 hm
    rw [Bool.and_eq_true, decide_eq_true_eq] at howner
    obtain ⟨owner', howner', hid'⟩ := hu.faithful hw m hm
    rw [howner.1, Option.some.injEq] at howner'
    rw [howners, hid', howner']
  · cases hfail

end OwnedHandler

/-- **A write that lists found monitors** keeps every list owned. -/
lemma PublishesOwned.step {h : List (Answered PageOp.Resp Thrown)} (hw : PublishesOwned w)
    (hfacts : ∀ a ∈ h, Learned a w) (hlists : o.ListsFound h)
    (hstep : OwnedHandler rt.toTextRuntime o w r t) : PublishesOwned t := by
  refine ⟨hstep.faithful hw.faithful, fun p hp id hid => hstep.owners ?_⟩
  have hfound : ∀ owner, Found h owner id → w.owners id = some owner := by
    rintro owner ⟨ids, owned, hmem, hid⟩
    exact hfacts _ hmem owner ids owned rfl id hid
  rcases hstep.pageHandler.pages hp with hp | ⟨pageId, owner, doc, rfl, rfl⟩ |
    ⟨owner, pageId, patch, q, hq, rfl, rfl, rfl⟩
  · exact hw.listed p hp id hid
  · exact hfound owner (hlists id hid)
  · cases hpatch : patch.monitors with
    | none =>
      rw [StatusPage.patch, hpatch] at hid
      exact hw.listed q hq id hid
    | some ids =>
      rw [StatusPage.patch, hpatch] at hid
      exact hfound q.userId (hlists ids hpatch id hid)

/-- **On every reachable site every page lists monitors that were created for its owner.** -/
theorem publishesOwned {ι : Type} [DecidableEq ι] {requests : ι → PageRequest}
    {es : List (SharedEvent ι PageOp.Resp Thrown (ApiResponse StatusPage))}
    {w : Shared ι OwnedSite PageOp.Resp Thrown (ApiResponse StatusPage)}
    (hrun : Run (ServesOwned rt requests) (.idle .empty) es w) : PublishesOwned w.store := by
  refine hrun.store_invariant_of_facts (I := PageOp.ListsFound) (F := Learned)
    (P := PublishesOwned) ?_ ?_ ?_ ?_ ?_
  · rintro i s p rfl
    exact Spec.mono (fun _ _ _ => trivial) (requests i).handler_returns
  · exact fun o s r s' hs hstep => hstep.learned hs.faithful
  · exact fun a o s r s' _ hstep ha owner ids owned heq id hid =>
      hstep.owners (ha owner ids owned heq id hid)
  · exact fun h o s r s' hfacts hlists hs hstep => hs.step hfacts hlists hstep
  · exact ⟨List.forall_mem_nil _, fun p hp => absurd hp Indexed.not_mem_empty⟩

/-- **Only owned monitors are published.** One request with at most fifty ids does what is asked of
it exactly when, if they spell owned monitors, they do so as `String(_id)` does; and whatever
requests any users make, in whatever interleaving, every monitor on a page belongs to the owner of
the page.

**Proof sketch.** The lookup itself compares strings with the strings of the monitors that it has
found, so it lets through exactly their spellings. A page is written with monitors that a lookup
before has found for its owner, and no monitor changes its owner. -/
theorem ownedMonitors_iff (rt : PageRuntime) (owner : ℕ) (ids : List String)
    (hlen : ids.length ≤ maxMonitorsPerPage) :
    (∀ s, ResolvesOwned rt owner ids s ↔ SpelledAsStored rt owner ids s) ∧
      ∀ (ι : Type) [DecidableEq ι] (requests : ι → PageRequest) es w,
        Run (ServesOwned rt requests) (.idle .empty) es w → ∀ t, Evolves w.store t →
          ∀ p ∈ t.site.pages, ∀ id ∈ p.monitors, t.owners id = some p.userId ∧
            ∀ m ∈ t.site.monitors, m.id = id → m.userId = some p.userId := by
  refine ⟨fun s => resolvesOwned_iff hlen, fun ι _ requests es w hrun t ht p hp id hid => ?_⟩
  have hpublishes := publishesOwned hrun
  rw [ht.pages.1] at hp
  have howner : t.owners id = some p.userId := ht.owners (hpublishes.listed p hp id hid)
  refine ⟨howner, ?_⟩
  rintro m hm rfl
  obtain ⟨owner', howner', hid'⟩ := ht.faithful hpublishes.faithful m hm
  rw [howner', ← hid', howner]

/-! ## Concrete ids -/

/-- The digits of an object id, most significant first: at least twenty-four. -/
def hexDigits (id : ℕ) : List ℕ :=
  (Nat.digits 16 id ++ List.replicate (24 - (Nat.digits 16 id).length) 0).reverse

/-- An object id in hexadecimal. -/
def hexText (id : ℕ) : Text := (hexDigits id).map Nat.digitChar

/-- The value of a hexadecimal digit in lower case. -/
def hexValue (c : Char) : ℕ := ((List.range 16).map Nat.digitChar).idxOf c

/-- The object id that a text spells, in either case. -/
def parseHex (x : Text) : Option ℕ :=
  let lower := x.map Char.toLower
  let id := Nat.ofDigits 16 (lower.map hexValue).reverse
  if lower = hexText id then some id else none

/-- The digits of an object id are digits. -/
lemma hexDigits_lt {id d : ℕ} (hd : d ∈ hexDigits id) : d < 16 := by
  rw [hexDigits, List.mem_reverse, List.mem_append] at hd
  rcases hd with hd | hd
  · exact Nat.digits_lt_base (by decide) hd
  · rw [List.eq_of_mem_replicate hd]
    decide

/-- The digits of an object id denote it. -/
lemma ofDigits_hexDigits (id : ℕ) : Nat.ofDigits 16 (hexDigits id).reverse = id := by
  rw [hexDigits, List.reverse_reverse, Nat.ofDigits_append_replicate_zero, Nat.ofDigits_digits]

/-- The digits are read back. -/
lemma map_hexValue_hexText (id : ℕ) : (hexText id).map hexValue = hexDigits id := by
  have hvalue : ∀ d < 16, hexValue (Nat.digitChar d) = d := by decide
  rw [hexText, List.map_map]
  exact (List.map_congr_left fun d hd => hvalue d (hexDigits_lt hd)).trans (List.map_id' _)

/-- The digits are in lower case. -/
lemma map_toLower_hexText (id : ℕ) : (hexText id).map Char.toLower = hexText id := by
  have hlower : ∀ d < 16, (Nat.digitChar d).toLower = Nat.digitChar d := by decide
  rw [hexText, List.map_map]
  exact List.map_congr_left fun d hd => hlower d (hexDigits_lt hd)

/-- **The case of the digits does not matter** to the id that a text spells. -/
lemma parseHex_of_toLower {x : Text} {id : ℕ} (h : x.map Char.toLower = hexText id) :
    parseHex x = some id := by
  rw [parseHex, h, map_hexValue_hexText, ofDigits_hexDigits, if_pos rfl]

/-- A runtime that treats every text as ASCII, with hexadecimal ids. -/
def PageRuntime.hexadecimal : PageRuntime where
  toTextRuntime := .ascii
  parseObjectId := parseHex
  hex := hexText
  parse_hex id := parseHex_of_toLower (map_toLower_hexText id)

/-- The tenth id. -/
lemma hexText_ten : hexText 10 = "00000000000000000000000a".toList := by
  have hdigits : hexDigits 10 = List.replicate 23 0 ++ [10] := by
    rw [hexDigits, Nat.digits_of_lt 16 10 (by decide) (by decide)]
    rfl
  rw [hexText, hdigits]
  decide

/-- A site with one monitor of user `1`. -/
def oneMonitor : Site :=
  { Site.empty with
    monitors := [{ Monitor.fresh 10 (some 1) "http://a.test/" 0 with title := ['A'] }] }

/-- Its owner cannot publish it in upper case. -/
theorem ownedMonitors_fails_on_upper_case :
    ¬∀ (owner : ℕ) (ids : List String) (s : Site), ids.length ≤ maxMonitorsPerPage →
      ResolvesOwned .hexadecimal owner ids s := by
  intro h
  have hresolves : ResolvesOwned .hexadecimal 1 ["00000000000000000000000A"] oneMonitor :=
    h 1 _ _ (by decide)
  have hspelled := (resolvesOwned_iff (by decide)).1 hresolves
  have hparse : parseHex "00000000000000000000000A".toList = some 10 :=
    parseHex_of_toLower (Eq.trans (by decide) hexText_ten.symm)
  have hdenotes : Denotes .hexadecimal 1 oneMonitor "00000000000000000000000A" :=
    ⟨_, List.mem_singleton_self _, hparse, rfl⟩
  obtain ⟨id, hid⟩ := hspelled (by simpa using hdenotes) _ (List.mem_singleton_self _)
  have hlower := map_toLower_hexText id
  have htext : "00000000000000000000000A".toList = hexText id := hid
  rw [← htext] at hlower
  revert hlower
  decide

/-- A page of user `1` with the id in lower case. -/
theorem ownedMonitors_iff_lower_case :
    ResolvesOwned .hexadecimal 1 ["00000000000000000000000a"] oneMonitor := by
  refine ((ownedMonitors_iff .hexadecimal 1 ["00000000000000000000000a"] (by decide)).1 _).2 ?_
  intro _ x hx
  rw [List.mem_singleton.1 hx]
  exact ⟨10, hexText_ten.symm⟩

end WatchTower
