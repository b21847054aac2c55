import WatchTower.Documents.Unique
import WatchTower.Pages.Publishing

set_option relaxedAutoImplicit false
set_option autoImplicit false

/-!
# The cap on status pages

Any number of create and delete requests interleave. A create counts the pages of its owner, looks
for its slug and inserts the page, in separate queries. That a slug is taken is decided by the
unique index when the page is inserted. Nothing decides the number of pages again: other creates of
the owner can have inserted pages since a create has counted.

## Main definitions

* `WatchTower.PageCall` — a create or delete request; `WatchTower.ServesCalls` — such requests,
  interleaved.
* `WatchTower.SlugsKept`, `WatchTower.PagesKept` — the slugs, and the cap too, after a step.
* `WatchTower.grownSince` — the pages inserted since a create has counted, less those deleted.
* `WatchTower.InsertsUnraced` — a page is inserted only while there are none of these.

## Main results

* `WatchTower.PageQuery.pagesOf_eq` — what a query does to the number of pages.
* `WatchTower.exists_count_add_grownSince` — there are as many pages as a create has counted, and
  those of since then.
* `WatchTower.pagesKept_of_unraced` — the slugs are kept in every interleaving, and the cap where
  pages are only inserted like this.
-/

namespace WatchTower

open Documents Transition Transition.Prog

/-! ## Requests -/

/-- A create or delete request, by an authenticated user. -/
inductive PageCall
  | create (owner : ℕ) (body : Option PageBody)
  | delete (owner : ℕ) (pageId : Text)

/-- As one of the requests of the endpoints. -/
def PageCall.request : PageCall → PageRequest
  | .create owner body => .create owner body
  | .delete owner pageId => .delete owner pageId

variable (rt : PageRuntime)

/-- One query on a live site. A query can fail, but the error of a unique index is only given where
the index decides. -/
def PageQuery (rt : TextRuntime) (o : PageOp) (s : Site) (r : Except Thrown o.Resp)
    (s' : Site) : Prop :=
  ∃ t : Site, t.pages = s.pages ∧ t.nextId = s.nextId ∧
    ((r, s') = execPage rt o t ∨ (s' = t ∧ ∃ e, r = .error e ∧ e ≠ .js duplicateKey))

/-- The steps of a site that serves the given requests: their queries interleave. -/
abbrev ServesCalls {ι : Type} [DecidableEq ι] (calls : ι → PageCall) :=
  SharedStep (Starts rt fun i => (calls i).request) (PageQuery rt.toTextRuntime)

/-- What happens to such a site. -/
abbrev PageEvent (ι : Type) := SharedEvent ι PageOp.Resp Thrown (ApiResponse StatusPage)

/-- A site with its requests. -/
abbrev PageWorld (ι : Type) := Shared ι Site PageOp.Resp Thrown (ApiResponse StatusPage)

/-! ## The law -/

/-- The number of pages of an owner. -/
def pagesOf (owner : ℕ) (s : Site) : ℕ := s.pages.docs.countP (·.userId = owner)

/-- The number of pages with a slug. -/
def pagesAt (slug : Text) (s : Site) : ℕ := s.pages.docs.countP (·.slug = slug)

/-- **The slugs after a step**: no slug has two pages, and when the database has decided about a new
page, by inserting it or by its index, there is one page with the slug. -/
structure SlugsKept {ι : Type} (e : PageEvent ι) (s : Site) : Prop where
  slugs : ∀ slug, pagesAt slug s ≤ 1
  decided : ∀ i owner doc r, e = .call i (.createPage owner doc) r →
    ((∃ page, r = .ok page) ∨ r = .error (.js duplicateKey)) →
    pagesAt (slugSetter rt.toTextRuntime doc.slug) s = 1

/-- No user has more pages than the cap. -/
def CapKept (s : Site) : Prop := ∀ owner, pagesOf owner s ≤ maxPagesPerUser

/-- **The cap and the slugs after a step.** -/
structure PagesKept {ι : Type} (e : PageEvent ι) (s : Site) : Prop extends SlugsKept rt e s where
  cap : CapKept s

/-- What a query adds to the number of pages of an owner: one for an insertion, and one less for a
deletion. -/
def pageChange (owner : ℕ) : (o : PageOp) → Except Thrown o.Resp → ℤ
  | .createPage owner' _, .ok _ => if owner' = owner then 1 else 0
  | .deletePage owner' _, .ok (some _) => if owner' = owner then -1 else 0
  | _, _ => 0

/-- What has been added since request `i` has counted, after an event. -/
def grownAfter {ι : Type} [DecidableEq ι] (i : ι) (owner : ℕ) (n : ℤ) : PageEvent ι → ℤ
  | .start _ _ => n
  | .call j (.countPages owner') (.ok _) => if j = i ∧ owner' = owner then 0 else n
  | .call _ o r => n + pageChange owner o r

/-- **What has been added to the pages of an owner since request `i` has counted them**, by
whichever requests: one for every page inserted, and one less for every page deleted. -/
def grownSince {ι : Type} [DecidableEq ι] (i : ι) (owner : ℕ) (es : List (PageEvent ι)) : ℤ :=
  es.foldl (grownAfter i owner) 0

/-- **A page is inserted only by a request that is not raced**: since it has counted the pages of
its owner, no more pages of the owner have been inserted than deleted. -/
def InsertsUnraced {ι : Type} [DecidableEq ι] (pre : List (PageEvent ι)) : PageEvent ι → Prop
  | .call i (.createPage owner _) (.ok _) => grownSince i owner pre ≤ 0
  | _ => True

instance {ι : Type} [DecidableEq ι] (pre : List (PageEvent ι)) (e : PageEvent ι) :
    Decidable (InsertsUnraced pre e) :=
  match e with
  | .start _ _ => .isTrue trivial
  | .call i (.createPage owner _) (.ok _) =>
    inferInstanceAs (Decidable (grownSince i owner pre ≤ 0))
  | .call _ (.createPage _ _) (.error _) => .isTrue trivial
  | .call _ (.countPages _) _ => .isTrue trivial
  | .call _ (.findBySlug _) _ => .isTrue trivial
  | .call _ (.findOwnedMonitors _ _) _ => .isTrue trivial
  | .call _ (.findPage _ _) _ => .isTrue trivial
  | .call _ (.updatePage _ _ _) _ => .isTrue trivial
  | .call _ (.deletePage _ _) _ => .isTrue trivial

/-! ## What a query does -/

variable {rt} {ι : Type} [DecidableEq ι] {s s' : Site} {o : PageOp} {r : Except Thrown o.Resp}

/-- A query of the requests at hand: no update. -/
def PageOp.IsNoUpdate : PageOp → Prop
  | .updatePage _ _ _ => False
  | _ => True

/-- A page is the only one with its id. -/
lemma countP_isOwned_le_one (pages : Indexed pageIndexes) (owner id : ℕ) :
    pages.docs.countP (·.isOwned owner id) ≤ 1 := by
  have hids : UniqueKey StatusPage.id pages.docs := by
    rw [UniqueKey, List.Nodup, List.pairwise_map]
    exact pages.unique.imp fun hclash hid => by simp [hid] at hclash
  refine countP_le_one_of_uniqueKey hids (k := id) fun p hp => ?_
  rw [StatusPage.isOwned, Bool.and_eq_true] at hp
  exact of_decide_eq_true hp.1

/-- A deletion removes the page that it has found, if it is the owner's. -/
lemma countP_remove_add (pages : Indexed pageIndexes) (owner owner' id : ℕ) :
    (pages.remove (·.isOwned owner' id)).docs.countP (·.userId = owner) +
        (match pages.docs.find? (·.isOwned owner' id) with
          | none => 0
          | some _ => if owner' = owner then 1 else 0) =
      pages.docs.countP (·.userId = owner) := by
  have hsplit := (List.filter_append_perm (·.isOwned owner' id) pages.docs).countP_eq
    (·.userId = owner)
  rw [List.countP_append] at hsplit
  have hremoved : (pages.docs.filter (·.isOwned owner' id)).countP (·.userId = owner) =
      if owner' = owner then pages.docs.countP (·.isOwned owner' id) else 0 := by
    rw [List.countP_filter]
    split_ifs with howner
    · refine List.countP_congr fun p _ => ?_
      simp [StatusPage.isOwned, howner]
    · rw [List.countP_eq_zero]
      intro p _
      simp only [StatusPage.isOwned, Bool.and_eq_true, decide_eq_true_eq, not_and]
      exact fun hp _ hp' => howner (hp'.symm.trans hp)
  have hone := countP_isOwned_le_one pages owner' id
  change (pages.docs.filter (fun p => !p.isOwned owner' id)).countP (·.userId = owner) + _ = _
  cases hfind : pages.docs.find? (·.isOwned owner' id) with
  | none =>
    have hzero := find_eq_none_iff_countP.1 hfind
    rw [hremoved, hzero, ite_self] at hsplit
    dsimp only
    omega
  | some p =>
    have hpos := find_isSome_iff_countP_pos.1 (Option.isSome_of_eq_some hfind)
    dsimp only
    by_cases howner : owner' = owner
    · rw [if_pos howner] at hremoved ⊢
      omega
    · rw [if_neg howner] at hremoved ⊢
      omega

/-- What an operation does to the number of pages. -/
lemma pagesOf_execPage (rt : TextRuntime) (ho : o.IsNoUpdate) (owner : ℕ) (s : Site) :
    (pagesOf owner (execPage rt o s).2 : ℤ) =
      pagesOf owner s + pageChange owner o (execPage rt o s).1 := by
  have hsame : ∀ n : ℕ, (n : ℤ) = n + 0 := fun n => (add_zero _).symm
  cases o with
  | createPage owner' doc =>
    unfold execPage
    dsimp only
    split_ifs with hvalid
    · cases hinsert : s.pages.insert (.created rt s.nextId owner' doc) with
      | none => exact hsame _
      | some pages =>
        dsimp only
        rw [pagesOf, Indexed.docs_insert hinsert, List.countP_append, List.countP_singleton,
          pageChange, pagesOf, StatusPage.created]
        split_ifs <;> simp_all
    · exact hsame _
  | updatePage => exact ho.elim
  | deletePage owner' id =>
    have hremove := countP_remove_add s.pages owner owner' id
    rw [execPage, pagesOf, pagesOf]
    dsimp only
    cases hfind : s.pages.docs.find? (·.isOwned owner' id) with
    | none =>
      rw [hfind] at hremove
      rw [← hremove]
      exact hsame _
    | some page =>
      rw [hfind] at hremove
      dsimp only at hremove ⊢
      rw [pageChange]
      split_ifs at hremove ⊢ with howner
      · omega
      · omega
  | _ => exact hsame _

/-- **What a query does to the number of pages.** -/
theorem PageQuery.pagesOf_eq (h : PageQuery rt.toTextRuntime o s r s') (ho : o.IsNoUpdate)
    (owner : ℕ) : (pagesOf owner s' : ℤ) = pagesOf owner s + pageChange owner o r := by
  obtain ⟨t, hpages, -, hexec | ⟨rfl, e, rfl, -⟩⟩ := h
  · have hr : r = (execPage rt.toTextRuntime o t).1 := congrArg Prod.fst hexec
    have hs' : s' = (execPage rt.toTextRuntime o t).2 := congrArg Prod.snd hexec
    rw [hr, hs', pagesOf_execPage rt.toTextRuntime ho, pagesOf, pagesOf, hpages]
  · rw [pagesOf, pagesOf, hpages]
    cases o <;> exact (add_zero _).symm

/-! ## What a create has counted -/

/-- A request has counted the pages of an owner, and found fewer than the cap. -/
structure CountedBelow (owner : ℕ) (h : List (Answered PageOp.Resp Thrown)) : Prop where
  counted : ∃ n, ⟨.countPages owner, .ok n⟩ ∈ h
  below : ∀ n, ⟨.countPages owner, .ok n⟩ ∈ h → n < maxPagesPerUser

/-- What a request does next: no update, and, if it inserts a page, it has counted fewer pages of
the page's owner than the cap. -/
def CountsFirst (h : List (Answered PageOp.Resp Thrown)) : PageOp → Prop
  | .createPage owner _ => CountedBelow owner h
  | .updatePage _ _ _ => False
  | _ => True

/-- Queries that neither count nor insert nor update. -/
def PageOp.Looks : PageOp → Prop
  | .countPages _ => False
  | .createPage _ _ => False
  | .updatePage _ _ _ => False
  | _ => True

/-- A part of a create that only looks keeps what has been counted. -/
lemma returns_of_looks {α : Type} {owner : ℕ} {h : List (Answered PageOp.Resp Thrown)}
    {p : Pages α} (hp : p.AllCalls PageOp.Looks) (hcounted : CountedBelow owner h) :
    p.Returns CountsFirst (fun h' _ => CountedBelow owner h') h := by
  have hlooks : ∀ (h : List (Answered PageOp.Resp Thrown)) (o : PageOp), o.Looks →
      CountsFirst h o := by
    intro h o ho
    cases o <;> first | exact ho.elim | trivial
  refine Spec.mono (fun h' out hadded a _ => ?_) (hp.spec hlooks)
  obtain ⟨added, rfl, hadded⟩ := hadded
  refine ⟨?_, fun n hn => ?_⟩
  · obtain ⟨n, hn⟩ := hcounted.counted
    exact ⟨n, List.mem_append_left _ hn⟩
  · rcases List.mem_append.1 hn with hn | hn
    · exact hcounted.below n hn
    · exact (hadded _ hn).elim

/-- A pure part looks at nothing. -/
lemma ofExcept_looks {α : Type} (x : Except JsError α) :
    (ofExcept x : Pages α).AllCalls PageOp.Looks := by
  cases x <;> trivial

/-- The lookup of a slug only looks. -/
lemma resolveSlug_looks (requested : Js) (excludeId : Option Text) :
    (resolveSlug rt requested excludeId).AllCalls PageOp.Looks := by
  refine AllCalls.bind (ofExcept_looks _) fun slug => ?_
  split_ifs
  · trivial
  · trivial
  · refine AllCalls.bind (allCalls_await.2 trivial) fun clash => ?_
    cases clash with
    | none => trivial
    | some id =>
      dsimp only
      split_ifs <;> trivial

/-- So does the lookup of the monitors. -/
lemma resolveOwnedMonitors_looks (owner : ℕ) (ids : MonitorIds) :
    (resolveOwnedMonitors rt owner ids).AllCalls PageOp.Looks := by
  unfold resolveOwnedMonitors
  cases ids with
  | absent => trivial
  | other => trivial
  | array ids =>
    dsimp only
    split_ifs
    · trivial
    · refine AllCalls.bind (ofExcept_looks _) fun texts => ?_
      split
      · trivial
      · refine AllCalls.bind (allCalls_await.2 trivial) fun owned => ?_
        split_ifs <;> trivial

/-- **A create counts first**, and inserts nothing if it has counted the cap. -/
lemma createStatusPage_countsFirst (owner : ℕ) (body : Option PageBody) :
    (createStatusPage rt owner body).Returns CountsFirst (fun _ _ => True) [] := by
  cases body with
  | none => exact .fail _
  | some body =>
    refine .ite (fun _ => .fail _) fun _ => ?_
    refine .bind (P := fun h _ => h = []) (returns_ofExcept fun _ _ => rfl) fun h name hnil => ?_
    refine .ite (fun _ => .fail _) fun _ => ?_
    refine .bind (P := fun h n => h = [⟨.countPages owner, .ok n⟩])
      (.await trivial fun n => by rw [hnil, List.nil_append]) fun h n hcounted => ?_
    refine .ite (fun _ => .fail _) fun hroom => ?_
    have hbelow : CountedBelow owner h := by
      refine ⟨⟨n, by rw [hcounted]; exact List.mem_singleton_self _⟩, fun m hm => ?_⟩
      rw [hcounted, List.mem_singleton] at hm
      obtain ⟨⟩ := hm
      exact Nat.lt_of_not_le hroom
    refine .bind (returns_of_looks (resolveSlug_looks _ _) hbelow) fun h slug hbelow => ?_
    refine .bind (returns_of_looks (resolveOwnedMonitors_looks owner _) hbelow)
      fun h monitorIds hbelow => ?_
    refine .bind (P := fun h _ => CountedBelow owner h) ?_ fun h description hbelow => ?_
    · exact .ite (fun _ => returns_ofExcept fun _ _ => hbelow) fun _ => .ret hbelow
    refine .bind (P := fun _ _ => True) (.attempt hbelow fun _ => trivial) fun h created _ => ?_
    split
    · exact .ret trivial
    · exact .fail _
    · exact .fail _

/-- So does every request. -/
lemma request_countsFirst (call : PageCall) :
    (call.request.handler rt).Returns CountsFirst (fun _ _ => True) [] := by
  cases call with
  | create owner body => exact createStatusPage_countsFirst owner body
  | delete owner pageId =>
    change (deleteStatusPage rt owner pageId).Returns CountsFirst (fun _ _ => True) []
    unfold deleteStatusPage
    split
    · exact .fail _
    · refine .bind (P := fun _ _ => True) (.await trivial fun _ => trivial) fun h deleted _ => ?_
      cases deleted with
      | none => exact .fail _
      | some page => exact .ret trivial

variable {calls : ι → PageCall} {es : List (PageEvent ι)} {w w' : PageWorld ι} {e : PageEvent ι}

/-- In every interleaving, the next query of a request is as it should be after its history. -/
lemma countsFirst_of_run (hrun : Run (ServesCalls rt calls) (.idle .empty) es w) {i : ι}
    {k : Except Thrown o.Resp → Pages (ApiResponse StatusPage)}
    (hi : w.todo i = some (.call o k)) : CountsFirst (callsOf i es) o := by
  refine hrun.permits (A := fun _ _ => True) (I := fun _ => CountsFirst)
    (Q := fun _ _ out => ∀ a, out = .ok a → True) ?_ (fun _ _ _ _ _ => trivial) hi
  rintro i s p rfl
  exact request_countsFirst (calls i)

/-- A query after such a history is no update. -/
lemma CountsFirst.isNoUpdate {h : List (Answered PageOp.Resp Thrown)} (ho : CountsFirst h o) :
    o.IsNoUpdate := by
  cases o <;> trivial

/-- A query of the pages of an owner, on its own. -/
lemma PageQuery.count_eq {owner n : ℕ}
    (h : PageQuery rt.toTextRuntime (.countPages owner) s (.ok n) s') : n = pagesOf owner s := by
  obtain ⟨t, hpages, -, hexec | ⟨-, e, herr, -⟩⟩ := h
  · rw [pagesOf, ← hpages]
    exact Except.ok.inj (congrArg Prod.fst hexec)
  · cases herr

/-- **What a create has counted, and what has been added since**, is what there is, in every
interleaving. -/
theorem exists_count_add_grownSince (hrun : Run (ServesCalls rt calls) (.idle .empty) es w) {i : ι}
    {owner : ℕ} (hcounted : ∃ n, ⟨.countPages owner, .ok n⟩ ∈ callsOf i es) :
    ∃ n : ℕ, ⟨.countPages owner, .ok n⟩ ∈ callsOf i es ∧
      (pagesOf owner w.store : ℤ) = n + grownSince i owner es := by
  revert hcounted
  refine hrun.induction_from (P := fun es w => (∃ n, ⟨.countPages owner, .ok n⟩ ∈ callsOf i es) →
    ∃ n : ℕ, ⟨.countPages owner, .ok n⟩ ∈ callsOf i es ∧
      (pagesOf owner w.store : ℤ) = n + grownSince i owner es) (fun ⟨n, h⟩ => by cases h) ?_
  rintro es w e w' hpre ih hstep ⟨n, hn⟩
  rw [grownSince, List.foldl_append, List.foldl_cons, List.foldl_nil, ← grownSince]
  cases hstep with
  | start =>
    rw [callsOf_start] at hn ⊢
    exact ih ⟨n, hn⟩
  | @call j o k r s' hj hquery =>
    have hafter := hquery.pagesOf_eq (countsFirst_of_run hpre hj).isNoUpdate owner
    rcases mem_callsOf_call.1 hn with hbefore | ⟨rfl, hthis⟩
    · obtain ⟨m, hm, hseen⟩ := ih ⟨n, hbefore⟩
      have hkept : ⟨.countPages owner, .ok m⟩ ∈ callsOf i (es ++ [.call j o r]) :=
        mem_callsOf_call.2 (.inl hm)
      cases o with
      | countPages owner' =>
        cases r with
        | error err => exact ⟨m, hkept, by rw [hafter, hseen, add_assoc]; rfl⟩
        | ok m' =>
          rw [grownAfter]
          split_ifs with hagain
          · -- It has counted once more.
            obtain ⟨rfl, rfl⟩ := hagain
            refine ⟨m', mem_callsOf_call.2 (.inr ⟨rfl, rfl⟩), ?_⟩
            rw [hafter, hquery.count_eq]
            rfl
          · exact ⟨m, hkept, by rw [hafter, hseen]; exact add_zero _⟩
      | _ => exact ⟨m, hkept, by rw [hafter, hseen, add_assoc]; rfl⟩
    · obtain ⟨rfl, hr⟩ := Sigma.mk.inj hthis
      obtain rfl := eq_of_heq hr
      refine ⟨n, hn, ?_⟩
      rw [grownAfter, if_pos ⟨rfl, rfl⟩, hafter, hquery.count_eq]
      rfl

/-! ## Slugs -/

/-- No slug has two pages. -/
lemma pagesAt_le_one (slug : Text) (s : Site) : pagesAt slug s ≤ 1 := by
  have hslugs : UniqueKey StatusPage.slug s.pages.docs := by
    rw [UniqueKey, List.Nodup, List.pairwise_map]
    exact s.pages.unique.imp fun hclash hslug => by simp [hslug] at hclash
  exact countP_le_one_of_uniqueKey hslugs (k := slug) fun p hp => of_decide_eq_true hp

/-- The ids that have been given out. -/
def IdsGiven (s : Site) : Prop := ∀ p ∈ s.pages, p.id < s.nextId

/-- An operation gives out the next id, if any. -/
lemma idsGiven_execPage (rt : TextRuntime) (o : PageOp) (h : IdsGiven s) :
    IdsGiven (execPage rt o s).2 := by
  cases o with
  | createPage owner doc =>
    unfold execPage
    dsimp only
    split_ifs with hvalid
    · cases hinsert : s.pages.insert (.created rt s.nextId owner doc) with
      | none => exact h
      | some pages =>
        intro p hp
        rcases (Indexed.mem_insert hinsert).1 hp with hp | rfl
        · exact (h p hp).trans (Nat.lt_succ_self _)
        · exact Nat.lt_succ_self _
    · exact h
  | updatePage owner id patch =>
    unfold execPage
    dsimp only
    split_ifs with hvalid
    · cases hfind : s.pages.docs.find? (·.isOwned owner id) with
      | none => exact h
      | some page =>
        dsimp only
        cases hreplace : s.pages.replace (page.patch rt patch) with
        | none => exact h
        | some pages =>
          intro p hp
          rcases (Indexed.mem_replace hreplace).1 hp with ⟨hp, -⟩ | ⟨rfl, -⟩
          · exact h p hp
          · exact h page (List.mem_of_find?_eq_some hfind)
    · exact h
  | deletePage owner id => exact fun p hp => h p (Indexed.mem_remove.1 hp).1
  | _ => exact h

/-- So in every interleaving the next id is a new one. -/
lemma idsGiven_of_run (hrun : Run (ServesCalls rt calls) (.idle .empty) es w) :
    IdsGiven w.store := by
  refine hrun.store_invariant (A := PageOp.WritesResolved rt) (P := IdsGiven) ?_ ?_ ?_
  · rintro i s p - rfl
    exact (calls i).request.handler_writes rt
  · rintro o s r s' - hs ⟨t, hpages, hnext, hquery⟩
    have ht : IdsGiven t := by rwa [IdsGiven, hpages, hnext]
    rcases hquery with hexec | ⟨rfl, -⟩
    · have hs' : s' = (execPage rt.toTextRuntime o t).2 := congrArg Prod.snd hexec
      exact hs' ▸ idsGiven_execPage rt.toTextRuntime o ht
    · exact ht
  · exact fun p hp => absurd hp Indexed.not_mem_empty

/-- **A new page that the database has decided about** leaves one page with its slug. -/
lemma PageQuery.pagesAt_eq_one {owner : ℕ} {doc : NewPage} {r : Except Thrown StatusPage}
    (hids : IdsGiven s) (h : PageQuery rt.toTextRuntime (.createPage owner doc) s r s')
    (hdecided : (∃ page, r = .ok page) ∨ r = .error (.js duplicateKey)) :
    pagesAt (slugSetter rt.toTextRuntime doc.slug) s' = 1 := by
  have hle := pagesAt_le_one (slugSetter rt.toTextRuntime doc.slug) s'
  have hpos : 0 < pagesAt (slugSetter rt.toTextRuntime doc.slug) s' := by
    rw [pagesAt, List.countP_pos_iff]
    obtain ⟨t, hpages, hnext, hexec | ⟨-, e, rfl, hne⟩⟩ := h
    · have hr : r = (execPage rt.toTextRuntime (.createPage owner doc) t).1 :=
        congrArg Prod.fst hexec
      have hs' : s' = (execPage rt.toTextRuntime (.createPage owner doc) t).2 :=
        congrArg Prod.snd hexec
      rw [hs']
      rw [hr] at hdecided
      unfold execPage at hdecided ⊢
      dsimp only at hdecided ⊢
      split_ifs at hdecided ⊢ with hvalid
      · cases hinsert : t.pages.insert (.created rt.toTextRuntime t.nextId owner doc) with
        | none =>
          obtain ⟨p, hp, hclash⟩ := Indexed.exists_clash_of_insert hinsert
          refine ⟨p, hp, ?_⟩
          have hid : p.id ≠ t.nextId := by
            rw [hnext]
            exact (hids p (hpages ▸ hp)).ne
          rcases Bool.or_eq_true_iff.1 hclash with hsame | hsame
          · exact absurd (of_decide_eq_true hsame) hid
          · exact decide_eq_true (of_decide_eq_true hsame)
        | some pages =>
          exact ⟨_, (Indexed.mem_insert hinsert).2 (.inr rfl), decide_eq_true rfl⟩
      · rcases hdecided with ⟨page, hpage⟩ | herr
        · cases hpage
        · have hcode : pageValidationError.code = duplicateKey.code :=
            congrArg JsError.code (Thrown.js.inj (Except.error.inj herr))
          cases hcode
    · rcases hdecided with ⟨page, hpage⟩ | herr
      · cases hpage
      · exact absurd (Except.error.inj herr) hne
  omega

/-- What one step does to the slugs. -/
lemma slugsKept_step (hrun : Run (ServesCalls rt calls) (.idle .empty) es w)
    (hstep : ServesCalls rt calls w e w') : SlugsKept rt e w'.store := by
  refine ⟨fun slug => pagesAt_le_one slug _, ?_⟩
  rintro i owner doc r rfl hdecided
  cases hstep with
  | call hi hquery => exact hquery.pagesAt_eq_one (idsGiven_of_run hrun) hdecided

/-! ## The cap -/

/-- What one step does to the number of pages, unless it is raced. -/
lemma capKept_step (hrun : Run (ServesCalls rt calls) (.idle .empty) es w) (hcap : CapKept w.store)
    (hstep : ServesCalls rt calls w e w') (hunraced : InsertsUnraced es e) :
    CapKept w'.store := by
  intro owner
  have hle := hcap owner
  cases hstep with
  | start => exact hle
  | @call i o k r s' hi hquery =>
    have hfirst := countsFirst_of_run hrun hi
    have hafter := hquery.pagesOf_eq hfirst.isNoUpdate owner
    have hkept : pageChange owner o r ≤ 0 → pagesOf owner s' ≤ maxPagesPerUser := fun h => by omega
    cases o with
    | createPage owner' doc =>
      cases r with
      | error err => exact hkept le_rfl
      | ok page =>
        by_cases howner : owner' = owner
        · subst howner
          -- It has counted fewer than the cap, and there are no more than that.
          obtain ⟨n, hn, hseen⟩ := exists_count_add_grownSince hrun hfirst.counted
          have hbelow := hfirst.below n hn
          have hgrown : grownSince i owner' es ≤ 0 := hunraced
          rw [pageChange, if_pos rfl] at hafter
          change pagesOf owner' s' ≤ maxPagesPerUser
          omega
        · refine hkept ?_
          rw [pageChange, if_neg howner]
    | deletePage owner' id =>
      refine hkept ?_
      cases r with
      | error err => exact le_rfl
      | ok found =>
        cases found with
        | none => exact le_rfl
        | some page =>
          rw [pageChange]
          split_ifs <;> decide
    | _ => exact hkept le_rfl

/-- **The slugs are kept in every interleaving, and the cap where no insertion is raced.**

**Proof sketch.** A create that inserts has counted fewer pages than the cap. If since then no more
pages of its owner have been inserted than deleted, there are still fewer. The slugs are kept by the
unique index. -/
theorem pagesKept_of_unraced (rt : PageRuntime) {ι : Type} [DecidableEq ι] (calls : ι → PageCall)
    (es : List (PageEvent ι)) :
    AllStepsAfter (ServesCalls rt calls) (fun _ _ e w' => SlugsKept rt e w'.store)
        (.idle .empty) es ∧
      (AllStepsAfter (ServesCalls rt calls) (fun pre _ e _ => InsertsUnraced pre e)
          (.idle .empty) es →
        AllStepsAfter (ServesCalls rt calls) (fun _ _ e w' => PagesKept rt e w'.store)
          (.idle .empty) es) := by
  refine ⟨fun pre e post w w' _ hrun hstep => slugsKept_step hrun hstep, fun hunraced => ?_⟩
  intro pre e post w w' heq hrun hstep
  have hkeep : ∀ pre a e b, Run (ServesCalls rt calls) (.idle .empty) pre a → CapKept a.store →
      ServesCalls rt calls a e b → InsertsUnraced pre e → CapKept b.store :=
    fun _ _ _ _ => capKept_step
  have hcap : CapKept w.store :=
    invariant_of_allStepsAfter hkeep (fun owner => Nat.zero_le _) hunraced heq hrun
  exact ⟨slugsKept_step hrun hstep,
    capKept_step hrun hcap hstep (hunraced pre e post w w' heq hrun hstep)⟩

/-- Create requests of one user, with different names. -/
def letterCalls (k : ℕ) : PageCall :=
  .create 1 (some { name := .str (.ofList [Char.ofNat (97 + k)]) })

/-- What happens when their queries are scheduled in this order. -/
def letterTrace (schedule : List ℕ) : List (PageEvent ℕ) :=
  (Shared.idle Site.empty).trace (execPage .ascii)
    (fun k => (letterCalls k).request.handler .sample) schedule

/-- The site after that. -/
def letterOutcome (schedule : List ℕ) : PageWorld ℕ :=
  schedule.foldl (Shared.advance (execPage .ascii) fun k => (letterCalls k).request.handler .sample)
    (.idle .empty)

/-- It is a run. -/
lemma run_letterTrace (schedule : List ℕ) : Run (ServesCalls PageRuntime.sample letterCalls)
    (.idle .empty) (letterTrace schedule) (letterOutcome schedule) := by
  have hH : ∀ o s, PageQuery .ascii o s (execPage .ascii o s).1 (execPage .ascii o s).2 :=
    fun o s => ⟨s, rfl, rfl, .inl rfl⟩
  have hstarts : ∀ (k : ℕ) (s : Site), Starts .sample (fun k => (letterCalls k).request) k s
      ((letterCalls k).request.handler .sample) := fun k s => rfl
  exact run_schedule hH hstarts schedule (.idle .empty)

/-- A second request after the first has ended, which is not raced. -/
theorem pagesKept_in_turn : pagesOf 1 (letterOutcome [0, 0, 0, 0, 1, 1, 1, 1]).store = 2 ∧
    AllStepsAfter (ServesCalls PageRuntime.sample letterCalls)
      (fun _ _ e w' => PagesKept PageRuntime.sample e w'.store) (.idle .empty)
      (letterTrace [0, 0, 0, 0, 1, 1, 1, 1]) := by
  have hunraced : ∀ k : Fin (letterTrace [0, 0, 0, 0, 1, 1, 1, 1]).length,
      InsertsUnraced ((letterTrace [0, 0, 0, 0, 1, 1, 1, 1]).take k)
        ((letterTrace [0, 0, 0, 0, 1, 1, 1, 1]).get k) := by decide +kernel
  refine ⟨by decide +kernel, (pagesKept_of_unraced .sample letterCalls _).2 ?_⟩
  intro pre e post w w' heq _ _
  have hk := hunraced ⟨pre.length, by simp [heq]⟩
  simpa [heq] using hk

/-- The twenty-six all count before the first one inserts. -/
def countFirstSchedule : List ℕ := (List.replicate 4 (List.range 26)).flatten

/-- The user has twenty-six pages then. -/
theorem letterCalls_exceed_cap :
    ¬∀ es, AllStepsAfter (ServesCalls PageRuntime.sample letterCalls)
      (fun _ _ e w' => PagesKept PageRuntime.sample e w'.store) (.idle .empty) es := by
  intro h
  have hcount : pagesOf 1 (letterOutcome countFirstSchedule).store = 26 := by decide +kernel
  have hrun := run_letterTrace countFirstSchedule
  rcases List.eq_nil_or_concat (letterTrace countFirstSchedule) with hnil | ⟨pre, e, hlast⟩
  · rw [hnil, run_nil_iff] at hrun
    rw [← hrun] at hcount
    cases hcount
  · rw [hlast, List.concat_eq_append] at hrun
    obtain ⟨w, hpre, hstep⟩ := run_append_iff.1 hrun
    have hcap := (h _ pre e [] w _ rfl hpre (run_singleton_iff.1 hstep)).cap 1
    rw [hcount] at hcap
    exact absurd hcap (by decide)

end WatchTower
