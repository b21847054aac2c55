import WatchTower.Pages.PublicPage
import WatchTower.Pages.Retention
import WatchTower.Scheduler.FlapDetection
import WatchTower.Scheduler.Interrupted
import WatchTower.Scheduler.Orphans

set_option relaxedAutoImplicit false
set_option autoImplicit false

/-!
# What visitors are told

A public page is computed from documents that checks have written: the status of a monitor, which
is debounced, the time of its last check, and the rows of the log that have not expired. What it
shows of a monitor is a function of the checks that the monitor has had.

## Main definitions

* `WatchTower.JudgedCheck`, `WatchTower.checksOf` — the checks of a monitor in a run.
* `WatchTower.serviceReport` — what to tell of a monitor that has had these checks.
* `WatchTower.Site.Shows` — the page and the scheduler work on the same database.
* `WatchTower.VisitorTold` — a page that is shown tells of the checks.
* `WatchTower.Documented` — the document of a monitor fits its checks.

## Main results

* `WatchTower.WrittenDown.step` — every step of the scheduler and of the owners keeps the documents
  and the log in line with the checks.
* `WatchTower.visitorTold_of_run` — after every run, what is shown is what was checked.
-/

namespace WatchTower

open Documents Transition

/-! ## The checks of a run -/

/-- A check, with the thresholds that it was judged by. -/
structure JudgedCheck extends CheckSample where
  /-- The failure threshold. -/
  failureThreshold : ℕ
  /-- The success threshold. -/
  successThreshold : ℕ

/-- What flap detection sees of it. -/
def JudgedCheck.judged (c : JudgedCheck) : Hysteresis.Sample Status :=
  ⟨c.status, c.failureThreshold, c.successThreshold⟩

/-- A check of a monitor with this document. -/
def judgedCheck (m : Monitor) (result : CheckResult) (now : Time) : JudgedCheck where
  status := result.status
  latency := some result.responseTime
  timestamp := now
  failureThreshold := failureThresholdOf m
  successThreshold := successThresholdOf m

/-- What an event does to check a monitor. -/
def checkOf (id : ℕ) : DeletingEvent → Option JudgedCheck
  | .works (.check c m result _) =>
    if c.id = id then some (judgedCheck m result c.clock.now) else none
  | _ => none

/-- The checks of a monitor in a run, oldest first. -/
def checksOf (id : ℕ) (es : List DeletingEvent) : List JudgedCheck := es.filterMap (checkOf id)

/-! ## What to tell of them -/

/-- The state of the hysteresis machine after some checks. -/
def debounced (checks : List JudgedCheck) : Hysteresis.State Status :=
  checks.foldl (fun s c => Hysteresis.step isDown s c.judged) Hysteresis.init

/-- The share of successful checks. -/
def uptimeOf (checks : List CheckSample) : Option ℚ :=
  if checks = [] then none
  else some (reportedUptime (checks.countP (·.status = .up)) checks.length)

/-- The checks of the last `ms` milliseconds. -/
def lastChecks (checks : List JudgedCheck) (now ms : Time) : List CheckSample :=
  (checks.map (·.toCheckSample)).filter (now - ms ≤ ·.timestamp)

/-- **What to tell of a monitor** that has had these checks: whether it is down, debounced; when it
was last checked; and how many of its checks have succeeded. -/
def serviceReport (title : Text) (paused : Bool) (checks : List JudgedCheck) (now : Time) :
    PublicService where
  name := title
  status := if paused then .paused else .of (some (if (debounced checks).high then .down else .up))
  lastCheckedAt := checks.getLast?.map (·.timestamp)
  uptime24h := uptimeOf (lastChecks checks now window24h)
  uptime7d := uptimeOf (lastChecks checks now window7d)
  uptime30d := uptimeOf (lastChecks checks now window30d)
  avgResponseMs := (average (upLatencies (lastChecks checks now window24h))).map round

/-- The site of the public pages shows the database of the scheduler: the same monitors, and the
rows of the log that are left. -/
structure Site.Shows (parsed : Option ℚ) (site : Site) (db : Db) (now : Time) : Prop where
  monitors : ∀ id, (site.monitors.find? (·.id = id)).map (·.toMonitor) = db.monitors id
  logs : ∃ start es log, Run (LogStep parsed) ⟨[], [], start⟩ es log ∧ log.clock < now ∧
    log.history = db.logs.map LogRow.document ∧ log.docs = site.logs.map LogRow.document

/-- A page that is shown tells of each monitor on it what its checks have found, and is degraded
exactly when one of them that is not paused has an ongoing incident. -/
structure VisitorTold (site : Site) (es : List DeletingEvent) (db : Db) (now : Time)
    (page : StatusPage) (shown : PublicPage) : Prop where
  services : shown.services = (populate site page).map fun m =>
    serviceReport m.title (m.active = some false) (checksOf m.id es) now
  overall : shown.overall = .degraded ↔
    ∃ m ∈ populate site page, m.active ≠ some false ∧ 0 < ongoingCount db m.id

variable {env : CheckEnv} {s s' : DeletingWorld} {es : List DeletingEvent} {id : ℕ} {m : Monitor}
  {checks : List JudgedCheck} {now : Time}

/-! ## The documents -/

/-- The document of a monitor that has had these checks. -/
structure Documented (m : Monitor) (checks : List JudgedCheck) : Prop where
  represents : Represents m (debounced checks)
  status : m.status = some (confirmedOf m)
  lastChecked : m.lastChecked = checks.getLast?.map (·.timestamp)

/-- A fresh monitor has had none. -/
lemma documented_fresh (id : ℕ) (userId : Option ℕ) (url : String) (createdAt : Time) :
    Documented (.fresh id userId url createdAt) [] :=
  ⟨represents_fresh id userId url createdAt, rfl, rfl⟩

/-- An edit is no check. -/
lemma Documented.edit (h : Documented m checks) (e : OwnerEdit) : Documented (m.edit e) checks :=
  ⟨h.represents.edit e, h.status, h.lastChecked⟩

/-- One more check. -/
lemma Documented.set (h : Documented m checks) {cfg : SchedulerConfig} {verdict : BreakerVerdict}
    {result : CheckResult} (hcasts : (checkUpdate cfg m verdict result now).casts = true) :
    Documented (m.set (checkUpdate cfg m verdict result now))
      (checks ++ [judgedCheck m result now]) := by
  refine ⟨?_, ?_, ?_⟩
  · rw [debounced, List.foldl_concat]
    exact h.represents.set cfg verdict now
  · change ((checkUpdate cfg m verdict result now).status <|> m.status) =
      some (((checkUpdate cfg m verdict result now).status <|> m.status).getD .up)
    rw [h.status]
    cases (checkUpdate cfg m verdict result now).status <;> rfl
  · have hvalid : (newDate now).isSome = true := by
      simp only [MonitorUpdate.casts, Bool.and_eq_true] at hcasts
      exact hcasts.1.1.1
    have hrange : -maxTime ≤ now ∧ now ≤ maxTime := by
      by_contra hnot
      rw [newDate, if_neg hnot] at hvalid
      cases hvalid
    rw [List.getLast?_concat]
    exact if_pos hrange

/-! ## The world -/

/-- A check adds its row to the log, and no other. -/
lemma logs_of_runCheck {ext : External} {db db' : Db} {verdict : BreakerVerdict}
    {clock : CheckClock} {result : CheckResult} {a : Option IncidentEvent}
    (h : (runCheck env m verdict clock).run (exec ext) db = (.ok (result, a), db')) :
    db'.logs = db.logs ++ [logRow m result clock.now] := by
  obtain ⟨hresult, hcasts, -⟩ := run_runCheck_of_ok ext h
  rw [run_runCheck_of_casts ext hresult rfl hcasts] at h
  have hkeeps := (transitionIncident_keepsRecords m (checkUpdate env.config m verdict result
    clock.now) result clock.incidentAt).run_invariant (exec ext) (exec_keepsRecords ext
      (recorded db m (checkUpdate env.config m verdict result clock.now)
        (logRow m result clock.now))) ⟨rfl, rfl⟩
  split at h
  · rename_i a' db'' hrun
    obtain rfl : db'' = db' := (Prod.mk.inj h).2
    rw [hrun] at hkeeps
    exact hkeeps.2
  · cases (Prod.mk.inj h).1

/-- What is written of a monitor is what its checks have found. -/
structure WrittenDown (es : List DeletingEvent) (s : DeletingWorld) : Prop where
  kept : OutagesKept s
  absent : ∀ id, s.world.db.monitors id = none → s.deleted id = none → checksOf id es = []
  logs : ∀ id, (logsOf s.world.db id).map LogRow.sample = (checksOf id es).map (·.toCheckSample)
  documents : ∀ id m, s.world.db.monitors id = some m → Documented m (checksOf id es)

/-- The checks of a longer run. -/
lemma checksOf_concat (id : ℕ) (es : List DeletingEvent) (e : DeletingEvent) :
    checksOf id (es ++ [e]) = checksOf id es ++ (checkOf id e).toList := by
  rw [checksOf, List.filterMap_append, List.filterMap_cons, List.filterMap_nil, checksOf]
  cases checkOf id e <;> rfl

/-- An event that is no check of the monitor. -/
lemma checksOf_concat_of_none {e : DeletingEvent} (h : checkOf id e = none)
    (es : List DeletingEvent) : checksOf id (es ++ [e]) = checksOf id es := by
  rw [checksOf_concat, h, Option.toList_none, List.append_nil]

/-- In the empty world nothing has been checked. -/
lemma writtenDown_empty (users : ℕ → Bool) : WrittenDown [] (.intact (.empty users)) where
  kept := outagesKept_empty users
  absent := fun _ _ _ => rfl
  logs := fun _ => rfl
  documents := by simp [DeletingWorld.intact, World.empty]

/-- The document of one monitor is written, and fits the checks of that monitor. -/
lemma WrittenDown.write {w w' : World} {deleted : ℕ → Option Monitor} {e : DeletingEvent}
    (hs : WrittenDown es ⟨w, deleted⟩) (hkept : OutagesKept ⟨w', deleted⟩)
    (hmon : w'.db.monitors = Function.update w.db.monitors id (some m))
    (hself : Documented m (checksOf id (es ++ [e])))
    (hne : ∀ k, k ≠ id → checksOf k (es ++ [e]) = checksOf k es)
    (hlogs : ∀ k, (logsOf w'.db k).map LogRow.sample =
      (checksOf k (es ++ [e])).map (·.toCheckSample)) :
    WrittenDown (es ++ [e]) ⟨w', deleted⟩ := by
  refine ⟨hkept, fun k hk hkd => ?_, hlogs, fun k m' hk => ?_⟩
  · change w'.db.monitors k = none at hk
    rw [hmon] at hk
    by_cases hki : k = id
    · subst hki
      simp at hk
    · rw [Function.update_of_ne hki] at hk
      rw [hne k hki]
      exact hs.absent k hk hkd
  · change w'.db.monitors k = some m' at hk
    rw [hmon] at hk
    by_cases hki : k = id
    · subst hki
      rw [Function.update_self, Option.some.injEq] at hk
      exact hk ▸ hself
    · rw [Function.update_of_ne hki] at hk
      rw [hne k hki]
      exact hs.documents k m' hk

/-- The log after a check. -/
lemma logsOf_concat {db db' : Db} {row : LogRow} (h : db'.logs = db.logs ++ [row]) (k : ℕ) :
    logsOf db' k = logsOf db k ++ if row.monitorId = k then [row] else [] := by
  simp only [logsOf, h, List.filter_append, List.filter_singleton, Bool.cond_decide]

/-- **Every step keeps the documents and the log in line with the checks.** -/
theorem WrittenDown.step {e : DeletingEvent} (hs : WrittenDown es s)
    (h : DeletingStep env s e s') : WrittenDown (es ++ [e]) s' := by
  have hkept := hs.kept.step h
  cases h with
  | @delete w deleted userId id m hm howner =>
    have hgone : ((OwnerRequest.delete userId id).write w.db).monitors id = none :=
      (hkept.deleted id m (Function.update_self id _ _)).1
    have hother : ∀ k, k ≠ id →
        ((OwnerRequest.delete userId id).write w.db).monitors k = w.db.monitors k :=
      fun k hki => Function.update_of_ne hki _ _
    refine ⟨hkept, fun k hk hkd => ?_, fun k => ?_, fun k m' hk => ?_⟩
    all_goals rw [checksOf_concat_of_none rfl]
    · by_cases hki : k = id
      · subst hki
        exact absurd hkd (by simp)
      · exact hs.absent k ((hother k hki).symm.trans hk)
          ((Function.update_of_ne hki _ _).symm.trans hkd)
    · exact hs.logs k
    · by_cases hki : k = id
      · subst hki
        exact absurd (hgone.symm.trans hk) (by simp)
      · exact hs.documents k m' ((hother k hki).symm.trans hk)
  | @works w w' deleted e hstep hfresh =>
    cases e with
    | create id userId url createdAt =>
      cases hstep with
      | create hnone =>
        have hnothing := hs.absent id hnone (hfresh id userId url createdAt rfl)
        refine hs.write hkept rfl ?_ (fun k _ => checksOf_concat_of_none rfl es) fun k => ?_
        · rw [checksOf_concat_of_none rfl, hnothing]
          exact documented_fresh id userId url createdAt
        · rw [checksOf_concat_of_none rfl]
          exact hs.logs k
    | edit id o =>
      cases hstep with
      | edit hm =>
        rename_i m
        refine hs.write hkept rfl ?_ (fun k _ => checksOf_concat_of_none rfl es) fun k => ?_
        · rw [checksOf_concat_of_none rfl]
          exact (hs.documents id m hm).edit o
        · rw [checksOf_concat_of_none rfl]
          exact hs.logs k
    | check c m result transition =>
      have hc := hstep.checked hs.kept.keyed
      have hlogs : w'.db.logs = w.db.logs ++ [logRow m result c.clock.now] := by
        cases hstep with
        | check hm hdue hadm hclock hrun => exact logs_of_runCheck hrun
      have hself : checkOf c.id (.works (.check c m result transition)) =
          some (judgedCheck m result c.clock.now) := if_pos rfl
      have hother : ∀ k, c.id ≠ k → checkOf k (.works (.check c m result transition)) = none :=
        fun k hk => if_neg hk
      refine hs.write hkept hc.monitors ?_ (fun k hk => ?_) fun k => ?_
      · rw [checksOf_concat, hself]
        exact (hs.documents _ _ hc.loaded).set hc.casts
      · exact checksOf_concat_of_none (hother k (Ne.symm hk)) es
      · rw [logsOf_concat hlogs, List.map_append, hs.logs k, checksOf_concat, List.map_append]
        congr 1
        have hrow : (logRow m result c.clock.now).monitorId = c.id := hc.id_eq
        by_cases hk : c.id = k
        · rw [← hk, hself, if_pos hrow]
          rfl
        · rw [hother k hk, if_neg (hrow ▸ hk)]
          rfl

/-! ## The windows -/

/-- The entry of a window, for the checks in it. -/
lemma ofBucket_groupStage (rows : List CheckSample) (start : Time) :
    (UptimeWindow.ofBucket (groupStage rows) start).uptime = uptimeOf rows ∧
    (UptimeWindow.ofBucket (groupStage rows) start).avgLatencyMs =
      (average (upLatencies rows)).map round := by
  rw [groupStage, uptimeOf]
  split_ifs with hnil
  · subst hnil
    exact ⟨rfl, rfl⟩
  · exact ⟨if_pos (List.length_pos_iff.2 hnil), rfl⟩

/-- The rows of the log in a window are the checks in it. -/
lemma matchedRows_filter {db : Db}
    (hlogs : (logsOf db id).map LogRow.sample = checks.map (·.toCheckSample)) (key : WindowKey) :
    (matchedRows db.logs id now).filter (now - key.ms ≤ ·.timestamp) =
      lastChecks checks now key.ms := by
  have himp : ∀ row : LogRow, decide (now - key.ms ≤ row.timestamp) = true →
      decide (now - window30d ≤ row.timestamp) = true :=
    fun row hrow =>
      decide_eq_true ((sub_le_sub_left key.ms_le_month now).trans (of_decide_eq_true hrow))
  rw [lastChecks, ← hlogs, logsOf, matchedRows, List.filter_map, List.filter_map]
  congr 1
  refine (filter_filter_of_imp himp (fun row => decide (row.monitorId = id)) db.logs).trans ?_
  rw [List.filter_filter]
  exact List.filter_congr fun row _ => Bool.and_comm _ _

/-- **A window that is shown** is that of the checks in it. -/
lemma entry_of_shows {parsed : Option ℚ} {site : Site} {db : Db} (hsite : site.Shows parsed db now)
    (hdays : 30 ≤ logRetentionDays parsed)
    (hlogs : (logsOf db id).map LogRow.sample = checks.map (·.toCheckSample)) (key : WindowKey) :
    ((getUptimeWindows site.logs id now).entry key).uptime =
      uptimeOf (lastChecks checks now key.ms) ∧
    ((getUptimeWindows site.logs id now).entry key).avgLatencyMs =
      (average (upLatencies (lastChecks checks now key.ms))).map round := by
  obtain ⟨start, es, log, hrun, hclock, hhistory, hdocs⟩ := hsite.logs
  have hkey : (key.days : ℚ) ≤ logRetentionDays parsed := by
    refine le_trans ?_ hdays
    cases key <;> norm_num [WindowKey.days]
  have heq := entry_eq_of_run hkey hrun hclock id
  rw [hhistory, hdocs, getUptimeWindows_document, getUptimeWindows_document] at heq
  have hfacet : (getUptimeWindows db.logs id now).entry key =
      .ofBucket (groupStage (lastChecks checks now key.ms)) (now - key.ms) := by
    rw [← matchedRows_filter hlogs key]
    cases key <;> rfl
  rw [heq, hfacet]
  exact ofBucket_groupStage _ _

/-! ## The page -/

section Shown

variable {rt : TextRuntime} {parsed : Option ℚ} {site : Site} {page : StatusPage} {db : Db}
  {m : TitledMonitor}

/-- A monitor on the page is in the database of the scheduler. -/
lemma Site.Shows.document (hsite : site.Shows parsed db now) (hm : m ∈ populate site page) :
    db.monitors m.id = some m.toMonitor := by
  obtain ⟨id, -, hfind⟩ := List.mem_filterMap.1 hm
  have hid := List.find?_some hfind
  obtain rfl : m.id = id := of_decide_eq_true hid
  rw [← hsite.monitors, hfind]
  rfl

/-- **A service that is shown** is the one to report. -/
lemma WrittenDown.publicService_eq (hs : WrittenDown es s)
    (hsite : site.Shows parsed s.world.db now) (hdays : 30 ≤ logRetentionDays parsed)
    (hm : m ∈ populate site page) : publicService site now m =
      serviceReport m.title (m.active = some false) (checksOf m.id es) now := by
  have hdoc := hs.documents _ _ (hsite.document hm)
  obtain ⟨hday, hlatency⟩ := entry_of_shows hsite hdays (hs.logs m.id) .day
  have hweek := (entry_of_shows hsite hdays (hs.logs m.id) .week).1
  have hmonth := (entry_of_shows hsite hdays (hs.logs m.id) .month).1
  have hstatus : m.status = some (if (debounced (checksOf m.id es)).high then .down else .up) := by
    rw [hdoc.status, hdoc.represents.high]
    cases confirmedOf m.toMonitor <;> rfl
  rw [publicService, serviceReport, ← hstatus, ← hdoc.lastChecked]
  simp only [decide_eq_true_eq]
  rw [PublicService.mk.injEq]
  exact ⟨rfl, rfl, rfl, hday, hweek, hmonth, hlatency⟩

/-- **The page is degraded** exactly when there is an outage on it. -/
lemma WrittenDown.overall_iff (hs : WrittenDown es s) (hsite : site.Shows parsed s.world.db now) :
    (publicPage site now page).overall = .degraded ↔
      ∃ m ∈ populate site page, m.active ≠ some false ∧ 0 < ongoingCount s.world.db m.id := by
  have hany : (publicPage site now page).overall = .degraded ↔
      ∃ m ∈ populate site page, (publicService site now m).status = .of (some .down) := by
    simp only [publicPage, List.any_map, List.any_eq_true, Function.comp_apply, decide_eq_true_eq,
      ite_eq_left_iff, not_exists, not_and, reduceCtorEq, imp_false, not_forall, not_not,
      exists_prop]
  rw [hany]
  refine exists_congr fun m => and_congr_right fun hm => ?_
  have hdoc := hsite.document hm
  have hdown : 0 < ongoingCount s.world.db m.id ↔ m.status = some .down := by
    rw [hs.kept.present _ _ hdoc, ongoingFor, (hs.documents _ _ hdoc).status]
    cases confirmedOf m.toMonitor <;> simp
  rw [hdown, publicService]
  by_cases hpaused : m.active = some false
  · simp [hpaused]
  · simp [hpaused]

/-- **What visitors are told is what was checked.** After every run of checks, with any verdicts and
thresholds that change, and of creates, edits and deletes by the owners, the answer to a visit
reports the checks of each monitor on the page, while the log is kept for thirty days. -/
theorem visitorTold_of_run {users : ℕ → Bool}
    (h : Run (DeletingStep env) (.intact (.empty users)) es s)
    (hsite : site.Shows parsed s.world.db now) (hdays : 30 ≤ logRetentionDays parsed)
    {slug : Js} {answer : ApiResponse PublicPage}
    (hanswer : getPublicStatusPage rt site slug now = .ok answer) :
    ∃ text page, slugify rt slug = .ok text ∧ findPublicPage rt site text = some page ∧
      VisitorTold site es s.world.db now page answer.data := by
  have hs : WrittenDown es s :=
    h.induction_from (writtenDown_empty users) fun _ _ _ _ _ hs hstep => hs.step hstep
  rw [getPublicStatusPage] at hanswer
  cases htext : slugify rt slug with
  | error err => simp [htext] at hanswer
  | ok text =>
    rw [htext] at hanswer
    dsimp only at hanswer
    split at hanswer
    · cases hanswer
    · rename_i page hpage
      obtain rfl := Except.ok.inj hanswer
      refine ⟨text, page, rfl, hpage, ?_, hs.overall_iff hsite⟩
      exact List.map_congr_left fun m hm => hs.publicService_eq hsite hdays hm

end Shown

/-- A public page that lists the monitor `0`. -/
def listingPage : StatusPage := ⟨0, 7, ['S'], ['s'], [], [0], true⟩

/-- A site with that page. -/
def siteOf (m : Monitor) (logs : List LogRow) : Site where
  pages := ⟨[listingPage], List.pairwise_singleton _ _⟩
  nextId := 1
  monitors := [⟨m, ['A']⟩]
  logs := logs
  incidents := []

/-- A log from which nothing has been removed shows the database. -/
lemma shows_siteOf {db : Db} (hid : m.id = 0) (hm : db.monitors 0 = some m)
    (hnone : ∀ k, k ≠ 0 → db.monitors k = none) (hnow : 0 < now) :
    (siteOf m db.logs).Shows none db now where
  monitors k := by
    by_cases hk : k = 0
    · subst hk
      rw [hm, siteOf, List.find?_cons_of_pos (by simpa using hid)]
      rfl
    · have hne : ¬m.id = k := fun heq => hk (heq.symm.trans hid)
      rw [hnone k hk, siteOf, List.find?_cons_of_neg (by simpa using hne)]
      rfl
  logs := ⟨0, _, _, run_insert (db.logs.map LogRow.document) _, hnow, rfl, rfl⟩

/-- A monitor that is down at its first failed check. The page that lists it is degraded. -/
theorem visitorTold_of_run_down : ∃ (es : List DeletingEvent) (s : DeletingWorld) (site : Site)
    (shown : PublicPage), (checksOf 0 es).length = 1 ∧ shown.overall = .degraded ∧
      VisitorTold site es s.world.db 1 listingPage shown := by
  let w : World := .empty fun _ => true
  let fresh : Monitor := .fresh 0 (some 7) "http://a" 0
  let edited : Monitor := fresh.edit { failureThreshold := some 1 }
  let w₁ : World := { w with db := { w.db with
    monitors := Function.update w.db.monitors 0 (some fresh) } }
  let w₂ : World := { w₁ with db := { w₁.db with
    monitors := Function.update w₁.db.monitors 0 (some edited) } }
  have h₁ : Step defaultEnv w (.create 0 (some 7) "http://a" 0) w₁ := .create rfl
  have h₂ : Step defaultEnv w₁ (.edit 0 { failureThreshold := some 1 }) w₂ := .edit rfl
  have hleaves : checkLeaves defaultEnv w₂ (checkAt 0 0 .down)
      (fun _ _ w' => 0 < ongoingCount w'.db 0) = true := by decide +kernel
  obtain ⟨m, r, transition, w₃, h₃, hdown⟩ := exists_step_of_checkLeaves hleaves
  have hrun : Run (DeletingStep defaultEnv) (.intact w)
      ([.create 0 (some 7) "http://a" 0, .edit 0 { failureThreshold := some 1 },
        .check (checkAt 0 0 .down) m r transition].map .works) (.intact w₃) :=
    run_works (.cons h₁ (.cons h₂ (.cons h₃ (.nil _))))
  have hkeyed : Keyed w₂.db := (((consistent_empty _).keyed.step h₁).step h₂)
  have hc := h₃.checked hkeyed
  obtain rfl : edited = m := Option.some.inj hc.loaded
  let left : Monitor := edited.set ((checkAt 0 0 .down).update defaultEnv edited r)
  have hleft : w₃.db.monitors 0 = some left := by
    rw [hc.monitors]
    exact Function.update_self 0 _ _
  have hnone : ∀ k, k ≠ 0 → w₃.db.monitors k = none := by
    intro k hk
    rw [hc.monitors]
    exact (Function.update_of_ne hk _ _).trans ((Function.update_of_ne hk _ _).trans
      (Function.update_of_ne hk _ _))
  have hsite : (siteOf left w₃.db.logs).Shows none w₃.db 1 :=
    shows_siteOf rfl hleft hnone (by decide)
  have hanswer : getPublicStatusPage .ascii (siteOf left w₃.db.logs) (.str "s") 1 =
      .ok ⟨200, publicPage (siteOf left w₃.db.logs) 1 listingPage,
        "Status page retrieved successfully"⟩ := rfl
  obtain ⟨text, page, htext, hpage, htold⟩ :=
    visitorTold_of_run hrun hsite (by decide) hanswer
  obtain rfl : ['s'] = text := Except.ok.inj htext
  obtain rfl : listingPage = page := Option.some.inj hpage
  refine ⟨_, _, _, _, rfl, htold.overall.2 ⟨⟨left, ['A']⟩, ?_, ?_, ?_⟩, htold⟩
  · exact List.mem_singleton_self _
  · exact fun hpaused => by cases hpaused
  · exact of_decide_eq_true hdown

end WatchTower
