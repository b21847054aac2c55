import Mathlib.Algebra.BigOperators.Ring.Finset
import WatchTower.Documents.Aggregate
import WatchTower.Pages.Uptime

set_option relaxedAutoImplicit false
set_option autoImplicit false

/-!
# The aggregation behind the uptime windows

The pipeline of `getUptimeWindows` as it is sent to the database, over any documents of the check
log: a `$match` on the monitor and the widest window, then a `$facet` with a `$match` and a
`$group` for each window. The scheduler writes complete rows only; the schema also admits a row
without a status or a latency, and the status DEGRADED.

## Main definitions

* `WatchTower.LogDocument`, `WatchTower.LogStatus` — a document of the log.
* `WatchTower.WindowKey` — the keys of `WINDOWS`.
* `WatchTower.LogDocument.getUptimeWindows` — the answer, by way of the pipeline.
* `WatchTower.rowsIn` — the rows of a monitor in one window.
* `WatchTower.AgreesWith` — an entry of the answer is the plain computation on some rows.

## Main results

* `WatchTower.getUptimeWindows_document` — on the rows of the scheduler, the answer of the
  pipeline is the one computed from the log.
* `WatchTower.windows_agree` — each entry agrees with a separate query for its window.
* `WatchTower.uptime_ends` — where the uptime is missing, `100` and `0`, and how exact it is.
-/

namespace WatchTower

open Documents

/-- `status` of a document of the log. -/
inductive LogStatus
  | up
  | down
  | degraded
  deriving DecidableEq

/-- What the pipeline reads of a document of the log. -/
structure LogDocument where
  /-- The monitor. -/
  monitorId : Option ℕ
  /-- The outcome. -/
  status : Option LogStatus
  /-- The latency. -/
  latency : Option ℚ
  /-- The time. -/
  timestamp : Option Time
  deriving DecidableEq

/-- The keys of `WINDOWS`. -/
inductive WindowKey
  /-- `'24h'`. -/
  | day
  /-- `'7d'`. -/
  | week
  /-- `'30d'`. -/
  | month
  deriving DecidableEq

/-- `WINDOWS[key]`. -/
def WindowKey.ms : WindowKey → Time
  | day => window24h
  | week => window7d
  | month => window30d

/-- The entry of a window. -/
def UptimeWindows.entry (w : UptimeWindows) : WindowKey → UptimeWindow
  | .day => w.day
  | .week => w.week
  | .month => w.month

namespace LogDocument

/-- `{ $eq: ['$status', 'UP'] }`. -/
def isUp (d : LogDocument) : Bool := d.status = some .up

/-- `{ timestamp: { $gte: start } }`. -/
def isSince (start : Time) (d : LogDocument) : Bool := d.timestamp.any (start ≤ ·)

/-- `{ monitorId: id }`. -/
def isOf (id : ℕ) (d : LogDocument) : Bool := d.monitorId = some id

/-- The group stage. -/
def groupStage : List LogDocument → List Bucket :=
  groupAll fun rows =>
    { total := sumOf (fun _ => 1) rows
      up := sumOf (fun d => if d.isUp then 1 else 0) rows
      avgLatency := avgOf (fun d => if d.isUp then d.latency else none) rows
      lastCheckAt := maxOf (·.timestamp) rows }

/-- The buckets of a facet. -/
def aggregate (docs : List LogDocument) (id : ℕ) (now : Time) (key : WindowKey) : List Bucket :=
  groupStage ((docs.filter fun d => d.isOf id && d.isSince (now - WindowKey.month.ms)).filter
    (·.isSince (now - key.ms)))

/-- The uptime of a monitor over the three windows. -/
def getUptimeWindows (docs : List LogDocument) (id : ℕ) (now : Time) : UptimeWindows where
  day := .ofBucket (aggregate docs id now .day).head? (now - WindowKey.day.ms)
  week := .ofBucket (aggregate docs id now .week).head? (now - WindowKey.week.ms)
  month := .ofBucket (aggregate docs id now .month).head? (now - WindowKey.month.ms)

end LogDocument

/-- The rows of a monitor in one window. -/
def rowsIn (docs : List LogDocument) (id : ℕ) (now : Time) (key : WindowKey) : List LogDocument :=
  docs.filter fun d => d.isOf id && d.isSince (now - key.ms)

/-- An entry is the plain computation on some rows. -/
structure AgreesWith (w : UptimeWindow) (rows : List LogDocument) : Prop where
  totalChecks : w.totalChecks = rows.length
  upChecks : w.upChecks = rows.countP (·.isUp)
  downChecks : w.downChecks = rows.countP (!·.isUp)
  avgLatencyMs : w.avgLatencyMs = (mean ((rows.filter (·.isUp)).filterMap (·.latency))).map round
  lastCheckAt : w.lastCheckAt = (rows.filterMap (·.timestamp)).max?

section Windows

variable {docs : List LogDocument} {id : ℕ} {now : Time} {key : WindowKey}

/-- No window is wider than thirty days. -/
lemma WindowKey.ms_le_month (key : WindowKey) : key.ms ≤ WindowKey.month.ms := by
  cases key <;> decide

/-- What is in a narrower window is in a wider one. -/
lemma LogDocument.isSince_of_le {start start' : Time} (h : start ≤ start') {d : LogDocument}
    (hd : d.isSince start' = true) : d.isSince start = true := by
  simp only [isSince, Option.any_eq_true] at hd ⊢
  obtain ⟨t, ht, hle⟩ := hd
  exact ⟨t, ht, by simpa using h.trans (by simpa using hle)⟩

/-- **The first stage loses no row of a facet.** -/
lemma aggregate_eq : LogDocument.aggregate docs id now key =
    LogDocument.groupStage (rowsIn docs id now key) := by
  have himp : ∀ d : LogDocument, d.isSince (now - key.ms) = true →
      d.isSince (now - WindowKey.month.ms) = true :=
    fun d => LogDocument.isSince_of_le (sub_le_sub_left key.ms_le_month now)
  rw [LogDocument.aggregate, filter_filter_of_imp himp, rowsIn]

/-- The entry of a window comes from its own rows. -/
lemma entry_getUptimeWindows : (LogDocument.getUptimeWindows docs id now).entry key =
    .ofBucket (LogDocument.groupStage (rowsIn docs id now key)).head? (now - key.ms) := by
  rw [← aggregate_eq]
  cases key <;> rfl

/-- Every row is UP or not. -/
lemma length_eq_up_add_down (rows : List LogDocument) :
    rows.length = rows.countP (·.isUp) + rows.countP (!·.isUp) := by
  rw [List.length_eq_countP_add_countP LogDocument.isUp]
  simp

/-- The entry that is made of the bucket of some rows agrees with them. -/
lemma agreesWith_ofBucket (rows : List LogDocument) (start : Time) :
    AgreesWith (.ofBucket (LogDocument.groupStage rows).head? start) rows := by
  have hcount := length_eq_up_add_down rows
  rw [LogDocument.groupStage, head?_groupAll]
  split_ifs with hnil
  · subst hnil
    exact ⟨rfl, rfl, rfl, rfl, rfl⟩
  · have hup : sumOf (fun d : LogDocument => if d.isUp then 1 else 0) rows =
        rows.countP (·.isUp) := sumOf_ite _ _
    refine ⟨sumOf_one rows, hup, ?_, ?_, rfl⟩
    · simp only [UptimeWindow.ofBucket, Option.map_some, Option.getD_some, sumOf_one, hup]
      omega
    · simp only [UptimeWindow.ofBucket, Option.bind_some, avgOf_ite]

/-- The uptime of an entry. -/
lemma uptime_entry : ((LogDocument.getUptimeWindows docs id now).entry key).uptime =
    if rowsIn docs id now key = [] then none
    else some (reportedUptime ((rowsIn docs id now key).countP (·.isUp))
      (rowsIn docs id now key).length) := by
  have hagrees := agreesWith_ofBucket (rowsIn docs id now key) (now - key.ms)
  rw [entry_getUptimeWindows, ← hagrees.upChecks, ← hagrees.totalChecks]
  have hpos : rowsIn docs id now key = [] ↔ ¬0 < (UptimeWindow.ofBucket
      (LogDocument.groupStage (rowsIn docs id now key)).head? (now - key.ms)).totalChecks := by
    rw [hagrees.totalChecks, List.length_pos_iff, not_not]
  rw [if_congr hpos rfl rfl, ite_not]
  rfl

end Windows

/-! ## One pass and separate queries -/

/-- **Each entry agrees with a separate query for its window**, the counts grow with the windows,
and the rows of other monitors do not matter. -/
theorem windows_agree (docs : List LogDocument) (id : ℕ) (now : Time) :
    (∀ key, AgreesWith ((LogDocument.getUptimeWindows docs id now).entry key)
        (rowsIn docs id now key)) ∧
      (∀ key, ((LogDocument.getUptimeWindows docs id now).entry key).upChecks +
          ((LogDocument.getUptimeWindows docs id now).entry key).downChecks =
        ((LogDocument.getUptimeWindows docs id now).entry key).totalChecks) ∧
      (∀ key key', key.ms ≤ key'.ms →
        ((LogDocument.getUptimeWindows docs id now).entry key).totalChecks ≤
            ((LogDocument.getUptimeWindows docs id now).entry key').totalChecks ∧
          ((LogDocument.getUptimeWindows docs id now).entry key).upChecks ≤
            ((LogDocument.getUptimeWindows docs id now).entry key').upChecks ∧
          ((LogDocument.getUptimeWindows docs id now).entry key).downChecks ≤
            ((LogDocument.getUptimeWindows docs id now).entry key').downChecks) ∧
      LogDocument.getUptimeWindows (docs.filter (·.isOf id)) id now =
        LogDocument.getUptimeWindows docs id now := by
  have hagrees : ∀ key, AgreesWith ((LogDocument.getUptimeWindows docs id now).entry key)
      (rowsIn docs id now key) := fun key => by
    rw [entry_getUptimeWindows]
    exact agreesWith_ofBucket _ _
  refine ⟨hagrees, fun key => ?_, fun key key' hle => ?_, ?_⟩
  · rw [(hagrees key).totalChecks, (hagrees key).upChecks, (hagrees key).downChecks]
    exact (length_eq_up_add_down _).symm
  · have himp : ∀ d : LogDocument, (d.isOf id && d.isSince (now - key.ms)) = true →
        (d.isOf id && d.isSince (now - key'.ms)) = true := by
      intro d hd
      simp only [Bool.and_eq_true] at hd ⊢
      exact ⟨hd.1, LogDocument.isSince_of_le (sub_le_sub_left hle now) hd.2⟩
    have htotal := countP_filter_le himp (fun _ => true) docs
    simp only [List.countP_true] at htotal
    rw [(hagrees key).totalChecks, (hagrees key').totalChecks, (hagrees key).upChecks,
      (hagrees key').upChecks, (hagrees key).downChecks, (hagrees key').downChecks]
    exact ⟨htotal, countP_filter_le himp _ docs, countP_filter_le himp _ docs⟩
  · have hrows : ∀ key, rowsIn (docs.filter (·.isOf id)) id now key = rowsIn docs id now key := by
      intro key
      rw [rowsIn, rowsIn, List.filter_filter]
      exact List.filter_congr fun d _ => by cases d.isOf id <;> simp
    simp only [LogDocument.getUptimeWindows, aggregate_eq, hrows]

/-! ## The two ends of the uptime -/

/-- **The ends of the uptime.** It is missing exactly in a window without checks. With no more than
`2 ^ 34` checks, it is `100` when fewer than one check in two hundred thousand was not UP, and `0`
when fewer than that were; with more checks the two thresholds are known up to one part in two
hundred thousand. It is never off by more than `0.0005`, but for the rounding of the doubles. -/
theorem uptime_ends (docs : List LogDocument) (id : ℕ) (now : Time) (key : WindowKey) :
    (((LogDocument.getUptimeWindows docs id now).entry key).uptime = none ↔
        rowsIn docs id now key = []) ∧
      ((rowsIn docs id now key).length ≤ 2 ^ 34 →
        (((LogDocument.getUptimeWindows docs id now).entry key).uptime = some 100 ↔
          rowsIn docs id now key ≠ [] ∧ 200000 * (rowsIn docs id now key).countP (!·.isUp) <
            (rowsIn docs id now key).length) ∧
        (((LogDocument.getUptimeWindows docs id now).entry key).uptime = some 0 ↔
          rowsIn docs id now key ≠ [] ∧ 200000 * (rowsIn docs id now key).countP (·.isUp) <
            (rowsIn docs id now key).length)) ∧
      (rowsIn docs id now key ≠ [] →
        (200001 * (rowsIn docs id now key).countP (!·.isUp) ≤ (rowsIn docs id now key).length →
          ((LogDocument.getUptimeWindows docs id now).entry key).uptime = some 100) ∧
        (((LogDocument.getUptimeWindows docs id now).entry key).uptime = some 100 →
          199999 * (rowsIn docs id now key).countP (!·.isUp) ≤ (rowsIn docs id now key).length) ∧
        (200001 * (rowsIn docs id now key).countP (·.isUp) ≤ (rowsIn docs id now key).length →
          ((LogDocument.getUptimeWindows docs id now).entry key).uptime = some 0) ∧
        (((LogDocument.getUptimeWindows docs id now).entry key).uptime = some 0 →
          199999 * (rowsIn docs id now key).countP (·.isUp) ≤ (rowsIn docs id now key).length)) ∧
      ∀ q, ((LogDocument.getUptimeWindows docs id now).entry key).uptime = some q →
        |q - 100 * ((rowsIn docs id now key).countP (·.isUp) : ℚ) /
          (rowsIn docs id now key).length| ≤ 1 / 2000 + 2 ^ (-44 : ℤ) := by
  rw [uptime_entry]
  generalize rowsIn docs id now key = rows
  by_cases hnil : rows = []
  · subst hnil
    simp
  · have hle : rows.countP (·.isUp) ≤ rows.length := List.countP_le_length
    have hpos : 0 < rows.length := List.length_pos_iff.2 hnil
    have hdown : rows.countP (!·.isUp) = rows.length - rows.countP (·.isUp) := by
      have hcount := length_eq_up_add_down rows
      omega
    obtain ⟨hhundred, hhundred'⟩ := reportedUptime_hundred_bounds hle hpos
    obtain ⟨hzero, hzero'⟩ := reportedUptime_zero_bounds hle hpos
    rw [if_neg hnil, hdown]
    simp only [reduceCtorEq, hnil, Option.some.injEq, ne_eq, not_false_eq_true, true_and,
      true_implies]
    refine ⟨fun hmany => ⟨?_, ?_⟩, ⟨hhundred, hhundred', hzero, hzero'⟩, ?_⟩
    · exact reportedUptime_eq_hundred_iff hle hpos hmany
    · exact reportedUptime_eq_zero_iff hle hpos hmany
    · rintro q rfl
      rw [mul_div_assoc, mul_comm (100 : ℚ)]
      exact abs_reportedUptime_sub_le hle

/-- One failed check among two hundred thousand and one, all at the epoch. -/
def oneFailure : List LogDocument :=
  ⟨some 0, some .down, none, some 0⟩ :: List.replicate 200000 ⟨some 0, some .up, some 80, some 0⟩

/-- It does not show: the uptime is `100`, although not every check was UP. -/
theorem uptime_hides_one_failure :
    ¬∀ (docs : List LogDocument) (id : ℕ) (now : Time) (key : WindowKey),
      ((LogDocument.getUptimeWindows docs id now).entry key).uptime = some 100 →
        ∀ d ∈ rowsIn docs id now key, d.isUp = true := by
  intro h
  let failed : LogDocument := ⟨some 0, some .down, none, some 0⟩
  have hrows : rowsIn oneFailure 0 0 .day = oneFailure := by
    refine List.filter_eq_self.2 fun d hd => ?_
    rcases List.mem_cons.1 hd with rfl | hd
    · decide
    · obtain rfl := List.eq_of_mem_replicate hd
      decide
  have hup : oneFailure.countP (·.isUp) = 200000 := by
    rw [oneFailure, List.countP_cons_of_neg (by decide), List.countP_replicate,
      if_pos (by decide)]
  have hlength : oneFailure.length = 200001 := by
    rw [oneFailure, List.length_cons, List.length_replicate]
  have hne : oneFailure ≠ [] := List.cons_ne_nil _ _
  have hshown : reportedUptime 200000 200001 = 100 := by decide +kernel
  have huptime : ((LogDocument.getUptimeWindows oneFailure 0 0).entry .day).uptime = some 100 := by
    rw [uptime_entry, hrows, hup, hlength, if_neg hne, hshown]
  have hall := h oneFailure 0 0 .day huptime failed (hrows ▸ List.mem_cons_self)
  exact absurd hall (by decide)

/-! ## The rows of the scheduler -/

/-- A status of a check. -/
def Status.logged : Status → LogStatus
  | .up => .up
  | .down => .down

/-- The document of a row. -/
def LogRow.document (row : LogRow) : LogDocument where
  monitorId := some row.monitorId
  status := some row.status.logged
  latency := row.latency.map (↑)
  timestamp := some row.timestamp

/-- Whether a row is one of a monitor. -/
lemma isOf_document (id : ℕ) (row : LogRow) :
    row.document.isOf id = decide (row.monitorId = id) := by
  simp [LogDocument.isOf, LogRow.document]

/-- Whether a row is in a window. -/
lemma isSince_document (start : Time) (row : LogRow) :
    row.document.isSince start = decide (start ≤ row.timestamp) := rfl

/-- The mean of the latencies of the rows. -/
lemma mean_document (rows : List LogRow) :
    mean (((rows.map LogRow.document).filter (·.isUp)).filterMap (·.latency)) =
      average (upLatencies (rows.map LogRow.sample)) := by
  have hlatencies : ((rows.map LogRow.document).filter (·.isUp)).filterMap (·.latency) =
      (upLatencies (rows.map LogRow.sample)).map (Nat.cast : ℕ → ℚ) := by
    induction rows with
    | nil => rfl
    | cons row rows ih =>
      unfold upLatencies at ih ⊢
      rw [List.map_cons, List.map_cons, List.filter_cons, List.filter_cons]
      cases hstatus : row.status with
      | down => simpa [LogRow.document, LogRow.sample, LogDocument.isUp, Status.logged, hstatus]
          using ih
      | up =>
        cases hlatency : row.latency with
        | none => simpa [LogRow.document, LogRow.sample, LogDocument.isUp, Status.logged, hstatus,
            hlatency] using ih
        | some latency => simpa [LogRow.document, LogRow.sample, LogDocument.isUp, Status.logged,
            hstatus, hlatency] using ih
  rw [hlatencies]
  unfold mean average
  simp only [List.map_eq_nil_iff, List.length_map, Nat.cast_list_sum]

/-- The bucket of the rows. -/
lemma groupStage_document (rows : List LogRow) :
    (LogDocument.groupStage (rows.map LogRow.document)).head? =
      groupStage (rows.map LogRow.sample) := by
  have hup : (rows.map LogRow.document).countP (·.isUp) =
      (rows.map LogRow.sample).countP (·.status = .up) := by
    rw [List.countP_map, List.countP_map]
    refine List.countP_congr fun row _ => ?_
    cases hstatus : row.status <;>
      simp [LogRow.document, LogRow.sample, LogDocument.isUp, Status.logged, hstatus]
  have hmax : (rows.map LogRow.document).filterMap (·.timestamp) =
      (rows.map LogRow.sample).map (·.timestamp) := by
    simp [List.filterMap_map, LogRow.document, LogRow.sample, Function.comp_def]
  have hmean := mean_document rows
  rw [LogDocument.groupStage, head?_groupAll, groupStage]
  simp only [sumOf_one, sumOf_ite, avgOf_ite, maxOf, hup, hmax, hmean, List.map_eq_nil_iff,
    List.length_map]

/-- **On the rows of the scheduler** the pipeline gives the windows computed from the log. -/
theorem getUptimeWindows_document (logs : List LogRow) (id : ℕ) (now : Time) :
    LogDocument.getUptimeWindows (logs.map LogRow.document) id now =
      getUptimeWindows logs id now := by
  have hfacet : ∀ key : WindowKey,
      .ofBucket (LogDocument.aggregate (logs.map LogRow.document) id now key).head?
        (now - key.ms) = facet (matchedRows logs id now) (now - key.ms) := by
    intro key
    have himp : ∀ row : LogRow, decide (now - key.ms ≤ row.timestamp) = true →
        decide (now - window30d ≤ row.timestamp) = true := by
      intro row hrow
      have hmonth := sub_le_sub_left key.ms_le_month now
      exact decide_eq_true (hmonth.trans (of_decide_eq_true hrow))
    have hrows : rowsIn (logs.map LogRow.document) id now key =
        (logs.filter fun row => row.monitorId = id && now - key.ms ≤ row.timestamp).map
          LogRow.document := by
      rw [rowsIn, List.filter_map]
      congr 1
      refine List.filter_congr fun row _ => ?_
      simp only [Function.comp_apply, isOf_document, isSince_document]
    have hmatched : (matchedRows logs id now).filter (now - key.ms ≤ ·.timestamp) =
        (logs.filter fun row => row.monitorId = id && now - key.ms ≤ row.timestamp).map
          LogRow.sample := by
      rw [matchedRows, List.filter_map]
      congr 1
      exact filter_filter_of_imp himp _ logs
    rw [aggregate_eq, hrows, groupStage_document, facet, hmatched]
  simp only [LogDocument.getUptimeWindows, hfacet]
  rfl

end WatchTower
