import Mathlib.Algebra.Order.Floor.Ring
import Mathlib.Data.Rat.Floor
import Mathlib.Tactic.Linarith
import Mathlib.Tactic.NormNum
import WatchTower.Scheduler.Store

set_option relaxedAutoImplicit false
set_option autoImplicit false

/-!
# Uptime windows

`getUptimeWindows` of `services/uptime.service.js`: an aggregation over the check log of one
monitor, bounded by the widest window, with one facet for each window.

## Main definitions

* `WatchTower.groupStage` — the numbers of a window.
* `WatchTower.reportedUptime` — the percentage that is made of them.
* `WatchTower.getUptimeWindows` — the three windows of a monitor.
* `WatchTower.SameChecks` — two logs with the same outcomes, latencies and times.

## Main results

* `WatchTower.abs_upPercentage_sub_lt` — how exact the percentage is.
* `WatchTower.reportedUptime_eq_hundred_iff`, `WatchTower.reportedUptime_eq_zero_iff` — where it is
  shown as `100` and as `0`.
* `WatchTower.getUptimeWindows_congr` — the windows depend on these and on the clock only.
-/

namespace WatchTower

/-- `WINDOWS['24h']`. -/
def window24h : Time := 24 * 60 * 60 * 1000

/-- `WINDOWS['7d']`. -/
def window7d : Time := 7 * 24 * 60 * 60 * 1000

/-- `WINDOWS['30d']`. -/
def window30d : Time := 30 * 24 * 60 * 60 * 1000

/-- One bucket of the aggregation. -/
structure Bucket where
  /-- The number of checks. -/
  total : ℕ
  /-- The number of successful ones. -/
  up : ℕ
  /-- The mean latency of the successful ones that have one. -/
  avgLatency : Option ℚ
  /-- The time of the last one. -/
  lastCheckAt : Option Time
  deriving DecidableEq

/-- The part of a log row that the aggregation looks at. -/
structure CheckSample where
  /-- The outcome. -/
  status : Status
  /-- The latency. -/
  latency : Option ℕ
  /-- The time. -/
  timestamp : Time
  deriving DecidableEq

/-- That part of a row. -/
def LogRow.sample (row : LogRow) : CheckSample := ⟨row.status, row.latency, row.timestamp⟩

/-- The mean of a list of numbers, `$avg`, and `null` when there is none. -/
def average (l : List ℕ) : Option ℚ := if l = [] then none else some (l.sum / l.length)

/-- The latencies of the successful checks. -/
def upLatencies (rows : List CheckSample) : List ℕ :=
  (rows.filter (·.status = .up)).filterMap (·.latency)

/-- The group stage: no bucket without rows. -/
def groupStage (rows : List CheckSample) : Option Bucket :=
  if rows = [] then none
  else some
    { total := rows.length
      up := rows.countP (·.status = .up)
      avgLatency := average (upLatencies rows)
      lastCheckAt := (rows.map (·.timestamp)).max? }

/-- One entry of the answer. -/
structure UptimeWindow where
  /-- The percentage of successful checks. -/
  uptime : Option ℚ
  /-- The number of checks. -/
  totalChecks : ℕ
  /-- The successful ones. -/
  upChecks : ℕ
  /-- The failed ones. -/
  downChecks : ℕ
  /-- The mean latency. -/
  avgLatencyMs : Option ℤ
  /-- The time of the last check. -/
  lastCheckAt : Option Time
  /-- Where the window starts. -/
  windowStart : Time
  deriving DecidableEq

/-- `Math.round`. -/
def round (q : ℚ) : ℤ := ⌊q + 1 / 2⌋

/-- `Number(x.toFixed(3))`: the nearest number with three decimals, the larger one in the middle
between two, which is then read as a double. -/
def toFixed3 (x : ℚ) : ℚ := Binary64.round (round (x * 1000) / 1000)

/-- `(up / total) * 100`, in double precision. -/
def upPercentage (up total : ℕ) : ℚ := Binary64.round (Binary64.round ((up : ℚ) / total) * 100)

/-- `Number(((up / total) * 100).toFixed(3))`. -/
def reportedUptime (up total : ℕ) : ℚ := toFixed3 (upPercentage up total)

/-- The entry of a window, from its bucket. -/
def UptimeWindow.ofBucket (bucket : Option Bucket) (windowStart : Time) : UptimeWindow :=
  let total : ℕ := (bucket.map (·.total)).getD 0
  let up : ℕ := (bucket.map (·.up)).getD 0
  { uptime := if 0 < total then some (reportedUptime up total) else none
    totalChecks := total
    upChecks := up
    downChecks := total - up
    avgLatencyMs := (bucket.bind (·.avgLatency)).map round
    lastCheckAt := bucket.bind (·.lastCheckAt)
    windowStart := windowStart }

/-- The three windows. -/
structure UptimeWindows where
  /-- `'24h'`. -/
  day : UptimeWindow
  /-- `'7d'`. -/
  week : UptimeWindow
  /-- `'30d'`. -/
  month : UptimeWindow
  deriving DecidableEq

/-- The rows that the first stage lets through. -/
def matchedRows (logs : List LogRow) (monitorId : ℕ) (now : Time) : List CheckSample :=
  (logs.filter fun row => row.monitorId = monitorId && now - window30d ≤ row.timestamp).map
    LogRow.sample

/-- One facet: the rows of a window, grouped. -/
def facet (rows : List CheckSample) (since : Time) : UptimeWindow :=
  .ofBucket (groupStage (rows.filter (since ≤ ·.timestamp))) since

/-- The uptime of a monitor over the three windows. -/
def getUptimeWindows (logs : List LogRow) (monitorId : ℕ) (now : Time) : UptimeWindows where
  day := facet (matchedRows logs monitorId now) (now - window24h)
  week := facet (matchedRows logs monitorId now) (now - window7d)
  month := facet (matchedRows logs monitorId now) (now - window30d)

/-! ## What the rounding does -/

section Rounding

variable {x : ℚ} {up total : ℕ}

/-- What is rounded to a whole number. -/
lemma round_eq_iff {q : ℚ} {z : ℤ} : round q = z ↔ (z : ℚ) - 1 / 2 ≤ q ∧ q < z + 1 / 2 := by
  rw [round, Int.floor_eq_iff, ← sub_le_iff_le_add, ← lt_sub_iff_add_lt]
  rw [show (z : ℚ) + 1 - 1 / 2 = z + 1 / 2 by ring]

/-- `toFixed(3)` shows a percentage as `100` from `99.9995` on. -/
lemma toFixed3_eq_hundred_iff (hle : x ≤ 100) : toFixed3 x = 100 ↔ 99.9995 ≤ x := by
  unfold toFixed3
  constructor
  · intro h
    by_contra hlt
    -- What is shown has a smaller last decimal, and is no larger than the double `102399 / 1024`.
    have hround : round (x * 1000) ≤ 99999 :=
      Int.lt_add_one_iff.1 (Int.floor_lt.2 (by push_cast; linarith [not_le.1 hlt]))
    have hroundQ : (round (x * 1000) : ℚ) ≤ 99999 := by exact_mod_cast hround
    have hdouble : Binary64.IsDouble (102399 / 1024) := ⟨102399, -10, by norm_num⟩
    have hshown := Binary64.round_le hdouble (q := round (x * 1000) / 1000) (by linarith)
    rw [h] at hshown
    norm_num at hshown
  · intro h
    have hround : round (x * 1000) = 100000 :=
      round_eq_iff.2 ⟨by push_cast; linarith, by push_cast; linarith⟩
    rw [hround]
    decide +kernel

/-- It shows one as `0` below `0.0005`. -/
lemma toFixed3_eq_zero_iff (hnonneg : 0 ≤ x) : toFixed3 x = 0 ↔ x < 0.0005 := by
  unfold toFixed3
  constructor
  · intro h
    by_contra hge
    have hround : 1 ≤ round (x * 1000) := Int.le_floor.2 (by push_cast; linarith [not_lt.1 hge])
    have hroundQ : (1 : ℚ) ≤ round (x * 1000) := by exact_mod_cast hround
    have hdouble : Binary64.IsDouble (1 / 1024) := ⟨1, -10, by norm_num⟩
    have hshown := Binary64.le_round hdouble (q := round (x * 1000) / 1000) (by linarith)
    rw [h] at hshown
    norm_num at hshown
  · intro h
    have hround : round (x * 1000) = 0 :=
      round_eq_iff.2 ⟨by push_cast; linarith, by push_cast; linarith⟩
    rw [hround]
    decide +kernel

/-- `toFixed(3)` is off by half a thousandth, but for the rounding of a double. -/
lemma abs_toFixed3_sub_le (hnonneg : 0 ≤ x) (hle : x ≤ 100) :
    |toFixed3 x - x| ≤ 1 / 2000 + 2 ^ (-46 : ℤ) := by
  obtain ⟨hlower, hupper⟩ := round_eq_iff.1 (rfl : round (x * 1000) = round (x * 1000))
  have habs : |(round (x * 1000) : ℚ) / 1000| ≤ 2 ^ (7 : ℤ) := by
    rw [abs_le]
    norm_num
    constructor
    · linarith
    · linarith
  have hread := Binary64.abs_sub_round_le_of_le (by norm_num) habs
  have hdecimal : |(round (x * 1000) : ℚ) / 1000 - x| ≤ 1 / 2000 := by
    rw [abs_le]
    constructor
    · linarith
    · linarith
  rw [abs_sub_comm] at hread
  have htriangle := abs_sub_le (toFixed3 x) (round (x * 1000) / 1000) x
  unfold toFixed3 at htriangle ⊢
  norm_num at hread htriangle ⊢
  linarith

/-- A percentage is between `0` and `100`. -/
lemma upPercentage_bounds (hle : up ≤ total) :
    0 ≤ upPercentage up total ∧ upPercentage up total ≤ 100 := by
  have hzero : Binary64.IsDouble ((0 : ℤ) : ℚ) := Binary64.isDouble_intCast (by norm_num)
  have hone : Binary64.IsDouble ((1 : ℤ) : ℚ) := Binary64.isDouble_intCast (by norm_num)
  have hhundred : Binary64.IsDouble ((100 : ℤ) : ℚ) := Binary64.isDouble_intCast (by norm_num)
  push_cast at hzero hone hhundred
  have hshare : (up : ℚ) / total ≤ 1 := div_le_one_of_le₀ (by exact_mod_cast hle) (by positivity)
  have hlower := Binary64.le_round hzero (q := (up : ℚ) / total) (by positivity)
  have hupper := Binary64.round_le hone hshare
  exact ⟨Binary64.le_round hzero (by linarith), Binary64.round_le hhundred (by linarith)⟩

/-- **The percentage in double precision** is off by less than `2 ^ (-45)`. -/
lemma abs_upPercentage_sub_lt (hle : up ≤ total) :
    |upPercentage up total - (up : ℚ) / total * 100| < 2 ^ (-45 : ℤ) := by
  have hshare : (up : ℚ) / total ≤ 1 := div_le_one_of_le₀ (by exact_mod_cast hle) (by positivity)
  have hnonneg : (0 : ℚ) ≤ (up : ℚ) / total := by positivity
  have hone : Binary64.IsDouble ((1 : ℤ) : ℚ) := Binary64.isDouble_intCast (by norm_num)
  have hzero : Binary64.IsDouble ((0 : ℤ) : ℚ) := Binary64.isDouble_intCast (by norm_num)
  push_cast at hone hzero
  have hupper := Binary64.round_le hone hshare
  have hlower := Binary64.le_round hzero hnonneg
  have hquotient := Binary64.abs_sub_round_le_of_le (k := 0) (q := (up : ℚ) / total) (by norm_num)
    (by rw [abs_of_nonneg hnonneg]; simpa using hshare)
  have hproduct := Binary64.abs_sub_round_le_of_le (k := 7)
    (q := Binary64.round ((up : ℚ) / total) * 100) (by norm_num)
    (by rw [abs_of_nonneg (by linarith)]; norm_num; linarith)
  rw [abs_le] at hquotient hproduct
  unfold upPercentage
  norm_num at hquotient hproduct ⊢
  rw [abs_lt]
  constructor
  · linarith
  · linarith

/-- **How exact a shown uptime is.** -/
theorem abs_reportedUptime_sub_le (hle : up ≤ total) :
    |reportedUptime up total - (up : ℚ) / total * 100| ≤ 1 / 2000 + 2 ^ (-44 : ℤ) := by
  obtain ⟨hlower, hupper⟩ := upPercentage_bounds hle
  have hshown := abs_toFixed3_sub_le hlower hupper
  have hexact := abs_upPercentage_sub_lt hle
  have htriangle := abs_sub_le (reportedUptime up total) (upPercentage up total)
    ((up : ℚ) / total * 100)
  unfold reportedUptime at htriangle ⊢
  norm_num at hshown hexact htriangle ⊢
  linarith

/-- A percentage a little above `99.9995` is shown as `100`, -/
lemma reportedUptime_eq_hundred (hle : up ≤ total)
    (h : 99.9995 + 2 ^ (-45 : ℤ) ≤ (up : ℚ) / total * 100) : reportedUptime up total = 100 := by
  have hexact := abs_lt.1 (abs_upPercentage_sub_lt hle)
  exact (toFixed3_eq_hundred_iff (upPercentage_bounds hle).2).2 (by linarith)

/-- and one a little below is not. -/
lemma reportedUptime_ne_hundred (hle : up ≤ total)
    (h : (up : ℚ) / total * 100 ≤ 99.9995 - 2 ^ (-45 : ℤ)) : reportedUptime up total ≠ 100 := by
  have hexact := abs_lt.1 (abs_upPercentage_sub_lt hle)
  exact fun hshown => absurd ((toFixed3_eq_hundred_iff (upPercentage_bounds hle).2).1 hshown)
    (by linarith)

/-- A percentage a little below `0.0005` is shown as `0`, -/
lemma reportedUptime_eq_zero (hle : up ≤ total)
    (h : (up : ℚ) / total * 100 ≤ 0.0005 - 2 ^ (-45 : ℤ)) : reportedUptime up total = 0 := by
  have hexact := abs_lt.1 (abs_upPercentage_sub_lt hle)
  exact (toFixed3_eq_zero_iff (upPercentage_bounds hle).1).2 (by linarith)

/-- and one a little above is not. -/
lemma reportedUptime_ne_zero (hle : up ≤ total)
    (h : 0.0005 + 2 ^ (-45 : ℤ) ≤ (up : ℚ) / total * 100) : reportedUptime up total ≠ 0 := by
  have hexact := abs_lt.1 (abs_upPercentage_sub_lt hle)
  exact fun hshown => absurd ((toFixed3_eq_zero_iff (upPercentage_bounds hle).1).1 hshown)
    (by linarith)

/-- **Where the uptime is shown as `100`**: with so many checks at most, when fewer than one in two
hundred thousand failed. One in two hundred thousand is just below the middle, in double
precision. -/
theorem reportedUptime_eq_hundred_iff (hle : up ≤ total) (hpos : 0 < total)
    (hmany : total ≤ 2 ^ 34) :
    reportedUptime up total = 100 ↔ 200000 * (total - up) < total := by
  have htotal : (0 : ℚ) < total := by exact_mod_cast hpos
  have hmanyQ : (total : ℚ) ≤ 2 ^ 34 := by exact_mod_cast hmany
  rcases lt_trichotomy (200000 * (total - up)) total with hlt | heq | hgt
  · have hnat : 199999 * total + 1 ≤ 200000 * up := by omega
    have hnatQ : (199999 : ℚ) * total + 1 ≤ 200000 * up := by exact_mod_cast hnat
    refine iff_of_true (reportedUptime_eq_hundred hle ?_) hlt
    rw [div_mul_eq_mul_div, le_div_iff₀ htotal]
    norm_num
    linarith
  · have hshare : (up : ℚ) / total = 199999 / 200000 := by
      have hnat : 200000 * up = 199999 * total := by omega
      rw [div_eq_div_iff htotal.ne' (by norm_num), mul_comm]
      exact_mod_cast hnat
    refine iff_of_false ?_ heq.not_lt
    rw [reportedUptime, upPercentage, hshare]
    decide +kernel
  · have hnat : 200000 * up + 1 ≤ 199999 * total := by omega
    have hnatQ : (200000 : ℚ) * up + 1 ≤ 199999 * total := by exact_mod_cast hnat
    refine iff_of_false (reportedUptime_ne_hundred hle ?_) hgt.not_gt
    rw [div_mul_eq_mul_div, div_le_iff₀ htotal]
    norm_num
    linarith

/-- **Where it is shown as `0`**: with so many checks at most, when fewer than one in two hundred
thousand succeeded. -/
theorem reportedUptime_eq_zero_iff (hle : up ≤ total) (hpos : 0 < total)
    (hmany : total ≤ 2 ^ 34) : reportedUptime up total = 0 ↔ 200000 * up < total := by
  have htotal : (0 : ℚ) < total := by exact_mod_cast hpos
  have hmanyQ : (total : ℚ) ≤ 2 ^ 34 := by exact_mod_cast hmany
  rcases lt_trichotomy (200000 * up) total with hlt | heq | hgt
  · have hnatQ : (200000 : ℚ) * up + 1 ≤ total := by exact_mod_cast hlt
    refine iff_of_true (reportedUptime_eq_zero hle ?_) hlt
    rw [div_mul_eq_mul_div, div_le_iff₀ htotal]
    norm_num
    linarith
  · have hshare : (up : ℚ) / total = 1 / 200000 := by
      rw [div_eq_div_iff htotal.ne' (by norm_num), mul_comm, one_mul]
      exact_mod_cast heq
    refine iff_of_false ?_ heq.not_lt
    rw [reportedUptime, upPercentage, hshare]
    decide +kernel
  · have hnatQ : (total : ℚ) + 1 ≤ 200000 * up := by exact_mod_cast hgt
    refine iff_of_false (reportedUptime_ne_zero hle ?_) hgt.not_gt
    rw [div_mul_eq_mul_div, le_div_iff₀ htotal]
    norm_num
    linarith

/-- **With any number of checks**, the uptime is shown as `100` if at most one in 200001 failed, and
only if at most one in 199999 did. -/
theorem reportedUptime_hundred_bounds (hle : up ≤ total) (hpos : 0 < total) :
    (200001 * (total - up) ≤ total → reportedUptime up total = 100) ∧
      (reportedUptime up total = 100 → 199999 * (total - up) ≤ total) := by
  have htotal : (1 : ℚ) ≤ total := by exact_mod_cast hpos
  constructor
  · intro h
    have hnatQ : (200000 : ℚ) * total ≤ 200001 * up := by exact_mod_cast (by omega)
    refine reportedUptime_eq_hundred hle ?_
    rw [div_mul_eq_mul_div, le_div_iff₀ (by linarith)]
    norm_num
    linarith
  · intro h
    by_contra hgt
    have hnatQ : (199999 : ℚ) * up ≤ 199998 * total := by exact_mod_cast (by omega)
    refine reportedUptime_ne_hundred hle ?_ h
    rw [div_mul_eq_mul_div, div_le_iff₀ (by linarith)]
    norm_num
    linarith

/-- So it is with `0` and the checks that succeeded. -/
theorem reportedUptime_zero_bounds (hle : up ≤ total) (hpos : 0 < total) :
    (200001 * up ≤ total → reportedUptime up total = 0) ∧
      (reportedUptime up total = 0 → 199999 * up ≤ total) := by
  have htotal : (1 : ℚ) ≤ total := by exact_mod_cast hpos
  constructor
  · intro h
    have hnatQ : (200001 : ℚ) * up ≤ total := by exact_mod_cast h
    refine reportedUptime_eq_zero hle ?_
    rw [div_mul_eq_mul_div, div_le_iff₀ (by linarith)]
    norm_num
    linarith
  · intro h
    by_contra hgt
    have hnatQ : (total : ℚ) ≤ 199999 * up := by exact_mod_cast (not_le.1 hgt).le
    refine reportedUptime_ne_zero hle ?_ h
    rw [div_mul_eq_mul_div, le_div_iff₀ (by linarith)]
    norm_num
    linarith

end Rounding

/-! ## What the windows depend on -/

/-- Two monitors, each with its log, have the same checks: the same outcomes, latencies and times
up to their order. -/
def SameChecks (logs logs' : List LogRow) (id id' : ℕ) : Prop :=
  ((logs.filter (·.monitorId = id)).map LogRow.sample).Perm
    ((logs'.filter (·.monitorId = id')).map LogRow.sample)

variable {rows rows' : List CheckSample} {logs logs' : List LogRow} {id id' : ℕ}

/-- The largest element does not depend on the order. -/
lemma max?_perm {l l' : List Time} (h : l.Perm l') : l.max? = l'.max? := by
  ext t
  simp only [List.max?_eq_some_iff, h.mem_iff]

/-- Nor does the mean. -/
lemma average_perm {l l' : List ℕ} (h : l.Perm l') : average l = average l' := by
  have hnil : l = [] ↔ l' = [] := by rw [← List.length_eq_zero_iff, h.length_eq,
    List.length_eq_zero_iff]
  unfold average
  rw [h.sum_eq, h.length_eq]
  simp only [hnil]

/-- Grouping does not depend on the order of the rows. -/
lemma groupStage_perm (h : rows.Perm rows') : groupStage rows = groupStage rows' := by
  have hlat : (upLatencies rows).Perm (upLatencies rows') := (h.filter _).filterMap _
  have hnil : rows = [] ↔ rows' = [] := by rw [← List.length_eq_zero_iff, h.length_eq,
    List.length_eq_zero_iff]
  unfold groupStage
  rw [average_perm hlat, max?_perm (h.map _), h.length_eq, h.countP_eq]
  simp only [hnil]

/-- **The windows depend on the checks and on the clock only.** -/
theorem getUptimeWindows_congr (h : SameChecks logs logs' id id') (now : Time) :
    getUptimeWindows logs id now = getUptimeWindows logs' id' now := by
  have hsplit : ∀ (logs : List LogRow) (id : ℕ), matchedRows logs id now =
      ((logs.filter (·.monitorId = id)).map LogRow.sample).filter
        (now - window30d ≤ ·.timestamp) := by
    intro logs id
    rw [matchedRows, List.filter_map, List.filter_filter]
    congr 1
    exact List.filter_congr fun row _ => Bool.and_comm _ _
  have hrows : (matchedRows logs id now).Perm (matchedRows logs' id' now) := by
    rw [hsplit, hsplit]
    exact h.filter _
  have hfacet : ∀ since, facet (matchedRows logs id now) since =
      facet (matchedRows logs' id' now) since := fun since => by
    rw [facet, facet, groupStage_perm (hrows.filter _)]
  simp [getUptimeWindows, hfacet]

end WatchTower
