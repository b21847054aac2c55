import WatchTower.Documents.Expiry
import WatchTower.Pages.UptimeAggregation

set_option relaxedAutoImplicit false
set_option autoImplicit false

/-!
# The retention of the check log

The rows of the log expire after `LOG_RETENTION_DAYS`, by an index of the schema of the log; the
database removes them some time later. The windows of the uptime are computed from what is left.

## Main definitions

* `WatchTower.logRetentionDays`, `WatchTower.expireAfterSeconds` — the setting and the index.
* `WatchTower.LogStep` — the log is written, and expired rows are removed.
* `WatchTower.WindowBacked` — a window is computed from all of its checks.

## Main results

* `WatchTower.windowBacked_iff` — which windows are, for each setting.
-/

namespace WatchTower

open Documents Transition

/-- `num(raw, fallback)`, for the value of `Number(raw)` if that is finite. -/
def num (parsed : Option ℚ) (fallback : ℚ) : ℚ :=
  match parsed with
  | some q => if 0 ≤ q then q else fallback
  | none => fallback

/-- `LOG_RETENTION_DAYS`, for the value of the environment variable. -/
def logRetentionDays (parsed : Option ℚ) : ℚ := max 1 (num parsed 30)

/-- `expireAfterSeconds`, in the whole seconds that the database counts. -/
def expireAfterSeconds (parsed : Option ℚ) : ℤ := toInteger (logRetentionDays parsed * 24 * 60 * 60)

/-- A row has expired. One without a time never does. -/
def LogDocument.HasExpired (parsed : Option ℚ) (now : Time) (d : LogDocument) : Prop :=
  ∃ t, d.timestamp = some t ∧ t + expireAfterSeconds parsed * 1000 ≤ now

/-- One event of the log. -/
abbrev LogStep (parsed : Option ℚ) :
    Expiring LogDocument Time → ExpiryEvent LogDocument Time → Expiring LogDocument Time → Prop :=
  ExpiryStep (LogDocument.HasExpired parsed)

/-- **A window is backed with data**: at any time, the entry is the one that all rows ever written
give. -/
def WindowBacked (parsed : Option ℚ) (key : WindowKey) : Prop :=
  ∀ start es s id now, Run (LogStep parsed) ⟨[], [], start⟩ es s → s.clock < now →
    (LogDocument.getUptimeWindows s.docs id now).entry key =
      (LogDocument.getUptimeWindows s.history id now).entry key

/-- The days of a window. -/
def WindowKey.days : WindowKey → ℕ
  | day => 1
  | week => 7
  | month => 30

/-- A window in seconds. -/
lemma WindowKey.ms_eq (key : WindowKey) : key.ms = (key.days * 86400 : ℕ) * 1000 := by
  cases key <;> decide

/-- The seconds of the index. -/
lemma expireAfterSeconds_eq (parsed : Option ℚ) :
    expireAfterSeconds parsed = ⌊logRetentionDays parsed * 24 * 60 * 60⌋ := by
  have hone : 1 ≤ logRetentionDays parsed := le_max_left _ _
  exact toInteger_of_nonneg (by linarith)

/-- The rows are kept for a window exactly when the days of the setting are enough. -/
lemma le_expireAfterSeconds_iff (parsed : Option ℚ) (key : WindowKey) :
    key.ms ≤ expireAfterSeconds parsed * 1000 ↔ (key.days : ℚ) ≤ logRetentionDays parsed := by
  rw [key.ms_eq, expireAfterSeconds_eq]
  have hscale : ((key.days * 86400 : ℕ) : ℤ) * 1000 ≤
      ⌊logRetentionDays parsed * 24 * 60 * 60⌋ * 1000 ↔
        ((key.days * 86400 : ℕ) : ℤ) ≤ ⌊logRetentionDays parsed * 24 * 60 * 60⌋ := by
    omega
  rw [hscale, Int.le_floor]
  push_cast
  constructor
  · intro h
    linarith
  · intro h
    linarith

/-- A row of a window has not expired while the rows are kept for it. -/
lemma not_hasExpired {parsed : Option ℚ} {key : WindowKey}
    (hle : key.ms ≤ expireAfterSeconds parsed * 1000) {clock now t : Time} (hclock : clock < now)
    (ht : t ≤ clock) {d : LogDocument} (hd : d.isSince (now - key.ms) = true) :
    ¬d.HasExpired parsed t := by
  rintro ⟨stamp, hstamp, hexpired⟩
  rw [LogDocument.isSince, hstamp, Option.any_some, decide_eq_true_eq] at hd
  linarith

/-- Rows that are kept for a window are all there. -/
lemma entry_eq_of_run {parsed : Option ℚ} {key : WindowKey}
    (hdays : (key.days : ℚ) ≤ logRetentionDays parsed) {start now : Time}
    {es : List (ExpiryEvent LogDocument Time)} {s : Expiring LogDocument Time}
    (h : Run (LogStep parsed) ⟨[], [], start⟩ es s) (hclock : s.clock < now) (id : ℕ) :
    (LogDocument.getUptimeWindows s.docs id now).entry key =
      (LogDocument.getUptimeWindows s.history id now).entry key := by
  have hle := (le_expireAfterSeconds_iff parsed key).2 hdays
  have hrows : rowsIn s.docs id now key = rowsIn s.history id now key := by
    refine filter_of_run h fun d hd t ht => ?_
    rw [Bool.and_eq_true] at hd
    exact not_hasExpired hle hclock ht hd.2
  rw [entry_getUptimeWindows, entry_getUptimeWindows, hrows]

/-- **A window is backed with data** exactly when the rows are kept for as many days as it has. -/
theorem windowBacked_iff (parsed : Option ℚ) (key : WindowKey) :
    WindowBacked parsed key ↔ (key.days : ℚ) ≤ logRetentionDays parsed := by
  constructor
  · intro h
    rw [← le_expireAfterSeconds_iff]
    by_contra hlt
    -- A row at the epoch is gone just before it leaves the window.
    let row : LogDocument := ⟨some 0, some .up, none, some 0⟩
    have hseconds : expireAfterSeconds parsed * 1000 < key.ms := not_le.1 hlt
    have hday : WindowKey.day.ms ≤ expireAfterSeconds parsed * 1000 :=
      (le_expireAfterSeconds_iff parsed .day).2 (by simp [WindowKey.days, logRetentionDays])
    have hnonneg : 0 ≤ expireAfterSeconds parsed * 1000 := le_trans (by decide) hday
    have hexpired : row.HasExpired parsed (expireAfterSeconds parsed * 1000) := ⟨0, rfl, by simp⟩
    have heq := h 0 _ _ 0 key.ms (exists_run_expired hnonneg hexpired) hseconds
    have hcount := congrArg UptimeWindow.totalChecks heq
    rw [entry_getUptimeWindows, entry_getUptimeWindows, (agreesWith_ofBucket _ _).totalChecks,
      (agreesWith_ofBucket _ _).totalChecks] at hcount
    simp [rowsIn, row, LogDocument.isOf, LogDocument.isSince] at hcount
  · exact fun hdays start es s id now hrun hclock => entry_eq_of_run hdays hrun hclock id

end WatchTower
