import Mathlib.Data.List.DropRight
import WatchTower.Documents.Limited
import WatchTower.Pages.Retention

set_option relaxedAutoImplicit false
set_option autoImplicit false

/-!
# The series of the charts

`recentLogs` of `controllers/metrics.controller.js`: the newest rows of a monitor, up to a limit,
in the order the charts are read in. They are queried from the log with its retention.

## Main definitions

* `WatchTower.IsRecentLogs` — the answers of `recentLogs`.
* `WatchTower.InOrder` — the checks of a monitor are logged in the order of their times.

## Main results

* `WatchTower.isRecentLogs_concat_iff` — a new check is the last point, and the oldest one leaves.
* `WatchTower.recentLogs_of_run` — the series after any run of the log: the last rows of the
  monitor, among them each of the newest checks that has not expired.
-/

namespace WatchTower

open Documents Transition

/-- `SERIES_LIMIT`. -/
def seriesLimit : ℕ := 100

/-- `{ timestamp: -1 }`: a missing time comes last. -/
def LogDocument.newestFirst (a b : LogDocument) : Bool :=
  match a.timestamp, b.timestamp with
  | _, none => true
  | none, some _ => false
  | some t, some u => u ≤ t

/-- The answers of `recentLogs(ownerId, monitorId)`, for a monitor of the owner. -/
def IsRecentLogs (docs : List LogDocument) (id : ℕ) (series : List LogDocument) : Prop :=
  Limited LogDocument.newestFirst seriesLimit (docs.filter (·.isOf id)) series.reverse

/-- One row is older than another. -/
def LogDocument.IsOlder (a b : LogDocument) : Prop :=
  b.newestFirst a = true ∧ a.newestFirst b = false

/-- The checks of a monitor are logged in the order of their times. -/
def InOrder (id : ℕ) (rows : List LogDocument) : Prop :=
  (rows.filter (·.isOf id)).Pairwise LogDocument.IsOlder

variable {docs series : List LogDocument} {id : ℕ} {row : LogDocument}

/-- **A new check** is the last point of the series, and the oldest one leaves it when it is
full. -/
theorem isRecentLogs_concat_iff (hrow : row.isOf id = true)
    (hnew : ∀ d ∈ docs.filter (·.isOf id), d.IsOlder row) :
    IsRecentLogs (docs ++ [row]) id series ↔
      ∃ shown, IsRecentLogs docs id shown ∧ series = shown.rtake (seriesLimit - 1) ++ [row] := by
  have hrows : (docs ++ [row]).filter (·.isOf id) = docs.filter (·.isOf id) ++ [row] := by
    rw [List.filter_append, List.filter_cons_of_pos hrow, List.filter_nil]
  rw [IsRecentLogs, hrows]
  refine (limited_concat_iff (k := seriesLimit - 1) hnew).trans ?_
  constructor
  · rintro ⟨others, hothers, heq⟩
    obtain ⟨more, hmore, rfl⟩ := (limited_iff_exists_take (Nat.sub_le seriesLimit 1)).1 hothers
    refine ⟨more.reverse, by rwa [IsRecentLogs, List.reverse_reverse], ?_⟩
    rw [List.rtake_eq_reverse_take_reverse, List.reverse_reverse, ← List.reverse_cons, ← heq,
      List.reverse_reverse]
  · rintro ⟨shown, hshown, rfl⟩
    refine ⟨_, (limited_iff_exists_take (Nat.sub_le seriesLimit 1)).2 ⟨_, hshown, rfl⟩, ?_⟩
    rw [List.reverse_append, List.rtake_eq_reverse_take_reverse]
    simp

/-- Rows in order have one series, the last ones. -/
lemma isRecentLogs_iff (h : InOrder id docs) :
    IsRecentLogs docs id series ↔ series = (docs.filter (·.isOf id)).rtake seriesLimit := by
  rw [IsRecentLogs, limited_iff_of_pairwise h, List.rtake_eq_reverse_take_reverse,
    List.reverse_eq_iff]

/-- A row among the last ones has few after it. -/
lemma exists_of_mem_rtake {rows : List LogDocument} {k : ℕ} (h : row ∈ rows.rtake k) :
    ∃ pre post, rows = pre ++ row :: post ∧ post.length < k := by
  obtain ⟨before, post, hdrop⟩ := List.append_of_mem h
  have hlength : (rows.rtake k).length ≤ k := by
    rw [List.rtake, List.length_drop]
    omega
  refine ⟨rows.take (rows.length - k) ++ before, post, ?_, ?_⟩
  · rw [List.append_assoc, ← hdrop, List.rtake, List.take_append_drop]
  · rw [hdrop, List.length_append, List.length_cons] at hlength
    omega

/-- A row with few after it is among the last ones. -/
lemma mem_rtake_middle {pre post : List LogDocument} {k : ℕ} (h : post.length < k) :
    row ∈ (pre ++ row :: post).rtake k := by
  have hle : (pre ++ row :: post).length - k ≤ pre.length := by
    rw [List.length_append, List.length_cons]
    omega
  rw [List.rtake, List.drop_append_of_le_length hle]
  exact List.mem_append_right _ List.mem_cons_self

/-- Among the last of some rows in order, a row is among the last of those that are left. -/
lemma mem_rtake_of_sublist {rows kept : List LogDocument} {k : ℕ}
    (h : rows.Pairwise LogDocument.IsOlder) (hkept : kept.Sublist rows) (hrow : row ∈ rows.rtake k)
    (hmem : row ∈ kept) : row ∈ kept.rtake k := by
  obtain ⟨pre, post, rfl, hpost⟩ := exists_of_mem_rtake hrow
  obtain ⟨pre', post', rfl⟩ := List.append_of_mem hmem
  have hinside := h.sublist hkept
  rw [List.pairwise_append, List.pairwise_cons] at h hinside
  -- The rows after it are those that are newer, and there are no more of them among those left.
  have hcount : (pre ++ row :: post).countP (fun d => !row.newestFirst d) ≤ post.length := by
    have hpre : pre.countP (fun d => !row.newestFirst d) = 0 := by
      rw [List.countP_eq_zero]
      intro d hd
      simp [(h.2.2 d hd row List.mem_cons_self).1]
    have hself : row.newestFirst row = true := by
      unfold LogDocument.newestFirst
      cases row.timestamp <;> simp
    rw [List.countP_append, hpre, List.countP_cons_of_neg (by simp [hself]), Nat.zero_add]
    exact List.countP_le_length
  have hcount' : post'.length ≤ (pre' ++ row :: post').countP fun d => !row.newestFirst d := by
    have hall : post'.countP (fun d => !row.newestFirst d) = post'.length := by
      rw [List.countP_eq_length]
      intro d hd
      simp [(hinside.2.1.1 d hd).2]
    rw [List.countP_append, List.countP_cons, hall]
    omega
  have hle := hkept.countP_le (p := fun d => !row.newestFirst d)
  exact mem_rtake_middle (by omega)

/-- A row that has expired stays so. -/
lemma LogDocument.HasExpired.mono {parsed : Option ℚ} {t now : Time} (h : row.HasExpired parsed t)
    (hle : t ≤ now) : row.HasExpired parsed now := by
  obtain ⟨stamp, hstamp, hexpired⟩ := h
  exact ⟨stamp, hstamp, hexpired.trans hle⟩

/-- **The series after any run of the log** in which the checks of the monitor are logged in the
order of their times: the last rows of the monitor, among them each of the newest checks that has
not expired. -/
theorem recentLogs_of_run {parsed : Option ℚ} {start : Time}
    {es : List (ExpiryEvent LogDocument Time)} {s : Expiring LogDocument Time}
    (h : Run (LogStep parsed) ⟨[], [], start⟩ es s) (horder : InOrder id s.history) :
    (∀ series, IsRecentLogs s.docs id series ↔
        series = (s.docs.filter (·.isOf id)).rtake seriesLimit) ∧
      ∀ row ∈ (s.history.filter (·.isOf id)).rtake seriesLimit, ¬row.HasExpired parsed s.clock →
        row ∈ (s.docs.filter (·.isOf id)).rtake seriesLimit := by
  have hsublist : (s.docs.filter (·.isOf id)).Sublist (s.history.filter (·.isOf id)) :=
    (sublist_of_run h).filter _
  refine ⟨fun series => isRecentLogs_iff (horder.sublist hsublist), fun row hrow hkept => ?_⟩
  refine mem_rtake_of_sublist horder hsublist hrow ?_
  have hhistory := List.mem_filter.1 (List.mem_of_mem_drop hrow)
  have hrows : s.docs.filter (fun d => d = row) = s.history.filter fun d => d = row := by
    refine filter_of_run h fun d hd t ht hexpired => hkept ?_
    rw [← of_decide_eq_true hd]
    exact hexpired.mono ht
  have hmem : row ∈ s.docs.filter fun d => d = row := by
    rw [hrows]
    exact List.mem_filter.2 ⟨hhistory.1, decide_eq_true rfl⟩
  exact List.mem_filter.2 ⟨(List.mem_filter.1 hmem).1, hhistory.2⟩

/-- A successful check of the monitor `0`. -/
def successAt (t : Time) : LogDocument := ⟨some 0, some .up, some 80, some t⟩

/-- Of three checks, the first is removed after thirty days; the other two are the series. -/
theorem recentLogs_three_checks :
    (∀ series, IsRecentLogs [successAt 1, successAt 2] 0 series ↔
        series = [successAt 1, successAt 2]) ∧
      ∀ row ∈ [successAt 0, successAt 1, successAt 2], ¬row.HasExpired none 2592000000 →
        row ∈ [successAt 1, successAt 2] := by
  have hexpired : (successAt 0).HasExpired none 2592000000 := by
    refine ⟨0, rfl, ?_⟩
    rw [expireAfterSeconds_eq, logRetentionDays, num]
    norm_num
  have hrun : Run (LogStep none) ⟨[], [], 0⟩
      [.insert (successAt 0), .insert (successAt 1), .insert (successAt 2), .elapse 2592000000,
        .expire (successAt 0)]
      ⟨[successAt 1, successAt 2], [successAt 0, successAt 1, successAt 2], 2592000000⟩ :=
    .cons (.insert _ _) (.cons (.insert _ _) (.cons (.insert _ _) (.cons
      (.elapse _ (by decide)) (.cons (expire_head hexpired) (.nil _)))))
  have horder : InOrder 0 [successAt 0, successAt 1, successAt 2] := by
    simp [InOrder, LogDocument.isOf, successAt, LogDocument.IsOlder, LogDocument.newestFirst]
  exact recentLogs_of_run hrun horder

end WatchTower
