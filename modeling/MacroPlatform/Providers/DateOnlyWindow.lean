import MacroPlatform.Contracts.Calendar
import MacroPlatform.Lib.Except

/-! # Date-only records in a window

A record that has a date and no time is in a window when its UTC day overlaps it. The repository
compares dates with the dates of the window, the providers compare the midnights of the day with
the bounds. The comparisons come to the same, as far as the calendar goes: the last date has no
next midnight, and a bound near the ends may have no time in UTC.
-/

namespace MacroPlatform.Providers

/-- Why a test of a window raises. -/
inductive WindowError where
  | overflow (error : DateOverflow)
  | assertion
deriving DecidableEq, Repr

/-- The window of a `MacroReleaseQuery` or a `NewsQuery`; `validate_range` keeps it from being
empty. -/
structure QueryWindow where
  start : PyDatetime
  stop : PyDatetime
  start_lt : start.instant < stop.instant

/-- When a release is scheduled or an event was published. -/
structure Scheduled where
  instant : Option PyDatetime
  date : Option PyDate

/-- `_date_only_window`. -/
def checkedDateOnlyWindow (start stop : PyDatetime) : Except DateOverflow (Day × Day) :=
  start.astimezoneUtc >>= fun startUtc =>
  stop.astimezoneUtc >>= fun stopUtc =>
  if stopUtc - 1 < datetimeMin then .error .outOfRange
  else .ok (Instant.date startUtc, Instant.date (stopUtc - 1))

/-- The repository's test of a date-only record. -/
def storedInWindow (query : QueryWindow) (date : PyDate) : Except WindowError Bool :=
  match checkedDateOnlyWindow query.start query.stop with
  | .error error => .error (.overflow error)
  | .ok (dateFrom, dateTo) => .ok (dateFrom ≤ date.1 ∧ date.1 ≤ dateTo)

/-- The end of a day, where an exception goes up. -/
def dayEnd (date : PyDate) : Except WindowError Instant :=
  match date.nextMidnight with
  | .error error => .error (.overflow error)
  | .ok midnight => .ok midnight

/-- The test that three providers have a copy of. -/
def overlapsQueryWindow (item : Scheduled) (query : QueryWindow) : Except WindowError Bool :=
  match item.instant, item.date with
  | some t, _ => .ok (query.start.instant ≤ t.instant ∧ t.instant < query.stop.instant)
  | none, none => .error .assertion
  | none, some date =>
    dayEnd date >>= fun dayEnd =>
    .ok (date.midnight < query.stop.instant ∧ query.start.instant < dayEnd)

/-- `_release_overlaps_query_window` of the CN provider. -/
def cnReleaseOverlapsQueryWindow := overlapsQueryWindow

/-- `in_window` of `_news_matches_query` of the CN provider. -/
def cnNewsInWindow := overlapsQueryWindow

/-- `_news_overlaps_query_window` of the HK provider. -/
def hkNewsOverlapsQueryWindow := overlapsQueryWindow

/-- `_release_overlaps_query_window` of the US provider. The end of the day is only computed for
a day that starts before the window ends. -/
def usReleaseOverlapsQueryWindow (item : Scheduled) (query : QueryWindow) :
    Except WindowError Bool :=
  match item.instant, item.date with
  | some t, _ => .ok (query.start.instant ≤ t.instant ∧ t.instant < query.stop.instant)
  | none, none => .error .assertion
  | none, some date =>
    if date.midnight < query.stop.instant then
      dayEnd date >>= fun dayEnd => .ok (query.start.instant < dayEnd)
    else .ok false

/-! ## Within the calendar -/

/-- The dates of a window, when its bounds have a time in UTC. -/
theorem checkedDateOnlyWindow_ok {query : QueryWindow} (hstart : query.start.InUtc)
    (hstop : query.stop.InUtc) :
    checkedDateOnlyWindow query.start query.stop =
      .ok (dateOnlyWindow query.start.instant query.stop.instant) := by
  have hlater : ¬ query.stop.instant - 1 < datetimeMin := by
    have hmin : datetimeMin < query.stop.instant := lt_of_le_of_lt hstart.1 query.start_lt
    exact not_lt_of_ge (Int.le_sub_one_of_lt hmin)
  rw [checkedDateOnlyWindow, PyDatetime.astimezoneUtc, if_pos hstart,
    PyDatetime.astimezoneUtc, if_pos hstop]
  exact if_neg hlater

/-- A bound without a time in UTC stops the repository's test. -/
theorem storedInWindow_error {query : QueryWindow} {date : PyDate}
    (h : ¬ (query.start.InUtc ∧ query.stop.InUtc)) :
    storedInWindow query date = .error (.overflow .outOfRange) := by
  have hwindow : checkedDateOnlyWindow query.start query.stop = .error .outOfRange := by
    rw [checkedDateOnlyWindow, PyDatetime.astimezoneUtc, PyDatetime.astimezoneUtc]
    by_cases hstart : query.start.InUtc
    · have hstop : ¬ query.stop.InUtc := fun hstop => h ⟨hstart, hstop⟩
      rw [if_pos hstart, if_neg hstop]
      rfl
    · rw [if_neg hstart]
      rfl
  rw [storedInWindow, hwindow]

/-- A day overlaps a window exactly when it lies between the dates of the window. -/
theorem between_dates_iff {start stop : Instant} {day : Day} :
    (dateOnlyWindow start stop).1 ≤ day ∧ day ≤ (dateOnlyWindow start stop).2 ↔
      day * dayMicroseconds < stop ∧ start < day * dayMicroseconds + dayMicroseconds := by
  have hdays : ∀ a b d : ℤ, a / 86400000000 ≤ d ∧ d ≤ (b - 1) / 86400000000 ↔
      d * 86400000000 < b ∧ a < d * 86400000000 + 86400000000 := by
    intro a b d
    omega
  exact hdays start stop day

/-- The providers' answer for a date that has a next midnight. -/
theorem overlapsQueryWindow_date {query : QueryWindow} {date : PyDate} (h : date < ⊤) :
    overlapsQueryWindow ⟨none, some date⟩ query =
      .ok (date.midnight < query.stop.instant ∧
        query.start.instant < date.midnight + dayMicroseconds) := by
  simp only [overlapsQueryWindow, dayEnd, PyDate.nextMidnight_of_lt h, Raising.ok_bind]

/-- The US provider asks for the end of the day later, with the same answer. -/
theorem usReleaseOverlapsQueryWindow_date {query : QueryWindow} {date : PyDate} (h : date < ⊤) :
    usReleaseOverlapsQueryWindow ⟨none, some date⟩ query =
      overlapsQueryWindow ⟨none, some date⟩ query := by
  rw [overlapsQueryWindow_date h]
  by_cases hstart : date.midnight < query.stop.instant
  · simp [usReleaseOverlapsQueryWindow, dayEnd, PyDate.nextMidnight_of_lt h, Raising.ok_bind,
      hstart]
  · simp [usReleaseOverlapsQueryWindow, hstart]

/-- The five tests of a date-only record give one answer exactly for the dates before the last
one and the windows whose bounds have a time in UTC. -/
theorem dateOnlyWindows_agree_iff (query : QueryWindow) (date : PyDate) :
    (∃ accepted, storedInWindow query date = .ok accepted ∧
      cnReleaseOverlapsQueryWindow ⟨none, some date⟩ query = .ok accepted ∧
      usReleaseOverlapsQueryWindow ⟨none, some date⟩ query = .ok accepted ∧
      cnNewsInWindow ⟨none, some date⟩ query = .ok accepted ∧
      hkNewsOverlapsQueryWindow ⟨none, some date⟩ query = .ok accepted) ↔
      date < ⊤ ∧ query.start.InUtc ∧ query.stop.InUtc := by
  constructor
  -- the last date has no next midnight, a bound out of range has no UTC date
  · rintro ⟨accepted, hstored, hcn, -⟩
    refine ⟨?_, ?_⟩
    · by_contra hlast
      rw [not_lt_top_iff.mp hlast] at hcn
      cases hcn
    · by_contra hrange
      rw [storedInWindow_error hrange] at hstored
      cases hstored
  -- with both in range every test compares the same two dates
  · rintro ⟨hlast, hstart, hstop⟩
    have hcn := @overlapsQueryWindow_date query date hlast
    have hus := (usReleaseOverlapsQueryWindow_date hlast).trans hcn
    refine ⟨_, ?_, hcn, hus, hcn, hcn⟩
    simp only [storedInWindow, checkedDateOnlyWindow_ok hstart hstop, Except.ok.injEq,
      decide_eq_decide]
    exact between_dates_iff

/-- From the first midnight of the calendar in Shanghai, which no datetime of UTC reads, to
2026-07-29 in Shanghai. -/
def fromFirstMidnight : QueryWindow :=
  { start := ⟨datetimeMin, 28800000000, by decide, by decide⟩
    stop := ⟨20663 * 86400000000, 28800000000, by decide, by decide⟩
    start_lt := by decide }

/-- 2026-07-28. -/
def july28 : PyDate := ⟨20662, by decide⟩

/-- Every provider's test finds the record, the repository's gets to no answer. -/
theorem firstMidnight_disagrees :
    ¬ (storedInWindow fromFirstMidnight july28 = .ok true ↔
      cnReleaseOverlapsQueryWindow ⟨none, some july28⟩ fromFirstMidnight = .ok true ∧
      usReleaseOverlapsQueryWindow ⟨none, some july28⟩ fromFirstMidnight = .ok true ∧
      cnNewsInWindow ⟨none, some july28⟩ fromFirstMidnight = .ok true ∧
      hkNewsOverlapsQueryWindow ⟨none, some july28⟩ fromFirstMidnight = .ok true) ∧
      cnReleaseOverlapsQueryWindow ⟨none, some july28⟩ fromFirstMidnight = .ok true ∧
      storedInWindow fromFirstMidnight july28 = .error (.overflow .outOfRange) := by
  decide +kernel

end MacroPlatform.Providers
