import MacroPlatform.Ingestion.UsTwelveData
import MacroPlatform.Providers.Conservation
import MacroPlatform.Schedule.Task

/-! # Walks over the bars of Twelve Data

A scheduled task asks for page after page until its checkpoint is completed, and the checkpoint
adds up what the pages reject. Every page reads the whole source again and counts all of its
quarantined rows, so the sum is that number once for each page.

* `fullWalk_rejected`: what a walk adds up;
* `exists_fullWalk`: an unchanged source is walked to its end;
* `rejections_counted_once_iff`: when the sum is the number of quarantined rows.
-/

namespace MacroPlatform.Schedule

open Ingestion Paging
open Providers
open Providers.TwelveData
open Raising (bind_ok ok_bind)
open Report (IsSha256 Writing)
open Transaction

variable (w : Writing) (r : Reading) (web : Web) (handler : UsTwelveDataIngestHandler)
  (request : IngestJobRequest) (snapshot : Snapshot)

/-- The request of a page: the requests of a task differ in their cursor only. -/
def pageRequest (cursor : Option String) : IngestJobRequest :=
  { request with cursor := cursor.map .ofString }

/-- A walk of the checkpoint over an unchanged source, until it is completed: the row is claimed,
or the page of its cursor is executed and counted. -/
inductive FullWalk : ScheduledTaskCheckpointRow → ScheduledTaskCheckpointRow → Prop
  | done {row : ScheduledTaskCheckpointRow} : row.status = .completed → FullWalk row row
  | claim {row last : ScheduledTaskCheckpointRow} {leaseOwnerId : UUID} :
      row.status = .active → FullWalk (row.claimed leaseOwnerId) last → FullWalk row last
  | page {row next last : ScheduledTaskCheckpointRow}
      {checkpoint checkpoint' : ScheduledTaskCheckpoint} {visit : Visit}
      {result : IngestJobResult} :
      scheduledTaskCheckpoint row = .ok checkpoint → visit.Sees snapshot →
      handler.runCheckpointed w r web (pageRequest request checkpoint.nextCursor) visit =
        .ok result →
      advance checkpoint (pageProgress result) (some row) = .ok checkpoint' (some next) →
      FullWalk next last → FullWalk row last

variable {w} {r} {web} {handler} {request} {snapshot}

/-- The row is to ask for the page at an offset. -/
def AsksAt (w : Writing) (handler : UsTwelveDataIngestHandler) (request : IngestJobRequest)
    {r : Reading} {web : Web} (items : List (ValidBar r web)) (offset : ℕ)
    (row : ScheduledTaskCheckpointRow) : Prop :=
  row.status = .active ∧ offset ≤ items.length ∧ offset ≤ maxCursorOffset ∧
    row.nextCursor.map Text.ofString = cursorAt w handler.provider.codec
      (handler.provider.fingerprint (handler.barQuery request) (handler.liveAsOf request)) items
      offset

/-- A cursor that is stored comes back as it was. -/
theorem stored_cursor (cursor : Option Text) :
    (cursor.map (·.value)).map Text.ofString = cursor := by
  cases cursor with
  | none => rfl
  | some text => exact congrArg some (Text.ofString_value text)

/-- What a page leaves: it has counted every warning of the source, and the row is completed, or
asks for the next page. -/
theorem page_step {items : List (ValidBar r web)} {warnings : List RowWarning}
    (hread : snapshotRead w r web handler.provider snapshot (handler.barQuery request) =
      .ok (items, warnings))
    {row next : ScheduledTaskCheckpointRow} {checkpoint checkpoint' : ScheduledTaskCheckpoint}
    {visit : Visit} {result : IngestJobResult} {offset : ℕ}
    (hasks : AsksAt w handler request items offset row)
    (hloaded : scheduledTaskCheckpoint row = .ok checkpoint) (hsees : visit.Sees snapshot)
    (hresult : handler.runCheckpointed w r web (pageRequest request checkpoint.nextCursor) visit =
      .ok result)
    (hadvance : advance checkpoint (pageProgress result) (some row) =
      .ok checkpoint' (some next)) :
    next.recordsRejected = row.recordsRejected + warnings.length ∧
      (offset + twelveDataPageSize < items.length →
        AsksAt w handler request items (offset + twelveDataPageSize) next) ∧
      (¬ offset + twelveDataPageSize < items.length → next.status = .completed) := by
  obtain ⟨hactive, hoffset, hmax, hcursor⟩ := hasks
  obtain ⟨-, -, hnext, -, -, -⟩ := scheduledTaskCheckpoint_ok hloaded
  -- the cursor of the request is the one the checkpoint was left with
  have hrequested : (pageRequest request checkpoint.nextCursor).cursor =
      cursorAt w handler.provider.codec
        (handler.provider.fingerprint (handler.barQuery request) (handler.liveAsOf request)) items
        offset := by
    rw [← hcursor, hnext]
    rfl
  obtain ⟨hrejected, -, hfollowing, hbound⟩ :=
    @runCheckpointed_ok w r web handler snapshot (pageRequest request checkpoint.nextCursor) visit
      hsees items warnings hread offset hoffset hmax hrequested result hresult
  obtain ⟨row', hrow, -, htable, -⟩ := advance_ok hadvance
  cases hrow
  cases htable
  -- rejected records, then a page that is followed, then the last one
  refine ⟨?_, ?_, ?_⟩
  · show row.recordsRejected + result.recordsRejected = _
    rw [hrejected]
  · intro hmore
    rw [if_pos hmore] at hfollowing
    -- a page that is followed leaves a cursor, so the task is not completed
    have hsome : result.nextCursor ≠ none := by
      rw [hfollowing, cursorAt, if_neg (by rw [twelveDataPageSize]; omega),
        List.getElem?_eq_getElem (by omega)]
      simp
    refine ⟨if_neg ?_, hmore.le, hbound hmore, ?_⟩
    · intro hnone
      exact hsome (Option.map_eq_none_iff.mp hnone)
    · exact (stored_cursor result.nextCursor).trans hfollowing
  -- the last page leaves none
  · intro hlast
    rw [if_neg hlast] at hfollowing
    apply if_pos
    show result.nextCursor.map _ = none
    rw [hfollowing]
    rfl

/-- A walk adds the warnings of the source once for each page that is left. -/
theorem fullWalk_rejected {items : List (ValidBar r web)} {warnings : List RowWarning}
    (hread : snapshotRead w r web handler.provider snapshot (handler.barQuery request) =
      .ok (items, warnings))
    {row last : ScheduledTaskCheckpointRow}
    (hwalk : FullWalk w r web handler request snapshot row last) {offset : ℕ}
    (hasks : AsksAt w handler request items offset row) :
    last.recordsRejected = row.recordsRejected +
      pageCount twelveDataPageSize (items.length - offset) * warnings.length := by
  -- induction on the walk
  induction hwalk generalizing offset with
  -- a task that still asks for a page is not completed
  | done hcompleted =>
    rw [hasks.1] at hcompleted
    cases hcompleted
  -- a claim changes nothing that is counted
  | claim _ _ ih => exact ih hasks
  | page hloaded hsees hresult hadvance hrest ih =>
    obtain ⟨hcounted, hmore, hlast⟩ := page_step hread hasks hloaded hsees hresult hadvance
    have hpage : 0 < twelveDataPageSize := by decide
    -- one more page than those that are left after it
    by_cases hleft : offset + twelveDataPageSize < items.length
    · have hpages : pageCount twelveDataPageSize (items.length - offset) =
          pageCount twelveDataPageSize (items.length - (offset + twelveDataPageSize)) + 1 := by
        rw [pageCount_more hpage (by omega), Nat.sub_sub]
      rw [ih (hmore hleft), hcounted, hpages, Nat.add_mul, one_mul]
      omega
    · -- nothing follows a completed row
      have hcompleted := hlast hleft
      rw [pageCount_last hpage (by omega), one_mul, ← hcounted]
      cases hrest with
      | done _ => rfl
      | claim hactive _ =>
        rw [hcompleted] at hactive
        cases hactive
      | page hloaded' _ _ hadvance' _ =>
        obtain ⟨_, hrow, hleased, -, -⟩ := advance_ok hadvance'
        cases hrow
        rw [hleased.2.2.1] at hcompleted
        cases hcompleted

/-! ## Walks that come to their end -/

/-- A row that can be read back. -/
structure Loads (row : ScheduledTaskCheckpointRow) : Prop where
  nodup : row.runIds.Nodup
  dataset : (Dataset.ofValue? row.dataset).isSome

theorem Loads.checkpoint {row : ScheduledTaskCheckpointRow} (h : Loads row) :
    ∃ checkpoint, scheduledTaskCheckpoint row = .ok checkpoint := by
  obtain ⟨dataset, hdataset⟩ := Option.isSome_iff_exists.mp h.dataset
  unfold scheduledTaskCheckpoint
  rw [if_neg (not_not.mpr h.nodup), hdataset]
  exact ⟨_, rfl⟩

/-- The lease of an active row is that of the checkpoint that is read from it. -/
theorem leasedTo_of_loaded {row : ScheduledTaskCheckpointRow}
    {checkpoint : ScheduledTaskCheckpoint} (h : scheduledTaskCheckpoint row = .ok checkpoint)
    (hactive : row.status = .active) : row.LeasedTo checkpoint := by
  unfold scheduledTaskCheckpoint at h
  split_ifs at h with hnodup
  cases hdataset : Dataset.ofValue? row.dataset with
  | none => simp [hdataset] at h
  | some dataset =>
    simp only [hdataset, Except.ok.injEq] at h
    subst h
    exact ⟨rfl, rfl, hactive, rfl, rfl⟩

/-- A row under the lease of the checkpoint is advanced. -/
theorem advance_leased {row : ScheduledTaskCheckpointRow}
    {checkpoint checkpoint' : ScheduledTaskCheckpoint} {page : PageProgress}
    (hleased : row.LeasedTo checkpoint) (hactive : checkpoint.status = .active)
    (hload : scheduledTaskCheckpoint (row.advanced checkpoint page) = .ok checkpoint') :
    advance checkpoint page (some row) =
      .ok checkpoint' (some (row.advanced checkpoint page)) := by
  have hstatus : ¬ checkpoint.status = .completed := by
    rw [hactive]
    nofun
  have hupdated := @ConditionalUpdate.updateWhere_of_guard _
    (fun row : ScheduledTaskCheckpointRow => row.LeasedTo checkpoint) _
    (·.advanced checkpoint page) row hleased
  unfold advance
  rw [if_neg hstatus]
  refine bind_ok_iff.mpr ⟨some row, some row, rfl, ?_⟩
  rw [hupdated]
  refine bind_ok_iff.mpr ⟨⟨⟩, some (row.advanced checkpoint page), rfl, ?_⟩
  exact fromExcept_ok_iff.mpr ⟨hload, rfl⟩

theorem withRun_nodup {runIds : List UUID} (h : runIds.Nodup) (runId : UUID) :
    (withRun runIds runId).Nodup := by
  by_cases hmem : runId ∈ runIds
  · rw [withRun, if_pos hmem]
    exact h
  · rw [withRun_of_not_mem hmem]
    exact List.nodup_append.mpr ⟨h, List.nodup_singleton runId, by
      intro a ha b hb heq
      rw [List.mem_singleton.mp hb] at heq
      exact hmem (heq ▸ ha)⟩

/-- An unchanged source whose bars are apart and not too many is walked to the end. -/
theorem exists_fullWalk {items : List (ValidBar r web)} {warnings : List RowWarning}
    (hread : snapshotRead w r web handler.provider snapshot (handler.barQuery request) =
      .ok (items, warnings))
    (hids : (items.map fun item => item.val.barId).Nodup) (hmax : items.length ≤ maxCursorOffset)
    {visit : Visit} (hsees : visit.Sees snapshot) (hpasses : visit.Passes handler request)
    {row : ScheduledTaskCheckpointRow} (hloads : Loads row) {offset : ℕ}
    (hasks : AsksAt w handler request items offset row) :
    ∃ last, FullWalk w r web handler request snapshot row last := by
  -- by what is left after the offset: a page leaves less
  induction hleft : items.length - offset using Nat.strong_induction_on
    generalizing row offset with
  | _ left ih =>
    obtain ⟨checkpoint, hloaded⟩ := hloads.checkpoint
    have hleased := leasedTo_of_loaded hloaded hasks.1
    obtain ⟨-, hstatus, hnext, hrunIds, -, -⟩ := scheduledTaskCheckpoint_ok hloaded
    have hrequested : (pageRequest request checkpoint.nextCursor).cursor =
        cursorAt w handler.provider.codec
          (handler.provider.fingerprint (handler.barQuery request) (handler.liveAsOf request))
          items offset := by
      rw [← hasks.2.2.2, hnext]
      rfl
    obtain ⟨result, hresult⟩ := @runCheckpointed_served w r web handler snapshot
      (pageRequest request checkpoint.nextCursor) visit hsees
      ⟨hpasses.valid, hpasses.current, hpasses.query, hpasses.window⟩ items warnings hread hids
      offset hasks.2.1 hmax hrequested
    have hloads' : Loads (row.advanced checkpoint (pageProgress result)) := by
      refine ⟨withRun_nodup ?_ result.runId, hloads.dataset⟩
      rw [hrunIds]
      exact hloads.nodup
    obtain ⟨checkpoint', hloaded'⟩ := hloads'.checkpoint
    have hadvance := advance_leased hleased (hstatus.trans hasks.1) hloaded'
    obtain ⟨-, hmore, hlast⟩ := page_step hread hasks hloaded hsees hresult hadvance
    by_cases hgoes : offset + twelveDataPageSize < items.length
    · have hpage : 0 < twelveDataPageSize := by decide
      obtain ⟨last, hrest⟩ := ih _ (by omega) hloads' (hmore hgoes) rfl
      exact ⟨last, .page hloaded hsees hresult hadvance hrest⟩
    · exact ⟨_, .page hloaded hsees hresult hadvance (.done (hlast hgoes))⟩

/-! ## What a walk counts -/

/-- The rejected records of a walk are the quarantined rows of the source exactly when there are
none of these, or one page holds all the bars. -/
theorem rejections_counted_once_iff (claim : CheckpointClaim) {items : List (ValidBar r web)}
    {warnings : List RowWarning} {last : ScheduledTaskCheckpointRow}
    (hread : snapshotRead w r web handler.provider snapshot (handler.barQuery request) =
      .ok (items, warnings))
    (hwalk : FullWalk w r web handler request snapshot claim.inserted last) :
    last.recordsRejected = warnings.length ↔
      warnings = [] ∨ items.length ≤ twelveDataPageSize := by
  have hpage : 0 < twelveDataPageSize := by decide
  have hasks : AsksAt w handler request items 0 claim.inserted :=
    ⟨rfl, Nat.zero_le _, Nat.zero_le _, rfl⟩
  have hsum : last.recordsRejected =
      pageCount twelveDataPageSize items.length * warnings.length := by
    rw [fullWalk_rejected hread hwalk hasks]
    exact Nat.zero_add _
  rw [hsum, ← pageCount_eq_one_iff hpage, ← List.length_eq_zero_iff]
  constructor
  -- one page, or no warning at all
  · intro h
    by_cases hzero : warnings.length = 0
    · exact Or.inl hzero
    · -- a walk of more pages counts a row more than once
      have hpositive : 0 < warnings.length := Nat.pos_of_ne_zero hzero
      exact Or.inr (Nat.eq_of_mul_eq_mul_right hpositive (h.trans (one_mul _).symm))
  · rintro (hzero | hone)
    · rw [hzero, mul_zero]
    · rw [hone, one_mul]

/-! ## Two pages of three funds -/

def qqq : BarInstrument where
  instrumentId := "ins_us_etf_qqq"
  canonicalSymbol := "XNAS:QQQ"
  sourceSymbol := "QQQ"
  currency := "USD"

def dia : BarInstrument where
  instrumentId := "ins_us_etf_dia"
  canonicalSymbol := "ARCX:DIA"
  sourceSymbol := "DIA"
  currency := "USD"

/-- The regular sessions of three years on which New York is four hours behind UTC. -/
@[irreducible] def summerSessions : List Day :=
  ((List.range 964).map fun (k : ℕ) => Day.ofDate 2025 3 10 + k).filter fun day =>
    (usEquityCalendarDay day).toOption = some .regular ∧
      (day < Day.ofDate 2025 11 1 ∨ Day.ofDate 2026 3 9 ≤ day ∧ day < Day.ofDate 2026 11 1 ∨
        Day.ofDate 2027 3 15 ≤ day)

theorem summerSessions_length_le : summerSessions.length ≤ 964 := by
  unfold summerSessions
  refine (List.length_filter_le _ _).trans ?_
  rw [List.length_map, List.length_range]

theorem summerSessions_increasing : summerSessions.Pairwise (· < ·) := by
  unfold summerSessions
  apply List.Pairwise.filter
  apply List.pairwise_map.mpr
  apply (List.pairwise_lt_range).imp
  intro a b h
  exact Int.add_lt_add_left (Int.ofNat_lt.mpr h) _

/-- The listed sessions are regular days within the window. -/
theorem mem_summerSessions {day : Day} (h : day ∈ summerSessions) :
    usEquityCalendarDay day = .ok .regular ∧ Day.ofDate 2025 3 10 ≤ day ∧
      day < Day.ofDate 2027 10 30 := by
  unfold summerSessions at h
  obtain ⟨hlisted, hopen⟩ := List.mem_filter.mp h
  obtain ⟨k, hk, rfl⟩ := List.mem_map.mp hlisted
  have hlast : (k : ℤ) < 964 := by exact_mod_cast List.mem_range.mp hk
  have hspan : Day.ofDate 2027 10 30 = Day.ofDate 2025 3 10 + 964 := by decide
  refine ⟨?_, Int.le_add_of_nonneg_right (Int.natCast_nonneg k), ?_⟩
  -- only a regular day has `.regular` as its status
  · have hregular := (decide_eq_true_iff.mp hopen).1
    cases hday : usEquityCalendarDay (Day.ofDate 2025 3 10 + k) with
    | error e =>
      rw [hday] at hregular
      cases hregular
    | ok status =>
      rw [hday] at hregular
      -- the calendar has no error in these years
      cases hregular
      rfl
  · rw [hspan]
    exact Int.add_lt_add_left hlast _

/-- The open and the close of these sessions. -/
theorem summerWindow {day : Day} (h : day ∈ summerSessions) :
    usEquitySessionWindow (fixedZone (-4)) day =
      .ok ⟨day * dayMicroseconds + clock 13 30, day * dayMicroseconds + clock 20 0⟩ := by
  have hback : ∀ time, toUsMarketUtc (fixedZone (-4)) day time =
      .ok (day * dayMicroseconds + (time + clock 4 0)) := by
    intro time
    have hsum : (fixedZone (-4)).at day time = day * dayMicroseconds + (time + clock 4 0) := by
      have hoffset : ∀ d t : ℤ, d * 86400000000 + t - -4 * 3600000000 =
          d * 86400000000 + (t + (4 * 60 + 0) * 60000000) := by
        omega
      exact hoffset day time
    have hlocal : (fixedZone (-4)).localTime ((fixedZone (-4)).at day time) =
        some (day * dayMicroseconds + time) := by
      rw [hsum]
      have hoffset : ∀ d t : ℤ, d * 86400000000 + (t + (4 * 60 + 0) * 60000000) +
          -4 * 3600000000 = d * 86400000000 + t := by
        omega
      exact congrArg some (hoffset day time)
    unfold toUsMarketUtc
    rw [hlocal]
    simp only
    rw [if_pos trivial, hsum]
  unfold usEquitySessionWindow
  rw [(mem_summerSessions h).1, ok_bind, if_neg (by decide), hback, ok_bind, if_neg (by decide),
    hback]
  rfl

/-- The values of a response: a row for each session, and one without a date. -/
def summerValues : List (Option Row) :=
  summerSessions.map (fun day => some (("datetime", .str day.isoformat) :: priceCells)) ++
    [some priceCells]

/-- The values of every response. -/
def summerSnapshot : Snapshot := fun symbol _ _ =>
  { metadata := some
      [("symbol", .str symbol), ("interval", .str "1day"), ("currency", .str "USD")]
    values := some summerValues }

/-- `str(value)` of a datetime in UTC without microseconds. -/
def utcText (t : Instant) : String :=
  Day.isoformat (t / dayMicroseconds) ++ (" " ++
    zeroPadded 2 (t % dayMicroseconds / 3600000000) ++ ":" ++
    zeroPadded 2 (t % dayMicroseconds / 60000000 % 60) ++ ":" ++
    zeroPadded 2 (t % dayMicroseconds / 1000000 % 60) ++ "+00:00")

example : utcText 1785331800000000 = "2026-07-29 13:30:00+00:00" := by decide +kernel

def summerReading : Reading := { sampleReading with datetimeText := fun t _ => utcText t }

/-- The date of a text, among these dates. -/
def dateAmong (days : List Day) (text : String) : Option Day :=
  days.find? fun day => day.isoformat = text

def summerWeb : Web := { rowsWeb with dateFromIsoformat := dateAmong summerSessions }

theorem summer_years {day : Day} (h : day ∈ summerSessions) : dateMin ≤ day ∧ day ≤ dateMax := by
  obtain ⟨-, hlow, hhigh⟩ := mem_summerSessions h
  have hmin : dateMin ≤ Day.ofDate 2025 3 10 := by decide
  have hmax : Day.ofDate 2027 10 30 ≤ dateMax := by decide
  exact ⟨hmin.trans hlow, hhigh.le.trans hmax⟩

theorem isoformat_summer {a b : Day} (ha : a ∈ summerSessions) (hb : b ∈ summerSessions)
    (h : a.isoformat = b.isoformat) : a = b := by
  obtain ⟨hmin, hmax⟩ := summer_years ha
  obtain ⟨hmin', hmax'⟩ := summer_years hb
  exact Day.isoformat_inj hmin hmax hmin' hmax' h

/-- A date is found by its text among dates whose texts differ. -/
theorem dateAmong_isoformat {days : List Day} {day : Day} (h : day ∈ days)
    (hapart : ∀ other ∈ days, other.isoformat = day.isoformat → other = day) :
    dateAmong days day.isoformat = some day := by
  unfold dateAmong
  cases hfound : days.find? fun other => other.isoformat = day.isoformat with
  | none =>
    have hnone := List.find?_eq_none.mp hfound day h
    simp at hnone
  | some other =>
    have hsame := List.find?_some hfound
    rw [hapart other (List.mem_of_find?_eq_some hfound) (by simpa using hsame)]

theorem summerWeb_date {day : Day} (h : day ∈ summerSessions) :
    summerWeb.dateFromIsoformat day.isoformat = some day := by
  have hapart : ∀ other ∈ summerSessions, other.isoformat = day.isoformat → other = day :=
    fun _ hother => isoformat_summer hother h
  have hdate : summerWeb.dateFromIsoformat = dateAmong summerSessions := rfl
  rw [hdate]
  exact dateAmong_isoformat h hapart

theorem summer_div (day : Day) : (day * dayMicroseconds + clock 13 30) / dayMicroseconds = day := by
  have hdiv : ∀ d : ℤ, (d * 86400000000 + (13 * 60 + 30) * 60000000) / 86400000000 = d := by
    omega
  exact hdiv day

theorem summer_mod (day : Day) :
    (day * dayMicroseconds + clock 13 30) % dayMicroseconds = 48600000000 := by
  have hmod : ∀ d : ℤ, (d * 86400000000 + (13 * 60 + 30) * 60000000) % 86400000000 =
      48600000000 := by
    omega
  exact hmod day

/-- The text of the open of a session. -/
theorem utcText_open (day : Day) :
    utcText (day * dayMicroseconds + clock 13 30) = day.isoformat ++ " 13:30:00+00:00" := by
  have htext : " " ++ zeroPadded 2 (48600000000 / 3600000000) ++ ":" ++
      zeroPadded 2 (48600000000 / 60000000 % 60) ++ ":" ++
      zeroPadded 2 (48600000000 / 1000000 % 60) ++ "+00:00" = " 13:30:00+00:00" := by
    decide
  rw [utcText, summer_div, summer_mod, htext]

/-- The opening time is written with 25 characters. -/
theorem isoformatUtc_open_length {day : Day} (h : day ∈ summerSessions) :
    (isoformatUtc (day * dayMicroseconds + clock 13 30)).length = 25 := by
  have hyear := (summer_years h)
  have htext : ∀ date : String, date.length = 10 →
      (date ++ "T" ++ zeroPadded 2 (48600000000 / 1000000 / 3600) ++ ":" ++
        zeroPadded 2 (48600000000 / 1000000 / 60 % 60) ++ ":" ++
        zeroPadded 2 (48600000000 / 1000000 % 60) ++
        (if (48600000000 : ℤ) % 1000000 = 0 then ""
          else "." ++ zeroPadded 6 (48600000000 % 1000000)) ++ "Z").length = 20 := by
    intro date hdate
    have hrest : zeroPadded 2 (48600000000 / 1000000 / 3600) = "13" ∧
        zeroPadded 2 (48600000000 / 1000000 / 60 % 60) = "30" ∧
        zeroPadded 2 (48600000000 / 1000000 % 60) = "00" := by
      decide
    rw [hrest.1, hrest.2.1, hrest.2.2, if_pos (by decide)]
    simp only [String.length_append, hdate]
    rfl
  have hdate : (Day.isoformat day).length = 10 := Day.isoformat_length hyear.1 hyear.2
  have hiso : (Report.utcIsoformat (day * dayMicroseconds + clock 13 30)).length = 20 := by
    unfold Report.utcIsoformat
    simp only [summer_div, summer_mod]
    exact htext _ hdate
  rw [isoformatUtc, String.length_append, String.length_ofList, List.length_dropLast,
    String.length_toList, hiso]
  rfl

/-! ### The ids of the bars -/

def etfs : List BarInstrument := [spy, qqq, dia]

/-- The text that the id of a bar is the digest of. -/
def barText (instrument : BarInstrument) (day : Day) : String :=
  idText instrument.instrumentId (utcText (day * dayMicroseconds + clock 13 30))
    "us.twelve-data.v1"

def barTexts : List String :=
  etfs.flatMap fun instrument => summerSessions.map (barText instrument)

/-- Digests that tell the ids apart. -/
def countedDigest (texts : List String) (text : String) : String :=
  zeroPadded 64 (texts.idxOf text)

/-- A number padded to 64 digits has the form of a digest. -/
theorem isSha256_zeroPadded {n : ℕ} (h : n < 10 ^ 64) : IsSha256 (zeroPadded 64 n) := by
  refine ⟨zeroPadded_length (by decide) h, ?_⟩
  intro c hc
  rw [zeroPadded_toList] at hc
  rcases List.mem_append.mp hc with hzero | hdigit
  · rw [(List.mem_replicate.mp hzero).2]
    decide
  · have hdecimal := Nat.isDigit_of_mem_toDigits (show 0 < 10 by decide) (by decide) hdigit
    have hall : ∀ k : Fin 10, Char.ofNat (48 + k) ∈ "0123456789abcdef".toList := by decide
    have hrange : 48 ≤ c.toNat ∧ c.toNat ≤ 57 := by
      simpa [Char.isDigit, Char.le_def, UInt32.le_iff_toNat_le] using hdecimal
    have hchar := hall ⟨c.toNat - 48, by omega⟩
    have hback : 48 + (c.toNat - 48) = c.toNat := by omega
    rw [← Char.ofNat_toNat c, ← hback]
    exact hchar

theorem barText_eq (instrument : BarInstrument) (day : Day) :
    barText instrument day = "[" ++ ("\"" ++ (instrument.instrumentId ++ ("\",\"1d\"," ++ ("\"" ++
      (day.isoformat ++ " 13:30:00+00:00\",\"raw\",\"us.twelve-data.v1\"]"))))) := by
  have hjoin : ∀ a b c d e : String,
      ",".intercalate [a, b, c, d, e] = a ++ "," ++ b ++ "," ++ c ++ "," ++ d ++ "," ++ e :=
    fun _ _ _ _ _ => rfl
  rw [barText, utcText_open]
  simp [idText, Report.canonicalJson, Report.strings, Report.canonicalItems, hjoin,
    String.append_assoc]

/-- The texts of two bars differ. -/
theorem barText_inj {a b : BarInstrument} (ha : a ∈ etfs) (hb : b ∈ etfs) {day day' : Day}
    (hday : day ∈ summerSessions) (hday' : day' ∈ summerSessions)
    (h : barText a day = barText b day') : a.instrumentId = b.instrumentId ∧ day = day' := by
  have hlength : ∀ instrument ∈ etfs, instrument.instrumentId.length = 14 := by decide
  rw [barText_eq, barText_eq] at h
  have hrest := (append_inj_of_length rfl (append_inj_of_length rfl h).2).2
  obtain ⟨hid, hdates⟩ := append_inj_of_length ((hlength a ha).trans (hlength b hb).symm) hrest
  have htail := (append_inj_of_length rfl (append_inj_of_length rfl hdates).2).2
  exact ⟨hid, isoformat_summer hday hday' (String.append_left_inj _ |>.mp htail)⟩

/-- The texts of the bars are apart. -/
theorem barTexts_nodup : barTexts.Nodup := by
  have hids : etfs.Pairwise fun a b => a.instrumentId ≠ b.instrumentId := by decide
  refine List.nodup_flatMap.mpr ⟨?_, ?_⟩
  · intro instrument hinstrument
    refine List.Nodup.map_on ?_ (summerSessions_increasing.imp fun h => ne_of_lt h)
    intro day hday day' hday' h
    exact (barText_inj hinstrument hinstrument hday hday' h).2
  · refine List.Pairwise.imp_of_mem ?_ hids
    intro a b ha hb hne text htext htext'
    obtain ⟨day, hday, rfl⟩ := List.mem_map.mp htext
    obtain ⟨day', hday', h⟩ := List.mem_map.mp htext'
    exact hne (barText_inj ha hb hday hday' h.symm).1

def summerWriting : Writing :=
  { sampleBarWriting with
    sha256Hex := countedDigest barTexts
    hexdigest := by
      intro text
      have hlength : barTexts.length = 3 * summerSessions.length := by
        simp only [barTexts, etfs, List.flatMap_cons, List.flatMap_nil, List.length_append,
          List.length_map, List.length_nil]
        omega
      have hbound := summerSessions_length_le
      have hindex := List.idxOf_le_length (a := text) (l := barTexts)
      exact isSha256_zeroPadded (by omega) }

theorem summer_openAt (day : Day) :
    (session (fixedZone (-4))).openAt day = day * dayMicroseconds + clock 13 30 := by
  have hopen : ∀ d : ℤ, d * 86400000000 + (9 * 60 + 30) * 60000000 - -4 * 3600000000 =
      d * 86400000000 + (13 * 60 + 30) * 60000000 := by
    omega
  exact hopen day

/-- The id of a bar, by the place of its text. -/
theorem summer_barId (instrument : BarInstrument) (day : Day) :
    (session (fixedZone (-4))).barId summerWriting summerReading instrument.instrumentId day =
      "bar_us_" ++ countedDigest barTexts (barText instrument day) := by
  have hparts : (session (fixedZone (-4))).idParts summerReading instrument.instrumentId day =
      [instrument.instrumentId, "1d", utcText (day * dayMicroseconds + clock 13 30), "raw",
        "us.twelve-data.v1"] := by
    unfold DailySession.idParts
    rw [summer_openAt]
    rfl
  unfold DailySession.barId
  rw [hparts]
  rfl

/-- No two bars have one id. -/
theorem summer_ids_nodup :
    (etfs.flatMap fun instrument => summerSessions.map fun day =>
      (session (fixedZone (-4))).barId summerWriting summerReading instrument.instrumentId
        day).Nodup := by
  have hmap : (etfs.flatMap fun instrument => summerSessions.map fun day =>
      (session (fixedZone (-4))).barId summerWriting summerReading instrument.instrumentId day) =
        barTexts.map fun text => "bar_us_" ++ countedDigest barTexts text := by
    simp only [barTexts, List.map_flatMap, List.map_map]
    simp only [summer_barId]
    rfl
  rw [hmap]
  refine List.Nodup.map_on ?_ barTexts_nodup
  intro text htext text' _ h
  have hdigits := (append_inj_of_length rfl h).2
  exact (List.idxOf_inj htext).mp (zeroPadded_inj hdigits)

/-! ### The bars of a response -/

/-- The prices of every row. -/
def summerPrices : Values where
  «open» := ⟨false, 63010, -2⟩
  high := ⟨false, 63640, -2⟩
  low := ⟨false, 62950, -2⟩
  close := ⟨false, 63580, -2⟩
  volume := some ⟨false, 70123456, 0⟩

theorem summer_values (date : Cell) :
    TwelveData.values summerReading (("datetime", date) :: priceCells) = .ok summerPrices := by
  rfl

/-- The source of a bar fits its contract. -/
theorem summer_source {instrument : BarInstrument} (hinstrument : instrument ∈ etfs) {day : Day}
    (hday : day ∈ summerSessions) (fetchedAt : Instant) :
    (source summerWriting summerReading instrument day (day * dayMicroseconds + clock 13 30)
      fetchedAt summerPrices).stripped.errors summerWeb = [] := by
  have hsymbol : ∀ instrument ∈ etfs, instrument.sourceSymbol.length = 3 := by decide
  let record := providerId ++ ":" ++ instrument.sourceSymbol ++ ":1day:" ++
    isoformatUtc (day * dayMicroseconds + clock 13 30) ++ ":raw"
  have hlength : record.length = 56 := by
    simp only [record, String.length_append, hsymbol instrument hinstrument,
      isoformatUtc_open_length hday]
    rfl
  have hshort := stripWhere_length_le isWhiteSpace record
  have hletter : 'u' ∈ record.toList := by
    simp [record, providerId]
  have hnonempty : modelStrip record ≠ "" := Report.modelStrip_ne_empty hletter (by decide)
  have hpositive : 1 ≤ (modelStrip record).length := by
    by_contra hzero
    exact hnonempty (String.length_eq_zero_iff.mp (by omega))
  have hprovider : lengthErrors "provider_id" 2 64 (modelStrip providerId) = [] := by
    decide
  have hname : lengthErrors "source_name" 1 256 (modelStrip "Twelve Data") = [] := by
    decide
  have hrecord : lengthErrors "provider_record_id" 1 256 (modelStrip record) = [] :=
    lengthErrors_nil hpositive (hshort.trans (by omega))
  show lengthErrors "provider_id" 2 64 (modelStrip providerId) ++
    lengthErrors "provider_record_id" 1 256 (modelStrip record) ++
    lengthErrors "source_name" 1 256 (modelStrip "Twelve Data") ++ [] ++
    sha256Errors "checksum_sha256" (modelStrip (summerWriting.sha256Hex _)) = []
  rw [hprovider, hrecord, hname, sha256Errors_digest]
  rfl

/-- The arguments of the bar of a session. -/
def summerBar (instrument : BarInstrument) (day : Day) (fetchedAt : Instant)
    (source : ValidSource summerWeb) : ProviderBar summerWeb :=
  bar (fixedZone (-4)) summerWriting summerReading instrument day
    ⟨day * dayMicroseconds + clock 13 30, day * dayMicroseconds + clock 20 0⟩ fetchedAt
    summerPrices source

theorem summerBar_fields {instrument : BarInstrument} (hinstrument : instrument ∈ etfs) (day : Day)
    (fetchedAt : Instant) (source : ValidSource summerWeb) :
    (summerBar instrument day fetchedAt source).stripped.fieldErrors summerReading = [] := by
  have hcurrency : ∀ instrument ∈ etfs, currencyErrors (modelStrip instrument.currency) = [] := by
    decide
  have hvolume : nonNegativeErrors summerReading "volume" summerPrices.volume = [] := by
    decide
  show [] ++ [] ++ [] ++ [] ++ nonNegativeErrors summerReading "volume" summerPrices.volume ++
    [] ++ currencyErrors (modelStrip instrument.currency) = []
  rw [hvolume, hcurrency instrument hinstrument]
  rfl

/-- A bar of the summer has no error. -/
theorem summerBar_barError (instrument : BarInstrument) (day : Day) (fetchedAt : Instant)
    (source : ValidSource summerWeb) :
    (summerBar instrument day fetchedAt source).stripped.barError = none := by
  have hperiod : ¬ (summerBar instrument day fetchedAt source).stripped.barEnd ≤
      (summerBar instrument day fetchedAt source).stripped.barStart := by
    have hlater : ∀ d : ℤ, ¬ d * 86400000000 + (20 * 60 + 0) * 60000000 ≤
        d * 86400000000 + (13 * 60 + 30) * 60000000 := by
      omega
    exact hlater day
  have hprices : ¬ (min summerPrices.open.value summerPrices.close.value < summerPrices.low.value ∨
      summerPrices.high.value < max summerPrices.open.value summerPrices.close.value) := by
    decide
  have hrange : ¬ summerPrices.high.value < summerPrices.low.value := by decide
  unfold ProviderBar.barError
  rw [if_neg hperiod]
  refine (if_neg hprices).trans ?_
  refine (if_neg hrange).trans ?_
  exact if_neg fun hadjusted => hadjusted.1 rfl

/-- The row of a session becomes a bar, which opens at that session. -/
theorem summer_bar {instrument : BarInstrument} (hinstrument : instrument ∈ etfs) {day : Day}
    (hday : day ∈ summerSessions) (fetchedAt : Instant) :
    ∃ built, marketBar (fixedZone (-4)) summerWriting summerReading summerWeb instrument fetchedAt
        (("datetime", .str day.isoformat) :: priceCells) day = .ok built ∧
      built.val.barStart = day * dayMicroseconds + clock 13 30 := by
  have hsource := summer_source hinstrument hday fetchedAt
  have hfields := summerBar_fields hinstrument day fetchedAt ⟨_, hsource⟩
  have hbar := summerBar_barError instrument day fetchedAt ⟨_, hsource⟩
  refine ⟨⟨(summerBar instrument day fetchedAt ⟨_, hsource⟩).stripped, hfields, hbar⟩, ?_, ?_⟩
  · unfold marketBar
    rw [summerWindow hday, ok_bind, summer_values, ok_bind]
    have hread : sourceRef summerWeb (source summerWriting summerReading instrument day
        (day * dayMicroseconds + clock 13 30) fetchedAt summerPrices) = .ok ⟨_, hsource⟩ := by
      rw [sourceRef, ProviderSource.validate_ok hsource]
      rfl
    refine (Raising.bind_ok.mpr ⟨_, hread, ?_⟩)
    exact ProviderBar.validate_of_none hfields hbar
  · rfl

/-! ### The source and its walk -/

def summerRequest : IngestJobRequest where
  providerRole := .ofString "us.market.primary"
  dataset := .bars
  regions := [.us]
  start := ⟨Day.ofDate 2025 3 10 * dayMicroseconds, 0⟩
  stop := ⟨Day.ofDate 2027 11 1 * dayMicroseconds, 0⟩
  asOf := ⟨Day.ofDate 2027 11 2 * dayMicroseconds, 0⟩

/-- The number of `a` before the first other character, and what comes after that one. -/
def readCount : List Char → ℕ × List Char
  | 'a' :: rest => ((readCount rest).1 + 1, (readCount rest).2)
  | _ :: rest => (0, rest)
  | [] => (0, [])

theorem readCount_replicate (n : ℕ) (rest : List Char) :
    readCount (List.replicate n 'a' ++ 'b' :: rest) = (n, rest) := by
  induction n with
  | zero => rfl
  | succ n ih => rw [List.replicate_succ, List.cons_append, readCount, ih]

/-- The offset and the lengths of a body as counts of `a`, and then its texts. -/
def countedBody (body : CursorBody) : List Char :=
  List.replicate body.fingerprint.length 'a' ++ 'b' :: (List.replicate body.offset 'a' ++
    'b' :: (List.replicate body.lastBarId.length 'a' ++ 'b' :: (body.fingerprint.toList ++
      (body.lastBarId.toList ++ body.sourceWatermark.toList))))

def readBody (chars : List Char) : CursorBody :=
  let fingerprint := readCount chars
  let offset := readCount fingerprint.2
  let last := readCount offset.2
  let texts := last.2.drop fingerprint.1
  ⟨.ofList (last.2.take fingerprint.1), offset.1, .ofList (texts.take last.1),
    .ofList (texts.drop last.1)⟩

theorem readBody_countedBody (body : CursorBody) : readBody (countedBody body) = body := by
  simp only [readBody, countedBody, readCount_replicate]
  simp [← String.length_toList]

/-- Nothing is stripped from a text between two letters. -/
theorem modelStrip_between (chars : List Char) :
    modelStrip (String.ofList ('c' :: (chars ++ ['c']))) =
      String.ofList ('c' :: (chars ++ ['c'])) := by
  have hletter : isWhiteSpace 'c' = false := by decide
  simp [modelStrip, stripWhere, hletter]

/-- Cursors that are read back; the letters at their ends keep them from being stripped. -/
def countedCodec : CursorCodec where
  encode body := .ofString (String.ofList ('c' :: (countedBody body ++ ['c'])))
  decode text := .ok (readBody text.value.toList.tail.dropLast)
  decode_encode body := by
    have hchars :
        (Text.ofString (String.ofList ('c' :: (countedBody body ++ ['c'])))).value.toList =
          'c' :: (countedBody body ++ ['c']) := by
      show (modelStrip _).toList = _
      rw [modelStrip_between, String.toList_ofList]
    rw [hchars, List.tail_cons, List.dropLast_concat, readBody_countedBody]

/-- Three funds. -/
def summerHandler : UsTwelveDataIngestHandler where
  provider :=
    { instruments := etfs
      hasApiKey := true
      newYork := fixedZone (-4)
      codec := countedCodec
      fingerprint := fun _ _ => "e3b0c44298fc1c149afbf4c8996fb92427ae41e4649b934ca495991b7852b855" }

abbrev summerQuery : BarQuery := summerHandler.barQuery summerRequest

/-- How the rows of an instrument are read. -/
abbrev summerReader (instrument : BarInstrument) :
    BarReader summerReading summerWeb (Option Row) :=
  reader (fixedZone (-4)) summerWriting summerReading summerWeb instrument summerQuery 0

/-- The row of a session is read as its date. -/
theorem summer_key (instrument : BarInstrument) (i : ℕ) {day : Day} (hday : day ∈ summerSessions) :
    (summerReader instrument).key i (some (("datetime", .str day.isoformat) :: priceCells)) =
      .ok day := by
  have hget : Row.get (("datetime", .str day.isoformat) :: priceCells) "datetime" =
      .str day.isoformat := rfl
  have hparsed : ∀ path, parseDate summerWeb (.str day.isoformat) path = .ok day := by
    intro path
    unfold parseDate
    simp only [summerWeb_date hday]
  unfold summerReader reader
  simp only [hget]
  exact hparsed _

/-- The open of a session lies in the window of the request. -/
theorem summer_inside {day : Day} (hday : day ∈ summerSessions) :
    summerQuery.start ≤ day * dayMicroseconds + clock 13 30 ∧
      day * dayMicroseconds + clock 13 30 < summerQuery.stop := by
  obtain ⟨-, hlow, hhigh⟩ := mem_summerSessions hday
  have hspan : ∀ first day last : ℤ, first ≤ day → day < last →
      first * 86400000000 ≤ day * 86400000000 + (13 * 60 + 30) * 60000000 ∧
        day * 86400000000 + (13 * 60 + 30) * 60000000 < (last + 2) * 86400000000 := by
    omega
  have hstop : summerQuery.stop = (Day.ofDate 2027 10 30 + 2) * dayMicroseconds := by decide
  rw [hstop]
  exact hspan _ day _ hlow hhigh

/-- The row of a session makes a bar that is kept. -/
theorem summer_item {instrument : BarInstrument} (hinstrument : instrument ∈ etfs) {day : Day}
    (hday : day ∈ summerSessions) :
    ∃ built, (summerReader instrument).item
        (some (("datetime", .str day.isoformat) :: priceCells)) day = .ok built ∧
      (summerReader instrument).keeps built = true ∧
      built.val.barId = (session (fixedZone (-4))).barId summerWriting summerReading
        instrument.instrumentId day := by
  obtain ⟨built, hbuilt, hstart⟩ := summer_bar hinstrument hday 0
  have hkeeps : inWindow summerReading summerQuery built = true := by
    apply decide_eq_true
    rw [hstart]
    exact summer_inside hday
  have hid := @reader_item (fixedZone (-4)) summerWriting summerReading summerWeb instrument
    summerQuery 0 (some _) day built hbuilt
  exact ⟨built, hbuilt, hkeeps, hid.2⟩

theorem summer_message :
    1 ≤ (Text.ofString (String.ofList
      ("Twelve Data values[489].datetime must be an ISO date".toList.take 500))).value.length ∧
    (Text.ofString (String.ofList
      ("Twelve Data values[489].datetime must be an ISO date".toList.take 500))).value.length ≤
        500 := by
  decide

theorem summer_note (instrument : BarInstrument) :
    ∃ warning, (summerReader instrument).note 489 (some priceCells)
      (.schema "Twelve Data values[489].datetime must be an ISO date") = .ok warning := by
  unfold summerReader reader
  dsimp only
  apply quarantine_ok
  · rfl
  · exact summer_message

theorem summer_lastKey (instrument : BarInstrument) :
    (summerReader instrument).key 489 (some priceCells) =
      .error (.schema "Twelve Data values[489].datetime must be an ISO date") := by
  have hindex : "values[" ++ toString 489 ++ "].datetime" = "values[489].datetime" := by
    decide
  have hget : Row.get priceCells "datetime" = .null := by decide
  unfold summerReader reader
  simp only [hget, hindex]
  rfl

/-- The row without a date is set aside. -/
theorem summer_last (instrument : BarInstrument) (last : Option Day) :
    ∃ warning, (summerReader instrument).run 489 last [some priceCells] = .ok ([], [warning]) := by
  obtain ⟨warning, hwarning⟩ := summer_note instrument
  refine ⟨warning, ?_⟩
  rw [RowLoop.Reader.run, summer_lastKey]
  simp only [RowLoop.Reader.setAside, hwarning]
  rfl

/-- The ids of the bars of an instrument. -/
def summerIds (instrument : BarInstrument) : List String :=
  summerSessions.map fun day =>
    (session (fixedZone (-4))).barId summerWriting summerReading instrument.instrumentId day

theorem map_of_forall₂ {α β γ : Type} {f : α → γ} {g : β → γ} {as : List α} {bs : List β}
    (h : List.Forall₂ (fun a b => g b = f a) as bs) : bs.map g = as.map f := by
  induction h with
  | nil => rfl
  | cons hhead _ ih => rw [List.map_cons, List.map_cons, hhead, ih]

/-- The rows of a response: a bar for each session, and a row that is set aside. -/
theorem summer_run (hcount : summerSessions.length = 489) {instrument : BarInstrument}
    (hinstrument : instrument ∈ etfs) :
    ∃ bars warning, (summerReader instrument).run 0 none summerValues = .ok (bars, [warning]) ∧
      bars.map (fun built => built.val.barId) = summerIds instrument := by
  have hnone : ∀ p ∈ (none : Option Day), ∀ day ∈ summerSessions, p < day := nofun
  obtain ⟨bars, last, hbars, hrun⟩ := RowLoop.Reader.run_readable summerSessions_increasing
    (fun i day hday => summer_key instrument i hday)
    (fun day hday => summer_item hinstrument hday) 0 hnone [some priceCells]
  obtain ⟨warning, hlast⟩ := summer_last instrument last
  refine ⟨bars, warning, ?_, ?_⟩
  · rw [summerValues, hrun, hcount, Nat.zero_add, hlast]
    simp [Except.map]
  · exact map_of_forall₂ hbars

/-- The answer for an instrument passes its checks. -/
theorem summer_checked {instrument : BarInstrument} (hinstrument : instrument ∈ etfs)
    (startDate endDate : Day) :
    checkResponse instrument (summerSnapshot instrument.sourceSymbol startDate endDate) =
      .ok summerValues := by
  have hcurrency : ∀ instrument ∈ etfs, instrument.currency = "USD" := by decide
  have hbound : ¬ maxOutputSize < summerValues.length := by
    rw [summerValues, List.length_append, List.length_map]
    have hsessions := summerSessions_length_le
    show ¬ 5000 < summerSessions.length + 1
    omega
  let metadata : Row := [("symbol", .str instrument.sourceSymbol), ("interval", .str "1day"),
    ("currency", .str "USD")]
  have hsymbol : metadata.get "symbol" = .str instrument.sourceSymbol := rfl
  have hinterval : metadata.get "interval" = .str "1day" := rfl
  have hpaid : metadata.get "currency" = .str instrument.currency := by
    rw [hcurrency instrument hinstrument]
    rfl
  unfold checkResponse summerSnapshot
  simp only
  rw [if_neg (not_not.mpr hsymbol), if_neg (not_not.mpr hinterval), if_neg (not_not.mpr hpaid),
    if_neg hbound]

/-- The bars of an instrument, and the one row that is set aside. -/
theorem summer_response (hcount : summerSessions.length = 489) {instrument : BarInstrument}
    (hinstrument : instrument ∈ etfs) (startDate endDate : Day) :
    ∃ bars warning, readInstrument summerWriting summerReading summerWeb summerHandler.provider
        summerSnapshot.upstream summerQuery startDate endDate instrument =
          .ok (bars, [warning], 0) ∧
      bars.map (fun built => built.val.barId) = summerIds instrument := by
  obtain ⟨bars, warning, hrun, hids⟩ := summer_run hcount hinstrument
  refine ⟨bars, warning, ?_, hids⟩
  have hparsed : parsePayload (fixedZone (-4)) summerWriting summerReading summerWeb instrument
      summerQuery 0 (summerSnapshot instrument.sourceSymbol startDate endDate) =
        .ok (bars, [warning]) := by
    unfold parsePayload
    rw [summer_checked hinstrument, ok_bind]
    exact hrun
  have hzone : summerHandler.provider.newYork = fixedZone (-4) := rfl
  unfold readInstrument Snapshot.upstream
  rw [ok_bind, hzone]
  simp only
  rw [hparsed]

theorem summer_requested :
    requestedInstruments summerHandler.provider summerQuery.instrumentIds = .ok etfs := by
  rfl

theorem summer_dates :
    queryDates summerHandler.provider summerQuery =
      .ok (Day.ofDate 2025 3 9, Day.ofDate 2027 10 31) := by
  rfl

/-- The source as a whole: its bars are apart and do not fit in one page, and a row of each
instrument is set aside. -/
theorem summer_read (hcount : summerSessions.length = 489) :
    ∃ items warnings, snapshotRead summerWriting summerReading summerWeb summerHandler.provider
        summerSnapshot summerQuery = .ok (items, warnings) ∧
      (items.map fun item => item.val.barId).Nodup ∧ items.length = 1467 ∧
      warnings.length = 3 := by
  obtain ⟨spyBars, spyWarning, hspy, hspyIds⟩ := @summer_response hcount spy (by simp [etfs])
    (Day.ofDate 2025 3 9) (Day.ofDate 2027 10 31)
  obtain ⟨qqqBars, qqqWarning, hqqq, hqqqIds⟩ := @summer_response hcount qqq (by simp [etfs])
    (Day.ofDate 2025 3 9) (Day.ofDate 2027 10 31)
  obtain ⟨diaBars, diaWarning, hdia, hdiaIds⟩ := @summer_response hcount dia (by simp [etfs])
    (Day.ofDate 2025 3 9) (Day.ofDate 2027 10 31)
  -- each of the three instruments has its bars and one warning
  let read : List (InstrumentBars summerReading summerWeb) :=
    [(spyBars, [spyWarning], 0), (qqqBars, [qqqWarning], 0), (diaBars, [diaWarning], 0)]
  have hread : readInstruments summerWriting summerReading summerWeb summerHandler.provider
      summerSnapshot.upstream summerQuery (Day.ofDate 2025 3 9) (Day.ofDate 2027 10 31) =
        .ok read := by
    unfold readInstruments
    rw [summer_requested, ok_bind]
    show List.mapM _ [spy, qqq, dia] = _
    rw [List.mapM_cons, hspy, ok_bind, List.mapM_cons, hqqq, ok_bind, List.mapM_cons, hdia, ok_bind]
    rfl
  -- sorting the bars does not change their ids
  have hids : ((allItems read).map fun item => item.val.barId).Perm (etfs.flatMap summerIds) := by
    have hsorted := (List.perm_insertionSort NotAfter (read.flatMap fun bars => bars.1)).map
      fun item => item.val.barId
    refine hsorted.trans (.of_eq ?_)
    simp only [read, etfs, List.flatMap_cons, List.flatMap_nil, List.map_append, List.map_nil,
      hspyIds, hqqqIds, hdiaIds]
  refine ⟨allItems read, allWarnings read, ?_, ?_, ?_, rfl⟩
  · unfold snapshotRead
    rw [summer_dates, ok_bind]
    simp only
    rw [if_neg (by decide), hread]
    rfl
  · exact hids.nodup_iff.mpr summer_ids_nodup
  · have hlength := hids.length_eq
    rw [List.length_map] at hlength
    rw [hlength]
    simp [etfs, summerIds, hcount]

def summerVisit : Visit where
  runId := 1
  now := Day.ofDate 2027 11 2 * dayMicroseconds
  fetchedAt := Day.ofDate 2027 11 2 * dayMicroseconds
  upstream := summerSnapshot.upstream
  recovered := none
  refetchedAt := Day.ofDate 2027 11 2 * dayMicroseconds
  reUpstream := summerSnapshot.upstream
  committed := true
  finishedAt := Day.ofDate 2027 11 2 * dayMicroseconds

theorem summer_sees : summerVisit.Sees summerSnapshot :=
  ⟨fun _ _ _ => ⟨0, rfl⟩, fun _ _ _ => ⟨0, rfl⟩⟩

theorem summer_passes : summerVisit.Passes summerHandler summerRequest := by
  refine ⟨by decide, ?_, ?_, ?_⟩
  · exact if_neg (by decide)
  · unfold checkQuery
    rw [if_neg (by decide), if_neg (by decide), if_neg (by decide)]
  · intro startDate endDate hdates
    rw [summer_dates] at hdates
    cases hdates
    decide

def summerClaim : CheckpointClaim where
  reportDate := Day.ofDate 2027 11 1
  taskId := "us.daily-bars"
  providerRole := "us.market.primary"
  dataset := .bars
  region := "US"
  requestAsOf := Day.ofDate 2027 11 2 * dayMicroseconds
  leaseOwnerId := 7

theorem summerSessions_length : summerSessions.length = 489 := by
  decide +kernel

/-- The walk has two pages. -/
theorem summer_walk :
    ∃ items warnings last, snapshotRead summerWriting summerReading summerWeb
        summerHandler.provider summerSnapshot summerQuery = .ok (items, warnings) ∧
      FullWalk summerWriting summerReading summerWeb summerHandler summerRequest summerSnapshot
        summerClaim.inserted last ∧
      items.length = 1467 ∧ warnings.length = 3 ∧ last.recordsRejected = 6 := by
  obtain ⟨items, warnings, hread, hids, hlength, hwarnings⟩ := summer_read summerSessions_length
  have hmax : items.length ≤ maxCursorOffset := by
    rw [hlength]
    decide
  have hloads : Loads summerClaim.inserted := ⟨List.nodup_nil, by decide⟩
  have hasks : AsksAt summerWriting summerHandler summerRequest items 0 summerClaim.inserted :=
    ⟨rfl, Nat.zero_le _, Nat.zero_le _, rfl⟩
  obtain ⟨last, hwalk⟩ :=
    exists_fullWalk hread hids hmax summer_sees summer_passes hloads hasks
  refine ⟨items, warnings, last, hread, hwalk, hlength, hwarnings, ?_⟩
  rw [fullWalk_rejected hread hwalk hasks, hlength, hwarnings]
  rfl

/-- Three quarantined rows of two pages are not counted as three. -/
theorem rejections_counted_once_summer :
    ∃ items warnings last, snapshotRead summerWriting summerReading summerWeb
        summerHandler.provider summerSnapshot summerQuery = .ok (items, warnings) ∧
      FullWalk summerWriting summerReading summerWeb summerHandler summerRequest summerSnapshot
        summerClaim.inserted last ∧ ¬ last.recordsRejected = warnings.length := by
  obtain ⟨items, warnings, last, hread, hwalk, hlength, hwarnings, -⟩ := summer_walk
  refine ⟨items, warnings, last, hread, hwalk, ?_⟩
  rw [rejections_counted_once_iff summerClaim hread hwalk]
  rintro (hnone | hpage)
  · rw [hnone] at hwarnings
    cases hwarnings
  · rw [hlength] at hpage
    exact absurd hpage (by decide)

/-- The checkpoint of this walk ends with six rejected records, for three quarantined rows. -/
theorem quarantined_counted_twice :
    ∃ items warnings last, snapshotRead summerWriting summerReading summerWeb
        summerHandler.provider summerSnapshot summerQuery = .ok (items, warnings) ∧
      FullWalk summerWriting summerReading summerWeb summerHandler summerRequest summerSnapshot
        summerClaim.inserted last ∧ warnings.length = 3 ∧ last.recordsRejected = 6 := by
  obtain ⟨items, warnings, last, hread, hwalk, -, hwarnings, hrejected⟩ := summer_walk
  exact ⟨items, warnings, last, hread, hwalk, hwarnings, hrejected⟩

end MacroPlatform.Schedule
