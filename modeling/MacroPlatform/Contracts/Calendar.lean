import MacroPlatform.Contracts.Facts
import Mathlib.Order.BoundedOrder.Basic
import Mathlib.Order.Lattice

/-! # The range of dates and datetimes -/

namespace MacroPlatform

/-- `date.min`. -/
def dateMin : Day := -719162

/-- `date.max`. -/
def dateMax : Day := 2932896

example : dateMin.isoformat = "0001-01-01" ∧ dateMax.isoformat = "9999-12-31" := by decide

/-- A `date`. -/
abbrev PyDate := {day : Day // dateMin ≤ day ∧ day ≤ dateMax}

instance (priority := 2000) : DecidableLE PyDate := fun a b => Int.decLe a.1 b.1

instance (priority := 2000) : DecidableLT PyDate := fun a b => Int.decLt a.1 b.1

-- the order of the days, whichever orders of `ℤ` are known
instance (priority := 2000) : Preorder PyDate :=
  @Subtype.preorder ℤ Int.instLinearOrder.toPreorder _

instance : OrderTop PyDate where
  top := ⟨dateMax, by decide, by decide⟩
  le_top day := day.2.2

/-- `datetime.min` and `datetime.max` of UTC. -/
def datetimeMin : Instant := dateMin * dayMicroseconds

def datetimeMax : Instant := (dateMax + 1) * dayMicroseconds - 1

/-- `OverflowError`: a date or a datetime that is out of range. -/
inductive DateOverflow where
  | outOfRange
deriving DecidableEq, Repr

/-- An aware `datetime` of Python: what its clock shows, and how far that is ahead of UTC. -/
structure PyDatetime where
  reading : ℤ
  utcoffset : ℤ
  inRange : datetimeMin ≤ reading ∧ reading ≤ datetimeMax
  offset_lt : -dayMicroseconds < utcoffset ∧ utcoffset < dayMicroseconds

/-- What aware datetimes are compared by; it may lie out of the range. -/
def PyDatetime.instant (t : PyDatetime) : Instant := t.reading - t.utcoffset

/-- The datetime of UTC at the same time exists. -/
def PyDatetime.InUtc (t : PyDatetime) : Prop :=
  datetimeMin ≤ t.instant ∧ t.instant ≤ datetimeMax

instance (t : PyDatetime) : Decidable t.InUtc := inferInstanceAs (Decidable (_ ∧ _))

/-- `t.astimezone(UTC)`. -/
def PyDatetime.astimezoneUtc (t : PyDatetime) : Except DateOverflow Instant :=
  if t.InUtc then .ok t.instant else .error .outOfRange

/-- `datetime.combine(day, time.min, UTC)`. -/
def PyDate.midnight (day : PyDate) : Instant := day.1 * dayMicroseconds

/-- `midnight + timedelta(days=1)`. -/
def PyDate.nextMidnight (day : PyDate) : Except DateOverflow Instant :=
  if day.midnight + dayMicroseconds ≤ datetimeMax then .ok (day.midnight + dayMicroseconds)
  else .error .outOfRange

/-- Only the last date has no next midnight. -/
theorem PyDate.nextMidnight_of_lt {day : PyDate} (h : day < ⊤) :
    day.nextMidnight = .ok (day.midnight + dayMicroseconds) := by
  have hfits : ∀ n : ℤ, n < 2932896 →
      n * 86400000000 + 86400000000 ≤ (2932896 + 1) * 86400000000 - 1 := by
    intro n hn
    omega
  exact if_pos (hfits day.1 h)

end MacroPlatform
