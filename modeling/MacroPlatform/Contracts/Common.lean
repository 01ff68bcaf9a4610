import Mathlib.Data.Int.Notation
import Mathlib.Data.Nat.Notation

/-! # Shared contract types -/

namespace MacroPlatform

/-- UUIDs are only ever compared for equality. -/
abbrev UUID := ℕ

/-- An aware datetime: microseconds of UTC. Two datetimes of different offsets are
equal, and ordered, as their instants are. -/
abbrev Instant := ℤ

/-- A calendar date as its proleptic day number. -/
abbrev Day := ℤ

/-- `date.weekday()`: Monday is 0, and day zero is a Thursday. -/
def Day.weekday (day : Day) : ℤ := (day + 3) % 7

example : Day.weekday 19782 = 3 := by decide

end MacroPlatform
