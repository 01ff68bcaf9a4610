import MacroPlatform.Contracts.Calendar
import MacroPlatform.Contracts.Text
import Mathlib.Algebra.Group.Int.Defs
import Mathlib.Algebra.Group.Nat.Defs
import Mathlib.Order.Monotone.Basic

/-! # Civil dates

The text of a date tells dates apart: its civil date gives the day number back.

* `Day.ofDate_civil`: the civil date of a day gives the day back;
* `Day.isoformat_inj`: dates of the same text are the same.
-/

namespace MacroPlatform

/-! ## The years of an era -/

/-- The days of an era without the leap days before them. -/
def withoutLeapDays (dayOfEra : ℤ) : ℤ :=
  dayOfEra - dayOfEra / 1460 + dayOfEra / 36524 - dayOfEra / 146096

/-- The year that a day of a 400-year era lies in, by years that start in March. -/
def yearOfEra (dayOfEra : ℤ) : ℤ := withoutLeapDays dayOfEra / 365

/-- The first day of a year of an era. -/
def yearStart (year : ℤ) : ℤ := 365 * year + year / 4 - year / 100

theorem withoutLeapDays_mono {a b : ℤ} (h : a ≤ b) : withoutLeapDays a ≤ withoutLeapDays b := by
  have hmono : Monotone withoutLeapDays := by
    refine monotone_int_of_le_succ fun day => ?_
    simp only [withoutLeapDays]
    omega
  exact hmono h

theorem yearOfEra_mono {a b : ℤ} (h : a ≤ b) : yearOfEra a ≤ yearOfEra b :=
  Int.ediv_le_ediv (by decide) (withoutLeapDays_mono h)

/-- The first and the last day of each year of an era. -/
theorem yearOfEra_ends : ∀ y : Fin 400, yearOfEra (yearStart y) = y ∧
    yearOfEra (yearStart (y + 1) - (if (y : ℤ) = 399 then 0 else 1)) = y := by
  decide +kernel

/-- The year of a day within an era starts at or before it, and the next year after it. -/
theorem yearOfEra_spec {day : ℤ} (hlow : 0 ≤ day) (hhigh : day < 146097) :
    (0 ≤ yearOfEra day ∧ yearOfEra day < 400) ∧ yearStart (yearOfEra day) ≤ day ∧
      day ≤ yearStart (yearOfEra day + 1) := by
  have hfirst : 0 ≤ yearOfEra day := by
    have := yearOfEra_mono hlow
    simpa [yearOfEra, withoutLeapDays] using this
  have hlast : yearOfEra day < 400 := by
    have hmono := yearOfEra_mono (show day ≤ 146096 by omega)
    have hend : yearOfEra 146096 = 399 := by decide
    omega
  refine ⟨⟨hfirst, hlast⟩, ?_, ?_⟩
  · -- Before its year a day would be in an earlier one.
    by_contra hbefore
    have hpos : 0 < yearOfEra day := by
      by_contra hzero
      have hyear : yearOfEra day = 0 := by omega
      rw [hyear] at hbefore
      simp only [yearStart] at hbefore
      omega
    have hends := (yearOfEra_ends ⟨(yearOfEra day - 1).toNat, by omega⟩).2
    have hcast : (((yearOfEra day - 1).toNat : ℕ) : ℤ) = yearOfEra day - 1 := by omega
    simp only [hcast] at hends
    rw [if_neg (by omega), Int.sub_add_cancel] at hends
    have hmono := yearOfEra_mono (show day ≤ yearStart (yearOfEra day) - 1 by omega)
    omega
  · by_contra hafter
    -- the last year of an era ends with the era
    by_cases hend : yearOfEra day = 399
    · rw [hend] at hafter
      simp only [yearStart] at hafter
      omega
    have hends := (yearOfEra_ends ⟨(yearOfEra day + 1).toNat, by omega⟩).1
    have hcast : (((yearOfEra day + 1).toNat : ℕ) : ℤ) = yearOfEra day + 1 := by omega
    simp only [hcast] at hends
    have hmono := yearOfEra_mono (show yearStart (yearOfEra day + 1) ≤ day by omega)
    omega

/-! ## The civil date -/

/-- `(day.year, day.month, day.day)`. -/
def Day.civil (day : Day) : ℤ × ℤ × ℤ :=
  let shifted := day + 719468
  let era := shifted / 146097
  let dayOfEra := shifted - era * 146097
  let year := yearOfEra dayOfEra
  let dayOfYear := dayOfEra - yearStart year
  let monthFromMarch := (5 * dayOfYear + 2) / 153
  let month := if monthFromMarch < 10 then monthFromMarch + 3 else monthFromMarch - 9
  (year + era * 400 + if month ≤ 2 then 1 else 0, month,
    dayOfYear - (153 * monthFromMarch + 2) / 5 + 1)

theorem Day.isoformat_eq (day : Day) :
    day.isoformat = zeroPadded 4 day.civil.1 ++ "-" ++ zeroPadded 2 day.civil.2.1 ++ "-" ++
      zeroPadded 2 day.civil.2.2 := rfl

/-- `date(year, month, day)`, by years that start in March. -/
def Day.ofDate (year month day : ℤ) : Day :=
  let shifted := if month ≤ 2 then year - 1 else year
  let era := shifted / 400
  let yearOfEra := shifted - era * 400
  let dayOfYear := (153 * ((month + 9) % 12) + 2) / 5 + day - 1
  era * 146097 + (yearOfEra * 365 + yearOfEra / 4 - yearOfEra / 100 + dayOfYear) - 719468

example : (Day.ofDate 2024 2 29).isoformat = "2024-02-29" := by decide

/-- `calendar.monthrange(year, month)[1]`. -/
def daysInMonth (year month : ℤ) : ℤ :=
  if month = 2 then if year % 4 = 0 ∧ (year % 100 ≠ 0 ∨ year % 400 = 0) then 29 else 28
  else if month = 4 ∨ month = 6 ∨ month = 9 ∨ month = 11 then 30
  else 31

/-- `date(year, month, day)`; `none` is a `ValueError`. -/
def Day.ofDate? (year month day : ℤ) : Option Day :=
  if (1 ≤ year ∧ year ≤ 9999) ∧ (1 ≤ month ∧ month ≤ 12) ∧ 1 ≤ day ∧
      day ≤ daysInMonth year month then some (Day.ofDate year month day)
  else none

example : Day.ofDate? 2026 2 29 = none := by decide

/-- A day of a year, by the civil date that it has. -/
theorem ofDate_of_dayOfYear {era year dayOfYear : ℤ} (hfirst : 0 ≤ year) (hlast : year < 400)
    (hlow : 0 ≤ dayOfYear) (hhigh : dayOfYear ≤ 366) :
    let monthFromMarch := (5 * dayOfYear + 2) / 153
    let month := if monthFromMarch < 10 then monthFromMarch + 3 else monthFromMarch - 9
    Day.ofDate (year + era * 400 + if month ≤ 2 then 1 else 0) month
        (dayOfYear - (153 * monthFromMarch + 2) / 5 + 1) =
      era * 146097 + (yearStart year + dayOfYear) - 719468 := by
  intro monthFromMarch month
  have hmonths : 0 ≤ monthFromMarch ∧ monthFromMarch ≤ 11 := by
    show 0 ≤ (5 * dayOfYear + 2) / 153 ∧ (5 * dayOfYear + 2) / 153 ≤ 11
    omega
  have hback : (month + 9) % 12 = monthFromMarch := by
    show ((if monthFromMarch < 10 then monthFromMarch + 3 else monthFromMarch - 9) + 9) % 12 = _
    split <;> omega
  have hshifted : (if month ≤ 2 then (year + era * 400 + if month ≤ 2 then 1 else 0) - 1
      else year + era * 400 + if month ≤ 2 then 1 else 0) = year + era * 400 := by
    split <;> omega
  have hera : (year + era * 400) / 400 = era := by omega
  have hyear : year + era * 400 - era * 400 = year := by omega
  have hsum : ∀ e y before d : ℤ,
      e * 146097 + (y * 365 + y / 4 - y / 100 + (before + (d - before + 1) - 1)) - 719468 =
        e * 146097 + (365 * y + y / 4 - y / 100 + d) - 719468 := by
    intro e y before d
    omega
  simp only [Day.ofDate, hback, hshifted, hera, hyear, yearStart]
  exact hsum _ _ _ _

/-- The civil date of a day gives the day back. -/
theorem Day.ofDate_civil (day : Day) :
    Day.ofDate day.civil.1 day.civil.2.1 day.civil.2.2 = day := by
  have hera : ∀ n : ℤ, 0 ≤ n - n / 146097 * 146097 ∧ n - n / 146097 * 146097 < 146097 := by
    intro n
    omega
  rcases hera (day + 719468) with ⟨hlow, hhigh⟩
  rcases yearOfEra_spec hlow hhigh with ⟨⟨hfirst, hlast⟩, hstart, hstop⟩
  have hlength : ∀ y : ℤ, yearStart (y + 1) ≤ yearStart y + 366 := by
    intro y
    simp only [yearStart]
    omega
  have hyear := hlength (yearOfEra (day + 719468 - (day + 719468) / 146097 * 146097))
  refine (ofDate_of_dayOfYear hfirst hlast (Int.sub_nonneg_of_le hstart)
    (Int.sub_left_le_of_le_add (hstop.trans hyear))).trans ?_
  have hsum : ∀ n e s : ℤ, e * 146097 + (s + (n + 719468 - e * 146097 - s)) - 719468 = n := by
    intro n e s
    omega
  exact hsum day _ _

theorem Day.civil_inj {a b : Day} (h : a.civil = b.civil) : a = b := by
  rw [← a.ofDate_civil, ← b.ofDate_civil, h]

/-- The parts of a date that a `date` of Python has. -/
theorem Day.civil_bounds {day : Day} (hmin : dateMin ≤ day) (hmax : day ≤ dateMax) :
    (0 ≤ day.civil.1 ∧ day.civil.1 < 10000) ∧ (0 ≤ day.civil.2.1 ∧ day.civil.2.1 < 100) ∧
      0 ≤ day.civil.2.2 ∧ day.civil.2.2 < 100 := by
  have hera : ∀ n : ℤ, -719162 ≤ n → n ≤ 2932896 →
      let dayOfEra := n + 719468 - (n + 719468) / 146097 * 146097
      (0 ≤ dayOfEra ∧ dayOfEra < 146097) ∧ 0 ≤ (n + 719468) / 146097 ∧
        ((n + 719468) / 146097 ≤ 23 ∨ (n + 719468) / 146097 = 24 ∧ dayOfEra ≤ 146036) := by
    intro n hlow hhigh dayOfEra
    show (0 ≤ n + 719468 - (n + 719468) / 146097 * 146097 ∧ _) ∧ _ ∧
      (_ ∨ _ ∧ n + 719468 - (n + 719468) / 146097 * 146097 ≤ _)
    omega
  rcases hera day hmin hmax with ⟨⟨hlow, hhigh⟩, hpos, hlate⟩
  rcases yearOfEra_spec hlow hhigh with ⟨⟨hfirst, hlast⟩, hstart, hstop⟩
  -- The last year of the last era ends before its January.
  have hparts : ∀ e d y : ℤ, 0 ≤ e → (e ≤ 23 ∨ e = 24 ∧ d ≤ 146036) → 0 ≤ y → y < 400 →
      yearStart y ≤ d → d ≤ yearStart (y + 1) →
      let doy := d - yearStart y
      let mp := (5 * doy + 2) / 153
      let month := if mp < 10 then mp + 3 else mp - 9
      (0 ≤ y + e * 400 + (if month ≤ 2 then 1 else 0) ∧
        y + e * 400 + (if month ≤ 2 then 1 else 0) < 10000) ∧ (0 ≤ month ∧ month < 100) ∧
        0 ≤ doy - (153 * mp + 2) / 5 + 1 ∧ doy - (153 * mp + 2) / 5 + 1 < 100 := by
    intro e d y he hlate hy hy' hs hs' doy mp month
    have hdoy : 0 ≤ doy ∧ doy ≤ 366 := by
      show 0 ≤ d - yearStart y ∧ d - yearStart y ≤ 366
      simp only [yearStart] at hs hs' ⊢
      omega
    have hend : e = 24 → y = 399 → doy ≤ 305 := by
      intro he' hy''
      show d - yearStart y ≤ 305
      subst hy''
      have : yearStart 399 = 145731 := by decide
      omega
    have hmp : mp = (5 * doy + 2) / 153 := rfl
    have hmonth : month = if mp < 10 then mp + 3 else mp - 9 := rfl
    clear_value month mp doy
    refine ⟨?_, ?_, ?_⟩
    · split <;> omega
    · omega
    · omega
  exact hparts _ _ _ hpos hlate hfirst hlast hstart hstop

/-- A date that there is lies in the range of dates. -/
theorem Day.ofDate?_bounds {year month day : ℤ} {date : Day}
    (h : Day.ofDate? year month day = some date) : dateMin ≤ date ∧ date ≤ dateMax := by
  simp only [Day.ofDate?] at h
  split at h
  · rename_i hvalid
    rcases hvalid with ⟨⟨hyear, hyear'⟩, ⟨hmonth, hmonth'⟩, hday, hday'⟩
    rw [← Option.some.inj h]
    have hshort : daysInMonth year month ≤ 31 := by
      simp only [daysInMonth]
      split <;> split <;> omega
    have hbounds : ∀ y : ℤ, 0 ≤ y → y ≤ 9999 → ∀ doy : ℤ, 0 ≤ doy → doy ≤ 367 →
        (y = 0 → 306 ≤ doy) → (y = 9999 → doy ≤ 305) →
        -719162 ≤ y / 400 * 146097 + ((y - y / 400 * 400) * 365 + (y - y / 400 * 400) / 4 -
            (y - y / 400 * 400) / 100 + doy) - 719468 ∧
          y / 400 * 146097 + ((y - y / 400 * 400) * 365 + (y - y / 400 * 400) / 4 -
            (y - y / 400 * 400) / 100 + doy) - 719468 ≤ 2932896 := by
      intro y hy hy' doy hdoy hdoy' hfirst hlast
      omega
    refine hbounds (if month ≤ 2 then year - 1 else year) ?_ ?_
      ((153 * ((month + 9) % 12) + 2) / 5 + day - 1) (by omega) (by omega) ?_ ?_
    all_goals split <;> omega
  · cases h

/-! ## Texts of a fixed length -/

theorem zeroPadded_toList (width n : ℕ) :
    (zeroPadded width n).toList =
      List.replicate (width - (Nat.repr n).length) '0' ++ Nat.toDigits 10 n := by
  have htext : toString (n : ℤ) = Nat.repr n := rfl
  unfold zeroPadded
  delta String.leftpad
  simp [htext, Nat.repr_eq_ofList_toDigits]

theorem zeroPadded_length {width n : ℕ} (hwidth : 0 < width) (h : n < 10 ^ width) :
    (zeroPadded width n).length = width := by
  have hrepr := (Nat.length_repr_le_iff hwidth).mpr h
  have hlist := congrArg List.length (zeroPadded_toList width n)
  rw [String.length_toList, List.length_append, List.length_replicate] at hlist
  have hdigits : (Nat.repr n).length = (Nat.toDigits 10 n).length := by
    rw [Nat.repr_eq_ofList_toDigits, String.length_ofList]
  omega

/-- A number can be read off its digits. -/
theorem zeroPadded_inj {width m n : ℕ} (h : zeroPadded width m = zeroPadded width n) : m = n := by
  have hvalue : ∀ k : ℕ, Nat.ofDigitChars 10 (zeroPadded width k).toList 0 = k := by
    intro k
    rw [zeroPadded_toList, Nat.ofDigitChars_append, Nat.ofDigitChars_replicate_zero, Nat.mul_zero,
      Nat.ofDigitChars_ten_toDigits]
  rw [← hvalue m, h, hvalue n]

theorem zeroPadded_int_inj {width : ℕ} {m n : ℤ} (hm : 0 ≤ m) (hn : 0 ≤ n)
    (h : zeroPadded width m = zeroPadded width n) : m = n := by
  rw [← Int.toNat_of_nonneg hm, ← Int.toNat_of_nonneg hn] at h ⊢
  rw [zeroPadded_inj h]

theorem zeroPadded_int_length {width : ℕ} {n : ℤ} (hwidth : 0 < width) (hn : 0 ≤ n)
    (h : n < 10 ^ width) : (zeroPadded width n).length = width := by
  rw [← Int.toNat_of_nonneg hn]
  exact zeroPadded_length hwidth ((Int.toNat_lt hn).mpr (by exact_mod_cast h))

theorem append_inj_of_length {a b c d : String} (hlength : a.length = c.length)
    (h : a ++ b = c ++ d) : a = c ∧ b = d := by
  have hlist : a.toList ++ b.toList = c.toList ++ d.toList := by
    rw [← String.toList_append, h, String.toList_append]
  rcases List.append_inj hlist (by rw [String.length_toList, String.length_toList, hlength])
    with ⟨hleft, hright⟩
  exact ⟨String.toList_injective hleft, String.toList_injective hright⟩

/-! ## The text of a date -/

theorem Day.isoformat_length {day : Day} (hmin : dateMin ≤ day) (hmax : day ≤ dateMax) :
    day.isoformat.length = 10 := by
  rcases day.civil_bounds hmin hmax with ⟨⟨hyear, hyear'⟩, ⟨hmonth, hmonth'⟩, hday, hday'⟩
  rw [Day.isoformat_eq]
  simp only [String.length_append, zeroPadded_int_length (by decide : 0 < 4) hyear hyear',
    zeroPadded_int_length (by decide : 0 < 2) hmonth hmonth',
    zeroPadded_int_length (by decide : 0 < 2) hday hday']
  rfl

/-- Dates of the same text are the same. -/
theorem Day.isoformat_inj {a b : Day} (ha : dateMin ≤ a) (ha' : a ≤ dateMax) (hb : dateMin ≤ b)
    (hb' : b ≤ dateMax) (h : a.isoformat = b.isoformat) : a = b := by
  rcases a.civil_bounds ha ha' with ⟨⟨hyear, hyear'⟩, ⟨hmonth, hmonth'⟩, hday, -⟩
  rcases b.civil_bounds hb hb' with ⟨⟨kyear, kyear'⟩, ⟨kmonth, kmonth'⟩, kday, -⟩
  have hwidth : ∀ {m n : ℤ} {width : ℕ}, 0 < width → 0 ≤ m → m < 10 ^ width → 0 ≤ n →
      n < 10 ^ width → (zeroPadded width m).length = (zeroPadded width n).length := by
    intro m n width hpos hm hm' hn hn'
    rw [zeroPadded_int_length hpos hm hm', zeroPadded_int_length hpos hn hn']
  rw [Day.isoformat_eq, Day.isoformat_eq] at h
  simp only [String.append_assoc] at h
  rcases append_inj_of_length (hwidth (by decide) hyear hyear' kyear kyear') h with ⟨hy, hrest⟩
  rcases append_inj_of_length rfl hrest with ⟨-, hrest⟩
  rcases append_inj_of_length (hwidth (by decide) hmonth hmonth' kmonth kmonth') hrest
    with ⟨hm, hrest⟩
  rcases append_inj_of_length rfl hrest with ⟨-, hd⟩
  exact Day.civil_inj (Prod.ext (zeroPadded_int_inj hyear kyear hy)
    (Prod.ext (zeroPadded_int_inj hmonth kmonth hm) (zeroPadded_int_inj hday kday hd)))

end MacroPlatform
