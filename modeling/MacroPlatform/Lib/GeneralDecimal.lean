import Mathlib.Algebra.Order.Field.Power
import Mathlib.Data.Nat.Cast.Field
import Mathlib.Data.Nat.Log
import Mathlib.Data.Nat.MaxPowDiv
import Mathlib.Data.Rat.Lemmas
import Mathlib.Tactic.FieldSimp
import Mathlib.Tactic.Linarith
import Mathlib.Tactic.Ring

/-! # General decimal arithmetic

A finite number is a signed coefficient times a power of ten. An operation is carried out exactly
and its result rounded into a context, half to even; what the context cannot hold is signalled.

* `finalize_eq`: an exact result overflows from half of a last place below the range;
* `round_lt_iff`: when rounding stays below a power of ten;
* `normalize_finite`: normalizing rounds, and then changes no value.
-/

namespace GeneralDecimal

/-! ## Numbers -/

structure Finite where
  negative : Bool
  coefficient : ℕ
  exponent : ℤ
deriving DecidableEq, Repr

namespace Finite

def magnitude (x : Finite) : ℚ := x.coefficient * (10 : ℚ) ^ x.exponent

/-- The number that is meant. -/
def value (x : Finite) : ℚ := if x.negative then -x.magnitude else x.magnitude

/-- The exponent of the leading digit. -/
def adjusted (x : Finite) : ℤ := x.exponent + Nat.log 10 x.coefficient

/-- The exact product. -/
def mul (x y : Finite) : Finite :=
  ⟨x.negative != y.negative, x.coefficient * y.coefficient, x.exponent + y.exponent⟩

/-- The exact quotient by `10 ^ places`, its exponent as close to that of the number as the
trailing zeros allow. -/
def divPowTen (x : Finite) (places : ℕ) : Finite :=
  let zeros :=
    if x.coefficient = 0 then places else min places (Nat.maxPowDvdDiv 10 x.coefficient).1
  ⟨x.negative, x.coefficient / 10 ^ zeros, x.exponent - places + zeros⟩

/-- Nothing stands behind the point. -/
def IsIntegral (x : Finite) : Prop := 10 ^ (-x.exponent).toNat ∣ x.coefficient

instance (x : Finite) : Decidable x.IsIntegral := inferInstanceAs (Decidable (_ ∣ _))

end Finite

/-- A NaN may signal, and carries a payload. -/
inductive Number where
  | finite (x : Finite)
  | infinity (negative : Bool)
  | nan (negative signaling : Bool) (payload : ℕ)
deriving DecidableEq, Repr

/-- The signals that are trapped. -/
inductive Signal where
  | invalidOperation
  | overflow
deriving DecidableEq, Repr

/-! ## Rounding -/

/-- `c / 10 ^ k` to the nearest integer, and to the even one of two that are equally near. -/
def roundHalfEven (c k : ℕ) : ℕ :=
  let q := c / 10 ^ k
  let r := c % 10 ^ k
  if 2 * r < 10 ^ k ∨ 2 * r = 10 ^ k ∧ q % 2 = 0 then q else q + 1

structure Context where
  prec : ℕ
  emin : ℤ
  emax : ℤ
  prec_pos : 0 < prec
  emin_nonpos : emin ≤ 0
  emax_nonneg : 0 ≤ emax

namespace Context

variable (ctx : Context)

/-- The exponent of the least number above zero. -/
def etiny : ℤ := ctx.emin - ctx.prec + 1

/-- The exponent of the last digit that rounding keeps. -/
def quantum (x : Finite) : ℤ := max (x.adjusted + 1 - ctx.prec) ctx.etiny

/-- The number with as many digits as the context holds, were its exponents not bounded above. -/
def round (x : Finite) : Finite :=
  if x.coefficient = 0 then ⟨x.negative, 0, max ctx.etiny (min ctx.emax x.exponent)⟩
  else
    let places := (ctx.quantum x - x.exponent).toNat
    let coefficient := roundHalfEven x.coefficient places
    if coefficient = 10 ^ ctx.prec then
      ⟨x.negative, 10 ^ (ctx.prec - 1), x.exponent + places + 1⟩
    else ⟨x.negative, coefficient, x.exponent + places⟩

/-- An exact result as the context holds it. -/
def finalize (x : Finite) : Except Signal Finite :=
  if ctx.emax < (ctx.round x).adjusted then .error .overflow else .ok (ctx.round x)

/-- A NaN that an operation passes on. -/
def propagate (negative signaling : Bool) (payload : ℕ) : Except Signal Number :=
  if signaling then .error .invalidOperation
  else .ok (.nan negative false (payload % 10 ^ ctx.prec))

/-- `x * y`. Of two NaNs the first is passed on, but a signaling one before a quiet one. -/
def mul : Number → Number → Except Signal Number
  | .finite x, .finite y => (ctx.finalize (x.mul y)).map .finite
  | .nan n false p, .nan _ signaling _ =>
    if signaling then .error .invalidOperation else ctx.propagate n false p
  | .nan n signaling p, _ => ctx.propagate n signaling p
  | _, .nan n signaling p => ctx.propagate n signaling p
  | .infinity m, .infinity n => .ok (.infinity (m != n))
  | .infinity m, .finite y =>
    if y.coefficient = 0 then .error .invalidOperation else .ok (.infinity (m != y.negative))
  | .finite x, .infinity n =>
    if x.coefficient = 0 then .error .invalidOperation else .ok (.infinity (x.negative != n))

/-- `x / 10 ** places`. -/
def divPowTen (places : ℕ) : Number → Except Signal Number
  | .finite x => (ctx.finalize (x.divPowTen places)).map .finite
  | .infinity n => .ok (.infinity n)
  | .nan n signaling p => ctx.propagate n signaling p

/-- `x.to_integral_value()`: no digits are too many. -/
def toIntegral : Number → Except Signal Number
  | .finite x =>
    if 0 ≤ x.exponent then .ok (.finite x)
    else .ok (.finite ⟨x.negative, roundHalfEven x.coefficient (-x.exponent).toNat, 0⟩)
  | .infinity n => .ok (.infinity n)
  | .nan n signaling p => ctx.propagate n signaling p

/-- `x.quantize(...)` to an exponent. -/
def quantize (exponent : ℤ) : Number → Except Signal Number
  | .finite x =>
    if x.coefficient = 0 then (ctx.finalize ⟨x.negative, 0, exponent⟩).map .finite
    else if ctx.prec < x.adjusted + 1 - exponent then .error .invalidOperation
    else
      let result : Finite :=
        ⟨x.negative, roundHalfEven (x.coefficient * 10 ^ (x.exponent - exponent).toNat)
          (exponent - x.exponent).toNat, exponent⟩
      if ctx.prec < result.adjusted + 1 - exponent ∨ ctx.emax < result.adjusted then
        .error .invalidOperation
      else (ctx.finalize result).map .finite
  | .infinity _ => .error .invalidOperation
  | .nan n signaling p => ctx.propagate n signaling p

/-- `x.normalize()`. -/
def normalize : Number → Except Signal Number
  | .finite x => (ctx.finalize x).map fun y =>
      if y.coefficient = 0 then .finite ⟨y.negative, 0, 0⟩
      else
        let zeros := (Nat.maxPowDvdDiv 10 y.coefficient).1
        .finite ⟨y.negative, y.coefficient / 10 ^ zeros, y.exponent + zeros⟩
  | .infinity n => .ok (.infinity n)
  | .nan n signaling p => ctx.propagate n signaling p

end Context

/-- `x == y`. -/
def eq : Number → Number → Except Signal Bool
  | .nan _ signaling _, .nan _ signaling' _ =>
    if signaling || signaling' then .error .invalidOperation else .ok false
  | .nan _ signaling _, _ => if signaling then .error .invalidOperation else .ok false
  | _, .nan _ signaling _ => if signaling then .error .invalidOperation else .ok false
  | .finite x, .finite y => .ok (x.value == y.value)
  | .infinity m, .infinity n => .ok (m == n)
  | _, _ => .ok false

/-! ## Rounding to an integer -/

theorem pow_ten_pos (k : ℕ) : 0 < 10 ^ k := Nat.pos_of_ne_zero (by simp)

/-- Below an even bound after rounding is half a unit below it before. -/
theorem roundHalfEven_lt_iff {c k bound : ℕ} (heven : bound % 2 = 0) :
    roundHalfEven c k < bound ↔ 2 * c + 10 ^ k < 2 * bound * 10 ^ k := by
  have hpos := pow_ten_pos k
  have hsplit := Nat.div_add_mod c (10 ^ k)
  have hrest := Nat.mod_lt c hpos
  simp only [roundHalfEven]
  generalize c / 10 ^ k = q at *
  generalize c % 10 ^ k = r at *
  generalize 10 ^ k = d at *
  -- The quotient is below the bound, one below it, or not below it.
  rcases Nat.lt_or_ge q bound with hq | hq
  · obtain ⟨gap, hgap⟩ := Nat.exists_eq_add_of_lt hq
    subst hgap
    have hbound : 2 * (q + gap + 1) * d = 2 * (d * q) + 2 * (gap * d) + 2 * d := by ring
    rw [hbound, ← hsplit]
    rcases Nat.eq_zero_or_pos gap with hzero | hgap
    · subst hzero
      split <;> omega
    · have hmore : d ≤ gap * d := Nat.le_mul_of_pos_left d hgap
      split <;> omega
  · have hmore : 2 * bound * d ≤ 2 * (d * q) := by
      have := Nat.mul_le_mul_right d hq
      nlinarith
    split <;> omega

/-- Rounding does not pass a whole bound. -/
theorem roundHalfEven_le {c k bound : ℕ} (h : c ≤ bound * 10 ^ k) :
    roundHalfEven c k ≤ bound := by
  have hpos := pow_ten_pos k
  have hsplit := Nat.div_add_mod c (10 ^ k)
  simp only [roundHalfEven]
  have hq : c / 10 ^ k ≤ bound := Nat.div_le_of_le_mul (by rwa [Nat.mul_comm] at h)
  split
  · exact hq
  · rename_i hup
    rcases Nat.lt_or_ge (c / 10 ^ k) bound with hlt | hge
    · exact hlt
    · -- At the bound there is no rest to round up.
      have hsame : c / 10 ^ k = bound := Nat.le_antisymm hq hge
      rw [hsame, Nat.mul_comm] at hsplit
      omega

theorem le_roundHalfEven {c k bound : ℕ} (h : bound * 10 ^ k ≤ c) :
    bound ≤ roundHalfEven c k := by
  have hq : bound ≤ c / 10 ^ k := (Nat.le_div_iff_mul_le (pow_ten_pos k)).mpr h
  simp only [roundHalfEven]
  split <;> omega

@[simp] theorem roundHalfEven_mul (c k : ℕ) : roundHalfEven (c * 10 ^ k) k = c :=
  Nat.le_antisymm (roundHalfEven_le (Nat.le_refl _)) (le_roundHalfEven (Nat.le_refl _))

@[simp] theorem roundHalfEven_zero (c : ℕ) : roundHalfEven c 0 = c := by
  simpa using roundHalfEven_mul c 0

/-! ## Magnitudes -/

theorem ten_zpow_pos (e : ℤ) : (0 : ℚ) < 10 ^ e := zpow_pos (by norm_num) e

/-- A bound in units of a last place that it is not finer than. -/
theorem pow_eq_units {e m : ℤ} (h : e ≤ m) :
    (10 : ℚ) ^ m = ((10 ^ (m - e).toNat : ℕ) : ℚ) * 10 ^ e := by
  have hnat : (((m - e).toNat : ℕ) : ℤ) = m - e := Int.toNat_of_nonneg (by omega)
  rw [Nat.cast_pow, ← zpow_natCast, hnat, Nat.cast_ofNat, ← zpow_add₀ (by norm_num)]
  congr 1
  omega

theorem units_lt_pow_iff {c : ℕ} {e m : ℤ} (h : e ≤ m) :
    (c : ℚ) * 10 ^ e < 10 ^ m ↔ c < 10 ^ (m - e).toNat := by
  rw [pow_eq_units h, mul_lt_mul_iff_left₀ (ten_zpow_pos e), Nat.cast_lt]

namespace Finite

theorem magnitude_nonneg (x : Finite) : 0 ≤ x.magnitude :=
  mul_nonneg (Nat.cast_nonneg _) (ten_zpow_pos _).le

@[simp] theorem abs_value (x : Finite) : |x.value| = x.magnitude := by
  have hnonneg := x.magnitude_nonneg
  simp only [value]
  split
  · rw [abs_neg, abs_of_nonneg hnonneg]
  · exact abs_of_nonneg hnonneg

/-- The exponent of the leading digit says which powers of ten the number is below. -/
theorem adjusted_lt_iff {x : Finite} (h : x.coefficient ≠ 0) {m : ℤ} :
    x.adjusted < m ↔ x.magnitude < 10 ^ m := by
  simp only [adjusted, magnitude]
  rcases lt_or_ge m x.exponent with hm | hm
  · -- A number is not below a power of ten below its last place.
    have hone : (1 : ℚ) ≤ x.coefficient := by exact_mod_cast Nat.one_le_iff_ne_zero.mpr h
    have hpow : (10 : ℚ) ^ m ≤ 10 ^ x.exponent := zpow_le_zpow_right₀ (by norm_num) hm.le
    have hle : (10 : ℚ) ^ m ≤ x.coefficient * 10 ^ x.exponent := by
      nlinarith [ten_zpow_pos x.exponent]
    constructor
    · intro hlt
      omega
    · intro hlt
      exact absurd hlt (not_lt.mpr hle)
  · rw [units_lt_pow_iff hm, ← Nat.log_lt_iff_lt_pow (by norm_num) h]
    omega

theorem le_adjusted_iff {x : Finite} (h : x.coefficient ≠ 0) {m : ℤ} :
    m ≤ x.adjusted ↔ 10 ^ m ≤ x.magnitude := by
  rw [← not_lt, adjusted_lt_iff h, not_lt]

theorem exponent_le_adjusted (x : Finite) : x.exponent ≤ x.adjusted := by
  simp only [adjusted]
  omega

end Finite

namespace Context

variable {ctx : Context}

theorem etiny_le_emin : ctx.etiny ≤ ctx.emin := by
  have := ctx.prec_pos
  simp only [etiny]
  omega

theorem quantum_le {x : Finite} {m : ℤ} (hadjusted : x.adjusted ≤ m) (hm : ctx.emin ≤ m) :
    ctx.quantum x ≤ m := by
  have := ctx.prec_pos
  have := ctx.etiny_le_emin
  simp only [quantum]
  omega

/-! ## What rounding does -/

/-- The exponent that a rounded number has, but for the carry. -/
theorem round_exponent (x : Finite) :
    x.exponent + (ctx.quantum x - x.exponent).toNat = max x.exponent (ctx.quantum x) := by
  omega

/-- Rounding in the units of the last place. -/
theorem magnitude_round {x : Finite} (h : x.coefficient ≠ 0) :
    (ctx.round x).magnitude =
      roundHalfEven x.coefficient (ctx.quantum x - x.exponent).toNat *
        10 ^ max x.exponent (ctx.quantum x) := by
  have hexponent := ctx.round_exponent x
  simp only [round, if_neg h, Finite.magnitude]
  split
  · rename_i hcarry
    -- The carry is a digit less and a place more.
    have hpow : (10 : ℚ) ^ ctx.prec = 10 ^ (ctx.prec - 1) * 10 := by
      rw [← pow_succ, Nat.sub_add_cancel ctx.prec_pos]
    rw [hcarry, hexponent, zpow_add_one₀ (by norm_num)]
    push_cast
    rw [hpow]
    ring
  · rw [hexponent]

theorem magnitude_round_zero {x : Finite} (h : x.coefficient = 0) :
    (ctx.round x).magnitude = 0 := by
  simp [round, h, Finite.magnitude]

@[simp] theorem round_negative (x : Finite) : (ctx.round x).negative = x.negative := by
  simp only [round]
  split
  · rfl
  · split <;> rfl

/-! ## Where rounding reaches a power of ten -/

/-- Half of a last place below a power of ten. -/
def bound (ctx : Context) (m : ℤ) : ℚ := 10 ^ (m + 1) - 5 * 10 ^ (m - ctx.prec)

theorem bound_lt (m : ℤ) : ctx.bound m < 10 ^ (m + 1) := by
  have := ten_zpow_pos (m - ctx.prec)
  simp only [bound]
  linarith

theorem pow_le_bound (m : ℤ) : 10 ^ m ≤ ctx.bound m := by
  have hprec := ctx.prec_pos
  have hplace : (10 : ℚ) ^ (m - ctx.prec) ≤ 10 ^ (m - 1) :=
    zpow_le_zpow_right₀ (by norm_num) (by omega)
  have hpred : (10 : ℚ) ^ m = 10 ^ (m - 1) * 10 := by
    rw [← zpow_add_one₀ (by norm_num), Int.sub_add_cancel]
  simp only [bound]
  rw [zpow_add_one₀ (by norm_num)]
  linarith [ten_zpow_pos (m - 1)]

/-- The last place of a number that has its leading digit at `m`. -/
theorem bound_eq_units {m e : ℤ} (he : e ≤ m + 1) (hplace : e = m - ctx.prec + 1) :
    ctx.bound m = ((10 ^ (m + 1 - e).toNat : ℕ) - 1 / 2 : ℚ) * 10 ^ e := by
  have hhalf : (5 : ℚ) * 10 ^ (m - ctx.prec) = 1 / 2 * 10 ^ e := by
    rw [hplace, zpow_add_one₀ (by norm_num)]
    ring
  simp only [bound]
  rw [hhalf, pow_eq_units he]
  ring

/-- Rounding does not pass a power of ten. -/
theorem round_le_pow {x : Finite} {m : ℤ} (hzero : x.coefficient ≠ 0) (hm : ctx.emin ≤ m)
    (hlt : x.adjusted < m) : (ctx.round x).magnitude ≤ 10 ^ m := by
  have hx : x.magnitude < 10 ^ m := (Finite.adjusted_lt_iff hzero).mp hlt
  have hleading := x.exponent_le_adjusted
  have hquantum : max x.exponent (ctx.quantum x) ≤ m := by
    have := quantum_le hlt.le hm
    omega
  have hcoefficient : x.coefficient ≤
      10 ^ (m - max x.exponent (ctx.quantum x)).toNat *
        10 ^ (ctx.quantum x - x.exponent).toNat := by
    have hunits := (units_lt_pow_iff (by omega : x.exponent ≤ m)).mp hx
    rw [← pow_add]
    refine hunits.le.trans (Nat.pow_le_pow_right (by norm_num) ?_)
    omega
  have hround := roundHalfEven_le hcoefficient
  rw [magnitude_round hzero, pow_eq_units hquantum]
  exact mul_le_mul_of_nonneg_right (by exact_mod_cast hround) (ten_zpow_pos _).le

/-- Rounding does not fall below the leading digit. -/
theorem pow_le_round {x : Finite} (hzero : x.coefficient ≠ 0) (hm : ctx.emin ≤ x.adjusted) :
    10 ^ x.adjusted ≤ (ctx.round x).magnitude := by
  have hx : 10 ^ x.adjusted ≤ x.magnitude := (Finite.le_adjusted_iff hzero).mp (le_refl _)
  have hleading := x.exponent_le_adjusted
  have hquantum : max x.exponent (ctx.quantum x) ≤ x.adjusted := by
    have := quantum_le (le_refl x.adjusted) hm
    omega
  have hcoefficient : 10 ^ (x.adjusted - max x.exponent (ctx.quantum x)).toNat *
      10 ^ (ctx.quantum x - x.exponent).toNat ≤ x.coefficient := by
    have hunits := not_lt.mp (mt (units_lt_pow_iff hleading).mpr (not_lt.mpr hx))
    rw [← pow_add]
    refine le_trans (Nat.pow_le_pow_right (by norm_num) ?_) hunits
    omega
  have hround := le_roundHalfEven hcoefficient
  rw [magnitude_round hzero, pow_eq_units hquantum]
  exact mul_le_mul_of_nonneg_right (by exact_mod_cast hround) (ten_zpow_pos _).le

/-- The number with its leading digit at `m`: its last place is `ctx.prec` digits further, and
rounding carries from half of that place on. -/
theorem round_lt_iff_of_adjusted {x : Finite} {m : ℤ} (hzero : x.coefficient ≠ 0)
    (hm : ctx.emin ≤ m) (hadjusted : x.adjusted = m) :
    (ctx.round x).magnitude < 10 ^ (m + 1) ↔ x.magnitude < ctx.bound m := by
  have hleading := x.exponent_le_adjusted
  have hprec := ctx.prec_pos
  have hquantum : ctx.quantum x = m - ctx.prec + 1 := by
    simp only [quantum, etiny]
    omega
  have hx : x.magnitude < 10 ^ (m + 1) := (Finite.adjusted_lt_iff hzero).mp (by omega)
  rw [magnitude_round hzero, hquantum, bound_eq_units (by omega) rfl]
  rcases le_or_gt (m - ctx.prec + 1) x.exponent with hfine | hcoarse
  · -- Nothing is taken off, and a number below the power is a whole unit below.
    have hplaces : (m - ctx.prec + 1 - x.exponent).toNat = 0 := by omega
    rw [hplaces, roundHalfEven_zero, max_eq_left hfine]
    refine iff_of_true hx ?_
    have hlt := (units_lt_pow_iff (by omega : x.exponent ≤ m + 1)).mp hx
    have hunit : (x.coefficient : ℚ) + 1 ≤ (10 ^ (m + 1 - x.exponent).toNat : ℕ) := by
      exact_mod_cast hlt
    have hpow := pow_eq_units (by omega : x.exponent ≤ m + 1)
    have hlast := pow_eq_units (by omega : m - ctx.prec + 1 ≤ m + 1)
    have hfiner : (10 : ℚ) ^ (m - ctx.prec + 1) ≤ 10 ^ x.exponent :=
      zpow_le_zpow_right₀ (by norm_num) hfine
    have hpos := ten_zpow_pos (m - ctx.prec + 1)
    simp only [Finite.magnitude]
    nlinarith [ten_zpow_pos x.exponent]
  -- some places are taken off, and the half of the last one decides
  · have hplace : (10 : ℚ) ^ (m - ctx.prec + 1) =
        ((10 ^ (m - ctx.prec + 1 - x.exponent).toNat : ℕ) : ℚ) * 10 ^ x.exponent :=
      pow_eq_units hcoarse.le
    have heven : 10 ^ (m + 1 - (m - ctx.prec + 1)).toNat % 2 = 0 :=
      Nat.mod_eq_zero_of_dvd (dvd_pow (by norm_num) (by omega))
    rw [max_eq_right hcoarse.le, units_lt_pow_iff (by omega), roundHalfEven_lt_iff heven,
      hplace, ← mul_assoc, Finite.magnitude, mul_lt_mul_iff_left₀ (ten_zpow_pos _)]
    generalize 10 ^ (m + 1 - (m - ctx.prec + 1)).toNat = whole
    generalize 10 ^ (m - ctx.prec + 1 - x.exponent).toNat = unit
    rw [← Nat.cast_lt (α := ℚ)]
    push_cast
    constructor
    · intro h
      linarith
    · intro h
      linarith

/-- Rounding stays below a power of ten as long as the number is half of a last place below. -/
theorem round_lt_iff {x : Finite} {m : ℤ} (hm : ctx.emin ≤ m) :
    (ctx.round x).magnitude < 10 ^ (m + 1) ↔ x.magnitude < ctx.bound m := by
  by_cases hzero : x.coefficient = 0
  · have hx : x.magnitude = 0 := by simp [Finite.magnitude, hzero]
    rw [magnitude_round_zero hzero, hx]
    exact iff_of_true (ten_zpow_pos _) (lt_of_lt_of_le (ten_zpow_pos _) (pow_le_bound m))
  have hstep : (10 : ℚ) ^ m < 10 ^ (m + 1) := zpow_lt_zpow_right₀ (by norm_num) (by omega)
  rcases lt_trichotomy x.adjusted m with hlt | heq | hgt
  · have hx : x.magnitude < 10 ^ m := (Finite.adjusted_lt_iff hzero).mp hlt
    exact iff_of_true ((round_le_pow hzero hm hlt).trans_lt hstep)
      (hx.trans_le (pow_le_bound m))
  · exact round_lt_iff_of_adjusted hzero hm heq
  · have hx : 10 ^ x.adjusted ≤ x.magnitude := (Finite.le_adjusted_iff hzero).mp (le_refl _)
    have hpower : (10 : ℚ) ^ (m + 1) ≤ 10 ^ x.adjusted :=
      zpow_le_zpow_right₀ (by norm_num) (by omega)
    have hround := pow_le_round hzero (hm.trans hgt.le)
    refine iff_of_false (not_lt.mpr (hpower.trans hround)) (not_lt.mpr ?_)
    exact (bound_lt m).le.trans (hpower.trans hx)

/-! ## What the context holds -/

/-- A number with few enough digits, of exponents in the range. -/
def Representable (ctx : Context) (v : ℚ) : Prop :=
  ∃ (c : ℕ) (e : ℤ), c < 10 ^ ctx.prec ∧ ctx.etiny ≤ e ∧ |v| = c * (10 : ℚ) ^ e ∧
    |v| < 10 ^ (ctx.emax + 1)

/-- A number that the context holds loses nothing in rounding: what rounding takes off are
zeros. -/
theorem round_of_representable {x : Finite} (h : ctx.Representable x.value) :
    (ctx.round x).magnitude = x.magnitude := by
  by_cases hzero : x.coefficient = 0
  · rw [magnitude_round_zero hzero]
    simp [Finite.magnitude, hzero]
  rcases h with ⟨c, e, hdigits, hetiny, heq, hrange⟩
  rw [Finite.abs_value] at heq
  have hleading := x.exponent_le_adjusted
  -- The digits of the number end no later than those of `c`.
  have hquantum : ctx.quantum x ≤ e := by
    have hpow : x.magnitude < 10 ^ (e + ctx.prec) := by
      rw [heq, units_lt_pow_iff (by omega)]
      simpa using hdigits
    have := (Finite.adjusted_lt_iff hzero).mpr hpow
    simp only [quantum]
    omega
  rw [magnitude_round hzero]
  rcases le_or_gt (ctx.quantum x) x.exponent with hfine | hcoarse
  · have hplaces : (ctx.quantum x - x.exponent).toNat = 0 := by omega
    rw [hplaces, roundHalfEven_zero, max_eq_left hfine]
    rfl
  · have hcoefficient : x.coefficient =
        c * 10 ^ (e - ctx.quantum x).toNat * 10 ^ (ctx.quantum x - x.exponent).toNat := by
      have hsum : (e - ctx.quantum x).toNat + (ctx.quantum x - x.exponent).toNat =
          (e - x.exponent).toNat := by omega
      rw [Finite.magnitude, pow_eq_units (by omega : x.exponent ≤ e), ← mul_assoc] at heq
      have hunits := mul_right_cancel₀ (ten_zpow_pos x.exponent).ne' heq
      rw [mul_assoc, ← pow_add, hsum]
      exact_mod_cast hunits
    rw [Finite.magnitude, max_eq_right hcoarse.le, pow_eq_units hcoarse.le, ← mul_assoc]
    congr 1
    rw [hcoefficient, roundHalfEven_mul]
    push_cast
    ring

/-- Rounding leaves a number that the context holds, but for the bound above. -/
theorem round_fits (x : Finite) :
    (ctx.round x).coefficient < 10 ^ ctx.prec ∧ ctx.etiny ≤ (ctx.round x).exponent := by
  have hprec := ctx.prec_pos
  have hpos := pow_ten_pos ctx.prec
  by_cases hzero : x.coefficient = 0
  · simp only [round, if_pos hzero]
    exact ⟨hpos, le_max_left _ _⟩
  have hexponent := ctx.round_exponent x
  have hquantum : x.adjusted + 1 - ctx.prec ≤ ctx.quantum x := le_max_left _ _
  have hetiny : ctx.etiny ≤ ctx.quantum x := le_max_right _ _
  have hle : roundHalfEven x.coefficient (ctx.quantum x - x.exponent).toNat ≤ 10 ^ ctx.prec := by
    refine roundHalfEven_le ?_
    rw [← pow_add]
    refine (Nat.lt_pow_succ_log_self (by norm_num) _).le.trans
      (Nat.pow_le_pow_right (by norm_num) ?_)
    simp only [Finite.adjusted] at hquantum
    omega
  simp only [round, if_neg hzero]
  -- rounding carried into one more digit, so the exponent is one greater
  split
  · exact ⟨Nat.pow_lt_pow_right (by norm_num) (by omega), by
      show ctx.etiny ≤ x.exponent + _ + 1
      omega⟩
  -- it did not, and the coefficient is below the power
  · rename_i hcarry
    exact ⟨Nat.lt_of_le_of_ne hle hcarry, by
      show ctx.etiny ≤ x.exponent + _
      omega⟩

/-- What rounds to zero has the least exponent, or is zero. -/
theorem exponent_round_of_zero {x : Finite} (h : (ctx.round x).coefficient = 0) :
    (ctx.round x).exponent ≤ ctx.emax := by
  have hetiny := ctx.etiny_le_emin
  have hemin := ctx.emin_nonpos
  have hemax := ctx.emax_nonneg
  by_cases hzero : x.coefficient = 0
  · simp only [round, if_pos hzero]
    omega
  · have hmagnitude : (ctx.round x).magnitude = 0 := by simp [Finite.magnitude, h]
    -- a number of the normal range would not round to zero
    have hsmall : x.adjusted < ctx.emin := by
      by_contra hle
      have hround := pow_le_round hzero (not_lt.mp hle)
      rw [hmagnitude] at hround
      exact absurd (ten_zpow_pos _) (not_lt.mpr hround)
    have hexponent := ctx.round_exponent x
    have hleading := x.exponent_le_adjusted
    have hquantum : ctx.quantum x ≤ ctx.emin := quantum_le hsmall.le (le_refl _)
    simp only [round, if_neg hzero] at h ⊢
    -- a carry leaves a power of ten, which is not zero
    split at h
    · exact absurd h (pow_ten_pos _).ne'
    · rename_i hcarry
      rw [if_neg hcarry]
      show x.exponent + _ ≤ ctx.emax
      omega

/-- The exact result overflows from half of a last place below the range. -/
theorem finalize_eq (x : Finite) :
    ctx.finalize x =
      if x.magnitude < ctx.bound ctx.emax then .ok (ctx.round x) else .error .overflow := by
  have hemin : ctx.emin ≤ ctx.emax := ctx.emin_nonpos.trans ctx.emax_nonneg
  have hiff : ctx.emax < (ctx.round x).adjusted ↔ ¬ x.magnitude < ctx.bound ctx.emax := by
    rw [← round_lt_iff hemin]
    -- a result of zero has its exponent as its leading place
    by_cases hzero : (ctx.round x).coefficient = 0
    · have hexponent := exponent_round_of_zero hzero
      have hmagnitude : (ctx.round x).magnitude = 0 := by simp [Finite.magnitude, hzero]
      have hadjusted : (ctx.round x).adjusted = (ctx.round x).exponent := by
        simp [Finite.adjusted, hzero]
      rw [hmagnitude, hadjusted]
      exact iff_of_false (not_lt.mpr hexponent) (not_not.mpr (ten_zpow_pos _))
    · rw [← Finite.adjusted_lt_iff hzero]
      omega
  simp only [finalize]
  by_cases h : x.magnitude < ctx.bound ctx.emax
  · rw [if_neg (fun hover => hiff.mp hover h), if_pos h]
  · rw [if_pos (hiff.mpr h), if_neg h]

theorem finalize_of_lt {x : Finite} (h : x.magnitude < ctx.bound ctx.emax) :
    ctx.finalize x = .ok (ctx.round x) := by
  rw [finalize_eq, if_pos h]

theorem finalize_of_ge {x : Finite} (h : ctx.bound ctx.emax ≤ x.magnitude) :
    ctx.finalize x = .error .overflow := by
  rw [finalize_eq, if_neg (not_lt.mpr h)]

/-- What has been rounded is held. -/
theorem representable_round {x : Finite} (h : x.magnitude < ctx.bound ctx.emax) :
    ctx.Representable (ctx.round x).value := by
  have hemin : ctx.emin ≤ ctx.emax := ctx.emin_nonpos.trans ctx.emax_nonneg
  rcases ctx.round_fits x with ⟨hdigits, hetiny⟩
  refine ⟨_, _, hdigits, hetiny, (ctx.round x).abs_value, ?_⟩
  rw [Finite.abs_value]
  exact (round_lt_iff hemin).mpr h

/-- A number that the context holds is below the bound. -/
theorem Representable.lt_bound {x : Finite} (h : ctx.Representable x.value) :
    x.magnitude < ctx.bound ctx.emax := by
  have hemin : ctx.emin ≤ ctx.emax := ctx.emin_nonpos.trans ctx.emax_nonneg
  rw [← round_lt_iff hemin, round_of_representable h]
  rcases h with ⟨_, _, _, _, _, hrange⟩
  rwa [Finite.abs_value] at hrange

end Context

/-! ## Equal numbers -/

theorem Finite.value_congr {x y : Finite} (hsign : x.negative = y.negative)
    (h : x.magnitude = y.magnitude) : x.value = y.value := by
  simp only [Finite.value, hsign, h]

namespace Context

variable {ctx : Context}

theorem round_value_of_representable {x : Finite} (h : ctx.Representable x.value) :
    (ctx.round x).value = x.value :=
  Finite.value_congr (round_negative x) (round_of_representable h)

/-- A number is its integral value when nothing stands behind the point. -/
theorem toIntegral_finite (x : Finite) :
    ∃ y, ctx.toIntegral (.finite x) = .ok (.finite y) ∧ (x.value = y.value ↔ x.IsIntegral) := by
  -- a whole coefficient is its own integral value
  by_cases hpoint : 0 ≤ x.exponent
  · refine ⟨x, by simp only [toIntegral, if_pos hpoint], iff_of_true rfl ?_⟩
    have hplaces : (-x.exponent).toNat = 0 := by omega
    rw [Finite.IsIntegral, hplaces]
    exact one_dvd _
  · refine ⟨_, by simp only [toIntegral, if_neg hpoint]; rfl, ?_⟩
    have hunits := pow_eq_units (by omega : x.exponent ≤ 0)
    rw [zero_sub] at hunits
    -- the digits behind the point are zeros exactly when dividing by their power is exact
    constructor
    · intro h
      have hmagnitude := congrArg abs h
      rw [Finite.abs_value, Finite.abs_value, Finite.magnitude, Finite.magnitude] at hmagnitude
      rw [hunits, ← mul_assoc] at hmagnitude
      have hcoefficient := mul_right_cancel₀ (ten_zpow_pos x.exponent).ne' hmagnitude
      refine ⟨roundHalfEven x.coefficient (-x.exponent).toNat, ?_⟩
      rw [Nat.mul_comm]
      exact_mod_cast hcoefficient
    · rintro ⟨whole, hwhole⟩
      rw [Nat.mul_comm] at hwhole
      refine Finite.value_congr rfl ?_
      simp only [Finite.magnitude]
      rw [hwhole, roundHalfEven_mul, hunits]
      push_cast
      ring

/-- An integral number is quantized to its units exactly, unless it has too many digits. -/
theorem quantize_integral {x : Finite} (hprec : ctx.prec ≤ ctx.emax) (h : x.IsIntegral) :
    if x.magnitude < 10 ^ (ctx.prec : ℤ) then
      ∃ y, ctx.quantize 0 (.finite x) = .ok (.finite y) ∧ y.value = x.value
    else ctx.quantize 0 (.finite x) = .error .invalidOperation := by
  have hpos := ctx.prec_pos
  have hetiny := ctx.etiny_le_emin.trans ctx.emin_nonpos
  have hemin : ctx.emin ≤ ctx.emax := ctx.emin_nonpos.trans ctx.emax_nonneg
  by_cases hzero : x.coefficient = 0
  · have hx : x.magnitude = 0 := by simp [Finite.magnitude, hzero]
    have hbound : (⟨x.negative, 0, 0⟩ : Finite).magnitude < ctx.bound ctx.emax := by
      rw [Finite.magnitude, Nat.cast_zero, zero_mul]
      exact lt_of_lt_of_le (ten_zpow_pos _) (pow_le_bound _)
    rw [hx, if_pos (ten_zpow_pos _)]
    refine ⟨ctx.round ⟨x.negative, 0, 0⟩, ?_, ?_⟩
    · simp only [quantize, if_pos hzero, finalize_of_lt hbound]
      rfl
    · exact Finite.value_congr (round_negative _) (by rw [magnitude_round_zero rfl, hx])
  by_cases hlt : x.magnitude < 10 ^ (ctx.prec : ℤ)
  · rw [if_pos hlt]
    have hadjusted := (Finite.adjusted_lt_iff hzero).mpr hlt
    -- The units are the number itself: nothing is taken off.
    have hunits : ∃ units : ℕ,
        roundHalfEven (x.coefficient * 10 ^ (x.exponent - 0).toNat) (0 - x.exponent).toNat =
          units ∧ (units : ℚ) = x.magnitude := by
      refine ⟨_, rfl, ?_⟩
      rcases le_or_gt 0 x.exponent with hle | hneg
      · have hplaces : (0 - x.exponent).toNat = 0 := by omega
        have hpow := pow_eq_units hle
        rw [zpow_zero, mul_one] at hpow
        rw [hplaces, roundHalfEven_zero, Finite.magnitude, hpow]
        push_cast
        rfl
      · rcases h with ⟨whole, hwhole⟩
        have hplaces : (x.exponent - 0).toNat = 0 := by omega
        have hpow := pow_eq_units hneg.le
        rw [zero_sub, zpow_zero] at hpow
        rw [hplaces, pow_zero, Nat.mul_one, zero_sub, Finite.magnitude, hwhole,
          Nat.mul_comm (10 ^ _) whole, roundHalfEven_mul]
        push_cast at hpow ⊢
        rw [mul_assoc, ← hpow, mul_one]
    rcases hunits with ⟨units, hresult, hunits⟩
    have hmagnitude : (⟨x.negative, units, 0⟩ : Finite).magnitude = x.magnitude := by
      rw [← hunits, Finite.magnitude, zpow_zero, mul_one]
    have hne : units ≠ 0 := by
      intro hnone
      rw [hnone, Nat.cast_zero, Finite.magnitude] at hunits
      rcases mul_eq_zero.mp hunits.symm with hc | hp
      · exact hzero (by exact_mod_cast hc)
      · exact absurd hp (ten_zpow_pos _).ne'
    have hdigits : (⟨x.negative, units, 0⟩ : Finite).adjusted < ctx.prec := by
      rw [Finite.adjusted_lt_iff hne, hmagnitude]
      exact hlt
    have hheld : ctx.Representable (⟨x.negative, units, 0⟩ : Finite).value := by
      refine ⟨units, 0, ?_, hetiny, by rw [Finite.abs_value]; rfl, ?_⟩
      · rw [← hunits, zpow_natCast] at hlt
        exact_mod_cast hlt
      · rw [Finite.abs_value, hmagnitude]
        exact hlt.trans_le (zpow_le_zpow_right₀ (by norm_num) (by omega))
    refine ⟨ctx.round ⟨x.negative, units, 0⟩, ?_, ?_⟩
    · have hfits : ¬ (ctx.prec : ℤ) < x.adjusted + 1 - 0 := by omega
      have hresultFits : ¬ ((ctx.prec : ℤ) < (⟨x.negative, units, 0⟩ : Finite).adjusted + 1 - 0 ∨
          ctx.emax < (⟨x.negative, units, 0⟩ : Finite).adjusted) := by omega
      simp only [quantize, if_neg hzero, if_neg hfits, hresult, if_neg hresultFits,
        finalize_of_lt hheld.lt_bound]
      rfl
    · rw [round_value_of_representable hheld]
      exact Finite.value_congr rfl hmagnitude
  · rw [if_neg hlt]
    have hadjusted := (Finite.le_adjusted_iff hzero).mpr (not_lt.mp hlt)
    have hlong : (ctx.prec : ℤ) < x.adjusted + 1 - 0 := by omega
    simp only [quantize, if_neg hzero, if_pos hlong]

/-- Normalizing rounds and then changes no value. -/
theorem normalize_finite {x : Finite} (h : x.magnitude < ctx.bound ctx.emax) :
    ∃ y, ctx.normalize (.finite x) = .ok (.finite y) ∧ y.value = (ctx.round x).value := by
  simp only [normalize, finalize_of_lt h, Except.map]
  split
  · rename_i hzero
    exact ⟨_, rfl, Finite.value_congr rfl (by simp [Finite.magnitude, hzero])⟩
  · refine ⟨_, rfl, Finite.value_congr rfl ?_⟩
    simp only [Finite.magnitude]
    have hzeros : (10 : ℕ) ^ (Nat.maxPowDvdDiv 10 (ctx.round x).coefficient).1 ∣
        (ctx.round x).coefficient := pow_padicValNat_dvd
    rw [Nat.cast_div hzeros (by positivity), Nat.cast_pow, Nat.cast_ofNat,
      zpow_add₀ (by norm_num), zpow_natCast]
    field_simp

theorem normalize_of_ge {x : Finite} (h : ctx.bound ctx.emax ≤ x.magnitude) :
    ctx.normalize (.finite x) = .error .overflow := by
  simp only [normalize, finalize_of_ge h]
  rfl

end Context

/-! ## Exact operations -/

theorem Finite.mul_magnitude (x y : Finite) :
    (x.mul y).magnitude = x.magnitude * y.magnitude := by
  simp only [Finite.mul, Finite.magnitude, Nat.cast_mul, zpow_add₀ (by norm_num : (10 : ℚ) ≠ 0)]
  ring

theorem Finite.mul_value (x y : Finite) : (x.mul y).value = x.value * y.value := by
  have hmagnitude := x.mul_magnitude y
  have hsign : (x.mul y).negative = (x.negative != y.negative) := rfl
  simp only [Finite.value, hmagnitude, hsign]
  by_cases hx : x.negative = true <;> by_cases hy : y.negative = true <;> simp [hx, hy]

theorem Finite.divPowTen_magnitude (x : Finite) (places : ℕ) :
    (x.divPowTen places).magnitude = x.magnitude / 10 ^ places := by
  by_cases hzero : x.coefficient = 0
  · simp [Finite.divPowTen, Finite.magnitude, hzero]
  · simp only [Finite.divPowTen, if_neg hzero, Finite.magnitude]
    have hzeros : 10 ^ min places (Nat.maxPowDvdDiv 10 x.coefficient).1 ∣ x.coefficient :=
      (pow_dvd_pow _ (min_le_right _ _)).trans pow_padicValNat_dvd
    rw [Nat.cast_div hzeros (by positivity), Nat.cast_pow, Nat.cast_ofNat,
      zpow_add₀ (by norm_num), zpow_sub₀ (by norm_num), zpow_natCast, zpow_natCast]
    field_simp

theorem Finite.divPowTen_value (x : Finite) (places : ℕ) :
    (x.divPowTen places).value = x.value / 10 ^ places := by
  have hmagnitude := x.divPowTen_magnitude places
  have hsign : (x.divPowTen places).negative = x.negative := rfl
  simp only [Finite.value, hmagnitude, hsign]
  by_cases hx : x.negative = true
  · simp only [if_pos hx, neg_div]
  · simp only [if_neg hx]

end GeneralDecimal
