import MacroPlatform.Contracts.Text
import MacroPlatform.Contracts.Unicode
import MacroPlatform.Lib.Except
import MacroPlatform.Lib.GeneralDecimal

/-! # US values and their units

A value comes as text, with its unit behind it or named beside it. The text is read as a `Decimal`
exactly; the quotient of basis points and the product with a scale are rounded into the default
context, and the result is brought into one form for each number.

* `canonicalDecimal_finite`: which numbers have a canonical form;
* `inRange_of_digits`: numbers of the digits of the context are in range;
* `unitNormalization_closed_iff`: which texts are normalized, exactly or with an error of its own.
-/

namespace MacroPlatform.Normalization

open GeneralDecimal (Finite Number Signal Context)

variable (u : Unicode)

/-! ## Errors -/

/-- `UnitNormalizationError`. -/
structure UnitNormalizationError where
  message : String
  code : String := "UNIT_NORMALIZATION_ERROR"
deriving DecidableEq, Repr

/-- What leaves `normalize_us_value`: its own error, or a signal of the decimal context. -/
inductive UsValueError where
  | unit (error : UnitNormalizationError)
  | decimal (signal : Signal)
deriving DecidableEq, Repr

/-! ## Decimals as text -/

/-- The default context of the `decimal` module, which traps invalid operations and overflows. -/
def defaultContext : Context where
  prec := 28
  emin := -999999
  emax := 999999
  prec_pos := by decide
  emin_nonpos := by decide
  emax_nonneg := by decide

/-- The character that a decimal is read from; the other ones are no decimal. -/
def numericAscii (c : Char) : Option Char :=
  if 0 < c.toNat ∧ c.toNat ≤ 127 then some c
  else if isPySpace c then some ' '
  else (u.decimal c).map fun digit => Char.ofNat ('0'.toNat + digit)

/-- The text without the white space around it and without underscores. -/
def numericText (s : String) : Option (List Char) :=
  ((pyStrip s).toList.filter (· ≠ '_')).mapM (numericAscii u)

def splitSign (s : List Char) : Bool × List Char :=
  if s.head? = some '-' then (true, s.tail)
  else if s.head? = some '+' then (false, s.tail)
  else (false, s)

/-- The number that digits write; none are zero. -/
def digitsValue (s : List Char) : Option ℕ :=
  if s.all Char.isDigit then some (s.foldl (fun n c => 10 * n + (c.toNat - '0'.toNat)) 0)
  else none

def exponentOfText (s : List Char) : Option ℤ :=
  let (negative, digits) := splitSign s
  if digits = [] then none
  else (digitsValue digits).map fun n => if negative then -(n : ℤ) else n

/-- The most digits and the greatest exponent that a `Decimal` has on 64 bits. -/
def decimalLimit : ℕ := 999999999999999999

/-- A `Decimal` is made of a number only when nothing of it is rounded or clamped. -/
def WithinLimits (x : Finite) : Prop :=
  -(2 * decimalLimit - 1 : ℤ) ≤ x.exponent ∧ x.adjusted ≤ decimalLimit ∧
    x.adjusted - x.exponent < decimalLimit

instance (x : Finite) : Decidable (WithinLimits x) := inferInstanceAs (Decidable (_ ∧ _ ∧ _))

def finiteOfText (negative : Bool) (s : List Char) : Option Finite :=
  let isMark : Char → Bool := fun c => c = 'e' ∨ c = 'E'
  let mantissa := s.takeWhile fun c => !isMark c
  let whole := mantissa.takeWhile (· ≠ '.')
  let fraction := (mantissa.dropWhile (· ≠ '.')).tail
  if whole ++ fraction = [] then none
  else
    (digitsValue (whole ++ fraction)).bind fun coefficient =>
    (match s.dropWhile fun c => !isMark c with
      | [] => some 0
      | _ :: exponent => exponentOfText exponent).bind fun exponent =>
    let x : Finite := ⟨negative, coefficient, exponent - fraction.length⟩
    if WithinLimits x then some x else none

/-- `Decimal(text)`; `none` is the `InvalidOperation` of the syntax. -/
def decimalOfText (s : String) : Option Number :=
  (numericText u s).bind fun ascii =>
  let (negative, text) := splitSign ascii
  let folded := text.map Char.toLower
  let payload (digits : List Char) : Option ℕ :=
    if (digits.dropWhile (· = '0')).length ≤ decimalLimit then digitsValue digits else none
  if folded.take 3 = ['n', 'a', 'n'] then
    (payload (text.drop 3)).map fun p => .nan negative false p
  else if folded.take 4 = ['s', 'n', 'a', 'n'] then
    (payload (text.drop 4)).map fun p => .nan negative true p
  else if folded = ['i', 'n', 'f'] ∨ folded = "infinity".toList then some (.infinity negative)
  else (finiteOfText negative text).map .finite

example : decimalOfText .ascii " -1_2.50e-3 " = some (.finite ⟨true, 1250, -5⟩) := by
  decide +kernel
example : decimalOfText .ascii "sNaN7" = some (.nan false true 7) := by decide +kernel

/-- `str(value)` of a `Decimal`. -/
def decimalText : Number → String
  | .finite x =>
    let digits := (toString x.coefficient).toList
    let leftDigits := x.exponent + digits.length
    let dotPlace := if x.exponent ≤ 0 ∧ -6 < leftDigits then leftDigits else 1
    let mantissa :=
      if dotPlace ≤ 0 then "0.".toList ++ List.replicate (-dotPlace).toNat '0' ++ digits
      else if digits.length ≤ dotPlace then
        digits ++ List.replicate (dotPlace - digits.length).toNat '0'
      else digits.take dotPlace.toNat ++ '.' :: digits.drop dotPlace.toNat
    let exponent := leftDigits - dotPlace
    (if x.negative then "-" else "") ++ String.ofList mantissa ++
      (if exponent = 0 then "" else
        "E" ++ (if 0 < exponent then "+" else "") ++ toString exponent)
  | .infinity negative => (if negative then "-" else "") ++ "Infinity"
  | .nan negative signaling payload =>
    (if negative then "-" else "") ++ (if signaling then "sNaN" else "NaN") ++
      (if payload = 0 then "" else toString payload)

example : decimalText (.finite ⟨true, 1205, -9⟩) = "-0.000001205" := by decide +kernel
example : decimalText (.finite ⟨false, 25, 4⟩) = "2.5E+5" := by decide +kernel

/-! ## Units -/

/-- `_MISSING_SENTINELS`. -/
def missingSentinels : List String := ["", "--", "N/A", "NA", "NULL"]

/-- `_UNIT_HINTS`. -/
def unitHints : List String := ["percent", "index_point", "rate"]

/-- `_resolve_unit`: the unit and the currency. -/
def resolveUnit (unitHint : Option String) (rawValue : String) :
    Except UnitNormalizationError (String × Option String) :=
  match unitHint with
  | none =>
    if endsWith "%" rawValue ∨ endsWith "bp" (u.lower rawValue) ∨
        endsWith "bps" (u.lower rawValue) then .ok ("percent", none)
    else .error
      ⟨"unit hint is required for numeric values without an inline unit", "UNIT_REQUIRED"⟩
  | some hint =>
    let normalized := pyStrip hint
    if u.pyUpper normalized = "USD" then .ok ("currency", some "USD")
    else if normalized ∈ unitHints then .ok (normalized, none)
    else .error ⟨"unsupported unit hint: " ++ hint, "UNKNOWN_UNIT"⟩

/-- `_basis_points_suffix`: the last characters of the text, whose lower case may be longer. -/
def basisPointsSuffix (rawValue : String) : Option String :=
  let lastOf (n : ℕ) := String.ofList (rawValue.toList.drop (rawValue.length - n))
  if endsWith "bps" (u.lower rawValue) then some (lastOf 3)
  else if endsWith "bp" (u.lower rawValue) then some (lastOf 2)
  else none

/-- `text[:-n].strip()`. -/
def numberBefore (n : ℕ) (s : String) : String :=
  pyStrip (String.ofList (s.toList.take (s.length - n)))

/-- What the suffix of a text says of the number before it. -/
structure UsReading where
  numericText : String
  rawUnit : Option String
  unit : String
  currency : Option String
  normalizationRule : String

/-- The unit of a text that is not missing, and the text of its number. -/
def readUsValue (raw : String) (unitHint : Option String) :
    Except UnitNormalizationError UsReading :=
  if endsWith "%" raw then .ok ⟨numberBefore 1 raw, some "%", "percent", none, "percent_suffix"⟩
  else
    match basisPointsSuffix u raw with
    | some suffix =>
      .ok ⟨numberBefore suffix.length raw, some suffix, "percent", none, "basis_points_to_percent"⟩
    | none =>
      resolveUnit u unitHint raw >>= fun unit =>
      .ok ⟨raw, unitHint, unit.1, unit.2, "decimal_from_text"⟩

def UsReading.basisPoints (reading : UsReading) : Bool :=
  reading.normalizationRule == "basis_points_to_percent"

/-! ## Values -/

/-- `_NormalizedUsValue`. -/
structure NormalizedUsValue where
  rawValue : String
  value : Option Number
  unit : String
  currency : Option String
  rawUnit : Option String
  normalizationRule : String
  missingReason : Option String := none
deriving DecidableEq

/-- `_canonical_decimal`. -/
def canonicalDecimal (ctx : Context) (value : Number) : Except Signal Number :=
  ctx.toIntegral value >>= fun whole =>
  GeneralDecimal.eq value whole >>= fun same =>
  if same then ctx.quantize 0 value else ctx.normalize value

/-- The arithmetic of `normalize_us_value`. -/
def scaledValue (ctx : Context) (basisPoints : Bool) (scale : Option Number) (value : Number) :
    Except Signal Number :=
  (if basisPoints then ctx.divPowTen 2 value else .ok value) >>= fun value =>
  (match scale with
    | none => .ok value
    | some scale => ctx.mul value scale) >>= fun value =>
  canonicalDecimal ctx value

/-- The rule that is recorded of a value that is scaled. -/
def scaledRule (normalizationRule : String) : Option Number → String
  | none => normalizationRule
  | some scale => normalizationRule ++ "_scaled_by_" ++ decimalText scale

/-- `normalize_us_value`. -/
def normalizeUsValue (rawValue : String) (unitHint : Option String) (scale : Option Number) :
    Except UsValueError NormalizedUsValue :=
  let raw := pyStrip rawValue
  if u.pyUpper raw ∈ missingSentinels then
    (resolveUnit u unitHint raw).mapError .unit >>= fun unit =>
    .ok ⟨rawValue, none, unit.1, unit.2, unitHint, "missing_sentinel_to_null",
      some "not_reported"⟩
  else
    (readUsValue u raw unitHint).mapError .unit >>= fun reading =>
    match decimalOfText u reading.numericText with
    | none => .error (.unit { message := "cannot parse decimal value: " ++ rawValue })
    | some parsed =>
      (scaledValue defaultContext reading.basisPoints scale parsed).mapError .decimal >>=
        fun value =>
      .ok ⟨rawValue, some value, reading.unit, reading.currency, reading.rawUnit,
        scaledRule reading.normalizationRule scale, none⟩

example : ((normalizeUsValue .ascii "12.5bps" none (some (.finite ⟨false, 20, -1⟩))).toOption.map
    fun v => (v.value, v.rawUnit, v.normalizationRule)) =
    some (some (.finite ⟨false, 25, -2⟩), some "bps",
      "basis_points_to_percent_scaled_by_2.0") := by decide +kernel

/-! ## Canonical decimals -/

variable {ctx : Context}

/-- A finite number has a canonical form unless it is integral and has too many digits, or
overflows as it is normalized. -/
theorem canonicalDecimal_finite (hprec : ctx.prec ≤ ctx.emax) (x : Finite) :
    if x.IsIntegral then
      if x.magnitude < 10 ^ (ctx.prec : ℤ) then
        ∃ y, canonicalDecimal ctx (.finite x) = .ok (.finite y) ∧ y.value = x.value
      else canonicalDecimal ctx (.finite x) = .error .invalidOperation
    else
      if x.magnitude < ctx.bound ctx.emax then
        ∃ y, canonicalDecimal ctx (.finite x) = .ok (.finite y) ∧ y.value = (ctx.round x).value
      else canonicalDecimal ctx (.finite x) = .error .overflow := by
  rcases ctx.toIntegral_finite x with ⟨whole, hwhole, hsame⟩
  have heq : GeneralDecimal.eq (.finite x) (.finite whole) = .ok (decide x.IsIntegral) := by
    simp only [GeneralDecimal.eq, ← hsame, beq_eq_decide]
  -- the source quantizes integral numbers and normalizes the others
  have hform : canonicalDecimal ctx (.finite x) =
      if x.IsIntegral then ctx.quantize 0 (.finite x) else ctx.normalize (.finite x) := by
    simp only [canonicalDecimal, hwhole, Raising.ok_bind, heq, decide_eq_true_eq]
  rw [hform]
  by_cases hintegral : x.IsIntegral
  · simp only [if_pos hintegral]
    exact Context.quantize_integral hprec hintegral
  · simp only [if_neg hintegral]
    by_cases hlt : x.magnitude < ctx.bound ctx.emax
    · rw [if_pos hlt]
      exact Context.normalize_finite hlt
    · rw [if_neg hlt]
      exact Context.normalize_of_ge (not_lt.mp hlt)

/-- A number that the context holds and that has too many places before the point is integral. -/
theorem isIntegral_of_held {x : Finite} (hdigits : x.coefficient < 10 ^ ctx.prec)
    (h : 10 ^ (ctx.prec : ℤ) ≤ x.magnitude) : x.IsIntegral := by
  have hexponent : 0 ≤ x.exponent := by
    by_contra hneg
    have hone : (10 : ℚ) ^ x.exponent ≤ 1 := zpow_le_one_of_nonpos₀ (by norm_num) (by omega)
    have hsmall : (x.coefficient : ℚ) < 10 ^ (ctx.prec : ℤ) := by
      rw [zpow_natCast]
      exact_mod_cast hdigits
    have hle : x.magnitude ≤ x.coefficient := mul_le_of_le_one_right (Nat.cast_nonneg _) hone
    linarith
  have hplaces : (-x.exponent).toNat = 0 := by omega
  rw [Finite.IsIntegral, hplaces]
  exact one_dvd _

/-- An exact result that is rounded has a canonical form as long as rounding leaves it the digits
of the context before the point. -/
theorem canonicalDecimal_finalize (hprec : ctx.prec ≤ ctx.emax) (x : Finite) :
    if x.magnitude < ctx.bound (ctx.prec - 1) then
      ∃ y, ((ctx.finalize x).map .finite >>= canonicalDecimal ctx) = .ok (.finite y) ∧
        y.value = (ctx.round x).value
    else ∃ signal,
      ((ctx.finalize x).map Number.finite >>= canonicalDecimal ctx) = .error signal := by
  have hpos := ctx.prec_pos
  have hemin := ctx.emin_nonpos
  -- in units of the last place the two bounds are one
  have hround := Context.round_lt_iff (x := x) (by omega : ctx.emin ≤ ctx.prec - 1)
  rw [Int.sub_add_cancel] at hround
  -- a number that keeps its digits before the point does not overflow
  have hmono : ctx.bound (ctx.prec - 1) ≤ ctx.bound ctx.emax := by
    have hlt : ctx.bound (ctx.prec - 1) < 10 ^ ((ctx.prec - 1 : ℤ) + 1) := Context.bound_lt _
    rw [Int.sub_add_cancel] at hlt
    exact (hlt.le.trans (zpow_le_zpow_right₀ (by norm_num) hprec)).trans
      (Context.pow_le_bound _)
  have hcanonical := canonicalDecimal_finite hprec (ctx.round x)
  by_cases hlt : x.magnitude < ctx.bound (ctx.prec - 1)
  · rw [if_pos hlt, Context.finalize_of_lt (hlt.trans_le hmono)]
    have hheld := Context.representable_round (hlt.trans_le hmono)
    rw [if_pos (hround.mpr hlt), if_pos hheld.lt_bound,
      Context.round_value_of_representable hheld, ite_self] at hcanonical
    exact hcanonical
  · rw [if_neg hlt]
    -- with more digits it is integral, and too long to be quantized
    by_cases hover : x.magnitude < ctx.bound ctx.emax
    · have hlarge := not_lt.mp (mt hround.mp hlt)
      rw [if_pos (isIntegral_of_held (ctx.round_fits x).1 hlarge),
        if_neg (not_lt.mpr hlarge)] at hcanonical
      rw [Context.finalize_of_lt hover]
      exact ⟨_, hcanonical⟩
    · rw [Context.finalize_of_ge (not_lt.mp hover)]
      exact ⟨_, rfl⟩

/-! ## Infinities and NaNs -/

/-- No operation on an infinity or a NaN gives a finite number. -/
theorem canonicalDecimal_special {n : Number} (hn : ∀ x, n ≠ .finite x) (y : Finite) :
    canonicalDecimal ctx n ≠ .ok (.finite y) := by
  intro h
  rcases n with x | negative | ⟨negative, signaling, payload⟩
  · exact hn x rfl
  · simp [canonicalDecimal, Context.toIntegral, GeneralDecimal.eq, Context.quantize,
      Raising.ok_bind] at h
  · cases signaling <;>
      simp [canonicalDecimal, Context.toIntegral, Context.propagate, GeneralDecimal.eq,
        Context.normalize, bind, Except.bind] at h

/-- What is not finite does not become so. -/
theorem scaledValue_special {n : Number} (hn : ∀ x, n ≠ .finite x) (basisPoints : Bool)
    (scale : Option Finite) (y : Finite) :
    scaledValue ctx basisPoints (scale.map .finite) n ≠ .ok (.finite y) := by
  intro h
  rcases Raising.bind_ok.mp h with ⟨quotient, hquotient, hrest⟩
  rcases Raising.bind_ok.mp hrest with ⟨product, hproduct, hcanonical⟩
  -- neither the quotient nor the product of a special number is finite
  have hquotientSpecial : ∀ x, quotient ≠ .finite x := by
    rintro x rfl
    rcases n with z | negative | ⟨negative, signaling, payload⟩
    · exact hn z rfl
    · cases basisPoints <;> simp [Context.divPowTen] at hquotient
    · cases basisPoints <;> cases signaling <;>
        simp [Context.divPowTen, Context.propagate] at hquotient
  have hproductSpecial : ∀ x, product ≠ .finite x := by
    rintro x rfl
    rcases scale with - | s
    · exact hquotientSpecial x (Except.ok.inj hproduct)
    · rcases quotient with z | negative | ⟨negative, signaling, payload⟩
      · exact hquotientSpecial z rfl
      · simp only [Option.map_some, Context.mul] at hproduct
        split at hproduct <;> simp at hproduct
      · cases signaling <;> simp [Context.mul, Context.propagate] at hproduct
  exact canonicalDecimal_special hproductSpecial y hcanonical

/-! ## What normalization comes to -/

/-- The number itself, times the factors of its unit and its scale. -/
def exactValue (basisPoints : Bool) (scale : Option Finite) (x : Finite) : ℚ :=
  x.value * (if basisPoints then 1 / 100 else 1) * scale.elim 1 Finite.value

/-- A finite number, and the exact one if the context holds it. -/
def Faithful (ctx : Context) (exact : ℚ) : Except Signal Number → Prop
  | .ok (.finite y) => ctx.Representable exact → y.value = exact
  | _ => False

/-- The arithmetic stays where the context can follow it. A number alone is not rounded before it
is quantized, so it may not be integral with too many digits; a quotient or a product may not be
rounded up to as many. Of both factors, the quotient is rounded first, and where the context holds
the product the second rounding has to make up for the first; `inRange_of_digits` says where there
is nothing to make up for. -/
def InRange (ctx : Context) : Bool → Option Finite → Finite → Prop
  | false, none, x =>
    if x.IsIntegral then x.magnitude < 10 ^ (ctx.prec : ℤ) else x.magnitude < ctx.bound ctx.emax
  | false, some scale, x => (x.mul scale).magnitude < ctx.bound (ctx.prec - 1)
  | true, none, x => (x.divPowTen 2).magnitude < ctx.bound (ctx.prec - 1)
  | true, some scale, x =>
    let quotient := ctx.round (x.divPowTen 2)
    (x.divPowTen 2).magnitude < ctx.bound ctx.emax ∧
      (quotient.mul scale).magnitude < ctx.bound (ctx.prec - 1) ∧
      (ctx.Representable (exactValue true (some scale) x) →
        (ctx.round (quotient.mul scale)).value = exactValue true (some scale) x)

/-- A quotient that the context holds is not rounded, and the exact product decides alone. -/
theorem inRange_of_held {scale x : Finite} (h : ctx.Representable (x.divPowTen 2).value) :
    InRange ctx true (some scale) x ↔
      |exactValue true (some scale) x| < ctx.bound (ctx.prec - 1) := by
  have hquotient := Context.round_value_of_representable h
  have hexact : ((ctx.round (x.divPowTen 2)).mul scale).value =
      exactValue true (some scale) x := by
    rw [Finite.mul_value, hquotient, Finite.divPowTen_value]
    simp only [exactValue, if_true, Option.elim_some]
    ring
  rw [← hexact, Finite.abs_value]
  constructor
  · rintro ⟨-, hlt, -⟩
    exact hlt
  · intro hlt
    refine ⟨h.lt_bound, hlt, ?_⟩
    intro hheld
    rw [← hexact] at hheld ⊢
    exact Context.round_value_of_representable hheld

/-- So it is for a number with as many digits as the context holds, which division by a hundred
does not take past the least exponent. -/
theorem inRange_of_digits {scale x : Finite} (hdigits : x.coefficient < 10 ^ ctx.prec)
    (hlow : ctx.etiny + 2 ≤ x.exponent) (hhigh : x.magnitude < 10 ^ (ctx.emax + 1)) :
    InRange ctx true (some scale) x ↔
      |exactValue true (some scale) x| < ctx.bound (ctx.prec - 1) := by
  apply inRange_of_held
  have hvalue : |(x.divPowTen 2).value| = x.magnitude / 10 ^ 2 := by
    rw [Finite.abs_value, Finite.divPowTen_magnitude]
  refine ⟨x.coefficient, x.exponent - 2, hdigits, by omega, ?_, ?_⟩
  · -- the digits stay, two places further down
    rw [hvalue, Finite.magnitude, zpow_sub₀ (by norm_num), mul_div_assoc]
    rfl
  · rw [hvalue]
    have hnonneg := x.magnitude_nonneg
    linarith

/-- A result that is rounded once. -/
theorem faithful_finalize (hprec : ctx.prec ≤ ctx.emax) (x : Finite) (exact : ℚ) :
    Faithful ctx exact ((ctx.finalize x).map .finite >>= canonicalDecimal ctx) ↔
      x.magnitude < ctx.bound (ctx.prec - 1) ∧
        (ctx.Representable exact → (ctx.round x).value = exact) := by
  have hresult := canonicalDecimal_finalize hprec x
  by_cases hlt : x.magnitude < ctx.bound (ctx.prec - 1)
  · rw [if_pos hlt] at hresult
    rcases hresult with ⟨y, hy, hvalue⟩
    rw [hy]
    simp only [Faithful, hvalue, hlt, true_and]
  · rw [if_neg hlt] at hresult
    rcases hresult with ⟨signal, hsignal⟩
    rw [hsignal]
    simp only [Faithful, hlt, false_and]

/-- A finite value is faithful exactly in the range. -/
theorem scaledValue_faithful_iff (hprec : ctx.prec ≤ ctx.emax) (basisPoints : Bool)
    (scale : Option Finite) (x : Finite) :
    Faithful ctx (exactValue basisPoints scale x)
        (scaledValue ctx basisPoints (scale.map .finite) (.finite x)) ↔
      InRange ctx basisPoints scale x := by
  -- the two optional factors: basis points, and a scale
  rcases basisPoints with - | - <;> rcases scale with - | scale
  · -- The number alone.
    have hexact : exactValue false none x = x.value := by simp [exactValue]
    have hform : scaledValue ctx false none (.finite x) = canonicalDecimal ctx (.finite x) := rfl
    have hresult := canonicalDecimal_finite hprec x
    simp only [Option.map_none, hform, hexact, InRange]
    by_cases hintegral : x.IsIntegral
    · simp only [if_pos hintegral] at hresult ⊢
      by_cases hlt : x.magnitude < 10 ^ (ctx.prec : ℤ)
      · rw [if_pos hlt] at hresult
        rcases hresult with ⟨y, hy, hvalue⟩
        rw [hy]
        exact iff_of_true (fun _ => hvalue) hlt
      · rw [if_neg hlt] at hresult
        rw [hresult]
        exact iff_of_false id hlt
    · simp only [if_neg hintegral] at hresult ⊢
      by_cases hlt : x.magnitude < ctx.bound ctx.emax
      · rw [if_pos hlt] at hresult
        rcases hresult with ⟨y, hy, hvalue⟩
        rw [hy]
        refine iff_of_true (fun hheld => ?_) hlt
        rw [hvalue, Context.round_value_of_representable hheld]
      · rw [if_neg hlt] at hresult
        rw [hresult]
        exact iff_of_false id hlt
  · have hexact : exactValue false (some scale) x = (x.mul scale).value := by
      simp [exactValue, Finite.mul_value]
    have hform : scaledValue ctx false (some (.finite scale)) (.finite x) =
        ((ctx.finalize (x.mul scale)).map .finite >>= canonicalDecimal ctx) := rfl
    simp only [Option.map_some, hform, hexact, InRange, faithful_finalize hprec]
    exact and_iff_left Context.round_value_of_representable
  · have hexact : exactValue true none x = (x.divPowTen 2).value := by
      simp only [exactValue, if_true, Option.elim_none, Finite.divPowTen_value]
      ring
    have hform : scaledValue ctx true none (.finite x) =
        ((ctx.finalize (x.divPowTen 2)).map .finite >>= canonicalDecimal ctx) := by
      simp only [scaledValue, if_true, Context.divPowTen]
      rfl
    simp only [Option.map_none, hform, hexact, InRange, faithful_finalize hprec]
    exact and_iff_left Context.round_value_of_representable
  · -- Two roundings, one after the other.
    have hform : scaledValue ctx true (some (.finite scale)) (.finite x) =
        (ctx.finalize (x.divPowTen 2) >>= fun quotient =>
          (ctx.finalize (quotient.mul scale)).map .finite >>= canonicalDecimal ctx) := by
      simp only [scaledValue, if_true, Context.divPowTen]
      cases ctx.finalize (x.divPowTen 2) <;> rfl
    simp only [Option.map_some, hform, InRange]
    by_cases hlt : (x.divPowTen 2).magnitude < ctx.bound ctx.emax
    · rw [Context.finalize_of_lt hlt, Raising.ok_bind, faithful_finalize hprec]
      exact (and_iff_right hlt).symm
    · rw [Context.finalize_of_ge (not_lt.mp hlt)]
      exact iff_of_false id fun h => hlt h.1

/-- The text names its unit and holds a number. -/
def Reads (raw : String) (unitHint : Option String) (reading : UsReading) (parsed : Number) :
    Prop :=
  readUsValue u raw unitHint = .ok reading ∧ decimalOfText u reading.numericText = some parsed

/-- Normalization is closed: it comes to nothing for a text that says so, to a finite number,
exact where the context holds it, or to its own error. -/
inductive Closed (rawValue : String) (unitHint : Option String) (scale : Option Finite) : Prop
  | missing (normalized : NormalizedUsValue)
      (returned : normalizeUsValue u rawValue unitHint (scale.map .finite) = .ok normalized)
      (noValue : normalized.value = none)
      (sentinel : u.pyUpper (pyStrip rawValue) ∈ missingSentinels)
  | finite (normalized : NormalizedUsValue) (y : Finite)
      (returned : normalizeUsValue u rawValue unitHint (scale.map .finite) = .ok normalized)
      (value : normalized.value = some (.finite y))
      (exact : ∀ reading x, Reads u (pyStrip rawValue) unitHint reading (.finite x) →
        defaultContext.Representable (exactValue reading.basisPoints scale x) →
        y.value = exactValue reading.basisPoints scale x)
  | raised (error : UnitNormalizationError)
      (raised : normalizeUsValue u rawValue unitHint (scale.map .finite) = .error (.unit error))

/-- Every number that the text holds is finite and in range. -/
def Tractable (rawValue : String) (unitHint : Option String) (scale : Option Finite) : Prop :=
  u.pyUpper (pyStrip rawValue) ∈ missingSentinels ∨
    ∀ reading parsed, Reads u (pyStrip rawValue) unitHint reading parsed →
      ∃ x, parsed = .finite x ∧ InRange defaultContext reading.basisPoints scale x

theorem Reads.unique {raw : String} {unitHint : Option String} {reading reading' : UsReading}
    {parsed parsed' : Number} (h : Reads u raw unitHint reading parsed)
    (h' : Reads u raw unitHint reading' parsed') : reading = reading' ∧ parsed = parsed' := by
  have hreading := Except.ok.inj (h.1.symm.trans h'.1)
  subst hreading
  exact ⟨rfl, Option.some.inj (h.2.symm.trans h'.2)⟩

/-- Without a number normalization is closed: the text is missing, or the error is its own. -/
theorem closed_of_missing {rawValue : String} (unitHint : Option String) (scale : Option Finite)
    (h : u.pyUpper (pyStrip rawValue) ∈ missingSentinels) : Closed u rawValue unitHint scale := by
  have hresult : normalizeUsValue u rawValue unitHint (scale.map .finite) =
      ((resolveUnit u unitHint (pyStrip rawValue)).mapError .unit >>= fun unit =>
        .ok ⟨rawValue, none, unit.1, unit.2, unitHint, "missing_sentinel_to_null",
          some "not_reported"⟩) := by
    simp only [normalizeUsValue, if_pos h]
  cases hunit : resolveUnit u unitHint (pyStrip rawValue) with
  | error error =>
    rw [hunit] at hresult
    exact .raised error hresult
  | ok unit =>
    rw [hunit] at hresult
    exact .missing _ hresult rfl h

/-- What becomes of a text that is read. -/
theorem normalizeUsValue_of_reads {rawValue : String} {unitHint : Option String}
    (scale : Option Number) {reading : UsReading} {parsed : Number}
    (hmissing : u.pyUpper (pyStrip rawValue) ∉ missingSentinels)
    (h : Reads u (pyStrip rawValue) unitHint reading parsed) :
    normalizeUsValue u rawValue unitHint scale =
      (scaledValue defaultContext reading.basisPoints scale parsed).mapError .decimal >>=
        fun value => .ok ⟨rawValue, some value, reading.unit, reading.currency, reading.rawUnit,
          scaledRule reading.normalizationRule scale, none⟩ := by
  have hread : (readUsValue u (pyStrip rawValue) unitHint).mapError UsValueError.unit =
      .ok reading := by rw [h.1]; rfl
  simp only [normalizeUsValue, if_neg hmissing, hread, Raising.ok_bind, h.2]

/-- A text that no reading takes is refused. -/
theorem closed_of_unread {rawValue : String} (unitHint : Option String) (scale : Option Finite)
    (hmissing : u.pyUpper (pyStrip rawValue) ∉ missingSentinels)
    (h : ∀ reading parsed, ¬ Reads u (pyStrip rawValue) unitHint reading parsed) :
    Closed u rawValue unitHint scale := by
  cases hreading : readUsValue u (pyStrip rawValue) unitHint with
  | error error =>
    refine .raised error ?_
    simp only [normalizeUsValue, if_neg hmissing, hreading]
    rfl
  | ok reading =>
    cases hparsed : decimalOfText u reading.numericText with
    | none =>
      refine .raised { message := "cannot parse decimal value: " ++ rawValue } ?_
      simp only [normalizeUsValue, if_neg hmissing, hreading, Except.mapError, Raising.ok_bind,
        hparsed]
    | some parsed => exact absurd ⟨hreading, hparsed⟩ (h reading parsed)

/-- With a number, normalization is as closed as the arithmetic on it. -/
theorem closed_iff_of_reads {rawValue : String} {unitHint : Option String}
    (scale : Option Finite) {reading : UsReading} {parsed : Number}
    (hmissing : u.pyUpper (pyStrip rawValue) ∉ missingSentinels)
    (h : Reads u (pyStrip rawValue) unitHint reading parsed) :
    Closed u rawValue unitHint scale ↔
      ∃ x, parsed = .finite x ∧ Faithful defaultContext (exactValue reading.basisPoints scale x)
        (scaledValue defaultContext reading.basisPoints (scale.map .finite) parsed) := by
  have hresult := normalizeUsValue_of_reads u (scale.map .finite) hmissing h
  -- a text of a number is not one of the missing ones
  constructor
  · rintro (⟨normalized, hreturned, hvalue, hsentinel⟩ | ⟨normalized, y, hreturned, hvalue, hexact⟩ |
      ⟨error, hraised⟩)
    · exact absurd hsentinel hmissing
    · -- A finite number came of a finite number.
      rw [hresult] at hreturned
      rcases Raising.bind_ok.mp hreturned with ⟨value, hscaled, hnormalized⟩
      rw [← Except.ok.inj hnormalized] at hvalue
      have hfinite : value = .finite y := Option.some.inj hvalue
      subst hfinite
      have hscaled := Raising.mapError_ok hscaled
      rcases parsed with x | negative | ⟨negative, signaling, payload⟩
      · refine ⟨x, rfl, ?_⟩
        rw [hscaled]
        exact hexact reading x h
      · exact absurd hscaled (scaledValue_special (by simp) _ _ _)
      · exact absurd hscaled (scaledValue_special (by simp) _ _ _)
    · -- The arithmetic raises no error of normalization.
      rw [hresult] at hraised
      cases hscaled : scaledValue defaultContext reading.basisPoints (scale.map .finite) parsed with
      | error signal =>
        rw [hscaled] at hraised
        cases hraised
      | ok value =>
        rw [hscaled] at hraised
        cases hraised
  · rintro ⟨x, rfl, hfaithful⟩
    -- a signal of the context is no error of normalization
    cases hscaled : scaledValue defaultContext reading.basisPoints (scale.map .finite)
        (.finite x) with
    | error signal =>
      rw [hscaled] at hfaithful
      exact hfaithful.elim
    | ok value =>
      rw [hscaled] at hresult hfaithful
      rcases value with y | negative | ⟨negative, signaling, payload⟩
      · refine .finite _ y hresult rfl fun reading' x' h' hheld => ?_
        rcases Reads.unique u h h' with ⟨rfl, heq⟩
        rw [Number.finite.injEq] at heq
        subst heq
        exact hfaithful hheld
      · exact hfaithful.elim
      · exact hfaithful.elim

/-- Normalization is closed exactly when the number of the text, if it holds one, is finite and in
range. -/
theorem unitNormalization_closed_iff (rawValue : String) (unitHint : Option String)
    (scale : Option Finite) :
    Closed u rawValue unitHint scale ↔ Tractable u rawValue unitHint scale := by
  have hprec : (defaultContext.prec : ℤ) ≤ defaultContext.emax := by decide
  -- a missing text, a text that is read, or one that is not
  by_cases hmissing : u.pyUpper (pyStrip rawValue) ∈ missingSentinels
  · exact iff_of_true (closed_of_missing u unitHint scale hmissing) (.inl hmissing)
  by_cases hreads : ∃ reading parsed, Reads u (pyStrip rawValue) unitHint reading parsed
  · rcases hreads with ⟨reading, parsed, h⟩
    rw [closed_iff_of_reads u scale hmissing h]
    constructor
    · rintro ⟨x, rfl, hfaithful⟩
      refine .inr fun reading' parsed' h' => ?_
      rcases Reads.unique u h h' with ⟨rfl, rfl⟩
      exact ⟨x, rfl, (scaledValue_faithful_iff hprec _ scale x).mp hfaithful⟩
    · intro htractable
      rcases htractable.resolve_left hmissing reading parsed h with ⟨x, rfl, hrange⟩
      exact ⟨x, rfl, (scaledValue_faithful_iff hprec _ scale x).mpr hrange⟩
  · have hnone : ∀ reading parsed, ¬ Reads u (pyStrip rawValue) unitHint reading parsed :=
      fun reading parsed h => hreads ⟨reading, parsed, h⟩
    exact iff_of_true (closed_of_unread u unitHint scale hmissing hnone)
      (.inr fun reading parsed h => absurd h (hnone reading parsed))

/-- A text that reads as no number comes back as a value. -/
theorem nan_normalized : ¬ Closed .ascii "NaN" (some "percent") none := by
  have hresult : normalizeUsValue .ascii "NaN" (some "percent") none = .ok
      ⟨"NaN", some (.nan false false 0), "percent", none, some "percent", "decimal_from_text",
        none⟩ := by decide +kernel
  rintro (⟨normalized, hreturned, hvalue, -⟩ | ⟨normalized, y, hreturned, hvalue, -⟩ |
    ⟨error, hraised⟩)
  · rw [Option.map_none, hresult] at hreturned
    rw [← Except.ok.inj hreturned] at hvalue
    cases hvalue
  · rw [Option.map_none, hresult] at hreturned
    rw [← Except.ok.inj hreturned] at hvalue
    cases hvalue
  · rw [Option.map_none, hresult] at hraised
    cases hraised

end MacroPlatform.Normalization
