import MacroPlatform.Contracts.Text

/-! # Strings and the Unicode tables of the interpreter -/

namespace MacroPlatform

/-- `str.split()`. -/
def pySplit (s : String) : List String :=
  ((s.toList.splitOnP isPySpace).filter (· ≠ [])).map String.ofList

/-- `str.replace` of one character. -/
def pyReplace (old new : Char) (s : String) : String :=
  String.ofList (s.toList.map fun c => if c = old then new else c)

/-- `str.partition` at one character, without the separator. -/
def pyPartition (separator : Char) (s : String) : String × String :=
  (String.ofList (s.toList.takeWhile (· ≠ separator)),
    String.ofList (s.toList.dropWhile (· ≠ separator)).tail)

/-- What `str` asks of the Unicode database. Lower case takes the whole text, for the final
sigma; upper case goes character by character. -/
structure Unicode where
  lower : String → String
  upper : Char → List Char
  isAlnum : Char → Bool
  /-- `unicodedata.decimal`. -/
  decimal : Char → Option (Fin 10)

namespace Unicode

/-- `str.upper()`. -/
def pyUpper (u : Unicode) (s : String) : String :=
  String.ofList (s.toList.flatMap u.upper)

/-- The tables as they are on ASCII. -/
def ascii : Unicode where
  lower s := String.ofList (s.toList.map Char.toLower)
  upper c := [c.toUpper]
  isAlnum := Char.isAlphanum
  decimal c := if c.isDigit then some (Fin.ofNat 10 (c.toNat - '0'.toNat)) else none

/-- `str.isdecimal()`. -/
def isDecimal (u : Unicode) (s : String) : Bool :=
  !s.isEmpty && s.toList.all fun c => (u.decimal c).isSome

/-- What the database says of digits and of white space: neither has another upper case, no digit
is the upper case of anything else, and on ASCII the digits are the ten. -/
structure Lawful (u : Unicode) : Prop where
  upper_decimal : ∀ c, (u.decimal c).isSome → u.upper c = [c]
  decimal_of_upper : ∀ c d, c ∈ u.upper d → (u.decimal c).isSome → d = c
  upper_space : ∀ c, isPySpace c = true → u.upper c = [c]
  decimal_space : ∀ c, isPySpace c = true → u.decimal c = none
  decimal_ascii : ∀ c : Char, c.toNat < 128 → ((u.decimal c).isSome ↔ c.isDigit = true)

theorem mem_pyUpper {u : Unicode} {s : String} {c : Char} :
    c ∈ (u.pyUpper s).toList ↔ ∃ d ∈ s.toList, c ∈ u.upper d := by
  simp [pyUpper]

theorem isDecimal_iff {u : Unicode} {s : String} :
    u.isDecimal s = true ↔ s ≠ "" ∧ ∀ c ∈ s.toList, (u.decimal c).isSome := by
  simp [isDecimal]

/-- Upper case on ASCII leaves everything but the 26 lower-case letters, and makes letters of
these. -/
theorem toUpper_cases (c : Char) :
    c.toUpper = c ∨ 97 ≤ c.toNat ∧ c.toNat ≤ 122 ∧ 65 ≤ c.toUpper.toNat := by
  by_cases h : 'a'.val ≤ c.val ∧ c.val ≤ 'z'.val
  · right
    simp only [UInt32.le_iff_toNat_le] at h
    delta Char.toUpper
    simp only [Char.toNat]
    split <;> grind [UInt32.toNat_add]
  · left
    delta Char.toUpper
    simp only [dif_neg h]

theorem isDigit_iff {c : Char} : c.isDigit = true ↔ 48 ≤ c.toNat ∧ c.toNat ≤ 57 := by
  simp only [Char.isDigit, Bool.and_eq_true, decide_eq_true_eq, ge_iff_le,
    UInt32.le_iff_toNat_le]
  exact Iff.rfl

/-- A character that is not a letter is its own upper case. -/
theorem toUpper_of_lt {c : Char} (h : c.toNat < 97) : c.toUpper = c := by
  rcases toUpper_cases c with hsame | ⟨hlow, -, -⟩
  · exact hsame
  · omega

theorem ascii_decimal_isSome {c : Char} : (ascii.decimal c).isSome ↔ c.isDigit = true := by
  by_cases h : c.isDigit = true <;> simp [ascii, h]

/-- The ASCII tables satisfy what is asked of the tables of Unicode. -/
theorem ascii_lawful : ascii.Lawful where
  upper_decimal c h := by
    have hdigit := isDigit_iff.mp (ascii_decimal_isSome.mp h)
    show [c.toUpper] = [c]
    rw [toUpper_of_lt (by omega)]
  decimal_of_upper c d hc h := by
    have hdigit := isDigit_iff.mp (ascii_decimal_isSome.mp h)
    have hupper : c = d.toUpper := List.mem_singleton.mp hc
    -- a character that upper case changes becomes a letter, which is no digit
    rcases toUpper_cases d with hsame | ⟨-, -, hletter⟩
    · rw [hupper, hsame]
    · rw [← hupper] at hletter
      omega
  upper_space c h := by
    show [c.toUpper] = [c]
    rcases toUpper_cases c with hsame | ⟨hlow, hhigh, -⟩
    · rw [hsame]
    · simp [isPySpace] at h
      omega
  decimal_space c h := by
    rw [← Option.not_isSome_iff_eq_none, ascii_decimal_isSome, isDigit_iff]
    simp [isPySpace] at h
    omega
  decimal_ascii c _ := ascii_decimal_isSome

end Unicode

end MacroPlatform
