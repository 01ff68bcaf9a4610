import MacroPlatform.Lib.Chars

/-! # Text as Python and the contracts read it -/

namespace MacroPlatform

/-- `str.isspace` of one character: Unicode whitespace and the four separators
`U+001C`–`U+001F`. -/
def isPySpace (c : Char) : Bool :=
  let n := c.toNat
  (9 ≤ n && n ≤ 13) || (28 ≤ n && n ≤ 32) || n == 0x85 || n == 0xA0 || n == 0x1680 ||
    (0x2000 ≤ n && n ≤ 0x200A) || n == 0x2028 || n == 0x2029 || n == 0x202F ||
    n == 0x205F || n == 0x3000

/-- What the contract models strip: Unicode whitespace alone. -/
def isWhiteSpace (c : Char) : Bool :=
  isPySpace c && !(28 ≤ c.toNat && c.toNat ≤ 31)

/-- Drop the leading and trailing characters that meet `p`. -/
def stripWhere (p : Char → Bool) (s : String) : String :=
  String.ofList ((s.toList.dropWhile p).reverse.dropWhile p).reverse

/-- `str.strip()`. -/
def pyStrip (s : String) : String := stripWhere isPySpace s

/-- `str_strip_whitespace` of `StrictModel`. -/
def modelStrip (s : String) : String := stripWhere isWhiteSpace s

/-- `text.startswith(start)`. -/
def startsWith (start text : String) : Bool := start.toList.isPrefixOf text.toList

/-- `text.endswith(stop)`. -/
def endsWith (stop text : String) : Bool := stop.toList.isSuffixOf text.toList

/-- `part in whole`. -/
def containsText (part whole : String) : Bool :=
  whole.toList.tails.any fun rest => part.toList.isPrefixOf rest

/-- A `str` field of a `StrictModel`: validated, hence stripped. -/
structure Text where
  value : String
  stripped : modelStrip value = value
deriving DecidableEq

/-! ## Stripping twice -/

theorem dropWhile_of_head {p : Char → Bool} {l : List Char}
    (h : ∀ c ∈ l.head?, p c = false) : l.dropWhile p = l := by
  cases l with
  | nil => rfl
  | cons c l => simp [h c rfl]

theorem head_dropWhile (p : Char → Bool) (l : List Char) :
    ∀ c ∈ (l.dropWhile p).head?, p c = false := by
  intro c hc
  have hne : l.dropWhile p ≠ [] := by
    rintro h
    simp [h] at hc
  have hhead := List.head_dropWhile_not p hne
  rw [List.head?_eq_some_head hne] at hc
  cases hc
  exact hhead

/-- Taking characters off the end leaves the first one, if any is left. -/
theorem head_strip (p : Char → Bool) (s : String) :
    ∀ c ∈ ((s.toList.dropWhile p).reverse.dropWhile p).reverse.head?, p c = false := by
  intro c hc
  have hsuffix := List.dropWhile_suffix (l := (s.toList.dropWhile p).reverse) p
  have hprefix : ((s.toList.dropWhile p).reverse.dropWhile p).reverse <+:
      s.toList.dropWhile p := by
    simpa using List.reverse_prefix.mpr hsuffix
  obtain ⟨t, ht⟩ := hprefix
  refine head_dropWhile p s.toList c ?_
  rw [← ht]
  simp [List.head?_append, Option.mem_def.mp hc]

/-- Stripping of fewer kinds of characters finds nothing to do afterwards. -/
theorem stripWhere_of_stripped {p q : Char → Bool} (hpq : ∀ c, p c = false → q c = false)
    (s : String) : stripWhere q (stripWhere p s) = stripWhere p s := by
  have hfirst : ((s.toList.dropWhile p).reverse.dropWhile p).reverse.dropWhile q =
      ((s.toList.dropWhile p).reverse.dropWhile p).reverse :=
    dropWhile_of_head fun c hc => hpq c (head_strip p s c hc)
  have hlast : ((s.toList.dropWhile p).reverse.dropWhile p).dropWhile q =
      (s.toList.dropWhile p).reverse.dropWhile p :=
    dropWhile_of_head fun c hc => hpq c (head_dropWhile p _ c hc)
  simp only [stripWhere, String.toList_ofList, hfirst, List.reverse_reverse, hlast]

theorem stripWhere_idem (p : Char → Bool) (s : String) :
    stripWhere p (stripWhere p s) = stripWhere p s :=
  stripWhere_of_stripped (fun _ => id) s

/-- A contract finds nothing to strip after `str.strip()`. -/
theorem modelStrip_pyStrip (s : String) : modelStrip (pyStrip s) = pyStrip s := by
  refine stripWhere_of_stripped ?_ s
  intro c hc
  simp [isWhiteSpace, hc]

/-- Stripping makes no text longer. -/
theorem stripWhere_length_le (p : Char → Bool) (s : String) :
    (stripWhere p s).length ≤ s.length := by
  have hfirst := (List.dropWhile_suffix (l := s.toList) p).length_le
  have hlast := (List.dropWhile_suffix (l := (s.toList.dropWhile p).reverse) p).length_le
  simp only [stripWhere, String.length_ofList, List.length_reverse] at hlast ⊢
  rw [String.length_toList] at hfirst
  omega

/-- Validation of a string. -/
def Text.ofString (s : String) : Text := ⟨modelStrip s, stripWhere_idem _ s⟩

theorem Text.ofString_value (t : Text) : Text.ofString t.value = t := by
  cases t with
  | mk value stripped => simp [Text.ofString, stripped]

end MacroPlatform
