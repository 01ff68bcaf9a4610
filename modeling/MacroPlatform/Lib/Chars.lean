import Mathlib.Data.List.Basic

/-! # Quantifiers over the characters of a text -/

namespace MacroPlatform

/-- Decided along the text, not over all characters. -/
instance (priority := 2000) decidableForallChars {p : Char → Prop} [DecidablePred p]
    (text : List Char) : Decidable (∀ c ∈ text, p c) :=
  List.decidableBAll p text

instance (priority := 2000) decidableExistsChars {p : Char → Prop} [DecidablePred p]
    (text : List Char) : Decidable (∃ c ∈ text, p c) :=
  List.decidableBEx p text

end MacroPlatform
