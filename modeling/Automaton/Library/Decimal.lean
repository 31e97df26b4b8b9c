import Mathlib.Tactic

/-!
# Decimal texts of unsigned integers

Parsing accepts an optional plus sign and at least one digit, nothing else, and only
values up to the largest one of the type. Printing has no leading zeros, and what is
printed is parsed back.
-/

namespace Decimal

/-- The digits of a text after an optional plus sign. -/
def unsignedBody (text : String) : List Char :=
  match text.toList with
  | '+' :: rest => rest
  | chars => chars

/-- The value of a text, if it is a number of the type. -/
def parseUnsigned (largest : ℕ) (text : String) : Option ℕ :=
  let body := unsignedBody text
  if body ≠ [] ∧ body.all Char.isDigit ∧ Nat.ofDigitChars 10 body 0 ≤ largest then
    some (Nat.ofDigitChars 10 body 0)
  else none

/-- A parsed value fits the type. -/
theorem parseUnsigned_le {largest value : ℕ} {text : String}
    (h : parseUnsigned largest text = some value) : value ≤ largest := by
  simp only [parseUnsigned] at h
  split at h
  · rename_i hparts
    exact Option.some.inj h ▸ hparts.2.2
  · cases h

/-- Digits without a sign are parsed to their value. -/
theorem parseUnsigned_ofList {largest : ℕ} {digits : List Char} (hne : digits ≠ [])
    (hdigits : ∀ c ∈ digits, c.isDigit = true) :
    parseUnsigned largest (String.ofList digits) =
      if Nat.ofDigitChars 10 digits 0 ≤ largest then some (Nat.ofDigitChars 10 digits 0)
      else none := by
  have hbody : unsignedBody (String.ofList digits) = digits := by
    unfold unsignedBody
    rw [String.toList_ofList]
    split
    · exact absurd (hdigits '+' (by simp)) (by decide)
    · rfl
  simp only [parseUnsigned]
  rw [hbody]
  by_cases hfits : Nat.ofDigitChars 10 digits 0 ≤ largest
  · rw [if_pos hfits, if_pos ⟨hne, List.all_eq_true.mpr hdigits, hfits⟩]
  · rw [if_neg hfits, if_neg fun h => hfits h.2.2]

/-- A printed number has no sign. -/
theorem unsignedBody_toString (value : ℕ) :
    unsignedBody (toString value) = Nat.toDigits 10 value := by
  have hchars : (toString value).toList = Nat.toDigits 10 value := by
    rw [Nat.toString_eq_ofList_toDigits, String.toList_ofList]
  unfold unsignedBody
  rw [hchars]
  split
  · rename_i rest hplus
    have hdigit := Nat.isDigit_of_mem_toDigits (b := 10) (n := value) (c := '+') (by omega)
      (by omega) (by simp [hplus])
    exact absurd hdigit (by decide)
  · rfl

/-- What is printed is parsed back, when it fits the type. -/
theorem parseUnsigned_toString {largest value : ℕ} :
    parseUnsigned largest (toString value) = if value ≤ largest then some value else none := by
  simp only [parseUnsigned]
  rw [unsignedBody_toString, Nat.ofDigitChars_ten_toDigits]
  by_cases hfits : value ≤ largest
  · rw [if_pos hfits, if_pos]
    exact ⟨Nat.toDigits_ne_nil, List.all_eq_true.mpr fun c hc =>
      Nat.isDigit_of_mem_toDigits (by omega) (by omega) hc, hfits⟩
  · rw [if_neg hfits, if_neg]
    exact fun h => hfits h.2.2

/-- Different numbers are printed differently. -/
theorem toString_injective : Function.Injective fun value : ℕ => toString value := by
  intro value other hprinted
  have hsame : toString value = toString other := hprinted
  have hvalue := @parseUnsigned_toString (max value other) value
  have hother := @parseUnsigned_toString (max value other) other
  rw [if_pos (Nat.le_max_left _ _)] at hvalue
  rw [if_pos (Nat.le_max_right _ _), ← hsame, hvalue] at hother
  exact Option.some.inj hother

end Decimal
