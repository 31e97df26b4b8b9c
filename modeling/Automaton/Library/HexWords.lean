import Automaton.Library.Hex
import Automaton.Library.Rlp

/-!
# Bytes and numbers in hexadecimal

Bytes that are written in hexadecimal are read back, and so are numbers that are written with the
digits of whole bytes.
-/

namespace Hex

section Digits

variable {n : ℕ} {bytes : List UInt8} {front rest : List Char}

theorem digitValue_digitChar (h : n < 16) : digitValue (Nat.digitChar n) = n := by
  revert n
  decide

/-- A digit that is written is one, in lower case. -/
theorem digitChar_lower (h : n < 16) :
    Text.isHexDigit (Nat.digitChar n) = true ∧ (Nat.digitChar n).toLower = Nat.digitChar n := by
  revert n
  decide

theorem bytes_pair (high low : Char) :
    Hex.bytes [high, low] = [UInt8.ofNat (16 * digitValue high + digitValue low)] := rfl

/-- Pairs of digits are read one after the other. -/
theorem bytes_append (heven : front.length % 2 = 0) :
    Hex.bytes (front ++ rest) = Hex.bytes front ++ Hex.bytes rest := by
  induction front using Hex.bytes.induct with
  | case1 high low digits ih =>
    have hdigits : digits.length % 2 = 0 := by
      simp only [List.length_cons] at heven
      omega
    rw [List.cons_append, List.cons_append, Hex.bytes, ih hdigits, Hex.bytes, List.cons_append]
  | case2 digits hshort =>
    cases digits with
    | nil => rfl
    | cons digit digits =>
      cases digits with
      | nil => cases heven
      | cons low digits => exact absurd rfl (hshort digit low digits)

/-- The digits of bytes. -/
theorem toList_encode : (encode bytes).toList = bytes.flatMap fun byte =>
    [Nat.digitChar (byte.toNat / 16), Nat.digitChar (byte.toNat % 16)] :=
  String.toList_ofList

theorem length_encode : (encode bytes).toList.length = 2 * bytes.length := by
  rw [toList_encode]
  induction bytes with
  | nil => rfl
  | cons byte bytes ih =>
    rw [List.flatMap_cons, List.length_append, ih, List.length_cons]
    simp only [List.length_cons, List.length_nil]
    omega

/-- Bytes are read back from their digits. -/
theorem bytes_encode : Hex.bytes (encode bytes).toList = bytes := by
  rw [toList_encode]
  induction bytes with
  | nil => rfl
  | cons byte bytes ih =>
    have hbyte := UInt8.toNat_lt byte
    have hvalue : 16 * (byte.toNat / 16) + byte.toNat % 16 = byte.toNat := Nat.div_add_mod _ _
    rw [List.flatMap_cons]
    change Hex.bytes (_ :: _ :: List.flatMap _ bytes) = _
    rw [Hex.bytes, ih, digitValue_digitChar (by omega),
      digitValue_digitChar (Nat.mod_lt _ (by decide)), hvalue, UInt8.ofNat_toNat]

/-- Bytes are written in lower case. -/
theorem encode_lower : ∀ c ∈ (encode bytes).toList,
    Text.isHexDigit c = true ∧ c.toLower = c := by
  intro c hc
  rw [toList_encode] at hc
  obtain ⟨byte, -, hc⟩ := List.mem_flatMap.mp hc
  have hbyte := UInt8.toNat_lt byte
  rcases List.mem_cons.mp hc with rfl | hc
  · exact digitChar_lower (by omega)
  · rw [List.mem_singleton.mp hc]
    exact digitChar_lower (Nat.mod_lt _ (by decide))

/-- Bytes have two digits each. -/
theorem length_bytes (digits : List Char) : (Hex.bytes digits).length = digits.length / 2 := by
  induction digits using Hex.bytes.induct with
  | case1 high low digits ih =>
    rw [Hex.bytes, List.length_cons, ih, List.length_cons, List.length_cons]
    omega
  | case2 digits hshort =>
    cases digits with
    | nil => rfl
    | cons digit digits =>
      cases digits with
      | nil => simp [Hex.bytes]
      | cons low digits => exact absurd rfl (hshort digit low digits)

/-- Zeros are read from zeros. -/
theorem bytes_replicate_zero (n : ℕ) :
    Hex.bytes (List.replicate (2 * n) '0') = List.replicate n 0 := by
  induction n with
  | zero => rfl
  | succ n ih =>
    rw [Nat.mul_succ, List.replicate_succ, List.replicate_succ, Hex.bytes, ih, List.replicate_succ]
    rfl

end Digits

section Numbers

variable {n width : ℕ}

/-- The digits of a number with zeros in front. -/
def paddedDigits (width n : ℕ) : List Char := (Nat.toDigits 16 n).leftpad width '0'

/-- A number has its last digit behind the digits of the others. -/
theorem paddedDigits_succ (hwidth : 0 < width) :
    paddedDigits (width + 1) n = paddedDigits width (n / 16) ++ [Nat.digitChar (n % 16)] := by
  unfold paddedDigits
  by_cases hsmall : n < 16
  · rw [Nat.toDigits_of_lt_base hsmall, Nat.div_eq_of_lt hsmall, Nat.mod_eq_of_lt hsmall,
      Nat.toDigits_zero]
    simp only [List.leftpad, List.length_singleton, Nat.add_sub_cancel]
    rw [List.append_cancel_right_eq, ← List.replicate_succ', Nat.sub_add_cancel hwidth]
  · rw [Nat.toDigits_of_base_le (by decide) (not_lt.mp hsmall)]
    simp only [List.leftpad, List.length_append, List.length_singleton, Nat.add_sub_add_right,
      List.append_assoc]

theorem length_paddedDigits (hwidth : 0 < width) (hfits : n < 16 ^ width) :
    (paddedDigits width n).length = width := by
  have hdigits := (Nat.length_toDigits_le_iff (by decide : 1 < 16) hwidth).mpr hfits
  unfold paddedDigits
  rw [List.length_leftpad]
  omega

/-- A number is read back from the digits of whole bytes. -/
theorem bytes_paddedDigits (hwidth : 0 < width) (hfits : n < 256 ^ width) :
    Hex.bytes (paddedDigits (2 * width) n) = Rlp.toBigEndian width n := by
  induction width generalizing n with
  | zero => exact absurd hwidth (lt_irrefl 0)
  | succ width ih =>
    by_cases hone : width = 0
    · subst hone
      have hsmall : n < 256 := by simpa using hfits
      have hfirst : paddedDigits 1 (n / 16) = [Nat.digitChar (n / 16)] := by
        unfold paddedDigits
        rw [Nat.toDigits_of_lt_base (by omega)]
        rfl
      rw [show 2 * (0 + 1) = 1 + 1 from rfl, paddedDigits_succ (by decide), hfirst,
        Rlp.toBigEndian, Rlp.toBigEndian]
      change Hex.bytes [_, _] = [_]
      rw [bytes_pair, digitValue_digitChar (by omega),
        digitValue_digitChar (Nat.mod_lt _ (by decide)), Nat.mod_eq_of_lt hsmall,
        Nat.div_add_mod]
    · have hpositive : 0 < width := Nat.pos_of_ne_zero hone
      have hquotient : n / 256 < 256 ^ width := by
        rw [Nat.pow_succ'] at hfits
        exact Nat.div_lt_of_lt_mul hfits
      have heven : (paddedDigits (2 * width) (n / 256)).length % 2 = 0 := by
        rw [length_paddedDigits (by omega) (by rwa [Nat.pow_mul])]
        omega
      have hlow : 16 * (n / 16 % 16) + n % 16 = n % 256 := by omega
      rw [show 2 * (width + 1) = 2 * width + 1 + 1 by omega,
        paddedDigits_succ (by omega), paddedDigits_succ (by omega), Nat.div_div_eq_div_mul,
        List.append_assoc, bytes_append heven, ih hpositive hquotient, Rlp.toBigEndian]
      change _ ++ Hex.bytes [_, _] = _
      rw [bytes_pair, digitValue_digitChar (Nat.mod_lt _ (by decide)),
        digitValue_digitChar (Nat.mod_lt _ (by decide)), hlow]

end Numbers

end Hex
