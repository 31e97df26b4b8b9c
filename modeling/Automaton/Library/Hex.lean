import Automaton.Library.Text

/-!
# Hexadecimal texts

Digits in either case and the numbers that they denote.
-/

namespace Hex

/-- The value of a hexadecimal digit. -/
def digitValue (c : Char) : ℕ :=
  if c.isDigit then c.toNat - 48
  else if 'a' ≤ c ∧ c ≤ 'f' then c.toNat - 87
  else c.toNat - 55

/-- The value of digits, the most significant one first. -/
def ofDigits (digits : List Char) : ℕ :=
  digits.foldl (fun value digit => 16 * value + digitValue digit) 0

/-- The bytes of pairs of digits. -/
def bytes : List Char → List UInt8
  | high :: low :: digits => UInt8.ofNat (16 * digitValue high + digitValue low) :: bytes digits
  | _ => []

/-- The two digits of every byte, in lower case. -/
def encode (bytes : List UInt8) : String :=
  String.ofList (bytes.flatMap fun byte =>
    [Nat.digitChar (byte.toNat / 16), Nat.digitChar (byte.toNat % 16)])

/-- The value of hexadecimal digits, if it fits the type. -/
def parseUnsigned (largest : ℕ) (digits : List Char) : Option ℕ :=
  if ofDigits digits ≤ largest then some (ofDigits digits) else none

/-- A parsed value fits the type. -/
theorem parseUnsigned_le {largest value : ℕ} {digits : List Char}
    (h : parseUnsigned largest digits = some value) : value ≤ largest := by
  unfold parseUnsigned at h
  split at h
  · rename_i hfits
    exact Option.some.inj h ▸ hfits
  · cases h

end Hex
