import Automaton.Library.Hex

/-!
# Hexadecimal inputs

How addresses and bytes that are given in hexadecimal are brought into one form.
-/

namespace Automaton

/-- `normalize_evm_address`. -/
def normalizeEvmAddress (raw : String) : Except String String :=
  let trimmed := Text.toAsciiLowercase (Text.trim raw)
  if trimmed.utf8ByteSize = 42 ∧ "0x".toList.isPrefixOf trimmed.toList ∧
      (trimmed.toList.drop 2).all Text.isHexDigit then
    .ok trimmed
  else .error "address must be a 0x-prefixed 20-byte hex string"

/-- `normalize_hex_blob`. -/
def normalizeHexBlob (raw field : String) : Except String String :=
  let trimmed := Text.toAsciiLowercase (Text.trim raw)
  match Text.stripPrefix? "0x" trimmed with
  | none => .error (field ++ " must be 0x-prefixed hex")
  | some digits =>
    if digits.utf8ByteSize % 2 ≠ 0 then .error (field ++ " hex length must be even")
    else if !digits.toList.all Text.isHexDigit then .error (field ++ " must be valid hex")
    else .ok trimmed

section Normalized

open Text

variable {text field : String} {digits : List Char}

/-- A text of lower-case digits after its prefix has no white space at its ends, and no letter in
upper case. -/
theorem toAsciiLowercase_trim_eq_self (htext : text.toList = "0x".toList ++ digits)
    (hdigits : ∀ c ∈ digits, isHexDigit c = true ∧ c.toLower = c) :
    toAsciiLowercase (trim text) = text := by
  have hspace : ∀ c ∈ text.toList, isWhitespace c = false := by
    intro c hc
    rw [htext] at hc
    rcases List.mem_append.mp hc with hc | hc
    · have hfront : ("0x".toList.all fun c => !isWhitespace c) = true := by decide
      simpa using List.all_eq_true.mp hfront c hc
    · have hrange := toNat_of_isHexDigit (hdigits c hc).1
      simp only [isWhitespace, Bool.or_eq_false_iff, Bool.and_eq_false_iff,
        decide_eq_false_iff_not]
      omega
  have hmap : ("0x".toList ++ digits).map Char.toLower = "0x".toList ++ digits := by
    rw [List.map_append, List.map_congr_left fun c hc => (hdigits c hc).2, List.map_id']
    rfl
  rw [trim_eq_self (fun c hc => hspace c (List.mem_of_mem_head? hc))
    (fun c hc => hspace c (List.mem_of_getLast? hc)), toAsciiLowercase, htext, hmap, ← htext,
    String.ofList_toList]

/-- Digits of which each was tested. -/
theorem lowercase_of_all (h : (digits.all fun c => isHexDigit c && c.toLower = c) = true) :
    ∀ c ∈ digits, isHexDigit c = true ∧ c.toLower = c := by
  intro c hc
  have htested := List.all_eq_true.mp h c hc
  rw [Bool.and_eq_true, decide_eq_true_eq] at htested
  exact htested

/-- A text of lower-case digits after its prefix is normalized. -/
theorem normalizeHexBlob_eq_self (htext : text.toList = "0x".toList ++ digits)
    (heven : digits.length % 2 = 0)
    (hdigits : ∀ c ∈ digits, isHexDigit c = true ∧ c.toLower = c) :
    normalizeHexBlob text field = .ok text := by
  have hhex : ∀ c ∈ digits, isHexDigit c = true := fun c hc => (hdigits c hc).1
  have hstrip : stripPrefix? "0x" text = some (String.ofList digits) := by
    rw [eq_append_of_toList htext, stripPrefix?_append]
  simp only [normalizeHexBlob, toAsciiLowercase_trim_eq_self htext hdigits, hstrip,
    utf8ByteSize_ofList hhex, heven, String.toList_ofList, List.all_eq_true.mpr hhex]
  rfl

/-- The size of a text of digits after its prefix. -/
theorem utf8ByteSize_of_digits (htext : text.toList = "0x".toList ++ digits)
    (hdigits : ∀ c ∈ digits, isHexDigit c = true) : text.utf8ByteSize = digits.length + 2 := by
  rw [eq_append_of_toList htext, String.utf8ByteSize_append, utf8ByteSize_ofList hdigits,
    Nat.add_comm]
  rfl

/-- Twenty bytes of lower-case digits are a normalized address. -/
theorem normalizeEvmAddress_eq_self (htext : text.toList = "0x".toList ++ digits)
    (hlength : digits.length = 40)
    (hdigits : ∀ c ∈ digits, isHexDigit c = true ∧ c.toLower = c) :
    normalizeEvmAddress text = .ok text := by
  have hhex : ∀ c ∈ digits, isHexDigit c = true := fun c hc => (hdigits c hc).1
  have hdrop : ("0x".toList ++ digits).drop 2 = digits := rfl
  have hpre : "0x".toList.isPrefixOf ("0x".toList ++ digits) = true := by
    rw [List.isPrefixOf_iff_prefix]
    exact List.prefix_append _ _
  simp only [normalizeEvmAddress, toAsciiLowercase_trim_eq_self htext hdigits,
    utf8ByteSize_of_digits htext hhex, hlength, htext, hpre, hdrop, List.all_eq_true.mpr hhex,
    and_self, if_true]

end Normalized

end Automaton
