import Mathlib.Data.List.TakeWhile
import Mathlib.Tactic

/-!
# Texts

Trimming by the Unicode property `White_Space` and comparison up to the case of ASCII
letters.
-/

namespace Text

/-- The characters with the property `White_Space`. -/
def isWhitespace (c : Char) : Bool :=
  let n := c.toNat
  (0x9 ≤ n && n ≤ 0xd) || n = 0x20 || n = 0x85 || n = 0xa0 || n = 0x1680 ||
    (0x2000 ≤ n && n ≤ 0x200a) || n = 0x2028 || n = 0x2029 || n = 0x202f || n = 0x205f ||
    n = 0x3000

/-- A text without the white space at its ends. -/
def trim (text : String) : String :=
  String.ofList ((text.toList.dropWhile isWhitespace).reverse.dropWhile isWhitespace).reverse

/-- A text with its ASCII letters in lower case. -/
def toAsciiLowercase (text : String) : String := String.ofList (text.toList.map Char.toLower)

/-- Equality up to the case of ASCII letters. -/
def eqIgnoreAsciiCase (first second : String) : Bool :=
  toAsciiLowercase first = toAsciiLowercase second

/-- A text equals itself in any case. -/
theorem eqIgnoreAsciiCase_refl (text : String) : eqIgnoreAsciiCase text text = true := by
  simp [eqIgnoreAsciiCase]

/-- A hexadecimal digit in either case. -/
def isHexDigit (c : Char) : Bool :=
  c.isDigit || ('a' ≤ c && c ≤ 'f') || ('A' ≤ c && c ≤ 'F')

/-- A text has another one in it. -/
def contains (text inner : String) : Bool :=
  text.toList.tails.any fun rest => inner.toList.isPrefixOf rest

/-- A text without its first characters, if it starts with them. -/
def stripPrefix? (front text : String) : Option String :=
  if front.toList <+: text.toList then some (String.ofList (text.toList.drop front.length))
  else none

/-- A text with no white space at its ends is left as it is. -/
theorem trim_eq_self {text : String} (hfirst : ∀ c ∈ text.toList.head?, isWhitespace c = false)
    (hlast : ∀ c ∈ text.toList.getLast?, isWhitespace c = false) : trim text = text := by
  have hkeep {chars : List Char} (h : ∀ c ∈ chars.head?, isWhitespace c = false) :
      chars.dropWhile isWhitespace = chars := by
    cases chars with
    | nil => rfl
    | cons c rest => rw [List.dropWhile_cons_of_neg (by simp [h c (by simp)])]
  unfold trim
  rw [hkeep hfirst, hkeep (by rwa [List.head?_reverse]), List.reverse_reverse, String.ofList_toList]

/-- A text without white space is left as it is. -/
theorem trim_eq_self_of_all {text : String} (h : ∀ c ∈ text.toList, isWhitespace c = false) :
    trim text = text := by
  apply trim_eq_self
  · exact fun c hc => h c (List.mem_of_mem_head? hc)
  · exact fun c hc => h c (List.mem_of_mem_getLast? hc)

/-- Trimming twice is trimming once. -/
@[simp] theorem trim_trim {text : String} : trim (trim text) = trim text := by
  have hhead {chars : List Char} : ∀ c ∈ (chars.dropWhile isWhitespace).head?,
      isWhitespace c = false := by
    intro c hc
    have hnot := List.head?_dropWhile_not isWhitespace chars
    rw [Option.mem_def.mp hc] at hnot
    exact hnot
  apply trim_eq_self
  · intro c hc
    rw [trim, String.toList_ofList] at hc
    apply hhead c
    obtain ⟨front, hfront⟩ : (text.toList.dropWhile isWhitespace).reverse.dropWhile isWhitespace <:+
        (text.toList.dropWhile isWhitespace).reverse := List.dropWhile_suffix _
    obtain ⟨rest, hrest⟩ := List.head?_eq_some_iff.mp (Option.mem_def.mp hc)
    rw [← List.reverse_reverse (text.toList.dropWhile isWhitespace), ← hfront, List.reverse_append,
      hrest]
    rfl
  · intro c hc
    rw [trim, String.toList_ofList, List.getLast?_reverse] at hc
    exact hhead c hc

/-- What is trimmed is white space on both sides. -/
theorem exists_trim (text : String) :
    ∃ lead trail, text.toList = lead ++ ((trim text).toList ++ trail) ∧
      (∀ c ∈ lead, isWhitespace c = true) ∧ ∀ c ∈ trail, isWhitespace c = true := by
  let rest := text.toList.dropWhile isWhitespace
  have hlead := List.takeWhile_append_dropWhile (p := isWhitespace) (l := text.toList)
  have htrail := List.takeWhile_append_dropWhile (p := isWhitespace) (l := rest.reverse)
  refine ⟨text.toList.takeWhile isWhitespace, (rest.reverse.takeWhile isWhitespace).reverse, ?_,
    fun c hc => List.mem_takeWhile_imp hc, fun c hc => ?_⟩
  · rw [trim, String.toList_ofList, ← List.reverse_append, htrail, List.reverse_reverse, hlead]
  · exact List.mem_takeWhile_imp (List.mem_reverse.mp hc)

/-- A text with a character that is no white space is not blank. -/
theorem trim_ne_empty {text : String} {c : Char} (hc : c ∈ text.toList)
    (h : isWhitespace c = false) : trim text ≠ "" := by
  intro hblank
  have hrest : (text.toList.dropWhile isWhitespace).reverse.dropWhile isWhitespace =
      [] := by
    have hchars := congrArg String.toList hblank
    rw [trim, String.toList_ofList] at hchars
    exact List.reverse_eq_nil_iff.mp hchars
  have hall := List.dropWhile_eq_nil_iff.mp hrest
  have hkept : c ∈ text.toList.dropWhile isWhitespace := by
    have hsplit := List.takeWhile_append_dropWhile (p := isWhitespace) (l := text.toList)
    rw [← hsplit, List.mem_append] at hc
    rcases hc with hfront | hkept
    · have hspace := List.mem_takeWhile_imp hfront
      rw [h] at hspace
      cases hspace
    · exact hkept
  have hspace := hall c (List.mem_reverse.mpr hkept)
  rw [h] at hspace
  cases hspace

/-- What a text starts with is stripped. -/
@[simp] theorem stripPrefix?_append {front rest : String} :
    stripPrefix? front (front ++ rest) = some rest := by
  simp [stripPrefix?, ← String.length_toList]

/-- A text that starts with another one. -/
theorem eq_append_of_toList {text front : String} {rest : List Char}
    (h : text.toList = front.toList ++ rest) : text = front ++ String.ofList rest := by
  rw [← String.toList_inj, String.toList_append, String.toList_ofList, h]

/-- What is left when a text is stripped follows the front. -/
theorem eq_append_of_stripPrefix? {front text rest : String}
    (h : stripPrefix? front text = some rest) : text = front ++ rest := by
  unfold stripPrefix? at h
  split at h
  · rename_i hfront
    obtain ⟨chars, hchars⟩ := hfront
    rw [← Option.some.inj h, ← String.toList_inj, String.toList_append, String.toList_ofList,
      ← hchars, ← String.length_toList, List.drop_left]
  · cases h

/-- The digits are ASCII characters. -/
theorem toNat_of_isHexDigit {c : Char} (h : isHexDigit c = true) :
    0x30 ≤ c.toNat ∧ c.toNat ≤ 0x66 := by
  have hval : c.toNat = c.val.toNat := rfl
  simp only [isHexDigit, Char.isDigit, Bool.or_eq_true, Bool.and_eq_true, decide_eq_true_eq,
    Char.le_def, ge_iff_le, UInt32.le_iff_toNat_le] at h
  simp only [UInt32.reduceToNat, Char.reduceVal] at h
  omega

/-- A text of digits has one byte for each. -/
theorem utf8ByteSize_ofList {digits : List Char} (h : ∀ c ∈ digits, isHexDigit c = true) :
    (String.ofList digits).utf8ByteSize = digits.length := by
  induction digits with
  | nil => rfl
  | cons c digits ih =>
    have hc : c.utf8Size = 1 := by
      have hle := (toNat_of_isHexDigit (h c List.mem_cons_self)).2
      rw [Char.utf8Size_eq_one_iff, UInt32.le_iff_toNat_le]
      exact hle.trans (by decide)
    have hrest := ih fun d hd => h d (List.mem_cons_of_mem _ hd)
    rw [String.ofList_cons, String.utf8ByteSize_append, String.utf8ByteSize_singleton, hrest, hc,
      List.length_cons, Nat.add_comm]

end Text
