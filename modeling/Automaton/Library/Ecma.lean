import Automaton.Library.Text

/-!
# Texts of the scripts

Trimming as ECMAScript defines it, which differs from the property `White_Space` in two
characters, and numbers in texts.
-/

namespace Ecma

/-- The white space and the line ends that `trim` removes. -/
def isWhitespace (c : Char) : Bool :=
  (Text.isWhitespace c && c.toNat ≠ 0x85) || c.toNat = 0xfeff

/-- `String.prototype.trim`. -/
def trim (text : String) : String :=
  String.ofList ((text.toList.dropWhile isWhitespace).reverse.dropWhile isWhitespace).reverse

/-- The digits before and after the point of a plain decimal number, `^\d+(?:\.\d+)?$`. -/
def decimalParts (text : String) : Option (List Char × List Char) :=
  let whole := text.toList.takeWhile Char.isDigit
  match whole, text.toList.dropWhile Char.isDigit with
  | [], _ => none
  | _ :: _, [] => some (whole, [])
  | _ :: _, '.' :: fraction =>
    if fraction ≠ [] ∧ fraction.all Char.isDigit then some (whole, fraction) else none
  | _ :: _, _ :: _ => none

/-- The value of a digit to a base. -/
def digit (base : ℕ) (c : Char) : Option ℕ :=
  let value :=
    if c.isDigit then c.toNat - '0'.toNat
    else if c.isLower then c.toNat - 'a'.toNat + 10
    else if c.isUpper then c.toNat - 'A'.toNat + 10
    else base
  if value < base then some value else none

/-- The number that digits to a base write. -/
def digits (base : ℕ) : List Char → Option ℕ
  | [] => none
  | c :: cs => (c :: cs).foldlM (fun value c => (digit base c).map (value * base + ·)) 0

/-- The number that a text writes: decimal with a sign or not, or to one of three other bases. -/
def integerLiteral : List Char → Option ℤ
  | [] => some 0
  | '+' :: cs => (digits 10 cs).map (↑)
  | '-' :: cs => (digits 10 cs).map (-↑·)
  | '0' :: mark :: cs =>
    if mark = 'x' ∨ mark = 'X' then (digits 16 cs).map (↑)
    else if mark = 'o' ∨ mark = 'O' then (digits 8 cs).map (↑)
    else if mark = 'b' ∨ mark = 'B' then (digits 2 cs).map (↑)
    else (digits 10 (mark :: cs)).map (↑)
  | cs => (digits 10 cs).map (↑)

/-- `BigInt` of a text, if it does not throw. -/
def bigInt (text : String) : Option ℤ := integerLiteral (trim text).toList

end Ecma
