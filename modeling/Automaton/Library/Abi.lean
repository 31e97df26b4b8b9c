import Automaton.Library.Rlp

/-!
# The contract ABI

Arguments that are numbers, addresses and texts, as calls and events of contracts encode them. A
number or an address stands in a word of the head; a text stands behind the head, after its length
and filled up to whole words, at the offset that its word in the head gives. The decoder is strict:
it takes nothing but encodings.
-/

namespace Abi

/-- The types of arguments. -/
inductive AbiType
  | uint
  | address
  | string
  deriving DecidableEq

/-- Arguments. An address is its bytes. -/
inductive AbiValue
  | uint (n : ℕ)
  | address (bytes : List UInt8)
  | string (text : String)
  deriving DecidableEq

/-- A number as a word. -/
def wordOf (n : ℕ) : List UInt8 := Rlp.toBigEndian 32 n

/-- How many zeros fill bytes up to whole words. -/
def padding (length : ℕ) : ℕ := (32 - length % 32) % 32

/-- Bytes filled up to whole words. -/
def padded (content : List UInt8) : List UInt8 :=
  content ++ List.replicate (padding content.length) 0

/-- The bytes of a text. -/
def textBytes (text : String) : List UInt8 := text.toUTF8.data.toList

/-- An argument of a type whose encoding has a length. -/
def AbiValue.Fits : AbiType → AbiValue → Prop
  | .uint, .uint n => n < 2 ^ 256
  | .address, .address bytes => bytes.length = 20
  | .string, .string text => (textBytes text).length < 2 ^ 256
  | _, _ => False

section Encoding

/-- What stands behind the head for an argument. -/
def AbiValue.tail : AbiValue → List UInt8
  | .string text => wordOf (textBytes text).length ++ padded (textBytes text)
  | _ => []

/-- The word of an argument, when what stands behind the head for it begins at an offset. -/
def AbiValue.head (offset : ℕ) : AbiValue → List UInt8
  | .uint n => wordOf n
  | .address bytes => List.replicate 12 0 ++ bytes
  | .string _ => wordOf offset

/-- The head of arguments. -/
def heads : List AbiValue → ℕ → List UInt8
  | [], _ => []
  | value :: values, offset => value.head offset ++ heads values (offset + value.tail.length)

/-- What stands behind the head of arguments. -/
def tails (values : List AbiValue) : List UInt8 := values.flatMap AbiValue.tail

/-- The encoding of arguments. -/
def encode (values : List AbiValue) : List UInt8 :=
  heads values (32 * values.length) ++ tails values

end Encoding

section Decoding

/-- The number in a word in front. -/
def readNumber (data : List UInt8) : Option ℕ :=
  if 32 ≤ data.length then some (Rlp.ofBigEndian (data.take 32)) else none

/-- The last 20 bytes of a word in front, behind zeros. -/
def readAddress (data : List UInt8) : Option (List UInt8) :=
  if 32 ≤ data.length ∧ data.take 12 = List.replicate 12 0 then some ((data.take 32).drop 12)
  else none

/-- The bytes behind their length, filled up with zeros. -/
def readBytes (data : List UInt8) : Option (List UInt8) :=
  (readNumber data).bind fun length =>
    let content := (data.drop 32).take length
    if padded content <+: data.drop 32 ∧ content.length = length then some content else none

/-- A text in front. -/
def readText (data : List UInt8) : Option String :=
  (readBytes data).bind fun bytes => String.fromUTF8? bytes.toByteArray

/-- The arguments whose head is at a position and the next of whose texts is at an offset, and the
end of the last text. -/
def readArguments (data : List UInt8) : List AbiType → ℕ → ℕ → Option (List AbiValue × ℕ)
  | [], _, offset => some ([], offset)
  | .uint :: types, position, offset => do
    let n ← readNumber (data.drop position)
    let (values, stop) ← readArguments data types (position + 32) offset
    some (.uint n :: values, stop)
  | .address :: types, position, offset => do
    let bytes ← readAddress (data.drop position)
    let (values, stop) ← readArguments data types (position + 32) offset
    some (.address bytes :: values, stop)
  | .string :: types, position, offset => do
    let found ← readNumber (data.drop position)
    if found = offset then
      let text ← readText (data.drop offset)
      let (values, stop) ← readArguments data types (position + 32)
        (offset + (AbiValue.string text).tail.length)
      some (.string text :: values, stop)
    else none

/-- The arguments of types that bytes encode, without bytes that are left over. -/
def decode (types : List AbiType) (data : List UInt8) : Option (List AbiValue) :=
  (readArguments data types 0 (32 * types.length)).bind fun (values, stop) =>
    if stop = data.length then some values else none

end Decoding

section RoundTrip

variable {n : ℕ} {rest : List UInt8} {types : List AbiType} {values : List AbiValue}

theorem length_textBytes (text : String) : (textBytes text).length = text.utf8ByteSize :=
  Array.length_toList

@[simp] theorem length_wordOf : (wordOf n).length = 32 := Rlp.length_toBigEndian 32 n

/-- A word that is written is read back. -/
theorem readNumber_append (hfits : n < 2 ^ 256) : readNumber (wordOf n ++ rest) = some n := by
  have hlong : 32 ≤ (wordOf n ++ rest).length := by
    rw [List.length_append, length_wordOf]
    omega
  rw [readNumber, if_pos hlong, List.take_left' length_wordOf, wordOf,
    Rlp.ofBigEndian_toBigEndian (by omega)]

theorem readAddress_append {bytes : List UInt8} (hlength : bytes.length = 20) :
    readAddress (List.replicate 12 0 ++ bytes ++ rest) = some bytes := by
  have hword : (List.replicate 12 0 ++ bytes).length = 32 := by simp [hlength]
  have hlong : 32 ≤ (List.replicate 12 0 ++ bytes ++ rest).length := by
    rw [List.length_append, hword]
    omega
  have hzeros : (List.replicate 12 (0 : UInt8) ++ bytes ++ rest).take 12 =
      List.replicate 12 0 := by
    rw [List.append_assoc]
    exact List.take_left' List.length_replicate
  rw [readAddress, if_pos ⟨hlong, hzeros⟩, List.take_left' hword]
  exact congrArg some (List.drop_left' List.length_replicate)

/-- Bytes behind their length are read back. -/
theorem readBytes_append {content : List UInt8} (hfits : content.length < 2 ^ 256) :
    readBytes (wordOf content.length ++ padded content ++ rest) = some content := by
  have hdrop : (wordOf content.length ++ padded content ++ rest).drop 32 =
      padded content ++ rest := by
    rw [List.append_assoc]
    exact List.drop_left' length_wordOf
  have htake : (padded content ++ rest).take content.length = content := by
    rw [padded, List.append_assoc]
    exact List.take_left' rfl
  rw [readBytes, List.append_assoc, readNumber_append hfits, ← List.append_assoc, Option.bind_some]
  dsimp only
  rw [hdrop, htake, if_pos ⟨List.prefix_append _ _, rfl⟩]

/-- A text is read from its bytes. -/
theorem fromUTF8?_textBytes (text : String) :
    String.fromUTF8? (textBytes text).toByteArray = some text := by
  have hbytes : (textBytes text).toByteArray = text.toUTF8 := by
    apply ByteArray.ext
    simp [textBytes]
  rw [hbytes]
  unfold String.fromUTF8?
  rw [String.toUTF8_eq_toByteArray, dif_pos text.isValidUTF8]
  rfl

/-- From a position in the head and an offset behind it, arguments are read back. -/
theorem readArguments_of_drop (h : List.Forall₂ AbiValue.Fits types values)
    {data after : List UInt8} {position offset : ℕ}
    (hhead : data.drop position = heads values offset ++ after)
    (htail : data.drop offset = tails values ++ rest)
    (hfits : offset + (tails values).length < 2 ^ 256) :
    readArguments data types position offset = some (values, offset + (tails values).length) := by
  induction h generalizing position offset with
  | nil => rfl
  | @cons type value types values hvalue hrest ih =>
    have hnext : data.drop (position + 32) =
        heads values (offset + value.tail.length) ++ after := by
      have hword : (value.head offset).length = 32 := by
        cases type <;> cases value <;>
          simp_all [AbiValue.Fits, AbiValue.head, length_wordOf]
      rw [← List.drop_drop, hhead, heads, List.append_assoc]
      exact List.drop_left' hword
    have hbehind : data.drop (offset + value.tail.length) = tails values ++ rest := by
      rw [← List.drop_drop, htail, tails, List.flatMap_cons, List.append_assoc]
      exact List.drop_left' rfl
    have hlength : (tails (value :: values)).length =
        value.tail.length + (tails values).length := by
      rw [tails, List.flatMap_cons, List.length_append, tails]
    have hothers := ih hnext hbehind (by omega)
    rw [heads, List.append_assoc] at hhead
    cases type with
    | uint =>
      cases value with
      | uint n =>
        rw [readArguments, hhead, AbiValue.head, readNumber_append hvalue, Option.bind_eq_bind,
          Option.bind_some]
        simp only [AbiValue.tail, List.length_nil, Nat.add_zero] at hothers
        rw [hothers, hlength]
        simp [AbiValue.tail]
      | address => exact hvalue.elim
      | string => exact hvalue.elim
    | address =>
      cases value with
      | address bytes =>
        rw [readArguments, hhead, AbiValue.head, readAddress_append hvalue, Option.bind_eq_bind,
          Option.bind_some]
        simp only [AbiValue.tail, List.length_nil, Nat.add_zero] at hothers
        rw [hothers, hlength]
        simp [AbiValue.tail]
      | uint => exact hvalue.elim
      | string => exact hvalue.elim
    | string =>
      cases value with
      | string text =>
        have htext : readText (data.drop offset) = some text := by
          rw [htail, tails, List.flatMap_cons, AbiValue.tail, List.append_assoc, readText,
            readBytes_append hvalue, Option.bind_some, fromUTF8?_textBytes]
        rw [readArguments, hhead, AbiValue.head, readNumber_append (by omega), Option.bind_eq_bind,
          Option.bind_some]
        simp only [if_true, htext, Option.bind_eq_bind, Option.bind_some]
        rw [hothers, hlength, ← Nat.add_assoc]
        rfl
      | uint => exact hvalue.elim
      | address => exact hvalue.elim

/-- The head has a word for each argument. -/
theorem length_heads (h : List.Forall₂ AbiValue.Fits types values) (offset : ℕ) :
    (heads values offset).length = 32 * values.length := by
  induction h generalizing offset with
  | nil => rfl
  | @cons type value types values hvalue hrest ih =>
    have hword : (value.head offset).length = 32 := by
      cases type <;> cases value <;> simp_all [AbiValue.Fits, AbiValue.head, length_wordOf]
    rw [heads, List.length_append, hword, ih, List.length_cons]
    omega

/-- Arguments are decoded from their encoding. -/
theorem decode_encode (h : List.Forall₂ AbiValue.Fits types values)
    (hfits : (encode values).length < 2 ^ 256) : decode types (encode values) = some values := by
  have hcount := h.length_eq
  have hlength : (encode values).length = 32 * values.length + (tails values).length := by
    rw [encode, List.length_append, length_heads h]
  have hhead : (encode values).drop 0 = heads values (32 * values.length) ++ tails values := rfl
  have htail : (encode values).drop (32 * values.length) = tails values ++ [] := by
    rw [encode, List.append_nil]
    exact List.drop_left' (length_heads h _)
  rw [decode, hcount, readArguments_of_drop h hhead htail (by omega), Option.bind_some]
  dsimp only
  rw [if_pos hlength.symm]

end RoundTrip

end Abi
