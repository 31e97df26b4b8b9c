import Automaton.Library.Json
import Automaton.Library.Machine
import Automaton.Library.Rlp
import Automaton.Strategy.AbiArtifacts
import Automaton.Strategy.Types
import Automaton.Util

/-!
# Encoding of call arguments

The compiler of strategies writes the arguments of a call from the types of an artifact and from
JSON values. The number of words of a type decides what stands in the head.
-/

namespace Automaton.Strategy

open Machine

/-- `to_ascii_lowercase` of the trimmed kind. -/
def AbiTypeSpec.baseKind (spec : AbiTypeSpec) : String :=
  Text.toAsciiLowercase (Text.trim spec.kind)

/-- A text starts with another one. -/
def startsWith (front text : String) : Bool := front.toList.isPrefixOf text.toList

/-- What is before and inside of the last brackets of a kind that ends with a bracket. -/
def lastBrackets (kind : List Char) : Option (List Char × List Char) :=
  match kind.reverse with
  | ']' :: inner =>
    match inner.dropWhile (· ≠ '[') with
    | [] => none
    | _ :: base => some (base.reverse, (inner.takeWhile (· ≠ '[')).reverse)
  | _ => none

/-- `encode_u256_word`. -/
def encodeU256Word (value : ℕ) : List UInt8 := Rlp.toBigEndian 32 value

/-- `encode_dynamic_bytes`. -/
def encodeDynamicBytes (bytes : List UInt8) : List UInt8 :=
  encodeU256Word bytes.length ++ bytes ++ List.replicate ((32 - bytes.length % 32) % 32) 0

/-- `parse_u256_from_decimal_or_hex`. -/
def parseU256FromDecimalOrHex (raw field : String) : Except String ℕ :=
  let trimmed := Text.trim raw
  if trimmed = "" then .error (field ++ " cannot be empty")
  else
    match Text.stripPrefix? "0x" trimmed <|> Text.stripPrefix? "0X" trimmed with
    | some hex =>
      if !hex.toList.all Text.isHexDigit then .error (field ++ " must be valid hex")
      else (Hex.parseUnsigned u256Max hex.toList).elim
        (.error ("failed to parse " ++ field ++ " as hex quantity: " ++ u256TooLarge)) .ok
    | none =>
      if !trimmed.toList.all Char.isDigit then
        .error (field ++ " must be a decimal string or hex quantity")
      else (Decimal.parseUnsigned u256Max trimmed).elim
        (.error ("failed to parse " ++ field ++ ": " ++ u256TooLarge)) .ok

/-- `parse_u256_from_json`. -/
def parseU256FromJson (value : JsonValue) (field : String) : Except String ℕ :=
  match value with
  | .string raw => parseU256FromDecimalOrHex raw field
  | .posInt n => .ok n.toNat
  | _ => .error (field ++ " must be a string or unsigned integer")

/-- The loop of `i128::from_str` over the digits. -/
def parseI128Digits (negative : Bool) : List Char → ℤ → Except String ℤ
  | [], value => .ok value
  | c :: rest, value =>
    if !c.isDigit then .error "invalid digit found in string"
    else
      let digit : ℤ := c.toNat - '0'.toNat
      let next := if negative then value * 10 - digit else value * 10 + digit
      if next < -2 ^ 127 then .error "number too small to fit in target type"
      else if 2 ^ 127 ≤ next then .error "number too large to fit in target type"
      else parseI128Digits negative rest next

/-- `i128::from_str`. -/
def parseI128 (raw : String) : Except String ℤ :=
  match raw.toList with
  | [] => .error "cannot parse integer from empty string"
  | ['+'] | ['-'] => .error "invalid digit found in string"
  | '-' :: digits => parseI128Digits true digits 0
  | '+' :: digits => parseI128Digits false digits 0
  | digits => parseI128Digits false digits 0

/-- `parse_i128_from_json`. -/
def parseI128FromJson (value : JsonValue) (field : String) : Except String ℤ :=
  match value with
  | .posInt n =>
    if n.toNat < 2 ^ 63 then .ok n.toNat else .error (field ++ " must be a string or integer")
  | .negInt n => .ok n.toInt
  | .string raw =>
    (parseI128 raw).mapError fun error =>
      "failed to parse " ++ field ++ " as signed integer: " ++ error
  | _ => .error (field ++ " must be a string or integer")

/-- `trim_start_matches` of "bytes". -/
def trimStartBytes : List Char → List Char
  | 'b' :: 'y' :: 't' :: 'e' :: 's' :: rest => trimStartBytes rest
  | chars => chars

/-- The bytes of a normalized text in hexadecimal. -/
def hexBytes (normalized : String) : List UInt8 := Hex.bytes (normalized.toList.drop 2)

section Encoding

variable (target : Target)

/-- `encode_abi_primitive_word`. -/
def encodeAbiPrimitiveWord (kind : String) (value : JsonValue) (field : String) :
    Except String (List UInt8) :=
  if kind = "address" then
    match value with
    | .string raw => do
      let normalized ← normalizeEvmAddress raw
      return List.replicate 12 0 ++ hexBytes normalized
    | _ => .error (field ++ " address must be a string")
  else if kind = "bool" then
    match value with
    | .bool raw => .ok (encodeU256Word (if raw then 1 else 0))
    | _ => .error (field ++ " bool must be true/false")
  else if startsWith "uint" kind then do
    let parsed ← parseU256FromJson value field
    return encodeU256Word parsed
  else if startsWith "int" kind then do
    let parsed ← parseI128FromJson value field
    if parsed < 0 then throw (field ++ " negative signed integers are not supported yet")
    return encodeU256Word parsed.toNat
  else if startsWith "bytes" kind then
    match Decimal.parseUnsigned target.usizeMax (String.ofList (trimStartBytes kind.toList)) with
    | none => .error ("unsupported abi type: " ++ kind)
    | some width =>
      if width < 1 ∨ 32 < width then
        .error ("fixed bytes width must be in 1..=32, got " ++ toString width)
      else
        match value with
        | .string raw => do
          let bytes := hexBytes (← normalizeHexBlob raw field)
          if width < bytes.length then
            throw (field ++ " length exceeds bytes" ++ toString width ++ ": " ++
              toString bytes.length ++ " bytes")
          return bytes ++ List.replicate (32 - bytes.length) 0
        | _ => .error (field ++ " fixed bytes must be a hex string")
  else .error ("unsupported abi primitive type: " ++ kind)

/-- `split_array_type`. -/
def splitArrayType (kind : String) : Option (String × Option ℕ) :=
  match lastBrackets kind.toList with
  | none => none
  | some (base, length) =>
    if length = [] then some (String.ofList base, none)
    else (Decimal.parseUnsigned target.usizeMax (String.ofList length)).map fun n =>
      (String.ofList base, some n)

/-- `static_word_size` of a kind whose components have `tuple` words. Every step takes an array
suffix off. -/
def kindWordSize (tuple : Option ℕ) : ℕ → String → Option ℕ
  | 0, _ => none
  | steps + 1, kind =>
    match splitArrayType target (Text.trim kind) with
    | some (_, none) => none
    | some (elementKind, some arrayLen) =>
      (kindWordSize tuple steps elementKind).map fun words =>
        saturatingMul target.usizeMax words arrayLen
    | none =>
      let kind := Text.toAsciiLowercase (Text.trim kind)
      if kind = "string" ∨ kind = "bytes" then none
      else if kind = "tuple" then tuple
      else some 1

mutual

/-- `static_word_size`. -/
def staticWordSize : AbiTypeSpec → Option ℕ
  | ⟨_, kind, components⟩ =>
    kindWordSize target (tupleWordSize 0 components) (kind.length + 1) kind

/-- The loop of `static_word_size` over components. -/
def tupleWordSize : ℕ → List AbiTypeSpec → Option ℕ
  | words, [] => some words
  | words, component :: components =>
    match staticWordSize component with
    | none => none
    | some componentWords =>
      tupleWordSize (saturatingAdd target.usizeMax words componentWords) components

end

/-- `is_dynamic_type`. -/
def isDynamicType (spec : AbiTypeSpec) : Bool := (staticWordSize target spec).isNone

/-- The first pass of `encode_abi_params`. -/
def headSizeWords : ℕ → List AbiTypeSpec → ℕ
  | words, [] => words
  | words, spec :: specs =>
    headSizeWords (saturatingAdd target.usizeMax words ((staticWordSize target spec).getD 1)) specs

/-- `encode_abi_params` around its second pass, which writes the heads and the tails. -/
def encodeAbiParamsWith (specs : List AbiTypeSpec) (count : ℕ)
    (pass : ℕ → Except String (List UInt8 × List UInt8)) : Except String (List UInt8) := do
  if specs.length ≠ count then
    throw ("abi encode arity mismatch: expected " ++ toString specs.length ++ " values, got " ++
      toString count)
  let (heads, tails) ← pass (saturatingMul target.usizeMax (headSizeWords target 0 specs) 32)
  return heads ++ tails

mutual

/-- `encode_abi_static`. -/
def encodeAbiStatic (spec : AbiTypeSpec) (field : String) (value : JsonValue) :
    Except String (List UInt8) :=
  if isDynamicType target spec then
    .error (field ++ " is dynamic and cannot be encoded as static")
  else
    match splitArrayType target (Text.trim spec.kind) with
    | some (elementKind, some arrayLen) =>
      match value with
      | .array values =>
        if values.length ≠ arrayLen then
          .error (field ++ " length mismatch: expected " ++ toString arrayLen ++ " got " ++
            toString values.length)
        else encodeStatics (List.replicate arrayLen { spec with kind := elementKind })
          (fun index => field ++ "[" ++ toString index ++ "]") 0 values
      | _ => .error (field ++ " must be an array for fixed-size ABI array")
    | _ =>
      if spec.baseKind = "tuple" then
        match value with
        | .array values =>
          if values.length ≠ spec.components.length then
            .error (field ++ " tuple arity mismatch: expected " ++
              toString spec.components.length ++ " got " ++ toString values.length)
          else encodeStatics spec.components (fun index => field ++ "." ++ toString index) 0 values
        | _ => .error (field ++ " must be a JSON array")
      else encodeAbiPrimitiveWord target spec.baseKind value field

/-- The loops of `encode_abi_static` over elements and components. -/
def encodeStatics (specs : List AbiTypeSpec) (fieldOf : ℕ → String) (index : ℕ)
    (values : List JsonValue) : Except String (List UInt8) :=
  match values with
  | [] => .ok []
  | value :: values =>
    match specs with
    | [] => .ok []
    | spec :: specs => do
      let first ← encodeAbiStatic spec (fieldOf index) value
      let rest ← encodeStatics specs fieldOf (index + 1) values
      return first ++ rest

/-- `encode_abi_dynamic`. -/
def encodeAbiDynamic (spec : AbiTypeSpec) (field : String) (value : JsonValue) :
    Except String (List UInt8) :=
  if !isDynamicType target spec then
    .error (field ++ " is static and cannot be encoded as dynamic")
  else
    match splitArrayType target (Text.trim spec.kind) with
    | some (elementKind, maybeLen) =>
      match value with
      | .array values =>
        if maybeLen.any (values.length ≠ ·) then
          .error (field ++ " length mismatch: expected " ++ toString (maybeLen.getD 0) ++ " got " ++
            toString values.length)
        else do
          let specs := List.replicate values.length { spec with kind := elementKind }
          let elements ← encodeAbiParamsWith target specs values.length fun headSizeBytes =>
            encodePass headSizeBytes specs 0 0 values
          return (if maybeLen.isNone then encodeU256Word values.length else []) ++ elements
      | _ => .error (field ++ " must be an array for ABI array type")
    | none =>
      if spec.baseKind = "tuple" then
        match value with
        | .array values =>
          encodeAbiParamsWith target spec.components values.length fun headSizeBytes =>
            encodePass headSizeBytes spec.components 0 0 values
        | _ => .error (field ++ " must be a JSON array")
      else if spec.baseKind = "bytes" then
        match value with
        | .string raw => do
          let normalized ← normalizeHexBlob raw field
          return encodeDynamicBytes (hexBytes normalized)
        | _ => .error (field ++ " must be a 0x-prefixed hex string")
      else if spec.baseKind = "string" then
        match value with
        | .string text => .ok (encodeDynamicBytes text.toUTF8.data.toList)
        | _ => .error (field ++ " must be a string")
      else .error ("unsupported dynamic abi type: " ++ spec.baseKind)

/-- The second pass of `encode_abi_params`: the heads and the tails. -/
def encodePass (headSizeBytes : ℕ) (specs : List AbiTypeSpec) (index tailSizeBytes : ℕ)
    (values : List JsonValue) : Except String (List UInt8 × List UInt8) :=
  match values with
  | [] => .ok ([], [])
  | value :: values =>
    match specs with
    | [] => .ok ([], [])
    | spec :: specs => do
      if isDynamicType target spec then
        let tail ← encodeAbiDynamic spec ("arg[" ++ toString index ++ "]") value
        let offset := saturatingAdd target.usizeMax headSizeBytes tailSizeBytes
        let (heads, tails) ← encodePass headSizeBytes specs (index + 1)
          (saturatingAdd target.usizeMax tailSizeBytes tail.length) values
        return (encodeU256Word offset ++ heads, tail ++ tails)
      else
        let head ← encodeAbiStatic spec ("arg[" ++ toString index ++ "]") value
        let (heads, tails) ← encodePass headSizeBytes specs (index + 1) tailSizeBytes values
        return (head ++ heads, tails)

end

/-- `encode_abi_params`. -/
def encodeAbiParams (specs : List AbiTypeSpec) (values : List JsonValue) :
    Except String (List UInt8) :=
  encodeAbiParamsWith target specs values.length fun headSizeBytes =>
    encodePass target headSizeBytes specs 0 0 values

end Encoding

end Automaton.Strategy
