import Automaton.Library.BTreeMap
import Automaton.Library.Hex
import Automaton.Library.Lowercase
import Mathlib.Data.String.Basic

/-!
# ABI artifacts

The ABI of a contract is normalized before it is stored: the types of its functions are written in
one way, their parameters are named, and their selectors are computed from their signatures.
-/

namespace Automaton.Strategy

/-- `AbiTypeSpec`. -/
structure AbiTypeSpec where
  name : String
  kind : String
  components : List AbiTypeSpec

/-- `AbiFunctionSpec`. -/
structure AbiFunctionSpec where
  role : String
  name : String
  selectorHex : String
  inputs : List AbiTypeSpec
  outputs : List AbiTypeSpec
  stateMutability : String

/-- `AbiArtifactKey`. -/
structure AbiArtifactKey where
  protocol : String
  chainId : ℕ
  role : String
  deriving DecidableEq, Repr

/-- `AbiArtifact`. -/
structure AbiArtifact where
  key : AbiArtifactKey
  sourceRef : String
  codehash : Option String
  abiJson : String
  functions : List AbiFunctionSpec
  createdAtNs : ℕ
  updatedAtNs : ℕ

/-- `AbiSelectorAssertion`. -/
structure AbiSelectorAssertion where
  signature : String
  selectorHex : String

/-- `RawAbiParam`. -/
structure RawAbiParam where
  name : Option String
  kind : String
  components : List RawAbiParam

/-- `RawAbiEntry`. -/
structure RawAbiEntry where
  entryType : String
  name : Option String
  inputs : List RawAbiParam
  outputs : List RawAbiParam
  stateMutability : Option String

/-- The JSON parser: values, of which some are arrays and some have a field `abi`, and what entries
a value stands for. -/
structure AbiReader where
  Value : Type
  parse : String → Except String Value
  isArray : Value → Bool
  abi : Value → Option Value
  entries : Value → Except String (List RawAbiEntry)

/-- `decode_abi_entries`. -/
def decodeAbiEntries (reader : AbiReader) (abiJson : String) :
    Except String (List RawAbiEntry) :=
  match reader.parse abiJson with
  | .error error => .error ("invalid abi json: " ++ error)
  | .ok value =>
    match (if reader.isArray value then some value else reader.abi value) with
    | none => .error "abi json must be an array or object containing an `abi` array"
    | some entries => (reader.entries entries).mapError ("invalid abi format: " ++ ·)

/-- The loop of `validate_array_suffix`, outside or inside of brackets. -/
def validSuffix : Bool → List Char → Bool
  | inside, [] => !inside
  | false, c :: rest => c = '[' && validSuffix true rest
  | true, c :: rest =>
    if c.isDigit then validSuffix true rest else c = ']' && validSuffix false rest

/-- `validate_array_suffix`. -/
def validateArraySuffix (suffix : String) : Except String Unit :=
  if validSuffix false suffix.toList then .ok ()
  else .error ("invalid array suffix in abi type: " ++ suffix)

/-- `split_base_and_suffix`. -/
def splitBaseAndSuffix (kind : String) : String × String :=
  (String.ofList (kind.toList.takeWhile (· ≠ '[')),
    String.ofList (kind.toList.dropWhile (· ≠ '[')))

/-- A text without its white space. -/
def compact (text : String) : String :=
  String.ofList (text.toList.filter fun c => !Text.isWhitespace c)

/-- The base of a type, with the width that it stands for. -/
def canonicalBase (base : String) : String :=
  if base = "uint" then "uint256" else if base = "int" then "int256" else base

/-- `normalize_raw_kind` of a kind without white space and in lower case. -/
def normalizeCompactKind (kind : String) : Except String String :=
  if kind = "" then .error "abi type must be non-empty"
  else
    match Text.stripPrefix? "tuple" kind with
    | some suffix => (validateArraySuffix suffix).map fun () => "tuple" ++ suffix
    | none => do
      let parts := splitBaseAndSuffix kind
      validateArraySuffix parts.2
      if canonicalBase parts.1 = "" then .error "abi type base must be non-empty"
      else .ok (canonicalBase parts.1 ++ parts.2)

section Normalization

variable (endsWord : List Char → List Char → Bool)

/-- `normalize_raw_kind`. -/
def normalizeRawKind (rawKind : String) : Except String String :=
  normalizeCompactKind (Text.toLowercase endsWord (compact rawKind))

/-- The names that stand in for missing ones. -/
def fallbackName (index : ℕ) : String := "arg" ++ toString index

/-- The index of the first such name that is not used; one of the next ones is free. -/
def freshIndex (used : List String) (first : ℕ) : ℕ :=
  ((List.range' first (used.length + 1)).find? fun index =>
    !used.contains (fallbackName index)).getD first

/-- `normalize_param_name`: the name, and the index of the next one that stands in. -/
def normalizeParamName (rawName : Option String) (used : List String) (next : ℕ) : String × ℕ :=
  match (rawName.map Text.trim).filter (· ≠ "") with
  | some candidate =>
    if used.contains candidate then
      (fallbackName (freshIndex used next), freshIndex used next + 1)
    else (candidate, next)
  | none => (fallbackName (freshIndex used next), freshIndex used next + 1)

/-- A kind is that of a tuple or of tuples. -/
def isTupleKind (kind : String) : Bool := "tuple".toList.isPrefixOf kind.toList

mutual

/-- `normalize_raw_param`. -/
def normalizeRawParam : RawAbiParam → String → Except String AbiTypeSpec
  | ⟨_, rawKind, rawComponents⟩, name => do
    let kind ← normalizeRawKind endsWord rawKind
    if isTupleKind kind then
      if rawComponents.isEmpty then .error "tuple parameter must provide components"
      else do
        let components ← normalizeRawParams rawComponents [] 0
        .ok ⟨name, kind, components⟩
    else .ok ⟨name, kind, []⟩

/-- The loop of `normalize_raw_params`, with the names that are used. -/
def normalizeRawParams : List RawAbiParam → List String → ℕ → Except String (List AbiTypeSpec)
  | [], _, _ => .ok []
  | raw :: raws, used, next => do
    let named := normalizeParamName raw.name used next
    let spec ← normalizeRawParam raw named.1
    let specs ← normalizeRawParams raws (named.1 :: used) named.2
    .ok (spec :: specs)

end

mutual

/-- `canonicalize_type_spec`. -/
def canonicalizeTypeSpec : AbiTypeSpec → Except String String
  | ⟨_, kind, components⟩ => do
    let normalizedKind ← normalizeRawKind endsWord kind
    match Text.stripPrefix? "tuple" normalizedKind with
    | some suffix =>
      if components.isEmpty then .error "tuple type spec must include components"
      else do
        let names ← canonicalizeTypeSpecs components
        .ok ("(" ++ ",".intercalate names ++ ")" ++ suffix)
    | none => .ok normalizedKind

/-- The loops over `canonicalize_type_spec`. -/
def canonicalizeTypeSpecs : List AbiTypeSpec → Except String (List String)
  | [] => .ok []
  | spec :: specs => do
    let name ← canonicalizeTypeSpec spec
    let names ← canonicalizeTypeSpecs specs
    .ok (name :: names)

end

/-- `canonical_signature`. -/
def canonicalSignature (functionName : String) (inputs : List AbiTypeSpec) :
    Except String String :=
  if Text.trim functionName = "" then .error "function name must be non-empty"
  else do
    let names ← canonicalizeTypeSpecs endsWord inputs
    .ok (Text.trim functionName ++ "(" ++ ",".intercalate names ++ ")")

/-- `recompute_selector_hex`. -/
def recomputeSelectorHex (keccak256 : List UInt8 → List UInt8) (signature : String) : String :=
  "0x" ++ Hex.encode ((keccak256 signature.toUTF8.data.toList).take 4)

/-- `normalize_selector_hex`. -/
def normalizeSelectorHex (raw : String) : Except String String :=
  let compact := Text.toAsciiLowercase (Text.trim raw)
  let normalized := (Text.stripPrefix? "0x" compact).getD compact
  if normalized.utf8ByteSize ≠ 8 then .error "selector must be exactly 4 bytes hex"
  else if !normalized.toList.all Text.isHexDigit then .error "selector must be valid hex"
  else .ok ("0x" ++ normalized)

variable (keccak256 : List UInt8 → List UInt8)

/-- The body of the loop of `normalize_abi_artifact` for the entry of a function. -/
def normalizeFunction (role : String) (entry : RawAbiEntry) :
    Except String (String × AbiFunctionSpec) :=
  match (entry.name.map Text.trim).filter (· ≠ "") with
  | none => .error "function entry must include a non-empty name"
  | some name => do
    let inputs ← normalizeRawParams endsWord entry.inputs [] 0
    let outputs ← normalizeRawParams endsWord entry.outputs [] 0
    let signature ← canonicalSignature endsWord name inputs
    .ok (signature, {
      role, name, inputs, outputs
      selectorHex := recomputeSelectorHex keccak256 signature
      stateMutability := entry.stateMutability.getD "nonpayable" })

/-- The selectors by their signatures, of which no two are the same. -/
def selectorsBySignature : List (String × AbiFunctionSpec) → BTreeMap String String →
    Except String (BTreeMap String String)
  | [], selectors => .ok selectors
  | (signature, spec) :: functions, selectors =>
    if selectors[signature]? ≠ none then
      .error ("duplicate function signature detected: " ++ signature)
    else selectorsBySignature functions (selectors.insert signature spec.selectorHex)

/-- `normalize_signature_string`. -/
def normalizeSignatureString (rawSignature : String) : Except String String :=
  if compact rawSignature = "" then .error "signature assertion must be non-empty"
  else .ok (compact rawSignature)

/-- The body of the loop of `verify_selector_assertions`. -/
def verifySelectorAssertion (selectors : BTreeMap String String)
    (assertion : AbiSelectorAssertion) : Except String Unit := do
  let signature ← normalizeSignatureString assertion.signature
  let expected ← normalizeSelectorHex assertion.selectorHex
  match selectors[signature]? with
  | none => .error ("selector assertion references unknown signature: " ++ signature)
  | some actual =>
    if actual ≠ expected then
      .error ("selector mismatch for " ++ signature ++ ": expected=" ++ expected ++ " actual=" ++
        actual)
    else .ok ()

/-- `normalize_abi_artifact` after the entries are read: the functions of an artifact. -/
def normalizeEntries (role : String) (entries : List RawAbiEntry)
    (assertions : List AbiSelectorAssertion) : Except String (List AbiFunctionSpec) := do
  let functions ← (entries.filter (·.entryType = "function")).mapM
    (normalizeFunction endsWord keccak256 role)
  if functions.isEmpty then .error "abi artifact must include at least one function"
  else do
    let selectors ← selectorsBySignature functions ∅
    assertions.forM (verifySelectorAssertion selectors)
    .ok ((functions.mergeSort fun first second => first.1 ≤ second.1).map (·.2))

/-- `validate_abi_artifact_key`. -/
def validateAbiArtifactKey (key : AbiArtifactKey) : Except String Unit :=
  if Text.trim key.protocol = "" then .error "abi artifact protocol must be non-empty"
  else if key.chainId = 0 then .error "abi artifact chain_id must be greater than zero"
  else if Text.trim key.role = "" then .error "abi artifact role must be non-empty"
  else .ok ()

variable (reader : AbiReader)

/-- `normalize_abi_artifact`. -/
def normalizeAbiArtifact (key : AbiArtifactKey) (abiJson sourceRef : String)
    (codehash : Option String) (assertions : List AbiSelectorAssertion) (nowNs : ℕ) :
    Except String AbiArtifact := do
  validateAbiArtifactKey key
  if Text.trim sourceRef = "" then .error "source_ref must be provided"
  else do
    let entries ← decodeAbiEntries reader abiJson
    let functions ← normalizeEntries endsWord keccak256 key.role entries assertions
    .ok {
      key, codehash, abiJson, functions
      sourceRef := Text.trim sourceRef
      createdAtNs := nowNs
      updatedAtNs := nowNs }

/-- `abi_artifact_pk`. -/
def abiArtifactPk (key : AbiArtifactKey) : String :=
  key.protocol ++ ":" ++ toString key.chainId ++ ":" ++ key.role

/-- `stable::upsert_abi_artifact`. -/
def upsertAbiArtifact (artifacts : BTreeMap String AbiArtifact) (artifact : AbiArtifact) :
    Except String (AbiArtifact × BTreeMap String AbiArtifact) :=
  if Text.trim artifact.key.protocol = "" then .error "abi artifact protocol cannot be empty"
  else if Text.trim artifact.key.role = "" then .error "abi artifact role cannot be empty"
  else .ok (artifact, artifacts.insert (abiArtifactPk artifact.key) artifact)

/-- `normalize_and_store_abi_artifact`. -/
def normalizeAndStoreAbiArtifact (artifacts : BTreeMap String AbiArtifact) (key : AbiArtifactKey)
    (abiJson sourceRef : String) (codehash : Option String)
    (assertions : List AbiSelectorAssertion) (nowNs : ℕ) :
    Except String (AbiArtifact × BTreeMap String AbiArtifact) := do
  let artifact ← normalizeAbiArtifact endsWord keccak256 reader key abiJson sourceRef codehash
    assertions nowNs
  upsertAbiArtifact artifacts artifact

end Normalization

end Automaton.Strategy
