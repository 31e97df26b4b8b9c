import Automaton.Factory.Transaction
import Automaton.Factory.State
import Automaton.Library.Fallible

/-!
# Release and refund drafts

The calldata of release and refund calls, the plan of a transaction and the record that is
drafted from it. The hash function is a parameter.
-/

namespace Automaton.Factory

open Machine

/-- What the factory takes from cryptographic libraries and from encoders. -/
structure Externals where
  keccak256 : List UInt8 → List UInt8
  sha256Hex : String → String
  deriveSignedRecid : List UInt8 → List UInt8 → List UInt8 → Except FactoryError Bool
  deriveEvmAddressFromPublicKey : List UInt8 → Except FactoryError String
  recoverSigner : String → String → Except FactoryError String
  candidEncode : String → String → List UInt8
  parsePrincipal : String → Except String Unit
  errorText : FactoryError → String

/-- A digit of `hex_encode`. -/
def hexDigit (n : ℕ) : Char := Nat.digitChar (n % 16)

/-- `hex_encode_prefixed`. -/
def hexEncodePrefixed (bytes : List UInt8) : String :=
  String.ofList ('0' :: 'x' ::
    bytes.flatMap fun byte => [hexDigit (byte.toNat / 16), hexDigit byte.toNat])

/-- `hex_value`. -/
def hexValue (c : Char) : Option ℕ :=
  if '0' ≤ c ∧ c ≤ '9' then some (c.toNat - '0'.toNat)
  else if 'a' ≤ c ∧ c ≤ 'f' then some (c.toNat - 'a'.toNat + 10)
  else if 'A' ≤ c ∧ c ≤ 'F' then some (c.toNat - 'A'.toNat + 10)
  else none

/-- The loop of `decode_hex` over pairs of digits. -/
def decodePairs : List Char → Option (List UInt8)
  | [] => some []
  | high :: low :: rest => do
    let high ← hexValue high
    let low ← hexValue low
    let bytes ← decodePairs rest
    return UInt8.ofNat (high * 16 + low) :: bytes
  | [_] => none

/-- `decode_hex`. -/
def decodeHex (value : String) : Except FactoryError (List UInt8) :=
  match decodePairs ((Text.stripPrefix? "0x" value).getD value).toList with
  | some bytes => .ok bytes
  | none => .error (.invalidAmount value)

/-- `decode_fixed_hex`. -/
def decodeFixedHex (length : ℕ) (value : String) : Except FactoryError (List UInt8) := do
  let bytes ← decodeHex value
  if bytes.length ≠ length then throw (.invalidAmount value)
  return bytes

variable (externals : Externals)

/-- `keccak_hex`. -/
def keccakHex (bytes : List UInt8) : String := hexEncodePrefixed (externals.keccak256 bytes)

/-- The first four bytes of the hash of a signature. -/
def selector (signature : String) : List UInt8 :=
  (externals.keccak256 signature.toUTF8.toList).take 4

/-- `encode_address_word`. -/
def encodeAddressWord (value : String) : Except FactoryError (List UInt8) := do
  let address ← decodeFixedHex 20 value
  return List.replicate 12 0 ++ address

/-- `encode_u128_word`. -/
def encodeU128Word (value : ℕ) : List UInt8 := List.replicate 16 0 ++ Rlp.toBigEndian 16 value

/-- `encode_release_calldata`. -/
def encodeReleaseCalldata (claimId recipient : String) : Except FactoryError (List UInt8) := do
  let claim ← decodeFixedHex 32 claimId
  let recipient ← encodeAddressWord recipient
  return selector externals "release(bytes32,address)" ++ claim ++ recipient

/-- `encode_refund_calldata`. -/
def encodeRefundCalldata (claimId : String) : Except FactoryError (List UInt8) := do
  let claim ← decodeFixedHex 32 claimId
  return selector externals "refund(bytes32)" ++ claim

/-- `ReproductionRelease`. -/
structure ReproductionRelease where
  childAmount : ℕ
  royaltyOneRecipient : String
  royaltyOneAmount : ℕ
  royaltyTwoRecipient : String
  royaltyTwoAmount : ℕ
  deriving DecidableEq, Repr

/-- `encode_reproduction_release_calldata`. -/
def encodeReproductionReleaseCalldata (claimId child : String) (release : ReproductionRelease) :
    Except FactoryError (List UInt8) := do
  let claim ← decodeFixedHex 32 claimId
  let child ← encodeAddressWord child
  let royaltyOne ← encodeAddressWord release.royaltyOneRecipient
  let royaltyTwo ← encodeAddressWord release.royaltyTwoRecipient
  return selector externals
      "releaseReproduction(bytes32,address,uint256,address,uint256,address,uint256)" ++
    claim ++ child ++ encodeU128Word release.childAmount ++
    royaltyOne ++ encodeU128Word release.royaltyOneAmount ++
    royaltyTwo ++ encodeU128Word release.royaltyTwoAmount

/-- `ReleaseTransactionPlan`. -/
structure ReleaseTransactionPlan where
  claimId : String
  recipient : String
  escrowContractAddress : String
  nonce : ℕ
  config : ReleaseBroadcastConfig
  calldata : List UInt8
  deriving DecidableEq, Repr

/-- A plan with its calldata, as the three builders share it. -/
def planWith (claimId recipient escrowContractAddress : String) (nonce : ℕ)
    (config : ReleaseBroadcastConfig) (calldata : Except FactoryError (List UInt8)) :
    Except FactoryError ReleaseTransactionPlan := do
  let calldata ← calldata
  return ⟨claimId, recipient, escrowContractAddress, nonce, config, calldata⟩

/-- `build_release_plan`. -/
def buildReleasePlan (claimId recipient escrowContractAddress : String) (nonce : ℕ)
    (config : ReleaseBroadcastConfig) : Except FactoryError ReleaseTransactionPlan :=
  planWith claimId recipient escrowContractAddress nonce config
    (encodeReleaseCalldata externals claimId recipient)

/-- `build_refund_plan`. -/
def buildRefundPlan (claimId recipient escrowContractAddress : String) (nonce : ℕ)
    (config : ReleaseBroadcastConfig) : Except FactoryError ReleaseTransactionPlan :=
  planWith claimId recipient escrowContractAddress nonce config
    (encodeRefundCalldata externals claimId)

/-- `build_reproduction_release_plan`. -/
def buildReproductionReleasePlan (claimId recipient escrowContractAddress : String) (nonce : ℕ)
    (config : ReleaseBroadcastConfig) (release : ReproductionRelease) :
    Except FactoryError ReleaseTransactionPlan :=
  planWith claimId recipient escrowContractAddress nonce config
    (encodeReproductionReleaseCalldata externals claimId recipient release)

/-- A record of a transaction of which nothing but the given fields is known. -/
def blankRecord (claimId recipient escrowContractAddress : String) (nonce : ℕ)
    (config : ReleaseBroadcastConfig) (calldataHex : String) : ReleaseBroadcastRecord where
  claimId := claimId
  recipient := recipient
  escrowContractAddress := escrowContractAddress
  nonce := nonce
  chainId := config.chainId
  maxPriorityFeePerGas := config.maxPriorityFeePerGas
  maxFeePerGas := config.maxFeePerGas
  gasLimit := config.gasLimit
  ecdsaKeyName := some config.ecdsaKeyName
  calldataHex := calldataHex
  signingPayloadHash := none
  signature := none
  rawTransactionHash := none
  rawTransactionHex := none
  rpcTxHash := none
  broadcastAt := none
  receiptBlockNumber := none
  receiptBlockHash := none
  receiptStatus := none
  lastError := none

/-- `build_release_broadcast_record`. -/
def buildReleaseBroadcastRecord (plan : ReleaseTransactionPlan) : ReleaseBroadcastRecord :=
  blankRecord plan.claimId plan.recipient plan.escrowContractAddress plan.nonce plan.config
    (hexEncodePrefixed plan.calldata)

/-- `build_unsigned_release_transaction` of the canister. No vector of bytes is longer than
`isize::MAX`, so nothing is cut off. -/
def buildUnsignedReleaseTransaction (plan : ReleaseTransactionPlan) :
    Except FactoryError (UnsignedEip1559Transaction .wasm32) := do
  let address ← decodeFixedHex 20 plan.escrowContractAddress
  return {
    chainId := UInt64.ofNat plan.config.chainId
    nonce := UInt64.ofNat plan.nonce
    maxPriorityFeePerGas := UInt64.ofNat plan.config.maxPriorityFeePerGas
    maxFeePerGas := UInt64.ofNat plan.config.maxFeePerGas
    gasLimit := UInt64.ofNat plan.config.gasLimit
    toAddress := Vector.ofFn fun i => address.getD i 0
    data := ⟨plan.calldata.take Target.wasm32.isizeMax, List.length_take_le _ _⟩ }

/-- `build_refund_transaction_draft`. -/
def buildRefundTransactionDraft (claimId recipient escrowContractAddress : String) (nonce : ℕ)
    (config : ReleaseBroadcastConfig) : Except FactoryError ReleaseBroadcastRecord := do
  let plan ← buildRefundPlan externals claimId recipient escrowContractAddress nonce config
  let unsigned ← buildUnsignedReleaseTransaction plan
  return { buildReleaseBroadcastRecord plan with
    signingPayloadHash := some (keccakHex externals (buildSigningPayload unsigned)) }

/-- `validate_refund_transaction_draft`. -/
def validateRefundTransactionDraft (record : ReleaseBroadcastRecord)
    (expectedClaimId expectedRecipient ecdsaKeyName : String) :
    Except FactoryError ReleaseBroadcastConfig := do
  if record.claimId ≠ expectedClaimId ∨ record.recipient ≠ expectedRecipient then
    throw (.managementCallFailed "resume_refund_draft"
      "persisted refund draft identity does not match the session")
  let config : ReleaseBroadcastConfig := {
    ecdsaKeyName := record.ecdsaKeyName.getD ecdsaKeyName
    chainId := record.chainId
    maxPriorityFeePerGas := record.maxPriorityFeePerGas
    maxFeePerGas := record.maxFeePerGas
    gasLimit := record.gasLimit }
  let expected ← buildRefundTransactionDraft externals record.claimId record.recipient
    record.escrowContractAddress record.nonce config
  if expected.calldataHex ≠ record.calldataHex ∨
      expected.signingPayloadHash ≠ record.signingPayloadHash then
    throw (.managementCallFailed "resume_refund_draft"
      "persisted refund draft transaction fields are inconsistent")
  return config

/-- `reconstruct_legacy_refund_raw_transaction`. -/
def reconstructLegacyRefundRawTransaction (record : ReleaseBroadcastRecord) :
    Except FactoryError String := do
  let failed message := FactoryError.managementCallFailed "resume_refund_broadcast" message
  let config : ReleaseBroadcastConfig := { ReleaseBroadcastConfig.default with
    chainId := record.chainId
    maxPriorityFeePerGas := record.maxPriorityFeePerGas
    maxFeePerGas := record.maxFeePerGas
    gasLimit := record.gasLimit }
  let plan ← buildRefundPlan externals record.claimId record.recipient
    record.escrowContractAddress record.nonce config
  if hexEncodePrefixed plan.calldata ≠ record.calldataHex then
    throw (failed "legacy refund calldata does not match the deterministic refund plan")
  match record.signature with
  | none => throw (failed "legacy refund requires explicit migration: signature is missing")
  | some signature =>
    let r ← decodeHex signature.r
    let s ← decodeHex signature.s
    let unsigned ← buildUnsignedReleaseTransaction plan
    let raw ← buildSignedRawTransaction unsigned signature.yParity (r ++ s)
    match record.rawTransactionHash with
    | none =>
      throw (failed "legacy refund requires explicit migration: raw transaction hash is missing")
    | some expected =>
      if keccakHex externals raw ≠ expected then
        throw (failed
          "legacy refund reconstruction does not match its persisted transaction hash")
      return hexEncodePrefixed raw

/-- `signature_record`. -/
def signatureRecord (yParity : Bool) (signature : List UInt8) :
    Except FactoryError ReleaseSignatureRecord :=
  if signature.length ≠ 64 then
    .error (.managementCallFailed "sign_with_ecdsa" "signature must be 64 bytes")
  else
    .ok ⟨yParity, hexEncodePrefixed (signature.take 32), hexEncodePrefixed (signature.drop 32)⟩

/-- `ReleaseBroadcastError`. -/
structure ReleaseBroadcastError where
  record : ReleaseBroadcastRecord
  source : FactoryError

/-- `release_broadcast_error`. -/
def releaseBroadcastError (stage : ReleaseBroadcastStage) (record : ReleaseBroadcastRecord)
    (error : FactoryError) (nowMs : ℕ) : ReleaseBroadcastError :=
  let failure : ReleaseBroadcastFailure :=
    match error with
    | .rpcRequestFailed _ endpoint category code message =>
      ⟨stage, message, some category, code, some endpoint, nowMs⟩
    | .managementCallFailed _ message => ⟨stage, message, none, none, none, nowMs⟩
    | other => ⟨stage, externals.errorText other, none, none, none, nowMs⟩
  ⟨{ record with lastError := some failure }, error⟩

end Automaton.Factory
