import Automaton.Library.Machine
import Automaton.Util

/-!
# Commands of the steward

A command with a proof is carried out when the proof is for this canister, this command, the active
steward and the next nonce. The signature may be that of a contract, which is asked in between. A
command from the steward's principal needs no proof.
-/

namespace Automaton.Agent

open Machine

/-- `EVM_STEWARD_SIGNING_DOMAIN`. -/
def evmStewardSigningDomain : String := "ic-automaton:steward-execute:v1"

/-- `Principal::anonymous()`, as text. -/
def anonymousPrincipal : String := "2vxsx-fae"

/-- `EvmStewardProof`. -/
structure EvmStewardProof where
  canisterId : String
  chainId : ℕ
  address : String
  commandHash : String
  nonce : ℕ
  expiresAtNs : ℕ
  signature : String
  deriving DecidableEq

/-- `VerifiedEvmStewardProof`. -/
structure VerifiedEvmStewardProof where
  canisterId : String
  chainId : ℕ
  address : String
  commandHash : String
  nonce : ℕ
  expiresAtNs : ℕ
  deriving DecidableEq

/-- `StewardState`. -/
structure StewardState where
  chainId : ℕ
  address : String
  enabled : Bool
  lastUsedAtNs : Option ℕ
  principal : Option String
  deriving DecidableEq

/-- The part of `RuntimeSnapshot` that is about the steward. -/
structure StewardSnapshot where
  activeSteward : Option StewardState
  nextNonce : ℕ
  lastTransitionAtNs : ℕ
  deriving DecidableEq

/-- `StewardCommand`: the commands that change the steward, and the others as they are encoded. -/
inductive StewardCommand
  | setPrincipal (principal : Option String)
  | updateSteward (chainId : ℕ) (address : String) (enabled : Bool)
  | other (encoded : List UInt8)
  deriving DecidableEq

/-- How the store answers in one message. A snapshot that it cannot read is taken for a new one, and
one that it cannot write is dropped. -/
structure StoreAnswers where
  reads : Bool
  writes : Bool

/-- `EvmStewardVerificationContext`. -/
structure EvmStewardVerificationContext where
  canisterId : String
  activeSteward : Option StewardState
  expectedNonce : ℕ
  expectedCommandHash : String
  nowNs : ℕ

/-- `PreparedStewardVerification`. -/
structure PreparedStewardVerification where
  verified : VerifiedEvmStewardProof
  payload : String

/-- The canister with its two hash computations: the hash of an encoded command, and the address that
a signature of a payload is from. -/
structure StewardCanister where
  canisterId : String
  stewardCommandHash : StewardCommand → Except String String
  recoverStewardSignerAddress : String → String → Except String String

/-- `runtime_snapshot`. -/
def runtimeSnapshot (store : StoreAnswers) (snapshot : StewardSnapshot) : StewardSnapshot :=
  if store.reads then snapshot else ⟨none, 0, 0⟩

/-- `save_runtime_snapshot`. -/
def saveRuntimeSnapshot (store : StoreAnswers) (snapshot updated : StewardSnapshot) :
    StewardSnapshot :=
  if store.writes then updated else snapshot

/-- `normalize_command_hash`. -/
def normalizeCommandHash (raw field : String) : Except String String := do
  let normalized ← normalizeHexBlob raw field
  if normalized.utf8ByteSize ≠ 66 then throw (field ++ " must be a 32-byte hex blob")
  return normalized

/-- `canonical_steward_signing_payload`. -/
def canonicalStewardSigningPayload (canisterId : String) (chainId : ℕ)
    (address commandHash : String) (nonce expiresAtNs : ℕ) : String :=
  evmStewardSigningDomain ++ "\ncanister_id:" ++ canisterId ++ "\nchain_id:" ++ toString chainId ++
    "\naddress:" ++ address ++ "\ncommand_hash:" ++ commandHash ++ "\nnonce:" ++ toString nonce ++
    "\nexpires_at_ns:" ++ toString expiresAtNs

/-- `prepare_steward_verification`. -/
def prepareStewardVerification (proof : EvmStewardProof)
    (context : EvmStewardVerificationContext) : Except String PreparedStewardVerification := do
  let activeSteward ← context.activeSteward.elim (throw "no active steward configured") pure
  if ¬ activeSteward.enabled then throw "active steward is disabled"
  let normalizedAddress ← normalizeEvmAddress proof.address
  let commandHash ← normalizeCommandHash proof.commandHash "proof command hash"
  let expectedCommandHash ←
    normalizeCommandHash context.expectedCommandHash "expected command hash"
  if commandHash ≠ expectedCommandHash then
    throw ("proof command hash mismatch: expected=" ++ expectedCommandHash ++ " got=" ++
      commandHash)
  let proofCanisterId := Text.trim proof.canisterId
  let expectedCanisterId := Text.trim context.canisterId
  if proofCanisterId ≠ expectedCanisterId then
    throw ("proof canister_id mismatch: expected=" ++ expectedCanisterId ++ " got=" ++
      proofCanisterId)
  if proof.chainId ≠ activeSteward.chainId then
    throw ("proof chain_id does not match active steward: expected=" ++
      toString activeSteward.chainId ++ " got=" ++ toString proof.chainId)
  let activeAddress ← normalizeEvmAddress activeSteward.address
  if normalizedAddress ≠ activeAddress then
    throw ("proof address does not match active steward: expected=" ++ activeAddress ++ " got=" ++
      normalizedAddress)
  if proof.nonce ≠ context.expectedNonce then
    throw ("proof nonce mismatch: expected=" ++ toString context.expectedNonce ++ " got=" ++
      toString proof.nonce)
  if context.nowNs > proof.expiresAtNs then
    throw ("proof expired: expires_at_ns=" ++ toString proof.expiresAtNs ++ " now_ns=" ++
      toString context.nowNs)
  let payload := canonicalStewardSigningPayload expectedCanisterId proof.chainId
    normalizedAddress commandHash proof.nonce proof.expiresAtNs
  return {
    verified :=
      { canisterId := expectedCanisterId
        chainId := proof.chainId
        address := normalizedAddress
        commandHash
        nonce := proof.nonce
        expiresAtNs := proof.expiresAtNs }
    payload }

/-- The direct part of `verify_evm_steward_proof_with_eip1271_fallback`: whether the signature is that
of the address itself, or else the error with which the proof fails unless a contract accepts it. -/
def checkDirectSignature (canister : StewardCanister) (prepared : PreparedStewardVerification)
    (signature : String) : Except String Unit := do
  let recovered ← canister.recoverStewardSignerAddress prepared.payload signature
  if recovered ≠ prepared.verified.address then
    throw ("recovered signer address does not match proof address: recovered=" ++ recovered ++
      " proof=" ++ prepared.verified.address)

/-- `consume_steward_nonce_and_record_usage`. -/
def consumeStewardNonceAndRecordUsage (store : StoreAnswers) (nowNs : ℕ)
    (verified : VerifiedEvmStewardProof) (state : StewardSnapshot) :
    Except String StewardSnapshot := do
  let snapshot := runtimeSnapshot store state
  if snapshot.nextNonce ≠ verified.nonce then
    throw ("proof nonce mismatch: expected=" ++ toString snapshot.nextNonce ++ " got=" ++
      toString verified.nonce)
  let nextNonce ←
    (checkedAdd u64Max snapshot.nextNonce 1).elim (throw "steward nonce overflow") pure
  let activeSteward ← snapshot.activeSteward.elim (throw "no active steward configured") pure
  if ¬ activeSteward.enabled then throw "active steward is disabled"
  if activeSteward.chainId ≠ verified.chainId ∨ activeSteward.address ≠ verified.address then
    throw "active steward changed before proof consumption"
  return saveRuntimeSnapshot store state { snapshot with
    nextNonce
    activeSteward := some { activeSteward with lastUsedAtNs := some nowNs } }

/-- `authorize_and_record_steward_ingress_usage`, without the steward that it returns. -/
def authorizeAndRecordStewardIngressUsage (store : StoreAnswers) (nowNs : ℕ) (caller : String)
    (state : StewardSnapshot) : Except String StewardSnapshot := do
  if caller = anonymousPrincipal then
    throw "anonymous caller cannot execute steward ingress command"
  let snapshot := runtimeSnapshot store state
  let activeSteward ← snapshot.activeSteward.elim (throw "no active steward configured") pure
  if ¬ activeSteward.enabled then throw "active steward is disabled"
  let expectedPrincipal ←
    activeSteward.principal.elim (throw "active steward principal is not configured") pure
  if caller ≠ expectedPrincipal then
    throw ("caller principal does not match active steward principal: caller=" ++ caller ++
      " expected=" ++ expectedPrincipal)
  return saveRuntimeSnapshot store state
    { snapshot with activeSteward := some { activeSteward with lastUsedAtNs := some nowNs } }

/-- `normalize_steward_state`. -/
def normalizeStewardState (steward : StewardState) : Except String StewardState := do
  if steward.chainId = 0 then throw "steward chain id must be greater than 0"
  let address ← match normalizeEvmAddress steward.address with
    | .error _ => throw "steward address must be a 0x-prefixed 20-byte hex string"
    | .ok address => pure address
  if steward.principal = some anonymousPrincipal then
    throw "steward principal cannot be anonymous"
  return { steward with address }

/-- `steward_identity_rotated`. -/
def stewardIdentityRotated (previous : Option StewardState) (updated : StewardState) : Bool :=
  previous.all fun current =>
    current.chainId ≠ updated.chainId || current.address ≠ updated.address

/-- `set_active_steward_with_nonce_reset_on_rotation`, without the steward that it returns. -/
def setActiveStewardWithNonceResetOnRotation (store : StoreAnswers) (nowNs : ℕ)
    (steward : StewardState) (state : StewardSnapshot) : Except String StewardSnapshot := do
  let normalized ← normalizeStewardState steward
  let snapshot := runtimeSnapshot store state
  if stewardIdentityRotated snapshot.activeSteward normalized then
    return saveRuntimeSnapshot store state
      { activeSteward := some { normalized with principal := none }
        nextNonce := 0
        lastTransitionAtNs := nowNs }
  else
    let principal := normalized.principal <|> snapshot.activeSteward.bind (·.principal)
    return saveRuntimeSnapshot store state { snapshot with
      activeSteward := some { normalized with principal }
      lastTransitionAtNs := nowNs }

/-- `update_active_steward_and_maybe_reset_nonce`, without what it returns for the log. -/
def updateActiveStewardAndMaybeResetNonce (store : StoreAnswers) (nowNs chainId : ℕ)
    (address : String) (enabled : Bool) (state : StewardSnapshot) :
    Except String StewardSnapshot :=
  setActiveStewardWithNonceResetOnRotation store nowNs
    { chainId, address, enabled, lastUsedAtNs := none, principal := none } state

/-- `set_active_steward_principal`. -/
def setActiveStewardPrincipal (store : StoreAnswers) (nowNs : ℕ) (principal : Option String)
    (state : StewardSnapshot) : Except String StewardSnapshot := do
  if principal = some anonymousPrincipal then throw "steward principal cannot be anonymous"
  let snapshot := runtimeSnapshot store state
  let active ← snapshot.activeSteward.elim (throw "no active steward configured") pure
  return saveRuntimeSnapshot store state { snapshot with
    activeSteward := some { active with principal }
    lastTransitionAtNs := nowNs }

/-- `dispatch_steward_command`, for the steward. -/
def dispatchStewardCommand (store : StoreAnswers) (nowNs : ℕ) (command : StewardCommand)
    (state : StewardSnapshot) : Except String StewardSnapshot :=
  match command with
  | .setPrincipal principal => setActiveStewardPrincipal store nowNs principal state
  | .updateSteward chainId address enabled =>
    updateActiveStewardAndMaybeResetNonce store nowNs chainId address enabled state
  | .other _ => .ok state

end Automaton.Agent
