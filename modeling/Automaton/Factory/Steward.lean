import Automaton.Factory.Refunds
import Automaton.Factory.Sessions

/-!
# Commands of the steward

A steward proves a command by a signature over the canister, the chain, the command and a
nonce. A refund command that is accepted gets a lease with a generation: a command that
finds an expired lease supersedes it, and the command that holds the lease removes it.
-/

namespace Automaton.Factory

open Machine Persist

/-- `FactoryStewardCommand`. -/
inductive FactoryStewardCommand
  | retrySpawnSession (sessionId : String)
  | claimSpawnRefund (sessionId : String)
  deriving DecidableEq, Repr

/-- `FactoryStewardCommand::session_id`. -/
def FactoryStewardCommand.sessionId : FactoryStewardCommand → String
  | .retrySpawnSession sessionId => sessionId
  | .claimSpawnRefund sessionId => sessionId

/-- The command asks for a refund. -/
def FactoryStewardCommand.isRefund : FactoryStewardCommand → Bool
  | .retrySpawnSession _ => false
  | .claimSpawnRefund _ => true

/-- The label of the command in its Candid encoding. -/
def FactoryStewardCommand.label : FactoryStewardCommand → String
  | .retrySpawnSession _ => "RetrySpawnSession"
  | .claimSpawnRefund _ => "ClaimSpawnRefund"

/-- `FactoryStewardProof`. -/
structure FactoryStewardProof where
  chainId : ℕ
  address : String
  commandHash : String
  nonce : ℕ
  expiresAtNs : ℕ
  signature : String
  deriving DecidableEq, Repr

/-- `FACTORY_STEWARD_DOMAIN`. -/
def factoryStewardDomain : String := "ic-automaton:factory-steward:v1"

/-- `FACTORY_STEWARD_PROOF_TTL_NS`. -/
def factoryStewardProofTtlNs : ℕ := 5 * 60 * 1000000000

/-- `REFUND_COMMAND_LEASE_MS`. -/
def refundCommandLeaseMs : ℕ := 60000

/-- `invalid_proof`. -/
def invalidProof (reason : String) : FactoryError := .invalidStewardProof reason

/-- `normalize_address`. -/
def normalizeAddress (raw : String) : Except FactoryError String :=
  match Text.stripPrefix? "0x" (Text.toAsciiLowercase (Text.trim raw)) with
  | none => .error (invalidProof "address must be 0x-prefixed")
  | some body =>
    if body.toUTF8.size ≠ 40 ∨ ¬ body.toList.all (fun c => (hexValue c).isSome) then
      .error (invalidProof "address must be 20 bytes of hex")
    else .ok ("0x" ++ body)

/-- `factory_steward_command_hash`. -/
def factoryStewardCommandHash (externals : Externals) (command : FactoryStewardCommand) : String :=
  keccakHex externals (externals.candidEncode command.label command.sessionId)

/-- `signing_payload`. -/
def signingPayload (canisterId : String) (chainId : ℕ) (address commandHash : String)
    (nonce expiresAtNs : ℕ) : String :=
  factoryStewardDomain ++ "\ncanister_id:" ++ canisterId ++ "\nchain_id:" ++ toString chainId ++
    "\naddress:" ++ address ++ "\ncommand_hash:" ++ commandHash ++ "\nnonce:" ++ toString nonce ++
    "\nexpires_at_ns:" ++ toString expiresAtNs

/-- The number of commands of a session that have been consumed. -/
def FactoryState.stewardNonce (state : FactoryState) (sessionId : String) : ℕ :=
  state.stewardCommandNonces[sessionId]?.getD 0

/-- The error for a proof with another nonce. -/
def nonceMismatch (expected got : ℕ) : FactoryError :=
  invalidProof ("nonce mismatch: expected " ++ toString expected ++ ", got " ++ toString got)

/-- The checks of `authorize_and_consume` before its closure, in the state that the closure
then finds. Every session is on the only chain there is. -/
def verifyStewardProof (externals : Externals) (state : FactoryState)
    (command : FactoryStewardCommand) (proof : FactoryStewardProof) (canisterId : String)
    (nowNs : ℕ) : Except FactoryError Unit := do
  let expectedHash := factoryStewardCommandHash externals command
  let address ← normalizeAddress proof.address
  match state.sessions[command.sessionId]? with
  | none => throw (.sessionNotFound command.sessionId)
  | some session =>
    let chainId ← canonicalDeploymentChainId state.childRuntime state.releaseBroadcastConfig
    let expectedAddress ← normalizeAddress session.stewardAddress
    let expectedNonce := state.stewardNonce command.sessionId
    if proof.chainId ≠ chainId then throw (invalidProof "chain id mismatch")
    if address ≠ expectedAddress then throw (invalidProof "signer is not the session steward")
    if proof.nonce ≠ expectedNonce then throw (nonceMismatch expectedNonce proof.nonce)
    if Text.toAsciiLowercase proof.commandHash ≠ expectedHash then
      throw (invalidProof "command hash mismatch")
    if nowNs > proof.expiresAtNs then throw (invalidProof "proof expired")
    if proof.expiresAtNs - nowNs > factoryStewardProofTtlNs then
      throw (invalidProof "proof expiry exceeds maximum")
    let signer ← externals.recoverSigner
      (signingPayload canisterId proof.chainId address expectedHash proof.nonce proof.expiresAtNs)
      proof.signature
    if signer ≠ address then
      throw (invalidProof "recovered signer does not match proof address")

/-- The generation that a refund command gets: it follows a lease that is stored, and
starts anew where none is. -/
def refundGeneration (state : FactoryState) (sessionId : String) (nowMs : ℕ) :
    Except FactoryError ℕ :=
  match state.stewardRefundLeases[sessionId]? with
  | none => .ok 1
  | some lease =>
    if sessionId ∈ state.stewardRefundsInFlight ∧ nowMs ≤ lease.expiresAtMs then
      .error (invalidProof "refund command is already accepted and awaiting reconciliation")
    else
      match checkedAdd u64Max lease.generation 1 with
      | some generation => .ok generation
      | none => .error (invalidProof "refund generation overflow")

/-- The checks of a refund command after the expiry. A session that is refunded already is
accepted, for the answer to be repeated. -/
def ensureRefundable (sessionId : String) : Update Unit := do
  let session ← getSession sessionId
  let claim ← getClaim sessionId
  if session.paymentStatus ≠ .refunded ∧ (¬ (session.state = .expired ∨ session.state = .failed) ∨
      ¬ session.refundable ∨ ¬ claim.refundable) then
    throw (.sessionNotRefundable sessionId session.state session.paymentStatus)

/-- The expiry step of a refund command: a command that takes up an accepted one has gone
through it. -/
def expireForRefund (sessionId : String) (nowMs : ℕ) : Update Unit := do
  let state ← get
  when (sessionId ∉ state.stewardRefundsInFlight) (discard
    (expireSessionInState sessionId .user nowMs "refund requested by verified EVM steward"))

/-- The nonce is consumed. -/
def consumeNonce (sessionId : String) : Update Unit := do
  match checkedAdd u64Max ((← get).stewardNonce sessionId) 1 with
  | none => throw (invalidProof "nonce overflow")
  | some next => modify fun state =>
      { state with stewardCommandNonces := state.stewardCommandNonces.insert sessionId next }

/-- The lease of an accepted refund command. -/
@[simps]
def FactoryState.grantRefundLease (state : FactoryState) (sessionId : String)
    (generation nowMs : ℕ) : FactoryState :=
  { state with
    stewardRefundLeases := state.stewardRefundLeases.insert sessionId
      ⟨generation, saturatingAdd u64Max nowMs refundCommandLeaseMs⟩ }

/-- A refund command is in flight. -/
@[simps]
def FactoryState.markRefundInFlight (state : FactoryState) (sessionId : String) : FactoryState :=
  { state with stewardRefundsInFlight := state.stewardRefundsInFlight.insert sessionId () }

/-- The first command in flight consumes the nonce; one that takes it up does not. -/
def acceptRefund (sessionId : String) : Update Unit := do
  let state ← get
  when (sessionId ∉ state.stewardRefundsInFlight) do
    consumeNonce sessionId
    modify (·.markRefundInFlight sessionId)

/-- The closure of `authorize_and_consume` for a refund. It returns the generation. -/
def authorizeRefund (sessionId : String) (nowMs : ℕ) : Update ℕ := do
  let state ← get
  let generation ← ofExcept (refundGeneration state sessionId nowMs)
  expireForRefund sessionId nowMs
  ensureRefundable sessionId
  acceptRefund sessionId
  modify (·.grantRefundLease sessionId generation nowMs)
  return generation

/-- The closure of `authorize_and_consume` for a retry. -/
def authorizeRetry (sessionId : String) (nowMs : ℕ) : Update SpawnSession := do
  let session ← retrySpawnSessionInState sessionId .user nowMs
    "retry requested by verified EVM steward"
  consumeNonce sessionId
  return session

/-- `authorize_and_consume`. A retry returns its session, a refund its generation. -/
def authorizeAndConsume (externals : Externals) (command : FactoryStewardCommand)
    (proof : FactoryStewardProof) (canisterId : String) (nowNs nowMs : ℕ) :
    Update (SpawnSession ⊕ ℕ) := do
  let state ← get
  ofExcept (verifyStewardProof externals state command proof canisterId nowNs)
  match command with
  | .retrySpawnSession sessionId => .inl <$> authorizeRetry sessionId nowMs
  | .claimSpawnRefund sessionId => .inr <$> authorizeRefund sessionId nowMs

/-- `clear_refund_in_flight`. -/
def FactoryState.clearRefundInFlight (state : FactoryState) (sessionId : String)
    (generation : ℕ) : FactoryState :=
  if holdsRefundLease state sessionId generation then
    { state with
      stewardRefundsInFlight := state.stewardRefundsInFlight.erase sessionId
      stewardRefundLeases := state.stewardRefundLeases.erase sessionId }
  else state

end Automaton.Factory
