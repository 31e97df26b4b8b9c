import Automaton.Factory.ReleasePlan
import Automaton.Factory.SessionScope

/-!
# Refunds

The writes of a refund command. A command carries the generation of the lease it was
accepted with, and every write of it is made only while the lease still has this generation.
-/

namespace Automaton.Factory

open Machine Persist

/-- `RefundSpawnResponse`. -/
structure RefundSpawnResponse where
  sessionId : String
  state : SpawnSessionState
  paymentStatus : PaymentStatus
  refundedAt : ℕ
  refundTxHash : Option String
  deriving DecidableEq, Repr

/-- `validate_escrow_refund_in_state`. -/
def validateEscrowRefundInState (state : FactoryState) (sessionId : String) (nowMs : ℕ) :
    Except FactoryError (Option RefundSpawnResponse) :=
  match state.sessions[sessionId]?, state.escrowClaims[sessionId]? with
  | none, _ => .error (.sessionNotFound sessionId)
  | some _, none => .error (.escrowClaimNotFound sessionId)
  | some session, some claim =>
    if session.paymentStatus = .refunded then
      .ok (some {
        sessionId := sessionId
        state := session.state
        paymentStatus := .refunded
        refundedAt := claim.refundedAt.getD nowMs
        refundTxHash := claim.refundBroadcast.bind (·.rpcTxHash) })
    else if ¬ (session.state = .expired ∨ session.state = .failed) ∨ ¬ session.refundable ∨
        ¬ claim.refundable then
      .error (.sessionNotRefundable sessionId session.state session.paymentStatus)
    else .ok none

/-- The error of a refund command whose lease is not its own any more. -/
def staleRefundCommand : FactoryError := .invalidStewardProof "stale refund command continuation"

/-- The stored lease of a session has a generation. -/
def holdsRefundLease (state : FactoryState) (sessionId : String) (generation : ℕ) : Bool :=
  state.stewardRefundLeases[sessionId]?.any (·.generation = generation)

/-- `ensure_refund_generation`. -/
def ensureRefundGeneration (state : FactoryState) (sessionId : String) (generation : ℕ) :
    Except FactoryError Unit :=
  if holdsRefundLease state sessionId generation then .ok () else .error staleRefundCommand

/-- `write_refund_guarded`. -/
def writeRefundGuarded {α : Type} (sessionId : String) (generation : ℕ) (mutation : Update α) :
    Update α := do
  let state ← get
  ofExcept (ensureRefundGeneration state sessionId generation)
  mutation

/-- A claim with the record of its refund transaction. -/
@[simps]
def EscrowClaim.withRefundBroadcast (claim : EscrowClaim) (record : ReleaseBroadcastRecord) :
    EscrowClaim :=
  { claim with refundBroadcast := some record }

/-- `persist_refund_broadcast_record`. -/
def FactoryState.persistRefundBroadcastRecord (state : FactoryState) (sessionId : String)
    (record : ReleaseBroadcastRecord) : FactoryState :=
  state.updateClaim sessionId (·.withRefundBroadcast record)

/-- `persist_refund_transaction_record_guarded`. The claim is the first one with its id. -/
def persistRefundTransactionRecordGuarded (claimId : String) (record : ReleaseBroadcastRecord)
    (sessionId : String) (generation : ℕ) : Update Unit :=
  writeRefundGuarded sessionId generation do
    match (← get).escrowClaims.toList.find? (·.2.claimId = claimId) with
    | some entry => modify (·.updateClaim entry.1 (·.withRefundBroadcast record))
    | none => throw (.managementCallFailed "persist_refund_transaction_intent"
        ("escrow claim not found for claim_id " ++ claimId))

/-- A runtime whose session is refunded. -/
def AutomatonRuntimeState.releasedForRefund (runtime : AutomatonRuntimeState) (nowMs : ℕ) :
    AutomatonRuntimeState :=
  { runtime with
    controllerHandoffCompletedAt := some (runtime.controllerHandoffCompletedAt.getD nowMs)
    providerKeysCleared := true }

/-- The runtime of a session that has a canister is released. -/
def releaseRuntime (canisterId : Option String) (nowMs : ℕ) : Update Unit := do
  match canisterId with
  | none => return ()
  | some canisterId =>
    match (← get).runtimes[canisterId]? with
    | none => throw (.automatonRuntimeNotFound canisterId)
    | some runtime => modify fun state =>
        { state with
          runtimes := state.runtimes.insert canisterId (runtime.releasedForRefund nowMs) }

/-- A session that is refunded, before its flags are derived. -/
@[simps]
def SpawnSession.markRefunded (session : SpawnSession) (nowMs : ℕ) : SpawnSession :=
  { session with paymentStatus := .refunded, updatedAt := nowMs }

/-- Its claim. -/
@[simps]
def EscrowClaim.markRefunded (claim : EscrowClaim) (nowMs : ℕ) : EscrowClaim :=
  { claim with paymentStatus := .refunded, refundedAt := some nowMs, updatedAt := nowMs }

/-- The writes of `finalize_escrow_refund_in_state` for a refund that is valid. -/
def recordRefund (sessionId : String) (nowMs : ℕ) (refundTxHash : String) :
    Update RefundSpawnResponse := do
  let session ← getSession sessionId
  releaseRuntime session.automatonCanisterId nowMs
  modify (·.updateSession sessionId (·.markRefunded nowMs))
  modify (·.updateClaim sessionId (·.markRefunded nowMs))
  let _ ← syncSessionDerivedFlagsInState sessionId nowMs
  modify (·.recordSessionAudit
    ⟨sessionId, nowMs, some session.state, session.state, .user,
      "refund transaction confirmed on-chain"⟩)
  return {
    sessionId := sessionId
    state := session.state
    paymentStatus := .refunded
    refundedAt := nowMs
    refundTxHash := some refundTxHash }

/-- `finalize_escrow_refund_in_state`. -/
def finalizeEscrowRefundInState (sessionId : String) (nowMs : ℕ) (refundTxHash : String) :
    Update RefundSpawnResponse := do
  match ← ofExcept (validateEscrowRefundInState (← get) sessionId nowMs) with
  | some response => return response
  | none => recordRefund sessionId nowMs refundTxHash

/-- What a refund transaction is built from. -/
structure RefundDraft where
  claimId : String
  recipient : String
  escrow : String
  config : ReleaseBroadcastConfig
  nonce : ℕ
  deriving DecidableEq, Repr

/-- The nonce that is reserved next. -/
def reservedNonce (nextReleaseNonce : Option ℕ) (pendingNonce : ℕ) : ℕ :=
  max (nextReleaseNonce.getD pendingNonce) pendingNonce

/-- A state whose next nonce follows a reserved one. -/
@[simps]
def FactoryState.reserveNonce (state : FactoryState) (nonce : ℕ) : FactoryState :=
  { state with nextReleaseNonce := some (saturatingAdd u64Max nonce 1) }

/-- The closure of `claim_escrow_refund_inner` that takes up the stored draft or stores a
new one. -/
def draftRefundInState (externals : Externals) (sessionId : String) (session : SpawnSession)
    (escrow : String) (config : ReleaseBroadcastConfig) (pendingNonce : ℕ) :
    Update RefundDraft := do
  let state ← get
  match state.escrowClaims[sessionId]?.bind (·.refundBroadcast) with
  | some record =>
    let draftConfig ← ofExcept (validateRefundTransactionDraft externals record session.claimId
      session.stewardAddress config.ecdsaKeyName)
    return ⟨record.claimId, record.recipient, record.escrowContractAddress, draftConfig,
      record.nonce⟩
  | none =>
    let nonce := reservedNonce state.nextReleaseNonce pendingNonce
    let draft ← ofExcept (buildRefundTransactionDraft externals session.claimId
      session.stewardAddress escrow nonce config)
    modify (·.reserveNonce nonce)
    modify (·.persistRefundBroadcastRecord sessionId draft)
    return ⟨session.claimId, session.stewardAddress, escrow, config, nonce⟩

end Automaton.Factory
