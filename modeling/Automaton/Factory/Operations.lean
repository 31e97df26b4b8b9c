import Automaton.Factory.CanisterScan
import Automaton.Factory.SpawnRelease
import Automaton.Factory.Steward

/-!
# The writes of the factory

Every closure that sessions, payments, refunds and spawns give to `write_state`, as one type
of operations. A message of the canister performs some of them, one after the other.
-/

namespace Automaton.Factory

open Persist

/-- What the factory takes from libraries: hashes, signatures and encoders. -/
structure Libraries extends Externals, SessionExternals

/-- The closures of `write_state`. The writes of a refund command carry its session and
generation, those of a release its session and draft guard. -/
inductive Op
  | createSpawnSession (request : CreateSpawnSessionRequest) (sessionId : String)
      (origin : SessionOrigin) (nowMs : ℕ)
  | reconcileEscrowPayments (logs : List BaseDepositLog) (blockHashes : BlockHashes)
      (scanToBlock nowMs : ℕ)
  | applyPaymentScan (nowMs : ℕ) (updates : List (EscrowPaymentScanUpdate nowMs))
      (scanToBlock : ℕ)
  | authorizeAndConsume (command : FactoryStewardCommand) (proof : FactoryStewardProof)
      (canisterId : String) (nowNs nowMs : ℕ)
  | clearRefundInFlight (sessionId : String) (generation : ℕ)
  | persistRefundBroadcastRecord (sessionId : String) (generation : ℕ)
      (record : ReleaseBroadcastRecord)
  | persistRefundTransactionRecord (claimId : String) (record : ReleaseBroadcastRecord)
      (sessionId : String) (generation : ℕ)
  | draftRefund (sessionId : String) (generation : ℕ) (session : SpawnSession) (escrow : String)
      (config : ReleaseBroadcastConfig) (pendingNonce : ℕ)
  | finalizeEscrowRefund (sessionId : String) (generation nowMs : ℕ) (refundTxHash : String)
  | setFactoryEvmAddress (address : String) (nowMs : ℕ)
  | startSpawn (sessionId : String) (nowMs : ℕ)
  | failSpawn (sessionId : String) (nowMs : ℕ) (reason : String)
      (runtime : Option AutomatonRuntimeState) (error : FactoryError)
  | persistSpawnRuntime (sessionId : String) (runtime : AutomatonRuntimeState)
  | installSucceeded (sessionId : String) (canisterId evmAddress : Option String)
      (installed : Option AutomatonRuntimeState) (nowMs : ℕ) (reason : String)
  | reserveReleaseNonce (pending : ℕ)
  | persistReleaseBroadcastRecord (sessionId : String) (guard : SpawnReleaseDraftGuard)
      (record : ReleaseBroadcastRecord)
  | finalizeConfirmedRelease (sessionId : String) (guard : SpawnReleaseDraftGuard)
      (release : ConfirmedRelease)
  | retryFailedSession (sessionId : String) (actor : SessionAuditActor) (nowMs : ℕ)
      (reason : String)
  | markSessionFailed (sessionId : String) (actor : SessionAuditActor) (nowMs : ℕ)
      (reason : String)
  | expireSpawnSession (sessionId : String) (nowMs : ℕ)

/-- What the closures return. -/
def Op.Result : Op → Type
  | .createSpawnSession .. => SpawnSession
  | .reconcileEscrowPayments .. => List EscrowClaim
  | .applyPaymentScan .. => List EscrowClaim
  | .authorizeAndConsume .. => SpawnSession ⊕ ℕ
  | .clearRefundInFlight .. => Unit
  | .persistRefundBroadcastRecord .. => Unit
  | .persistRefundTransactionRecord .. => Unit
  | .draftRefund .. => RefundDraft
  | .finalizeEscrowRefund .. => RefundSpawnResponse
  | .setFactoryEvmAddress .. => Unit
  | .startSpawn .. => SpawnSession
  | .failSpawn .. => SpawnSession
  | .persistSpawnRuntime .. => Unit
  | .installSucceeded .. => SpawnSession
  | .reserveReleaseNonce .. => ℕ
  | .persistReleaseBroadcastRecord .. => Unit
  | .finalizeConfirmedRelease .. => SpawnSession
  | .retryFailedSession .. => SpawnSession
  | .markSessionFailed .. => SpawnSession
  | .expireSpawnSession .. => SpawnSession

variable (libraries : Libraries)

/-- What the closures do. -/
def Op.perform : (op : Op) → Update op.Result
  | .createSpawnSession request sessionId origin nowMs =>
    createSpawnSessionWithSessionId libraries.toSessionExternals request sessionId origin nowMs
  | .reconcileEscrowPayments logs blockHashes scanToBlock nowMs =>
    Factory.reconcileEscrowPayments logs blockHashes scanToBlock nowMs
  | .applyPaymentScan _ updates scanToBlock => Factory.applyPaymentScan updates scanToBlock
  | .authorizeAndConsume command proof canisterId nowNs nowMs =>
    Factory.authorizeAndConsume libraries.toExternals command proof canisterId nowNs nowMs
  | .clearRefundInFlight sessionId generation => modify (·.clearRefundInFlight sessionId generation)
  | .persistRefundBroadcastRecord sessionId generation record =>
    writeRefundGuarded sessionId generation
      (modify (·.persistRefundBroadcastRecord sessionId record))
  | .persistRefundTransactionRecord claimId record sessionId generation =>
    persistRefundTransactionRecordGuarded claimId record sessionId generation
  | .draftRefund sessionId generation session escrow config pendingNonce =>
    writeRefundGuarded sessionId generation
      (draftRefundInState libraries.toExternals sessionId session escrow config pendingNonce)
  | .finalizeEscrowRefund sessionId generation nowMs refundTxHash =>
    writeRefundGuarded sessionId generation
      (finalizeEscrowRefundInState sessionId nowMs refundTxHash)
  | .setFactoryEvmAddress address nowMs => modify (·.withFactoryEvmAddress address nowMs)
  | .startSpawn sessionId nowMs =>
    applySessionEventInState sessionId .system nowMs .spawnStarted "spawn execution started"
  | .failSpawn sessionId nowMs reason runtime error =>
    failSpawnInState libraries.toExternals sessionId nowMs reason runtime error
  | .persistSpawnRuntime sessionId runtime =>
    modify (·.persistFailedSpawnRuntime sessionId runtime)
  | .installSucceeded sessionId canisterId evmAddress installed nowMs reason =>
    installSucceededInState sessionId canisterId evmAddress installed nowMs reason
  | .reserveReleaseNonce pending => reserveReleaseNonceInState pending
  | .persistReleaseBroadcastRecord sessionId guard record =>
    writeReleaseGuarded sessionId guard (modify (·.persistReleaseBroadcastRecord sessionId record))
  | .finalizeConfirmedRelease sessionId guard release =>
    Factory.finalizeConfirmedRelease libraries.toExternals sessionId guard release
  | .retryFailedSession sessionId actor nowMs reason =>
    retrySpawnSessionInState sessionId actor nowMs reason
  | .markSessionFailed sessionId actor nowMs reason =>
    markSessionFailedInState sessionId actor nowMs reason
  | .expireSpawnSession sessionId nowMs =>
    expireSessionInState sessionId .system nowMs "session expired"

/-- The state after an operation, whether it succeeds or fails. -/
def Op.apply (op : Op) (state : FactoryState) : FactoryState := after (op.perform libraries) state

/-- The libraries of the samples: the claim ids are those of the first two sessions, and
everything that is signed is signed by the steward of the sample request. No sample depends
on the values of hashes. -/
def sampleLibraries : Libraries where
  toSessionExternals := sampleExternals
  keccak256 _ := List.replicate 32 0
  sha256Hex _ := ""
  deriveSignedRecid _ _ _ := .ok false
  deriveEvmAddressFromPublicKey _ := .ok "0x4444444444444444444444444444444444444444"
  recoverSigner _ _ := .ok "0x3333333333333333333333333333333333333333"
  candidEncode label sessionId := (label ++ sessionId).toUTF8.toList
  parsePrincipal _ := .ok ()
  errorText _ := "error"

end Automaton.Factory
