import Automaton.Factory.Evidence
import Automaton.Factory.SessionTransitions

/-!
# Payment scans

A scan plan fixes a window of blocks for all sessions that wait for a payment. The logs of
the window are reconciled with the claims of these sessions: in one message on the host,
and in the canister by a plan of updates that are applied under staleness guards.
-/

namespace Automaton.Factory

open Machine Persist

/-- `payment_status_for_amount`. -/
def paymentStatusForAmount (totalPaid required : ℕ) : PaymentStatus :=
  if totalPaid ≥ required then .paid
  else if totalPaid > 0 then .partiallyPaid
  else .unpaid

/-- `finalize_payment_status_for_escrow`. -/
def finalizePaymentStatusForEscrow (paymentStatus : PaymentStatus)
    (blockHashesCanonical : Bool) : PaymentStatus :=
  if paymentStatus = .paid ∧ ¬ blockHashesCanonical then .partiallyPaid else paymentStatus

/-- The loop over the evidence that compares each block hash with the one that
`eth_get_block_hash_by_number` returns, up to the first difference. -/
def blockHashesCanonical (lookup : ℕ → Except FactoryError String) :
    List PaymentEvidenceBlock → Except FactoryError Bool
  | [] => .ok true
  | proof :: rest => do
    let canonicalBlockHash ← lookup proof.blockNumber
    if ¬ Text.eqIgnoreAsciiCase canonicalBlockHash proof.blockHash then return false
    blockHashesCanonical lookup rest

/-- The block hashes are looked up only for a complete payment, where endpoints are set. -/
def confirmBlockHashes (paymentStatus : PaymentStatus) (endpoints : List String)
    (lookup : ℕ → Except FactoryError String) (evidence : List PaymentEvidenceBlock) :
    Except FactoryError Bool :=
  if paymentStatus = .paid ∧ endpoints ≠ [] then blockHashesCanonical lookup evidence
  else .ok true

/-- What a scan finds out about the payment of one session. -/
structure ObservedPayment extends MergedEvidence where
  paymentStatus : PaymentStatus
  deriving DecidableEq, Repr

/-- The fallible steps of `reconcile_escrow_payments` for one session. They read the
session and its claim and write nothing. -/
def observePayment (amounts : DepositAmountsByClaim) (endpoints : List String)
    (lookup : ℕ → Except FactoryError String) (session : SpawnSession) (claim : EscrowClaim) :
    Except FactoryError ObservedPayment := do
  let merged ← mergedClaimEvidenceForSession claim amounts[session.claimId]?
  let required ← parseAmount session.grossAmount
  let paymentStatus := paymentStatusForAmount merged.totalPaid required
  let canonical ← confirmBlockHashes paymentStatus endpoints lookup merged.evidence
  return ⟨merged, finalizePaymentStatusForEscrow paymentStatus canonical⟩

/-- The cursor that a scan leaves behind. -/
def ObservedPayment.cursor (payment : ObservedPayment) (scanToBlock : ℕ) : ℕ :=
  max scanToBlock (payment.claimCursor.getD 0)

/-- A claim after a scan, before its flag follows the session. -/
@[simps]
def EscrowClaim.observe (claim : EscrowClaim) (payment : ObservedPayment)
    (scanToBlock nowMs : ℕ) : EscrowClaim :=
  { claim with
    paidAmount := amountToString payment.totalPaid
    paymentStatus := payment.paymentStatus
    paymentEvidence := payment.evidence
    paymentEvidenceBlockNumber := payment.evidence.getLast?.map (·.blockNumber)
    paymentEvidenceBlockHash := payment.evidence.getLast?.map (·.blockHash)
    paymentEvidenceIncrement :=
      if payment.incrementalPayment > 0 then some (amountToString payment.incrementalPayment)
      else none
    lastScannedBlock := some (payment.cursor scanToBlock)
    updatedAt := nowMs }

/-- A session after a scan, before its flags are derived. -/
@[simps]
def SpawnSession.observe (session : SpawnSession) (payment : ObservedPayment)
    (scanToBlock nowMs : ℕ) : SpawnSession :=
  { session with
    paymentStatus := payment.paymentStatus
    lastScannedBlock := some (payment.cursor scanToBlock)
    updatedAt := nowMs }

/-- The writes of `reconcile_escrow_payments` to the claim and the session. -/
def recordPayment (sessionId : String) (payment : ObservedPayment) (scanToBlock nowMs : ℕ) :
    Update SpawnSession := do
  let _ ← getClaim sessionId
  modify (·.updateClaim sessionId (·.observe payment scanToBlock nowMs))
  let _ ← getSession sessionId
  modify (·.updateSession sessionId (·.observe payment scanToBlock nowMs))
  syncSessionDerivedFlagsInState sessionId nowMs

/-- What `reconcile_escrow_payments` does about a payment that is complete in time. -/
def detectPayment (sessionId : String) (nowMs : ℕ) : Update Unit := do
  let _ ← applySessionEventInState sessionId .system nowMs .paymentObserved
    "payment detected from Base logs"
  modify (·.enqueueSpawnExecution sessionId nowMs)

/-- The rest of an iteration of `reconcile_escrow_payments`: the events that follow from
the payment and from the time. -/
def advanceAfterPayment (sessionId : String) (paymentDetected : Bool) (expiresAt nowMs : ℕ) :
    Update EscrowClaim := do
  when paymentDetected (detectPayment sessionId nowMs)
  when (nowMs > expiresAt) (discard
    (expireSessionInState sessionId .system nowMs "payment scan observed expired session"))
  getClaim sessionId

/-- The answers of `eth_get_block_hash_by_number`, for each session and block. -/
abbrev BlockHashes := String → ℕ → Except FactoryError String

/-- One iteration of the loop of `reconcile_escrow_payments` on the host. -/
def reconcileSession (amounts : DepositAmountsByClaim) (endpoints : List String)
    (blockHashes : BlockHashes) (scanToBlock nowMs : ℕ) (sessionId : String) :
    Update EscrowClaim := do
  let session ← getSession sessionId
  let priorClaim ← getClaim sessionId
  let payment ← ofExcept
    (observePayment amounts endpoints (blockHashes sessionId) session priorClaim)
  let paymentDetected := session.state = .awaitingPayment && payment.paymentStatus = .paid &&
    nowMs ≤ session.expiresAt
  let _ ← recordPayment sessionId payment scanToBlock nowMs
  advanceAfterPayment sessionId paymentDetected session.expiresAt nowMs

/-- The sessions that wait for a payment, in the order of their ids. -/
def activeSessionIds (state : FactoryState) : List String :=
  (state.sessions.toList.filter fun entry => sessionNeedsPaymentPoll entry.2).map (·.1)

/-- The endpoints that block hashes are looked up with. -/
def FactoryState.paymentEndpoints (state : FactoryState) : List String :=
  configuredRpcEndpoints state.baseRpcEndpoint state.baseRpcFallbackEndpoint

/-- The first write of `reconcile_escrow_payments`. -/
@[simps]
def FactoryState.withScanCursor (state : FactoryState) (scanToBlock : ℕ) : FactoryState :=
  { state with paymentLastScannedBlock := some scanToBlock }

/-- The closure of `reconcile_escrow_payments` on the host. -/
def reconcileInState (amounts : DepositAmountsByClaim) (blockHashes : BlockHashes)
    (scanToBlock nowMs : ℕ) : Update (List EscrowClaim) := do
  modify (·.withScanCursor scanToBlock)
  let state ← get
  let updatedClaims ← (activeSessionIds state).mapM
    (reconcileSession amounts state.paymentEndpoints blockHashes scanToBlock nowMs)
  modify (·.syncPaymentPollJob nowMs)
  return updatedClaims

/-- `reconcile_escrow_payments` on the host. The deletion of stored provider secrets that
follows a success touches no field of the state. -/
def reconcileEscrowPayments (logs : List BaseDepositLog) (blockHashes : BlockHashes)
    (scanToBlock nowMs : ℕ) : Update (List EscrowClaim) := do
  let amounts ← ofExcept (amountsByClaim logs)
  reconcileInState amounts blockHashes scanToBlock nowMs

/-- `BASE_LOG_WINDOW_LIMIT`. -/
def baseLogWindowLimit : ℕ := 10000

/-- `PaymentScanPlan`. -/
structure PaymentScanPlan where
  claimIds : List String
  fromBlock : ℕ
  toBlock : ℕ
  deriving DecidableEq, Repr

/-- The sessions that wait for a payment. -/
def activeSessions (state : FactoryState) : List SpawnSession :=
  (state.sessions.toList.map (·.2)).filter sessionNeedsPaymentPoll

/-- The first block that some active session has not seen. -/
def firstUnscannedBlock (state : FactoryState) : Option ℕ :=
  ((activeSessions state).filterMap fun session =>
    session.lastScannedBlock.map (saturatingAdd u64Max · 1)).min?

/-- `next_payment_scan_plan`. -/
def nextPaymentScanPlan (state : FactoryState) (latestBlock : ℕ) : Option PaymentScanPlan :=
  let confirmationsToWait := state.evmConfirmationDepth - 1
  if activeSessions state = [] then none
  else if state.evmConfirmationDepth = 0 then none
  else if latestBlock < confirmationsToWait then none
  else
    let safeHeadBlock := latestBlock - confirmationsToWait
    let fallbackFromBlock := safeHeadBlock - (baseLogWindowLimit - 1)
    let fromBlock := ((firstUnscannedBlock state).or
      (state.paymentLastScannedBlock.map (saturatingAdd u64Max · 1))).getD fallbackFromBlock
    let fromBlock := min fromBlock safeHeadBlock
    some {
      claimIds := ((activeSessions state).map (·.claimId)).dedup.insertionSort (· ≤ ·)
      fromBlock := fromBlock
      toBlock := min (saturatingAdd u64Max fromBlock (baseLogWindowLimit - 1)) safeHeadBlock }

end Automaton.Factory
