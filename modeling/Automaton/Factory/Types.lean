import Automaton.Factory.Error
import Automaton.Library.BTreeMap
import Automaton.Library.Decimal
import Automaton.Library.Machine

/-!
# Data of the factory

The records that sessions, escrow claims, automatons and scheduler jobs are kept in.
Amounts are decimal texts, as in storage; times, block numbers and other 64-bit values
are natural numbers, with the largest value written out where an operation saturates.
-/

namespace Automaton.Factory

open Machine

/-- `SpawnChain`. -/
inductive SpawnChain
  | base
  deriving DecidableEq, Repr

/-- `SpawnAsset`. -/
inductive SpawnAsset
  | usdc
  deriving DecidableEq, Repr

/-- `SessionAuditActor`. -/
inductive SessionAuditActor
  | system
  | user
  | admin
  deriving DecidableEq, Repr

/-- `SpawnSessionOrigin`. -/
inductive SpawnSessionOrigin
  | human
  | reproductionOf (parentId : String)
  deriving DecidableEq, Repr

/-- `RoyaltyAllocation`. -/
structure RoyaltyAllocation where
  recipient : String
  amount : String
  depth : ℕ
  source : String
  deriving DecidableEq, Repr

/-- `SpawnConfig`, without the provider settings that only the installer reads. -/
structure SpawnConfig where
  chain : SpawnChain
  risk : ℕ
  strategies : List String
  skills : List String
  model : Option String
  deriving DecidableEq, Repr

/-- `ReleaseBroadcastConfig`. -/
structure ReleaseBroadcastConfig where
  chainId : ℕ
  maxPriorityFeePerGas : ℕ
  maxFeePerGas : ℕ
  gasLimit : ℕ
  ecdsaKeyName : String
  deriving DecidableEq, Repr

/-- `ReleaseBroadcastConfig::default`. -/
def ReleaseBroadcastConfig.default : ReleaseBroadcastConfig where
  chainId := 8453
  maxPriorityFeePerGas := 1000000000
  maxFeePerGas := 3000000000
  gasLimit := 250000
  ecdsaKeyName := "key_1"

/-- `ReleaseBroadcastStage`. -/
inductive ReleaseBroadcastStage
  | calldataEncoding
  | signingPayloadConstruction
  | publicKeyLookup
  | signing
  | signatureRecovery
  | rawTransactionConstruction
  | rpcBroadcast
  | receiptConfirmation
  deriving DecidableEq, Repr

/-- `ReleaseSignatureRecord`. -/
structure ReleaseSignatureRecord where
  yParity : Bool
  r : String
  s : String
  deriving DecidableEq, Repr

/-- `ReleaseBroadcastFailure`. -/
structure ReleaseBroadcastFailure where
  stage : ReleaseBroadcastStage
  message : String
  rpcCategory : Option RpcFailureCategory
  rpcCode : Option ℤ
  rpcEndpoint : Option String
  occurredAt : ℕ
  deriving DecidableEq, Repr

/-- `ReleaseBroadcastRecord`. -/
structure ReleaseBroadcastRecord where
  claimId : String
  recipient : String
  escrowContractAddress : String
  nonce : ℕ
  chainId : ℕ
  maxPriorityFeePerGas : ℕ
  maxFeePerGas : ℕ
  gasLimit : ℕ
  ecdsaKeyName : Option String
  calldataHex : String
  signingPayloadHash : Option String
  signature : Option ReleaseSignatureRecord
  rawTransactionHash : Option String
  rawTransactionHex : Option String
  rpcTxHash : Option String
  broadcastAt : Option ℕ
  receiptBlockNumber : Option ℕ
  receiptBlockHash : Option String
  receiptStatus : Option Bool
  lastError : Option ReleaseBroadcastFailure
  deriving DecidableEq, Repr

/-- `PaymentEvidenceBlock`. -/
structure PaymentEvidenceBlock where
  blockNumber : ℕ
  blockHash : String
  amount : String
  deriving DecidableEq, Repr

/-- `EscrowClaim`. -/
structure EscrowClaim where
  sessionId : String
  claimId : String
  quoteTermsHash : String
  paymentAddress : String
  chain : SpawnChain
  asset : SpawnAsset
  requiredGrossAmount : String
  paidAmount : String
  paymentStatus : PaymentStatus
  lastScannedBlock : Option ℕ
  paymentEvidenceBlockNumber : Option ℕ
  paymentEvidenceBlockHash : Option String
  paymentEvidenceIncrement : Option String
  paymentEvidence : List PaymentEvidenceBlock
  refundable : Bool
  refundedAt : Option ℕ
  refundBroadcast : Option ReleaseBroadcastRecord
  createdAt : ℕ
  updatedAt : ℕ
  deriving DecidableEq, Repr

/-- `AutomatonBootstrapVerification`, with the part of the evidence that the factory
changes after the birth. -/
structure AutomatonBootstrapVerification where
  checkedAt : ℕ
  passed : Bool
  bootstrapConstitution : Option String
  bootstrapConstitutionHash : Option String
  failures : List String
  deriving DecidableEq, Repr

/-- `AutomatonRuntimeState`. -/
structure AutomatonRuntimeState where
  canisterId : String
  evmAddress : String
  stewardAddress : String
  sessionId : String
  initializedAt : ℕ
  installSucceededAt : Option ℕ
  evmAddressDerivedAt : Option ℕ
  controllerHandoffCompletedAt : Option ℕ
  fundedAmount : String
  lastFundedAt : Option ℕ
  chain : SpawnChain
  risk : ℕ
  strategies : List String
  skills : List String
  model : Option String
  providerKeysCleared : Bool
  bootstrapVerification : Option AutomatonBootstrapVerification
  deriving DecidableEq, Repr

/-- `SpawnSession`, without the memories, statistics and strategy snapshots that are
copied from the request and read only when the child is installed. -/
structure SpawnSession where
  name : Option String
  constitution : Option String
  sessionId : String
  claimId : String
  stewardAddress : String
  chain : SpawnChain
  asset : SpawnAsset
  grossAmount : String
  platformFee : String
  creationCost : String
  netForwardAmount : String
  quoteTermsHash : String
  expiresAt : ℕ
  state : SpawnSessionState
  retryable : Bool
  refundable : Bool
  paymentStatus : PaymentStatus
  lastScannedBlock : Option ℕ
  automatonCanisterId : Option String
  automatonEvmAddress : Option String
  releaseTxHash : Option String
  releaseBroadcastAt : Option ℕ
  releaseBroadcast : Option ReleaseBroadcastRecord
  parentId : Option String
  origin : Option SpawnSessionOrigin
  generation : Option ℕ
  parentConstitutionHash : Option String
  royaltyAllocations : Option (List RoyaltyAllocation)
  childIds : List String
  config : SpawnConfig
  createdAt : ℕ
  updatedAt : ℕ
  deriving DecidableEq, Repr

/-- `SchedulerJobKind`. -/
inductive SchedulerJobKind
  | paymentPoll
  | spawnExecution (sessionId : String)
  deriving DecidableEq, Repr

/-- `SchedulerJobStatus`. -/
inductive SchedulerJobStatus
  | pending
  | running
  | completed
  | backoff
  | skipped
  | terminal
  deriving DecidableEq, Repr

/-- `SchedulerFailureAction`. -/
inductive SchedulerFailureAction
  | retry
  | backoff
  | skip
  | terminal
  deriving DecidableEq, Repr

/-- `SchedulerFailureSource`. -/
inductive SchedulerFailureSource
  | missingConfig
  | invalidConfig
  | deterministic
  | transient
  deriving DecidableEq, Repr

/-- `SchedulerJobFailure`. -/
structure SchedulerJobFailure where
  action : SchedulerFailureAction
  source : SchedulerFailureSource
  message : String
  occurredAt : ℕ
  deriving DecidableEq, Repr

/-- `SchedulerJob`. -/
structure SchedulerJob where
  jobId : String
  kind : SchedulerJobKind
  status : SchedulerJobStatus
  nextRunAtMs : Option ℕ
  leasedAtMs : Option ℕ
  leasedUntilMs : Option ℕ
  lastStartedAtMs : Option ℕ
  lastFinishedAtMs : Option ℕ
  attemptCount : ℕ
  consecutiveFailureCount : ℕ
  successCount : ℕ
  lastError : Option SchedulerJobFailure
  deriving DecidableEq, Repr

/-- `SessionAuditEntry`. -/
structure SessionAuditEntry where
  sessionId : String
  timestamp : ℕ
  fromState : Option SpawnSessionState
  toState : SpawnSessionState
  actor : SessionAuditActor
  reason : String
  deriving DecidableEq, Repr

/-- `SpawnedAutomatonRecord`. Of the mortality record only the cause is read. -/
structure SpawnedAutomatonRecord where
  name : Option String
  constitutionHash : Option String
  canisterId : String
  stewardAddress : String
  evmAddress : String
  chain : SpawnChain
  sessionId : String
  parentId : Option String
  generation : Option ℕ
  parentConstitutionHash : Option String
  royaltyAllocations : Option (List RoyaltyAllocation)
  childIds : List String
  createdAt : ℕ
  versionCommit : String
  controllers : Option (List String)
  controlStatus : Option String
  controlVerifiedAt : Option ℕ
  deathCause : Option String
  deriving DecidableEq, Repr

/-- `parse_amount`. -/
def parseAmount (value : String) : Except FactoryError ℕ :=
  match Decimal.parseUnsigned u128Max value with
  | some amount => .ok amount
  | none => .error (.invalidAmount value)

/-- `amount_to_string`. -/
def amountToString (value : ℕ) : String := toString value

/-- A printed amount is parsed back, when it fits 128 bits. -/
theorem parseAmount_amountToString {value : ℕ} (hfits : value ≤ u128Max) :
    parseAmount (amountToString value) = .ok value := by
  rw [parseAmount, amountToString, Decimal.parseUnsigned_toString, if_pos hfits]

/-- Nothing else is parsed from a printed amount. -/
theorem eq_of_parseAmount_amountToString {value amount : ℕ}
    (h : parseAmount (amountToString value) = .ok amount) : amount = value := by
  rw [parseAmount, amountToString, Decimal.parseUnsigned_toString] at h
  by_cases hfits : value ≤ u128Max
  · rw [if_pos hfits] at h
    exact (Except.ok.inj h).symm
  · rw [if_neg hfits] at h
    cases h

/-- A parsed amount fits 128 bits. -/
theorem parseAmount_le {text : String} {value : ℕ} (h : parseAmount text = .ok value) :
    value ≤ u128Max := by
  unfold parseAmount at h
  split at h
  · rename_i amount hparse
    exact Except.ok.inj h ▸ Decimal.parseUnsigned_le hparse
  · cases h

end Automaton.Factory
