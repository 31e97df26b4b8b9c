import Automaton.Agent.Tasks
import Automaton.Util

/-!
# Cycle top-up

The stages that turn USDC on Base into cycles. Each stage asks remote parties, and their answers
decide which stage is next.
-/

namespace Automaton.Agent

open Machine

/-- `TOPUP_MIN_OPERATIONAL_CYCLES`. -/
def topupMinOperationalCycles : ℕ := 250000000000

/-- `TOPUP_MIN_USDC_AVAILABLE_RAW`. -/
def topupMinUsdcAvailableRaw : ℕ := 10000000

/-- `TOPUP_FAILED_RECOVERY_BACKOFF_SECS`. -/
def topupFailedRecoveryBackoffSecs : ℕ := 120

/-- `TopUpConfig`, as far as it decides between stages. -/
structure TopUpConfig where
  minUsdcReserve : ℕ
  maxUsdcPerTopup : ℕ
  maxBridgePolls : ℕ
  lockConfirmations : ℕ
  deriving DecidableEq, Repr

/-- `TopUpConfig::default`. -/
def TopUpConfig.default : TopUpConfig where
  minUsdcReserve := 10000000
  maxUsdcPerTopup := 50000000
  maxBridgePolls := 60
  lockConfirmations := 12

/-- `TopUpStage`. -/
inductive TopUpStage
  | preflight
  | approvingLocker (usdcAmount : ℕ)
  | waitingApprovalConfirmation (usdcAmount : ℕ) (txHash : String)
  | lockingUsdc (usdcAmount : ℕ)
  | waitingLockConfirmation (usdcAmount : ℕ) (txHash : String) (confirmations : ℕ)
  | validatingOnOnesec (usdcAmount : ℕ) (txHash : String)
  | waitingForBridgedUsdc (usdcAmount transferId polls : ℕ)
  | approvingKongSwap (bridgedUsdcAmount usdcSpent : ℕ)
  | swappingToIcp (bridgedUsdcAmount usdcSpent : ℕ)
  | transferringToCmc (icpAmount usdcSpent : ℕ)
  | mintingCycles (blockIndex usdcSpent : ℕ)
  | completed (cyclesMinted usdcSpent completedAtNs : ℕ)
  | failed (stage error : String) (failedAtNs attempts : ℕ)
  deriving DecidableEq, Repr

/-- `stage_name`. -/
def TopUpStage.stageName : TopUpStage → String
  | preflight => "Preflight"
  | approvingLocker _ => "ApprovingLocker"
  | waitingApprovalConfirmation _ _ => "WaitingApprovalConfirmation"
  | lockingUsdc _ => "LockingUSDC"
  | waitingLockConfirmation _ _ _ => "WaitingLockConfirmation"
  | validatingOnOnesec _ _ => "ValidatingOnOnesec"
  | waitingForBridgedUsdc _ _ _ => "WaitingForBridgedUSDC"
  | approvingKongSwap _ _ => "ApprovingKongSwap"
  | swappingToIcp _ _ => "SwappingToICP"
  | transferringToCmc _ _ => "TransferringToCMC"
  | mintingCycles _ _ => "MintingCycles"
  | completed _ _ _ => "Completed"
  | failed _ _ _ _ => "Failed"

/-- `is_waiting`. -/
def TopUpStage.isWaiting : TopUpStage → Bool
  | waitingApprovalConfirmation _ _ | waitingLockConfirmation _ _ _
  | waitingForBridgedUsdc _ _ _ => true
  | _ => false

/-- `is_terminal`. -/
def TopUpStage.isTerminal : TopUpStage → Bool
  | completed _ _ _ | failed _ _ _ _ => true
  | _ => false

/-- `Token`. -/
inductive OnesecToken
  | icp | usdc | usdt | ckBtc | cbBtc | bob | gldt
  deriving DecidableEq, Repr

/-- `EvmChain`. -/
inductive OnesecChain
  | base | ethereum | arbitrum
  deriving DecidableEq, Repr

/-- `TransferFee`. -/
structure TransferFee where
  token : OnesecToken
  evmChain : OnesecChain
  minAmount : ℕ
  maxAmount : ℕ
  deriving DecidableEq, Repr

/-- The result of `eth_getTransactionReceipt`. -/
inductive TransactionReceipt
  | null
  | noObject
  | object (status blockNumber : Option String)
  deriving DecidableEq, Repr

/-- `TransferResponse`. -/
inductive TransferResponse
  | accepted (transferId : ℕ)
  | failed (error : String)
  | fetching (blockHeight : ℕ)
  deriving DecidableEq, Repr

/-- `BridgeTransferStatus`. -/
inductive BridgeTransferStatus
  | pending
  | fetching
  | succeeded (amount : ℕ)
  | failed (error : String)
  deriving DecidableEq, Repr

/-- `SwapReply`, as far as it is read. -/
structure SwapReply where
  status : String
  receiveAmount : ℕ
  deriving DecidableEq, Repr

/-- What the remote parties answer to the calls of one stage. A call that fails answers with its
error; errors that a ledger or the CMC returns are given as they are printed. -/
structure TopUpAnswers where
  cycleBalance : ℕ
  usdcBalance : Except String String
  transferFees : Except String (List TransferFee)
  signedTransaction : Except String Unit
  sentTransaction : Except String String
  receipt : Except String TransactionReceipt
  blockNumber : Except String String
  transferEvmToIcp : Except String TransferResponse
  getTransfer : Except String BridgeTransferStatus
  icrc2Approve : Except String (Except String ℕ)
  swap : Except String (Except String SwapReply)
  icrc1Transfer : Except String (Except String ℕ)
  notifyTopUp : Except String (Except String ℕ)

/-- `nat_to_u64`. -/
def natToU64 (value : ℕ) (field : String) : Except String ℕ :=
  if value ≤ u64Max then .ok value else .error (field ++ " exceeds u64")

/-- `nat_to_u128`. -/
def natToU128 (value : ℕ) (field : String) : Except String ℕ :=
  if value ≤ u128Max then .ok value else .error (field ++ " exceeds u128")

/-- The digits that `normalize_hex_quantity` finds after the prefix. -/
def hexQuantityDigits (raw field : String) : Except String (List Char) :=
  match Text.stripPrefix? "0x" (Text.toAsciiLowercase (Text.trim raw)) with
  | none => .error (field ++ " must be 0x-prefixed hex")
  | some digits =>
    if digits.toList.all Text.isHexDigit then .ok digits.toList
    else .error (field ++ " must be valid hex")

/-- `parse_hex_u64` and `parse_hex_u128`: a quantity of a type with a name and a largest value. -/
def parseHexQuantity (typeName : String) (largest : ℕ) (raw field : String) : Except String ℕ :=
  match hexQuantityDigits raw field with
  | .error error => .error error
  | .ok digits => (Hex.parseUnsigned largest digits).elim
      (.error ("failed to parse " ++ field ++ " as hex " ++ typeName ++
        ": number too large to fit in target type")) .ok

/-- `parse_hex_u64`. -/
def parseHexU64 (raw field : String) : Except String ℕ := parseHexQuantity "u64" u64Max raw field

/-- `parse_hex_u128`. -/
def parseHexU128 (raw field : String) : Except String ℕ :=
  parseHexQuantity "u128" u128Max raw field

/-- `find_usdc_base_fee`. -/
def findUsdcBaseFee (fees : List TransferFee) : Except String TransferFee :=
  (fees.find? fun fee => fee.token = .usdc && fee.evmChain = .base).elim
    (.error "missing Onesec USDC/Base fee") .ok

/-- `evm_send_transaction`: the nonce, the gas price and the signature come before the transaction
is sent. -/
def TopUpAnswers.sendTransaction (answers : TopUpAnswers) : Except String String := do
  answers.signedTransaction
  normalizeHexBlob (← answers.sentTransaction) "eth_sendRawTransaction result"

section Stages

variable (config : TopUpConfig) (answers : TopUpAnswers)

/-- `preflight`. -/
def preflight : Except String TopUpStage := do
  if answers.cycleBalance < topupMinOperationalCycles then
    throw ("insufficient cycles for top-up operation: need at least " ++
      toString topupMinOperationalCycles)
  let balance ← parseHexU128 (← answers.usdcBalance) "USDC balance"
  if u64Max < balance then throw "USDC balance exceeds u64"
  let available := balance - config.minUsdcReserve
  if available < topupMinUsdcAvailableRaw then
    throw ("USDC available (" ++ toString available ++ ") below minimum " ++
      toString topupMinUsdcAvailableRaw)
  let usdcAmount := min available config.maxUsdcPerTopup
  let fee ← findUsdcBaseFee (← answers.transferFees)
  let minAmount ← natToU64 fee.minAmount "Onesec fee min_amount"
  let maxAmount ← natToU64 fee.maxAmount "Onesec fee max_amount"
  if usdcAmount < minAmount ∨ maxAmount < usdcAmount then
    throw ("amount " ++ toString usdcAmount ++ " outside Onesec bounds [" ++ toString minAmount ++
      ", " ++ toString maxAmount ++ "]")
  return .approvingLocker usdcAmount

/-- `approve_locker`. -/
def approveLocker (usdcAmount : ℕ) : Except String TopUpStage := do
  return .waitingApprovalConfirmation usdcAmount (← answers.sendTransaction)

/-- The number of confirmations that `poll_tx` reads from a receipt. -/
def receiptConfirmations (blockNumber : Option String) (requiredConfirmations : ℕ) :
    Except String ℕ := do
  if requiredConfirmations ≤ 1 then return 1
  let receiptBlock ← parseHexU64
    (← blockNumber.elim (.error "receipt missing blockNumber") .ok) "receipt blockNumber"
  let latestBlock ← parseHexU64 (← answers.blockNumber) "eth_blockNumber"
  if latestBlock < receiptBlock then throw "latest block is behind receipt block"
  return saturatingAdd u64Max (latestBlock - receiptBlock) 1

/-- `poll_tx`: the number of confirmations, or `none` when the transaction has no receipt. -/
def pollTx (txHash : String) (requiredConfirmations : ℕ) : Except String (Option ℕ) := do
  let _ ← normalizeHexBlob txHash "tx hash"
  match ← answers.receipt with
  | .null => return none
  | .noObject => throw "eth_getTransactionReceipt result must be object or null"
  | .object status blockNumber =>
    if let some status := status then
      if (← parseHexU64 status "receipt status") = 0 then
        throw ("transaction reverted: " ++ txHash)
    return some (← receiptConfirmations answers blockNumber requiredConfirmations)

/-- `poll_tx` of the approval. -/
def pollApproval (usdcAmount : ℕ) (txHash : String) : Except String TopUpStage := do
  match ← pollTx answers txHash 1 with
  | none => return .waitingApprovalConfirmation usdcAmount txHash
  | some confirmations =>
    if confirmations < 1 then return .waitingApprovalConfirmation usdcAmount txHash
    return .lockingUsdc usdcAmount

/-- `poll_tx` of the lock. -/
def pollLock (usdcAmount : ℕ) (txHash : String) (known : ℕ) : Except String TopUpStage := do
  match ← pollTx answers txHash config.lockConfirmations with
  | none => return .waitingLockConfirmation usdcAmount txHash known
  | some confirmations =>
    if confirmations < config.lockConfirmations then
      return .waitingLockConfirmation usdcAmount txHash (min confirmations 255)
    return .validatingOnOnesec usdcAmount txHash

/-- `lock_usdc`. -/
def lockUsdc (usdcAmount : ℕ) : Except String TopUpStage := do
  return .waitingLockConfirmation usdcAmount (← answers.sendTransaction) 0

/-- `validate_on_onesec`. -/
def validateOnOnesec (usdcAmount : ℕ) (txHash : String) : Except String TopUpStage := do
  let _ ← normalizeHexBlob txHash "lock tx hash"
  match ← answers.transferEvmToIcp with
  | .accepted transferId => return .waitingForBridgedUsdc usdcAmount transferId 0
  | .fetching _ => return .validatingOnOnesec usdcAmount txHash
  | .failed error => throw ("transfer_evm_to_icp failed: " ++ error)

/-- `poll_bridge`. -/
def pollBridge (usdcAmount transferId polls : ℕ) : Except String TopUpStage := do
  if config.maxBridgePolls ≤ polls then
    throw ("bridge polling exceeded max attempts for transfer " ++ toString transferId)
  match ← answers.getTransfer with
  | .pending | .fetching =>
    return .waitingForBridgedUsdc usdcAmount transferId (saturatingAdd 255 polls 1)
  | .failed error => throw ("bridge transfer failed: " ++ error)
  | .succeeded amount =>
    return .approvingKongSwap (← natToU64 amount "bridged USDC amount") usdcAmount

/-- `approve_kongswap`. -/
def approveKongSwap (bridgedUsdcAmount usdcSpent : ℕ) : Except String TopUpStage := do
  match ← answers.icrc2Approve with
  | .ok _ => return .swappingToIcp bridgedUsdcAmount usdcSpent
  | .error error => throw ("icrc2_approve failed: " ++ error)

/-- `swap_to_icp`. -/
def swapToIcp (usdcSpent : ℕ) : Except String TopUpStage := do
  match ← answers.swap with
  | .error error => throw ("swap failed: " ++ error)
  | .ok reply =>
    if !Text.eqIgnoreAsciiCase reply.status "success" then
      throw ("swap status was " ++ reply.status)
    return .transferringToCmc (← natToU64 reply.receiveAmount "swap receive_amount") usdcSpent

/-- `transfer_to_cmc`. -/
def transferToCmc (usdcSpent : ℕ) : Except String TopUpStage := do
  match ← answers.icrc1Transfer with
  | .ok blockIndex =>
    return .mintingCycles (← natToU64 blockIndex "icrc1_transfer block index") usdcSpent
  | .error error => throw ("icrc1_transfer failed: " ++ error)

/-- `mint_cycles`. -/
def mintCycles (usdcSpent nowNs : ℕ) : Except String TopUpStage := do
  match ← answers.notifyTopUp with
  | .ok cyclesMinted =>
    return .completed (← natToU128 cyclesMinted "notify_top_up cycles minted") usdcSpent nowNs
  | .error error => throw ("notify_top_up failed: " ++ error)

/-- The call that `advance` makes in a stage that is not terminal; a terminal stage stays. -/
def TopUpStage.next (stage : TopUpStage) (nowNs : ℕ) : Except String TopUpStage :=
  match stage with
  | .preflight => Agent.preflight config answers
  | .approvingLocker usdcAmount => approveLocker answers usdcAmount
  | .waitingApprovalConfirmation usdcAmount txHash => pollApproval answers usdcAmount txHash
  | .lockingUsdc usdcAmount => lockUsdc answers usdcAmount
  | .waitingLockConfirmation usdcAmount txHash confirmations =>
    pollLock config answers usdcAmount txHash confirmations
  | .validatingOnOnesec usdcAmount txHash => validateOnOnesec answers usdcAmount txHash
  | .waitingForBridgedUsdc usdcAmount transferId polls =>
    pollBridge config answers usdcAmount transferId polls
  | .approvingKongSwap bridgedUsdcAmount usdcSpent =>
    approveKongSwap answers bridgedUsdcAmount usdcSpent
  | .swappingToIcp _ usdcSpent => swapToIcp answers usdcSpent
  | .transferringToCmc _ usdcSpent => transferToCmc answers usdcSpent
  | .mintingCycles _ usdcSpent => mintCycles answers usdcSpent nowNs
  | .completed cyclesMinted usdcSpent completedAtNs =>
    .ok (.completed cyclesMinted usdcSpent completedAtNs)
  | .failed stage error failedAtNs attempts => .ok (.failed stage error failedAtNs attempts)

/-- The stage that `advance` saves after the answers. -/
def TopUpStage.save (stage : TopUpStage) (nowNs : ℕ) : TopUpStage :=
  match stage.next config answers nowNs with
  | .ok next => next
  | .error error => .failed stage.stageName error nowNs 0

end Stages

/-- `CycleTopUp::start`: what is stored when it succeeds. -/
def topUpStart : Option TopUpStage → Except String TopUpStage
  | none | some (.completed _ _ _) => .ok .preflight
  | some (.failed _ _ _ _) => .error "top-up is in failed state; call reset() first"
  | some _ => .error "top-up already in progress"

/-- `CycleTopUp::reset`: it clears the stored stage when it succeeds. -/
def topUpReset : Option TopUpStage → Except String Unit
  | some (.failed _ _ _ _) => .ok ()
  | some _ => .error "top-up is not in failed state"
  | none => .error "top-up is idle"

/-- `topup_state_allows_auto_start`. -/
def topupStateAllowsAutoStart : Option TopUpStage → Bool
  | none | some (.completed _ _ _) => true
  | _ => false

/-- `topup_failed_recovery_due`. -/
def topupFailedRecoveryDue (state : Option TopUpStage) (nowNs : ℕ) : Bool :=
  match state with
  | some (.failed _ _ failedAtNs _) =>
    saturatingAdd u64Max failedAtNs (nanos topupFailedRecoveryBackoffSecs) ≤ nowNs
  | _ => false

/-- What `run_check_cycles` reads for a top-up: the part `cycle_topup` of the snapshot, whether
`build_cycle_topup` accepts it, and the balances. -/
structure TopUpCheck where
  enabled : Bool
  autoTopupCycleThreshold : ℕ
  minUsdcReserve : ℕ
  buildCycleTopup : Except String TopUpConfig
  totalCycles : ℕ
  cachedUsdcBalanceRaw : Option ℕ
  nowNs : ℕ

/-- `should_trigger_cycle_topup`. -/
def TopUpCheck.shouldTriggerCycleTopup (check : TopUpCheck) (state : Option TopUpStage) : Bool :=
  check.enabled && topupMinOperationalCycles < check.totalCycles &&
    check.totalCycles < check.autoTopupCycleThreshold && topupStateAllowsAutoStart state &&
    saturatingAdd u64Max check.minUsdcReserve topupMinUsdcAvailableRaw ≤
      check.cachedUsdcBalanceRaw.getD 0

/-- `maybe_recover_failed_topup`: the stage after a recovery. -/
def TopUpCheck.maybeRecoverFailedTopup (check : TopUpCheck) (state : Option TopUpStage) :
    Option TopUpStage :=
  if !topupFailedRecoveryDue state check.nowNs then none
  else
    match check.buildCycleTopup, topUpReset state with
    | .ok _, .ok () => (topUpStart none).toOption
    | _, _ => none

/-- The stage that `run_check_cycles` stores, if it starts a top-up. -/
def TopUpCheck.startsTopUp (check : TopUpCheck) (state : Option TopUpStage) :
    Option TopUpStage :=
  let recovered := if check.enabled then check.maybeRecoverFailedTopup state else none
  match recovered with
  | some stage => some stage
  | none =>
    if check.shouldTriggerCycleTopup state && check.buildCycleTopup.toOption.isSome then
      (topUpStart state).toOption
    else none

end Automaton.Agent
