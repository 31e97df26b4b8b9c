import Automaton.Agent.InboxCodec
import Automaton.Agent.TopUpWorld
import Automaton.Library.Metered

/-!
# How far a run of a top-up goes

`advance` goes from stage to stage until one waits or is the last, and every stage calls others.
The calls of the stages are given one by one. A stage that is not left and does not wait is called
again at once.
-/

namespace Automaton.Agent

open Machine Metered Automaton.Strategy

/-- `TopUpConfig`, with what transactions are made of. -/
structure TopUpSettings extends TopUpConfig where
  evmAddress : String
  usdcContractAddress : String
  onesecLockerAddress : String
  evmChainId : ℕ

/-- The clock, the balance of cycles, and the replies to the next call of each kind. Results of the
EVM are given as `extract_evm_result_string` finds them; errors that a ledger or the CMC returns are
given as they are printed. -/
structure TopUpReplies where
  nowNs : ℕ
  cycleBalance : ℕ
  usdcBalance : Except String String
  transactionCount : Except String String
  gasPrice : Except String String
  estimatedGas : Except String String
  signature : Except String String
  sentTransaction : Except String String
  receipt : Except String TransactionReceipt
  blockNumber : Except String String
  transferFees : Except String (List TransferFee)
  transferEvmToIcp : Except String TransferResponse
  getTransfer : Except String BridgeTransferStatus
  icrc2Approve : Except String (Except String ℕ)
  swap : Except String (Except String SwapReply)
  icrc1Transfer : Except String (Except String ℕ)
  notifyTopUp : Except String (Except String ℕ)

/-- A canister with its settings and its principal, and what it is replied, by the number of calls
that `advance` has made. `recover_y_parity` is given what is signed. -/
structure TopUpHost where
  settings : TopUpSettings
  canister : List UInt8
  recoverYParity : List UInt8 → List UInt8 → String → Except String ℕ
  replies : ℕ → TopUpReplies

namespace TopUpHost

variable (host : TopUpHost)

/-- A call. -/
def ask {α : Type} (reply : TopUpReplies → Except String α) : Metered String α :=
  Metered.ask fun n => reply (host.replies n)

section Transactions

/-- `normalize_address`. -/
def normalizeAddress (raw : String) : Except String String :=
  (normalizeEvmAddress raw).mapError fun _ => "address must be a 0x-prefixed 20-byte hex string"

/-- `parse_hex_u256`. -/
def parseHexU256 (raw field : String) : Except String ℕ := do
  let digits ← hexQuantityDigits raw field
  if 64 < digits.length then .error (field ++ " exceeds 32 bytes") else .ok (Hex.ofDigits digits)

/-- `encode_address_word`. -/
def encodeAddressWord (address : String) : Except String (List Char) :=
  (normalizeAddress address).map addressWord

/-- `encode_erc20_balance_of`. -/
def encodeErc20BalanceOf (address : String) : Except String String := do
  let word ← encodeAddressWord address
  .ok ("0x70a08231" ++ String.ofList word)

/-- `encode_approve`. -/
def encodeApprove (spender : String) (amount : ℕ) : Except String String := do
  let word ← encodeAddressWord spender
  .ok ("0x095ea7b3" ++ String.ofList (word ++ wordDigits amount))

/-- `encode_principal_for_onesec`. -/
def encodePrincipalForOnesec (principal : List UInt8) : List UInt8 :=
  let copied := principal.take 30
  0x00 :: UInt8.ofNat copied.length :: copied ++ List.replicate (30 - copied.length) 0

/-- `encode_lock1`. -/
def encodeLock1 (amount : ℕ) (data : List UInt8) : String :=
  "0x3455fccc" ++ String.ofList (wordDigits amount) ++ Hex.encode data

/-- `evm_nonce`. -/
def evmNonce : Metered String ℕ := do
  let _ ← lift (normalizeAddress host.settings.evmAddress)
  let raw ← host.ask (·.transactionCount)
  lift (parseHexU256 raw "eth_getTransactionCount")

/-- `evm_gas_price`. -/
def evmGasPrice : Metered String ℕ := do
  let raw ← host.ask (·.gasPrice)
  lift (parseHexU256 raw "eth_gasPrice")

/-- `evm_estimate_gas`. -/
def evmEstimateGas (target calldata : String) : Metered String ℕ := do
  let _ ← lift (normalizeAddress host.settings.evmAddress)
  let _ ← lift (normalizeAddress target)
  let _ ← lift (normalizeHexBlob calldata "transaction calldata")
  let raw ← host.ask (·.estimatedGas)
  lift (parseHexU256 raw "eth_estimateGas")

/-- `evm_send_transaction` up to the signed transaction. -/
def signTransaction (target calldata : String) : Metered String (List UInt8) := do
  let targetHex ← lift (normalizeAddress target)
  let dataHex ← lift (normalizeHexBlob calldata "transaction calldata")
  let nonce ← host.evmNonce
  let baseFee ← host.evmGasPrice
  let gasLimit ← (host.evmEstimateGas targetHex dataHex).recover 250000
  let tx : Eip1559UnsignedTx := {
    chainId := host.settings.evmChainId
    nonce := nonce
    maxPriorityFeePerGas := 1000000000
    maxFeePerGas := saturatingAdd u256Max baseFee 1000000000
    gasLimit := gasLimit
    toAddress := decodeHexBlob targetHex
    value := 0
    data := decodeHexBlob dataHex }
  let raw ← host.ask (·.signature)
  let signature ← lift (parseCompactSignature raw)
  let expected ← lift (normalizeAddress host.settings.evmAddress)
  let yParity ← lift (host.recoverYParity (encodeEip1559Unsigned tx) signature expected)
  pure (encodeEip1559Signed tx yParity (Rlp.ofBigEndian (signature.take 32))
    (Rlp.ofBigEndian (signature.drop 32)))

/-- `evm_send_raw_transaction`, whose reply does not depend on what is sent. -/
def evmSendRawTransaction (_tx : List UInt8) : Metered String String := do
  let raw ← host.ask (·.sentTransaction)
  lift (normalizeHexBlob raw "eth_sendRawTransaction result")

/-- `evm_send_transaction`. -/
def evmSendTransaction (target calldata : String) : Metered String String := do
  let signed ← host.signTransaction target calldata
  host.evmSendRawTransaction signed

end Transactions

section Stages

/-- `preflight`. -/
def preflight : Metered String TopUpStage := do
  let cycles ← observe fun n => (host.replies n).cycleBalance
  if cycles < topupMinOperationalCycles then
    fail ("insufficient cycles for top-up operation: need at least " ++
      toString topupMinOperationalCycles)
  else
    let _ ← lift (encodeErc20BalanceOf host.settings.evmAddress)
    let _ ← lift (normalizeAddress host.settings.usdcContractAddress)
    let raw ← host.ask (·.usdcBalance)
    let balance ← lift (parseHexU128 raw "USDC balance")
    if u64Max < balance then fail "USDC balance exceeds u64"
    else
      let available := balance - host.settings.minUsdcReserve
      if available < topupMinUsdcAvailableRaw then
        fail ("USDC available (" ++ toString available ++ ") below minimum " ++
          toString topupMinUsdcAvailableRaw)
      else
        let usdcAmount := min available host.settings.maxUsdcPerTopup
        let fees ← host.ask (·.transferFees)
        let fee ← lift (findUsdcBaseFee fees)
        let minAmount ← lift (natToU64 fee.minAmount "Onesec fee min_amount")
        let maxAmount ← lift (natToU64 fee.maxAmount "Onesec fee max_amount")
        if usdcAmount < minAmount ∨ maxAmount < usdcAmount then
          fail ("amount " ++ toString usdcAmount ++ " outside Onesec bounds [" ++
            toString minAmount ++ ", " ++ toString maxAmount ++ "]")
        else pure (.approvingLocker usdcAmount)

/-- `approve_locker`. -/
def approveLocker (usdcAmount : ℕ) : Metered String TopUpStage := do
  let calldata ← lift (encodeApprove host.settings.onesecLockerAddress usdcAmount)
  let txHash ← host.evmSendTransaction host.settings.usdcContractAddress calldata
  pure (.waitingApprovalConfirmation usdcAmount txHash)

/-- The status of a receipt in `poll_tx`. -/
def checkStatus (txHash : String) (status : Option String) : Except String Unit :=
  status.elim (.ok ()) fun raw => do
    let status ← parseHexU64 raw "receipt status"
    if status = 0 then .error ("transaction reverted: " ++ txHash) else .ok ()

/-- The confirmations of a receipt in `poll_tx`. -/
def confirmations (blockNumber : Option String) (required : ℕ) : Metered String ℕ :=
  if required ≤ 1 then pure 1
  else do
    let rawBlock ← lift (blockNumber.elim (.error "receipt missing blockNumber") .ok)
    let receiptBlock ← lift (parseHexU64 rawBlock "receipt blockNumber")
    let rawLatest ← host.ask (·.blockNumber)
    let latestBlock ← lift (parseHexU64 rawLatest "eth_blockNumber")
    if latestBlock < receiptBlock then fail "latest block is behind receipt block"
    else pure (saturatingAdd u64Max (latestBlock - receiptBlock) 1)

/-- `poll_tx`: the number of confirmations, or `none` when the transaction has no receipt. -/
def pollTx (txHash : String) (required : ℕ) : Metered String (Option ℕ) := do
  let _ ← lift (normalizeHexBlob txHash "tx hash")
  let receipt ← host.ask (·.receipt)
  match receipt with
  | .null => pure none
  | .noObject => fail "eth_getTransactionReceipt result must be object or null"
  | .object status blockNumber => do
    lift (checkStatus txHash status)
    let count ← host.confirmations blockNumber required
    pure (some count)

/-- `poll_tx` of the approval. -/
def pollApproval (usdcAmount : ℕ) (txHash : String) : Metered String TopUpStage := do
  let found ← host.pollTx txHash 1
  pure (if found.any (1 ≤ ·) then .lockingUsdc usdcAmount
    else .waitingApprovalConfirmation usdcAmount txHash)

/-- `poll_tx` of the lock. -/
def pollLock (usdcAmount : ℕ) (txHash : String) (known : ℕ) : Metered String TopUpStage := do
  let found ← host.pollTx txHash host.settings.lockConfirmations
  pure (if found.any (host.settings.lockConfirmations ≤ ·) then
      .validatingOnOnesec usdcAmount txHash
    else .waitingLockConfirmation usdcAmount txHash (found.elim known (min · 255)))

/-- `lock_usdc`. -/
def lockUsdc (usdcAmount : ℕ) : Metered String TopUpStage := do
  let calldata := encodeLock1 usdcAmount (encodePrincipalForOnesec host.canister)
  let txHash ← host.evmSendTransaction host.settings.onesecLockerAddress calldata
  pure (.waitingLockConfirmation usdcAmount txHash 0)

/-- `validate_on_onesec`. -/
def validateOnOnesec (usdcAmount : ℕ) (txHash : String) : Metered String TopUpStage := do
  let _ ← lift (normalizeAddress host.settings.evmAddress)
  let _ ← lift (normalizeHexBlob txHash "lock tx hash")
  let response ← host.ask (·.transferEvmToIcp)
  match response with
  | .accepted transferId => pure (.waitingForBridgedUsdc usdcAmount transferId 0)
  | .fetching _ => pure (.validatingOnOnesec usdcAmount txHash)
  | .failed error => fail ("transfer_evm_to_icp failed: " ++ error)

/-- `poll_bridge`. -/
def pollBridge (usdcAmount transferId polls : ℕ) : Metered String TopUpStage :=
  if host.settings.maxBridgePolls ≤ polls then
    fail ("bridge polling exceeded max attempts for transfer " ++ toString transferId)
  else do
    let status ← host.ask (·.getTransfer)
    match status with
    | .pending | .fetching =>
      pure (.waitingForBridgedUsdc usdcAmount transferId (saturatingAdd 255 polls 1))
    | .failed error => fail ("bridge transfer failed: " ++ error)
    | .succeeded amount => do
      let bridged ← lift (natToU64 amount "bridged USDC amount")
      pure (.approvingKongSwap bridged usdcAmount)

/-- `approve_kongswap`. -/
def approveKongSwap (bridgedUsdcAmount usdcSpent : ℕ) : Metered String TopUpStage := do
  let result ← host.ask (·.icrc2Approve)
  let _ ← lift (result.mapError ("icrc2_approve failed: " ++ ·))
  pure (.swappingToIcp bridgedUsdcAmount usdcSpent)

/-- `swap_to_icp`. -/
def swapToIcp (usdcSpent : ℕ) : Metered String TopUpStage := do
  let result ← host.ask (·.swap)
  let reply ← lift (result.mapError ("swap failed: " ++ ·))
  if !Text.eqIgnoreAsciiCase reply.status "success" then
    fail ("swap status was " ++ reply.status)
  else
    let icpAmount ← lift (natToU64 reply.receiveAmount "swap receive_amount")
    pure (.transferringToCmc icpAmount usdcSpent)

/-- `transfer_to_cmc`. -/
def transferToCmc (usdcSpent : ℕ) : Metered String TopUpStage := do
  let result ← host.ask (·.icrc1Transfer)
  let raw ← lift (result.mapError ("icrc1_transfer failed: " ++ ·))
  let blockIndex ← lift (natToU64 raw "icrc1_transfer block index")
  pure (.mintingCycles blockIndex usdcSpent)

/-- `mint_cycles`. -/
def mintCycles (usdcSpent : ℕ) : Metered String TopUpStage := do
  let result ← host.ask (·.notifyTopUp)
  let raw ← lift (result.mapError ("notify_top_up failed: " ++ ·))
  let cyclesMinted ← lift (natToU128 raw "notify_top_up cycles minted")
  let nowNs ← observe fun n => (host.replies n).nowNs
  pure (.completed cyclesMinted usdcSpent nowNs)

/-- What `advance` calls in a stage. The last stages are returned from before that. -/
def next : TopUpStage → Metered String TopUpStage
  | .preflight => host.preflight
  | .approvingLocker usdcAmount => host.approveLocker usdcAmount
  | .waitingApprovalConfirmation usdcAmount txHash => host.pollApproval usdcAmount txHash
  | .lockingUsdc usdcAmount => host.lockUsdc usdcAmount
  | .waitingLockConfirmation usdcAmount txHash known => host.pollLock usdcAmount txHash known
  | .validatingOnOnesec usdcAmount txHash => host.validateOnOnesec usdcAmount txHash
  | .waitingForBridgedUsdc usdcAmount transferId polls =>
    host.pollBridge usdcAmount transferId polls
  | .approvingKongSwap bridgedUsdcAmount usdcSpent =>
    host.approveKongSwap bridgedUsdcAmount usdcSpent
  | .swappingToIcp _ usdcSpent => host.swapToIcp usdcSpent
  | .transferringToCmc _ usdcSpent => host.transferToCmc usdcSpent
  | .mintingCycles _ usdcSpent => host.mintCycles usdcSpent
  | .completed cyclesMinted usdcSpent completedAtNs =>
    pure (.completed cyclesMinted usdcSpent completedAtNs)
  | .failed stage error failedAtNs attempts => pure (.failed stage error failedAtNs attempts)

end Stages

section Advance

/-- What a run of `advance` returns, the stages that it saved, and how many calls it made. -/
structure AdvanceRun where
  done : Bool
  saved : List TopUpStage
  calls : ℕ
  deriving DecidableEq

/-- The loop of `advance`, for at most so many passes. -/
def advanceLoop : ℕ → TopUpStage → ℕ → Option AdvanceRun
  | 0, _, _ => none
  | fuel + 1, stage, n =>
    if stage.isTerminal then some ⟨true, [], n⟩
    else
      match host.next stage n with
      | (.error error, calls) =>
        some ⟨true, [.failed stage.stageName error (host.replies calls).nowNs 0], calls⟩
      | (.ok next, calls) =>
        if next.isTerminal then some ⟨true, [next], calls⟩
        else if next.isWaiting then some ⟨false, [next], calls⟩
        else (advanceLoop fuel next calls).map fun run => { run with saved := next :: run.saved }

/-- `advance`, of what is stored. -/
def advance (fuel : ℕ) : Option TopUpStage → Option AdvanceRun
  | none => some ⟨true, [], 0⟩
  | some stage => host.advanceLoop fuel stage 0

end Advance

section Budgets

variable {host} (target calldata txHash : String) (usdcAmount usdcSpent : ℕ)

theorem within_evmNonce : Within 1 host.evmNonce :=
  .lift_bind fun _ => .ask_bind fun _ => within_lift _

theorem within_evmGasPrice : Within 1 host.evmGasPrice := .ask_bind fun _ => within_lift _

theorem within_evmEstimateGas : Within 1 (host.evmEstimateGas target calldata) :=
  .lift_bind fun _ => .lift_bind fun _ => .lift_bind fun _ => .ask_bind fun _ => within_lift _

theorem within_evmSendRawTransaction (tx : List UInt8) :
    Within 1 (host.evmSendRawTransaction tx) := .ask_bind fun _ => within_lift _

/-- A transaction needs the nonce, the price, an estimate and the signature, and is sent. -/
theorem within_evmSendTransaction : Within 5 (host.evmSendTransaction target calldata) := by
  have hsign : Within (1 + (1 + (1 + 1))) (host.signTransaction target calldata) := by
    refine .lift_bind fun targetHex => .lift_bind fun dataHex => ?_
    refine within_evmNonce.bind fun nonce => within_evmGasPrice.bind fun baseFee => ?_
    refine ((within_evmEstimateGas _ _).recover _).bind fun gasLimit => ?_
    exact .ask_bind fun raw => .lift_bind fun _ => .lift_bind fun _ => .lift_bind fun _ =>
      within_pure _
  exact hsign.bind fun signed => within_evmSendRawTransaction signed

theorem within_preflight : Within 2 host.preflight := by
  refine .observe_bind fun cycles => ?_
  split
  · exact within_fail _
  · refine .lift_bind fun _ => .lift_bind fun _ => .ask_bind fun raw => .lift_bind fun balance => ?_
    split
    · exact within_fail _
    · dsimp only
      split
      · exact within_fail _
      · refine .ask_bind fun fees => .lift_bind fun fee => .lift_bind fun _ => ?_
        refine .lift_bind fun _ => ?_
        split
        · exact within_fail _
        · exact within_pure _

theorem within_confirmations (blockNumber : Option String) (required : ℕ) :
    Within 1 (host.confirmations blockNumber required) := by
  unfold confirmations
  split
  · exact within_pure _
  · refine .lift_bind fun _ => .lift_bind fun _ => .ask_bind fun _ => .lift_bind fun _ => ?_
    split
    · exact within_fail _
    · exact within_pure _

/-- A receipt is asked for, and then the latest block. -/
theorem within_pollTx (required : ℕ) : Within 2 (host.pollTx txHash required) := by
  refine .lift_bind fun _ => .ask_bind fun receipt => ?_
  split
  · exact within_pure _
  · exact within_fail _
  · refine .lift_bind fun _ => (within_confirmations _ _).bind_free fun count => ?_
    exact within_pure _

theorem within_validateOnOnesec : Within 1 (host.validateOnOnesec usdcAmount txHash) := by
  refine .lift_bind fun _ => .lift_bind fun _ => .ask_bind fun response => ?_
  split
  · exact within_pure _
  · exact within_pure _
  · exact within_fail _

theorem within_pollBridge (transferId polls : ℕ) :
    Within 1 (host.pollBridge usdcAmount transferId polls) := by
  unfold pollBridge
  split
  · exact within_fail _
  · refine .ask_bind fun status => ?_
    split
    · exact within_pure _
    · exact within_pure _
    · exact within_fail _
    · exact .lift_bind fun _ => within_pure _

theorem within_swapToIcp : Within 1 (host.swapToIcp usdcSpent) := by
  refine .ask_bind fun result => .lift_bind fun reply => ?_
  split
  · exact within_fail _
  · exact .lift_bind fun _ => within_pure _

/-- How many calls a stage makes at most. -/
def budget : TopUpStage → ℕ
  | .preflight | .waitingApprovalConfirmation _ _ | .waitingLockConfirmation _ _ _ => 2
  | .approvingLocker _ | .lockingUsdc _ => 5
  | .completed _ _ _ | .failed _ _ _ _ => 0
  | _ => 1

theorem within_next (stage : TopUpStage) : Within (budget stage) (host.next stage) := by
  cases stage with
  | preflight => exact within_preflight
  | approvingLocker usdcAmount =>
    exact .lift_bind fun _ => (within_evmSendTransaction _ _).bind_free fun _ => within_pure _
  | waitingApprovalConfirmation usdcAmount txHash =>
    exact (within_pollTx _ _).bind_free fun _ => within_pure _
  | lockingUsdc usdcAmount => exact (within_evmSendTransaction _ _).bind_free fun _ => within_pure _
  | waitingLockConfirmation usdcAmount txHash known =>
    exact (within_pollTx _ _).bind_free fun _ => within_pure _
  | validatingOnOnesec usdcAmount txHash => exact within_validateOnOnesec _ _
  | waitingForBridgedUsdc usdcAmount transferId polls => exact within_pollBridge _ _ _
  | approvingKongSwap bridgedUsdcAmount usdcSpent =>
    exact .ask_bind fun _ => .lift_bind fun _ => within_pure _
  | swappingToIcp bridgedUsdcAmount usdcSpent => exact within_swapToIcp _
  | transferringToCmc icpAmount usdcSpent =>
    exact .ask_bind fun _ => .lift_bind fun _ => .lift_bind fun _ => within_pure _
  | mintingCycles blockIndex usdcSpent =>
    exact .ask_bind fun _ => .lift_bind fun _ => .lift_bind fun _ => .observe_bind fun _ =>
      within_pure _
  | completed cyclesMinted usdcSpent completedAtNs => exact within_pure _
  | failed stage error failedAtNs attempts => exact within_pure _

end Budgets

section Refinement

variable {host} {n calls usdcAmount usdcSpent : ℕ} {txHash target calldata : String}
  {next : TopUpStage}

/-- The replies that are given after so many calls, as the answers to the calls of a stage. -/
def answersAt (host : TopUpHost) (n : ℕ) : TopUpAnswers where
  cycleBalance := (host.replies n).cycleBalance
  usdcBalance := (host.replies n).usdcBalance
  transferFees := (host.replies n).transferFees
  signedTransaction := .ok ()
  sentTransaction := (host.replies n).sentTransaction
  receipt := (host.replies n).receipt
  blockNumber := (host.replies n).blockNumber
  transferEvmToIcp := (host.replies n).transferEvmToIcp
  getTransfer := (host.replies n).getTransfer
  icrc2Approve := (host.replies n).icrc2Approve
  swap := (host.replies n).swap
  icrc1Transfer := (host.replies n).icrc1Transfer
  notifyTopUp := (host.replies n).notifyTopUp

theorem preflight_refines (h : host.preflight n = (.ok next, calls)) :
    Agent.preflight host.settings.toTopUpConfig { host.answersAt n with
      transferFees := (host.replies (n + 1)).transferFees } = .ok next := by
  simp only [preflight, bind_eq_ok, lift_eq_ok, ask, ask_eq_ok, observe_eq_ok, ite_fail_eq_ok,
    pure_eq_ok] at h
  obtain ⟨_, _, ⟨rfl, rfl⟩, hcycles, _, _, ⟨-, rfl⟩, _, _, ⟨-, rfl⟩, raw, _, ⟨hraw, rfl⟩, balance,
    _, ⟨hparsed, rfl⟩, hfits, havailable, fees, _, ⟨hfees, rfl⟩, fee, _, ⟨hfee, rfl⟩, low, _,
    ⟨hlow, rfl⟩, high, _, ⟨hhigh, rfl⟩, hbounds, hnext, -⟩ := h
  simp only [Agent.preflight, Fallible.throw_bind, Fallible.ite_error_eq_ok, Fallible.bind_eq_ok,
    Fallible.pure_eq_ok]
  exact ⟨hcycles, raw, hraw, balance, hparsed, hfits, havailable, fees, hfees, fee, hfee, low, hlow,
    high, hhigh, hbounds, hnext⟩

theorem evmSendTransaction_refines {hash : String}
    (h : host.evmSendTransaction target calldata n = (.ok hash, calls)) :
    ∃ before, { host.answersAt n with
      sentTransaction := (host.replies before).sentTransaction }.sendTransaction = .ok hash := by
  simp only [evmSendTransaction, evmSendRawTransaction, bind_eq_ok, lift_eq_ok, ask,
    ask_eq_ok] at h
  obtain ⟨signed, before, -, raw, _, ⟨hraw, rfl⟩, hhash, -⟩ := h
  refine ⟨before, ?_⟩
  simp only [TopUpAnswers.sendTransaction, Fallible.bind_eq_ok]
  exact ⟨(), rfl, raw, hraw, hhash⟩

theorem confirmations_refines {blockNumber : Option String} {required count : ℕ}
    (h : host.confirmations blockNumber required n = (.ok count, calls)) :
    receiptConfirmations { host.answersAt n with
      blockNumber := (host.replies n).blockNumber } blockNumber required = .ok count := by
  unfold confirmations at h
  split at h
  · rename_i hrequired
    obtain ⟨rfl, -⟩ := pure_eq_ok.mp h
    rw [receiptConfirmations, if_pos hrequired]
    rfl
  · rename_i hrequired
    simp only [bind_eq_ok, lift_eq_ok, ask, ask_eq_ok, ite_fail_eq_ok, pure_eq_ok] at h
    obtain ⟨rawBlock, _, ⟨hrawBlock, rfl⟩, receiptBlock, _, ⟨hblock, rfl⟩, rawLatest, _,
      ⟨hrawLatest, rfl⟩, latest, _, ⟨hlatest, rfl⟩, horder, hcount, -⟩ := h
    rw [receiptConfirmations, if_neg hrequired]
    simp only [Fallible.throw_bind, Fallible.ite_error_eq_ok, Fallible.bind_eq_ok,
      Fallible.pure_eq_ok]
    exact ⟨rawBlock, hrawBlock, receiptBlock, hblock, rawLatest, hrawLatest, latest, hlatest,
      horder, hcount⟩

theorem pollTx_refines {required : ℕ} {found : Option ℕ}
    (h : host.pollTx txHash required n = (.ok found, calls)) :
    Agent.pollTx { host.answersAt n with
      blockNumber := (host.replies (n + 1)).blockNumber } txHash required = .ok found := by
  simp only [pollTx, bind_eq_ok, lift_eq_ok, ask, ask_eq_ok] at h
  obtain ⟨blob, _, ⟨hblob, rfl⟩, receipt, _, ⟨hreceipt, rfl⟩, h⟩ := h
  simp only [Agent.pollTx, Fallible.bind_eq_ok]
  refine ⟨blob, hblob, receipt, hreceipt, ?_⟩
  cases receipt with
  | null => exact congrArg Except.ok (pure_eq_ok.mp h).1
  | noObject => cases fail_eq_ok.mp h
  | object status blockNumber =>
    simp only [bind_eq_ok, lift_eq_ok, pure_eq_ok] at h
    obtain ⟨_, _, ⟨hstatus, rfl⟩, count, _, hcount, rfl, -⟩ := h
    have hconfirmations := confirmations_refines hcount
    cases status with
    | none =>
      simp only [Fallible.bind_eq_ok, Fallible.pure_eq_ok]
      exact ⟨count, hconfirmations, rfl⟩
    | some raw =>
      simp only [checkStatus, Option.elim_some, Fallible.bind_eq_ok,
        Fallible.ite_error_eq_ok] at hstatus
      obtain ⟨value, hvalue, hnonzero, -⟩ := hstatus
      simp only [Fallible.throw_bind, Fallible.ite_error_eq_ok, Fallible.bind_eq_ok,
        Fallible.pure_eq_ok]
      exact ⟨value, hvalue, hnonzero, count, hconfirmations, rfl⟩

/-- What a stage leads to is what the stage leads to when the replies to its calls are given
together. -/
theorem next_refines {stage : TopUpStage} (h : host.next stage n = (.ok next, calls)) :
    ∃ answers nowNs, stage.next host.settings.toTopUpConfig answers nowNs = .ok next ∧
      answers.transferEvmToIcp = (host.replies n).transferEvmToIcp := by
  cases stage with
  | preflight =>
    exact ⟨{ host.answersAt n with transferFees := (host.replies (n + 1)).transferFees }, 0,
      preflight_refines h, rfl⟩
  | approvingLocker usdcAmount =>
    simp only [TopUpHost.next, approveLocker, bind_eq_ok, lift_eq_ok, pure_eq_ok] at h
    obtain ⟨calldata, _, ⟨-, rfl⟩, hash, _, hsent, rfl, -⟩ := h
    obtain ⟨before, hsent⟩ := evmSendTransaction_refines hsent
    refine ⟨{ host.answersAt n with
      sentTransaction := (host.replies before).sentTransaction }, 0, ?_, rfl⟩
    simp only [TopUpStage.next, Agent.approveLocker, Fallible.bind_eq_ok, Fallible.pure_eq_ok]
    exact ⟨hash, hsent, rfl⟩
  | waitingApprovalConfirmation usdcAmount txHash =>
    simp only [TopUpHost.next, pollApproval, bind_eq_ok, pure_eq_ok] at h
    obtain ⟨found, _, hfound, rfl, -⟩ := h
    refine ⟨{ host.answersAt n with
      blockNumber := (host.replies (n + 1)).blockNumber }, 0, ?_, rfl⟩
    simp only [TopUpStage.next, Agent.pollApproval, Fallible.bind_eq_ok]
    refine ⟨found, pollTx_refines hfound, ?_⟩
    cases found with
    | none => rfl
    | some count => by_cases hcount : count < 1 <;> simp [hcount, pure, Except.pure]
  | lockingUsdc usdcAmount =>
    simp only [TopUpHost.next, lockUsdc, bind_eq_ok, pure_eq_ok] at h
    obtain ⟨hash, _, hsent, rfl, -⟩ := h
    obtain ⟨before, hsent⟩ := evmSendTransaction_refines hsent
    refine ⟨{ host.answersAt n with
      sentTransaction := (host.replies before).sentTransaction }, 0, ?_, rfl⟩
    simp only [TopUpStage.next, Agent.lockUsdc, Fallible.bind_eq_ok, Fallible.pure_eq_ok]
    exact ⟨hash, hsent, rfl⟩
  | waitingLockConfirmation usdcAmount txHash known =>
    simp only [TopUpHost.next, pollLock, bind_eq_ok, pure_eq_ok] at h
    obtain ⟨found, _, hfound, rfl, -⟩ := h
    refine ⟨{ host.answersAt n with
      blockNumber := (host.replies (n + 1)).blockNumber }, 0, ?_, rfl⟩
    simp only [TopUpStage.next, Agent.pollLock, Fallible.bind_eq_ok]
    refine ⟨found, pollTx_refines hfound, ?_⟩
    cases found with
    | none => rfl
    | some count =>
      by_cases hcount : count < host.settings.lockConfirmations
      · simp [hcount, pure, Except.pure]
      · simp [hcount, not_lt.mp hcount, pure, Except.pure]
  | validatingOnOnesec usdcAmount txHash =>
    simp only [TopUpHost.next, validateOnOnesec, bind_eq_ok, lift_eq_ok, ask, ask_eq_ok] at h
    obtain ⟨_, _, ⟨-, rfl⟩, blob, _, ⟨hblob, rfl⟩, response, _, ⟨hresponse, rfl⟩, h⟩ := h
    refine ⟨host.answersAt n, 0, ?_, rfl⟩
    simp only [TopUpStage.next, Agent.validateOnOnesec, Fallible.bind_eq_ok]
    refine ⟨blob, hblob, response, hresponse, ?_⟩
    cases response with
    | accepted transferId => exact congrArg Except.ok (pure_eq_ok.mp h).1
    | failed error => cases fail_eq_ok.mp h
    | fetching height => exact congrArg Except.ok (pure_eq_ok.mp h).1
  | waitingForBridgedUsdc usdcAmount transferId polls =>
    simp only [TopUpHost.next, pollBridge, bind_eq_ok, ask, ask_eq_ok, ite_fail_eq_ok] at h
    obtain ⟨hpolls, status, _, ⟨hstatus, rfl⟩, h⟩ := h
    refine ⟨host.answersAt n, 0, ?_, rfl⟩
    simp only [TopUpStage.next, Agent.pollBridge, Fallible.throw_bind, Fallible.ite_error_eq_ok,
      Fallible.bind_eq_ok]
    refine ⟨hpolls, status, hstatus, ?_⟩
    cases status with
    | pending => exact congrArg Except.ok (pure_eq_ok.mp h).1
    | fetching => exact congrArg Except.ok (pure_eq_ok.mp h).1
    | failed error => cases fail_eq_ok.mp h
    | succeeded amount =>
      simp only [bind_eq_ok, lift_eq_ok, pure_eq_ok] at h
      obtain ⟨bridged, _, ⟨hbridged, rfl⟩, rfl, -⟩ := h
      simp only [Fallible.bind_eq_ok, Fallible.pure_eq_ok]
      exact ⟨bridged, hbridged, rfl⟩
  | approvingKongSwap bridgedUsdcAmount usdcSpent =>
    simp only [TopUpHost.next, approveKongSwap, bind_eq_ok, lift_eq_ok, ask, ask_eq_ok,
      pure_eq_ok] at h
    obtain ⟨result, _, ⟨hresult, rfl⟩, block, _, ⟨hblock, rfl⟩, rfl, -⟩ := h
    refine ⟨host.answersAt n, 0, ?_, rfl⟩
    simp only [TopUpStage.next, Agent.approveKongSwap, Fallible.bind_eq_ok]
    refine ⟨result, hresult, ?_⟩
    rw [Fallible.mapError_eq_ok.mp hblock]
    rfl
  | swappingToIcp bridgedUsdcAmount usdcSpent =>
    simp only [TopUpHost.next, swapToIcp, bind_eq_ok, lift_eq_ok, ask, ask_eq_ok, ite_fail_eq_ok,
      pure_eq_ok] at h
    obtain ⟨result, _, ⟨hresult, rfl⟩, reply, _, ⟨hreply, rfl⟩, hstatus, amount, _, ⟨hamount, rfl⟩,
      rfl, -⟩ := h
    refine ⟨host.answersAt n, 0, ?_, rfl⟩
    simp only [TopUpStage.next, Agent.swapToIcp, Fallible.bind_eq_ok]
    refine ⟨result, hresult, ?_⟩
    rw [Fallible.mapError_eq_ok.mp hreply]
    simp only [Fallible.throw_bind, Fallible.ite_error_eq_ok, Fallible.bind_eq_ok,
      Fallible.pure_eq_ok]
    exact ⟨hstatus, amount, hamount, rfl⟩
  | transferringToCmc icpAmount usdcSpent =>
    simp only [TopUpHost.next, transferToCmc, bind_eq_ok, lift_eq_ok, ask, ask_eq_ok,
      pure_eq_ok] at h
    obtain ⟨result, _, ⟨hresult, rfl⟩, raw, _, ⟨hraw, rfl⟩, blockIndex, _, ⟨hblock, rfl⟩, rfl,
      -⟩ := h
    refine ⟨host.answersAt n, 0, ?_, rfl⟩
    simp only [TopUpStage.next, Agent.transferToCmc, Fallible.bind_eq_ok]
    refine ⟨result, hresult, ?_⟩
    rw [Fallible.mapError_eq_ok.mp hraw]
    simp only [Fallible.bind_eq_ok, Fallible.pure_eq_ok]
    exact ⟨blockIndex, hblock, rfl⟩
  | mintingCycles blockIndex usdcSpent =>
    simp only [TopUpHost.next, mintCycles, bind_eq_ok, lift_eq_ok, ask, ask_eq_ok, observe_eq_ok,
      pure_eq_ok] at h
    obtain ⟨result, _, ⟨hresult, rfl⟩, raw, _, ⟨hraw, rfl⟩, minted, _, ⟨hminted, rfl⟩, nowNs, _,
      ⟨-, rfl⟩, rfl, -⟩ := h
    refine ⟨host.answersAt n, nowNs, ?_, rfl⟩
    simp only [TopUpStage.next, Agent.mintCycles, Fallible.bind_eq_ok]
    refine ⟨result, hresult, ?_⟩
    rw [Fallible.mapError_eq_ok.mp hraw]
    simp only [Fallible.bind_eq_ok, Fallible.pure_eq_ok]
    exact ⟨minted, hminted, rfl⟩
  | completed cyclesMinted usdcSpent completedAtNs =>
    exact ⟨host.answersAt n, 0, congrArg Except.ok (pure_eq_ok.mp h).1, rfl⟩
  | failed stage error failedAtNs attempts =>
    exact ⟨host.answersAt n, 0, congrArg Except.ok (pure_eq_ok.mp h).1, rfl⟩

end Refinement

section Progress

variable {host} {n calls usdcAmount : ℕ} {txHash : String} {stage next : TopUpStage}

/-- The place of a stage in the order of stages. -/
def rank : TopUpStage → ℕ
  | .preflight => 0
  | .approvingLocker _ => 1
  | .waitingApprovalConfirmation _ _ => 2
  | .lockingUsdc _ => 3
  | .waitingLockConfirmation _ _ _ => 4
  | .validatingOnOnesec _ _ => 5
  | .waitingForBridgedUsdc _ _ _ => 6
  | .approvingKongSwap _ _ => 7
  | .swappingToIcp _ _ => 8
  | .transferringToCmc _ _ => 9
  | .mintingCycles _ _ => 10
  | .completed _ _ _ | .failed _ _ _ _ => 11

/-- A stage that does not wait is left for a later one, for one that waits or for the last. -/
def Moves (stage next : TopUpStage) : Prop :=
  stage.isWaiting = true ∨ rank stage < rank next ∨ next.isWaiting = true ∨ next.isTerminal = true

/-- How many passes of the loop there are at most from a stage on. -/
def passesLeft : TopUpStage → ℕ
  | .preflight | .waitingApprovalConfirmation _ _ | .waitingLockConfirmation _ _ _
  | .transferringToCmc _ _ => 2
  | .waitingForBridgedUsdc _ _ _ => 5
  | .approvingKongSwap _ _ => 4
  | .swappingToIcp _ _ => 3
  | _ => 1

/-- How many calls there are at most from a stage on. -/
def callsLeft : TopUpStage → ℕ
  | .preflight | .waitingApprovalConfirmation _ _ => 7
  | .approvingLocker _ | .lockingUsdc _ | .waitingForBridgedUsdc _ _ _ => 5
  | .approvingKongSwap _ _ => 4
  | .waitingLockConfirmation _ _ _ | .swappingToIcp _ _ => 3
  | .transferringToCmc _ _ => 2
  | .validatingOnOnesec _ _ | .mintingCycles _ _ => 1
  | .completed _ _ _ | .failed _ _ _ _ => 0

/-- The loop ends with a stage, or goes on with a later one, from which on less is left. It comes to
the bridge from the lock. -/
def Advances (stage next : TopUpStage) : Prop :=
  next.isWaiting = true ∨ next.isTerminal = true ∨
    rank stage < rank next ∧ passesLeft next < passesLeft stage ∧
      budget stage + callsLeft next ≤ callsLeft stage ∧
      ∀ usdcAmount txHash, next = .validatingOnOnesec usdcAmount txHash →
        ∃ known, stage = .waitingLockConfirmation usdcAmount txHash known

/-- Every stage advances, but for one that the bridge keeps waiting. -/
theorem next_advances {config : TopUpConfig} {answers : TopUpAnswers} {nowNs : ℕ}
    (hlive : stage.isTerminal = false) (h : stage.next config answers nowNs = .ok next) :
    Advances stage next ∨ ∃ usdcAmount txHash height,
      stage = .validatingOnOnesec usdcAmount txHash ∧ next = .validatingOnOnesec usdcAmount txHash ∧
        answers.transferEvmToIcp = .ok (.fetching height) := by
  cases stage with
  | preflight =>
    simp only [TopUpStage.next, Agent.preflight, Fallible.throw_bind, Fallible.ite_error_eq_ok,
      Fallible.bind_eq_ok, Fallible.pure_eq_ok] at h
    obtain ⟨-, _, -, _, -, -, -, _, -, _, -, _, -, _, -, -, rfl⟩ := h
    exact .inl (.inr (.inr (by simp [rank, passesLeft, callsLeft, budget])))
  | approvingLocker usdcAmount =>
    simp only [TopUpStage.next, Agent.approveLocker, Fallible.bind_eq_ok, Fallible.pure_eq_ok] at h
    obtain ⟨_, -, rfl⟩ := h
    exact .inl (.inl rfl)
  | waitingApprovalConfirmation usdcAmount txHash =>
    simp only [TopUpStage.next, Agent.pollApproval, Fallible.bind_eq_ok] at h
    obtain ⟨_ | count, -, h⟩ := h
    · obtain rfl := Fallible.pure_eq_ok.mp h
      exact .inl (.inl rfl)
    · dsimp only at h
      split at h
      · obtain rfl := Fallible.pure_eq_ok.mp h
        exact .inl (.inl rfl)
      · obtain rfl := Fallible.pure_eq_ok.mp h
        exact .inl (.inr (.inr (by simp [rank, passesLeft, callsLeft, budget])))
  | lockingUsdc usdcAmount =>
    simp only [TopUpStage.next, Agent.lockUsdc, Fallible.bind_eq_ok, Fallible.pure_eq_ok] at h
    obtain ⟨_, -, rfl⟩ := h
    exact .inl (.inl rfl)
  | waitingLockConfirmation usdcAmount txHash known =>
    simp only [TopUpStage.next, Agent.pollLock, Fallible.bind_eq_ok] at h
    obtain ⟨_ | count, -, h⟩ := h
    · obtain rfl := Fallible.pure_eq_ok.mp h
      exact .inl (.inl rfl)
    · dsimp only at h
      split at h
      · obtain rfl := Fallible.pure_eq_ok.mp h
        exact .inl (.inl rfl)
      · obtain rfl := Fallible.pure_eq_ok.mp h
        exact .inl (.inr (.inr (by simp [rank, passesLeft, callsLeft, budget])))
  | validatingOnOnesec usdcAmount txHash =>
    simp only [TopUpStage.next, Agent.validateOnOnesec, Fallible.bind_eq_ok] at h
    obtain ⟨_, -, transferId | error | height, hresponse, h⟩ := h
    · obtain rfl := Fallible.pure_eq_ok.mp h
      exact .inl (.inl rfl)
    · cases h
    · obtain rfl := Fallible.pure_eq_ok.mp h
      exact .inr ⟨usdcAmount, txHash, height, rfl, rfl, hresponse⟩
  | waitingForBridgedUsdc usdcAmount transferId polls =>
    simp only [TopUpStage.next, Agent.pollBridge, Fallible.throw_bind, Fallible.ite_error_eq_ok,
      Fallible.bind_eq_ok] at h
    obtain ⟨-, _ | _ | amount | error, -, h⟩ := h
    · obtain rfl := Fallible.pure_eq_ok.mp h
      exact .inl (.inl rfl)
    · obtain rfl := Fallible.pure_eq_ok.mp h
      exact .inl (.inl rfl)
    · simp only [Fallible.bind_eq_ok, Fallible.pure_eq_ok] at h
      obtain ⟨_, -, rfl⟩ := h
      exact .inl (.inr (.inr (by simp [rank, passesLeft, callsLeft, budget])))
    · cases h
  | approvingKongSwap bridgedUsdcAmount usdcSpent =>
    simp only [TopUpStage.next, Agent.approveKongSwap, Fallible.bind_eq_ok] at h
    obtain ⟨error | block, -, h⟩ := h
    · cases h
    · obtain rfl := Fallible.pure_eq_ok.mp h
      exact .inl (.inr (.inr (by simp [rank, passesLeft, callsLeft, budget])))
  | swappingToIcp bridgedUsdcAmount usdcSpent =>
    simp only [TopUpStage.next, Agent.swapToIcp, Fallible.bind_eq_ok] at h
    obtain ⟨error | reply, -, h⟩ := h
    · cases h
    · simp only [Fallible.throw_bind, Fallible.ite_error_eq_ok, Fallible.bind_eq_ok,
        Fallible.pure_eq_ok] at h
      obtain ⟨-, _, -, rfl⟩ := h
      exact .inl (.inr (.inr (by simp [rank, passesLeft, callsLeft, budget])))
  | transferringToCmc icpAmount usdcSpent =>
    simp only [TopUpStage.next, Agent.transferToCmc, Fallible.bind_eq_ok] at h
    obtain ⟨error | blockIndex, -, h⟩ := h
    · cases h
    · simp only [Fallible.bind_eq_ok, Fallible.pure_eq_ok] at h
      obtain ⟨_, -, rfl⟩ := h
      exact .inl (.inr (.inr (by simp [rank, passesLeft, callsLeft, budget])))
  | mintingCycles blockIndex usdcSpent =>
    simp only [TopUpStage.next, Agent.mintCycles, Fallible.bind_eq_ok] at h
    obtain ⟨error | minted, -, h⟩ := h
    · cases h
    · simp only [Fallible.bind_eq_ok, Fallible.pure_eq_ok] at h
      obtain ⟨_, -, rfl⟩ := h
      exact .inl (.inr (.inl rfl))
  | completed cyclesMinted usdcSpent completedAtNs => cases hlive
  | failed stage error failedAtNs attempts => cases hlive

/-- The bridge is asked about a transaction and replies that it is fetching. -/
def BridgeFetching (host : TopUpHost) (txHash : String) (n : ℕ) : Prop :=
  (normalizeAddress host.settings.evmAddress).isOk = true ∧
    (normalizeHexBlob txHash "lock tx hash").isOk = true ∧
    ∃ height, (host.replies n).transferEvmToIcp = .ok (.fetching height)

/-- The receipt and the latest block have the confirmations that a lock needs; the calls are
counted after which this is known. -/
def LockConfirmed (host : TopUpHost) (txHash : String) (n calls : ℕ) : Prop :=
  (normalizeHexBlob txHash "tx hash").isOk = true ∧
    ∃ status blockNumber, (host.replies n).receipt = .ok (.object status blockNumber) ∧
      checkStatus txHash status = .ok () ∧
      (host.settings.lockConfirmations ≤ 1 ∧ calls = n + 1 ∨
        1 < host.settings.lockConfirmations ∧ calls = n + 2 ∧
          ∃ rawBlock rawLatest receiptBlock latestBlock, blockNumber = some rawBlock ∧
            parseHexU64 rawBlock "receipt blockNumber" = .ok receiptBlock ∧
            (host.replies (n + 1)).blockNumber = .ok rawLatest ∧
            parseHexU64 rawLatest "eth_blockNumber" = .ok latestBlock ∧
            receiptBlock ≤ latestBlock ∧
            host.settings.lockConfirmations ≤
              saturatingAdd u64Max (latestBlock - receiptBlock) 1)

/-- The bridge is asked in a stage, or in the one after it, and replies that it is fetching. -/
def FetchingMet (host : TopUpHost) : TopUpStage → ℕ → Prop
  | .validatingOnOnesec _ txHash, n => host.BridgeFetching txHash n
  | .waitingLockConfirmation _ txHash _, n =>
    ∃ calls, host.LockConfirmed txHash n calls ∧ host.BridgeFetching txHash calls
  | _, _ => False

/-- The stage that asks the bridge stays when the bridge is fetching. -/
theorem validateOnOnesec_stays :
    host.validateOnOnesec usdcAmount txHash n =
        (.ok (.validatingOnOnesec usdcAmount txHash), calls) ↔
      host.BridgeFetching txHash n ∧ calls = n + 1 := by
  simp only [validateOnOnesec, bind_eq_ok, lift_eq_ok, ask, ask_eq_ok, BridgeFetching, Fallible.isOk_iff_exists]
  constructor
  · rintro ⟨address, _, ⟨haddress, rfl⟩, blob, _, ⟨hblob, rfl⟩, response, _, ⟨hresponse, rfl⟩, h⟩
    cases response with
    | accepted transferId => cases (pure_eq_ok.mp h).1
    | failed error => cases fail_eq_ok.mp h
    | fetching height =>
      exact ⟨⟨⟨address, haddress⟩, ⟨blob, hblob⟩, height, hresponse⟩, (pure_eq_ok.mp h).2.symm⟩
  · rintro ⟨⟨⟨address, haddress⟩, ⟨blob, hblob⟩, height, hresponse⟩, rfl⟩
    exact ⟨address, n, ⟨haddress, rfl⟩, blob, n, ⟨hblob, rfl⟩, .fetching height, n + 1,
      ⟨hresponse, rfl⟩, rfl⟩

/-- The stage that waits for the lock is left when the lock is confirmed. -/
theorem pollLock_confirmed {known : ℕ} :
    host.pollLock usdcAmount txHash known n =
        (.ok (.validatingOnOnesec usdcAmount txHash), calls) ↔
      host.LockConfirmed txHash n calls := by
  simp only [pollLock, bind_eq_ok, pure_eq_ok, LockConfirmed, Fallible.isOk_iff_exists]
  constructor
  · rintro ⟨found, _, hfound, hstage, rfl⟩
    obtain ⟨count, rfl, hcount⟩ : ∃ count, found = some count ∧
        host.settings.lockConfirmations ≤ count := by
      split at hstage
      · rename_i hany
        cases found with
        | none => cases hany
        | some count => exact ⟨count, rfl, of_decide_eq_true hany⟩
      · cases hstage
    simp only [pollTx, bind_eq_ok, lift_eq_ok, ask, ask_eq_ok] at hfound
    obtain ⟨blob, _, ⟨hblob, rfl⟩, receipt, _, ⟨hreceipt, rfl⟩, h⟩ := hfound
    cases receipt with
    | null => cases (pure_eq_ok.mp h).1
    | noObject => cases fail_eq_ok.mp h
    | object status blockNumber =>
      simp only [bind_eq_ok, lift_eq_ok, pure_eq_ok] at h
      obtain ⟨_, _, ⟨hstatus, rfl⟩, count', _, hconfirmations, hsame, rfl⟩ := h
      obtain rfl := Option.some.inj hsame
      refine ⟨⟨blob, hblob⟩, status, blockNumber, hreceipt, hstatus, ?_⟩
      unfold confirmations at hconfirmations
      split at hconfirmations
      · rename_i hrequired
        exact .inl ⟨hrequired, (pure_eq_ok.mp hconfirmations).2.symm⟩
      · rename_i hrequired
        simp only [bind_eq_ok, lift_eq_ok, ask, ask_eq_ok, ite_fail_eq_ok,
          pure_eq_ok] at hconfirmations
        obtain ⟨rawBlock, _, ⟨hrawBlock, rfl⟩, receiptBlock, _, ⟨hblock, rfl⟩, rawLatest, _,
          ⟨hrawLatest, rfl⟩, latest, _, ⟨hlatest, rfl⟩, horder, rfl, rfl⟩ := hconfirmations
        have hnumber : blockNumber = some rawBlock := by
          cases blockNumber with
          | none => cases hrawBlock
          | some raw => exact congrArg some (Except.ok.inj hrawBlock)
        exact .inr ⟨not_le.mp hrequired, rfl, rawBlock, rawLatest, receiptBlock, latest, hnumber,
          hblock, hrawLatest, hlatest, not_lt.mp horder, hcount⟩
  · rintro ⟨⟨blob, hblob⟩, status, blockNumber, hreceipt, hstatus, hcount⟩
    obtain ⟨count, hconfirmations, hcount⟩ : ∃ count,
        host.confirmations blockNumber host.settings.lockConfirmations (n + 1) =
          (.ok count, calls) ∧ host.settings.lockConfirmations ≤ count := by
      rcases hcount with ⟨hrequired, rfl⟩ | ⟨hrequired, rfl, rawBlock, rawLatest, receiptBlock,
        latest, rfl, hblock, hrawLatest, hlatest, horder, hcount⟩
      · exact ⟨1, by rw [confirmations, if_pos hrequired]; rfl, hrequired⟩
      · refine ⟨_, ?_, hcount⟩
        rw [confirmations, if_neg (not_le.mpr hrequired)]
        simp only [bind_eq_ok, lift_eq_ok, ask, ask_eq_ok, ite_fail_eq_ok, pure_eq_ok]
        exact ⟨rawBlock, _, ⟨rfl, rfl⟩, receiptBlock, _, ⟨hblock, rfl⟩, rawLatest, _,
          ⟨hrawLatest, rfl⟩, latest, _, ⟨hlatest, rfl⟩, not_lt.mpr horder, rfl, rfl⟩
    refine ⟨some count, calls, ?_, ?_, rfl⟩
    · simp only [pollTx, bind_eq_ok, lift_eq_ok, ask, ask_eq_ok]
      refine ⟨blob, n, ⟨hblob, rfl⟩, .object status blockNumber, n + 1, ⟨hreceipt, rfl⟩, ?_⟩
      simp only [bind_eq_ok, lift_eq_ok, pure_eq_ok]
      exact ⟨(), n + 1, ⟨hstatus, rfl⟩, count, calls, hconfirmations, rfl, rfl⟩
    · rw [if_pos]
      simpa using hcount

/-- While the bridge is not met fetching, every pass of the loop advances and meets no more. -/
theorem advances_of_quiet (hlive : stage.isTerminal = false) (hquiet : ¬ host.FetchingMet stage n)
    (h : host.next stage n = (.ok next, calls)) :
    Advances stage next ∧ (next.isWaiting = false → ¬ host.FetchingMet next calls) := by
  obtain ⟨answers, nowNs, hnext, -⟩ := next_refines h
  rcases next_advances hlive hnext with hadvances | ⟨usdcAmount, txHash, height, rfl, rfl, -⟩
  · refine ⟨hadvances, fun hwaiting hmet => ?_⟩
    cases next with
    | validatingOnOnesec usdcAmount txHash =>
      rcases hadvances with hwaits | hends | ⟨-, -, -, hlock⟩
      · cases hwaits
      · cases hends
      · obtain ⟨known, rfl⟩ := hlock usdcAmount txHash rfl
        exact hquiet ⟨calls, pollLock_confirmed.mp h, hmet⟩
    | waitingLockConfirmation usdcAmount txHash known => cases hwaiting
    | _ => exact hmet
  · exact absurd (validateOnOnesec_stays.mp h).1 hquiet

/-- From a stage on, the loop ends within its passes and calls. -/
theorem advanceLoop_of_quiet (fuel : ℕ) (hfuel : passesLeft stage ≤ fuel)
    (hquiet : ¬ host.FetchingMet stage n) :
    ∃ run, host.advanceLoop fuel stage n = some run ∧ run.calls ≤ n + callsLeft stage ∧
      (stage :: run.saved).IsChain Moves := by
  induction fuel generalizing stage n with
  | zero =>
    have hpositive : 0 < passesLeft stage := by cases stage <;> simp [passesLeft]
    omega
  | succ fuel ih =>
    rw [advanceLoop]
    cases hlive : stage.isTerminal with
    | true => exact ⟨_, rfl, Nat.le_add_right _ _, .singleton _⟩
    | false =>
      have hspent := @within_next host stage n
      have hstage : budget stage ≤ callsLeft stage := by
        cases stage <;> simp [budget, callsLeft]
      cases hnext : host.next stage n with
      | mk result calls =>
        rw [hnext] at hspent
        dsimp only at hspent
        cases result with
        | error error =>
          exact ⟨_, rfl, by dsimp only; omega,
            .cons_cons (.inr (.inr (.inr rfl))) (.singleton _)⟩
        | ok next =>
          obtain ⟨hadvances, hlater⟩ := advances_of_quiet hlive hquiet hnext
          dsimp only [Bool.false_eq_true, if_false]
          cases hends : next.isTerminal with
          | true =>
            exact ⟨_, rfl, by dsimp only; omega,
              .cons_cons (.inr (.inr (.inr hends))) (.singleton _)⟩
          | false =>
            cases hwaits : next.isWaiting with
            | true =>
              exact ⟨_, rfl, by dsimp only; omega,
                .cons_cons (.inr (.inr (.inl hwaits))) (.singleton _)⟩
            | false =>
              rcases hadvances with hwaits' | hends' | ⟨hrank, hpasses, hbudget, -⟩
              · rw [hwaits] at hwaits'
                cases hwaits'
              · rw [hends] at hends'
                cases hends'
              · obtain ⟨run, hrun, hcalls, hchain⟩ := ih (by omega) (hlater hwaits)
                refine ⟨{ run with saved := next :: run.saved }, ?_, ?_, ?_⟩
                · simp only [hrun]
                  rfl
                · dsimp only
                  omega
                · exact .cons_cons (.inr (.inl hrank)) hchain

/-- A bridge that is fetching keeps the loop in its stage. -/
theorem advanceLoop_of_fetching {fuel : ℕ} {run : AdvanceRun} (hmet : host.FetchingMet stage n)
    (h : host.advanceLoop fuel stage n = some run) : ¬ (stage :: run.saved).IsChain Moves := by
  induction fuel generalizing stage n run with
  | zero => cases h
  | succ fuel ih =>
    cases stage with
    | validatingOnOnesec usdcAmount txHash =>
      have hstays : host.next (.validatingOnOnesec usdcAmount txHash) n = _ :=
        validateOnOnesec_stays.mpr ⟨hmet, rfl⟩
      rw [advanceLoop, hstays] at h
      obtain ⟨rest, -, rfl⟩ := Option.map_eq_some_iff.mp h
      intro hchain
      have hmoves := (List.isChain_cons_cons.mp hchain).1
      simp [Moves, TopUpStage.isWaiting, TopUpStage.isTerminal] at hmoves
    | waitingLockConfirmation usdcAmount txHash known =>
      obtain ⟨calls, hlock, hfetching⟩ := hmet
      have hleft : host.next (.waitingLockConfirmation usdcAmount txHash known) n = _ :=
        pollLock_confirmed.mpr hlock
      rw [advanceLoop, hleft] at h
      obtain ⟨rest, hrest, rfl⟩ := Option.map_eq_some_iff.mp h
      have hmet : host.FetchingMet (.validatingOnOnesec usdcAmount txHash) calls := hfetching
      intro hchain
      exact ih hmet hrest (List.isChain_cons_cons.mp hchain).2
    | _ => exact hmet.elim

end Progress

section Work

variable (host : TopUpHost)

/-- A run of `advance` returns after at most 5 passes of its loop and 7 calls, and leaves every
stage that does not wait. -/
def BoundedWork (stored : Option TopUpStage) : Prop :=
  ∃ run, host.advance 5 stored = some run ∧ run.calls ≤ 7 ∧
    (stored.toList ++ run.saved).IsChain Moves

/-- The work of `advance` is bounded unless the bridge, when it is asked to validate the lock,
replies that it is still fetching. -/
theorem boundedWork_iff (stored : Option TopUpStage) :
    host.BoundedWork stored ↔ ∀ stage ∈ stored, ¬ host.FetchingMet stage 0 := by
  cases stored with
  | none => simpa using ⟨⟨true, [], 0⟩, rfl, Nat.zero_le _, List.isChain_nil⟩
  | some stage =>
    simp only [Option.mem_some_iff, forall_eq']
    constructor
    · rintro ⟨run, hrun, -, hchain⟩ hmet
      exact advanceLoop_of_fetching hmet hrun hchain
    · intro hquiet
      have hpasses : passesLeft stage ≤ 5 := by cases stage <;> simp [passesLeft]
      have hcalls : callsLeft stage ≤ 7 := by cases stage <;> simp [callsLeft]
      obtain ⟨run, hrun, hspent, hchain⟩ := advanceLoop_of_quiet 5 hpasses hquiet
      exact ⟨run, hrun, by omega, hchain⟩

end Work

section Stuck

private def lockHash : String := "0x" ++ Hex.encode (List.replicate 32 0x22)

/-- A host whose calls fail, but for the bridge, which is always fetching. -/
private def fetchingHost : TopUpHost where
  settings := {
    toTopUpConfig := .default
    evmAddress := "0x" ++ Hex.encode (List.replicate 20 0x11)
    usdcContractAddress := "0x" ++ Hex.encode (List.replicate 20 0x33)
    onesecLockerAddress := "0x" ++ Hex.encode (List.replicate 20 0x44)
    evmChainId := 8453 }
  canister := [1]
  recoverYParity _ _ _ := .ok 0
  replies _ := {
    nowNs := 0
    cycleBalance := 0
    usdcBalance := .error "unavailable"
    transactionCount := .error "unavailable"
    gasPrice := .error "unavailable"
    estimatedGas := .error "unavailable"
    signature := .error "unavailable"
    sentTransaction := .error "unavailable"
    receipt := .error "unavailable"
    blockNumber := .error "unavailable"
    transferFees := .error "unavailable"
    transferEvmToIcp := .ok (.fetching 0)
    getTransfer := .error "unavailable"
    icrc2Approve := .error "unavailable"
    swap := .error "unavailable"
    icrc1Transfer := .error "unavailable"
    notifyTopUp := .error "unavailable" }

private theorem fetchingHost_stays (n : ℕ) :
    fetchingHost.next (.validatingOnOnesec 50000000 lockHash) n =
      (.ok (.validatingOnOnesec 50000000 lockHash), n + 1) := by
  have haddress : (normalizeAddress fetchingHost.settings.evmAddress).isOk = true := by
    have hnormal : normalizeEvmAddress fetchingHost.settings.evmAddress =
        .ok fetchingHost.settings.evmAddress := normalizeEvmAddress_encode List.length_replicate
    rw [normalizeAddress, hnormal]
    rfl
  have hhash : (normalizeHexBlob lockHash "lock tx hash").isOk = true := by
    rw [lockHash, normalizeHexBlob_encode]
    rfl
  exact validateOnOnesec_stays.mpr ⟨⟨haddress, hhash, 0, rfl⟩, rfl⟩

private theorem fetchingHost_loops (fuel n : ℕ) :
    fetchingHost.advanceLoop fuel (.validatingOnOnesec 50000000 lockHash) n = none := by
  induction fuel generalizing n with
  | zero => rfl
  | succ fuel ih =>
    rw [advanceLoop, fetchingHost_stays]
    exact congrArg (Option.map _) (ih (n + 1))

/-- It never returns while the bridge is fetching. -/
theorem fetchingHost_never_returns :
    ¬ ∃ fuel outcome,
      fetchingHost.advance fuel (some (.validatingOnOnesec 50000000 lockHash)) = some outcome := by
  rintro ⟨fuel, outcome, hreturns⟩
  have hnone : fetchingHost.advance fuel (some (.validatingOnOnesec 50000000 lockHash)) = none :=
    fetchingHost_loops fuel 0
  rw [hnone] at hreturns
  cases hreturns

end Stuck

end TopUpHost

end Automaton.Agent
