import Automaton.Library.Rlp
import Automaton.Strategy.Executions
import Automaton.Util

/-!
# Sending the calls of an execution

`execute_strategy_plan` sends the calls of a stored execution in their order. A call is signed and
posted to an endpoint, and posted again to the fallback when the transport fails. A run is cut at
its awaits: it waits for the answers from which the transaction is built, and then for the reply to
the transaction. The stored execution is read before the first await and compared after the last.
-/

namespace Automaton.Strategy

open Machine Rlp

/-- `SendEthArgs`. -/
structure SendEthArgs where
  toAddress : String
  valueWei : String
  data : Option String
  deriving DecidableEq

/-- `ParsedSendEthArgs`, without the texts that only the gas estimate repeats. -/
structure ParsedSendEthArgs where
  toAddress : List UInt8
  valueWei : ℕ
  data : List UInt8
  deriving DecidableEq

/-- `parse_decimal_u256`. -/
def parseDecimalU256 (raw field : String) : Except String ℕ :=
  let trimmed := Text.trim raw
  if trimmed = "" then .error (field ++ " cannot be empty")
  else if !trimmed.toList.all Char.isDigit then .error (field ++ " must be a decimal string")
  else (Decimal.parseUnsigned u256Max trimmed).elim
    (.error ("failed to parse " ++ field ++ " as decimal: " ++ u256TooLarge)) .ok

/-- `strategy_call_to_send_eth_args_json`, whose texts need no escapes. -/
def strategyCallToSendEthArgs (call : StrategyExecutionCall) : Except String SendEthArgs := do
  let toAddress ← normalizeEvmAddress call.toAddress
  let valueWei ← parseDecimalU256 call.valueWei "value_wei"
  let data ← normalizeHexBlob call.data "data"
  .ok ⟨toAddress, toString valueWei, some data⟩

/-- The bytes of a normalized text. -/
def decodeHexBlob (text : String) : List UInt8 := Hex.bytes (text.toList.drop 2)

/-- `parse_send_eth_args`. -/
def parseSendEthArgs (args : SendEthArgs) : Except String ParsedSendEthArgs := do
  let toAddress ← normalizeEvmAddress args.toAddress
  let valueWei ← parseDecimalU256 args.valueWei "value_wei"
  let data ← args.data.elim (.ok "0x") (normalizeHexBlob · "data")
  .ok ⟨decodeHexBlob toAddress, valueWei, decodeHexBlob data⟩

/-- The fields of `RuntimeSnapshot` that transactions are built from and receipts are read with. -/
structure RuntimeSnapshot where
  evmAddress : Option String
  evmRpcUrl : String
  evmRpcFallbackUrl : Option String
  chainId : ℕ
  confirmationDepth : ℕ

/-- `HttpEvmRpcClient::from_snapshot`: whether there is a client. -/
def RuntimeSnapshot.rpcClient (snapshot : RuntimeSnapshot) : Except String Unit :=
  if Text.trim snapshot.evmRpcUrl = "" then .error "evm rpc url is not configured" else .ok ()

/-- `Eip1559UnsignedTx`. -/
structure Eip1559UnsignedTx where
  chainId : ℕ
  nonce : ℕ
  maxPriorityFeePerGas : ℕ
  maxFeePerGas : ℕ
  gasLimit : ℕ
  toAddress : List UInt8
  value : ℕ
  data : List UInt8

/-- A number as an item. -/
def uintItem (value : ℕ) : Item := .bytes (trimZeros (toBigEndian 32 value))

/-- The fields of a transaction, with an empty access list. -/
def Eip1559UnsignedTx.items (tx : Eip1559UnsignedTx) : List Item :=
  [uintItem tx.chainId, uintItem tx.nonce, uintItem tx.maxPriorityFeePerGas,
    uintItem tx.maxFeePerGas, uintItem tx.gasLimit, .bytes tx.toAddress, uintItem tx.value,
    .bytes tx.data, .list []]

/-- `encode_eip1559_unsigned`. -/
def encodeEip1559Unsigned (tx : Eip1559UnsignedTx) : List UInt8 :=
  0x02 :: (Item.list tx.items).encode

/-- `encode_eip1559_signed`. -/
def encodeEip1559Signed (tx : Eip1559UnsignedTx) (yParity r s : ℕ) : List UInt8 :=
  0x02 :: (Item.list (tx.items ++ [uintItem yParity, uintItem r, uintItem s])).encode

/-- `parse_compact_signature`. -/
def parseCompactSignature (raw : String) : Except String (List UInt8) := do
  let normalized ← normalizeHexBlob raw "signature"
  if normalized.toList.length ≠ 130 then .error "signature must be 64 bytes (r||s)"
  else .ok (decodeHexBlob normalized)

/-- The answers that arrive before the transaction is posted: the balance, the nonce, the gas limit,
the gas price, the signature, and whether the last call can be paid for. -/
structure SendAnswers where
  balance : Except String ℕ
  nonce : Except String ℕ
  gasLimit : Except String ℕ
  gasPrice : Except String ℕ
  signature : Except String String
  affordable : Except String Unit

/-- How `eth_send_raw_transaction` reports an error of its call. -/
def sendRawTransactionFailed (error : String) : String :=
  "eth_sendRawTransaction failed: " ++ error

/-- `send_eth_tool` up to the signed transaction, which is posted next. -/
def buildRawTransaction
    (recoverYParity : List UInt8 → List UInt8 → String → Except String ℕ)
    (args : ParsedSendEthArgs) (fromAddress : String) (chainId : ℕ) (answers : SendAnswers) :
    Except String (List UInt8) := do
  let balance ← answers.balance
  if balance < args.valueWei then
    .error ("insufficient balance for send_eth: balance=" ++ toString balance ++ " value=" ++
      toString args.valueWei)
  else
    let nonce ← answers.nonce
    let gasLimit := if args.data.isEmpty then 21000 else answers.gasLimit.toOption.getD 300000
    let baseFee := answers.gasPrice.toOption.getD 1000000000
    let tx : Eip1559UnsignedTx := {
      chainId := chainId
      nonce := nonce
      maxPriorityFeePerGas := 1000000000
      maxFeePerGas := (baseFee + 1000000000) % 2 ^ 256
      gasLimit := gasLimit
      toAddress := args.toAddress
      value := args.valueWei
      data := args.data }
    let signature ← parseCompactSignature (← answers.signature)
    let yParity ← recoverYParity (encodeEip1559Unsigned tx) signature fromAddress
    answers.affordable.mapError sendRawTransactionFailed
    .ok (encodeEip1559Signed tx yParity (ofBigEndian (signature.take 32))
      (ofBigEndian (signature.drop 32)))

/-- What an endpoint's response to the transaction holds. -/
inductive RpcResponse
  | malformed (error : String)
  | error (text : String)
  | result (value : Option String)

/-- The transaction hash of a response, in `rpc_call` and `eth_send_raw_transaction`. -/
def RpcResponse.transactionHash : RpcResponse → Except String String
  | malformed reason => .error (sendRawTransactionFailed
      ("failed to parse eth_sendRawTransaction response JSON: " ++ reason))
  | error text => .error (sendRawTransactionFailed text)
  | result none => .error "eth_sendRawTransaction result was missing"
  | result (some raw) => normalizeHexBlob raw "eth_sendRawTransaction result"

/-- `classify_strategy_failure_kind`. -/
def classifyStrategyFailureKind (error : String) : StrategyOutcomeKind :=
  let normalized := Text.toAsciiLowercase error
  if ["timeout", "temporarily unavailable", "connection reset", "connection refused", "network",
      "dns", "tls", "503", "502", "429", "gateway", "rate limit", "deadline exceeded"].any
      (Text.contains normalized ·) then
    .nondeterministicFailure
  else .deterministicFailure

/-- What a run waits for. -/
inductive SendPhase
  | preparing (args : ParsedSendEthArgs) (fromAddress : String) (chainId : ℕ)
  | primary (raw : List UInt8)
  | fallback (raw : List UInt8) (primaryError : String)

/-- A run of `execute_strategy_plan` at an await: its copy of the execution, the hashes so far, the
call that is sent and those that follow it. -/
structure PlanRun where
  executionId : String
  execution : PendingStrategyExecution
  txHashes : List String
  index : ℕ
  rest : List StrategyExecutionCall
  fallbackRpcUrl : Option String
  phase : SendPhase

/-- The transaction that a run has posted. -/
def PlanRun.posted (run : PlanRun) : Option (List UInt8) :=
  match run.phase with
  | .preparing _ _ _ => none
  | .primary raw => some raw
  | .fallback raw _ => some raw

/-- Where a run is. -/
inductive RunState
  | sending (run : PlanRun)
  | ended (result : Except String (List String))

/-- What a run reads when it goes on. -/
structure BroadcastEnv where
  nowNs : ℕ
  snapshot : RuntimeSnapshot
  affordable : Except String Unit
  policy : QuarantinePolicy

/-- The call has the hash of a transaction. -/
def PendingStrategyExecution.hasHash (execution : PendingStrategyExecution) (index : ℕ) : Bool :=
  execution.calls[index]?.any (·.txHash.isSome)

/-- An execution after one of its calls could not be sent. -/
def PendingStrategyExecution.dropCall (execution : PendingStrategyExecution) (index : ℕ)
    (error : String) (txHashes : List String) (nowNs : ℕ) : PendingStrategyExecution :=
  { execution with
    calls := execution.calls.modify index fun call =>
      { call with error := some error, state := .dropped }
    updatedAtNs := nowNs
    state := if txHashes.isEmpty then .dropped else .partialFailure }

/-- An execution after one of its calls was sent. -/
def PendingStrategyExecution.submitCall (execution : PendingStrategyExecution) (index : ℕ)
    (txHash : String) (nowNs : ℕ) : PendingStrategyExecution :=
  { execution with
    calls := execution.calls.modify index fun call =>
      { call with txHash := some txHash, state := .submitted, submittedAtNs := some nowNs }
    updatedAtNs := nowNs
    nextCheckAtNs := nowNs }

/-- `send_eth_tool` up to its first await. -/
def beginSend (env : BroadcastEnv) (args : SendEthArgs) :
    Except String (ParsedSendEthArgs × String) := do
  let parsed ← parseSendEthArgs args
  let fromAddress ← env.snapshot.evmAddress.elim (.error "evm address not derived yet") .ok
  env.affordable
  env.snapshot.rpcClient
  .ok (parsed, fromAddress)

section Runs

variable (keccakHex : String → String) (rows : StrategyRows) (env : BroadcastEnv)

/-- A run ends because a call could not be sent. -/
def StrategyRows.failRun (execution : PendingStrategyExecution) (index : ℕ)
    (txHashes : List String) (kind : StrategyOutcomeKind) (error : String) :
    StrategyRows × RunState :=
  match rows.applyTerminalStrategyFailure keccakHex env.policy
    (execution.dropCall index error txHashes env.nowNs) kind error env.nowNs with
  | .error failure => (rows, .ended (.error failure))
  | .ok (_, next) => (next, .ended (.error error))

/-- A run ends because all calls were sent. -/
def StrategyRows.finishRun (executionId : String) (execution : PendingStrategyExecution)
    (txHashes : List String) : StrategyRows × RunState :=
  let execution := { execution with state := .pending, updatedAtNs := env.nowNs }
  match rows.executions[executionId]? with
  | none => (rows, .ended (.error "strategy execution disappeared before completion"))
  | some expected =>
    match rows.compareAndUpdate expected execution with
    | (true, next) => (next, .ended (.ok txHashes))
    | (false, next) =>
      (next, .ended (.error "strategy execution completion lost a durable progress race"))

/-- The loop of `execute_strategy_plan` up to its next await. -/
def StrategyRows.sendCalls (executionId : String) (execution : PendingStrategyExecution)
    (txHashes : List String) : ℕ → List StrategyExecutionCall → StrategyRows × RunState
  | _, [] => rows.finishRun env executionId execution txHashes
  | index, call :: rest =>
    if execution.hasHash index then
      StrategyRows.sendCalls executionId execution txHashes (index + 1) rest
    else
      match strategyCallToSendEthArgs call with
      | .error error =>
        rows.failRun keccakHex env execution index txHashes .deterministicFailure error
      | .ok args =>
        match beginSend env args with
        | .error error => rows.failRun keccakHex env execution index txHashes
            (classifyStrategyFailureKind error) error
        | .ok (args, fromAddress) => (rows, .sending {
            executionId := executionId
            execution := execution
            txHashes := txHashes
            index := index
            rest := rest
            fallbackRpcUrl := env.snapshot.evmRpcFallbackUrl
            phase := .preparing args fromAddress env.snapshot.chainId })

/-- `persist_strategy_outcome` for a failure. -/
def StrategyRows.persistStrategyFailure (plan : ExecutionPlan) (kind : StrategyOutcomeKind)
    (error : String) : Except String StrategyRows := do
  validateStrategyTemplateKey plan.key
  if Text.trim plan.actionId = "" then .error "outcome action_id must be non-empty"
  else
    let stats ← (rows.strategyOutcomeStats keccakHex plan.key).failWith kind error none env.nowNs
    let counted := { rows with
      outcomeStats := rows.outcomeStats.insert
        (strategyOutcomeStatsRecordKey keccakHex stats.key) stats }
    match rows.autoDeactivationForStats keccakHex stats env.nowNs with
    | none => .ok counted
    | some activation => .ok { counted with
        activations := counted.activations.insert
          (templateStateRecordKey keccakHex "activation" activation.key) activation }

/-- `execute_strategy_plan` up to its first await. -/
def StrategyRows.executeStrategyPlan (plan : ExecutionPlan) (executionId : String) :
    StrategyRows × RunState :=
  if plan.calls.isEmpty then
    let error := "execution plan has no calls"
    match rows.persistStrategyFailure keccakHex env plan (classifyStrategyFailureKind error)
      error with
    | .error failure => (rows, .ended (.error failure))
    | .ok next => (next, .ended (.error error))
  else
    match rows.executions[executionId]? with
    | none =>
      (rows, .ended (.error "pending strategy execution was not persisted before broadcast"))
    | some execution =>
      if execution.calls.map (·.call) ≠ plan.calls then
        (rows, .ended (.error "pending strategy execution does not match execution plan"))
      else if execution.terminalBookkeepingApplied then
        (rows, .ended (.error "strategy execution already reached a terminal failure"))
      else
        rows.sendCalls keccakHex env executionId execution (execution.calls.filterMap (·.txHash)) 0
          plan.calls

variable (run : PlanRun)

/-- A run goes on with the result of `send_eth_tool`. -/
def PlanRun.resume (result : Except String String) : StrategyRows × RunState :=
  match result with
  | .ok txHash =>
    let execution := run.execution.submitCall run.index txHash env.nowNs
    match rows.compareAndUpdate run.execution execution with
    | (true, next) => next.sendCalls keccakHex env run.executionId execution
        (run.txHashes ++ [txHash]) (run.index + 1) run.rest
    | (false, next) =>
      match next.executions[run.executionId]? with
      | none => (next, .ended (.error "strategy execution disappeared after submission"))
      | some stored =>
        if stored.state ≠ .pending then
          (next, .ended (.error "strategy execution reached a terminal state during submission"))
        else (next, .ended (.error "strategy execution submission lost a durable progress race"))
  | .error error => rows.failRun keccakHex env run.execution run.index run.txHashes
      (classifyStrategyFailureKind error) error

/-- The answers before the transaction arrive, and it is posted to the primary endpoint. -/
def PlanRun.prepare (recoverYParity : List UInt8 → List UInt8 → String → Except String ℕ)
    (answers : SendAnswers) : StrategyRows × RunState :=
  match run.phase with
  | .preparing args fromAddress chainId =>
    match buildRawTransaction recoverYParity args fromAddress chainId answers with
    | .error error => run.resume keccakHex rows env (.error error)
    | .ok raw => (rows, .sending { run with phase := .primary raw })
  | _ => (rows, .sending run)

/-- The result of `send_eth_tool` after the reply of an endpoint; there is none when the transaction
is posted to the fallback next. -/
def PlanRun.result (reply : Except String RpcResponse) : Option (Except String String) :=
  match run.phase, reply with
  | .preparing _ _ _, _ => none
  | _, .ok response => some response.transactionHash
  | .primary _, .error error =>
    if run.fallbackRpcUrl.isSome then none else some (.error (sendRawTransactionFailed error))
  | .fallback _ primaryError, .error error => some (.error (sendRawTransactionFailed
      ("primary rpc failed: " ++ primaryError ++ "; fallback rpc failed: " ++ error)))

/-- A run that posts its transaction to the fallback. -/
def PlanRun.fallBack (reply : Except String RpcResponse) : PlanRun :=
  match run.phase, reply with
  | .primary raw, .error error => { run with phase := .fallback raw error }
  | _, _ => run

/-- The reply of an endpoint arrives, in `http_post`. -/
def PlanRun.receive (reply : Except String RpcResponse) : StrategyRows × RunState :=
  match run.result reply with
  | some result => run.resume keccakHex rows env result
  | none => (rows, .sending (run.fallBack reply))

end Runs

end Automaton.Strategy
