import Automaton.Strategy.Broadcast

/-!
# Receipts of executions

`reconcile_pending_strategy_executions` takes up the pending executions that are due. It asks for
the receipts of the submitted calls of an execution, one after the other, and then writes what has
become of the execution. The copies that it works on are read before its first await.
-/

namespace Automaton.Strategy

open Machine

/-- `PENDING_STRATEGY_EXECUTION_SCAN_LIMIT`. -/
def pendingStrategyExecutionScanLimit : ℕ := 20

/-- `STRATEGY_EXECUTION_RECEIPT_TIMEOUT_NS`. -/
def strategyExecutionReceiptTimeoutNs : ℕ := 60 * 60 * 1000000000

/-- `STRATEGY_EXECUTION_RECHECK_NS`. -/
def strategyExecutionRecheckNs : ℕ := 15 * 1000000000

/-- `STRATEGY_EXECUTION_MAX_BACKOFF_NS`. -/
def strategyExecutionMaxBackoffNs : ℕ := 5 * 60 * 1000000000

/-- `TransactionReceiptStatus`. -/
inductive TransactionReceiptStatus
  | pending
  | confirmed
  | reverted
  deriving DecidableEq, Repr

/-- `StrategyReceiptObservation`. -/
structure StrategyReceiptObservation where
  status : TransactionReceiptStatus
  blockNumber : Option ℕ
  blockHash : Option String
  latestBlock : ℕ
  deriving DecidableEq, Repr

/-- A call that expires: it was not attempted, or it has no hash. -/
def PendingStrategyExecutionCall.expires (call : PendingStrategyExecutionCall) : Bool :=
  call.state = .unattempted || call.state = .submitted && call.txHash.isNone

/-- A call that has expired. -/
def PendingStrategyExecutionCall.expire (call : PendingStrategyExecutionCall) (nowNs : ℕ) :
    PendingStrategyExecutionCall :=
  if call.expires then
    { call with
      state := .dropped
      lastCheckedAtNs := some nowNs
      error := some "unattempted call recovery timeout exceeded" }
  else call

/-- `expire_unattempted_strategy_calls`. -/
def expireUnattemptedStrategyCalls (execution : PendingStrategyExecution) (nowNs : ℕ) :
    PendingStrategyExecution :=
  if nowNs - execution.createdAtNs < strategyExecutionReceiptTimeoutNs then execution
  else { execution with calls := execution.calls.map (·.expire nowNs) }

/-- `strategy_execution_rpc_backoff_ns`. -/
def strategyExecutionRpcBackoffNs (consecutiveFailures : ℕ) : ℕ :=
  min (saturatingMul u64Max strategyExecutionRecheckNs (2 ^ min consecutiveFailures 8))
    strategyExecutionMaxBackoffNs

/-- A call is pending for so long that it is given up. -/
def PendingStrategyExecutionCall.timedOut (call : PendingStrategyExecutionCall)
    (nowNs createdAtNs : ℕ) : Bool :=
  strategyExecutionReceiptTimeoutNs ≤ nowNs - call.submittedAtNs.getD createdAtNs

/-- `apply_strategy_receipt_observation`. -/
def applyStrategyReceiptObservation (call : PendingStrategyExecutionCall)
    (observation : StrategyReceiptObservation) (nowNs createdAtNs requiredDepth : ℕ) :
    Except String PendingStrategyExecutionCall :=
  let checked : PendingStrategyExecutionCall := { call with
    lastCheckedAtNs := some nowNs
    receiptBlockNumber := observation.blockNumber
    receiptBlockHash := observation.blockHash
    error := none }
  match observation.status with
  | .pending =>
    .ok (if checked.timedOut nowNs createdAtNs then
      { checked with state := .dropped, error := some "receipt timeout exceeded" }
    else checked)
  | .reverted =>
    .ok { checked with
      state := .reverted, error := some "transaction receipt status was 0x0" }
  | .confirmed => do
    let receiptBlock ← observation.blockNumber.elim
      (.error "confirmed strategy receipt missing block number") .ok
    if observation.latestBlock < receiptBlock then
      .error ("receipt block " ++ toString receiptBlock ++ " is greater than latest head " ++
        toString observation.latestBlock)
    else
      let confirmations ← (checkedAdd u64Max (observation.latestBlock - receiptBlock) 1).elim
        (.error "strategy receipt confirmation arithmetic overflow") .ok
      .ok (if max requiredDepth 1 ≤ confirmations then { checked with state := .confirmed }
        else checked)

/-- A call whose receipt is asked for. -/
def PendingStrategyExecutionCall.awaitsReceipt (call : PendingStrategyExecutionCall) : Bool :=
  call.state = .submitted && call.txHash.isSome

/-- The next call whose receipt is asked for. -/
def PendingStrategyExecution.nextReceipt (execution : PendingStrategyExecution) (first : ℕ) :
    Option ℕ :=
  ((execution.calls.drop first).findIdx? (·.awaitsReceipt)).map (· + first)

/-- Some call is in the given state. -/
def PendingStrategyExecution.someCall (execution : PendingStrategyExecution)
    (state : StrategyExecutionCallState) : Bool :=
  execution.calls.any (·.state = state)

/-- The execution fails because of one of its calls. -/
def PendingStrategyExecution.fails (execution : PendingStrategyExecution) : Bool :=
  execution.someCall .reverted || execution.someCall .dropped

/-- The state in which an execution fails because of its calls. -/
def PendingStrategyExecution.failedState (execution : PendingStrategyExecution) :
    PendingStrategyExecutionState :=
  if execution.someCall .confirmed then .partialFailure
  else if execution.someCall .reverted then .reverted
  else .dropped

/-- All calls of the execution are confirmed. -/
def PendingStrategyExecution.allConfirmed (execution : PendingStrategyExecution) : Bool :=
  !execution.calls.isEmpty && execution.calls.all (·.state = .confirmed)

/-- An execution after the receipt of one of its calls could not be read. -/
def PendingStrategyExecution.backOff (execution : PendingStrategyExecution) (index : ℕ)
    (error : String) (nowNs : ℕ) : PendingStrategyExecution :=
  let failures := saturatingAdd u32Max execution.consecutiveRpcFailures 1
  { execution with
    calls := execution.calls.modify index fun call =>
      { call with lastCheckedAtNs := some nowNs, error := some error }
    updatedAtNs := nowNs
    consecutiveRpcFailures := failures
    nextCheckAtNs := saturatingAdd u64Max nowNs (strategyExecutionRpcBackoffNs failures) }

/-- The job at an await: it waits for the receipt of a call of the execution that it has taken up,
and others follow. -/
structure ReceiptJob where
  nowNs : ℕ
  requiredDepth : ℕ
  expected : PendingStrategyExecution
  execution : PendingStrategyExecution
  index : ℕ
  rest : List PendingStrategyExecution

/-- Where a job is. -/
inductive JobState
  | waiting (job : ReceiptJob)
  | ended (result : Except String Unit)

/-- The copy of the execution after the receipt of the call that the job waits for. -/
def ReceiptJob.check (job : ReceiptJob) (observation : StrategyReceiptObservation) :
    Except String PendingStrategyExecution :=
  match job.execution.calls[job.index]? with
  | none => .ok job.execution
  | some call =>
    (applyStrategyReceiptObservation call observation job.nowNs job.execution.createdAtNs
      job.requiredDepth).map fun call =>
        { job.execution with calls := job.execution.calls.set job.index call }

section Jobs

variable (keccakHex : String → String) (policy : QuarantinePolicy) (rows : StrategyRows)

/-- `list_due_pending_strategy_executions`, which orders executions that are due at one time by when
they were made. -/
def StrategyRows.listDuePendingStrategyExecutions (nowNs : ℕ) :
    List PendingStrategyExecution :=
  let due := (rows.executions.toList.map (·.2)).filter fun execution =>
    execution.state = .pending && execution.nextCheckAtNs ≤ nowNs
  (due.mergeSort fun first second =>
    first.nextCheckAtNs < second.nextCheckAtNs ||
      first.nextCheckAtNs = second.nextCheckAtNs && first.createdAtNs ≤ second.createdAtNs).take
    pendingStrategyExecutionScanLimit

/-- What has become of an execution is written after its receipts were read. -/
def StrategyRows.settleExecution (expected execution : PendingStrategyExecution) (nowNs : ℕ) :
    Except String StrategyRows :=
  let checked : PendingStrategyExecution :=
    { execution with updatedAtNs := nowNs, consecutiveRpcFailures := 0 }
  if checked.fails then
    let reverted := checked.someCall .reverted
    (rows.applyTerminalStrategyFailure keccakHex policy
      { checked with state := checked.failedState, nextCheckAtNs := nowNs }
      (if reverted then .deterministicFailure else .nondeterministicFailure)
      (if reverted then "strategy transaction reverted" else "strategy transaction dropped")
      nowNs).map (·.2)
  else if checked.allConfirmed then
    (rows.applyConfirmedStrategyExecution keccakHex checked nowNs).map (·.2)
  else
    .ok (rows.compareAndUpdate expected { checked with
      state := .pending
      nextCheckAtNs := saturatingAdd u64Max nowNs strategyExecutionRecheckNs }).2

variable (nowNs requiredDepth : ℕ) (rpc : Except String Unit)

/-- The job takes up executions until it waits for a receipt. -/
def StrategyRows.takeUp (rows : StrategyRows) :
    List PendingStrategyExecution → StrategyRows × JobState
  | [] => (rows, .ended (.ok ()))
  | expected :: rest =>
    let execution := expireUnattemptedStrategyCalls expected nowNs
    match execution.nextReceipt 0 with
    | some index =>
      match rpc with
      | .ok () => (rows, .waiting ⟨nowNs, requiredDepth, expected, execution, index, rest⟩)
      | .error error =>
        StrategyRows.takeUp (rows.compareAndUpdate expected (execution.backOff index error nowNs)).2
          rest
    | none =>
      match rows.settleExecution keccakHex policy expected execution nowNs with
      | .error error => (rows, .ended (.error error))
      | .ok next => StrategyRows.takeUp next rest

/-- `reconcile_pending_strategy_executions` up to its first await. -/
def StrategyRows.reconcile (snapshot : RuntimeSnapshot) : StrategyRows × JobState :=
  rows.takeUp keccakHex policy nowNs (max snapshot.confirmationDepth 1) snapshot.rpcClient
    (rows.listDuePendingStrategyExecutions nowNs)

/-- The answer to the question for a receipt arrives. -/
def ReceiptJob.observe (job : ReceiptJob)
    (answer : Except String StrategyReceiptObservation) : StrategyRows × JobState :=
  let takeRest (rows : StrategyRows) : StrategyRows × JobState :=
    rows.takeUp keccakHex policy job.nowNs job.requiredDepth (.ok ()) job.rest
  match answer with
  | .error error =>
    takeRest (rows.compareAndUpdate job.expected
      (job.execution.backOff job.index error job.nowNs)).2
  | .ok observation =>
    match job.check observation with
    | .error error => (rows, .ended (.error error))
    | .ok execution =>
      match execution.nextReceipt (job.index + 1) with
      | some index => (rows, .waiting { job with execution := execution, index := index })
      | none =>
        match rows.settleExecution keccakHex policy job.expected execution job.nowNs with
        | .error error => (rows, .ended (.error error))
        | .ok next => takeRest next

end Jobs

section Due

variable {rows : StrategyRows} {nowNs : ℕ} {execution : PendingStrategyExecution}

theorem mem_listDuePendingStrategyExecutions
    (h : execution ∈ rows.listDuePendingStrategyExecutions nowNs) :
    (∃ executionId : String, rows.executions[executionId]? = some execution) ∧
      execution.state = .pending := by
  have hmem := List.mem_mergeSort.mp (List.mem_of_mem_take h)
  obtain ⟨hmem, hdue⟩ := List.mem_filter.mp hmem
  obtain ⟨entry, hentry, rfl⟩ := List.mem_map.mp hmem
  simp only [Bool.and_eq_true, decide_eq_true_eq] at hdue
  exact ⟨⟨entry.1, Std.ExtTreeMap.mem_toList_iff_getElem?_eq_some.mp hentry⟩, hdue.1⟩

/-- The executions that are due have different ids when each is stored under its own. -/
theorem nodup_listDuePendingStrategyExecutions
    (hkeyed : ∀ (executionId : String) (execution : PendingStrategyExecution),
      rows.executions[executionId]? = some execution → execution.executionId = executionId) :
    ((rows.listDuePendingStrategyExecutions nowNs).map (·.executionId)).Nodup := by
  have hids : (rows.executions.toList.map (·.2)).map (·.executionId) = rows.executions.keys := by
    rw [List.map_map, ← Std.ExtTreeMap.map_fst_toList_eq_keys]
    apply List.map_congr_left
    intro entry hmem
    exact hkeyed _ _ (Std.ExtTreeMap.mem_toList_iff_getElem?_eq_some.mp hmem)
  have hnodup : ((rows.executions.toList.map (·.2)).map (·.executionId)).Nodup :=
    hids ▸ Std.ExtTreeMap.nodup_keys
  refine List.Nodup.sublist ((List.take_sublist _ _).map _) ?_
  refine ((List.mergeSort_perm _ _).map _).nodup_iff.mpr ?_
  exact hnodup.sublist (List.filter_sublist.map _)

end Due

end Automaton.Strategy
