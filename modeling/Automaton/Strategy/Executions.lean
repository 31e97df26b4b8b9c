import Automaton.Library.Fallible
import Automaton.Strategy.Exposure

/-!
# Executions of strategies

An execution is stored as pending before its calls are sent. Its progress is written by comparison
with the copy that was read, and it leaves the pending state together with the bookkeeping of its
outcome: the statistics of its template, what the template has spent, the exposure and the
quarantine of its strategy.
-/

namespace Automaton.Strategy

open Machine

/-- An execution is pending, and no bookkeeping was applied for it. -/
def PendingStrategyExecution.isOpen (execution : PendingStrategyExecution) : Bool :=
  execution.state = .pending && !execution.bookkeepingApplied &&
    !execution.terminalBookkeepingApplied

/-- The plan of an execution, as `apply_confirmed_strategy_execution` rebuilds it. -/
def PendingStrategyExecution.plan (execution : PendingStrategyExecution) : ExecutionPlan where
  key := execution.key
  actionId := execution.actionId
  calls := execution.calls.map (·.call)
  preconditions := []
  postconditions := []
  assetEffects := execution.assetEffects
  riskChecks := []

/-- A call that was not attempted. -/
def newExecutionCall (index : ℕ) (call : StrategyExecutionCall) :
    PendingStrategyExecutionCall where
  index := min index u32Max
  call := call
  txHash := none
  state := .unattempted
  receiptBlockNumber := none
  receiptBlockHash := none
  submittedAtNs := none
  lastCheckedAtNs := none
  error := none

/-- The execution that `execute_strategy_action_tool` stores for a plan. -/
def newPendingExecution (turnId planDigest : String) (plan : ExecutionPlan) (nowNs : ℕ) :
    PendingStrategyExecution where
  executionId := "strategy:" ++ turnId ++ ":" ++ planDigest
  turnId := turnId
  key := plan.key
  actionId := plan.actionId
  planDigest := planDigest
  assetEffects := plan.assetEffects
  calls := plan.calls.mapIdx newExecutionCall
  state := .pending
  createdAtNs := nowNs
  updatedAtNs := nowNs
  nextCheckAtNs := nowNs
  consecutiveRpcFailures := 0
  bookkeepingApplied := false
  terminalBookkeepingApplied := false

/-- `insert_pending_strategy_execution`: the stored execution, which is an earlier one when the id
is taken. -/
def StrategyRows.insertPendingStrategyExecution (rows : StrategyRows)
    (execution : PendingStrategyExecution) :
    Except String (PendingStrategyExecution × StrategyRows) :=
  if Text.trim execution.executionId = "" ∨ Text.trim execution.planDigest = "" then
    .error "pending strategy execution identity cannot be empty"
  else do
    validateStrategyTemplateKey execution.key
    match rows.executions[execution.executionId]? with
    | none =>
      .ok (execution, { rows with
        executions := rows.executions.insert execution.executionId execution })
    | some existing =>
      if existing.planDigest ≠ execution.planDigest then
        .error "pending strategy execution id collision"
      else .ok (existing, rows)

/-- `compare_and_update_pending_strategy_execution`. -/
def StrategyRows.compareAndUpdate (rows : StrategyRows)
    (expected desired : PendingStrategyExecution) : Bool × StrategyRows :=
  if expected.executionId ≠ desired.executionId ∨ !expected.isOpen ∨ !desired.isOpen then
    (false, rows)
  else if rows.executions[desired.executionId]? = some expected then
    (true, { rows with executions := rows.executions.insert desired.executionId desired })
  else (false, rows)

/-- What a query for one row says when there is none. -/
def noRowsError : String := "Query returned no rows"

/-- A transaction is done when the stored execution is open. -/
def StrategyRows.whenOpen (rows : StrategyRows) (executionId : String) (next : StrategyRows) :
    Except String (Bool × StrategyRows) :=
  match rows.executions[executionId]? with
  | none => .error noRowsError
  | some current => if current.isOpen then .ok (true, next) else .ok (false, rows)

section Outcomes

variable (keccakHex : String → String) (rows : StrategyRows)

/-- The statistics of a template without outcomes. -/
def newOutcomeStats (key : StrategyTemplateKey) : StrategyOutcomeStats where
  key := key
  totalRuns := 0
  successRuns := 0
  deterministicFailures := 0
  nondeterministicFailures := 0
  deterministicFailureStreak := 0
  lastError := none
  lastTxHash := none
  lastObservedAtNs := none

/-- `strategy_outcome_stats`, with those of a template without outcomes when there are none. -/
def StrategyRows.strategyOutcomeStats (key : StrategyTemplateKey) : StrategyOutcomeStats :=
  (rows.outcomeStats[strategyOutcomeStatsRecordKey keccakHex key]?).getD (newOutcomeStats key)

/-- `strategy_template_budget_spent_wei`, with the default of its callers. -/
def StrategyRows.budgetSpentWei (key : StrategyTemplateKey) : String :=
  (rows.budgets[strategyBudgetRecordKey keccakHex key]?).getD "0"

/-- `confirm_strategy_execution_atomically`. -/
def StrategyRows.confirmAtomically (execution : PendingStrategyExecution)
    (exposureChange : Option (Option ActiveExposure)) (outcomeStats : StrategyOutcomeStats)
    (budget : Option String) (strategyId : String) : Except String (Bool × StrategyRows) :=
  rows.whenOpen execution.executionId { rows with
    executions := rows.executions.insert execution.executionId execution
    exposures := exposureChange.elim rows.exposures fun change =>
      change.elim (rows.exposures.erase strategyId) fun exposure =>
        rows.exposures.insert exposure.strategyId exposure
    outcomeStats := rows.outcomeStats.insert
      (strategyOutcomeStatsRecordKey keccakHex execution.key) outcomeStats
    budgets := budget.elim rows.budgets fun budget =>
      rows.budgets.insert (strategyBudgetRecordKey keccakHex execution.key) budget
    quarantines := rows.quarantines.erase strategyId }

/-- `fail_strategy_execution_atomically`. -/
def StrategyRows.failAtomically (execution : PendingStrategyExecution)
    (outcomeStats : StrategyOutcomeStats) (quarantine : StrategyQuarantine)
    (activation : Option TemplateActivationState) : Except String (Bool × StrategyRows) :=
  rows.whenOpen execution.executionId { rows with
    executions := rows.executions.insert execution.executionId execution
    outcomeStats := rows.outcomeStats.insert
      (strategyOutcomeStatsRecordKey keccakHex execution.key) outcomeStats
    quarantines := rows.quarantines.insert quarantine.strategyId quarantine
    activations := activation.elim rows.activations fun activation =>
      rows.activations.insert (templateStateRecordKey keccakHex "activation" execution.key)
        activation }

/-- The statistics after a success. -/
@[simps]
def StrategyOutcomeStats.succeed (stats : StrategyOutcomeStats) (txHash : Option String)
    (nowNs : ℕ) : StrategyOutcomeStats where
  key := stats.key
  totalRuns := saturatingAdd u64Max stats.totalRuns 1
  successRuns := saturatingAdd u64Max stats.successRuns 1
  deterministicFailures := stats.deterministicFailures
  nondeterministicFailures := stats.nondeterministicFailures
  deterministicFailureStreak := 0
  lastError := none
  lastTxHash := txHash
  lastObservedAtNs := some nowNs

/-- The statistics after a failure. -/
def StrategyOutcomeStats.failWith (stats : StrategyOutcomeStats) (kind : StrategyOutcomeKind)
    (reason : String) (txHash : Option String) (nowNs : ℕ) :
    Except String StrategyOutcomeStats :=
  let stats := { stats with
    totalRuns := saturatingAdd u64Max stats.totalRuns 1
    lastError := some reason
    lastTxHash := txHash
    lastObservedAtNs := some nowNs }
  match kind with
  | .deterministicFailure =>
    .ok { stats with
      deterministicFailures := saturatingAdd u64Max stats.deterministicFailures 1
      deterministicFailureStreak := saturatingAdd u32Max stats.deterministicFailureStreak 1 }
  | .nondeterministicFailure =>
    .ok { stats with
      nondeterministicFailures := saturatingAdd u64Max stats.nondeterministicFailures 1
      deterministicFailureStreak := 0 }
  | .success => .error "terminal failure cannot use success outcome kind"

/-- The sum of the values of calls, as `apply_confirmed_strategy_execution` computes it. -/
def sumCallValues : ℕ → List StrategyExecutionCall → Except String ℕ
  | spent, [] => .ok spent
  | spent, call :: calls => do
    let value ← parseU256Decimal call.valueWei
    let spent ← (checkedAdd u256Max spent value).elim (.error "strategy budget overflow") .ok
    sumCallValues spent calls

/-- What the template has spent after it spent more; without a value when nothing was spent. -/
def StrategyRows.budgetAfter (key : StrategyTemplateKey) (spent : ℕ) :
    Except String (Option String) :=
  if spent = 0 then .ok none
  else do
    let current ← parseU256Decimal (rows.budgetSpentWei keccakHex key)
    let updated ← (checkedAdd u256Max current spent).elim (.error "strategy budget overflow") .ok
    .ok (some (toString updated))

/-- What a confirmed execution changes about the exposure of its strategy. -/
def StrategyRows.exposureChange (plan : ExecutionPlan) (nowNs : ℕ) :
    Except String (Option (Option ActiveExposure)) :=
  let strategyId := strategyIdFromKey plan.key
  if isEnterOrExitAction plan.actionId then
    (if isExitAction plan.actionId then
      updateExposureAfterExit rows.exposures[strategyId]? strategyId plan nowNs
    else updateExposureAfterEnter rows.exposures[strategyId]? strategyId plan nowNs).map some
  else .ok none

/-- An execution as it is stored when it was confirmed. -/
@[simps]
def PendingStrategyExecution.confirm (execution : PendingStrategyExecution) (nowNs : ℕ) :
    PendingStrategyExecution :=
  { execution with
    bookkeepingApplied := true, state := .confirmed, updatedAtNs := nowNs, nextCheckAtNs := nowNs }

/-- `apply_confirmed_strategy_execution`. -/
def StrategyRows.applyConfirmedStrategyExecution (execution : PendingStrategyExecution)
    (nowNs : ℕ) : Except String (Bool × StrategyRows) :=
  if execution.bookkeepingApplied then .ok (false, rows)
  else do
    let plan := execution.plan
    let exposureChange ← rows.exposureChange plan nowNs
    let stats := (rows.strategyOutcomeStats keccakHex plan.key).succeed
      (execution.calls.getLast?.bind (·.txHash)) nowNs
    let spent ← sumCallValues 0 plan.calls
    let budget ← rows.budgetAfter keccakHex plan.key spent
    rows.confirmAtomically keccakHex (execution.confirm nowNs) exposureChange stats budget
      (strategyIdFromKey plan.key)

/-- The parts of the policy that decide when a strategy is quarantined, and for how long. -/
structure QuarantinePolicy where
  failureQuarantineThreshold : ℕ
  failureCooldownSecs : ℕ

/-- The time at which a quarantine of a strategy that has failed often enough ends. -/
def QuarantinePolicy.releaseAfterNs (policy : QuarantinePolicy) (nowNs : ℕ) : ℕ :=
  saturatingAdd u64Max nowNs (saturatingMul u64Max policy.failureCooldownSecs 1000000000)

/-- The quarantine record of a strategy that has not failed. -/
def newQuarantine (strategyId reason : String) (nowNs : ℕ) : StrategyQuarantine :=
  ⟨strategyId, reason, 0, nowNs, none⟩

/-- The quarantine record after one more failure. -/
def StrategyQuarantine.countFailure (quarantine : StrategyQuarantine) (policy : QuarantinePolicy)
    (reason : String) (nowNs : ℕ) : StrategyQuarantine :=
  let failureCount := saturatingAdd u32Max quarantine.failureCount 1
  { quarantine with
    failureCount := failureCount
    reason := reason
    releaseAfterNs :=
      if policy.failureQuarantineThreshold ≤ failureCount then some (policy.releaseAfterNs nowNs)
      else quarantine.releaseAfterNs }

/-- `AUTO_DEACTIVATE_DETERMINISTIC_STREAK`. -/
def autoDeactivateDeterministicStreak : ℕ := 3

/-- `auto_deactivation_for_stats`. -/
def StrategyRows.autoDeactivationForStats (stats : StrategyOutcomeStats) (observedAtNs : ℕ) :
    Option TemplateActivationState :=
  let activation := rows.activations[templateStateRecordKey keccakHex "activation" stats.key]?
  if stats.deterministicFailureStreak < autoDeactivateDeterministicStreak ||
      !activation.any (·.enabled) then
    none
  else some {
    key := stats.key
    enabled := false
    updatedAtNs := observedAtNs
    reason := some ("auto_deactivated after " ++ toString stats.deterministicFailureStreak ++
      " deterministic failures in a row") }

/-- An execution as it is stored when it has failed. -/
@[simps]
def PendingStrategyExecution.terminate (execution : PendingStrategyExecution) (nowNs : ℕ) :
    PendingStrategyExecution :=
  { execution with
    terminalBookkeepingApplied := true, updatedAtNs := nowNs, nextCheckAtNs := nowNs }

/-- The hash of the last call that was sent. -/
def PendingStrategyExecution.lastTxHash (execution : PendingStrategyExecution) : Option String :=
  execution.calls.reverse.findSome? (·.txHash)

/-- `apply_terminal_strategy_failure`. -/
def StrategyRows.applyTerminalStrategyFailure (policy : QuarantinePolicy)
    (execution : PendingStrategyExecution) (kind : StrategyOutcomeKind) (reason : String)
    (nowNs : ℕ) : Except String (Bool × StrategyRows) :=
  if execution.bookkeepingApplied ∨ execution.terminalBookkeepingApplied then .ok (false, rows)
  else if execution.state = .pending then
    .error "terminal strategy failure requires a terminal state"
  else do
    let strategyId := strategyIdFromKey execution.key
    let quarantine := ((rows.quarantines[strategyId]?).getD
      (newQuarantine strategyId reason nowNs)).countFailure policy reason nowNs
    let stats ← (rows.strategyOutcomeStats keccakHex execution.key).failWith kind reason
      execution.lastTxHash nowNs
    rows.failAtomically keccakHex (execution.terminate nowNs) stats quarantine
      (rows.autoDeactivationForStats keccakHex stats nowNs)

/-- The value of a call. -/
def StrategyExecutionCall.wei (call : StrategyExecutionCall) : ℕ :=
  (parseU256Decimal call.valueWei).toOption.getD 0

/-- The values of all calls of an execution. -/
def PendingStrategyExecution.wei (execution : PendingStrategyExecution) : ℕ :=
  (execution.calls.map (·.call.wei)).sum

end Outcomes

section Specs

variable {keccakHex : String → String} {rows next : StrategyRows} {changed : Bool}
  {execution : PendingStrategyExecution} {nowNs : ℕ}

theorem sumCallValues_eq {calls : List StrategyExecutionCall} {spent total : ℕ}
    (h : sumCallValues spent calls = .ok total) :
    total = spent + (calls.map (·.wei)).sum := by
  induction calls generalizing spent with
  | nil =>
    obtain rfl := Except.ok.inj h
    simp
  | cons call calls ih =>
    obtain ⟨value, hvalue, h⟩ := Fallible.bind_eq_ok.mp h
    obtain ⟨sum, hsum, h⟩ := Fallible.bind_eq_ok.mp h
    have hwei : call.wei = value := by simp [StrategyExecutionCall.wei, hvalue, Except.toOption]
    cases hadd : checkedAdd u256Max spent value with
    | none =>
      rw [hadd] at hsum
      cases hsum
    | some added =>
      rw [hadd] at hsum
      obtain rfl := Except.ok.inj hsum
      obtain ⟨-, rfl⟩ := checkedAdd_eq_some.mp hadd
      rw [ih h, List.map_cons, List.sum_cons, hwei]
      omega

/-- What is done in a transaction is done to an open execution, or nothing is done. -/
theorem whenOpen_spec {executionId : String} {after : StrategyRows}
    (h : rows.whenOpen executionId after = .ok (changed, next)) :
    changed = false ∧ next = rows ∨ changed = true ∧ next = after ∧
      ∃ current, rows.executions[executionId]? = some current ∧ current.isOpen = true := by
  unfold StrategyRows.whenOpen at h
  split at h
  · cases h
  · rename_i current hcurrent
    split at h
    · obtain ⟨rfl, rfl⟩ := Prod.mk.inj (Except.ok.inj h)
      exact .inr ⟨rfl, rfl, current, hcurrent, ‹_›⟩
    · obtain ⟨rfl, rfl⟩ := Prod.mk.inj (Except.ok.inj h)
      exact .inl ⟨rfl, rfl⟩

/-- An outcome is counted in the statistics. -/
structure CountsOutcome (kind : StrategyOutcomeKind) (before after : StrategyOutcomeStats) :
    Prop where
  total : after.totalRuns = saturatingAdd u64Max before.totalRuns 1
  success : after.successRuns =
    if kind = .success then saturatingAdd u64Max before.successRuns 1 else before.successRuns
  deterministic : after.deterministicFailures =
    if kind = .deterministicFailure then saturatingAdd u64Max before.deterministicFailures 1
    else before.deterministicFailures
  nondeterministic : after.nondeterministicFailures =
    if kind = .nondeterministicFailure then saturatingAdd u64Max before.nondeterministicFailures 1
    else before.nondeterministicFailures

theorem countsOutcome_succeed {stats : StrategyOutcomeStats} {txHash : Option String} :
    CountsOutcome .success stats (stats.succeed txHash nowNs) := by
  constructor <;> simp

theorem countsOutcome_failWith {stats failed : StrategyOutcomeStats} {kind : StrategyOutcomeKind}
    {reason : String} {txHash : Option String}
    (h : stats.failWith kind reason txHash nowNs = .ok failed) :
    kind ≠ .success ∧ CountsOutcome kind stats failed := by
  cases kind with
  | success => cases h
  | deterministicFailure =>
    obtain rfl := Except.ok.inj h
    refine ⟨by decide, ?_⟩
    constructor <;> simp
  | nondeterministicFailure =>
    obtain rfl := Except.ok.inj h
    refine ⟨by decide, ?_⟩
    constructor <;> simp

/-- An amount is added to what a template has spent. -/
def SpendsBudget (keccakHex : String → String) (rows : StrategyRows) (key : StrategyTemplateKey)
    (spent : ℕ) (budgets : BTreeMap String String) : Prop :=
  spent = 0 ∧ budgets = rows.budgets ∨ ∃ current,
    parseU256Decimal (rows.budgetSpentWei keccakHex key) = .ok current ∧
      current + spent ≤ u256Max ∧ budgets =
        rows.budgets.insert (strategyBudgetRecordKey keccakHex key) (toString (current + spent))

theorem budgetAfter_spec {key : StrategyTemplateKey} {spent : ℕ} {budget : Option String}
    (h : rows.budgetAfter keccakHex key spent = .ok budget) :
    SpendsBudget keccakHex rows key spent (budget.elim rows.budgets fun budget =>
      rows.budgets.insert (strategyBudgetRecordKey keccakHex key) budget) := by
  unfold StrategyRows.budgetAfter at h
  split at h
  · obtain rfl := Except.ok.inj h
    exact .inl ⟨‹_›, rfl⟩
  · obtain ⟨current, hcurrent, h⟩ := Fallible.bind_eq_ok.mp h
    obtain ⟨updated, hupdated, h⟩ := Fallible.bind_eq_ok.mp h
    obtain rfl := Except.ok.inj h
    cases hadd : checkedAdd u256Max current spent with
    | none =>
      rw [hadd] at hupdated
      cases hupdated
    | some sum =>
      rw [hadd] at hupdated
      obtain rfl := Except.ok.inj hupdated
      obtain ⟨hfits, rfl⟩ := checkedAdd_eq_some.mp hadd
      exact .inr ⟨current, hcurrent, hfits, rfl⟩

/-- An open execution leaves the pending state with an outcome: it is stored as given, the outcome
is counted once, and a success spends the values of its calls. -/
structure Settles (keccakHex : String → String) (rows : StrategyRows)
    (execution : PendingStrategyExecution) (kind : StrategyOutcomeKind) (next : StrategyRows) :
    Prop where
  wasOpen : ∃ current, rows.executions[execution.executionId]? = some current ∧
    current.isOpen = true
  executions : next.executions = rows.executions.insert execution.executionId execution
  terminal : execution.state ≠ .pending
  confirmed : kind = .success ↔ execution.state = .confirmed
  outcome : ∃ stats, next.outcomeStats = rows.outcomeStats.insert
      (strategyOutcomeStatsRecordKey keccakHex execution.key) stats ∧
    CountsOutcome kind (rows.strategyOutcomeStats keccakHex execution.key) stats
  budget : SpendsBudget keccakHex rows execution.key
    (if kind = .success then execution.wei else 0) next.budgets

theorem applyConfirmedStrategyExecution_spec
    (h : rows.applyConfirmedStrategyExecution keccakHex execution nowNs = .ok (changed, next)) :
    changed = false ∧ next = rows ∨ changed = true ∧
      Settles keccakHex rows (execution.confirm nowNs) .success next ∧
      ∃ change, rows.exposureChange execution.plan nowNs = .ok change ∧
        next.exposures = change.elim rows.exposures fun change =>
          change.elim (rows.exposures.erase (strategyIdFromKey execution.key)) fun exposure =>
            rows.exposures.insert exposure.strategyId exposure := by
  unfold StrategyRows.applyConfirmedStrategyExecution at h
  split at h
  · obtain ⟨rfl, rfl⟩ := Prod.mk.inj (Except.ok.inj h)
    exact .inl ⟨rfl, rfl⟩
  · dsimp only at h
    obtain ⟨change, hchange, h⟩ := Fallible.bind_eq_ok.mp h
    obtain ⟨spent, hspent, h⟩ := Fallible.bind_eq_ok.mp h
    obtain ⟨budget, hbudget, h⟩ := Fallible.bind_eq_ok.mp h
    rcases whenOpen_spec h with ⟨rfl, rfl⟩ | ⟨rfl, rfl, hopen⟩
    · exact .inl ⟨rfl, rfl⟩
    · refine .inr ⟨rfl, ?_, change, hchange, rfl⟩
      have hwei : spent = (execution.confirm nowNs).wei := by
        rw [sumCallValues_eq hspent]
        simp [PendingStrategyExecution.wei, PendingStrategyExecution.plan, Function.comp_def]
      constructor
      · exact hopen
      · rfl
      · simp
      · simp
      · exact ⟨_, rfl, countsOutcome_succeed⟩
      · rw [if_pos rfl, ← hwei]
        exact budgetAfter_spec hbudget

theorem applyTerminalStrategyFailure_spec {policy : QuarantinePolicy} {kind : StrategyOutcomeKind}
    {reason : String} (hstate : execution.state ≠ .confirmed)
    (h : rows.applyTerminalStrategyFailure keccakHex policy execution kind reason nowNs =
      .ok (changed, next)) :
    changed = false ∧ next = rows ∨ changed = true ∧
      Settles keccakHex rows (execution.terminate nowNs) kind next := by
  unfold StrategyRows.applyTerminalStrategyFailure at h
  split at h
  · obtain ⟨rfl, rfl⟩ := Prod.mk.inj (Except.ok.inj h)
    exact .inl ⟨rfl, rfl⟩
  · split at h
    · cases h
    · rename_i hpending
      dsimp only at h
      obtain ⟨stats, hstats, h⟩ := Fallible.bind_eq_ok.mp h
      obtain ⟨hkind, hcounts⟩ := countsOutcome_failWith hstats
      rcases whenOpen_spec h with ⟨rfl, rfl⟩ | ⟨rfl, rfl, hopen⟩
      · exact .inl ⟨rfl, rfl⟩
      · refine .inr ⟨rfl, ?_⟩
        constructor
        · exact hopen
        · rfl
        · exact hpending
        · exact iff_of_false hkind hstate
        · exact ⟨stats, rfl, hcounts⟩
        · exact .inl ⟨if_neg hkind, rfl⟩

theorem whenOpen_eq {executionId : String} {current : PendingStrategyExecution}
    (hstored : rows.executions[executionId]? = some current) (hopen : current.isOpen = true) :
    rows.whenOpen executionId next = .ok (true, next) := by
  unfold StrategyRows.whenOpen
  rw [hstored]
  exact if_pos hopen

/-- An open execution is confirmed when its exposure, its value and its budget can be computed. -/
theorem exists_applyConfirmedStrategyExecution {current : PendingStrategyExecution}
    {change : Option (Option ActiveExposure)} {spent : ℕ} {budget : Option String}
    (hflag : execution.bookkeepingApplied = false)
    (hstored : rows.executions[execution.executionId]? = some current)
    (hopen : current.isOpen = true)
    (hchange : rows.exposureChange execution.plan nowNs = .ok change)
    (hspent : sumCallValues 0 execution.plan.calls = .ok spent)
    (hbudget : rows.budgetAfter keccakHex execution.plan.key spent = .ok budget) :
    ∃ next, rows.applyConfirmedStrategyExecution keccakHex execution nowNs = .ok (true, next) := by
  unfold StrategyRows.applyConfirmedStrategyExecution
  rw [if_neg (by simp [hflag])]
  constructor
  refine Fallible.bind_eq_ok.mpr ⟨change, hchange, ?_⟩
  refine Fallible.bind_eq_ok.mpr ⟨spent, hspent, ?_⟩
  exact Fallible.bind_eq_ok.mpr ⟨budget, hbudget, whenOpen_eq hstored hopen⟩

/-- An open execution fails when its copy is in a terminal state and has no flags. -/
theorem exists_applyTerminalStrategyFailure {current : PendingStrategyExecution}
    {policy : QuarantinePolicy} {kind : StrategyOutcomeKind} {reason : String}
    (hflags : execution.bookkeepingApplied = false ∧ execution.terminalBookkeepingApplied = false)
    (hstate : execution.state ≠ .pending) (hkind : kind ≠ .success)
    (hstored : rows.executions[execution.executionId]? = some current)
    (hopen : current.isOpen = true) :
    ∃ next, rows.applyTerminalStrategyFailure keccakHex policy execution kind reason nowNs =
      .ok (true, next) := by
  unfold StrategyRows.applyTerminalStrategyFailure
  rw [if_neg (by simp [hflags]), if_neg hstate]
  cases kind with
  | success => exact absurd rfl hkind
  | deterministicFailure =>
    constructor
    exact Fallible.bind_eq_ok.mpr ⟨_, rfl, whenOpen_eq hstored hopen⟩
  | nondeterministicFailure =>
    constructor
    exact Fallible.bind_eq_ok.mpr ⟨_, rfl, whenOpen_eq hstored hopen⟩

end Specs

end Automaton.Strategy
