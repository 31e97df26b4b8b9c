import Automaton.Strategy.Receipts
import Automaton.Strategy.Settlement

/-!
# What one execution does to the others

The receipts job takes up the executions that are due one after the other. When nothing else runs in
between, it does to each of them what its receipts say, up to the first that ends the job with an
error.
-/

namespace Automaton.Strategy

open Machine Fallible

/-- What is known about an execution after its receipts were asked for. -/
inductive ReceiptsRead
  | unread (execution : PendingStrategyExecution) (index : ℕ) (error : String)
  | inconsistent (error : String)
  | read (execution : PendingStrategyExecution)

/-- Executions that are due: they are open, and stored under their ids. -/
structure StrategyRows.AreDue (rows : StrategyRows) (due : List PendingStrategyExecution) :
    Prop where
  distinct : (due.map (·.executionId)).Nodup
  stored : ∀ expected ∈ due, rows.executions[expected.executionId]? = some expected
  isOpen : ∀ expected ∈ due, expected.isOpen = true

section Runs

variable (keccakHex : String → String) (policy : QuarantinePolicy)
  (answers : String → ℕ → Except String StrategyReceiptObservation)

variable (rpc : Except String Unit) (nowNs requiredDepth : ℕ)

/-- The loop of `reconcile_pending_strategy_executions` over the calls of an execution, from the
one that the job waits for. -/
def ReceiptJob.readReceipts : ℕ → ReceiptJob → ReceiptsRead
  | 0, job => .read job.execution
  | steps + 1, job =>
    match answers job.execution.executionId job.index with
    | .error error => .unread job.execution job.index error
    | .ok observation =>
      match job.check observation with
      | .error error => .inconsistent error
      | .ok execution =>
        match execution.nextReceipt (job.index + 1) with
        | none => .read execution
        | some index => readReceipts steps { job with execution := execution, index := index }

/-- The receipts of an execution that is taken up. -/
def readReceipts (expected : PendingStrategyExecution) : ReceiptsRead :=
  let execution := expireUnattemptedStrategyCalls expected nowNs
  match execution.nextReceipt 0 with
  | none => .read execution
  | some index =>
    match rpc with
    | .error error => .unread execution index error
    | .ok () => ReceiptJob.readReceipts answers execution.calls.length
        ⟨nowNs, requiredDepth, expected, execution, index, []⟩

/-- The job writes what has become of an execution. -/
def StrategyRows.conclude (rows : StrategyRows) (expected : PendingStrategyExecution) :
    ReceiptsRead → Except String StrategyRows
  | .unread execution index error =>
    .ok (rows.compareAndUpdate expected (execution.backOff index error nowNs)).2
  | .inconsistent error => .error error
  | .read execution => rows.settleExecution keccakHex policy expected execution nowNs

/-- The executions are taken up one after the other. An error ends the job. -/
def StrategyRows.concludeAll (rows : StrategyRows) :
    List PendingStrategyExecution → StrategyRows × Except String Unit
  | [] => (rows, .ok ())
  | expected :: rest =>
    match rows.conclude keccakHex policy nowNs expected
      (readReceipts answers rpc nowNs requiredDepth expected) with
    | .error error => (rows, .error error)
    | .ok next => StrategyRows.concludeAll next rest

/-- The bookkeeping of a confirmed execution can be computed. -/
def StrategyRows.CanConfirm (rows : StrategyRows) (execution : PendingStrategyExecution) : Prop :=
  (rows.exposureChange execution.plan nowNs).isOk = true ∧
    ∃ spent, sumCallValues 0 execution.plan.calls = .ok spent ∧
      (rows.budgetAfter keccakHex execution.plan.key spent).isOk = true

/-- No receipt of an execution is inconsistent, and if all of its calls are confirmed, its
bookkeeping can be computed. -/
def StrategyRows.Reconciles (rows : StrategyRows) : ReceiptsRead → Prop
  | .unread _ _ _ => True
  | .inconsistent _ => False
  | .read execution => execution.fails = false → execution.allConfirmed = true →
      rows.CanConfirm keccakHex nowNs execution

/-- Every execution reconciles when its turn comes. -/
def StrategyRows.ReconcilesInTurn (rows : StrategyRows) : List PendingStrategyExecution → Prop
  | [] => True
  | expected :: rest =>
    let read := readReceipts answers rpc nowNs requiredDepth expected
    rows.Reconciles keccakHex nowNs read ∧
      ∀ next, rows.conclude keccakHex policy nowNs expected read = .ok next →
        StrategyRows.ReconcilesInTurn next rest

end Runs

section Driver

variable {keccakHex : String → String} {policy : QuarantinePolicy}
  {answers : String → ℕ → Except String StrategyReceiptObservation} {rpc : Except String Unit}
  {nowNs requiredDepth : ℕ} {rows : StrategyRows} {rest due : List PendingStrategyExecution}

/-- A receipt changes nothing but the calls of the copy, and not their number. -/
theorem check_eq_ok {job : ReceiptJob} {observation : StrategyReceiptObservation}
    {execution : PendingStrategyExecution} (h : job.check observation = .ok execution) :
    execution.calls.length = job.execution.calls.length ∧
      ∃ calls, execution = { job.execution with calls := calls } := by
  unfold ReceiptJob.check at h
  split at h
  · obtain rfl := Except.ok.inj h
    exact ⟨rfl, _, rfl⟩
  · obtain ⟨call, -, rfl⟩ := map_eq_ok.mp h
    exact ⟨List.length_set, _, rfl⟩

/-- The job over the executions that follow the one it has concluded, or its end. -/
def concludeRest (keccakHex : String → String) (policy : QuarantinePolicy)
    (answers : String → ℕ → Except String StrategyReceiptObservation) (rpc : Except String Unit)
    (nowNs requiredDepth : ℕ) (rows : StrategyRows) (rest : List PendingStrategyExecution) :
    Except String StrategyRows → StrategyRows × Except String Unit
  | .error error => (rows, .error error)
  | .ok next => next.concludeAll keccakHex policy answers rpc nowNs requiredDepth rest

theorem concludeAll_cons {expected : PendingStrategyExecution} :
    rows.concludeAll keccakHex policy answers rpc nowNs requiredDepth (expected :: rest) =
      concludeRest keccakHex policy answers rpc nowNs requiredDepth rows rest
        (rows.conclude keccakHex policy nowNs expected
          (readReceipts answers rpc nowNs requiredDepth expected)) := by
  rw [StrategyRows.concludeAll]
  cases rows.conclude keccakHex policy nowNs expected
    (readReceipts answers rpc nowNs requiredDepth expected) with
  | error error => rfl
  | ok next => rfl

end Driver

/-- What the job writes about an execution. -/
def ReceiptsRead.written (nowNs : ℕ) (expected : PendingStrategyExecution) :
    ReceiptsRead → PendingStrategyExecution
  | .unread execution index error => execution.backOff index error nowNs
  | .inconsistent _ => expected
  | .read execution =>
    let checked : PendingStrategyExecution :=
      { execution with updatedAtNs := nowNs, consecutiveRpcFailures := 0 }
    if checked.fails then
      PendingStrategyExecution.terminate
        { checked with state := checked.failedState, nextCheckAtNs := nowNs } nowNs
    else if checked.allConfirmed then checked.confirm nowNs
    else { checked with
      state := .pending
      nextCheckAtNs := saturatingAdd u64Max nowNs strategyExecutionRecheckNs }

/-- Another version of an execution, which differs in its calls and its schedule. -/
structure PendingStrategyExecution.IsVersionOf (execution expected : PendingStrategyExecution) :
    Prop where
  id : execution.executionId = expected.executionId
  state : execution.state = expected.state
  bookkeeping : execution.bookkeepingApplied = expected.bookkeepingApplied
  terminal : execution.terminalBookkeepingApplied = expected.terminalBookkeepingApplied

/-- What is known about an execution is about a version of it. -/
def ReceiptsRead.IsOf (expected : PendingStrategyExecution) : ReceiptsRead → Prop
  | .unread execution _ _ => execution.IsVersionOf expected
  | .inconsistent _ => True
  | .read execution => execution.IsVersionOf expected

section Writes

variable {keccakHex : String → String} {policy : QuarantinePolicy}
  {answers : String → ℕ → Except String StrategyReceiptObservation} {rpc : Except String Unit}
  {nowNs requiredDepth : ℕ} {rows next : StrategyRows}
  {expected execution : PendingStrategyExecution} {read : ReceiptsRead}

theorem isOf_readReceipts_waiting (steps : ℕ) (job : ReceiptJob)
    (hjob : job.execution.IsVersionOf expected) :
    (ReceiptJob.readReceipts answers steps job).IsOf expected := by
  induction steps generalizing job with
  | zero => exact hjob
  | succ steps ih =>
    unfold ReceiptJob.readReceipts
    cases answers job.execution.executionId job.index with
    | error error => exact hjob
    | ok observation =>
      dsimp only
      cases hcheck : job.check observation with
      | error error => trivial
      | ok execution =>
        have hexecution : execution.IsVersionOf expected := by
          obtain ⟨-, calls, rfl⟩ := check_eq_ok hcheck
          exact ⟨hjob.id, hjob.state, hjob.bookkeeping, hjob.terminal⟩
        dsimp only
        cases execution.nextReceipt (job.index + 1) with
        | none => exact hexecution
        | some index => exact ih _ hexecution

theorem isOf_readReceipts :
    (readReceipts answers rpc nowNs requiredDepth expected).IsOf expected := by
  have hexpired : (expireUnattemptedStrategyCalls expected nowNs).IsVersionOf expected := by
    unfold expireUnattemptedStrategyCalls
    split
    · exact ⟨rfl, rfl, rfl, rfl⟩
    · exact ⟨rfl, rfl, rfl, rfl⟩
  unfold readReceipts
  dsimp only
  cases (expireUnattemptedStrategyCalls expected nowNs).nextReceipt 0 with
  | none => exact hexpired
  | some index =>
    cases rpc with
    | error error => exact hexpired
    | ok done => exact isOf_readReceipts_waiting _ _ hexpired

theorem flags_of_isOpen (hopen : expected.isOpen = true) :
    expected.bookkeepingApplied = false ∧ expected.terminalBookkeepingApplied = false := by
  simp only [PendingStrategyExecution.isOpen, Bool.and_eq_true, Bool.not_eq_true'] at hopen
  exact ⟨hopen.1.2, hopen.2⟩

theorem compareAndUpdate_eq {desired : PendingStrategyExecution}
    (hid : desired.executionId = expected.executionId) (hopen : expected.isOpen = true)
    (hdesired : desired.isOpen = true)
    (hstored : rows.executions[expected.executionId]? = some expected) :
    (rows.compareAndUpdate expected desired).2.executions =
      rows.executions.insert expected.executionId desired := by
  unfold StrategyRows.compareAndUpdate
  rw [if_neg (by simp [hid, hopen, hdesired]), hid, if_pos hstored]

theorem executions_applyConfirmed {changed : Bool}
    (h : rows.applyConfirmedStrategyExecution keccakHex execution nowNs = .ok (changed, next))
    (hflag : execution.bookkeepingApplied = false)
    (hstored : rows.executions[execution.executionId]? = some expected)
    (hopen : expected.isOpen = true) :
    next.executions = rows.executions.insert execution.executionId (execution.confirm nowNs) := by
  unfold StrategyRows.applyConfirmedStrategyExecution at h
  rw [if_neg (by simp [hflag])] at h
  obtain ⟨change, -, h⟩ := bind_eq_ok.mp h
  obtain ⟨spent, -, h⟩ := bind_eq_ok.mp h
  obtain ⟨budget, -, h⟩ := bind_eq_ok.mp h
  have hdone := (whenOpen_eq hstored hopen).symm.trans h
  obtain ⟨-, rfl⟩ := Prod.mk.inj (Except.ok.inj hdone)
  rfl

/-- The bookkeeping of an open execution succeeds exactly when it can be computed. -/
theorem isOk_applyConfirmed_iff (hflag : execution.bookkeepingApplied = false)
    (hstored : rows.executions[execution.executionId]? = some expected)
    (hopen : expected.isOpen = true) :
    (rows.applyConfirmedStrategyExecution keccakHex execution nowNs).isOk = true ↔
      rows.CanConfirm keccakHex nowNs execution := by
  constructor
  · intro h
    cases happly : rows.applyConfirmedStrategyExecution keccakHex execution nowNs with
    | error error =>
      rw [happly] at h
      cases h
    | ok result =>
      unfold StrategyRows.applyConfirmedStrategyExecution at happly
      rw [if_neg (by simp [hflag])] at happly
      obtain ⟨change, hchange, happly⟩ := bind_eq_ok.mp happly
      obtain ⟨spent, hspent, happly⟩ := bind_eq_ok.mp happly
      obtain ⟨budget, hbudget, -⟩ := bind_eq_ok.mp happly
      refine ⟨?_, spent, hspent, ?_⟩
      · rw [hchange]
        rfl
      · rw [hbudget]
        rfl
  · rintro ⟨hchange, spent, hspent, hbudget⟩
    obtain ⟨change, hchange⟩ := isOk_iff_exists.mp hchange
    obtain ⟨budget, hbudget⟩ := isOk_iff_exists.mp hbudget
    obtain ⟨next, hnext⟩ := exists_applyConfirmedStrategyExecution hflag hstored hopen hchange
      hspent hbudget
    rw [hnext]
    rfl

theorem executions_applyTerminal {kind : StrategyOutcomeKind} {reason : String} {changed : Bool}
    (h : rows.applyTerminalStrategyFailure keccakHex policy execution kind reason nowNs =
      .ok (changed, next))
    (hflags : execution.bookkeepingApplied = false ∧ execution.terminalBookkeepingApplied = false)
    (hstate : execution.state ≠ .pending)
    (hstored : rows.executions[execution.executionId]? = some expected)
    (hopen : expected.isOpen = true) :
    next.executions = rows.executions.insert execution.executionId (execution.terminate nowNs) := by
  unfold StrategyRows.applyTerminalStrategyFailure at h
  rw [if_neg (by simp [hflags]), if_neg hstate] at h
  obtain ⟨stats, -, h⟩ := bind_eq_ok.mp h
  have hdone := (whenOpen_eq hstored hopen).symm.trans h
  obtain ⟨-, rfl⟩ := Prod.mk.inj (Except.ok.inj hdone)
  rfl

theorem isOk_applyTerminal {kind : StrategyOutcomeKind} {reason : String}
    (hflags : execution.bookkeepingApplied = false ∧ execution.terminalBookkeepingApplied = false)
    (hstate : execution.state ≠ .pending) (hkind : kind ≠ .success)
    (hstored : rows.executions[execution.executionId]? = some expected)
    (hopen : expected.isOpen = true) :
    (rows.applyTerminalStrategyFailure keccakHex policy execution kind reason nowNs).isOk =
      true := by
  obtain ⟨next, hnext⟩ := exists_applyTerminalStrategyFailure hflags hstate hkind hstored hopen
  rw [hnext]
  rfl

theorem failedState_ne_pending : execution.failedState ≠ .pending := by
  unfold PendingStrategyExecution.failedState
  split_ifs <;> exact fun hstate => PendingStrategyExecutionState.noConfusion hstate

/-- What the job writes about an execution depends on its receipts only. -/
theorem executions_conclude (hstored : rows.executions[expected.executionId]? = some expected)
    (hopen : expected.isOpen = true) (hread : read.IsOf expected)
    (h : rows.conclude keccakHex policy nowNs expected read = .ok next) :
    next.executions =
      rows.executions.insert expected.executionId (read.written nowNs expected) := by
  obtain ⟨hbookkeeping, hterminal⟩ := flags_of_isOpen hopen
  cases read with
  | unread execution index error =>
    obtain rfl := Except.ok.inj h
    refine compareAndUpdate_eq hread.id hopen ?_ hstored
    rw [← hopen]
    simp only [PendingStrategyExecution.isOpen, PendingStrategyExecution.backOff, hread.state,
      hread.bookkeeping, hread.terminal]
  | inconsistent error => cases h
  | read execution =>
    dsimp only [StrategyRows.conclude, ReceiptsRead.written] at h ⊢
    unfold StrategyRows.settleExecution at h
    dsimp only at h
    have hcopy : rows.executions[execution.executionId]? = some expected := hread.id ▸ hstored
    split at h
    · rename_i hfails
      rw [if_pos hfails, ← hread.id]
      obtain ⟨⟨changed, _⟩, happly, rfl⟩ := map_eq_ok.mp h
      refine executions_applyTerminal happly ⟨?_, ?_⟩ failedState_ne_pending hcopy hopen
      · exact hread.bookkeeping.trans hbookkeeping
      · exact hread.terminal.trans hterminal
    · rename_i hfails
      rw [if_neg hfails]
      split at h
      · rename_i hconfirmed
        rw [if_pos hconfirmed, ← hread.id]
        obtain ⟨⟨changed, _⟩, happly, rfl⟩ := map_eq_ok.mp h
        refine executions_applyConfirmed happly ?_ hcopy hopen
        exact hread.bookkeeping.trans hbookkeeping
      · rename_i hconfirmed
        rw [if_neg hconfirmed]
        obtain rfl := Except.ok.inj h
        refine compareAndUpdate_eq (by exact hread.id) hopen ?_ hstored
        simp [PendingStrategyExecution.isOpen, hread.bookkeeping, hread.terminal, hbookkeeping,
          hterminal]

/-- An execution is concluded exactly when it reconciles. -/
theorem isOk_conclude_iff (policy : QuarantinePolicy)
    (hstored : rows.executions[expected.executionId]? = some expected)
    (hopen : expected.isOpen = true) (hread : read.IsOf expected) :
    (rows.conclude keccakHex policy nowNs expected read).isOk = true ↔
      rows.Reconciles keccakHex nowNs read := by
  obtain ⟨hbookkeeping, hterminal⟩ := flags_of_isOpen hopen
  cases read with
  | unread execution index error => exact iff_of_true rfl trivial
  | inconsistent error => exact iff_of_false (fun h => Bool.noConfusion h) not_false
  | read execution =>
    dsimp only [StrategyRows.conclude, StrategyRows.Reconciles]
    unfold StrategyRows.settleExecution
    dsimp only
    rw [← hread.id] at hstored
    split
    · rename_i hfails
      have hfailed : execution.fails = true := hfails
      refine iff_of_true ?_ fun hnot => ?_
      · rw [isOk_map]
        refine isOk_applyTerminal ⟨?_, ?_⟩ failedState_ne_pending ?_ hstored hopen
        · exact hread.bookkeeping.trans hbookkeeping
        · exact hread.terminal.trans hterminal
        · split_ifs <;> exact fun hkind => StrategyOutcomeKind.noConfusion hkind
      · rw [hfailed] at hnot
        cases hnot
    · rename_i hfails
      have hnot : execution.fails = false := Bool.eq_false_iff.mpr hfails
      split
      · rename_i hconfirmed
        have hall : execution.allConfirmed = true := hconfirmed
        rw [isOk_map, isOk_applyConfirmed_iff ?_ ?_ hopen]
        · exact ⟨fun h _ _ => h, fun h => h hnot hall⟩
        · exact hread.bookkeeping.trans hbookkeeping
        · exact hstored
      · rename_i hconfirmed
        exact iff_of_true rfl fun _ hall => absurd hall hconfirmed

end Writes

section Isolation

variable {keccakHex : String → String} {policy : QuarantinePolicy}
  {answers : String → ℕ → Except String StrategyReceiptObservation} {rpc : Except String Unit}
  {nowNs requiredDepth : ℕ} {rows next : StrategyRows} {due rest : List PendingStrategyExecution}
  {expected : PendingStrategyExecution}

/-- The executions that follow are due when one was concluded. -/
theorem StrategyRows.AreDue.tail (h : rows.AreDue (expected :: rest))
    (hconclude : rows.conclude keccakHex policy nowNs expected
      (readReceipts answers rpc nowNs requiredDepth expected) = .ok next) : next.AreDue rest := by
  obtain ⟨hfresh, hdistinct⟩ := List.nodup_cons.mp h.distinct
  have hwritten := executions_conclude (h.stored expected List.mem_cons_self)
    (h.isOpen expected List.mem_cons_self) isOf_readReceipts hconclude
  constructor
  · exact hdistinct
  · intro later hlater
    have hne : expected.executionId ≠ later.executionId := by
      intro hid
      apply hfresh
      dsimp only
      rw [hid]
      exact List.mem_map_of_mem hlater
    rw [hwritten, BTreeMap.get?_insert, if_neg hne]
    exact h.stored later (List.mem_cons_of_mem _ hlater)
  · exact fun later hlater => h.isOpen later (List.mem_cons_of_mem _ hlater)

/-- The job over executions that reconcile in turn writes every one of them, and no other. -/
theorem StrategyRows.AreDue.concludeAll (h : rows.AreDue due)
    (hturns : rows.ReconcilesInTurn keccakHex policy answers rpc nowNs requiredDepth due) :
    ∃ after, rows.concludeAll keccakHex policy answers rpc nowNs requiredDepth due =
        (after, .ok ()) ∧
      (∀ expected ∈ due, after.executions[expected.executionId]? = some
        ((readReceipts answers rpc nowNs requiredDepth expected).written nowNs expected)) ∧
      ∀ executionId, executionId ∉ due.map (·.executionId) →
        after.executions[executionId]? = rows.executions[executionId]? := by
  induction due generalizing rows with
  | nil => exact ⟨rows, rfl, nofun, fun _ _ => rfl⟩
  | cons expected rest ih =>
    obtain ⟨hreconciles, hrest⟩ := hturns
    have hstored := h.stored expected List.mem_cons_self
    have hopen := h.isOpen expected List.mem_cons_self
    obtain ⟨next, hnext⟩ := isOk_iff_exists.mp
      ((isOk_conclude_iff policy hstored hopen isOf_readReceipts).mpr hreconciles)
    obtain ⟨after, hafter, hwritten, hothers⟩ := ih (h.tail hnext) (hrest next hnext)
    have hexecutions := executions_conclude hstored hopen isOf_readReceipts hnext
    obtain ⟨hfresh, -⟩ := List.nodup_cons.mp h.distinct
    refine ⟨after, ?_, ?_, ?_⟩
    · rw [concludeAll_cons, hnext]
      exact hafter
    · rw [List.forall_mem_cons]
      refine ⟨?_, hwritten⟩
      rw [hothers _ hfresh, hexecutions, BTreeMap.get?_insert, if_pos rfl]
    · intro executionId hother
      rw [List.map_cons, List.mem_cons, not_or] at hother
      rw [hothers _ hother.2, hexecutions, BTreeMap.get?_insert, if_neg (Ne.symm hother.1)]

end Isolation

/-- What the job lists in a state that runs reach is due. -/
theorem areDue_of_reachable {keccakHex : String → String} {world : StrategyWorld} {nowNs : ℕ}
    (hreach : StrategyReachable keccakHex world) :
    world.rows.AreDue (world.rows.listDuePendingStrategyExecutions nowNs) := by
  have hinv := settledInv_of_reachable hreach
  have hlisted : ∀ expected ∈ world.rows.listDuePendingStrategyExecutions nowNs,
      world.rows.executions[expected.executionId]? = some expected ∧
        expected.state = .pending := by
    intro expected hmem
    obtain ⟨⟨executionId, hstored⟩, hpending⟩ := mem_listDuePendingStrategyExecutions hmem
    rw [hinv.keyed _ _ hstored]
    exact ⟨hstored, hpending⟩
  constructor
  · exact nodup_listDuePendingStrategyExecutions hinv.keyed
  · exact fun expected hmem => (hlisted expected hmem).1
  · exact fun expected hmem => hinv.opens _ _ (hlisted expected hmem).1 (hlisted expected hmem).2

section Submitted

end Submitted

end Automaton.Strategy
