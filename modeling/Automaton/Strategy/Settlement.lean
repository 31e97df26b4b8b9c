import Automaton.Library.Transition
import Automaton.Strategy.Executions

/-!
# Executions settle once

Executions are inserted, their progress is written, and they are confirmed or fail, in any order and
from copies that may be stale. An execution leaves the pending state once, is kept as it was stored
then, and its outcome is counted once.
-/

namespace Automaton.Strategy

open Machine Transition

/-- The state in which an execution fails. -/
inductive StrategyFailure
  | partialFailure
  | reverted
  | dropped
  deriving DecidableEq, Repr

/-- The state that the callers of `apply_terminal_strategy_failure` set. -/
def StrategyFailure.state : StrategyFailure → PendingStrategyExecutionState
  | .partialFailure => .partialFailure
  | .reverted => .reverted
  | .dropped => .dropped

/-- What happens to the executions. The copies of executions are arbitrary. -/
inductive StrategyAct
  | insert (turnId planDigest : String) (plan : ExecutionPlan) (nowNs : ℕ)
  | progress (expected desired : PendingStrategyExecution)
  | confirm (copy : PendingStrategyExecution) (nowNs : ℕ)
  | fail (policy : QuarantinePolicy) (copy : PendingStrategyExecution) (failure : StrategyFailure)
      (kind : StrategyOutcomeKind) (reason : String) (nowNs : ℕ)

/-- An execution as it was stored when it left the pending state, with its outcome. -/
structure Settlement where
  execution : PendingStrategyExecution
  kind : StrategyOutcomeKind

/-- What the template spends. -/
def Settlement.spentWei (settlement : Settlement) : ℕ :=
  if settlement.kind = .success then settlement.execution.wei else 0

/-- The tables, and the executions that have left the pending state. -/
structure StrategyWorld where
  rows : StrategyRows
  settled : List Settlement

/-- No execution was ever stored. -/
def StrategyWorld.fresh : StrategyWorld := ⟨.empty, []⟩

/-- The world after a transaction, which is named by what it stores. -/
def StrategyWorld.record (world : StrategyWorld) (result : Except String (Bool × StrategyRows))
    (settlement : Settlement) : StrategyWorld :=
  result.toOption.elim world fun (changed, rows) =>
    ⟨rows, if changed then world.settled ++ [settlement] else world.settled⟩

section Runs

variable (keccakHex : String → String)

/-- The world after an act. -/
def StrategyAct.apply (act : StrategyAct) (world : StrategyWorld) : StrategyWorld :=
  match act with
  | .insert turnId planDigest plan nowNs =>
    (world.rows.insertPendingStrategyExecution
      (newPendingExecution turnId planDigest plan nowNs)).toOption.elim world fun (_, rows) =>
        { world with rows := rows }
  | .progress expected desired =>
    { world with rows := (world.rows.compareAndUpdate expected desired).2 }
  | .confirm copy nowNs =>
    world.record (world.rows.applyConfirmedStrategyExecution keccakHex copy nowNs)
      ⟨copy.confirm nowNs, .success⟩
  | .fail policy copy failure kind reason nowNs =>
    let copy := { copy with state := failure.state }
    world.record (world.rows.applyTerminalStrategyFailure keccakHex policy copy kind reason nowNs)
      ⟨copy.terminate nowNs, kind⟩

/-- The worlds that are reached. -/
def StrategyReachable : StrategyWorld → Prop :=
  Reachable (· = StrategyWorld.fresh) (StepOf (StrategyAct.apply keccakHex))

/-- Two keys name one template: its records are stored under the same keys. -/
def SameTemplate (key other : StrategyTemplateKey) : Prop :=
  strategyTemplateLookupKey keccakHex key = strategyTemplateLookupKey keccakHex other

instance (key other : StrategyTemplateKey) : Decidable (SameTemplate keccakHex key other) :=
  inferInstanceAs (Decidable (_ = _))

/-- The settlements of a template. -/
def StrategyWorld.settledOf (world : StrategyWorld) (key : StrategyTemplateKey) :
    List Settlement :=
  world.settled.filter fun settlement => SameTemplate keccakHex settlement.execution.key key

end Runs

/-- Statistics count outcomes, up to the largest value of a counter. -/
structure CountsOutcomes (stats : StrategyOutcomeStats) (kinds : List StrategyOutcomeKind) :
    Prop where
  total : stats.totalRuns = min kinds.length u64Max
  success : stats.successRuns = min (kinds.count .success) u64Max
  deterministic : stats.deterministicFailures = min (kinds.count .deterministicFailure) u64Max
  nondeterministic :
    stats.nondeterministicFailures = min (kinds.count .nondeterministicFailure) u64Max

/-- Each execution that left the pending state did so once, is stored as it was then, and was
counted once in the statistics and the budget of its template. -/
structure SettledOnce (keccakHex : String → String) (world : StrategyWorld) : Prop where
  once : (world.settled.map (·.execution.executionId)).Nodup
  kept : ∀ settlement ∈ world.settled,
    world.rows.executions[settlement.execution.executionId]? = some settlement.execution ∧
      settlement.execution.state ≠ .pending ∧
      (settlement.kind = .success ↔ settlement.execution.state = .confirmed)
  complete : ∀ (executionId : String) (execution : PendingStrategyExecution),
    world.rows.executions[executionId]? = some execution → execution.state ≠ .pending →
      ∃ settlement ∈ world.settled, settlement.execution = execution
  counted : ∀ key, CountsOutcomes (world.rows.strategyOutcomeStats keccakHex key)
    ((world.settledOf keccakHex key).map (·.kind))
  spent : ∀ key, world.rows.budgetSpentWei keccakHex key =
    toString ((world.settledOf keccakHex key).map (·.spentWei)).sum

section Outcomes

variable {stats next : StrategyOutcomeStats} {kinds : List StrategyOutcomeKind}
  {kind : StrategyOutcomeKind}

/-- One more outcome is counted. -/
theorem CountsOutcomes.count (h : CountsOutcomes stats kinds)
    (hnext : CountsOutcome kind stats next) :
    CountsOutcomes next (kinds ++ [kind]) := by
  constructor
  · rw [hnext.total, h.total, saturatingAdd_min, List.length_append, List.length_singleton]
  · rw [hnext.success, h.success, saturatingAdd_min, List.count_append, List.count_singleton]
    cases kind <;> rfl
  · rw [hnext.deterministic, h.deterministic, saturatingAdd_min, List.count_append,
      List.count_singleton]
    cases kind <;> rfl
  · rw [hnext.nondeterministic, h.nondeterministic, saturatingAdd_min, List.count_append,
      List.count_singleton]
    cases kind <;> rfl

/-- The outcomes of every kind make up the total. -/
theorem count_kinds : kinds.length = kinds.count .success + kinds.count .deterministicFailure +
    kinds.count .nondeterministicFailure := by
  induction kinds with
  | nil => rfl
  | cons kind kinds ih =>
    cases kind <;> simp [ih] <;> omega

/-- As long as the total has not reached its largest value, it is the sum of the other counters. -/
theorem CountsOutcomes.sum (h : CountsOutcomes stats kinds) (hlength : kinds.length ≤ u64Max) :
    stats.totalRuns =
      stats.successRuns + stats.deterministicFailures + stats.nondeterministicFailures := by
  have hkinds : kinds.length = _ := count_kinds
  rw [h.total, h.success, h.deterministic, h.nondeterministic]
  omega

end Outcomes

/-- The invariant of the runs: what is stored is open or was settled. -/
structure SettledInv (keccakHex : String → String) (world : StrategyWorld) : Prop
    extends SettledOnce keccakHex world where
  keyed : ∀ (executionId : String) (execution : PendingStrategyExecution),
    world.rows.executions[executionId]? = some execution → execution.executionId = executionId
  opens : ∀ (executionId : String) (execution : PendingStrategyExecution),
    world.rows.executions[executionId]? = some execution → execution.state = .pending →
      execution.isOpen = true
  fits : ∀ key, ((world.settledOf keccakHex key).map (·.spentWei)).sum ≤ u256Max

theorem state_of_isOpen {execution : PendingStrategyExecution} (h : execution.isOpen = true) :
    execution.state = .pending := by
  simp only [PendingStrategyExecution.isOpen, Bool.and_eq_true, decide_eq_true_eq] at h
  exact h.1.1

section Steps

variable {keccakHex : String → String} {world : StrategyWorld} {rows next : StrategyRows}
  {execution : PendingStrategyExecution} {kind : StrategyOutcomeKind}

/-- An execution that has left the pending state was not open. -/
theorem SettledInv.not_settled (h : SettledInv keccakHex world)
    (hopen : ∃ current, world.rows.executions[execution.executionId]? = some current ∧
      current.isOpen = true) :
    ∀ settlement ∈ world.settled, settlement.execution.executionId ≠ execution.executionId := by
  obtain ⟨current, hcurrent, hopen⟩ := hopen
  intro settlement hsettlement hid
  obtain ⟨hstored, hstate, -⟩ := h.kept settlement hsettlement
  rw [hid, hcurrent] at hstored
  obtain rfl := Option.some.inj hstored
  exact hstate (state_of_isOpen hopen)

/-- Storing an open execution where none was stored, or an open one, keeps the invariant. -/
theorem SettledInv.write (h : SettledInv keccakHex world) (hopen : execution.isOpen = true)
    (hbefore : ∀ current, world.rows.executions[execution.executionId]? = some current →
      current.isOpen = true) :
    SettledInv keccakHex { world with rows := { world.rows with
      executions := world.rows.executions.insert execution.executionId execution } } := by
  constructor
  · constructor
    · exact h.once
    · intro settlement hsettlement
      obtain ⟨hstored, hstate, hkind⟩ := h.kept settlement hsettlement
      refine ⟨?_, hstate, hkind⟩
      have hne : execution.executionId ≠ settlement.execution.executionId := by
        intro hid
        rw [← hid] at hstored
        exact hstate (state_of_isOpen (hbefore _ hstored))
      simp only [BTreeMap.get?_insert, if_neg hne, hstored]
    · intro executionId stored hstored hstate
      simp only [BTreeMap.get?_insert] at hstored
      split at hstored
      · obtain rfl := Option.some.inj hstored
        exact absurd (state_of_isOpen hopen) hstate
      · exact h.complete executionId stored hstored hstate
    · exact h.counted
    · exact h.spent
  · intro executionId stored hstored
    simp only [BTreeMap.get?_insert] at hstored
    split at hstored
    · obtain rfl := Option.some.inj hstored
      assumption
    · exact h.keyed executionId stored hstored
  · intro executionId stored hstored hstate
    simp only [BTreeMap.get?_insert] at hstored
    split at hstored
    · obtain rfl := Option.some.inj hstored
      exact hopen
    · exact h.opens executionId stored hstored hstate
  · exact h.fits

/-- The settlements of a template after one more settlement. -/
theorem settledOf_append {settlement : Settlement} {key : StrategyTemplateKey} :
    StrategyWorld.settledOf keccakHex ⟨next, world.settled ++ [settlement]⟩ key =
      if SameTemplate keccakHex settlement.execution.key key then
        world.settledOf keccakHex key ++ [settlement]
      else world.settledOf keccakHex key := by
  unfold StrategyWorld.settledOf
  rw [List.filter_append, List.filter_singleton]
  split
  · simp_all
  · simp_all

/-- The settlements of a template do not depend on how its key is spelled. -/
theorem settledOf_congr {key other : StrategyTemplateKey} (h : SameTemplate keccakHex key other) :
    world.settledOf keccakHex key = world.settledOf keccakHex other := by
  apply List.filter_congr
  intro settlement _
  exact decide_eq_decide.mpr ⟨fun hkey => hkey.trans h, fun hkey => hkey.trans h.symm⟩

/-- The outcome is counted in the statistics of the template, and of no other one. -/
theorem Settles.counted (hsettles : Settles keccakHex world.rows execution kind next)
    (h : ∀ key, CountsOutcomes (world.rows.strategyOutcomeStats keccakHex key)
      ((world.settledOf keccakHex key).map (·.kind))) (key : StrategyTemplateKey) :
    CountsOutcomes (next.strategyOutcomeStats keccakHex key)
      ((StrategyWorld.settledOf keccakHex
        ⟨next, world.settled ++ [⟨execution, kind⟩]⟩ key).map (·.kind)) := by
  obtain ⟨stats, hstats, hcount⟩ := hsettles.outcome
  have hrecord : strategyOutcomeStatsRecordKey keccakHex execution.key =
      strategyOutcomeStatsRecordKey keccakHex key ↔ SameTemplate keccakHex execution.key key :=
    String.append_right_inj _
  rw [settledOf_append]
  split
  · rename_i hsame
    have hnext : next.strategyOutcomeStats keccakHex key = stats := by
      simp [StrategyRows.strategyOutcomeStats, hstats, hrecord.mpr hsame]
    rw [hnext, ← settledOf_congr hsame, List.map_append]
    exact (h execution.key).count hcount
  · rename_i hsame
    have hnext : next.strategyOutcomeStats keccakHex key =
        world.rows.strategyOutcomeStats keccakHex key := by
      rw [StrategyRows.strategyOutcomeStats, hstats, BTreeMap.get?_insert,
        if_neg (hrecord.not.mpr hsame), StrategyRows.strategyOutcomeStats]
    rw [hnext]
    exact h key

/-- The values of the calls are added to what the template has spent, and to no other one. -/
theorem Settles.spent (hsettles : Settles keccakHex rows execution kind next)
    {spent : StrategyTemplateKey → ℕ}
    (h : ∀ key, rows.budgetSpentWei keccakHex key = toString (spent key))
    (hfits : ∀ key, spent key ≤ u256Max) (key : StrategyTemplateKey) :
    let after := spent key + if SameTemplate keccakHex execution.key key then
      Settlement.spentWei ⟨execution, kind⟩ else 0
    next.budgetSpentWei keccakHex key = toString after ∧ after ≤ u256Max := by
  have hrecord : strategyBudgetRecordKey keccakHex execution.key =
      strategyBudgetRecordKey keccakHex key ↔ SameTemplate keccakHex execution.key key :=
    String.append_right_inj _
  have hspent : Settlement.spentWei ⟨execution, kind⟩ =
    if kind = .success then execution.wei else 0 := rfl
  dsimp only
  rw [hspent]
  rcases hsettles.budget with ⟨hzero, hbudgets⟩ | ⟨current, hcurrent, hsum, hbudgets⟩
  · have hnext : next.budgetSpentWei keccakHex key = rows.budgetSpentWei keccakHex key := by
      rw [StrategyRows.budgetSpentWei, hbudgets, StrategyRows.budgetSpentWei]
    rw [hnext, hzero, ite_self, add_zero]
    exact ⟨h key, hfits key⟩
  · split
    · rename_i hsame
      have hkey : rows.budgetSpentWei keccakHex execution.key = toString (spent key) := by
        rw [← h, StrategyRows.budgetSpentWei, hrecord.mpr hsame, StrategyRows.budgetSpentWei]
      rw [hkey, parseU256Decimal_toString (hfits key)] at hcurrent
      obtain rfl := Except.ok.inj hcurrent
      refine ⟨?_, hsum⟩
      rw [StrategyRows.budgetSpentWei, hbudgets, BTreeMap.get?_insert, if_pos (hrecord.mpr hsame)]
      rfl
    · rename_i hsame
      refine ⟨?_, hfits key⟩
      rw [StrategyRows.budgetSpentWei, hbudgets, BTreeMap.get?_insert,
        if_neg (hrecord.not.mpr hsame)]
      exact h key

/-- The sum over the settlements of a template after one more settlement. -/
theorem sum_settledOf_append {settlement : Settlement} {key : StrategyTemplateKey} :
    ((StrategyWorld.settledOf keccakHex ⟨next, world.settled ++ [settlement]⟩ key).map
        (·.spentWei)).sum =
      ((world.settledOf keccakHex key).map (·.spentWei)).sum +
        if SameTemplate keccakHex settlement.execution.key key then settlement.spentWei else 0 := by
  rw [settledOf_append]
  split
  · rw [List.map_append, List.sum_append, List.map_singleton, List.sum_singleton]
  · rw [add_zero]

theorem SettledInv.settle (h : SettledInv keccakHex world)
    (hsettles : Settles keccakHex world.rows execution kind next) :
    SettledInv keccakHex ⟨next, world.settled ++ [⟨execution, kind⟩]⟩ := by
  have hfresh := h.not_settled hsettles.wasOpen
  have hspent := hsettles.spent h.spent h.fits
  constructor
  · constructor
    · rw [List.map_append, List.map_singleton, List.nodup_append]
      refine ⟨h.once, List.nodup_singleton _, ?_⟩
      intro executionId hid other hother
      obtain rfl := List.mem_singleton.mp hother
      obtain ⟨settlement, hsettlement, rfl⟩ := List.mem_map.mp hid
      exact hfresh settlement hsettlement
    · intro settlement hsettlement
      simp only [hsettles.executions, BTreeMap.get?_insert]
      rcases List.mem_append.mp hsettlement with hold | hnew
      · obtain ⟨hstored, hstate, hkind⟩ := h.kept settlement hold
        exact ⟨by rw [if_neg (Ne.symm (hfresh settlement hold)), hstored], hstate, hkind⟩
      · obtain rfl := List.mem_singleton.mp hnew
        exact ⟨if_pos rfl, hsettles.terminal, hsettles.confirmed⟩
    · intro executionId stored hstored hstate
      simp only [hsettles.executions, BTreeMap.get?_insert] at hstored
      split at hstored
      · obtain rfl := Option.some.inj hstored
        exact ⟨⟨execution, kind⟩, by simp, rfl⟩
      · obtain ⟨settlement, hsettlement, rfl⟩ := h.complete executionId stored hstored hstate
        exact ⟨settlement, List.mem_append_left _ hsettlement, rfl⟩
    · exact hsettles.counted h.counted
    · intro key
      rw [sum_settledOf_append]
      exact (hspent key).1
  · intro executionId stored hstored
    simp only [hsettles.executions, BTreeMap.get?_insert] at hstored
    split at hstored
    · obtain rfl := Option.some.inj hstored
      assumption
    · exact h.keyed executionId stored hstored
  · intro executionId stored hstored hstate
    simp only [hsettles.executions, BTreeMap.get?_insert] at hstored
    split at hstored
    · obtain rfl := Option.some.inj hstored
      exact absurd hstate hsettles.terminal
    · exact h.opens executionId stored hstored hstate
  · intro key
    rw [sum_settledOf_append]
    exact (hspent key).2

theorem isOpen_newPendingExecution {turnId planDigest : String} {plan : ExecutionPlan}
    {nowNs : ℕ} : (newPendingExecution turnId planDigest plan nowNs).isOpen = true := rfl

/-- An insertion stores the execution when its id is free, and else nothing. -/
theorem insertPendingStrategyExecution_spec {stored : PendingStrategyExecution}
    (h : rows.insertPendingStrategyExecution execution = .ok (stored, next)) :
    rows.executions[execution.executionId]? ≠ none ∧ next = rows ∨
      rows.executions[execution.executionId]? = none ∧
        next = { rows with
          executions := rows.executions.insert execution.executionId execution } := by
  unfold StrategyRows.insertPendingStrategyExecution at h
  split at h
  · cases h
  · obtain ⟨-, -, h⟩ := Fallible.bind_eq_ok.mp h
    split at h
    · obtain ⟨-, rfl⟩ := Prod.mk.inj (Except.ok.inj h)
      exact .inr ⟨‹_›, rfl⟩
    · rename_i existing hexisting
      split at h
      · cases h
      · obtain ⟨-, rfl⟩ := Prod.mk.inj (Except.ok.inj h)
        exact .inl ⟨by simp [hexisting], rfl⟩

/-- Progress is written over an open execution that equals the copy, and else nothing is. -/
theorem compareAndUpdate_spec {expected desired : PendingStrategyExecution}
    (h : (rows.compareAndUpdate expected desired).2 = next) :
    next = rows ∨ expected.isOpen = true ∧ desired.isOpen = true ∧
      rows.executions[desired.executionId]? = some expected ∧
        next = { rows with
          executions := rows.executions.insert desired.executionId desired } := by
  unfold StrategyRows.compareAndUpdate at h
  split at h
  · exact .inl h.symm
  · rename_i hguard
    push Not at hguard
    obtain ⟨-, hexpected, hdesired⟩ := hguard
    split at h
    · exact .inr ⟨by simpa using hexpected, by simpa using hdesired, ‹_›, h.symm⟩
    · exact .inl h.symm

theorem SettledInv.record {result : Except String (Bool × StrategyRows)}
    (h : SettledInv keccakHex world)
    (hresult : ∀ changed next, result = .ok (changed, next) →
      changed = false ∧ next = world.rows ∨
        changed = true ∧ Settles keccakHex world.rows execution kind next) :
    SettledInv keccakHex (world.record result ⟨execution, kind⟩) := by
  cases hcase : result with
  | error message => exact h
  | ok pair =>
    obtain ⟨changed, next⟩ := pair
    rcases hresult changed next hcase with ⟨rfl, rfl⟩ | ⟨rfl, hsettles⟩
    · exact h
    · exact h.settle hsettles

theorem SettledInv.step {act : StrategyAct} (h : SettledInv keccakHex world) :
    SettledInv keccakHex (act.apply keccakHex world) := by
  cases act with
  | insert turnId planDigest plan nowNs =>
    dsimp only [StrategyAct.apply]
    cases hinsert : world.rows.insertPendingStrategyExecution
        (newPendingExecution turnId planDigest plan nowNs) with
    | error message => exact h
    | ok pair =>
      obtain ⟨stored, next⟩ := pair
      rcases insertPendingStrategyExecution_spec hinsert with ⟨-, rfl⟩ | ⟨hnone, rfl⟩
      · exact h
      · apply h.write isOpen_newPendingExecution
        intro current hcurrent
        rw [hnone] at hcurrent
        cases hcurrent
  | progress expected desired =>
    dsimp only [StrategyAct.apply]
    rcases compareAndUpdate_spec (rfl : (world.rows.compareAndUpdate expected desired).2 = _) with
      hnext | ⟨hexpected, hdesired, hcurrent, hnext⟩
    · rw [hnext]
      exact h
    · rw [hnext]
      apply h.write hdesired
      intro current hstored
      rw [hcurrent] at hstored
      obtain rfl := Option.some.inj hstored
      exact hexpected
  | confirm copy nowNs =>
    apply h.record
    intro changed next hresult
    exact (applyConfirmedStrategyExecution_spec hresult).imp_right fun hsettles =>
      ⟨hsettles.1, hsettles.2.1⟩
  | fail policy copy failure kind reason nowNs =>
    apply h.record
    intro changed next hresult
    refine applyTerminalStrategyFailure_spec ?_ hresult
    cases failure <;> exact fun hstate => PendingStrategyExecutionState.noConfusion hstate

theorem settledInv_fresh : SettledInv keccakHex .fresh := by
  constructor
  · constructor
    · exact List.nodup_nil
    · simp [StrategyWorld.fresh]
    · simp [StrategyWorld.fresh, StrategyRows.empty]
    · intro key
      constructor <;> simp [StrategyWorld.fresh, StrategyRows.empty, StrategyWorld.settledOf,
        StrategyRows.strategyOutcomeStats, newOutcomeStats]
    · intro key
      simp [StrategyWorld.fresh, StrategyRows.empty, StrategyWorld.settledOf,
        StrategyRows.budgetSpentWei]
      rfl
  · simp [StrategyWorld.fresh, StrategyRows.empty]
  · simp [StrategyWorld.fresh, StrategyRows.empty]
  · simp [StrategyWorld.fresh, StrategyWorld.settledOf]

theorem settledInv_of_reachable (hreach : StrategyReachable keccakHex world) :
    SettledInv keccakHex world := by
  refine Reachable.invariant hreach ?_ ?_
  · rintro world rfl
    exact settledInv_fresh
  · rintro world act next hinv rfl
    exact hinv.step

/-- What has left the pending state is not forgotten. -/
theorem settled_subset_apply {act : StrategyAct} :
    world.settled ⊆ (act.apply keccakHex world).settled := by
  have hrecord {result : Except String (Bool × StrategyRows)} {settlement : Settlement} :
      world.settled ⊆ (world.record result settlement).settled := by
    intro settled hsettled
    cases result with
    | error message => exact hsettled
    | ok pair =>
      obtain ⟨changed, rows⟩ := pair
      cases changed with
      | false => exact hsettled
      | true => exact List.mem_append_left _ hsettled
  cases act with
  | insert turnId planDigest plan nowNs =>
    intro settled hsettled
    dsimp only [StrategyAct.apply]
    cases world.rows.insertPendingStrategyExecution
        (newPendingExecution turnId planDigest plan nowNs) with
    | error message => exact hsettled
    | ok pair => exact hsettled
  | progress expected desired => exact fun _ hsettled => hsettled
  | confirm copy nowNs => exact hrecord
  | fail policy copy failure kind reason nowNs => exact hrecord

/-- An execution that has left the pending state stays as it is. -/
theorem SettledInv.terminal_kept {act : StrategyAct} {executionId : String}
    (h : SettledInv keccakHex world)
    (hstored : world.rows.executions[executionId]? = some execution)
    (hstate : execution.state ≠ .pending) :
    (act.apply keccakHex world).rows.executions[executionId]? = some execution := by
  obtain ⟨settlement, hsettlement, rfl⟩ := h.complete executionId execution hstored hstate
  obtain rfl := h.keyed executionId _ hstored
  exact (h.step.kept settlement (settled_subset_apply hsettlement)).1

end Steps

/-- In every interleaving each execution leaves the pending state at most once, stays as it was
stored then, and is counted once; the total is the sum of the other counters until it reaches its
largest value. -/
theorem executions_settle_once (keccakHex : String → String) (world : StrategyWorld)
    (hreach : StrategyReachable keccakHex world) :
    SettledOnce keccakHex world ∧
      (∀ (act : StrategyAct) (executionId : String) (execution : PendingStrategyExecution),
        world.rows.executions[executionId]? = some execution → execution.state ≠ .pending →
          (act.apply keccakHex world).rows.executions[executionId]? = some execution) ∧
      ∀ key, (world.settledOf keccakHex key).length ≤ u64Max →
        let stats := world.rows.strategyOutcomeStats keccakHex key
        stats.totalRuns =
          stats.successRuns + stats.deterministicFailures + stats.nondeterministicFailures := by
  have hinv := settledInv_of_reachable hreach
  refine ⟨hinv.toSettledOnce, fun act executionId execution => hinv.terminal_kept, ?_⟩
  intro key hlength
  exact (hinv.counted key).sum (by simpa using hlength)

section Saturation

/-- A plan that spends nothing. -/
def quietPlan : ExecutionPlan where
  key := ⟨"erc20", "transfer", 8453, "quiet"⟩
  actionId := "transfer"
  calls := [⟨"token", "0x2222222222222222222222222222222222222222", "0", "0xa9059cbb"⟩]
  preconditions := []
  postconditions := ["balance_delta_gt_zero"]
  assetEffects := []
  riskChecks := []

/-- The execution of the plan in the n-th turn. -/
def quietExecution (n : ℕ) : PendingStrategyExecution :=
  newPendingExecution (String.ofList (List.replicate n 'a')) "digest" quietPlan 0

/-- All executions so far were of the plan. -/
structure QuietWorld (n : ℕ) (world : StrategyWorld) : Prop where
  reachable : StrategyReachable id world
  below : ∀ (executionId : String) (execution : PendingStrategyExecution),
    world.rows.executions[executionId]? = some execution → executionId.length < 16 + n

theorem length_quietExecution (n : ℕ) : (quietExecution n).executionId.length = 16 + n := by
  have hfirst : "strategy:".length = 9 := by decide
  have hcolon : ":".length = 1 := by decide
  have hlast : "digest".length = 6 := by decide
  simp only [quietExecution, newPendingExecution, String.length_append, String.length_ofList,
    List.length_replicate, hfirst, hcolon, hlast]
  omega

theorem trim_quietExecution (n : ℕ) :
    Text.trim (quietExecution n).executionId = (quietExecution n).executionId := by
  apply Text.trim_eq_self
  · intro c hc
    have hs : c = 's' := by
      simpa [quietExecution, newPendingExecution, eq_comm] using hc
    rw [hs]
    decide
  · intro c hc
    have ht : c = 't' := by
      simpa [quietExecution, newPendingExecution, List.getLast?_cons, eq_comm] using hc
    rw [ht]
    decide

/-- The execution of the next turn is inserted. -/
theorem QuietWorld.insert {n : ℕ} {world : StrategyWorld} (h : QuietWorld n world) :
    ∃ next, QuietWorld (n + 1) next ∧ next.settled = world.settled ∧
      next.rows.executions[(quietExecution n).executionId]? = some (quietExecution n) := by
  have hfree : world.rows.executions[(quietExecution n).executionId]? = none := by
    cases hstored : world.rows.executions[(quietExecution n).executionId]? with
    | none => rfl
    | some execution =>
      have hlength := h.below _ _ hstored
      rw [length_quietExecution] at hlength
      omega
  have hid : (quietExecution n).executionId ≠ "" := by
    intro hempty
    have hlength := length_quietExecution n
    rw [hempty, String.length_empty] at hlength
    omega
  have hkey : validateStrategyTemplateKey quietPlan.key = .ok () := by decide +kernel
  have hinsert : world.rows.insertPendingStrategyExecution (quietExecution n) =
      .ok (quietExecution n, { world.rows with
        executions := world.rows.executions.insert (quietExecution n).executionId
          (quietExecution n) }) := by
    unfold StrategyRows.insertPendingStrategyExecution
    have hdigest : Text.trim (quietExecution n).planDigest ≠ "" := by
      have hplan : Text.trim "digest" ≠ "" := by decide +kernel
      exact hplan
    rw [trim_quietExecution, if_neg (not_or.mpr ⟨hid, hdigest⟩), hfree]
    exact Fallible.bind_eq_ok.mpr ⟨(), hkey, rfl⟩
  let act := StrategyAct.insert (String.ofList (List.replicate n 'a')) "digest" quietPlan 0
  have hact : act.apply id world = { world with rows := { world.rows with
      executions := world.rows.executions.insert (quietExecution n).executionId
        (quietExecution n) } } := by
    have hresult := congrArg (·.toOption.elim world fun pair => { world with rows := pair.2 })
      hinsert
    exact hresult
  refine ⟨act.apply id world, ⟨h.reachable.step (a := act) rfl, ?_⟩, ?_, ?_⟩
  · intro executionId execution hstored
    rw [hact, BTreeMap.get?_insert] at hstored
    split at hstored
    · rename_i hsame
      rw [← hsame, length_quietExecution]
      omega
    · have hlength := h.below executionId execution hstored
      omega
  · rw [hact]
  · rw [hact, BTreeMap.get?_insert, if_pos rfl]

/-- The execution of the next turn is inserted and confirmed. -/
theorem QuietWorld.confirm {n : ℕ} {world : StrategyWorld} (h : QuietWorld n world) :
    ∃ next, QuietWorld (n + 1) next ∧
      next.settled = world.settled ++ [⟨(quietExecution n).confirm 0, .success⟩] := by
  obtain ⟨inserted, hinserted, hsettled, hstored⟩ := h.insert
  have hcalls : sumCallValues 0 quietPlan.calls = .ok 0 := by decide +kernel
  have haction : isEnterOrExitAction quietPlan.actionId = false := by decide +kernel
  have hchange : inserted.rows.exposureChange (quietExecution n).plan 0 = .ok none := by
    have hquiet : isEnterOrExitAction (quietExecution n).plan.actionId = false := haction
    rw [StrategyRows.exposureChange, hquiet]
    rfl
  obtain ⟨rows, hresult⟩ : ∃ rows, inserted.rows.applyConfirmedStrategyExecution id
      (quietExecution n) 0 = .ok (true, rows) :=
    exists_applyConfirmedStrategyExecution rfl hstored rfl hchange hcalls (if_pos rfl)
  rcases applyConfirmedStrategyExecution_spec hresult with ⟨hfalse, -⟩ | ⟨-, hsettles, -⟩
  · cases hfalse
  have hrows := hsettles.executions
  let act := StrategyAct.confirm (quietExecution n) 0
  have hact : act.apply id inserted =
      ⟨rows, inserted.settled ++ [⟨(quietExecution n).confirm 0, .success⟩]⟩ :=
    congrArg (inserted.record · ⟨(quietExecution n).confirm 0, .success⟩) hresult
  refine ⟨act.apply id inserted, ⟨hinserted.reachable.step (a := act) rfl, ?_⟩, ?_⟩
  · intro executionId execution hexecution
    rw [hact, hrows, BTreeMap.get?_insert, PendingStrategyExecution.confirm_executionId]
      at hexecution
    split at hexecution
    · rename_i hsame
      rw [← hsame, length_quietExecution]
      omega
    · exact hinserted.below executionId execution hexecution
  · rw [hact, hsettled]

/-- Any number of executions may be confirmed. -/
theorem exists_quietWorld (n : ℕ) : ∃ world, QuietWorld n world ∧
    world.settled = (List.range n).map fun k => ⟨(quietExecution k).confirm 0, .success⟩ := by
  induction n with
  | zero => exact ⟨.fresh, ⟨.start rfl, by simp [StrategyWorld.fresh, StrategyRows.empty]⟩, rfl⟩
  | succ n ih =>
    obtain ⟨world, hworld, hsettled⟩ := ih
    obtain ⟨next, hnext, hsettled'⟩ := hworld.confirm
    refine ⟨next, hnext, ?_⟩
    rw [hsettled', hsettled, List.range_succ, List.map_append, List.map_singleton]

/-- Any number of executions may be confirmed before one fails. -/
theorem exists_failed_quietWorld (n : ℕ) : ∃ world, StrategyReachable id world ∧
    CountsOutcomes (world.rows.strategyOutcomeStats id quietPlan.key)
      (List.replicate n .success ++ [.deterministicFailure]) := by
  obtain ⟨world, hworld, hsettled⟩ := exists_quietWorld n
  obtain ⟨inserted, hinserted, hsame, hstored⟩ := hworld.insert
  let policy : QuarantinePolicy := ⟨3, 0⟩
  let failed : PendingStrategyExecution := { quietExecution n with state := .reverted }
  let act :=
    StrategyAct.fail policy (quietExecution n) .reverted .deterministicFailure "reverted" 0
  obtain ⟨rows, hresult⟩ : ∃ rows, inserted.rows.applyTerminalStrategyFailure id policy failed
      .deterministicFailure "reverted" 0 = .ok (true, rows) :=
    exists_applyTerminalStrategyFailure ⟨rfl, rfl⟩
      (fun h => PendingStrategyExecutionState.noConfusion h) (by decide) hstored rfl
  have hact : act.apply id inserted =
      ⟨rows, inserted.settled ++ [⟨failed.terminate 0, .deterministicFailure⟩]⟩ :=
    congrArg (inserted.record · ⟨failed.terminate 0, .deterministicFailure⟩) hresult
  have hreach : StrategyReachable id (act.apply id inserted) :=
    hinserted.reachable.step (a := act) rfl
  have hall : (act.apply id inserted).settledOf id quietPlan.key =
      (act.apply id inserted).settled := by
    apply List.filter_eq_self.mpr
    intro settlement hsettlement
    rw [hact, hsame, hsettled] at hsettlement
    rcases List.mem_append.mp hsettlement with hold | hnew
    · obtain ⟨k, -, rfl⟩ := List.mem_map.mp hold
      exact decide_eq_true rfl
    · obtain rfl := List.mem_singleton.mp hnew
      exact decide_eq_true rfl
  have hkinds : ((act.apply id inserted).settledOf id quietPlan.key).map (·.kind) =
      List.replicate n .success ++ [.deterministicFailure] := by
    rw [hall, hact, hsame, hsettled, List.map_append, List.map_map]
    simp [Function.comp_def]
  exact ⟨act.apply id inserted, hreach,
    hkinds ▸ (settledInv_of_reachable hreach).counted quietPlan.key⟩

/-- The counters after some successes and a failure. -/
theorem CountsOutcomes.of_replicate {stats : StrategyOutcomeStats} {n : ℕ}
    (h : CountsOutcomes stats (List.replicate n .success ++ [.deterministicFailure])) :
    stats.totalRuns = min (n + 1) u64Max ∧ stats.successRuns = min n u64Max ∧
      stats.deterministicFailures = min 1 u64Max := by
  refine ⟨?_, ?_, ?_⟩
  · simpa using h.total
  · simpa using h.success
  · simpa [List.count_replicate] using h.deterministic

/-- An execution was inserted and confirmed. -/
theorem freshWorld_settles_once :
    let insert := StrategyAct.insert "turn" "digest" quietPlan 0
    let confirm := StrategyAct.confirm (newPendingExecution "turn" "digest" quietPlan 0) 1
    let world := confirm.apply id (insert.apply id .fresh)
    SettledOnce id world ∧
      (∀ (act : StrategyAct) (executionId : String) (execution : PendingStrategyExecution),
        world.rows.executions[executionId]? = some execution → execution.state ≠ .pending →
          (act.apply id world).rows.executions[executionId]? = some execution) ∧
      ∀ key, (world.settledOf id key).length ≤ u64Max →
        let stats := world.rows.strategyOutcomeStats id key
        stats.totalRuns =
          stats.successRuns + stats.deterministicFailures + stats.nondeterministicFailures := by
  intro insert confirm world
  apply executions_settle_once
  exact .step (a := confirm) (.step (a := insert) (.start rfl) rfl) rfl

/-- When as many executions were confirmed as the counters hold, the total does not count the next
one, which fails. -/
theorem saturated_total_ne_sum :
    ¬ ∀ (world : StrategyWorld), StrategyReachable id world → ∀ key,
      let stats := world.rows.strategyOutcomeStats id key
      stats.totalRuns =
        stats.successRuns + stats.deterministicFailures + stats.nondeterministicFailures := by
  intro hsum
  obtain ⟨world, hreach, hcounts⟩ := exists_failed_quietWorld u64Max
  obtain ⟨htotal, hsuccess, hdeterministic⟩ := hcounts.of_replicate
  have hworld := hsum world hreach quietPlan.key
  have hpos : 0 < u64Max := by decide
  dsimp only at hworld
  omega

end Saturation

end Automaton.Strategy
