import Automaton.Strategy.Settlement
import Automaton.Strategy.Validator

/-!
# Budgets of templates

A plan is validated against what its template has spent, which is recorded when executions are
confirmed. What pending executions may still spend is not looked at.
-/

namespace Automaton.Strategy

open Machine

/-- `active_strategy_quarantine`. -/
def StrategyRows.activeStrategyQuarantine (rows : StrategyRows) (policy : QuarantinePolicy)
    (strategyId : String) (nowNs : ℕ) : Option StrategyQuarantine :=
  rows.quarantines[strategyId]?.filter fun quarantine =>
    !(quarantine.failureCount < policy.failureQuarantineThreshold &&
      quarantine.releaseAfterNs.all (· ≤ nowNs))

/-- `record_strategy_failure`. -/
def StrategyRows.recordStrategyFailure (rows : StrategyRows) (policy : QuarantinePolicy)
    (key : StrategyTemplateKey) (reason : String) (nowNs : ℕ) : StrategyRows :=
  let strategyId := strategyIdFromKey key
  let quarantine := ((rows.quarantines[strategyId]?).getD
    (newQuarantine strategyId reason nowNs)).countFailure policy reason nowNs
  let quarantine :=
    if quarantine.quarantinedAtNs = 0 then { quarantine with quarantinedAtNs := nowNs }
    else quarantine
  if Text.trim strategyId = "" ∨ Text.trim reason = "" then rows
  else { rows with quarantines := rows.quarantines.insert strategyId quarantine }

/-- What `execute_strategy_action_tool` is called with: the key of the intent, the plan that
`compile_intent` makes of it, and the policy with the answer of
`enforce_strategy_execution_policy`. -/
structure ExecuteRequest where
  key : StrategyTemplateKey
  compiled : Except String ExecutionPlan
  turnId : String
  autonomousExecutionEnabled : Bool
  quarantinePolicy : QuarantinePolicy
  policyCheck : Except String Unit
  nowNs : ℕ

/-- The error of a plan that was not validated. -/
def ValidationReport.error (report : ValidationReport) : String :=
  "; ".intercalate (report.findings.map fun finding => finding.code ++ ":" ++ finding.message)

/-- What happens to the executions of an automaton. -/
inductive BudgetAct
  | execute (request : ExecuteRequest)
  | progress (expected desired : PendingStrategyExecution)
  | confirm (copy : PendingStrategyExecution) (nowNs : ℕ)
  | fail (policy : QuarantinePolicy) (copy : PendingStrategyExecution) (failure : StrategyFailure)
      (kind : StrategyOutcomeKind) (reason : String) (nowNs : ℕ)

section Execution

variable (keccakHex : String → String)
  (parseConstraints : String → Except String ConstraintPolicy)
  (planDigest : ExecutionPlan → String) (registry : StrategyRegistry)

/-- `execute_strategy_action_tool` up to the checks of its policy: the plan that may be executed,
and the rows with the failure that was recorded. -/
def StrategyRows.admitPlan (rows : StrategyRows) (request : ExecuteRequest) :
    Except String ExecutionPlan × StrategyRows :=
  if !request.autonomousExecutionEnabled then
    (.error "execute_strategy_action blocked: autonomous_execution_disabled", rows)
  else
    match rows.activeStrategyQuarantine request.quarantinePolicy (strategyIdFromKey request.key)
        request.nowNs with
    | some quarantine =>
      (.error ("execute_strategy_action blocked: strategy_quarantined:" ++ quarantine.reason), rows)
    | none =>
      match request.compiled with
      | .error error => (.error error,
          rows.recordStrategyFailure request.quarantinePolicy request.key error request.nowNs)
      | .ok plan =>
        let validation := validateExecutionPlan keccakHex parseConstraints registry rows plan
          request.nowNs
        if !validation.passed then
          (.error ("strategy validation failed: " ++ validation.error),
            rows.recordStrategyFailure request.quarantinePolicy plan.key validation.error
              request.nowNs)
        else (request.policyCheck.map fun () => plan, rows)

/-- `execute_strategy_action_tool` up to the calls that it sends. -/
def StrategyRows.executeStrategyAction (rows : StrategyRows) (request : ExecuteRequest) :
    Except String PendingStrategyExecution × StrategyRows :=
  match rows.admitPlan keccakHex parseConstraints registry request with
  | (.error error, rows) => (.error error, rows)
  | (.ok plan, rows) =>
    match rows.insertPendingStrategyExecution
        (newPendingExecution request.turnId (planDigest plan) plan request.nowNs) with
    | .error error => (.error error, rows)
    | .ok (pending, rows) =>
      if pending.bookkeepingApplied then
        (.error "strategy execution replay already confirmed", rows)
      else if pending.terminalBookkeepingApplied then
        (.error "strategy execution replay already reached a terminal failure", rows)
      else (.ok pending, rows)

/-- The rows after a transaction. -/
def StrategyRows.after (rows : StrategyRows) (result : Except String (Bool × StrategyRows)) :
    StrategyRows :=
  result.toOption.elim rows (·.2)

/-- The rows after an act. -/
def BudgetAct.apply (act : BudgetAct) (rows : StrategyRows) : StrategyRows :=
  match act with
  | .execute request =>
    (rows.executeStrategyAction keccakHex parseConstraints planDigest registry request).2
  | .progress expected desired => (rows.compareAndUpdate expected desired).2
  | .confirm copy nowNs =>
    rows.after (rows.applyConfirmedStrategyExecution keccakHex copy nowNs)
  | .fail policy copy failure kind reason nowNs =>
    rows.after (rows.applyTerminalStrategyFailure keccakHex policy
      { copy with state := failure.state } kind reason nowNs)

/-- The values of the calls of a plan. -/
def ExecutionPlan.wei (plan : ExecutionPlan) : ℕ := (plan.calls.map (·.wei)).sum

/-- The values of the calls of all executions of a template that are in a state. -/
def StrategyRows.weiIn (rows : StrategyRows) (state : PendingStrategyExecutionState)
    (key : StrategyTemplateKey) : ℕ :=
  BTreeMap.sum (fun execution =>
    if execution.state = state ∧ SameTemplate keccakHex execution.key key then execution.wei else 0)
    rows.executions

/-- What validation reads as spent. -/
def StrategyRows.spentWei (rows : StrategyRows) (key : StrategyTemplateKey) : ℕ :=
  (parseU256Decimal (rows.budgetSpentWei keccakHex key)).toOption.getD 0

/-- A template is stored under the key, and has a budget. -/
def StrategyRegistry.HasBudget (key : StrategyTemplateKey) (budget : ℕ) : Prop :=
  ∃ template, registry.templates[strategyTemplatePk key]? = some template ∧
    ∃ raw, (parseConstraintsPolicy parseConstraints template.constraintsJson).1.templateBudgetWei =
      some raw ∧ parseU256Field raw "template_budget_wei" = .ok budget

/-- The pending and the confirmed executions of every template are within its budget. -/
def WithinBudget (rows : StrategyRows) : Prop :=
  ∀ key budget, registry.HasBudget parseConstraints key budget →
    rows.weiIn keccakHex .pending key + rows.weiIn keccakHex .confirmed key ≤ budget

/-- Every state of a run is within the budgets. -/
def StaysWithinBudget (rows : StrategyRows) : List BudgetAct → Prop
  | [] => WithinBudget keccakHex parseConstraints registry rows
  | act :: acts => WithinBudget keccakHex parseConstraints registry rows ∧
    StaysWithinBudget (act.apply keccakHex parseConstraints planDigest registry rows) acts

/-- An execution has the plan of the stored one with its id. -/
def StrategyRows.CopyFits (rows : StrategyRows) (copy : PendingStrategyExecution) : Prop :=
  ∀ stored, rows.executions[copy.executionId]? = some stored →
    copy.key = stored.key ∧ copy.calls.map (·.call) = stored.calls.map (·.call)

/-- The copy that an act stores fits. -/
def BudgetAct.CopyFits (act : BudgetAct) (rows : StrategyRows) : Prop :=
  match act with
  | .execute _ => True
  | .progress _ desired => rows.CopyFits desired
  | .confirm copy _ => rows.CopyFits copy
  | .fail _ copy _ _ _ _ => rows.CopyFits copy

/-- The copies of a run are copies of what is stored, with any progress of the calls. -/
def CopiesFit (rows : StrategyRows) : List BudgetAct → Prop
  | [] => True
  | act :: acts => act.CopyFits rows ∧
    CopiesFit (act.apply keccakHex parseConstraints planDigest registry rows) acts

/-- An execution can be stored under a new id. -/
def StrategyRows.Inserts (rows : StrategyRows) (execution : PendingStrategyExecution) : Prop :=
  rows.executions[execution.executionId]? = none ∧
    (rows.insertPendingStrategyExecution execution).toOption.isSome = true

/-- A plan that is admitted and stored under a new id fits, with the pending executions of its
template, in what is left of the budget. -/
def BudgetAct.LeavesRoom (act : BudgetAct) (rows : StrategyRows) : Prop :=
  match act with
  | .execute request => ∀ plan,
    (rows.admitPlan keccakHex parseConstraints registry request).1 = .ok plan →
      rows.Inserts (newPendingExecution request.turnId (planDigest plan) plan request.nowNs) →
      ∀ key budget, SameTemplate keccakHex plan.key key →
        registry.HasBudget parseConstraints key budget →
          rows.weiIn keccakHex .pending key + rows.spentWei keccakHex key + plan.wei ≤ budget
  | _ => True

/-- Every act of a run leaves room. -/
def AlwaysLeavesRoom (rows : StrategyRows) : List BudgetAct → Prop
  | [] => True
  | act :: acts => act.LeavesRoom keccakHex parseConstraints planDigest registry rows ∧
    AlwaysLeavesRoom (act.apply keccakHex parseConstraints planDigest registry rows) acts

end Execution

section Specs

variable {keccakHex : String → String}
  {parseConstraints : String → Except String ConstraintPolicy}
  {planDigest : ExecutionPlan → String} {registry : StrategyRegistry}
  {rows next : StrategyRows} {request : ExecuteRequest} {execution : PendingStrategyExecution}

theorem recordStrategyFailure_spec {policy : QuarantinePolicy} {key : StrategyTemplateKey}
    {reason : String} {nowNs : ℕ} :
    (rows.recordStrategyFailure policy key reason nowNs).executions = rows.executions ∧
      (rows.recordStrategyFailure policy key reason nowNs).budgets = rows.budgets := by
  unfold StrategyRows.recordStrategyFailure
  dsimp only
  split
  · exact ⟨rfl, rfl⟩
  · exact ⟨rfl, rfl⟩

/-- Checking a plan changes at most the quarantines, and nothing when it is admitted. -/
theorem admitPlan_spec {result : Except String ExecutionPlan}
    (h : rows.admitPlan keccakHex parseConstraints registry request = (result, next)) :
    (next.executions = rows.executions ∧ next.budgets = rows.budgets) ∧
      ∀ plan, result = .ok plan → next = rows ∧
        (validateExecutionPlan keccakHex parseConstraints registry rows plan
          request.nowNs).passed = true := by
  unfold StrategyRows.admitPlan at h
  split at h
  · obtain ⟨rfl, rfl⟩ := Prod.mk.inj h
    exact ⟨⟨rfl, rfl⟩, fun _ hok => by cases hok⟩
  · split at h
    · obtain ⟨rfl, rfl⟩ := Prod.mk.inj h
      exact ⟨⟨rfl, rfl⟩, fun _ hok => by cases hok⟩
    · split at h
      · obtain ⟨rfl, rfl⟩ := Prod.mk.inj h
        exact ⟨recordStrategyFailure_spec, fun _ hok => by cases hok⟩
      · dsimp only at h
        split at h
        · obtain ⟨rfl, rfl⟩ := Prod.mk.inj h
          exact ⟨recordStrategyFailure_spec, fun _ hok => by cases hok⟩
        · rename_i hpassed
          obtain ⟨rfl, rfl⟩ := Prod.mk.inj h
          refine ⟨⟨rfl, rfl⟩, fun plan hok => ⟨rfl, ?_⟩⟩
          cases hcheck : request.policyCheck with
          | error error =>
            rw [hcheck] at hok
            cases hok
          | ok _ =>
            rw [hcheck] at hok
            obtain rfl := Except.ok.inj hok
            simpa using hpassed

/-- A request stores an execution of an admitted plan, or changes neither executions nor
budgets. -/
theorem executeStrategyAction_spec
    (h : (rows.executeStrategyAction keccakHex parseConstraints planDigest registry request).2 =
      next) :
    (∃ plan, (rows.admitPlan keccakHex parseConstraints registry request).1 = .ok plan ∧
      rows.Inserts (newPendingExecution request.turnId (planDigest plan) plan request.nowNs) ∧
      next = { rows with
        executions := rows.executions.insert
          (newPendingExecution request.turnId (planDigest plan) plan request.nowNs).executionId
          (newPendingExecution request.turnId (planDigest plan) plan request.nowNs) }) ∨
    (∀ plan, (rows.admitPlan keccakHex parseConstraints registry request).1 = .ok plan →
      ¬ rows.Inserts (newPendingExecution request.turnId (planDigest plan) plan request.nowNs)) ∧
        next.executions = rows.executions ∧ next.budgets = rows.budgets := by
  unfold StrategyRows.executeStrategyAction at h
  cases hadm : rows.admitPlan keccakHex parseConstraints registry request with
  | mk result admitted =>
    obtain ⟨⟨hexecutions, hbudgets⟩, hok⟩ := admitPlan_spec hadm
    rw [hadm] at h
    cases result with
    | error error =>
      obtain rfl := h
      exact .inr ⟨fun _ hplan => (by cases hplan), hexecutions, hbudgets⟩
    | ok plan =>
      obtain ⟨rfl, -⟩ := hok plan rfl
      dsimp only at h
      cases hinsert : admitted.insertPendingStrategyExecution
          (newPendingExecution request.turnId (planDigest plan) plan request.nowNs) with
      | error error =>
        rw [hinsert] at h
        obtain rfl := h
        refine .inr ⟨?_, rfl, rfl⟩
        rintro other hother ⟨-, hsome⟩
        obtain rfl := Except.ok.inj hother
        rw [hinsert] at hsome
        cases hsome
      | ok pair =>
        obtain ⟨stored, inserted⟩ := pair
        have hnext : inserted = next := by
          rw [hinsert] at h
          dsimp only at h
          split at h
          · exact h
          · split at h <;> exact h
        obtain rfl := hnext
        rcases insertPendingStrategyExecution_spec hinsert with ⟨hsome, rfl⟩ | ⟨hnone, rfl⟩
        · refine .inr ⟨?_, rfl, rfl⟩
          rintro other hother ⟨hnone, -⟩
          obtain rfl := Except.ok.inj hother
          exact hsome hnone
        · exact .inl ⟨plan, rfl, ⟨hnone, by rw [hinsert]; rfl⟩, rfl⟩

@[simp] theorem wei_newPendingExecution {turnId digest : String} {plan : ExecutionPlan}
    {nowNs : ℕ} : (newPendingExecution turnId digest plan nowNs).wei = plan.wei := by
  have hcalls : (plan.calls.mapIdx newExecutionCall).map (·.call.wei) =
      plan.calls.map (·.wei) := by
    apply List.ext_getElem?
    intro i
    simp [newExecutionCall, Function.comp_def]
  exact congrArg List.sum hcalls

/-- What an execution adds to the sum over the executions of a template in a state. -/
def PendingStrategyExecution.weiIn (keccakHex : String → String)
    (execution : PendingStrategyExecution) (state : PendingStrategyExecutionState)
    (key : StrategyTemplateKey) : ℕ :=
  if execution.state = state ∧ SameTemplate keccakHex execution.key key then execution.wei else 0

/-- The sum counts a stored execution in place of the one it replaces. -/
theorem weiIn_insert (keccakHex : String → String) (state : PendingStrategyExecutionState)
    (key : StrategyTemplateKey)
    (h : next.executions = rows.executions.insert execution.executionId execution) :
    next.weiIn keccakHex state key +
        (rows.executions[execution.executionId]?.elim 0 (·.weiIn keccakHex state key)) =
      rows.weiIn keccakHex state key + execution.weiIn keccakHex state key := by
  unfold StrategyRows.weiIn
  rw [h]
  exact BTreeMap.sum_insert

/-- Executions are stored under their ids, a pending one is open, and what the confirmed ones of a
template have spent is recorded. -/
structure BudgetInv (keccakHex : String → String) (rows : StrategyRows) : Prop where
  keyed : ∀ (executionId : String) (execution : PendingStrategyExecution),
    rows.executions[executionId]? = some execution → execution.executionId = executionId
  recorded : ∀ key, rows.budgetSpentWei keccakHex key =
    toString (rows.weiIn keccakHex .confirmed key)
  fits : ∀ key, rows.weiIn keccakHex .confirmed key ≤ u256Max

theorem BudgetInv.spentWei_eq (h : BudgetInv keccakHex rows) (key : StrategyTemplateKey) :
    rows.spentWei keccakHex key = rows.weiIn keccakHex .confirmed key := by
  rw [StrategyRows.spentWei, h.recorded, parseU256Decimal_toString (h.fits key)]
  rfl

theorem BudgetInv.keyed_insert (h : BudgetInv keccakHex rows)
    (hinsert : next.executions = rows.executions.insert execution.executionId execution)
    (executionId : String) (stored : PendingStrategyExecution)
    (hstored : next.executions[executionId]? = some stored) :
    stored.executionId = executionId := by
  rw [hinsert, BTreeMap.get?_insert] at hstored
  split at hstored
  · obtain rfl := Option.some.inj hstored
    assumption
  · exact h.keyed executionId stored hstored

/-- What a copy adds when it fits the stored execution. -/
theorem wei_of_copyFits {stored copy : PendingStrategyExecution} (hfits : rows.CopyFits copy)
    (hstored : rows.executions[copy.executionId]? = some stored) :
    copy.key = stored.key ∧ copy.wei = stored.wei := by
  obtain ⟨hkey, hcalls⟩ := hfits stored hstored
  refine ⟨hkey, ?_⟩
  have hvalues := congrArg (List.map StrategyExecutionCall.wei) hcalls
  rw [List.map_map, List.map_map] at hvalues
  exact congrArg List.sum hvalues

/-- The sums after a pending execution was stored again with the same plan. -/
theorem weiIn_replace (keccakHex : String → String) {copy stored : PendingStrategyExecution}
    (hfits : rows.CopyFits copy) (hstored : rows.executions[copy.executionId]? = some stored)
    (hpending : stored.state = .pending)
    (hinsert : next.executions = rows.executions.insert copy.executionId copy)
    (key : StrategyTemplateKey) :
    (∀ state, state ≠ .pending → next.weiIn keccakHex state key =
      rows.weiIn keccakHex state key +
        if copy.state = state ∧ SameTemplate keccakHex copy.key key then copy.wei else 0) ∧
      next.weiIn keccakHex .pending key +
        (if copy.state ≠ .pending ∧ SameTemplate keccakHex copy.key key then copy.wei else 0) =
          rows.weiIn keccakHex .pending key := by
  obtain ⟨hkey, hwei⟩ := wei_of_copyFits hfits hstored
  constructor
  · intro state hstate
    have hsum := weiIn_insert keccakHex state key hinsert
    have hold : stored.weiIn keccakHex state key = 0 := by
      rw [PendingStrategyExecution.weiIn, if_neg]
      rintro ⟨rfl, -⟩
      exact hstate hpending
    rw [hstored, Option.elim_some, hold] at hsum
    exact hsum
  · have hsum := weiIn_insert keccakHex .pending key hinsert
    rw [hstored, Option.elim_some] at hsum
    simp only [PendingStrategyExecution.weiIn, hpending, ← hkey, ← hwei, true_and] at hsum
    by_cases hstate : copy.state = .pending
    · simp only [hstate, true_and] at hsum
      simp only [hstate, ne_eq, not_true_eq_false, false_and, if_false]
      omega
    · simp only [hstate, false_and, if_false] at hsum
      simp only [hstate, ne_eq, not_false_eq_true, true_and]
      omega

/-- No act but an execution of an action adds to what a template may spend. -/
structure SpendsNoMore (keccakHex : String → String) (rows next : StrategyRows) : Prop where
  inv : BudgetInv keccakHex next
  live : ∀ key, next.weiIn keccakHex .pending key + next.weiIn keccakHex .confirmed key ≤
    rows.weiIn keccakHex .pending key + rows.weiIn keccakHex .confirmed key

theorem BudgetInv.spendsNoMore (h : BudgetInv keccakHex rows)
    (hkeyed : ∀ (executionId : String) (execution : PendingStrategyExecution),
      next.executions[executionId]? = some execution → execution.executionId = executionId)
    (hbudgets : next.budgets = rows.budgets)
    (hconfirmed : ∀ key,
      next.weiIn keccakHex .confirmed key = rows.weiIn keccakHex .confirmed key)
    (hpending : ∀ key, next.weiIn keccakHex .pending key ≤ rows.weiIn keccakHex .pending key) :
    SpendsNoMore keccakHex rows next := by
  constructor
  · constructor
    · exact hkeyed
    · intro key
      rw [StrategyRows.budgetSpentWei, hbudgets, hconfirmed]
      exact h.recorded key
    · intro key
      rw [hconfirmed]
      exact h.fits key
  · intro key
    have hle := hpending key
    rw [hconfirmed]
    omega

theorem BudgetInv.unchanged (h : BudgetInv keccakHex rows)
    (hexecutions : next.executions = rows.executions) (hbudgets : next.budgets = rows.budgets) :
    SpendsNoMore keccakHex rows next := by
  have hsums (state : PendingStrategyExecutionState) (key : StrategyTemplateKey) :
      next.weiIn keccakHex state key = rows.weiIn keccakHex state key := by
    rw [StrategyRows.weiIn, hexecutions, StrategyRows.weiIn]
  apply h.spendsNoMore (hexecutions ▸ h.keyed) hbudgets
  · exact fun key => hsums .confirmed key
  · exact fun key => (hsums .pending key).le

theorem BudgetInv.progress {expected desired : PendingStrategyExecution}
    (h : BudgetInv keccakHex rows) (hfits : rows.CopyFits desired)
    (hnext : (rows.compareAndUpdate expected desired).2 = next) :
    SpendsNoMore keccakHex rows next := by
  rcases compareAndUpdate_spec hnext with rfl | ⟨hexpected, hdesired, hstored, hwritten⟩
  · exact h.unchanged rfl rfl
  · have hinsert : next.executions = rows.executions.insert desired.executionId desired := by
      rw [hwritten]
    have hpending := state_of_isOpen hdesired
    have hsums := weiIn_replace keccakHex hfits hstored (state_of_isOpen hexpected) hinsert
    apply h.spendsNoMore (h.keyed_insert hinsert) (by rw [hwritten])
    · intro key
      rw [(hsums key).1 .confirmed (by decide), if_neg (by simp [hpending]), add_zero]
    · intro key
      rw [← (hsums key).2]
      exact Nat.le_add_right _ _

/-- An outcome moves what an execution may spend to what was spent, or frees it. -/
theorem BudgetInv.settle {kind : StrategyOutcomeKind} (h : BudgetInv keccakHex rows)
    (hsettles : Settles keccakHex rows execution kind next) (hfits : rows.CopyFits execution) :
    SpendsNoMore keccakHex rows next := by
  obtain ⟨stored, hstored, hopen⟩ := hsettles.wasOpen
  have hsums := weiIn_replace keccakHex hfits hstored (state_of_isOpen hopen) hsettles.executions
  have hconfirmed (key : StrategyTemplateKey) : next.weiIn keccakHex .confirmed key =
      rows.weiIn keccakHex .confirmed key + if SameTemplate keccakHex execution.key key then
        Settlement.spentWei ⟨execution, kind⟩ else 0 := by
    rw [(hsums key).1 .confirmed (by decide), Settlement.spentWei]
    simp only [hsettles.confirmed]
    by_cases hsame : SameTemplate keccakHex execution.key key
    · simp [hsame]
    · simp [hsame]
  have hspent := hsettles.spent h.recorded h.fits
  constructor
  · constructor
    · exact h.keyed_insert hsettles.executions
    · intro key
      rw [hconfirmed]
      exact (hspent key).1
    · intro key
      rw [hconfirmed]
      exact (hspent key).2
  · intro key
    have hpending := (hsums key).2
    have hle : (if SameTemplate keccakHex execution.key key then
        Settlement.spentWei ⟨execution, kind⟩ else 0) ≤
          if execution.state ≠ .pending ∧ SameTemplate keccakHex execution.key key then
            execution.wei else 0 := by
      simp only [hsettles.terminal, ne_eq, not_false_eq_true, true_and]
      split
      · unfold Settlement.spentWei
        split <;> simp
      · exact le_rfl
    rw [hconfirmed]
    omega

/-- A new execution adds the values of its calls to what its template may spend. -/
theorem BudgetInv.insert (h : BudgetInv keccakHex rows) (hpending : execution.state = .pending)
    (hnone : rows.executions[execution.executionId]? = none)
    (hinsert : next.executions = rows.executions.insert execution.executionId execution)
    (hbudgets : next.budgets = rows.budgets) :
    BudgetInv keccakHex next ∧ ∀ key,
      next.weiIn keccakHex .confirmed key = rows.weiIn keccakHex .confirmed key ∧
        next.weiIn keccakHex .pending key = rows.weiIn keccakHex .pending key +
          if SameTemplate keccakHex execution.key key then execution.wei else 0 := by
  have hsums (key : StrategyTemplateKey) :
      next.weiIn keccakHex .confirmed key = rows.weiIn keccakHex .confirmed key ∧
        next.weiIn keccakHex .pending key = rows.weiIn keccakHex .pending key +
          if SameTemplate keccakHex execution.key key then execution.wei else 0 := by
    have hconfirmed := weiIn_insert keccakHex .confirmed key hinsert
    have hadded := weiIn_insert keccakHex .pending key hinsert
    simp only [hnone, Option.elim_none, add_zero, PendingStrategyExecution.weiIn, hpending]
      at hconfirmed hadded
    exact ⟨by simpa using hconfirmed, by simpa using hadded⟩
  refine ⟨?_, hsums⟩
  constructor
  · exact h.keyed_insert hinsert
  · intro key
    rw [StrategyRows.budgetSpentWei, hbudgets, (hsums key).1]
    exact h.recorded key
  · intro key
    rw [(hsums key).1]
    exact h.fits key

theorem SpendsNoMore.within (h : SpendsNoMore keccakHex rows next)
    (hwithin : WithinBudget keccakHex parseConstraints registry rows) :
    WithinBudget keccakHex parseConstraints registry next := by
  intro key budget hbudget
  exact (h.live key).trans (hwithin key budget hbudget)

theorem BudgetInv.after (kind : StrategyOutcomeKind) {result : Except String (Bool × StrategyRows)}
    (h : BudgetInv keccakHex rows) (hfits : rows.CopyFits execution)
    (hresult : ∀ changed next, result = .ok (changed, next) →
      changed = false ∧ next = rows ∨ changed = true ∧
        Settles keccakHex rows execution kind next) :
    SpendsNoMore keccakHex rows (rows.after result) := by
  cases hcase : result with
  | error message => exact h.unchanged rfl rfl
  | ok pair =>
    obtain ⟨changed, next⟩ := pair
    rcases hresult changed next hcase with ⟨-, rfl⟩ | ⟨-, hsettles⟩
    · exact h.unchanged rfl rfl
    · exact h.settle hsettles hfits

/-- After an act the templates are within their budgets exactly when the act left room. -/
theorem BudgetInv.step {act : BudgetAct} (h : BudgetInv keccakHex rows)
    (hwithin : WithinBudget keccakHex parseConstraints registry rows) (hfits : act.CopyFits rows) :
    BudgetInv keccakHex (act.apply keccakHex parseConstraints planDigest registry rows) ∧
      (WithinBudget keccakHex parseConstraints registry
          (act.apply keccakHex parseConstraints planDigest registry rows) ↔
        act.LeavesRoom keccakHex parseConstraints planDigest registry rows) := by
  have hother (hspends : SpendsNoMore keccakHex rows
      (act.apply keccakHex parseConstraints planDigest registry rows))
      (hroom : act.LeavesRoom keccakHex parseConstraints planDigest registry rows) :
      BudgetInv keccakHex (act.apply keccakHex parseConstraints planDigest registry rows) ∧
        (WithinBudget keccakHex parseConstraints registry
            (act.apply keccakHex parseConstraints planDigest registry rows) ↔
          act.LeavesRoom keccakHex parseConstraints planDigest registry rows) :=
    ⟨hspends.inv, iff_of_true (hspends.within hwithin) hroom⟩
  cases act with
  | execute request =>
    rcases executeStrategyAction_spec (rfl : (rows.executeStrategyAction keccakHex parseConstraints
        planDigest registry request).2 = _) with ⟨plan, hplan, hinserts, hnext⟩ | ⟨hnone, hsame⟩
    · let execution := newPendingExecution request.turnId (planDigest plan) plan request.nowNs
      let after := BudgetAct.apply keccakHex parseConstraints planDigest registry (.execute request)
        rows
      have hinsert : after.executions = rows.executions.insert execution.executionId execution :=
        congrArg StrategyRows.executions hnext
      have hbudgets : after.budgets = rows.budgets :=
        (congrArg StrategyRows.budgets hnext).trans rfl
      obtain ⟨hinv, hsums⟩ := h.insert rfl hinserts.1 hinsert hbudgets
      have hkeys : execution.key = plan.key := rfl
      have hwei : execution.wei = plan.wei := wei_newPendingExecution
      rw [hkeys, hwei] at hsums
      refine ⟨hinv, ?_⟩
      constructor
      · intro hafter other hadmitted _ key budget hkey hbudget
        obtain rfl := Except.ok.inj (hplan.symm.trans hadmitted)
        have hle := hafter key budget hbudget
        obtain ⟨hconfirmed, hpending⟩ := hsums key
        rw [hconfirmed, hpending, if_pos hkey] at hle
        rw [h.spentWei_eq]
        omega
      · intro hroom key budget hbudget
        obtain ⟨hconfirmed, hpending⟩ := hsums key
        rw [hconfirmed, hpending]
        split
        · rename_i hkey
          have hle := hroom plan hplan hinserts key budget hkey hbudget
          rw [h.spentWei_eq] at hle
          omega
        · exact hwithin key budget hbudget
    · exact hother (h.unchanged hsame.1 hsame.2) fun plan hplan hinserts =>
        absurd hinserts (hnone plan hplan)
  | progress expected desired => exact hother (h.progress hfits rfl) trivial
  | confirm copy nowNs =>
    have hcopy : rows.CopyFits (copy.confirm nowNs) := hfits
    refine hother (h.after .success hcopy ?_) trivial
    intro changed next hresult
    exact (applyConfirmedStrategyExecution_spec hresult).imp_right fun hsettles =>
      ⟨hsettles.1, hsettles.2.1⟩
  | fail policy copy failure kind reason nowNs =>
    have hcopy : rows.CopyFits
        (PendingStrategyExecution.terminate { copy with state := failure.state } nowNs) := hfits
    refine hother (h.after kind hcopy ?_) trivial
    intro changed next hresult
    refine applyTerminalStrategyFailure_spec ?_ hresult
    cases failure <;> exact fun hstate => PendingStrategyExecutionState.noConfusion hstate

theorem toOption_parseU256Field {raw field : String} :
    (parseU256Field raw field).toOption = (parseU256Decimal raw).toOption := by
  unfold parseU256Field parseU256Decimal
  dsimp only
  split
  · rfl
  · split
    · rfl
    · cases Decimal.parseUnsigned u256Max (Text.trim raw) <;> rfl

/-- Validation adds up the values of the calls, up to the largest value. -/
theorem totalCallValue_eq (plan : ExecutionPlan) :
    totalCallValue plan.calls = min plan.wei u256Max := by
  have hfold (calls : List StrategyExecutionCall) (total : ℕ) (hfits : total ≤ u256Max) :
      calls.foldl (fun total call => (parseU256Field call.valueWei "value_wei").toOption.elim total
        (saturatingAdd u256Max total)) total = min (total + (calls.map (·.wei)).sum) u256Max := by
    induction calls generalizing total with
    | nil => simp [hfits]
    | cons call calls ih =>
      rw [List.foldl_cons, toOption_parseU256Field, List.map_cons, List.sum_cons,
        StrategyExecutionCall.wei]
      cases (parseU256Decimal call.valueWei).toOption with
      | none =>
        rw [Option.elim_none, ih total hfits, Option.getD_none, zero_add]
      | some value =>
        have hle : saturatingAdd u256Max total value ≤ u256Max := Nat.min_le_right _ _
        rw [Option.elim_some, ih _ hle, Option.getD_some, saturatingAdd]
        omega
  rw [totalCallValue, hfold _ 0 (Nat.zero_le _), zero_add]
  rfl

/-- Validation compares what the template has spent, and the plan, with the budget. -/
theorem budget_of_validated {plan : ExecutionPlan} {budget nowNs : ℕ}
    (hpassed :
      (validateExecutionPlan keccakHex parseConstraints registry rows plan nowNs).passed = true)
    (hbudget : registry.HasBudget parseConstraints plan.key budget) (hlarge : budget < u256Max) :
    rows.spentWei keccakHex plan.key + plan.wei ≤ budget := by
  obtain ⟨template, htemplate, raw, hraw, hlimit⟩ := hbudget
  have hfindings : templateBudgetFindings
      (parseConstraintsPolicy parseConstraints template.constraintsJson).1
      (rows.budgetSpentWei keccakHex plan.key) (totalCallValue plan.calls) = [] := by
    simp only [validateExecutionPlan, List.isEmpty_iff, List.append_eq_nil_iff, htemplate,
      validatePolicyLayer, Option.elim_some] at hpassed
    exact hpassed.1.2.1.2
  unfold templateBudgetFindings at hfindings
  rw [hraw, Option.elim_some, hlimit, toOption_parseU256Field, totalCallValue_eq] at hfindings
  unfold StrategyRows.spentWei
  cases hspent : (parseU256Decimal (rows.budgetSpentWei keccakHex plan.key)).toOption with
  | none =>
    rw [hspent] at hfindings
    cases hfindings
  | some spent =>
    rw [hspent] at hfindings
    have hle : ¬ budget < saturatingAdd u256Max spent (min plan.wei u256Max) := by
      intro hlt
      simp [findingWhen, Except.toOption, hlt] at hfindings
    rw [Option.getD_some]
    unfold saturatingAdd at hle
    omega

/-- An admitted plan whose template has no pending executions leaves room: what validation does not
look at are the pending ones. -/
theorem leavesRoom_of_no_pending {plan : ExecutionPlan} {budget : ℕ}
    (hplan : (rows.admitPlan keccakHex parseConstraints registry request).1 = .ok plan)
    (hnone : rows.weiIn keccakHex .pending plan.key = 0)
    (hbudget : registry.HasBudget parseConstraints plan.key budget) (hlarge : budget < u256Max) :
    rows.weiIn keccakHex .pending plan.key + rows.spentWei keccakHex plan.key + plan.wei ≤
      budget := by
  obtain ⟨-, hpassed⟩ := (admitPlan_spec rfl).2 plan hplan
  rw [hnone, zero_add]
  exact budget_of_validated hpassed hbudget hlarge

theorem BudgetInv.run {acts : List BudgetAct} (h : BudgetInv keccakHex rows)
    (hwithin : WithinBudget keccakHex parseConstraints registry rows)
    (hcopies : CopiesFit keccakHex parseConstraints planDigest registry rows acts) :
    StaysWithinBudget keccakHex parseConstraints planDigest registry rows acts ↔
      AlwaysLeavesRoom keccakHex parseConstraints planDigest registry rows acts := by
  induction acts generalizing rows with
  | nil => exact iff_of_true hwithin trivial
  | cons act acts ih =>
    obtain ⟨hfits, hcopies⟩ := hcopies
    have hstep : BudgetInv keccakHex
        (act.apply keccakHex parseConstraints planDigest registry rows) ∧ _ :=
      h.step hwithin hfits
    obtain ⟨hinv, hroom⟩ := hstep
    constructor
    · rintro ⟨-, hstays⟩
      have hafter : WithinBudget keccakHex parseConstraints registry
          (act.apply keccakHex parseConstraints planDigest registry rows) := by
        cases acts with
        | nil => exact hstays
        | cons _ _ => exact hstays.1
      exact ⟨hroom.mp hafter, (ih hinv hafter hcopies).mp hstays⟩
    · rintro ⟨hleaves, halways⟩
      have hafter := hroom.mpr hleaves
      exact ⟨hwithin, (ih hinv hafter hcopies).mpr halways⟩

theorem budgetInv_start (hexecutions : rows.executions = ∅) (hbudgets : rows.budgets = ∅) :
    BudgetInv keccakHex rows ∧ WithinBudget keccakHex parseConstraints registry rows := by
  have hzero (state : PendingStrategyExecutionState) (key : StrategyTemplateKey) :
      rows.weiIn keccakHex state key = 0 := by
    rw [StrategyRows.weiIn, hexecutions, BTreeMap.sum_empty]
  refine ⟨?_, ?_⟩
  · constructor
    · simp [hexecutions]
    · intro key
      rw [hzero, StrategyRows.budgetSpentWei, hbudgets]
      rfl
    · intro key
      rw [hzero]
      exact Nat.zero_le _
  · intro key budget _
    rw [hzero, hzero]
    exact Nat.zero_le _

end Specs

/-- From no executions and nothing spent, every state of a run is within the budgets of all
templates if and only if every admitted plan fits, with the pending executions of its template, in
what is left of the budget. -/
theorem template_budget_kept_iff (keccakHex : String → String)
    (parseConstraints : String → Except String ConstraintPolicy)
    (planDigest : ExecutionPlan → String) (registry : StrategyRegistry) (rows : StrategyRows)
    (acts : List BudgetAct) (hexecutions : rows.executions = ∅) (hbudgets : rows.budgets = ∅)
    (hcopies : CopiesFit keccakHex parseConstraints planDigest registry rows acts) :
    StaysWithinBudget keccakHex parseConstraints planDigest registry rows acts ↔
      AlwaysLeavesRoom keccakHex parseConstraints planDigest registry rows acts := by
  obtain ⟨hinv, hwithin⟩ := budgetInv_start hexecutions hbudgets
  exact hinv.run hwithin hcopies

section Overspending

/-- A key. -/
def vaultKey : StrategyTemplateKey := ⟨"vault", "lend", 8453, "eth"⟩

/-- A template with a budget of 10. -/
def vaultTemplate : StrategyTemplate where
  key := vaultKey
  status := .active
  contractRoles := [⟨"vault", "0x2222222222222222222222222222222222222222", "source", none⟩]
  constraintsJson := "10"

/-- The registry with the template; constraints are read as a budget. -/
def vaultRegistry : StrategyRegistry where
  templates := (∅ : BTreeMap String StrategyTemplate).insert (strategyTemplatePk vaultKey)
    vaultTemplate
  revocations := ∅
  killSwitches := ∅
  chainId := 8453

/-- The constraints that are only a budget. -/
def parseBudget (raw : String) : Except String ConstraintPolicy :=
  .ok { ConstraintPolicy.default with templateBudgetWei := some raw }

/-- The digest of a plan is made of its values. -/
def valuesDigest (plan : ExecutionPlan) : String := String.join (plan.calls.map (·.valueWei))

/-- A plan that spends an amount. -/
def vaultPlan (valueWei : String) : ExecutionPlan where
  key := vaultKey
  actionId := "deposit"
  calls := [⟨"vault", "0x2222222222222222222222222222222222222222", valueWei, "0xd0e30db0"⟩]
  preconditions := []
  postconditions := ["balance_delta_gt_zero"]
  assetEffects := []
  riskChecks := []

/-- A request to execute the plan. -/
def vaultRequest (valueWei : String) : ExecuteRequest where
  key := vaultKey
  compiled := .ok (vaultPlan valueWei)
  turnId := "turn-1"
  autonomousExecutionEnabled := true
  quarantinePolicy := ⟨3, 0⟩
  policyCheck := .ok ()
  nowNs := 1

/-- The template is activated. -/
def vaultRows : StrategyRows :=
  { StrategyRows.empty with
    activations := (∅ : BTreeMap String TemplateActivationState).insert
      (templateStateRecordKey id "activation" vaultKey) ⟨vaultKey, true, 1, none⟩ }

theorem vaultRows_budget_kept_iff :
    StaysWithinBudget id parseBudget valuesDigest vaultRegistry vaultRows
        [.execute (vaultRequest "6")] ↔
      AlwaysLeavesRoom id parseBudget valuesDigest vaultRegistry vaultRows
        [.execute (vaultRequest "6")] :=
  template_budget_kept_iff id parseBudget valuesDigest vaultRegistry vaultRows
    [.execute (vaultRequest "6")] rfl rfl ⟨trivial, trivial⟩

/-- Two plans of 6 and 7 are admitted one after the other under a budget of 10. -/
theorem vaultRows_overspends :
    ¬ StaysWithinBudget id parseBudget valuesDigest vaultRegistry vaultRows
      [.execute (vaultRequest "6"), .execute (vaultRequest "7")] := by
  rintro ⟨-, -, hwithin⟩
  have hbudget : vaultRegistry.HasBudget parseBudget vaultKey 10 :=
    ⟨vaultTemplate, by decide +kernel, "10", by decide +kernel, by decide +kernel⟩
  have hle := hwithin vaultKey 10 hbudget
  revert hle
  decide +kernel

end Overspending

end Automaton.Strategy
