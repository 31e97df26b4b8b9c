import Automaton.Agent.Mortality
import Automaton.Agent.Recovery

/-!
# Scheduler ticks

A tick recovers an expired lease, enqueues the jobs that are due and then runs up to four pending
jobs, each under the mutating lease. It awaits every job that it dispatches, so ticks overlap and
jobs finish at any time. Every step here is at most one message; time passes between steps.
-/

namespace Automaton.Agent

open Machine

/-- `MAX_MUTATING_JOBS_PER_TICK`. -/
def maxMutatingJobsPerTick : ℕ := 4

/-- `lease_ttl_ns`: the budget of a turn with a bounded wait and a tick, or two ticks. -/
def leaseTtlNs (kind : TaskKind) : ℕ :=
  if kind = .agentTurn then nanos (90 + defaultTaskIntervalSecs + baseTickSecs)
  else nanos (baseTickSecs * 2)

/-- `operation_class_for_task`. -/
def operationClassForTask : TaskKind → Option SurvivalOperationClass
  | .agentTurn => some .inference
  | .pollInbox => some .evmPoll
  | _ => none

/-- `survival_operation_allows_in_tier` for the operations of jobs. -/
def survivalOperationAllowsInTier (tier : SurvivalTier) : Bool :=
  tier ≠ .critical ∧ tier ≠ .outOfCycles

/-- `can_run_survival_operation`. -/
def Store.canRunSurvivalOperation (store : Store) (operation : SurvivalOperationClass)
    (nowNs : ℕ) : Bool :=
  survivalOperationAllowsInTier store.scheduler.survivalTier &&
    (store.backoffUntilNs operation).all (· ≤ nowNs)

/-- The turn that a terminal automaton takes is not blocked by the survival policy. -/
def AgentState.isTerminalTurn (state : AgentState) (kind : TaskKind) : Bool :=
  kind = .agentTurn && (state.snapshot.mortality.phase = .terminalPending ||
    state.snapshot.mortality.phase = .terminalInProgress)

/-- The survival policy blocks the operation of a job. -/
def AgentState.blockedOperation (state : AgentState) (kind : TaskKind) (nowNs : ℕ) :
    Option SurvivalOperationClass :=
  (operationClassForTask kind).filter fun operation =>
    !state.isTerminalTurn kind && !state.store.canRunSurvivalOperation operation nowNs

/-- The operation as it is printed. -/
def SurvivalOperationClass.name : SurvivalOperationClass → String
  | .inference => "Inference"
  | .evmPoll => "EvmPoll"

/-- What is done with a job by an iteration of a tick. -/
inductive JobEvent
  | popped (jobId : String)
  | leased (jobId : String)
  | dispatched (jobId : String)
  deriving DecidableEq

/-- How an iteration ends: with nothing to do, with an error, with a job that is skipped, or at
the await of a job that is dispatched under a lease. -/
inductive IterationEnd
  | idle
  | failed (error : String)
  | skipped
  | dispatched (job : ScheduledJob) (expiresAtNs : ℕ)

/-- The result of an iteration. -/
structure Iteration where
  state : AgentState
  events : List JobEvent
  ending : IterationEnd

/-- The state with other rows. -/
def AgentState.withStore (state : AgentState) (store : Store) : AgentState :=
  { state with store := store }

/-- A popped job under its lease is skipped or dispatched. -/
def AgentState.dispatchLeased (state : AgentState) (job : ScheduledJob) (nowNs : ℕ) : Iteration :=
  match state.blockedOperation job.kind nowNs with
  | some operation =>
    ⟨state.withStore (state.store.completeJob job.id .skipped (some
      ("operation blocked by survival policy (operation=" ++ operation.name ++ ")")) nowNs none),
      [.popped job.id, .leased job.id], .skipped⟩
  | none =>
    ⟨state, [.popped job.id, .leased job.id, .dispatched job.id],
      .dispatched job (saturatingAdd u64Max nowNs (leaseTtlNs job.kind))⟩

/-- `run_one_pending_mutating_job` up to the await. -/
def AgentState.runOnePendingMutatingJob (state : AgentState) (nowNs : ℕ) : Iteration :=
  if state.store.mutatingLeaseActive nowNs then ⟨state, [], .idle⟩
  else
    match state.store.popNextPendingJob .mutating nowNs with
    | none => ⟨state, [], .idle⟩
    | some (job, store) =>
      match store.acquireMutatingLease job.id nowNs (leaseTtlNs job.kind) with
      | .error error =>
        ⟨state.withStore (store.completeJob job.id .failed
          (some ("lease acquire failed: " ++ error)) nowNs none), [.popped job.id], .failed error⟩
      | .ok store => (state.withStore store).dispatchLeased job nowNs

/-- `JobDispatchOutcome`. -/
inductive JobDispatchOutcome
  | completed
  | topUpWaiting
  deriving DecidableEq

/-- `enqueue_topup_cycles_job`. -/
def Store.enqueueTopupCyclesJob (store : Store) (hintNs nowNs : ℕ) : Store :=
  (store.enqueueJobIfAbsent .topUpCycles .mutating topupCyclesDedupeKey
    (hintNs - hintNs % nanos baseTickSecs) TaskKind.topUpCycles.defaultPriority nowNs).1

/-- `maybe_enqueue_topup_waiting_continuation`. -/
def Store.maybeEnqueueTopupWaitingContinuation (store : Store) (outcome : JobDispatchOutcome)
    (nowNs : ℕ) : Store :=
  if outcome = .topUpWaiting then
    store.enqueueTopupCyclesJob (saturatingAdd u64Max nowNs
      (nanos (max (store.taskConfig .topUpCycles).intervalSecs 1))) nowNs
  else store

/-- `apply_recovery_policy_for_failed_job`. -/
def AgentState.applyRecoveryPolicyForFailedJob (classifier : Classifier) (state : AgentState)
    (job : ScheduledJob) (error : String) (nowNs : ℕ) : AgentState :=
  let plan := classifier.recoveryPlan state.store job error
    state.snapshot.evmRpcMaxResponseBytes nowNs
  { store := state.store.completeJob job.id plan.status (some plan.error) nowNs plan.retryAfterSecs
    snapshot := { state.snapshot with
      evmRpcMaxResponseBytes :=
        plan.evmRpcMaxResponseBytes.getD state.snapshot.evmRpcMaxResponseBytes } }

/-- `run_one_pending_mutating_job` after the await. -/
def AgentState.reportJob (classifier : Classifier) (state : AgentState) (job : ScheduledJob)
    (result : Except String JobDispatchOutcome) (nowNs : ℕ) : AgentState :=
  match result with
  | .ok outcome =>
    state.withStore ((state.store.completeJob job.id .succeeded none nowNs
      none).maybeEnqueueTopupWaitingContinuation outcome nowNs)
  | .error error => state.applyRecoveryPolicyForFailedJob classifier job error nowNs

/-- Where a tick is: before an iteration, at the await of a job with the end of its lease, or at
its end. The iterations that have run a job are counted. -/
inductive TickStage
  | looping (processedJobs : ℕ)
  | dispatching (processedJobs : ℕ) (job : ScheduledJob) (expiresAtNs : ℕ)
  | ended

/-- The automaton with its ticks, the jobs whose lease a tick has recovered, the events of jobs
and the turns that were accepted as the terminal one. -/
structure AgentWorld where
  state : AgentState
  nowNs : ℕ
  ticks : List TickStage
  recovered : List String
  events : List JobEvent
  begun : List String
  completed : List String

/-- What happens to the automaton. Jobs are also enqueued by turns, messages and tools, and old
jobs that have ended are deleted. The survival state is set by the jobs. -/
inductive AgentAct
  | wait (ns : ℕ)
  | startTick
  | iterate (tick : ℕ)
  | report (tick : ℕ) (result : Except String JobDispatchOutcome)
  | enqueue (kind : TaskKind) (lane : TaskLane) (dedupeKey : String)
      (scheduledForNs priority : ℕ)
  | prune (jobId : String)
  | observe (liquidCycles : ℕ) (runwaySeconds : Option ℕ)
  | beginTerminalTurn (turnId : String)
  | completeTerminalTurn (turnId : String) (bequestCount : ℕ)
  | setSchedulerEnabled (enabled : Bool)
  | setLoopEnabled (enabled : Bool)
  | setTaskEnabled (kind : TaskKind) (enabled : Bool)
  | setTaskInterval (kind : TaskKind) (intervalSecs : ℕ)
  | setSurvival (lowCyclesMode : Bool) (tier : SurvivalTier)
      (backoffUntilNs : SurvivalOperationClass → Option ℕ)

/-- The lease that `recover_stale_lease` ends. -/
def Store.staleLease (store : Store) (nowNs : ℕ) : Option SchedulerLease :=
  store.scheduler.activeMutatingLease.filter (·.expiresAtNs ≤ nowNs)

/-- The beginning of `scheduler_tick`, for an automaton that is not dead. -/
def AgentState.recoverTick (state : AgentState) (nowNs : ℕ) : AgentState :=
  (state.withStore (state.store.recoverStaleLease nowNs)).recoverOrphanedTurnLock nowNs

/-- `scheduler_tick` before its loop. -/
def AgentWorld.startTick (w : AgentWorld) : AgentWorld :=
  if w.state.mortalityIsDead then w
  else
    let state := w.state.recoverTick w.nowNs
    let recovered := w.recovered ++ ((w.state.store.staleLease w.nowNs).map (·.jobId)).toList
    if !state.store.scheduler.enabled then { w with state := state, recovered := recovered }
    else { w with
      state := state.withStore (state.store.refreshDueJobs w.nowNs).1
      recovered := recovered
      ticks := w.ticks ++ [.looping 0] }

/-- The stage of a tick after an iteration. -/
def IterationEnd.stage (ending : IterationEnd) (processedJobs : ℕ) : TickStage :=
  match ending with
  | .idle | .failed _ => .ended
  | .skipped => .looping (processedJobs + 1)
  | .dispatched job expiresAtNs => .dispatching processedJobs job expiresAtNs

/-- An iteration of a tick that has not run its last job. -/
def AgentWorld.iterateOnce (w : AgentWorld) (tick processedJobs : ℕ) : AgentWorld :=
  let iteration := w.state.runOnePendingMutatingJob w.nowNs
  { w with
    state := iteration.state
    ticks := w.ticks.set tick (iteration.ending.stage processedJobs)
    events := w.events ++ iteration.events }

/-- An iteration of the loop of a tick. -/
def AgentWorld.iterate (w : AgentWorld) (tick : ℕ) : AgentWorld :=
  match w.ticks[tick]? with
  | some (.looping processedJobs) =>
    if processedJobs < maxMutatingJobsPerTick then w.iterateOnce tick processedJobs
    else { w with ticks := w.ticks.set tick .ended }
  | _ => w

/-- The job of a tick ends. -/
def AgentWorld.report (classifier : Classifier) (w : AgentWorld) (tick : ℕ)
    (result : Except String JobDispatchOutcome) : AgentWorld :=
  match w.ticks[tick]? with
  | some (.dispatching processedJobs job _) =>
    { w with
      state := w.state.reportJob classifier job result w.nowNs
      ticks := w.ticks.set tick (.looping (processedJobs + 1)) }
  | _ => w

/-- `delete_jobs_older_than`, for a job that it finds. -/
def Store.pruneJob (store : Store) (jobId : String) : Store :=
  if store.jobs[jobId]?.any (·.status.isTerminal) then store.deleteJob jobId else store

/-- The survival state of the scheduler. -/
def Store.setSurvival (store : Store) (lowCyclesMode : Bool) (tier : SurvivalTier)
    (backoffUntilNs : SurvivalOperationClass → Option ℕ) : Store :=
  { store with
    scheduler := { store.scheduler with lowCyclesMode := lowCyclesMode, survivalTier := tier }
    backoffUntilNs := backoffUntilNs }

/-- The world with other rows. -/
def AgentWorld.withStore (w : AgentWorld) (store : Store) : AgentWorld :=
  { w with state := w.state.withStore store }

/-- A terminal turn begins. -/
def AgentWorld.beginTerminalTurn (w : AgentWorld) (turnId : String) : AgentWorld :=
  match w.state.beginTerminalTurn turnId w.nowNs with
  | .ok state => { w with state := state, begun := w.begun ++ [turnId] }
  | .error _ => w

/-- A terminal turn is completed. -/
def AgentWorld.completeTerminalTurn (w : AgentWorld) (turnId : String) (bequestCount : ℕ) :
    AgentWorld :=
  match w.state.completeTerminalTurn turnId bequestCount w.nowNs with
  | .ok state => { w with state := state, completed := w.completed ++ [turnId] }
  | .error _ => w

/-- The interval of a task is set, or stays when it is not allowed. -/
def Store.trySetTaskInterval (store : Store) (kind : TaskKind) (intervalSecs nowNs : ℕ) : Store :=
  match store.setTaskIntervalSecs kind intervalSecs nowNs with
  | .ok store => store
  | .error _ => store

/-- What an act does. An act that is not possible does nothing. -/
def AgentAct.apply (classifier : Classifier) (act : AgentAct) (w : AgentWorld) : AgentWorld :=
  match act with
  | .wait ns => { w with nowNs := w.nowNs + ns }
  | .startTick => w.startTick
  | .iterate tick => w.iterate tick
  | .report tick result => w.report classifier tick result
  | .enqueue kind lane dedupeKey scheduledForNs priority =>
    w.withStore (w.state.store.enqueueJobIfAbsent kind lane dedupeKey scheduledForNs priority
      w.nowNs).1
  | .prune jobId => w.withStore (w.state.store.pruneJob jobId)
  | .observe liquidCycles runwaySeconds =>
    { w with state := w.state.observeMortalityResources liquidCycles runwaySeconds w.nowNs }
  | .beginTerminalTurn turnId => w.beginTerminalTurn turnId
  | .completeTerminalTurn turnId bequestCount => w.completeTerminalTurn turnId bequestCount
  | .setSchedulerEnabled enabled => w.withStore (w.state.store.setSchedulerEnabled enabled)
  | .setLoopEnabled enabled => { w with state := w.state.setLoopEnabled enabled }
  | .setTaskEnabled kind enabled => w.withStore (w.state.store.setTaskEnabled kind enabled)
  | .setTaskInterval kind intervalSecs =>
    w.withStore (w.state.store.trySetTaskInterval kind intervalSecs w.nowNs)
  | .setSurvival lowCyclesMode tier backoffUntilNs =>
    w.withStore (w.state.store.setSurvival lowCyclesMode tier backoffUntilNs)

/-- A new automaton with some rows. -/
def AgentWorld.fresh (store : Store) (nowNs : ℕ) : AgentWorld where
  state := ⟨store, ⟨.default, true, false, 65536⟩⟩
  nowNs := nowNs
  ticks := []
  recovered := []
  events := []
  begun := []
  completed := []

end Automaton.Agent
