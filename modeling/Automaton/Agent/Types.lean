import Automaton.Library.BTreeMap
import Automaton.Library.Machine

/-!
# Data types of the automaton's scheduler

The records of the automaton that the scheduler reads and writes, with the source's fields.
The fields of a snapshot that no modelled function reads are left out.
-/

namespace Automaton.Agent

open Machine

/-- `TaskKind`. -/
inductive TaskKind
  | agentTurn
  | pollInbox
  | checkCycles
  | topUpCycles
  | reconcile
  deriving DecidableEq, Repr

/-- `TaskKind::as_str`. -/
def TaskKind.asStr : TaskKind → String
  | .agentTurn => "AgentTurn"
  | .pollInbox => "PollInbox"
  | .checkCycles => "CheckCycles"
  | .topUpCycles => "TopUpCycles"
  | .reconcile => "Reconcile"

/-- `TaskKind::default_priority`. -/
def TaskKind.defaultPriority : TaskKind → ℕ
  | .agentTurn => 0
  | .pollInbox => 1
  | .checkCycles => 2
  | .topUpCycles => 3
  | .reconcile => 4

/-- `TaskKind::essential`. -/
def TaskKind.essential (kind : TaskKind) : Bool := kind ≠ .reconcile

/-- `BASE_TICK_SECS`. -/
def baseTickSecs : ℕ := 30

/-- `DEFAULT_TASK_INTERVAL_SECS`. -/
def defaultTaskIntervalSecs : ℕ := baseTickSecs * 10

/-- `TaskKind::default_interval_secs`. -/
def TaskKind.defaultIntervalSecs (_ : TaskKind) : ℕ := defaultTaskIntervalSecs

/-- `TaskKind::all`. -/
def TaskKind.all : List TaskKind :=
  [.agentTurn, .pollInbox, .checkCycles, .topUpCycles, .reconcile]

/-- A duration in nanoseconds, at most the largest `u64`. -/
def nanos (secs : ℕ) : ℕ := saturatingMul u64Max secs 1000000000

/-- `SurvivalTier`. -/
inductive SurvivalTier
  | normal
  | lowCycles
  | critical
  | outOfCycles
  deriving DecidableEq, Repr

/-- `TaskLane`. -/
inductive TaskLane
  | mutating
  | readOnly
  deriving DecidableEq, Repr

/-- `SurvivalOperationClass`, as far as jobs are gated by it. -/
inductive SurvivalOperationClass
  | inference
  | evmPoll
  deriving DecidableEq, Repr

/-- `JobStatus`. -/
inductive JobStatus
  | pending
  | inFlight
  | succeeded
  | failed
  | timedOut
  | skipped
  deriving DecidableEq, Repr

/-- The statuses that `ScheduledJob::is_terminal` counts as terminal. -/
def JobStatus.isTerminal : JobStatus → Bool
  | .pending => false
  | .inFlight => false
  | _ => true

/-- `ScheduledJob`. -/
structure ScheduledJob where
  id : String
  kind : TaskKind
  lane : TaskLane
  dedupeKey : String
  priority : ℕ
  createdAtNs : ℕ
  scheduledForNs : ℕ
  startedAtNs : Option ℕ
  finishedAtNs : Option ℕ
  status : JobStatus
  attempts : ℕ
  maxAttempts : ℕ
  lastError : Option String
  deriving DecidableEq, Repr

/-- `SchedulerLease`. Its lane is the mutating one. -/
structure SchedulerLease where
  jobId : String
  acquiredAtNs : ℕ
  expiresAtNs : ℕ
  deriving DecidableEq, Repr

/-- `SchedulerRuntime`, without the record of the last tick. -/
structure SchedulerRuntime where
  enabled : Bool
  pausedReason : Option String
  lowCyclesMode : Bool
  survivalTier : SurvivalTier
  nextJobSeq : ℕ
  activeMutatingLease : Option SchedulerLease
  deriving DecidableEq, Repr

/-- `TaskScheduleConfig`. -/
structure TaskScheduleConfig where
  kind : TaskKind
  enabled : Bool
  essential : Bool
  intervalSecs : ℕ
  priority : ℕ
  maxBackoffSecs : ℕ
  deriving DecidableEq, Repr

/-- `TaskScheduleConfig::default_for`. -/
def TaskScheduleConfig.defaultFor (kind : TaskKind) : TaskScheduleConfig where
  kind := kind
  enabled := kind ≠ .topUpCycles
  essential := kind.essential
  intervalSecs := kind.defaultIntervalSecs
  priority := kind.defaultPriority
  maxBackoffSecs := 120

/-- `TaskScheduleRuntime`. -/
structure TaskScheduleRuntime where
  kind : TaskKind
  nextDueNs : ℕ
  backoffUntilNs : Option ℕ
  consecutiveFailures : ℕ
  pendingJobId : Option String
  lastStartedNs : Option ℕ
  lastFinishedNs : Option ℕ
  lastError : Option String
  deriving DecidableEq, Repr

/-- The runtime of a task that is not stored. -/
def TaskScheduleRuntime.fresh (kind : TaskKind) (nextDueNs : ℕ) : TaskScheduleRuntime where
  kind := kind
  nextDueNs := nextDueNs
  backoffUntilNs := none
  consecutiveFailures := 0
  pendingJobId := none
  lastStartedNs := none
  lastFinishedNs := none
  lastError := none

/-- `MortalityTier`. -/
inductive MortalityTier
  | active
  | conserving
  | hibernating
  | terminal
  | dead
  deriving DecidableEq, Repr

/-- `MortalityTier::severity`. -/
def MortalityTier.severity : MortalityTier → ℕ
  | .active => 0
  | .conserving => 1
  | .hibernating => 2
  | .terminal => 3
  | .dead => 4

/-- `MortalityPhase`. -/
inductive MortalityPhase
  | alive
  | terminalPending
  | terminalInProgress
  | dead
  deriving DecidableEq, Repr

/-- `MortalityRuntime`. -/
structure MortalityRuntime where
  tier : MortalityTier
  phase : MortalityPhase
  recoveryCandidate : Option MortalityTier
  recoveryChecks : ℕ
  runwaySeconds : Option ℕ
  terminalTurnId : Option String
  terminalStartedAtNs : Option ℕ
  diedAtNs : Option ℕ
  deathCause : Option String
  estateDisposition : Option String
  terminalBequestCount : ℕ
  deriving DecidableEq, Repr

end Automaton.Agent
