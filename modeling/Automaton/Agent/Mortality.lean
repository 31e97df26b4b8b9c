import Automaton.Agent.Tasks

/-!
# Mortality

The automaton observes its resources, becomes terminal when they run out, takes one terminal
turn and is dead.
-/

namespace Automaton.Agent

open Machine

/-- The fields of the runtime snapshot that the scheduler and mortality use. -/
structure Snapshot where
  mortality : MortalityRuntime
  loopEnabled : Bool
  turnInFlight : Bool
  evmRpcMaxResponseBytes : ℕ
  deriving DecidableEq, Repr

/-- The rows of the scheduler and the runtime snapshot. -/
structure AgentState where
  store : Store
  snapshot : Snapshot

/-- The mortality of a new automaton. -/
def MortalityRuntime.default : MortalityRuntime where
  tier := .active
  phase := .alive
  recoveryCandidate := none
  recoveryChecks := 0
  runwaySeconds := none
  terminalTurnId := none
  terminalStartedAtNs := none
  diedAtNs := none
  deathCause := none
  estateDisposition := none
  terminalBequestCount := 0

/-- A number of days in seconds. -/
def daySecs (days : ℕ) : ℕ := days * 24 * 60 * 60

/-- `tier_for_runway`. -/
def tierForRunway : Option ℕ → MortalityTier
  | none => .active
  | some seconds =>
    if daySecs 30 ≤ seconds then .active
    else if daySecs 7 ≤ seconds then .conserving
    else if daySecs 1 ≤ seconds then .hibernating
    else .terminal

/-- `TERMINAL_TURN_RESERVED_CYCLES`. -/
def terminalTurnReservedCycles : ℕ := 200000000000

/-- `tier_for_resources`. -/
def tierForResources (liquidCycles : ℕ) (runwaySeconds : Option ℕ) : MortalityTier :=
  if liquidCycles ≤ terminalTurnReservedCycles then .terminal else tierForRunway runwaySeconds

/-- The cadence multiplier of `policy_for_tier`. -/
def MortalityTier.cadenceMultiplier : MortalityTier → ℕ
  | .active => 10
  | .conserving => 20
  | .hibernating | .terminal | .dead => 40

/-- `MORTALITY_RECOVERY_CHECKS_REQUIRED`. -/
def mortalityRecoveryChecksRequired : ℕ := 3

/-- The runtime with a tier that is no longer in question. -/
def MortalityRuntime.settle (runtime : MortalityRuntime) (tier : MortalityTier) :
    MortalityRuntime :=
  { runtime with tier := tier, recoveryCandidate := none, recoveryChecks := 0 }

/-- `observe_tier`. -/
def MortalityRuntime.observeTier (runtime : MortalityRuntime) (observed : MortalityTier) :
    MortalityRuntime :=
  if runtime.phase ≠ .alive ∨ runtime.tier = .dead then runtime
  else if runtime.tier.severity < observed.severity then runtime.settle observed
  else if observed = runtime.tier then runtime.settle runtime.tier
  else
    let checks :=
      if runtime.recoveryCandidate = some observed then
        saturatingAdd u32Max runtime.recoveryChecks 1
      else 1
    if mortalityRecoveryChecksRequired ≤ checks then runtime.settle observed
    else { runtime with recoveryCandidate := some observed, recoveryChecks := checks }

/-- A living automaton in the terminal tier waits for its terminal turn. -/
def MortalityRuntime.markTerminal (runtime : MortalityRuntime) (nowNs : ℕ) : MortalityRuntime :=
  if runtime.tier = .terminal ∧ runtime.phase = .alive then
    { runtime with phase := .terminalPending, terminalStartedAtNs := some nowNs }
  else runtime

/-- The state with another mortality. -/
def AgentState.setMortality (state : AgentState) (mortality : MortalityRuntime) : AgentState :=
  { state with snapshot := { state.snapshot with mortality := mortality } }

/-- `mortality_is_dead`. -/
def AgentState.mortalityIsDead (state : AgentState) : Bool :=
  state.snapshot.mortality.phase = .dead

/-- `observe_mortality_resources`. -/
def AgentState.observeMortalityResources (state : AgentState) (liquidCycles : ℕ)
    (runwaySeconds : Option ℕ) (nowNs : ℕ) : AgentState :=
  if state.mortalityIsDead then state
  else
    let observed := MortalityRuntime.observeTier
      { state.snapshot.mortality with runwaySeconds := runwaySeconds }
      (tierForResources liquidCycles runwaySeconds)
    let store := state.store.setCadenceMultiplier observed.tier.cadenceMultiplier nowNs
    AgentState.setMortality { state with store := store } (observed.markTerminal nowNs)

/-- The phase as it is printed. -/
def MortalityPhase.name : MortalityPhase → String
  | .alive => "Alive"
  | .terminalPending => "TerminalPending"
  | .terminalInProgress => "TerminalInProgress"
  | .dead => "Dead"

/-- The scheduler is disabled for a reason. -/
def Store.pauseScheduler (store : Store) (reason : String) : Store :=
  store.saveScheduler { store.scheduler with enabled := false, pausedReason := some reason }

/-- `begin_terminal_turn`. -/
def AgentState.beginTerminalTurn (state : AgentState) (turnId : String) (nowNs : ℕ) :
    Except String AgentState :=
  let mortality := state.snapshot.mortality
  if mortality.phase ≠ .terminalPending then
    .error ("terminal turn cannot begin from " ++ mortality.phase.name)
  else
    .ok {
      store := state.store.pauseScheduler "terminal-turn-in-progress"
      snapshot := { state.snapshot with
        mortality := { mortality with
          phase := .terminalInProgress
          terminalTurnId := some turnId
          terminalStartedAtNs := some nowNs }
        loopEnabled := false } }

/-- `complete_terminal_turn`. -/
def AgentState.completeTerminalTurn (state : AgentState) (turnId : String) (bequestCount : ℕ)
    (nowNs : ℕ) : Except String AgentState :=
  let mortality := state.snapshot.mortality
  if mortality.phase ≠ .terminalInProgress ∨ mortality.terminalTurnId ≠ some turnId then
    .error "terminal completion does not match the single in-progress terminal turn"
  else
    .ok {
      store := state.store.pauseScheduler "dead:starved"
      snapshot := { state.snapshot with
        mortality := { mortality with
          phase := .dead
          tier := .dead
          diedAtNs := some nowNs
          deathCause := some "starved"
          terminalBequestCount := min bequestCount 255
          estateDisposition :=
            some (if bequestCount = 0 then "monument" else "bequests_executed") }
        loopEnabled := false
        turnInFlight := false } }

/-- `set_scheduler_enabled`. -/
def Store.setSchedulerEnabled (store : Store) (enabled : Bool) : Store :=
  store.saveScheduler { store.scheduler with
    enabled := enabled, pausedReason := if enabled then none else some "disabled" }

/-- `set_loop_enabled`. -/
def AgentState.setLoopEnabled (state : AgentState) (enabled : Bool) : AgentState :=
  { state with snapshot := { state.snapshot with loopEnabled := enabled } }

/-- `recover_orphaned_turn_lock`. -/
def AgentState.recoverOrphanedTurnLock (state : AgentState) (nowNs : ℕ) : AgentState :=
  if state.store.mutatingLeaseActive nowNs || !state.snapshot.turnInFlight then state
  else { state with snapshot := { state.snapshot with turnInFlight := false } }

end Automaton.Agent
