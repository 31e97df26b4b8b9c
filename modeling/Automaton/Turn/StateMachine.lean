import Automaton.Library.Trail

/-!
# The states of the agent

A turn takes the agent from one state to the next, event by event. Only the pairs of a state and an
event that are listed are transitions, and all others are rejected.
-/

namespace Automaton.Turn

/-- `AgentState`. -/
inductive AgentState
  | bootstrapping
  | idle
  | loadingContext
  | inferring
  | executingActions
  | persisting
  | sleeping
  | faulted
  deriving DecidableEq, Repr

/-- `AgentEvent`. -/
inductive AgentEvent
  | timerTick
  | evmPollCompleted (newEvents : ℕ) (hasInput : Bool)
  | contextLoaded
  | inferenceCompleted
  | actionsCompleted
  | persistCompleted
  | sleepRequested
  | turnFailed (reason : String)
  | resetFault
  deriving DecidableEq, Repr

/-- `TransitionError`, with the event itself. -/
structure TransitionError where
  origin : AgentState
  event : AgentEvent
  reason : String

/-- `transition`. -/
def transition (current : AgentState) (event : AgentEvent) : Except TransitionError AgentState :=
  match current, event with
  | .bootstrapping, .timerTick => .ok .loadingContext
  | .idle, .timerTick => .ok .loadingContext
  | .sleeping, .timerTick => .ok .loadingContext
  | .faulted, .timerTick => .ok .loadingContext
  | .loadingContext, .evmPollCompleted _ true => .ok .inferring
  | .loadingContext, .evmPollCompleted _ false => .ok .sleeping
  | .loadingContext, .contextLoaded => .ok .inferring
  | .inferring, .inferenceCompleted => .ok .executingActions
  | .executingActions, .actionsCompleted => .ok .persisting
  | .persisting, .persistCompleted => .ok .sleeping
  | .sleeping, .sleepRequested => .ok .sleeping
  | .faulted, .resetFault => .ok .bootstrapping
  | _, .turnFailed _ => .ok .faulted
  | current, event => .error ⟨current, event, "invalid transition"⟩

/-- The name of a state as it is printed. -/
def AgentState.name : AgentState → String
  | .bootstrapping => "Bootstrapping"
  | .idle => "Idle"
  | .loadingContext => "LoadingContext"
  | .inferring => "Inferring"
  | .executingActions => "ExecutingActions"
  | .persisting => "Persisting"
  | .sleeping => "Sleeping"
  | .faulted => "Faulted"

/-- An event as it is printed, where a text is printed as a quotation. -/
def AgentEvent.name (quote : String → String) : AgentEvent → String
  | .timerTick => "TimerTick"
  | .evmPollCompleted newEvents hasInput =>
    "EvmPollCompleted \x7b new_events: " ++ toString newEvents ++ ", has_input: " ++
      toString hasInput ++ " \x7d"
  | .contextLoaded => "ContextLoaded"
  | .inferenceCompleted => "InferenceCompleted"
  | .actionsCompleted => "ActionsCompleted"
  | .persistCompleted => "PersistCompleted"
  | .sleepRequested => "SleepRequested"
  | .turnFailed reason => "TurnFailed \x7b reason: " ++ quote reason ++ " \x7d"
  | .resetFault => "ResetFault"

/-- The error of `advance_state` about a transition that is rejected. -/
def TransitionError.message (quote : String → String) (error : TransitionError) : String :=
  "invalid transition from " ++ error.origin.name ++ " on " ++ error.event.name quote ++ ": " ++
    error.reason

/-- A turn may start in the state. -/
def AgentState.isResting : AgentState → Bool
  | .bootstrapping | .idle | .sleeping | .faulted => true
  | _ => false

/-- A turn may be in the state when it ends. -/
def AgentState.isFinal : AgentState → Bool
  | .sleeping | .faulted => true
  | _ => false

section Transitions

variable {state next : AgentState} {event : AgentEvent} {reason : String}

/-- A failure is accepted in every state. -/
@[simp] theorem transition_turnFailed : transition state (.turnFailed reason) = .ok .faulted := by
  cases state <;> rfl

/-- The states in which a turn may start are those in which a tick is accepted. -/
theorem transition_timerTick : transition state .timerTick = .ok next ↔
    state.isResting = true ∧ next = .loadingContext := by
  cases state <;> simp [transition, AgentState.isResting, eq_comm]

@[simp] theorem transition_evmPollCompleted {newEvents : ℕ} :
    transition .loadingContext (.evmPollCompleted newEvents true) = .ok .inferring := rfl

@[simp] theorem transition_inferenceCompleted :
    transition .inferring .inferenceCompleted = .ok .executingActions := rfl

@[simp] theorem transition_actionsCompleted :
    transition .executingActions .actionsCompleted = .ok .persisting := rfl

@[simp] theorem transition_persistCompleted :
    transition .persisting .persistCompleted = .ok .sleeping := rfl

@[simp] theorem transition_sleepRequested :
    transition .sleeping .sleepRequested = .ok .sleeping := rfl

theorem AgentState.isResting_of_isFinal (h : state.isFinal = true) : state.isResting = true := by
  cases state <;> simp_all [isFinal, isResting]

end Transitions

end Automaton.Turn
