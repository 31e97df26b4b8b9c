import Automaton.Factory.Scheduler

/-!
# Transitions of a spawn session

The events that move a session, the flags derived from its state and payment status, and
the operations that apply an event and schedule what follows: failure, retry and expiry.
-/

namespace Automaton.Factory

open Persist

/-- `SpawnSessionEvent`. -/
inductive SpawnSessionEvent
  | sessionCreated
  | paymentObserved
  | spawnStarted
  | installSucceeded
  | releaseBroadcast
  | spawnFailed
  | retryRequested
  | sessionExpired
  deriving DecidableEq, Repr

/-- `SpawnSessionEvent::as_str`. -/
def SpawnSessionEvent.asStr : SpawnSessionEvent → String
  | .sessionCreated => "session_created"
  | .paymentObserved => "payment_observed"
  | .spawnStarted => "spawn_started"
  | .installSucceeded => "install_succeeded"
  | .releaseBroadcast => "release_broadcast"
  | .spawnFailed => "spawn_failed"
  | .retryRequested => "retry_requested"
  | .sessionExpired => "session_expired"

/-- `derive_retryable`. -/
def deriveRetryable (session : SpawnSession) (nowMs : ℕ) : Bool :=
  session.state = .failed && session.paymentStatus = .paid && nowMs ≤ session.expiresAt

/-- `derive_refundable`. -/
def deriveRefundable (session : SpawnSession) : Bool :=
  (session.state = .expired || session.state = .failed) &&
    (session.paymentStatus = .partiallyPaid || session.paymentStatus = .paid)

/-- A session with its flags derived anew. -/
@[simps]
def SpawnSession.withDerivedFlags (session : SpawnSession) (nowMs : ℕ) : SpawnSession :=
  { session with
    retryable := deriveRetryable session nowMs
    refundable := deriveRefundable session }

/-- A claim that follows the flag of its session. -/
@[simps]
def EscrowClaim.withRefundable (claim : EscrowClaim) (refundable : Bool) (nowMs : ℕ) :
    EscrowClaim :=
  { claim with refundable := refundable, updatedAt := nowMs }

/-- `sync_session_derived_flags_in_state`. -/
def syncSessionDerivedFlagsInState (sessionId : String) (nowMs : ℕ) : Update SpawnSession := do
  let session ← getSession sessionId
  let session := session.withDerivedFlags nowMs
  modify (·.updateSession sessionId fun _ => session)
  modify (·.updateClaim sessionId (·.withRefundable session.refundable nowMs))
  return session

/-- What an accepted event does: the state the audit names as the origin, the new state,
and whether the expiry starts anew. -/
structure EventTransition where
  auditFromState : Option SpawnSessionState
  toState : SpawnSessionState
  resetExpiry : Bool
  deriving DecidableEq

/-- The `match` of `apply_session_event_in_state`. An expiry that has nothing to do is
accepted without a transition. -/
def eventTransition (session : SpawnSession) (hasAudit : Bool) (sessionId : String) (nowMs : ℕ)
    (event : SpawnSessionEvent) : Except FactoryError (Option EventTransition) :=
  let illegal := Except.error (.illegalSessionTransition sessionId session.state event.asStr)
  let accept toState := Except.ok (some ⟨some session.state, toState, false⟩)
  match event with
  | .sessionCreated =>
      if session.state ≠ .awaitingPayment ∨ hasAudit then illegal
      else .ok (some ⟨none, .awaitingPayment, false⟩)
  | .paymentObserved =>
      if session.state ≠ .awaitingPayment then illegal
      else if session.paymentStatus ≠ .paid then
        .error (.paymentNotSettled sessionId session.paymentStatus)
      else accept .paymentDetected
  | .spawnStarted => if session.state ≠ .paymentDetected then illegal else accept .spawning
  | .installSucceeded =>
      if session.state ≠ .spawning then illegal else accept .broadcastingRelease
  | .releaseBroadcast =>
      if session.state ≠ .broadcastingRelease then illegal else accept .complete
  | .spawnFailed =>
      if session.state = .paymentDetected ∨ session.state = .spawning ∨
          session.state = .broadcastingRelease then accept .failed
      else illegal
  | .retryRequested =>
      if session.state ≠ .failed ∨ ¬ session.retryable then
        .error (.sessionNotRetryable sessionId session.state)
      else if session.paymentStatus ≠ .paid then
        .error (.paymentNotSettled sessionId session.paymentStatus)
      else .ok (some ⟨some session.state, .paymentDetected, true⟩)
  | .sessionExpired =>
      if session.state = .complete ∨ session.state = .expired ∨
          session.paymentStatus = .refunded ∨ nowMs ≤ session.expiresAt then .ok none
      else accept .expired

/-- A session after an accepted event, before its flags are derived. -/
@[simps]
def SpawnSession.enter (session : SpawnSession) (transition : EventTransition)
    (nowMs sessionTtlMs : ℕ) : SpawnSession :=
  { session with
    state := transition.toState
    expiresAt := if transition.resetExpiry then nowMs + sessionTtlMs else session.expiresAt
    updatedAt := nowMs }

/-- `apply_session_event_in_state`. -/
def applySessionEventInState (sessionId : String) (actor : SessionAuditActor) (nowMs : ℕ)
    (event : SpawnSessionEvent) (reason : String) : Update SpawnSession := do
  let snapshot ← getSession sessionId
  let state ← get
  let hasAudit := !(state.auditLog[sessionId]?.getD []).isEmpty
  match eventTransition snapshot hasAudit sessionId nowMs event with
  | .error error => throw error
  | .ok none => return snapshot
  | .ok (some transition) =>
    modify (·.updateSession sessionId (·.enter transition nowMs state.sessionTtlMs))
    let session ← syncSessionDerivedFlagsInState sessionId nowMs
    modify (·.recordSessionAudit
      ⟨sessionId, nowMs, transition.auditFromState, transition.toState, actor, reason⟩)
    return session

section Runs

variable {state : FactoryState} {sessionId : String} {session : SpawnSession} {nowMs : ℕ}
  {actor : SessionAuditActor} {event : SpawnSessionEvent} {reason : String}

/-- Deriving the flags of a session that is there. -/
theorem run_syncSessionDerivedFlagsInState (h : state.sessions[sessionId]? = some session) :
    syncSessionDerivedFlagsInState sessionId nowMs state =
      .ok (session.withDerivedFlags nowMs)
        ((state.updateSession sessionId fun _ => session.withDerivedFlags nowMs).updateClaim
          sessionId (·.withRefundable (deriveRefundable session) nowMs)) := by
  rw [syncSessionDerivedFlagsInState, run_bind, run_getSession h]
  rfl

/-- The state after an accepted event: the session enters its new state, session and
claim get their flags, and the audit log grows by one entry. -/
def FactoryState.entered (state : FactoryState) (sessionId : String) (session : SpawnSession)
    (transition : EventTransition) (actor : SessionAuditActor) (nowMs : ℕ) (reason : String) :
    FactoryState :=
  let entered := session.enter transition nowMs state.sessionTtlMs
  ((state.updateSession sessionId fun _ => entered.withDerivedFlags nowMs).updateClaim
      sessionId (·.withRefundable (deriveRefundable entered) nowMs)).recordSessionAudit
    ⟨sessionId, nowMs, transition.auditFromState, transition.toState, actor, reason⟩

/-- `apply_session_event_in_state` on a session that is there. -/
theorem run_applySessionEventInState (h : state.sessions[sessionId]? = some session) :
    applySessionEventInState sessionId actor nowMs event reason state =
      match eventTransition session (!(state.auditLog[sessionId]?.getD []).isEmpty) sessionId
          nowMs event with
      | .error error => .error error state
      | .ok none => .ok session state
      | .ok (some transition) =>
        .ok ((session.enter transition nowMs state.sessionTtlMs).withDerivedFlags nowMs)
          (state.entered sessionId session transition actor nowMs reason) := by
  rw [applySessionEventInState, run_bind, run_getSession h]
  simp only [run_bind, run_get]
  cases htransition : eventTransition session (!(state.auditLog[sessionId]?.getD []).isEmpty)
      sessionId nowMs event with
  | error error => rfl
  | ok accepted =>
    cases accepted with
    | none => rfl
    | some transition =>
      have hentered : (state.updateSession sessionId
          (·.enter transition nowMs state.sessionTtlMs)).sessions[sessionId]? =
            some (session.enter transition nowMs state.sessionTtlMs) := by
        simp [h]
      simp only [run_bind, run_modify, run_syncSessionDerivedFlagsInState hentered, run_pure,
        FactoryState.entered, FactoryState.updateSession_updateSession]
      rfl

/-- `apply_session_event_in_state` on a session that is not there. -/
theorem run_applySessionEventInState_none (h : state.sessions[sessionId]? = none) :
    applySessionEventInState sessionId actor nowMs event reason state =
      .error (.sessionNotFound sessionId) state := by
  rw [applySessionEventInState, run_bind, run_getSession_none h]

end Runs

/-- `expire_session_in_state`. -/
def expireSessionInState (sessionId : String) (actor : SessionAuditActor) (nowMs : ℕ)
    (reason : String) : Update SpawnSession :=
  applySessionEventInState sessionId actor nowMs .sessionExpired reason

/-- `mark_session_failed_in_state`. -/
def markSessionFailedInState (sessionId : String) (actor : SessionAuditActor) (nowMs : ℕ)
    (reason : String) : Update SpawnSession := do
  let session ← applySessionEventInState sessionId actor nowMs .spawnFailed reason
  if session.retryable then modify (·.enqueueSpawnExecution sessionId nowMs)
  return session

/-- `retry_spawn_session_in_state`. -/
def retrySpawnSessionInState (sessionId : String) (actor : SessionAuditActor) (nowMs : ℕ)
    (reason : String) : Update SpawnSession := do
  let session ← applySessionEventInState sessionId actor nowMs .retryRequested reason
  modify (·.enqueueSpawnExecution sessionId nowMs)
  return session

end Automaton.Factory
