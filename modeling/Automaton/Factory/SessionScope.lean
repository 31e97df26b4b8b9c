import Automaton.Factory.SessionTransitions

/-!
# Operations on one session

An operation on one session reads and writes the session, its escrow claim, its audit log
and scheduler jobs. Everything else, and every other session, stays as it is.
-/

namespace Automaton.Factory

open Persist

/-- A session and its claim, as stored. -/
structure At (state : FactoryState) (sessionId : String) (session : SpawnSession)
    (claim : EscrowClaim) : Prop where
  session : state.sessions[sessionId]? = some session
  claim : state.escrowClaims[sessionId]? = some claim

/-- Nothing but one session, its claim, its audit log and scheduler jobs differs. -/
structure OnlySession (sessionId : String) (s s' : FactoryState) : Prop where
  frame : s' = { s with
    sessions := s'.sessions
    escrowClaims := s'.escrowClaims
    auditLog := s'.auditLog
    schedulerJobs := s'.schedulerJobs }
  sessions : ∀ other, other ≠ sessionId → s'.sessions[other]? = s.sessions[other]?
  claims : ∀ other, other ≠ sessionId → s'.escrowClaims[other]? = s.escrowClaims[other]?
  audits : ∀ other, other ≠ sessionId → s'.auditLog[other]? = s.auditLog[other]?

namespace OnlySession

variable {s t u : FactoryState} {sessionId : String}

protected theorem refl (s : FactoryState) : OnlySession sessionId s s where
  frame := rfl
  sessions _ _ := rfl
  claims _ _ := rfl
  audits _ _ := rfl

protected theorem trans (h : OnlySession sessionId s t) (h' : OnlySession sessionId t u) :
    OnlySession sessionId s u where
  frame := by
    have hu := h'.frame
    rw [h.frame] at hu
    exact hu
  sessions other hother := (h'.sessions other hother).trans (h.sessions other hother)
  claims other hother := (h'.claims other hother).trans (h.claims other hother)
  audits other hother := (h'.audits other hother).trans (h.audits other hother)

/-- Writing the session. -/
theorem updateSession (s : FactoryState) (f : SpawnSession → SpawnSession) :
    OnlySession sessionId s (s.updateSession sessionId f) where
  frame := rfl
  sessions other hother := by simp [BTreeMap.get?_modify, hother.symm]
  claims _ _ := rfl
  audits _ _ := rfl

/-- Writing the claim. -/
theorem updateClaim (s : FactoryState) (f : EscrowClaim → EscrowClaim) :
    OnlySession sessionId s (s.updateClaim sessionId f) where
  frame := rfl
  sessions _ _ := rfl
  claims other hother := by simp [BTreeMap.get?_modify, hother.symm]
  audits _ _ := rfl

/-- Recording an audit entry. -/
theorem recordSessionAudit (s : FactoryState) (entry : SessionAuditEntry) :
    OnlySession entry.sessionId s (s.recordSessionAudit entry) where
  frame := rfl
  sessions _ _ := rfl
  claims _ _ := rfl
  audits other hother := by simp [BTreeMap.get?_insert, hother.symm]

/-- Scheduling touches no session. -/
theorem of_sameButJobs (h : SameButJobs s t) : OnlySession sessionId s t := by
  obtain ⟨jobs, rfl⟩ := h
  exact ⟨rfl, fun _ _ => rfl, fun _ _ => rfl, fun _ _ => rfl⟩

/-- Another session and its claim are still there. -/
theorem at_of_ne (h : OnlySession sessionId s t) {other : String} {session : SpawnSession}
    {claim : EscrowClaim} (hother : other ≠ sessionId) (hat : At s other session claim) :
    At t other session claim where
  session := (h.sessions other hother).trans hat.session
  claim := (h.claims other hother).trans hat.claim

end OnlySession

section Scheduling

variable {s t : FactoryState} {sessionId : String} {session : SpawnSession} {claim : EscrowClaim}

/-- Scheduling keeps a session and its claim. -/
theorem At.of_sameButJobs (hat : At s sessionId session claim) (h : SameButJobs s t) :
    At t sessionId session claim := by
  obtain ⟨jobs, rfl⟩ := h
  exact ⟨hat.session, hat.claim⟩

end Scheduling

section Events

variable {s : FactoryState} {sessionId : String} {session : SpawnSession} {claim : EscrowClaim}
  {nowMs : ℕ} {actor : SessionAuditActor} {event : SpawnSessionEvent} {reason : String}
  {transition : EventTransition}

/-- Deriving the flags, on a session with its claim. -/
theorem At.syncSessionDerivedFlagsInState (hat : At s sessionId session claim) (nowMs : ℕ) :
    ∃ t, syncSessionDerivedFlagsInState sessionId nowMs s =
        .ok (session.withDerivedFlags nowMs) t ∧
      At t sessionId (session.withDerivedFlags nowMs)
        (claim.withRefundable (deriveRefundable session) nowMs) ∧
      OnlySession sessionId s t := by
  refine ⟨_, run_syncSessionDerivedFlagsInState hat.session, ⟨?_, ?_⟩, ?_⟩
  · simp [hat.session]
  · simp [hat.claim]
  · exact (OnlySession.updateSession s _).trans (OnlySession.updateClaim _ _)

/-- The state after an accepted event differs in the session only. -/
theorem onlySession_entered (s : FactoryState) (sessionId : String) (session : SpawnSession)
    (transition : EventTransition) (actor : SessionAuditActor) (nowMs : ℕ) (reason : String) :
    OnlySession sessionId s (s.entered sessionId session transition actor nowMs reason) :=
  ((OnlySession.updateSession s _).trans (OnlySession.updateClaim _ _)).trans
    (OnlySession.recordSessionAudit _ ⟨sessionId, nowMs, _, _, actor, reason⟩)

/-- The session after an accepted event. -/
theorem getElem?_entered (hsession : s.sessions[sessionId]? = some session) :
    (s.entered sessionId session transition actor nowMs reason).sessions[sessionId]? =
      some ((session.enter transition nowMs s.sessionTtlMs).withDerivedFlags nowMs) := by
  simp [FactoryState.entered, hsession]

/-- An accepted event, on a session with its claim. -/
theorem At.entered (hat : At s sessionId session claim) (transition : EventTransition)
    (actor : SessionAuditActor) (nowMs : ℕ) (reason : String) :
    At (s.entered sessionId session transition actor nowMs reason) sessionId
      ((session.enter transition nowMs s.sessionTtlMs).withDerivedFlags nowMs)
      (claim.withRefundable (deriveRefundable (session.enter transition nowMs s.sessionTtlMs))
        nowMs) where
  session := getElem?_entered hat.session
  claim := by simp [FactoryState.entered, hat.claim]

/-- An event is refused, or accepted without effect, or its session enters a new state. -/
theorem applySessionEventInState_cases (sessionId : String) (actor : SessionAuditActor)
    (nowMs : ℕ) (event : SpawnSessionEvent) (reason : String) (s : FactoryState) :
    (∃ e, applySessionEventInState sessionId actor nowMs event reason s = .error e s) ∨
    (∃ session, applySessionEventInState sessionId actor nowMs event reason s =
      .ok session s ∧ s.sessions[sessionId]? = some session ∧
      eventTransition session (!(s.auditLog[sessionId]?.getD []).isEmpty) sessionId nowMs event =
        .ok none) ∨
    ∃ session transition, s.sessions[sessionId]? = some session ∧
      eventTransition session (!(s.auditLog[sessionId]?.getD []).isEmpty) sessionId nowMs event =
        .ok (some transition) ∧
      applySessionEventInState sessionId actor nowMs event reason s =
        .ok ((session.enter transition nowMs s.sessionTtlMs).withDerivedFlags nowMs)
          (s.entered sessionId session transition actor nowMs reason) := by
  cases hsession : s.sessions[sessionId]? with
  | none => exact .inl ⟨_, run_applySessionEventInState_none hsession⟩
  | some session =>
    have hrun : applySessionEventInState sessionId actor nowMs event reason s = _ :=
      run_applySessionEventInState hsession
    cases htransition : eventTransition session (!(s.auditLog[sessionId]?.getD []).isEmpty)
        sessionId nowMs event with
    | error e =>
      rw [htransition] at hrun
      exact .inl ⟨e, hrun⟩
    | ok accepted =>
      rw [htransition] at hrun
      cases accepted with
      | none => exact .inr (.inl ⟨session, hrun, rfl, htransition⟩)
      | some transition => exact .inr (.inr ⟨session, transition, rfl, htransition, hrun⟩)

/-- An event changes nothing but its session. -/
theorem within_applySessionEventInState :
    Within (OnlySession sessionId) (applySessionEventInState sessionId actor nowMs event reason) := by
  intro s
  rcases applySessionEventInState_cases sessionId actor nowMs event reason s with
    ⟨e, hrun⟩ | ⟨session, hrun, -⟩ | ⟨session, transition, -, -, hrun⟩
  · rw [after_of_error hrun]
    exact OnlySession.refl s
  · rw [after_of_ok hrun]
    exact OnlySession.refl s
  · rw [after_of_ok hrun]
    exact onlySession_entered _ _ _ _ _ _ _

end Events

end Automaton.Factory
