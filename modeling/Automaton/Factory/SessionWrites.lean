import Automaton.Factory.JobInvariants
import Automaton.Library.Transition

/-!
# What the writes of the factory do to sessions

An elementary write leaves a stored session as it is, moves it by an event, derives its flags at
the time of its last change, records a payment or a refund, or writes data that say nothing about
its progress. A configuration never touches a session.
-/

namespace Automaton.Factory

open Persist Transition

/-- What an elementary write does to a stored session. -/
inductive SessionWrite (session : SpawnSession) : SpawnSession → Prop
  | entered (transition : EventTransition) (nowMs sessionTtlMs : ℕ) :
      SessionWrite session ((session.enter transition nowMs sessionTtlMs).withDerivedFlags nowMs)
  | derived (hnow : session.updatedAt = nowMs) :
      SessionWrite session (session.withDerivedFlags nowMs)
  | observed (payment : ObservedPayment) (scanToBlock nowMs : ℕ)
      (hwaits : session.state = .awaitingPayment) :
      SessionWrite session (session.observe payment scanToBlock nowMs)
  | refunded (nowMs : ℕ) :
      SessionWrite session ((session.markRefunded nowMs).withDerivedFlags nowMs)
  | kept {session' : SpawnSession} (h : SameProgress session session') :
      SessionWrite session session'

protected theorem SessionWrite.refl (session : SpawnSession) : SessionWrite session session :=
  .kept ⟨SameTerms.refl session, rfl, rfl, rfl, rfl, rfl⟩

/-- No write to a stored session changes the terms. -/
theorem SessionWrite.sameTerms {session session' : SpawnSession}
    (h : SessionWrite session session') : SameTerms session session' := by
  cases h with
  | kept h => exact h.toSameTerms
  | _ => exact ⟨rfl, rfl, rfl, rfl, rfl, rfl, rfl⟩

/-- A session is written, or not there. -/
def WritesSession (sessionId : String) (s t : FactoryState) : Prop :=
  (s.sessions[sessionId]? = none ∧ t.sessions[sessionId]? = none) ∨
    ∃ session session', s.sessions[sessionId]? = some session ∧
      t.sessions[sessionId]? = some session' ∧ SessionWrite session session'

section Elementary

variable {kind : OpKind} {s t : FactoryState} {sessionId other : String} {nowMs : ℕ}
  {actor : SessionAuditActor} {event : SpawnSessionEvent} {reason : String}

/-- Writes to other parts of the state, and to other sessions. -/
theorem WritesSession.of_eq (h : t.sessions[sessionId]? = s.sessions[sessionId]?) :
    WritesSession sessionId s t := by
  cases hsession : s.sessions[sessionId]? with
  | none => exact .inl ⟨hsession, h.trans hsession⟩
  | some session =>
    exact .inr ⟨session, session, hsession, h.trans hsession, SessionWrite.refl session⟩

/-- A write to one session. -/
theorem WritesSession.updateSession {f : SpawnSession → SpawnSession}
    (hf : ∀ session, s.sessions[other]? = some session → SessionWrite session (f session)) :
    WritesSession sessionId s (s.updateSession other f) := by
  by_cases hid : other = sessionId
  · subst hid
    cases hsession : s.sessions[other]? with
    | none => exact .inl ⟨hsession, by simp [hsession]⟩
    | some session =>
      exact .inr ⟨session, f session, hsession, by simp [hsession], hf session hsession⟩
  · exact WritesSession.of_eq (by simp [BTreeMap.get?_modify, hid])

/-- An event. -/
theorem writesSession_event :
    WritesSession sessionId s
      (after (applySessionEventInState other actor nowMs event reason) s) := by
  rcases applySessionEventInState_cases other actor nowMs event reason s with
    ⟨e, hrun⟩ | ⟨session, hrun, -⟩ | ⟨session, transition, hsession, -, hrun⟩
  · rw [after_of_error hrun]
    exact WritesSession.of_eq rfl
  · rw [after_of_ok hrun]
    exact WritesSession.of_eq rfl
  · rw [after_of_ok hrun]
    by_cases hid : other = sessionId
    · subst hid
      exact .inr ⟨session, _, hsession, getElem?_entered hsession, .entered _ _ _⟩
    · exact WritesSession.of_eq ((onlySession_entered s other session transition actor nowMs
        reason).sessions sessionId (Ne.symm hid))

/-- An event with its scheduling. -/
theorem writesSession_eventThenEnqueue {α : Type} {f : SpawnSession → Update α}
    (hf : ∀ session u, after (f session) u = u.enqueueSpawnExecution other nowMs) :
    WritesSession sessionId s
      (after (applySessionEventInState other actor nowMs event reason >>= f) s) := by
  have hevent : WritesSession sessionId s
      (after (applySessionEventInState other actor nowMs event reason) s) := writesSession_event
  have hsessions :
      (after (applySessionEventInState other actor nowMs event reason >>= f) s).sessions =
        (after (applySessionEventInState other actor nowMs event reason) s).sessions :=
    sessions_eventThenEnqueue hf
  unfold WritesSession at hevent ⊢
  rw [hsessions]
  exact hevent

/-- What an elementary write does to the session with some id, unless it stores a new one. -/
theorem Write.writesSession (h : Write kind s t) (sessionId : String) :
    WritesSession sessionId s t ∨ kind = .creation ∧ ∃ session,
      t.sessions[sessionId]? = some session ∧ session.state = .awaitingPayment ∧
        session.retryable = false := by
  cases h with
  | event id actor nowMs reason hevent hfailed => exact .inl writesSession_event
  | created id actor nowMs reason hkind => exact .inl writesSession_event
  | retry id actor nowMs reason => exact .inl (writesSession_eventThenEnqueue fun _ _ => rfl)
  | detect id nowMs hkind => exact .inl (writesSession_eventThenEnqueue fun _ _ => rfl)
  | payment id payment scanToBlock nowMs hkind hwaits =>
    refine .inl (WritesSession.updateSession fun session hsession => ?_)
    exact .observed payment scanToBlock nowMs (state_of_needsPaymentPoll (hwaits session hsession))
  | flags id nowMs hnow =>
    left
    rcases syncSessionDerivedFlagsInState_cases id nowMs s with heq | ⟨session, hsession, heq⟩
    · rw [heq]
      exact WritesSession.of_eq rfl
    · rw [heq]
      have hflags : WritesSession sessionId s
          (s.updateSession id fun _ => session.withDerivedFlags nowMs) := by
        refine WritesSession.updateSession fun session' hsession' => ?_
        obtain rfl := Option.some.inj (hsession.symm.trans hsession')
        exact .derived (hnow session hsession)
      exact hflags
  | session id f hf =>
    exact .inl (WritesSession.updateSession fun session _ => .kept (hf session))
  | refund id session nowMs hsession =>
    have hrefunded : WritesSession sessionId s
        (s.updateSession id fun _ => (session.markRefunded nowMs).withDerivedFlags nowMs) := by
      refine WritesSession.updateSession fun session' hsession' => ?_
      obtain rfl := Option.some.inj (hsession.symm.trans hsession')
      exact .refunded nowMs
    left
    unfold WritesSession at hrefunded ⊢
    rw [s.refunded_sessions session]
    exact hrefunded
  | newSession session hkind hstate hretryable =>
    by_cases hid : session.sessionId = sessionId
    · exact .inr ⟨hkind, session, by simp [hid], hstate, hretryable⟩
    · exact .inl (WritesSession.of_eq (by simp [BTreeMap.get?_insert, hid]))
  | enqueue id nowMs =>
    exact .inl (WritesSession.of_eq
      (congrArg (·[sessionId]?) (sameButJobs_enqueueSpawnExecution s id nowMs).sessions_eq))
  | pollJob nowMs =>
    exact .inl (WritesSession.of_eq
      (congrArg (·[sessionId]?) (sameButJobs_syncPaymentPollJob s nowMs).sessions_eq))
  | _ => exact .inl (WritesSession.of_eq rfl)

end Elementary

/-- What happens to a factory: one of its writes, or a change of its configuration. -/
inductive FactoryAct
  | write (op : Op)
  | configure

/-- One step. A configuration leaves sessions, claims and audit logs as they are. -/
def FactoryAct.Step (libraries : Libraries) (s : FactoryState) (act : FactoryAct)
    (t : FactoryState) : Prop :=
  match act with
  | .write op => t = op.apply libraries s
  | .configure =>
    t.sessions = s.sessions ∧ t.escrowClaims = s.escrowClaims ∧ t.auditLog = s.auditLog

end Automaton.Factory
