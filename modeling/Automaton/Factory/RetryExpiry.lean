import Automaton.Factory.SessionWrites
import Automaton.Factory.SpawnSchedule

/-!
# Retries and the expiry of a session

A retry reads the flag that was derived when the session changed last. The flag of a failed and
paid session says whether that change was within the expiry, not whether the retry is.
-/

namespace Automaton.Factory

open Machine Persist Transition

/-- The flag of a session was derived at its last change. -/
def FlagCurrent (session : SpawnSession) : Prop :=
  session.retryable = deriveRetryable session session.updatedAt

/-- Each write to a session derives the flag, or is not about it. -/
theorem FlagCurrent.sessionWrite {session session' : SpawnSession} (h : FlagCurrent session)
    (hwrite : SessionWrite session session') : FlagCurrent session' := by
  unfold FlagCurrent at h ⊢
  cases hwrite with
  | entered transition nowMs sessionTtlMs => rfl
  | derived hnow =>
    subst hnow
    rfl
  | observed payment scanToBlock nowMs hwaits =>
    -- a session that waits for its payment is not retryable before and after
    have hbefore : deriveRetryable session session.updatedAt = false := by
      simp [deriveRetryable, hwaits]
    have hafter : deriveRetryable (session.observe payment scanToBlock nowMs) nowMs = false := by
      simp [deriveRetryable, hwaits]
    exact (h.trans hbefore).trans hafter.symm
  | refunded nowMs => rfl
  | kept hkept =>
    unfold deriveRetryable at h ⊢
    rw [hkept.retryable, hkept.state, hkept.paymentStatus, hkept.updatedAt, hkept.expiresAt]
    exact h

/-- The flags of all sessions were derived at their last changes. -/
def FlagsCurrent (state : FactoryState) : Prop :=
  ∀ (sessionId : String) session, state.sessions[sessionId]? = some session → FlagCurrent session

theorem FlagsCurrent.write {kind : OpKind} {s t : FactoryState} (hwrite : Write kind s t)
    (h : FlagsCurrent s) : FlagsCurrent t := by
  intro sessionId session hsession
  rcases hwrite.writesSession sessionId with
    (⟨-, hnone⟩ | ⟨earlier, later, hearlier, hlater, hwritten⟩) |
      ⟨-, created, hcreated, hstate, hretryable⟩
  · rw [hnone] at hsession
    cases hsession
  · obtain rfl := Option.some.inj (hlater.symm.trans hsession)
    exact (h sessionId earlier hearlier).sessionWrite hwritten
  · obtain rfl := Option.some.inj (hcreated.symm.trans hsession)
    unfold FlagCurrent
    rw [hretryable]
    simp [deriveRetryable, hstate]

section Retries

variable {libraries : Libraries} {state : FactoryState} {sessionId : String}
  {session : SpawnSession} {nowMs : ℕ} {actor : SessionAuditActor} {reason : String}

end Retries

end Automaton.Factory
