import Automaton.Factory.Operations

/-!
# How sessions evolve

What every write of the factory respects: a session and its claim keep their ids, agree on
the refund flag, and pair session states with payment statuses coherently. A refunded
session stands still, and a complete one stays complete.
-/

namespace Automaton.Factory

open Persist

/-- Session state, payment status and the two refund flags agree. -/
structure Coherent (session : SpawnSession) (claim : EscrowClaim) : Prop where
  awaiting : session.state = .awaitingPayment →
    session.paymentStatus = .unpaid ∨ session.paymentStatus = .partiallyPaid
  active : session.state = .paymentDetected ∨ session.state = .spawning ∨
    session.state = .broadcastingRelease ∨ session.state = .complete →
    session.paymentStatus = .paid
  failed : session.state = .failed →
    session.paymentStatus = .paid ∨ session.paymentStatus = .refunded
  refunded : session.paymentStatus = .refunded →
    session.state = .failed ∨ session.state = .expired
  sessionFlag : session.refundable = deriveRefundable session
  claimFlag : claim.refundable = deriveRefundable session

/-- What may become of a session and its claim. -/
structure PairEvolves (session : SpawnSession) (claim : EscrowClaim) (session' : SpawnSession)
    (claim' : EscrowClaim) : Prop where
  sessionId : session'.sessionId = session.sessionId
  claimId : session'.claimId = session.claimId
  escrowId : claim'.claimId = claim.claimId
  coherent : Coherent session claim → Coherent session' claim'
  frozen : Coherent session claim → session.paymentStatus = .refunded →
    session'.state = session.state ∧ session'.paymentStatus = .refunded
  complete : session.state = .complete → session'.state = .complete

namespace PairEvolves

variable {session session' session'' : SpawnSession} {claim claim' claim'' : EscrowClaim}

protected theorem refl (session : SpawnSession) (claim : EscrowClaim) :
    PairEvolves session claim session claim :=
  ⟨rfl, rfl, rfl, id, fun _ h => ⟨rfl, h⟩, id⟩

protected theorem trans (h : PairEvolves session claim session' claim')
    (h' : PairEvolves session' claim' session'' claim'') :
    PairEvolves session claim session'' claim'' where
  sessionId := h'.sessionId.trans h.sessionId
  claimId := h'.claimId.trans h.claimId
  escrowId := h'.escrowId.trans h.escrowId
  coherent hcoherent := h'.coherent (h.coherent hcoherent)
  frozen hcoherent hrefunded := by
    obtain ⟨hstate, hstatus⟩ := h.frozen hcoherent hrefunded
    obtain ⟨hstate', hstatus'⟩ := h'.frozen (h.coherent hcoherent) hstatus
    exact ⟨hstate'.trans hstate, hstatus'⟩
  complete hcomplete := h'.complete (h.complete hcomplete)

end PairEvolves

/-- What may become of the sessions of a factory, when none is created. -/
structure Evolves (s t : FactoryState) : Prop where
  kept : ∀ {sessionId : String} {session claim}, At s sessionId session claim →
    ∃ session' claim', At t sessionId session' claim' ∧ PairEvolves session claim session' claim'
  absent : ∀ {sessionId : String}, s.sessions[sessionId]? = none → t.sessions[sessionId]? = none
  silent : ∀ {sessionId : String}, s.sessions[sessionId]? = none →
    t.auditLog[sessionId]? = s.auditLog[sessionId]?

namespace Evolves

variable {s t u : FactoryState} {sessionId : String}

protected theorem refl (s : FactoryState) : Evolves s s :=
  ⟨fun hat => ⟨_, _, hat, PairEvolves.refl _ _⟩, id, fun _ => rfl⟩

protected theorem trans (h : Evolves s t) (h' : Evolves t u) : Evolves s u where
  kept hat := by
    obtain ⟨session', claim', hat', hpair⟩ := h.kept hat
    obtain ⟨session'', claim'', hat'', hpair'⟩ := h'.kept hat'
    exact ⟨session'', claim'', hat'', hpair.trans hpair'⟩
  absent hnone := h'.absent (h.absent hnone)
  silent hnone := (h'.silent (h.absent hnone)).trans (h.silent hnone)

/-- Writes to other parts of the state. -/
theorem of_eq (hsessions : t.sessions = s.sessions) (hclaims : t.escrowClaims = s.escrowClaims)
    (haudits : t.auditLog = s.auditLog) : Evolves s t where
  kept hat := ⟨_, _, ⟨hsessions ▸ hat.session, hclaims ▸ hat.claim⟩, PairEvolves.refl _ _⟩
  absent hnone := by rw [hsessions]; exact hnone
  silent _ := by rw [haudits]

/-- Scheduling. -/
theorem of_sameButJobs (h : SameButJobs s t) : Evolves s t := by
  obtain ⟨jobs, rfl⟩ := h
  exact of_eq rfl rfl rfl

/-- An operation on one session that takes it with its claim to a pair that may become of
them. -/
theorem of_onlySession {session : SpawnSession} (honly : OnlySession sessionId s t)
    (hsession : s.sessions[sessionId]? = some session)
    (hkept : ∀ claim, At s sessionId session claim →
      ∃ session' claim', At t sessionId session' claim' ∧
        PairEvolves session claim session' claim') : Evolves s t where
  kept := by
    intro other session' claim' hat
    by_cases hother : other = sessionId
    · subst hother
      obtain rfl := Option.some.inj (hsession.symm.trans hat.session)
      exact hkept claim' hat
    · exact ⟨session', claim', honly.at_of_ne hother hat, PairEvolves.refl _ _⟩
  absent := by
    intro other hnone
    have hother : other ≠ sessionId := by
      rintro rfl
      rw [hsession] at hnone
      cases hnone
    rw [honly.sessions other hother, hnone]
  silent := by
    intro other hnone
    have hother : other ≠ sessionId := by
      rintro rfl
      rw [hsession] at hnone
      cases hnone
    exact honly.audits other hother

/-- A write to a session that keeps what others depend on. -/
theorem updateSession (s : FactoryState) {f : SpawnSession → SpawnSession}
    (hf : ∀ session, (f session).sessionId = session.sessionId ∧
      (f session).claimId = session.claimId ∧ (f session).state = session.state ∧
      (f session).paymentStatus = session.paymentStatus ∧
      (f session).refundable = session.refundable) :
    Evolves s (s.updateSession sessionId f) := by
  cases hsession : s.sessions[sessionId]? with
  | none =>
    refine of_eq ?_ rfl rfl
    rw [FactoryState.updateSession_sessions, BTreeMap.modify_eq_self hsession]
  | some session =>
    obtain ⟨hid, hclaimId, hstate, hstatus, hrefundable⟩ := hf session
    have hderive : deriveRefundable (f session) = deriveRefundable session := by
      simp only [deriveRefundable, hstate, hstatus]
    refine of_onlySession (OnlySession.updateSession s f) hsession fun claim hat => ?_
    refine ⟨f session, claim, ⟨by simp [hat.session], hat.claim⟩, hid, hclaimId, rfl, ?_, ?_, ?_⟩
    · intro h
      exact ⟨by rw [hstate, hstatus]; exact h.awaiting, by rw [hstate, hstatus]; exact h.active,
        by rw [hstate, hstatus]; exact h.failed, by rw [hstate, hstatus]; exact h.refunded,
        by rw [hrefundable, hderive]; exact h.sessionFlag, by rw [hderive]; exact h.claimFlag⟩
    · intro _ hrefunded
      exact ⟨hstate, hstatus.trans hrefunded⟩
    · intro hcomplete
      exact hstate.trans hcomplete

/-- A write to a claim that keeps its id and flag. -/
theorem updateClaim (s : FactoryState) {f : EscrowClaim → EscrowClaim}
    (hf : ∀ claim, (f claim).claimId = claim.claimId ∧ (f claim).refundable = claim.refundable) :
    Evolves s (s.updateClaim sessionId f) := by
  refine ⟨?_, id, fun _ => rfl⟩
  intro other session claim hat
  by_cases hother : sessionId = other
  · subst hother
    obtain ⟨hclaimId, hflag⟩ := hf claim
    refine ⟨session, f claim, ⟨hat.session, by simp [hat.claim]⟩, rfl, rfl, hclaimId, ?_,
      fun _ h => ⟨rfl, h⟩, id⟩
    intro h
    exact ⟨h.awaiting, h.active, h.failed, h.refunded, h.sessionFlag, hflag.trans h.claimFlag⟩
  · refine ⟨session, claim, ⟨hat.session, ?_⟩, PairEvolves.refl _ _⟩
    rw [FactoryState.updateClaim_escrowClaims, BTreeMap.get?_modify, if_neg hother]
    exact hat.claim

end Evolves

section Events

variable {session : SpawnSession} {claim : EscrowClaim} {hasAudit : Bool} {sessionId : String}
  {nowMs ttl : ℕ} {event : SpawnSessionEvent} {transition : EventTransition}

/-- Where an accepted event leads from, where it leads to, and what the payment status is. -/
theorem eventTransition_cases
    (h : eventTransition session hasAudit sessionId nowMs event = .ok (some transition)) :
    (event = .sessionCreated ∧ session.state = .awaitingPayment ∧
      transition.toState = .awaitingPayment) ∨
    (event = .paymentObserved ∧ session.state = .awaitingPayment ∧ session.paymentStatus = .paid ∧
      transition.toState = .paymentDetected) ∨
    (event = .spawnStarted ∧ session.state = .paymentDetected ∧ transition.toState = .spawning) ∨
    (event = .installSucceeded ∧ session.state = .spawning ∧
      transition.toState = .broadcastingRelease) ∨
    (event = .releaseBroadcast ∧ session.state = .broadcastingRelease ∧
      transition.toState = .complete) ∨
    (event = .spawnFailed ∧ (session.state = .paymentDetected ∨ session.state = .spawning ∨
      session.state = .broadcastingRelease) ∧ transition.toState = .failed) ∨
    (event = .retryRequested ∧ session.state = .failed ∧ session.retryable = true ∧
      session.paymentStatus = .paid ∧ transition.toState = .paymentDetected) ∨
    (event = .sessionExpired ∧ session.state ≠ .complete ∧ session.state ≠ .expired ∧
      session.paymentStatus ≠ .refunded ∧ session.expiresAt < nowMs ∧
      transition.toState = .expired) := by
  cases event <;> simp only [eventTransition] at h <;> split_ifs at h <;>
    simp_all only [Except.ok.injEq, Option.some.injEq, reduceCtorEq] <;> subst h <;> simp_all

/-- An accepted event keeps session and claim coherent, and moves neither a refunded session
nor a complete one. -/
theorem pairEvolves_enter
    (h : eventTransition session hasAudit sessionId nowMs event = .ok (some transition)) :
    PairEvolves session claim ((session.enter transition nowMs ttl).withDerivedFlags nowMs)
      (claim.withRefundable (deriveRefundable (session.enter transition nowMs ttl)) nowMs) := by
  have hcases := eventTransition_cases h
  refine ⟨rfl, rfl, rfl, ?_, ?_, ?_⟩
  · intro hcoherent
    refine ⟨?_, ?_, ?_, ?_, rfl, rfl⟩
    · simp only [SpawnSession.withDerivedFlags_state, SpawnSession.enter_state,
        SpawnSession.withDerivedFlags_paymentStatus, SpawnSession.enter_paymentStatus]
      intro hstate
      rcases hcases with ⟨-, hfrom, -⟩ | h | h | h | h | h | h | h
      · exact hcoherent.awaiting hfrom
      all_goals simp_all
    · simp only [SpawnSession.withDerivedFlags_state, SpawnSession.enter_state,
        SpawnSession.withDerivedFlags_paymentStatus, SpawnSession.enter_paymentStatus]
      intro hstate
      rcases hcases with h | ⟨-, -, hpaid, -⟩ | ⟨-, hfrom, -⟩ | ⟨-, hfrom, -⟩ | ⟨-, hfrom, -⟩ |
        h | ⟨-, -, -, hpaid, -⟩ | h
      · simp_all
      · exact hpaid
      · exact hcoherent.active (by simp [hfrom])
      · exact hcoherent.active (by simp [hfrom])
      · exact hcoherent.active (by simp [hfrom])
      · simp_all
      · exact hpaid
      · simp_all
    · simp only [SpawnSession.withDerivedFlags_state, SpawnSession.enter_state,
        SpawnSession.withDerivedFlags_paymentStatus, SpawnSession.enter_paymentStatus]
      intro hstate
      rcases hcases with h | h | h | h | h | ⟨-, hfrom, -⟩ | h | h
      case inr.inr.inr.inr.inr.inl => exact .inl (hcoherent.active (by tauto))
      all_goals simp_all
    · simp only [SpawnSession.withDerivedFlags_state, SpawnSession.enter_state,
        SpawnSession.withDerivedFlags_paymentStatus, SpawnSession.enter_paymentStatus]
      intro hrefunded
      have hfrom := hcoherent.refunded hrefunded
      rcases hcases with h | h | h | h | h | h | h | h <;> simp_all
  · intro hcoherent hrefunded
    rcases hcoherent.refunded hrefunded with hfrom | hfrom <;>
      rcases hcases with h | h | h | h | h | h | h | h <;> simp_all
  · intro hcomplete
    rcases hcases with h | h | h | h | h | h | h | h <;> simp_all

end Events

section Updates

variable {sessionId : String} {nowMs scanToBlock : ℕ} {actor : SessionAuditActor}
  {event : SpawnSessionEvent} {reason : String}

/-- Events. -/
theorem evolves_applySessionEventInState :
    Within Evolves (applySessionEventInState sessionId actor nowMs event reason) := by
  intro s
  rcases applySessionEventInState_cases sessionId actor nowMs event reason s with
    ⟨e, hrun⟩ | ⟨session, hrun, -⟩ | ⟨session, transition, hsession, htransition, hrun⟩
  · rw [after_of_error hrun]
    exact Evolves.refl s
  · rw [after_of_ok hrun]
    exact Evolves.refl s
  · rw [after_of_ok hrun]
    exact Evolves.of_onlySession (onlySession_entered _ _ _ _ _ _ _) hsession fun claim hat =>
      ⟨_, _, hat.entered transition actor nowMs reason, pairEvolves_enter htransition⟩

/-- Failures. -/
theorem evolves_markSessionFailedInState :
    Within Evolves (markSessionFailedInState sessionId actor nowMs reason) := by
  refine Within.bind Evolves.trans evolves_applySessionEventInState fun session => ?_
  split
  · exact Within.bind Evolves.trans (Within.modify fun s => Evolves.of_sameButJobs
      (sameButJobs_enqueueSpawnExecution s sessionId nowMs)) fun _ => Within.pure Evolves.refl _
  · exact Within.pure Evolves.refl _

/-- Retries. -/
theorem evolves_retrySpawnSessionInState :
    Within Evolves (retrySpawnSessionInState sessionId actor nowMs reason) := by
  refine Within.bind Evolves.trans evolves_applySessionEventInState fun session => ?_
  exact Within.bind Evolves.trans (Within.modify fun s => Evolves.of_sameButJobs
    (sameButJobs_enqueueSpawnExecution s sessionId nowMs)) fun _ => Within.pure Evolves.refl _

/-- A scan takes a session that waits for its payment to a coherent pair. -/
theorem pairEvolves_scanned {session : SpawnSession} {claim : EscrowClaim}
    {payment : ObservedPayment} (hstate : session.state = .awaitingPayment)
    (hstatus : payment.paymentStatus ≠ .refunded) :
    PairEvolves session claim (session.scanned payment scanToBlock nowMs)
      (claim.scanned session payment scanToBlock nowMs) := by
  refine ⟨rfl, rfl, rfl, ?_, ?_, ?_⟩
  · intro _
    refine ⟨?_, ?_, ?_, ?_, rfl, rfl⟩ <;>
      simp only [SpawnSession.scanned, SpawnSession.withDerivedFlags_state, stateAfterScan,
        SpawnSession.withDerivedFlags_paymentStatus, SpawnSession.observe_paymentStatus] <;>
      cases hpayment : payment.paymentStatus <;> split_ifs <;> simp_all
  · intro hcoherent hrefunded
    have hfrom := hcoherent.refunded hrefunded
    simp_all
  · intro hcomplete
    simp_all

/-- The host's scans. -/
theorem evolves_reconcileEscrowPayments {logs : List BaseDepositLog} {blockHashes : BlockHashes} :
    Within Evolves (reconcileEscrowPayments logs blockHashes scanToBlock nowMs) := by
  intro s
  have hscanned : ∀ amounts items t,
      Scanned (hostLoop amounts s.paymentEndpoints blockHashes scanToBlock nowMs) items
        (s.withScanCursor scanToBlock) t → Evolves s t := by
    intro amounts items t h
    have hkeys : items.map (hostLoop amounts s.paymentEndpoints blockHashes scanToBlock nowMs).key =
        items := List.map_id items
    have hothers : ∀ sessionId : String, s.sessions[sessionId]? = none →
        sessionId ∉ items.map
          (hostLoop amounts s.paymentEndpoints blockHashes scanToBlock nowMs).key := by
      intro sessionId hnone hmem
      rw [hkeys] at hmem
      obtain ⟨session, claim, -, hat, -⟩ := h.scanned sessionId hmem
      exact absurd (hnone.symm.trans hat.session) (by simp)
    refine ⟨?_, fun hnone => (h.sessions _ (hothers _ hnone)).trans hnone,
      fun hnone => h.audits _ (hothers _ hnone)⟩
    intro sessionId session claim hat
    by_cases hmem : sessionId ∈ items
    · obtain ⟨session', claim', payment, hat', hpoll, hpayment, hafter⟩ := h.scanned sessionId hmem
      obtain rfl := Option.some.inj (hat'.session.symm.trans hat.session)
      obtain rfl := Option.some.inj (hat'.claim.symm.trans hat.claim)
      exact ⟨_, _, hafter, pairEvolves_scanned (state_of_needsPaymentPoll hpoll)
        (paymentStatus_ne_refunded (Fallible.toOption_eq_some.mp hpayment))⟩
    · rw [← hkeys] at hmem
      exact ⟨session, claim, ⟨(h.sessions _ hmem).trans hat.session,
        (h.claims _ hmem).trans hat.claim⟩, PairEvolves.refl _ _⟩
  unfold after
  rcases reconcileEscrowPayments_cases logs blockHashes scanToBlock nowMs s with
    ⟨e, -, hrun⟩ | ⟨amounts, -, ⟨claims, t, hrun, h⟩ | ⟨before, _, _, e, t, -, h, -, hrun⟩⟩
  · rw [hrun]
    exact Evolves.refl s
  · rw [hrun]
    exact hscanned amounts _ t h
  · rw [hrun]
    exact hscanned amounts _ t h

/-- The canister's scans. -/
theorem evolves_applyPaymentScan {updates : List (EscrowPaymentScanUpdate nowMs)} :
    Within Evolves (applyPaymentScan updates scanToBlock) := by
  have hupdate : ∀ update : EscrowPaymentScanUpdate nowMs,
      Within Evolves (applyScanUpdate scanToBlock update) := by
    intro update s
    unfold after
    by_cases hstale : ∀ session claim, At s update.guard.sessionId session claim →
        ¬ (update.guard.matchesSession session = true ∧ update.guard.matchesClaim claim = true)
    · obtain ⟨e, hrun⟩ : ∃ e, applyScanUpdate scanToBlock update s = .error e s :=
        applyScanUpdate_error hstale
      rw [hrun]
      exact Evolves.refl s
    · push Not at hstale
      obtain ⟨session, claim, hat, hsession, hclaim⟩ := hstale
      obtain ⟨t, hrun, hat', honly⟩ : ∃ t, applyScanUpdate scanToBlock update s = .ok _ t ∧ _ ∧ _ :=
        hat.applyScanUpdate hsession hclaim
      rw [hrun]
      refine Evolves.of_onlySession honly hat.session fun claim' hat'' => ?_
      obtain rfl := Option.some.inj (hat''.claim.symm.trans hat.claim)
      exact ⟨_, _, hat', pairEvolves_scanned (update.awaiting_of_matches hsession).1
        update.notRefunded⟩
  refine Within.bind Evolves.trans (Within.modify fun s => Evolves.of_eq rfl rfl rfl) fun _ => ?_
  refine Within.bind Evolves.trans (Within.mapM Evolves.refl Evolves.trans hupdate) fun _ => ?_
  exact Within.bind Evolves.trans (Within.modify fun s => Evolves.of_sameButJobs
    (sameButJobs_syncPaymentPollJob s nowMs)) fun _ => Within.pure Evolves.refl _

/-- Refund writes under their guard. -/
theorem evolves_writeRefundGuarded {α : Type} {generation : ℕ} {mutation : Update α}
    (h : Within Evolves mutation) :
    Within Evolves (writeRefundGuarded sessionId generation mutation) :=
  Within.bind Evolves.trans (Within.get Evolves.refl) fun _ =>
    Within.bind Evolves.trans (Within.ofExcept Evolves.refl _) fun _ => h

/-- Release writes under their guard. -/
theorem evolves_writeReleaseGuarded {α : Type} {guard : SpawnReleaseDraftGuard}
    {mutation : Update α} (h : Within Evolves mutation) :
    Within Evolves (writeReleaseGuarded sessionId guard mutation) :=
  Within.bind Evolves.trans (Within.get Evolves.refl) fun _ =>
    Within.bind Evolves.trans (Within.ofExcept Evolves.refl _) fun _ => h

/-- A record of a refund transaction. -/
theorem evolves_withRefundBroadcast {record : ReleaseBroadcastRecord} (s : FactoryState) :
    Evolves s (s.updateClaim sessionId (·.withRefundBroadcast record)) :=
  Evolves.updateClaim s fun _ => ⟨rfl, rfl⟩

/-- The record of a refund transaction, found by the id of its claim. -/
theorem evolves_persistRefundTransactionRecordGuarded {claimId : String}
    {record : ReleaseBroadcastRecord} {generation : ℕ} :
    Within Evolves (persistRefundTransactionRecordGuarded claimId record sessionId generation) := by
  refine evolves_writeRefundGuarded (Within.bind Evolves.trans (Within.get Evolves.refl) ?_)
  intro state
  split
  · exact Within.modify evolves_withRefundBroadcast
  · exact Within.throw Evolves.refl _

/-- The draft of a refund transaction. -/
theorem evolves_draftRefundInState {externals : Externals} {session : SpawnSession}
    {escrow : String} {config : ReleaseBroadcastConfig} {pendingNonce : ℕ} :
    Within Evolves
      (draftRefundInState externals sessionId session escrow config pendingNonce) := by
  refine Within.bind Evolves.trans (Within.get Evolves.refl) fun state => ?_
  split
  · exact Within.bind Evolves.trans (Within.ofExcept Evolves.refl _) fun _ =>
      Within.pure Evolves.refl _
  · refine Within.bind Evolves.trans (Within.ofExcept Evolves.refl _) fun _ => ?_
    refine Within.bind Evolves.trans (Within.modify fun s => Evolves.of_eq rfl rfl rfl) fun _ => ?_
    exact Within.bind Evolves.trans (Within.modify evolves_withRefundBroadcast) fun _ =>
      Within.pure Evolves.refl _

/-- A refund is recorded for a session that may be refunded. -/
theorem pairEvolves_refunded {session : SpawnSession} {claim : EscrowClaim}
    (hstate : session.state = .expired ∨ session.state = .failed) :
    PairEvolves session claim ((session.markRefunded nowMs).withDerivedFlags nowMs)
      ((claim.markRefunded nowMs).withRefundable (deriveRefundable (session.markRefunded nowMs))
        nowMs) := by
  refine ⟨rfl, rfl, rfl, ?_, fun _ _ => ⟨rfl, rfl⟩, ?_⟩
  · intro _
    refine ⟨?_, ?_, ?_, ?_, rfl, rfl⟩ <;>
      simp only [SpawnSession.withDerivedFlags_state, SpawnSession.markRefunded_state,
        SpawnSession.withDerivedFlags_paymentStatus, SpawnSession.markRefunded_paymentStatus] <;>
      rcases hstate with h | h <;> simp [h]
  · intro hcomplete
    rcases hstate with h | h <;> simp [h] at hcomplete

/-- Releasing the runtime touches runtimes only, or fails. -/
theorem run_releaseRuntime (canisterId : Option String) (nowMs : ℕ) (s : FactoryState) :
    (∃ runtimes, releaseRuntime canisterId nowMs s = .ok () { s with runtimes := runtimes }) ∨
      ∃ e, releaseRuntime canisterId nowMs s = .error e s := by
  unfold releaseRuntime
  cases canisterId with
  | none => exact .inl ⟨s.runtimes, rfl⟩
  | some canisterId =>
    simp only [run_bind, run_get]
    cases s.runtimes[canisterId]? with
    | none => exact .inr ⟨_, rfl⟩
    | some runtime => exact .inl ⟨_, rfl⟩

/-- The session, its claim and the audit log after a refund. -/
def FactoryState.refunded (state : FactoryState) (sessionId : String) (session : SpawnSession)
    (nowMs : ℕ) : FactoryState :=
  ((((state.updateSession sessionId (·.markRefunded nowMs)).updateClaim sessionId
      (·.markRefunded nowMs)).updateSession sessionId
        fun _ => (session.markRefunded nowMs).withDerivedFlags nowMs).updateClaim sessionId
          (·.withRefundable (deriveRefundable (session.markRefunded nowMs)) nowMs)).recordSessionAudit
    ⟨sessionId, nowMs, some session.state, session.state, .user,
      "refund transaction confirmed on-chain"⟩

/-- The sessions after a refund. -/
theorem FactoryState.refunded_sessions (state : FactoryState) (session : SpawnSession) :
    (state.refunded sessionId session nowMs).sessions =
      (state.updateSession sessionId
        fun _ => (session.markRefunded nowMs).withDerivedFlags nowMs).sessions := by
  simp only [FactoryState.refunded, recordSessionAudit_sessions, updateClaim_sessions,
    updateSession_sessions, BTreeMap.modify_modify]
  rfl

/-- A refund that is recorded. -/
theorem run_recordRefund {s : FactoryState} {session : SpawnSession} {refundTxHash : String}
    (hsession : s.sessions[sessionId]? = some session) :
    (∃ response runtimes, recordRefund sessionId nowMs refundTxHash s =
      .ok response (({ s with runtimes := runtimes } : FactoryState).refunded sessionId session
        nowMs)) ∨ ∃ e, recordRefund sessionId nowMs refundTxHash s = .error e s := by
  rw [recordRefund, run_bind, run_getSession hsession]
  simp only [run_bind]
  rcases run_releaseRuntime session.automatonCanisterId nowMs s with ⟨runtimes, hrun⟩ | ⟨e, hrun⟩
  · left
    have hwritten : ((({ s with runtimes := runtimes } : FactoryState).updateSession sessionId
        (·.markRefunded nowMs)).updateClaim sessionId (·.markRefunded nowMs)).sessions[sessionId]? =
          some (session.markRefunded nowMs) := by
      simp [hsession]
    refine ⟨⟨sessionId, session.state, .refunded, nowMs, some refundTxHash⟩, runtimes, ?_⟩
    rw [hrun]
    simp only [run_modify]
    rw [run_syncSessionDerivedFlagsInState hwritten]
    rfl
  · right
    exact ⟨e, by rw [hrun]⟩

/-- The state after a refund differs in the session only. -/
theorem onlySession_refunded (s : FactoryState) (session : SpawnSession) :
    OnlySession sessionId s (s.refunded sessionId session nowMs) :=
  ((((OnlySession.updateSession s _).trans (OnlySession.updateClaim _ _)).trans
    (OnlySession.updateSession _ _)).trans (OnlySession.updateClaim _ _)).trans
      (OnlySession.recordSessionAudit _ ⟨sessionId, nowMs, _, _, .user, _⟩)

/-- Session and claim after a refund. -/
theorem At.refunded {s : FactoryState} {session : SpawnSession} {claim : EscrowClaim}
    (hat : At s sessionId session claim) :
    At (s.refunded sessionId session nowMs) sessionId
      ((session.markRefunded nowMs).withDerivedFlags nowMs)
      ((claim.markRefunded nowMs).withRefundable (deriveRefundable (session.markRefunded nowMs))
        nowMs) := by
  constructor
  · simp [FactoryState.refunded, hat.session]
  · simp [FactoryState.refunded, hat.claim]

/-- What a refund that is not refused needs of the session. -/
theorem state_of_validateEscrowRefund {s : FactoryState}
    (h : validateEscrowRefundInState s sessionId nowMs = .ok none) :
    ∃ session claim, At s sessionId session claim ∧ session.paymentStatus ≠ .refunded ∧
      (session.state = .expired ∨ session.state = .failed) ∧ session.refundable = true := by
  unfold validateEscrowRefundInState at h
  split at h
  · cases h
  · cases h
  · rename_i session claim hsession hclaim
    split at h
    · cases h
    · rename_i hrefunded
      split at h
      · cases h
      · rename_i hrefused
        push Not at hrefused
        exact ⟨session, claim, ⟨hsession, hclaim⟩, hrefunded, hrefused.1, hrefused.2.1⟩

/-- The last step of a refund. -/
theorem evolves_finalizeEscrowRefundInState {refundTxHash : String} :
    Within Evolves (finalizeEscrowRefundInState sessionId nowMs refundTxHash) := by
  intro s
  unfold after
  rw [finalizeEscrowRefundInState, run_bind, run_get]
  simp only [run_bind]
  cases hvalid : validateEscrowRefundInState s sessionId nowMs with
  | error e => exact Evolves.refl s
  | ok response =>
    cases response with
    | some response => exact Evolves.refl s
    | none =>
      obtain ⟨session, claim, hat, -, hstate, -⟩ := state_of_validateEscrowRefund hvalid
      simp only [run_ofExcept_ok]
      rcases run_recordRefund hat.session with ⟨response, runtimes, hrun⟩ | ⟨e, hrun⟩
      · rw [hrun]
        have hruntimes : Evolves s { s with runtimes := runtimes } := Evolves.of_eq rfl rfl rfl
        refine hruntimes.trans (Evolves.of_onlySession (onlySession_refunded _ session)
          hat.session fun claim' hat' => ?_)
        exact ⟨_, _, hat'.refunded, pairEvolves_refunded hstate⟩
      · rw [hrun]
        exact Evolves.refl s

/-- The runtime of a worker. -/
theorem evolves_persistFailedSpawnRuntime (runtime : AutomatonRuntimeState) (s : FactoryState) :
    Evolves s (s.persistFailedSpawnRuntime sessionId runtime) :=
  (show Evolves s (s.putRuntime runtime.canisterId runtime) from Evolves.of_eq rfl rfl rfl).trans
    (Evolves.updateSession _ fun _ => ⟨rfl, rfl, rfl, rfl, rfl⟩)

/-- The writes before the event that completes a release. -/
theorem evolves_enterRegistry (externals : Externals) (session : SpawnSession)
    (release : ConfirmedRelease) (s : FactoryState) :
    Evolves s (s.enterRegistry externals sessionId session release) := by
  have hsession : Evolves s (s.updateSession sessionId (·.release release)) :=
    Evolves.updateSession s fun _ => ⟨rfl, rfl, rfl, rfl, rfl⟩
  exact hsession.trans (Evolves.of_eq rfl rfl rfl)

/-- Refund commands and retries of the steward. -/
theorem evolves_authorizeAndConsume {externals : Externals} {command : FactoryStewardCommand}
    {proof : FactoryStewardProof} {canisterId : String} {nowNs : ℕ} :
    Within Evolves (authorizeAndConsume externals command proof canisterId nowNs nowMs) := by
  have hnonce : ∀ sessionId, Within Evolves (consumeNonce sessionId) := by
    intro sessionId
    refine Within.bind Evolves.trans (Within.get Evolves.refl) fun state => ?_
    split
    · exact Within.throw Evolves.refl _
    · exact Within.modify fun s => Evolves.of_eq rfl rfl rfl
  refine Within.bind Evolves.trans (Within.get Evolves.refl) fun state => ?_
  refine Within.bind Evolves.trans (Within.ofExcept Evolves.refl _) fun _ => ?_
  cases command with
  | retrySpawnSession sessionId =>
    refine Within.map Evolves.trans Evolves.refl ?_
    refine Within.bind Evolves.trans evolves_retrySpawnSessionInState fun _ => ?_
    exact Within.bind Evolves.trans (hnonce sessionId) fun _ => Within.pure Evolves.refl _
  | claimSpawnRefund sessionId =>
    refine Within.map Evolves.trans Evolves.refl ?_
    refine Within.bind Evolves.trans (Within.get Evolves.refl) fun state => ?_
    refine Within.bind Evolves.trans (Within.ofExcept Evolves.refl _) fun generation => ?_
    refine Within.bind Evolves.trans ?_ fun _ => Within.bind Evolves.trans ?_ fun _ =>
      Within.bind Evolves.trans ?_ fun _ => Within.bind Evolves.trans
        (Within.modify fun s => Evolves.of_eq rfl rfl rfl) fun _ => Within.pure Evolves.refl _
    · refine Within.bind Evolves.trans (Within.get Evolves.refl) fun _ => ?_
      exact Within.when Evolves.refl (Within.discard Evolves.refl Evolves.trans
        evolves_applySessionEventInState)
    · refine Within.bind Evolves.trans (within_getSession Evolves.refl) fun session => ?_
      refine Within.bind Evolves.trans (within_getClaim Evolves.refl) fun claim => ?_
      split
      · exact Within.throw Evolves.refl _
      · exact Within.pure Evolves.refl _
    · refine Within.bind Evolves.trans (Within.get Evolves.refl) fun _ => ?_
      refine Within.when Evolves.refl (Within.bind Evolves.trans (hnonce sessionId) fun _ => ?_)
      exact Within.modify fun s => Evolves.of_eq rfl rfl rfl

/-- The installation of an automaton. -/
theorem evolves_installSucceededInState {canisterId evmAddress : Option String}
    {installed : Option AutomatonRuntimeState} :
    Within Evolves
      (installSucceededInState sessionId canisterId evmAddress installed nowMs reason) := by
  refine Within.bind Evolves.trans (Within.modify fun s => ?_) fun _ =>
    Within.bind Evolves.trans (Within.modify fun s => Evolves.updateSession s fun _ =>
      ⟨rfl, rfl, rfl, rfl, rfl⟩) fun _ => evolves_applySessionEventInState
  cases installed with
  | none => exact Evolves.refl s
  | some runtime => exact Evolves.of_eq rfl rfl rfl

/-- The failure of a spawn. -/
theorem evolves_failSpawnInState {externals : Externals} {runtime : Option AutomatonRuntimeState}
    {error : FactoryError} :
    Within Evolves (failSpawnInState externals sessionId nowMs reason runtime error) := by
  refine Within.bind Evolves.trans (Within.modify fun s => ?_) fun _ =>
    evolves_markSessionFailedInState
  cases runtime with
  | none => exact Evolves.refl s
  | some runtime => exact evolves_persistFailedSpawnRuntime runtime s

/-- The completion of a release. -/
theorem evolves_completeRelease {externals : Externals} {release : ConfirmedRelease} :
    Within Evolves (completeRelease externals sessionId release) :=
  Within.bind Evolves.trans (within_getSession Evolves.refl) fun session =>
    Within.bind Evolves.trans (Within.modify (evolves_enterRegistry externals session release))
      fun _ => evolves_applySessionEventInState

/-- Clearing a refund touches no session. -/
theorem evolves_clearRefundInFlight (generation : ℕ) (s : FactoryState) :
    Evolves s (s.clearRefundInFlight sessionId generation) := by
  unfold FactoryState.clearRefundInFlight
  split
  · exact Evolves.of_eq rfl rfl rfl
  · exact Evolves.refl s

end Updates

/-- Every write but the creation of a session lets the sessions evolve. -/
theorem evolves_perform (libraries : Libraries) {op : Op}
    (hop : ∀ request sessionId origin nowMs, op ≠ .createSpawnSession request sessionId origin nowMs) :
    Within Evolves (op.perform libraries) := by
  cases op with
  | createSpawnSession request sessionId origin nowMs => exact absurd rfl (hop _ _ _ _)
  | reconcileEscrowPayments => exact evolves_reconcileEscrowPayments
  | applyPaymentScan => exact evolves_applyPaymentScan
  | authorizeAndConsume => exact evolves_authorizeAndConsume
  | clearRefundInFlight => exact Within.modify (evolves_clearRefundInFlight _)
  | persistRefundBroadcastRecord =>
    exact evolves_writeRefundGuarded (Within.modify evolves_withRefundBroadcast)
  | persistRefundTransactionRecord => exact evolves_persistRefundTransactionRecordGuarded
  | draftRefund => exact evolves_writeRefundGuarded evolves_draftRefundInState
  | finalizeEscrowRefund => exact evolves_writeRefundGuarded evolves_finalizeEscrowRefundInState
  | setFactoryEvmAddress => exact Within.modify fun s => Evolves.of_eq rfl rfl rfl
  | startSpawn => exact evolves_applySessionEventInState
  | failSpawn => exact evolves_failSpawnInState
  | persistSpawnRuntime => exact Within.modify (evolves_persistFailedSpawnRuntime _)
  | installSucceeded => exact evolves_installSucceededInState
  | reserveReleaseNonce =>
    exact Within.bind Evolves.trans (Within.get Evolves.refl) fun _ =>
      Within.bind Evolves.trans (Within.modify fun s => Evolves.of_eq rfl rfl rfl) fun _ =>
        Within.pure Evolves.refl _
  | persistReleaseBroadcastRecord =>
    exact evolves_writeReleaseGuarded (Within.modify fun s => Evolves.updateSession s fun _ =>
      ⟨rfl, rfl, rfl, rfl, rfl⟩)
  | finalizeConfirmedRelease => exact evolves_writeReleaseGuarded evolves_completeRelease
  | retryFailedSession => exact evolves_retrySpawnSessionInState
  | markSessionFailed => exact evolves_markSessionFailedInState
  | expireSpawnSession => exact evolves_applySessionEventInState

end Automaton.Factory
