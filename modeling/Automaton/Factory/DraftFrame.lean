import Automaton.Factory.Operations

/-!
# Writes that leave nonces and drafts alone

The nonces of the factory's transactions and the drafts of its refunds are written by the
reservation of a nonce and by the writes of refunds. Every other write leaves the next nonce as it
is and stores no record of a refund transaction.
-/

namespace Automaton.Factory

open Persist

/-- The next nonce is the same, and what is recorded of refund transactions was recorded before. -/
structure KeepsDrafts (s t : FactoryState) : Prop where
  nonce : t.nextReleaseNonce = s.nextReleaseNonce
  drafts : ∀ (sessionId : String) (claim : EscrowClaim) (record : ReleaseBroadcastRecord),
    t.escrowClaims[sessionId]? = some claim → claim.refundBroadcast = some record →
      ∃ earlier, s.escrowClaims[sessionId]? = some earlier ∧ earlier.refundBroadcast = some record

namespace KeepsDrafts

variable {s t u : FactoryState} {sessionId : String}

protected theorem refl (s : FactoryState) : KeepsDrafts s s :=
  ⟨rfl, fun _ claim _ hclaim hrecord => ⟨claim, hclaim, hrecord⟩⟩

protected theorem trans (h : KeepsDrafts s t) (h' : KeepsDrafts t u) : KeepsDrafts s u where
  nonce := h'.nonce.trans h.nonce
  drafts sessionId claim record hclaim hrecord := by
    obtain ⟨middle, hmiddle, hrecord'⟩ := h'.drafts sessionId claim record hclaim hrecord
    exact h.drafts sessionId middle record hmiddle hrecord'

/-- Writes to other parts of the state. -/
theorem of_eq (hnonce : t.nextReleaseNonce = s.nextReleaseNonce)
    (hclaims : t.escrowClaims = s.escrowClaims) : KeepsDrafts s t where
  nonce := hnonce
  drafts _ claim _ hclaim hrecord := ⟨claim, hclaims ▸ hclaim, hrecord⟩

/-- Scheduling. -/
theorem of_sameButJobs (h : SameButJobs s t) : KeepsDrafts s t := by
  obtain ⟨jobs, rfl⟩ := h
  exact of_eq rfl rfl

/-- A write to a claim that is not about its refund transaction. -/
theorem updateClaim (s : FactoryState) {f : EscrowClaim → EscrowClaim}
    (hf : ∀ claim, (f claim).refundBroadcast = claim.refundBroadcast) :
    KeepsDrafts s (s.updateClaim sessionId f) where
  nonce := rfl
  drafts other claim record hclaim hrecord := by
    rw [FactoryState.updateClaim_escrowClaims, BTreeMap.get?_modify] at hclaim
    split at hclaim
    · obtain ⟨earlier, hearlier, rfl⟩ := Option.map_eq_some_iff.mp hclaim
      exact ⟨earlier, hearlier, (hf earlier).symm.trans hrecord⟩
    · exact ⟨claim, hclaim, hrecord⟩

/-- A new claim has no refund transaction. -/
theorem registerEscrowClaim (s : FactoryState) (session : SpawnSession) (nowMs : ℕ) :
    KeepsDrafts s (s.registerEscrowClaim session nowMs) where
  nonce := rfl
  drafts other claim record hclaim hrecord := by
    rw [FactoryState.registerEscrowClaim_escrowClaims, BTreeMap.get?_insert] at hclaim
    split at hclaim
    · obtain rfl := Option.some.inj hclaim
      cases hrecord
    · exact ⟨claim, hclaim, hrecord⟩

end KeepsDrafts

section Updates

variable {sessionId : String} {nowMs scanToBlock : ℕ} {actor : SessionAuditActor}
  {event : SpawnSessionEvent} {reason : String}

theorem keepsDrafts_syncSessionDerivedFlagsInState :
    Within KeepsDrafts (syncSessionDerivedFlagsInState sessionId nowMs) := by
  refine Within.bind KeepsDrafts.trans (within_getSession KeepsDrafts.refl) fun session => ?_
  refine Within.bind KeepsDrafts.trans
    (Within.modify fun s => KeepsDrafts.of_eq rfl rfl) fun _ => ?_
  exact Within.bind KeepsDrafts.trans
    (Within.modify fun s => KeepsDrafts.updateClaim s fun _ => rfl) fun _ =>
      Within.pure KeepsDrafts.refl _

/-- Events. -/
theorem keepsDrafts_applySessionEventInState :
    Within KeepsDrafts (applySessionEventInState sessionId actor nowMs event reason) := by
  intro s
  rcases applySessionEventInState_cases sessionId actor nowMs event reason s with
    ⟨e, hrun⟩ | ⟨session, hrun, -⟩ | ⟨session, transition, -, -, hrun⟩
  · rw [after_of_error hrun]
    exact KeepsDrafts.refl s
  · rw [after_of_ok hrun]
    exact KeepsDrafts.refl s
  · rw [after_of_ok hrun]
    have hsession : KeepsDrafts s (s.updateSession sessionId fun _ =>
        (session.enter transition nowMs s.sessionTtlMs).withDerivedFlags nowMs) :=
      KeepsDrafts.of_eq rfl rfl
    refine (hsession.trans (KeepsDrafts.updateClaim _ fun _ => ?_)).trans
      (KeepsDrafts.of_eq rfl rfl)
    rfl

theorem keepsDrafts_markSessionFailedInState :
    Within KeepsDrafts (markSessionFailedInState sessionId actor nowMs reason) := by
  refine Within.bind KeepsDrafts.trans keepsDrafts_applySessionEventInState fun session => ?_
  split
  · exact Within.bind KeepsDrafts.trans (Within.modify fun s => KeepsDrafts.of_sameButJobs
      (sameButJobs_enqueueSpawnExecution s sessionId nowMs)) fun _ =>
        Within.pure KeepsDrafts.refl _
  · exact Within.pure KeepsDrafts.refl _

theorem keepsDrafts_retrySpawnSessionInState :
    Within KeepsDrafts (retrySpawnSessionInState sessionId actor nowMs reason) := by
  refine Within.bind KeepsDrafts.trans keepsDrafts_applySessionEventInState fun session => ?_
  exact Within.bind KeepsDrafts.trans (Within.modify fun s => KeepsDrafts.of_sameButJobs
    (sameButJobs_enqueueSpawnExecution s sessionId nowMs)) fun _ => Within.pure KeepsDrafts.refl _

/-- Recording a payment. -/
theorem keepsDrafts_recordPayment {payment : ObservedPayment} :
    Within KeepsDrafts (recordPayment sessionId payment scanToBlock nowMs) := by
  refine Within.bind KeepsDrafts.trans (within_getClaim KeepsDrafts.refl) fun _ => ?_
  refine Within.bind KeepsDrafts.trans
    (Within.modify fun s => KeepsDrafts.updateClaim s fun _ => rfl) fun _ => ?_
  refine Within.bind KeepsDrafts.trans (within_getSession KeepsDrafts.refl) fun _ => ?_
  exact Within.bind KeepsDrafts.trans (Within.modify fun s => KeepsDrafts.of_eq rfl rfl)
    fun _ => keepsDrafts_syncSessionDerivedFlagsInState

theorem keepsDrafts_advanceAfterPayment {detected : Bool} {expiresAt : ℕ} :
    Within KeepsDrafts (advanceAfterPayment sessionId detected expiresAt nowMs) := by
  refine Within.bind KeepsDrafts.trans (Within.when KeepsDrafts.refl ?_) fun _ =>
    Within.bind KeepsDrafts.trans (Within.when KeepsDrafts.refl ?_) fun _ =>
      within_getClaim KeepsDrafts.refl
  · refine Within.bind KeepsDrafts.trans keepsDrafts_applySessionEventInState fun _ => ?_
    exact Within.modify fun s => KeepsDrafts.of_sameButJobs
      (sameButJobs_enqueueSpawnExecution s sessionId nowMs)
  · exact Within.discard KeepsDrafts.refl KeepsDrafts.trans keepsDrafts_applySessionEventInState

/-- The host's scans. -/
theorem keepsDrafts_reconcileEscrowPayments {logs : List BaseDepositLog}
    {blockHashes : BlockHashes} :
    Within KeepsDrafts (reconcileEscrowPayments logs blockHashes scanToBlock nowMs) := by
  refine Within.bind KeepsDrafts.trans (Within.ofExcept KeepsDrafts.refl _) fun amounts => ?_
  refine Within.bind KeepsDrafts.trans (Within.modify fun s => KeepsDrafts.of_eq rfl rfl)
    fun _ => ?_
  refine Within.bind KeepsDrafts.trans (Within.get KeepsDrafts.refl) fun state => ?_
  refine Within.bind KeepsDrafts.trans
    (Within.mapM KeepsDrafts.refl KeepsDrafts.trans fun sessionId => ?_) fun _ =>
      Within.bind KeepsDrafts.trans (Within.modify fun s => KeepsDrafts.of_sameButJobs
        (sameButJobs_syncPaymentPollJob s nowMs)) fun _ => Within.pure KeepsDrafts.refl _
  refine Within.bind KeepsDrafts.trans (within_getSession KeepsDrafts.refl) fun session => ?_
  refine Within.bind KeepsDrafts.trans (within_getClaim KeepsDrafts.refl) fun claim => ?_
  refine Within.bind KeepsDrafts.trans (Within.ofExcept KeepsDrafts.refl _) fun payment => ?_
  exact Within.bind KeepsDrafts.trans keepsDrafts_recordPayment fun _ =>
    keepsDrafts_advanceAfterPayment

/-- The canister's scans. -/
theorem keepsDrafts_applyPaymentScan {updates : List (EscrowPaymentScanUpdate nowMs)} :
    Within KeepsDrafts (applyPaymentScan updates scanToBlock) := by
  refine Within.bind KeepsDrafts.trans (Within.modify fun s => KeepsDrafts.of_eq rfl rfl)
    fun _ => ?_
  refine Within.bind KeepsDrafts.trans
    (Within.mapM KeepsDrafts.refl KeepsDrafts.trans fun update => ?_) fun _ =>
      Within.bind KeepsDrafts.trans (Within.modify fun s => KeepsDrafts.of_sameButJobs
        (sameButJobs_syncPaymentPollJob s nowMs)) fun _ => Within.pure KeepsDrafts.refl _
  unfold applyScanUpdate
  refine Within.bind KeepsDrafts.trans (Within.get KeepsDrafts.refl) fun state => ?_
  refine Within.bind KeepsDrafts.trans (Within.ofExcept KeepsDrafts.refl _) fun _ => ?_
  refine Within.bind KeepsDrafts.trans keepsDrafts_recordPayment fun _ => ?_
  exact Within.bind KeepsDrafts.trans (within_getSession KeepsDrafts.refl) fun session =>
    keepsDrafts_advanceAfterPayment

/-- The creation of a session. -/
theorem keepsDrafts_createSpawnSessionWithSessionId {externals : SessionExternals}
    {request : CreateSpawnSessionRequest} {origin : SessionOrigin} :
    Within KeepsDrafts
      (createSpawnSessionWithSessionId externals request sessionId origin nowMs) := by
  refine Within.bind KeepsDrafts.trans (Within.ofExcept KeepsDrafts.refl _) fun request => ?_
  refine Within.bind KeepsDrafts.trans ?_ fun session =>
    Within.bind KeepsDrafts.trans (Within.modify fun s => KeepsDrafts.registerEscrowClaim s _ _)
      fun _ => Within.bind KeepsDrafts.trans (Within.modify fun s => KeepsDrafts.of_sameButJobs
        (sameButJobs_syncPaymentPollJob s nowMs)) fun _ => Within.pure KeepsDrafts.refl _
  refine Within.bind KeepsDrafts.trans (Within.get KeepsDrafts.refl) fun state => ?_
  refine Within.bind KeepsDrafts.trans (Within.ofExcept KeepsDrafts.refl _) fun amounts => ?_
  refine Within.bind KeepsDrafts.trans (Within.modify fun s => KeepsDrafts.of_eq rfl rfl)
    fun _ => ?_
  exact Within.bind KeepsDrafts.trans keepsDrafts_applySessionEventInState fun _ =>
    Within.pure KeepsDrafts.refl _

/-- The commands of a steward. -/
theorem keepsDrafts_authorizeAndConsume {externals : Externals} {command : FactoryStewardCommand}
    {proof : FactoryStewardProof} {canisterId : String} {nowNs : ℕ} :
    Within KeepsDrafts (authorizeAndConsume externals command proof canisterId nowNs nowMs) := by
  have hnonce : ∀ sessionId, Within KeepsDrafts (consumeNonce sessionId) := by
    intro sessionId
    refine Within.bind KeepsDrafts.trans (Within.get KeepsDrafts.refl) fun state => ?_
    split
    · exact Within.throw KeepsDrafts.refl _
    · exact Within.modify fun s => KeepsDrafts.of_eq rfl rfl
  refine Within.bind KeepsDrafts.trans (Within.get KeepsDrafts.refl) fun state => ?_
  refine Within.bind KeepsDrafts.trans (Within.ofExcept KeepsDrafts.refl _) fun _ => ?_
  cases command with
  | retrySpawnSession sessionId =>
    refine Within.map KeepsDrafts.trans KeepsDrafts.refl ?_
    refine Within.bind KeepsDrafts.trans keepsDrafts_retrySpawnSessionInState fun _ => ?_
    exact Within.bind KeepsDrafts.trans (hnonce sessionId) fun _ => Within.pure KeepsDrafts.refl _
  | claimSpawnRefund sessionId =>
    refine Within.map KeepsDrafts.trans KeepsDrafts.refl ?_
    refine Within.bind KeepsDrafts.trans (Within.get KeepsDrafts.refl) fun state => ?_
    refine Within.bind KeepsDrafts.trans (Within.ofExcept KeepsDrafts.refl _) fun generation => ?_
    refine Within.bind KeepsDrafts.trans ?_ fun _ => Within.bind KeepsDrafts.trans ?_ fun _ =>
      Within.bind KeepsDrafts.trans ?_ fun _ => Within.bind KeepsDrafts.trans
        (Within.modify fun s => KeepsDrafts.of_eq rfl rfl) fun _ => Within.pure KeepsDrafts.refl _
    · refine Within.bind KeepsDrafts.trans (Within.get KeepsDrafts.refl) fun _ => ?_
      exact Within.when KeepsDrafts.refl (Within.discard KeepsDrafts.refl KeepsDrafts.trans
        keepsDrafts_applySessionEventInState)
    · refine Within.bind KeepsDrafts.trans (within_getSession KeepsDrafts.refl) fun session => ?_
      refine Within.bind KeepsDrafts.trans (within_getClaim KeepsDrafts.refl) fun claim => ?_
      split
      · exact Within.throw KeepsDrafts.refl _
      · exact Within.pure KeepsDrafts.refl _
    · refine Within.bind KeepsDrafts.trans (Within.get KeepsDrafts.refl) fun _ => ?_
      refine Within.when KeepsDrafts.refl (Within.bind KeepsDrafts.trans (hnonce sessionId)
        fun _ => ?_)
      exact Within.modify fun s => KeepsDrafts.of_eq rfl rfl

/-- The last step of a refund. -/
theorem keepsDrafts_finalizeEscrowRefundInState {refundTxHash : String} :
    Within KeepsDrafts (finalizeEscrowRefundInState sessionId nowMs refundTxHash) := by
  refine Within.bind KeepsDrafts.trans (Within.get KeepsDrafts.refl) fun state => ?_
  refine Within.bind KeepsDrafts.trans (Within.ofExcept KeepsDrafts.refl _) fun response => ?_
  split
  · exact Within.pure KeepsDrafts.refl _
  · refine Within.bind KeepsDrafts.trans (within_getSession KeepsDrafts.refl) fun session => ?_
    refine Within.bind KeepsDrafts.trans ?_ fun _ => ?_
    · unfold releaseRuntime
      split
      · exact Within.pure KeepsDrafts.refl _
      · refine Within.bind KeepsDrafts.trans (Within.get KeepsDrafts.refl) fun state => ?_
        split
        · exact Within.throw KeepsDrafts.refl _
        · exact Within.modify fun s => KeepsDrafts.of_eq rfl rfl
    · refine Within.bind KeepsDrafts.trans (Within.modify fun s => KeepsDrafts.of_eq rfl rfl)
        fun _ => ?_
      refine Within.bind KeepsDrafts.trans
        (Within.modify fun s => KeepsDrafts.updateClaim s fun _ => rfl) fun _ => ?_
      refine Within.bind KeepsDrafts.trans keepsDrafts_syncSessionDerivedFlagsInState fun _ => ?_
      exact Within.bind KeepsDrafts.trans (Within.modify fun s => KeepsDrafts.of_eq rfl rfl)
        fun _ => Within.pure KeepsDrafts.refl _

/-- A write under the guard of a release. -/
theorem keepsDrafts_writeReleaseGuarded {α : Type} {guard : SpawnReleaseDraftGuard}
    {mutation : Update α} (h : Within KeepsDrafts mutation) :
    Within KeepsDrafts (writeReleaseGuarded sessionId guard mutation) :=
  Within.bind KeepsDrafts.trans (Within.get KeepsDrafts.refl) fun _ =>
    Within.bind KeepsDrafts.trans (Within.ofExcept KeepsDrafts.refl _) fun _ => h

/-- A write under the guard of a refund. -/
theorem keepsDrafts_writeRefundGuarded {α : Type} {generation : ℕ} {mutation : Update α}
    (h : Within KeepsDrafts mutation) :
    Within KeepsDrafts (writeRefundGuarded sessionId generation mutation) :=
  Within.bind KeepsDrafts.trans (Within.get KeepsDrafts.refl) fun _ =>
    Within.bind KeepsDrafts.trans (Within.ofExcept KeepsDrafts.refl _) fun _ => h

end Updates

/-- An operation that reserves a nonce or stores the record of a refund transaction. -/
def Op.draftsTransactions : Op → Bool
  | .persistRefundBroadcastRecord .. => true
  | .persistRefundTransactionRecord .. => true
  | .draftRefund .. => true
  | .reserveReleaseNonce .. => true
  | _ => false

/-- Every other operation leaves nonces and drafts alone. -/
theorem keepsDrafts_apply (libraries : Libraries) {op : Op}
    (hop : op.draftsTransactions = false) (state : FactoryState) :
    KeepsDrafts state (op.apply libraries state) := by
  have hperform : Within KeepsDrafts (op.perform libraries) := by
    cases op with
    | createSpawnSession => exact keepsDrafts_createSpawnSessionWithSessionId
    | reconcileEscrowPayments => exact keepsDrafts_reconcileEscrowPayments
    | applyPaymentScan => exact keepsDrafts_applyPaymentScan
    | authorizeAndConsume => exact keepsDrafts_authorizeAndConsume
    | clearRefundInFlight sessionId generation =>
      refine Within.modify fun s => ?_
      unfold FactoryState.clearRefundInFlight
      split
      · exact KeepsDrafts.of_eq rfl rfl
      · exact KeepsDrafts.refl s
    | finalizeEscrowRefund =>
      exact keepsDrafts_writeRefundGuarded keepsDrafts_finalizeEscrowRefundInState
    | setFactoryEvmAddress => exact Within.modify fun s => KeepsDrafts.of_eq rfl rfl
    | startSpawn => exact keepsDrafts_applySessionEventInState
    | failSpawn sessionId nowMs reason runtime error =>
      refine Within.bind KeepsDrafts.trans (Within.modify fun s => ?_) fun _ =>
        keepsDrafts_markSessionFailedInState
      cases runtime with
      | none => exact KeepsDrafts.refl s
      | some runtime => exact KeepsDrafts.of_eq rfl rfl
    | persistSpawnRuntime => exact Within.modify fun s => KeepsDrafts.of_eq rfl rfl
    | installSucceeded sessionId canisterId evmAddress installed nowMs reason =>
      refine Within.bind KeepsDrafts.trans (Within.modify fun s => ?_) fun _ =>
        Within.bind KeepsDrafts.trans (Within.modify fun s => KeepsDrafts.of_eq rfl rfl)
          fun _ => keepsDrafts_applySessionEventInState
      cases installed with
      | none => exact KeepsDrafts.refl s
      | some runtime => exact KeepsDrafts.of_eq rfl rfl
    | persistReleaseBroadcastRecord =>
      exact keepsDrafts_writeReleaseGuarded (Within.modify fun s => KeepsDrafts.of_eq rfl rfl)
    | finalizeConfirmedRelease =>
      refine keepsDrafts_writeReleaseGuarded ?_
      exact Within.bind KeepsDrafts.trans (within_getSession KeepsDrafts.refl) fun session =>
        Within.bind KeepsDrafts.trans (Within.modify fun s => KeepsDrafts.of_eq rfl rfl)
          fun _ => keepsDrafts_applySessionEventInState
    | retryFailedSession => exact keepsDrafts_retrySpawnSessionInState
    | markSessionFailed => exact keepsDrafts_markSessionFailedInState
    | expireSpawnSession => exact keepsDrafts_applySessionEventInState
    | persistRefundBroadcastRecord => cases hop
    | persistRefundTransactionRecord => cases hop
    | draftRefund => cases hop
    | reserveReleaseNonce => cases hop
  exact hperform state

end Automaton.Factory
