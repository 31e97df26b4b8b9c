import Automaton.Factory.Writes

/-!
# Writes that make no entries

The registry is written by releases, and the leases of refund commands by the steward's commands and
their ends. Every other write leaves both as they are.
-/

namespace Automaton.Factory

open Machine Persist

/-- What the steward's commands and the releases enter: the registry and the leases of the refund
commands. -/
def FactoryState.entries (state : FactoryState) :
    BTreeMap String SpawnedAutomatonRecord × BTreeMap String RefundCommandLease :=
  (state.registry, state.stewardRefundLeases)

/-- The registry and the leases are the same. -/
def SameEntries (s t : FactoryState) : Prop := t.entries = s.entries

namespace SameEntries

variable {s t u : FactoryState} {sessionId : String} {α β : Type} {m : Update α}
  {f : α → Update β}

protected theorem refl (s : FactoryState) : SameEntries s s := rfl

protected theorem trans (h : SameEntries s t) (h' : SameEntries t u) : SameEntries s u :=
  Eq.trans h' h

theorem registry (h : SameEntries s t) : t.registry = s.registry := congrArg Prod.fst h

theorem leases (h : SameEntries s t) : t.stewardRefundLeases = s.stewardRefundLeases :=
  congrArg Prod.snd h

theorem of_onlySession (h : OnlySession sessionId s t) : SameEntries s t := by
  unfold SameEntries
  rw [h.frame]
  rfl

theorem of_sameButJobs (h : SameButJobs s t) : SameEntries s t := by
  obtain ⟨jobs, rfl⟩ := h
  rfl

theorem bind (hm : Within SameEntries m) (hf : ∀ a, Within SameEntries (f a)) :
    Within SameEntries (m >>= f) :=
  Within.bind SameEntries.trans hm hf

theorem pure (a : α) : Within SameEntries (pure a : Update α) := Within.pure SameEntries.refl a

theorem get : Within SameEntries (get : Update FactoryState) := Within.get SameEntries.refl

theorem throw (error : FactoryError) : Within SameEntries (throw error : Update α) :=
  Within.throw SameEntries.refl error

theorem ofExcept (result : Except FactoryError α) :
    Within SameEntries (ofExcept result : Update α) :=
  Within.ofExcept SameEntries.refl result

/-- An operation on one session. -/
theorem session (h : Within (OnlySession sessionId) m) : Within SameEntries m :=
  fun s => of_onlySession (h s)

/-- A write to another part of the state. -/
theorem modify {g : FactoryState → FactoryState} (h : ∀ s, SameEntries s (g s)) :
    Within SameEntries (modify g : Update PUnit) :=
  Within.modify h

end SameEntries

section Updates

variable {sessionId : String} {nowMs scanToBlock : ℕ} {actor : SessionAuditActor}
  {event : SpawnSessionEvent} {reason : String} {externals : Externals}

theorem sameEntries_applySessionEventInState :
    Within SameEntries (applySessionEventInState sessionId actor nowMs event reason) :=
  SameEntries.session within_applySessionEventInState

theorem sameEntries_markSessionFailedInState :
    Within SameEntries (markSessionFailedInState sessionId actor nowMs reason) := by
  refine SameEntries.bind sameEntries_applySessionEventInState fun session => ?_
  split
  · exact SameEntries.bind (SameEntries.modify fun s => .of_sameButJobs
      (sameButJobs_enqueueSpawnExecution s sessionId nowMs)) fun _ => SameEntries.pure _
  · exact SameEntries.pure _

/-- The host's scans. -/
theorem sameEntries_reconcileEscrowPayments {logs : List BaseDepositLog}
    {blockHashes : BlockHashes} :
    Within SameEntries (reconcileEscrowPayments logs blockHashes scanToBlock nowMs) := by
  refine SameEntries.bind (SameEntries.ofExcept _) fun amounts => ?_
  refine SameEntries.bind (SameEntries.modify fun s => .refl _) fun _ => ?_
  refine SameEntries.bind SameEntries.get fun state => ?_
  refine SameEntries.bind (Within.mapM SameEntries.refl SameEntries.trans fun sessionId =>
    SameEntries.session onlySession_reconcileSession) fun _ => ?_
  exact SameEntries.bind (SameEntries.modify fun s => .of_sameButJobs
    (sameButJobs_syncPaymentPollJob s nowMs)) fun _ => SameEntries.pure _

/-- The canister's scans. -/
theorem sameEntries_applyPaymentScan {updates : List (EscrowPaymentScanUpdate nowMs)} :
    Within SameEntries (applyPaymentScan updates scanToBlock) := by
  refine SameEntries.bind (SameEntries.modify fun s => .refl _) fun _ => ?_
  refine SameEntries.bind (Within.mapM SameEntries.refl SameEntries.trans fun update => ?_) fun _ =>
    SameEntries.bind (SameEntries.modify fun s => .of_sameButJobs
      (sameButJobs_syncPaymentPollJob s nowMs)) fun _ => SameEntries.pure _
  refine SameEntries.bind SameEntries.get fun state => ?_
  refine SameEntries.bind (SameEntries.ofExcept _) fun _ => ?_
  refine SameEntries.bind (SameEntries.session onlySession_recordPayment) fun _ => ?_
  exact SameEntries.bind (within_getSession SameEntries.refl) fun session =>
    SameEntries.session onlySession_advanceAfterPayment

/-- The creation of a session. -/
theorem sameEntries_createSpawnSessionWithSessionId {externals : SessionExternals}
    {request : CreateSpawnSessionRequest} {origin : SessionOrigin} :
    Within SameEntries
      (createSpawnSessionWithSessionId externals request sessionId origin nowMs) := by
  refine SameEntries.bind (SameEntries.ofExcept _) fun request => ?_
  refine SameEntries.bind ?_ fun session =>
    SameEntries.bind (SameEntries.modify fun s => .refl _) fun _ =>
      SameEntries.bind (SameEntries.modify fun s => .of_sameButJobs
        (sameButJobs_syncPaymentPollJob s nowMs)) fun _ => SameEntries.pure _
  refine SameEntries.bind SameEntries.get fun state => ?_
  refine SameEntries.bind (SameEntries.ofExcept _) fun amounts => ?_
  refine SameEntries.bind (SameEntries.modify fun s => .refl _) fun _ => ?_
  exact SameEntries.bind sameEntries_applySessionEventInState fun _ => SameEntries.pure _

theorem sameEntries_writeRefundGuarded {α : Type} {generation : ℕ} {mutation : Update α}
    (h : Within SameEntries mutation) :
    Within SameEntries (writeRefundGuarded sessionId generation mutation) :=
  SameEntries.bind SameEntries.get fun _ => SameEntries.bind (SameEntries.ofExcept _) fun _ => h

theorem sameEntries_writeReleaseGuarded {α : Type} {guard : SpawnReleaseDraftGuard}
    {mutation : Update α} (h : Within SameEntries mutation) :
    Within SameEntries (writeReleaseGuarded sessionId guard mutation) :=
  SameEntries.bind SameEntries.get fun _ => SameEntries.bind (SameEntries.ofExcept _) fun _ => h

theorem sameEntries_persistRefundTransactionRecordGuarded {claimId : String}
    {record : ReleaseBroadcastRecord} {generation : ℕ} :
    Within SameEntries
      (persistRefundTransactionRecordGuarded claimId record sessionId generation) := by
  refine sameEntries_writeRefundGuarded (SameEntries.bind SameEntries.get fun state => ?_)
  split
  · exact SameEntries.modify fun s => .refl _
  · exact SameEntries.throw _

theorem sameEntries_draftRefundInState {session : SpawnSession} {escrow : String}
    {config : ReleaseBroadcastConfig} {pendingNonce : ℕ} :
    Within SameEntries
      (draftRefundInState externals sessionId session escrow config pendingNonce) := by
  refine SameEntries.bind SameEntries.get fun state => ?_
  split
  · exact SameEntries.bind (SameEntries.ofExcept _) fun _ => SameEntries.pure _
  · refine SameEntries.bind (SameEntries.ofExcept _) fun _ => ?_
    refine SameEntries.bind (SameEntries.modify fun s => .refl _) fun _ => ?_
    exact SameEntries.bind (SameEntries.modify fun s => .refl _) fun _ => SameEntries.pure _

/-- The last write of a refund. -/
theorem sameEntries_finalizeEscrowRefundInState {refundTxHash : String} :
    Within SameEntries (finalizeEscrowRefundInState sessionId nowMs refundTxHash) := by
  refine SameEntries.bind SameEntries.get fun state => ?_
  refine SameEntries.bind (SameEntries.ofExcept _) fun response => ?_
  split
  · exact SameEntries.pure _
  · refine SameEntries.bind (within_getSession SameEntries.refl) fun session => ?_
    refine SameEntries.bind ?_ fun _ => ?_
    · unfold releaseRuntime
      split
      · exact SameEntries.pure _
      · refine SameEntries.bind SameEntries.get fun state => ?_
        split
        · exact SameEntries.throw _
        · exact SameEntries.modify fun s => .refl _
    · refine SameEntries.bind (SameEntries.modify fun s => .refl _) fun _ => ?_
      refine SameEntries.bind (SameEntries.modify fun s => .refl _) fun _ => ?_
      refine SameEntries.bind (SameEntries.session onlySession_syncSessionDerivedFlagsInState)
        fun _ => ?_
      exact SameEntries.bind (SameEntries.modify fun s => .refl _) fun _ => SameEntries.pure _

theorem sameEntries_consumeNonce : Within SameEntries (consumeNonce sessionId) := by
  refine SameEntries.bind SameEntries.get fun state => ?_
  split
  · exact SameEntries.throw _
  · exact SameEntries.modify fun s => .refl _

theorem sameEntries_acceptRefund : Within SameEntries (acceptRefund sessionId) := by
  refine SameEntries.bind SameEntries.get fun state => ?_
  exact Within.when SameEntries.refl
    (SameEntries.bind sameEntries_consumeNonce fun _ => SameEntries.modify fun s => .refl _)

theorem sameEntries_authorizeRetry : Within SameEntries (authorizeRetry sessionId nowMs) := by
  refine SameEntries.bind (SameEntries.session onlySession_retrySpawnSessionInState) fun _ => ?_
  exact SameEntries.bind sameEntries_consumeNonce fun _ => SameEntries.pure _

end Updates

/-- A command, the end of one, or a release. -/
def Op.makesEntries : Op → Bool
  | .authorizeAndConsume .. => true
  | .clearRefundInFlight .. => true
  | .finalizeConfirmedRelease .. => true
  | _ => false

/-- Every other operation leaves the entries as they are. -/
theorem sameEntries_apply (libraries : Libraries) {op : Op} (hop : op.makesEntries = false)
    (state : FactoryState) : SameEntries state (op.apply libraries state) := by
  have hperform : Within SameEntries (op.perform libraries) := by
    cases op with
    | createSpawnSession => exact sameEntries_createSpawnSessionWithSessionId
    | reconcileEscrowPayments => exact sameEntries_reconcileEscrowPayments
    | applyPaymentScan => exact sameEntries_applyPaymentScan
    | persistRefundBroadcastRecord =>
      exact sameEntries_writeRefundGuarded (SameEntries.modify fun s => .refl _)
    | persistRefundTransactionRecord => exact sameEntries_persistRefundTransactionRecordGuarded
    | draftRefund => exact sameEntries_writeRefundGuarded sameEntries_draftRefundInState
    | finalizeEscrowRefund =>
      exact sameEntries_writeRefundGuarded sameEntries_finalizeEscrowRefundInState
    | setFactoryEvmAddress => exact SameEntries.modify fun s => .refl _
    | startSpawn => exact sameEntries_applySessionEventInState
    | failSpawn sessionId nowMs reason runtime error =>
      refine SameEntries.bind (SameEntries.modify fun s => ?_) fun _ =>
        sameEntries_markSessionFailedInState
      cases runtime <;> exact .refl _
    | persistSpawnRuntime => exact SameEntries.modify fun s => .refl _
    | installSucceeded sessionId canisterId evmAddress installed nowMs reason =>
      refine SameEntries.bind (SameEntries.modify fun s => ?_) fun _ =>
        SameEntries.bind (SameEntries.modify fun s => .refl _) fun _ =>
          sameEntries_applySessionEventInState
      cases installed <;> exact .refl _
    | reserveReleaseNonce =>
      exact SameEntries.bind SameEntries.get fun _ =>
        SameEntries.bind (SameEntries.modify fun s => .refl _) fun _ => SameEntries.pure _
    | persistReleaseBroadcastRecord =>
      exact sameEntries_writeReleaseGuarded (SameEntries.modify fun s => .refl _)
    | retryFailedSession => exact SameEntries.session onlySession_retrySpawnSessionInState
    | markSessionFailed => exact sameEntries_markSessionFailedInState
    | expireSpawnSession => exact sameEntries_applySessionEventInState
    | authorizeAndConsume => cases hop
    | clearRefundInFlight => cases hop
    | finalizeConfirmedRelease => cases hop
  exact hperform state

end Automaton.Factory
