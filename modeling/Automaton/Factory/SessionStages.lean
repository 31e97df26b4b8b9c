import Automaton.Factory.PaymentCoherence
import Automaton.Factory.Writes

/-!
# Stages of a session

But for retries, sessions move on: from their payment to the release, or from anywhere but the
completion to a failure and to the expiry. Only a retry takes a session back, from a failure to the
payment.
-/

namespace Automaton.Factory

open Machine Persist

/-- The order in which a session reaches its states. -/
def SpawnSessionState.stage : SpawnSessionState → ℕ
  | .awaitingPayment => 0
  | .paymentDetected => 1
  | .spawning => 2
  | .broadcastingRelease => 3
  | .complete => 4
  | .failed => 4
  | .expired => 5

/-- A session in the one state may reach the other one without a retry. -/
def SpawnSessionState.Onward (state next : SpawnSessionState) : Prop :=
  state = next ∨ state ≠ .complete ∧ state.stage < next.stage

theorem SpawnSessionState.Onward.trans {state next last : SpawnSessionState}
    (h : state.Onward next) (h' : next.Onward last) : state.Onward last := by
  rcases h with rfl | ⟨hcomplete, hlt⟩
  · exact h'
  · rcases h' with rfl | ⟨-, hlt'⟩
    · exact .inr ⟨hcomplete, hlt⟩
    · exact .inr ⟨hcomplete, hlt.trans hlt'⟩

theorem SpawnSessionState.Onward.stage_le {state next : SpawnSessionState}
    (h : state.Onward next) : state.stage ≤ next.stage := by
  rcases h with rfl | ⟨-, hlt⟩
  · exact le_rfl
  · exact hlt.le

/-- The sessions move on, and new ones are stored under their ids. -/
structure MovesOn (s t : FactoryState) : Prop where
  kept : ∀ (sessionId : String) session, s.sessions[sessionId]? = some session →
    ∃ session', t.sessions[sessionId]? = some session' ∧
      session'.sessionId = session.sessionId ∧ session.state.Onward session'.state
  created : ∀ (sessionId : String) session, s.sessions[sessionId]? = none →
    t.sessions[sessionId]? = some session → session.sessionId = sessionId

namespace MovesOn

variable {s t u : FactoryState} {sessionId : String} {α β : Type} {m : Update α}
  {f : α → Update β}

protected theorem refl (s : FactoryState) : MovesOn s s where
  kept _ session h := ⟨session, h, rfl, .inl rfl⟩
  created _ _ hnone hsome := by
    rw [hnone] at hsome
    cases hsome

protected theorem trans (h : MovesOn s t) (h' : MovesOn t u) : MovesOn s u where
  kept sessionId session hsession := by
    obtain ⟨middle, hmiddle, hid, honward⟩ := h.kept sessionId session hsession
    obtain ⟨last, hlast, hid', honward'⟩ := h'.kept sessionId middle hmiddle
    exact ⟨last, hlast, hid'.trans hid, honward.trans honward'⟩
  created sessionId session hnone hsome := by
    cases hmiddle : t.sessions[sessionId]? with
    | none => exact h'.created sessionId session hmiddle hsome
    | some middle =>
      obtain ⟨last, hlast, hid, -⟩ := h'.kept sessionId middle hmiddle
      obtain rfl := Option.some.inj (hlast.symm.trans hsome)
      exact hid.trans (h.created sessionId middle hnone hmiddle)

/-- Writes to other parts of the state. -/
theorem of_eq (h : t.sessions = s.sessions) : MovesOn s t where
  kept _ session hsession := ⟨session, h ▸ hsession, rfl, .inl rfl⟩
  created _ _ hnone hsome := by
    rw [h, hnone] at hsome
    cases hsome

/-- Scheduling. -/
theorem of_sameButJobs (h : SameButJobs s t) : MovesOn s t := by
  obtain ⟨jobs, rfl⟩ := h
  exact of_eq rfl

/-- A write to a session that does not take it back. -/
theorem updateSession (s : FactoryState) {f : SpawnSession → SpawnSession}
    (hf : ∀ session, s.sessions[sessionId]? = some session →
      (f session).sessionId = session.sessionId ∧ session.state.Onward (f session).state) :
    MovesOn s (s.updateSession sessionId f) where
  kept other session hsession := by
    rw [FactoryState.updateSession_sessions, BTreeMap.get?_modify]
    split
    · rename_i hother
      subst hother
      exact ⟨f session, by rw [hsession]; rfl, hf session hsession⟩
    · exact ⟨session, hsession, rfl, .inl rfl⟩
  created other session hnone hsome := by
    rw [FactoryState.updateSession_sessions, BTreeMap.get?_modify] at hsome
    rw [hnone] at hsome
    split at hsome <;> cases hsome

theorem bind (hm : Within MovesOn m) (hf : ∀ a, Within MovesOn (f a)) :
    Within MovesOn (m >>= f) :=
  Within.bind MovesOn.trans hm hf

theorem pure (a : α) : Within MovesOn (pure a : Update α) := Within.pure MovesOn.refl a

theorem get : Within MovesOn (get : Update FactoryState) := Within.get MovesOn.refl

theorem throw (error : FactoryError) : Within MovesOn (throw error : Update α) :=
  Within.throw MovesOn.refl error

theorem ofExcept (result : Except FactoryError α) :
    Within MovesOn (ofExcept result : Update α) :=
  Within.ofExcept MovesOn.refl result

/-- A write to another part of the state. -/
theorem elsewhere {g : FactoryState → FactoryState} (h : ∀ s, (g s).sessions = s.sessions) :
    Within MovesOn (modify g : Update PUnit) :=
  Within.modify fun s => of_eq (h s)

/-- A write to a session that is not about its progress. -/
theorem progress {f : SpawnSession → SpawnSession}
    (hf : ∀ session, (f session).sessionId = session.sessionId ∧
      (f session).state = session.state) :
    Within MovesOn (modify (·.updateSession sessionId f) : Update PUnit) :=
  Within.modify fun s => updateSession s fun session _ =>
    ⟨(hf session).1, .inl (hf session).2.symm⟩

theorem enqueue {nowMs : ℕ} :
    Within MovesOn (modify (·.enqueueSpawnExecution sessionId nowMs) : Update PUnit) :=
  Within.modify fun s => of_sameButJobs (sameButJobs_enqueueSpawnExecution s sessionId nowMs)

theorem pollJob {nowMs : ℕ} :
    Within MovesOn (modify (·.syncPaymentPollJob nowMs) : Update PUnit) :=
  Within.modify fun s => of_sameButJobs (sameButJobs_syncPaymentPollJob s nowMs)

end MovesOn

section Updates

variable {sessionId : String} {nowMs scanToBlock : ℕ} {actor : SessionAuditActor}
  {event : SpawnSessionEvent} {reason : String} {externals : Externals} {session : SpawnSession}
  {hasAudit : Bool} {transition : EventTransition}

/-- Every event but a retry leads on. -/
theorem onward_of_eventTransition (hevent : event ≠ .retryRequested)
    (h : eventTransition session hasAudit sessionId nowMs event = .ok (some transition)) :
    session.state.Onward transition.toState := by
  rcases eventTransition_cases h with ⟨-, hfrom, hto⟩ | ⟨-, hfrom, -, hto⟩ | ⟨-, hfrom, hto⟩ |
    ⟨-, hfrom, hto⟩ | ⟨-, hfrom, hto⟩ | ⟨-, hfrom, hto⟩ | ⟨hretry, -⟩ |
    ⟨-, hcomplete, hexpired, -, -, hto⟩
  · exact .inl (hfrom.trans hto.symm)
  · rw [hfrom, hto]
    exact .inr (by decide)
  · rw [hfrom, hto]
    exact .inr (by decide)
  · rw [hfrom, hto]
    exact .inr (by decide)
  · rw [hfrom, hto]
    exact .inr (by decide)
  · rw [hto]
    rcases hfrom with hfrom | hfrom | hfrom
    all_goals
      rw [hfrom]
      exact .inr (by decide)
  · exact absurd hretry hevent
  · rw [hto]
    cases hstate : session.state with
    | complete => exact absurd hstate hcomplete
    | expired => exact absurd hstate hexpired
    | _ => exact .inr (by decide)

/-- Events that are no retries. -/
theorem movesOn_applySessionEventInState (hevent : event ≠ .retryRequested) :
    Within MovesOn (applySessionEventInState sessionId actor nowMs event reason) := by
  intro s
  rcases applySessionEventInState_cases sessionId actor nowMs event reason s with
    ⟨e, hrun⟩ | ⟨session, hrun, -⟩ | ⟨session, transition, hsession, htransition, hrun⟩
  · rw [after_of_error hrun]
    exact MovesOn.refl s
  · rw [after_of_ok hrun]
    exact MovesOn.refl s
  · rw [after_of_ok hrun]
    have hsessions : MovesOn s (s.updateSession sessionId fun _ =>
        (session.enter transition nowMs s.sessionTtlMs).withDerivedFlags nowMs) := by
      refine MovesOn.updateSession s fun stored hstored => ?_
      obtain rfl := Option.some.inj (hstored.symm.trans hsession)
      exact ⟨rfl, onward_of_eventTransition hevent htransition⟩
    exact hsessions.trans (MovesOn.of_eq rfl)

theorem movesOn_syncSessionDerivedFlagsInState :
    Within MovesOn (syncSessionDerivedFlagsInState sessionId nowMs) := by
  intro s
  cases hsession : s.sessions[sessionId]? with
  | none =>
    have hrun : syncSessionDerivedFlagsInState sessionId nowMs s =
        .error (.sessionNotFound sessionId) s := by
      rw [syncSessionDerivedFlagsInState, run_bind, run_getSession_none hsession]
    rw [after_of_error hrun]
    exact MovesOn.refl s
  | some session =>
    rw [after_of_ok (run_syncSessionDerivedFlagsInState hsession)]
    have hsessions : MovesOn s
        (s.updateSession sessionId fun _ => session.withDerivedFlags nowMs) := by
      refine MovesOn.updateSession s fun stored hstored => ?_
      obtain rfl := Option.some.inj (hstored.symm.trans hsession)
      exact ⟨rfl, .inl rfl⟩
    exact hsessions.trans (MovesOn.of_eq rfl)

theorem movesOn_markSessionFailedInState :
    Within MovesOn (markSessionFailedInState sessionId actor nowMs reason) := by
  refine MovesOn.bind (movesOn_applySessionEventInState nofun) fun session => ?_
  split
  · exact MovesOn.bind MovesOn.enqueue fun _ => MovesOn.pure _
  · exact MovesOn.pure _

theorem movesOn_recordPayment {payment : ObservedPayment} :
    Within MovesOn (recordPayment sessionId payment scanToBlock nowMs) := by
  refine MovesOn.bind (within_getClaim MovesOn.refl) fun _ => ?_
  refine MovesOn.bind (MovesOn.elsewhere fun _ => rfl) fun _ => ?_
  refine MovesOn.bind (within_getSession MovesOn.refl) fun _ => ?_
  exact MovesOn.bind (MovesOn.progress fun _ => ⟨rfl, rfl⟩) fun _ =>
    movesOn_syncSessionDerivedFlagsInState

theorem movesOn_advanceAfterPayment {detected : Bool} {expiresAt : ℕ} :
    Within MovesOn (advanceAfterPayment sessionId detected expiresAt nowMs) := by
  refine MovesOn.bind (Within.when MovesOn.refl ?_) fun _ =>
    MovesOn.bind (Within.when MovesOn.refl ?_) fun _ => within_getClaim MovesOn.refl
  · exact MovesOn.bind (movesOn_applySessionEventInState nofun) fun _ => MovesOn.enqueue
  · exact Within.discard MovesOn.refl MovesOn.trans (movesOn_applySessionEventInState nofun)

/-- The host's scans. -/
theorem movesOn_reconcileEscrowPayments {logs : List BaseDepositLog}
    {blockHashes : BlockHashes} :
    Within MovesOn (reconcileEscrowPayments logs blockHashes scanToBlock nowMs) := by
  refine MovesOn.bind (MovesOn.ofExcept _) fun amounts => ?_
  refine MovesOn.bind (MovesOn.elsewhere fun _ => rfl) fun _ => ?_
  refine MovesOn.bind MovesOn.get fun state => ?_
  refine MovesOn.bind (Within.mapM MovesOn.refl MovesOn.trans fun sessionId => ?_) fun _ =>
    MovesOn.bind MovesOn.pollJob fun _ => MovesOn.pure _
  refine MovesOn.bind (within_getSession MovesOn.refl) fun session => ?_
  refine MovesOn.bind (within_getClaim MovesOn.refl) fun claim => ?_
  refine MovesOn.bind (MovesOn.ofExcept _) fun payment => ?_
  exact MovesOn.bind movesOn_recordPayment fun _ => movesOn_advanceAfterPayment

/-- The canister's scans. -/
theorem movesOn_applyPaymentScan {updates : List (EscrowPaymentScanUpdate nowMs)} :
    Within MovesOn (applyPaymentScan updates scanToBlock) := by
  refine MovesOn.bind (MovesOn.elsewhere fun _ => rfl) fun _ => ?_
  refine MovesOn.bind (Within.mapM MovesOn.refl MovesOn.trans fun update => ?_) fun _ =>
    MovesOn.bind MovesOn.pollJob fun _ => MovesOn.pure _
  refine MovesOn.bind MovesOn.get fun state => ?_
  refine MovesOn.bind (MovesOn.ofExcept _) fun _ => ?_
  refine MovesOn.bind movesOn_recordPayment fun _ => ?_
  exact MovesOn.bind (within_getSession MovesOn.refl) fun session => movesOn_advanceAfterPayment

/-- The creation of a session under an id that no session has. -/
theorem movesOn_createSpawnSessionWithSessionId {externals : SessionExternals}
    {request : CreateSpawnSessionRequest} {origin : SessionOrigin} {s : FactoryState}
    (hfresh : s.sessions[sessionId]? = none) :
    MovesOn s
      (after (createSpawnSessionWithSessionId externals request sessionId origin nowMs) s) := by
  refine after_bind_within MovesOn.trans (MovesOn.ofExcept _ s) fun request => ?_
  rw [after_ofExcept]
  refine after_bind_within MovesOn.trans ?_ fun session =>
    after_bind_within MovesOn.trans (MovesOn.of_eq rfl) fun _ =>
      MovesOn.bind MovesOn.pollJob (fun _ => MovesOn.pure _) _
  unfold createSessionInState
  rw [after_bind_of_ok outcome_get, after_get]
  refine after_bind_within MovesOn.trans (MovesOn.ofExcept _ s) fun amounts => ?_
  rw [after_ofExcept]
  have hevent : SpawnSessionEvent.sessionCreated ≠ .retryRequested := nofun
  refine after_bind_within MovesOn.trans ?_ fun _ => after_bind_within MovesOn.trans
    (movesOn_applySessionEventInState hevent _) fun _ => MovesOn.pure _ _
  rw [after_modify]
  constructor
  · intro other session hsession
    have hother : sessionId ≠ other := by
      rintro rfl
      rw [hfresh] at hsession
      cases hsession
    refine ⟨session, ?_, rfl, .inl rfl⟩
    rw [FactoryState.insertSession_sessions, BTreeMap.get?_insert]
    exact (if_neg hother).trans hsession
  · intro other session hnone hsome
    rw [FactoryState.insertSession_sessions, BTreeMap.get?_insert] at hsome
    split at hsome
    · rename_i hother
      rw [← Option.some.inj hsome]
      exact hother
    · rw [hnone] at hsome
      cases hsome

theorem movesOn_consumeNonce : Within MovesOn (consumeNonce sessionId) := by
  refine MovesOn.bind MovesOn.get fun state => ?_
  split
  · exact MovesOn.throw _
  · exact MovesOn.elsewhere fun _ => rfl

/-- The closure for a refund command. -/
theorem movesOn_authorizeRefund : Within MovesOn (authorizeRefund sessionId nowMs) := by
  refine MovesOn.bind MovesOn.get fun state => ?_
  refine MovesOn.bind (MovesOn.ofExcept _) fun generation => ?_
  refine MovesOn.bind ?_ fun _ => MovesOn.bind ?_ fun _ => MovesOn.bind ?_ fun _ =>
    MovesOn.bind (MovesOn.elsewhere fun _ => rfl) fun _ => MovesOn.pure _
  · refine MovesOn.bind MovesOn.get fun _ => ?_
    exact Within.when MovesOn.refl (Within.discard MovesOn.refl MovesOn.trans
      (movesOn_applySessionEventInState nofun))
  · refine MovesOn.bind (within_getSession MovesOn.refl) fun session => ?_
    refine MovesOn.bind (within_getClaim MovesOn.refl) fun claim => ?_
    split
    · exact MovesOn.throw _
    · exact MovesOn.pure _
  · refine MovesOn.bind MovesOn.get fun _ => ?_
    exact Within.when MovesOn.refl
      (MovesOn.bind movesOn_consumeNonce fun _ => MovesOn.elsewhere fun _ => rfl)

theorem movesOn_writeRefundGuarded {α : Type} {generation : ℕ} {mutation : Update α}
    (h : Within MovesOn mutation) :
    Within MovesOn (writeRefundGuarded sessionId generation mutation) :=
  MovesOn.bind MovesOn.get fun _ => MovesOn.bind (MovesOn.ofExcept _) fun _ => h

theorem movesOn_writeReleaseGuarded {α : Type} {guard : SpawnReleaseDraftGuard}
    {mutation : Update α} (h : Within MovesOn mutation) :
    Within MovesOn (writeReleaseGuarded sessionId guard mutation) :=
  MovesOn.bind MovesOn.get fun _ => MovesOn.bind (MovesOn.ofExcept _) fun _ => h

theorem movesOn_persistRefundTransactionRecordGuarded {claimId : String}
    {record : ReleaseBroadcastRecord} {generation : ℕ} :
    Within MovesOn
      (persistRefundTransactionRecordGuarded claimId record sessionId generation) := by
  refine movesOn_writeRefundGuarded (MovesOn.bind MovesOn.get fun state => ?_)
  split
  · exact MovesOn.elsewhere fun _ => rfl
  · exact MovesOn.throw _

theorem movesOn_draftRefundInState {session : SpawnSession} {escrow : String}
    {config : ReleaseBroadcastConfig} {pendingNonce : ℕ} :
    Within MovesOn
      (draftRefundInState externals sessionId session escrow config pendingNonce) := by
  refine MovesOn.bind MovesOn.get fun state => ?_
  split
  · exact MovesOn.bind (MovesOn.ofExcept _) fun _ => MovesOn.pure _
  · refine MovesOn.bind (MovesOn.ofExcept _) fun _ => ?_
    refine MovesOn.bind (MovesOn.elsewhere fun _ => rfl) fun _ => ?_
    exact MovesOn.bind (MovesOn.elsewhere fun _ => rfl) fun _ => MovesOn.pure _

/-- The last write of a refund. -/
theorem movesOn_finalizeEscrowRefundInState {refundTxHash : String} :
    Within MovesOn (finalizeEscrowRefundInState sessionId nowMs refundTxHash) := by
  refine MovesOn.bind MovesOn.get fun state => ?_
  refine MovesOn.bind (MovesOn.ofExcept _) fun response => ?_
  split
  · exact MovesOn.pure _
  · refine MovesOn.bind (within_getSession MovesOn.refl) fun session => ?_
    refine MovesOn.bind ?_ fun _ => ?_
    · unfold releaseRuntime
      split
      · exact MovesOn.pure _
      · refine MovesOn.bind MovesOn.get fun state => ?_
        split
        · exact MovesOn.throw _
        · exact MovesOn.elsewhere fun _ => rfl
    · refine MovesOn.bind (MovesOn.progress fun _ => ⟨rfl, rfl⟩) fun _ => ?_
      refine MovesOn.bind (MovesOn.elsewhere fun _ => rfl) fun _ => ?_
      refine MovesOn.bind movesOn_syncSessionDerivedFlagsInState fun _ => ?_
      exact MovesOn.bind (MovesOn.elsewhere fun _ => rfl) fun _ => MovesOn.pure _

/-- The runtime of a worker. -/
theorem movesOn_persistFailedSpawnRuntime (runtime : AutomatonRuntimeState) (s : FactoryState) :
    MovesOn s (s.persistFailedSpawnRuntime sessionId runtime) :=
  (MovesOn.of_eq rfl : MovesOn s (s.putRuntime runtime.canisterId runtime)).trans
    (MovesOn.updateSession _ fun _ _ => ⟨rfl, .inl rfl⟩)

/-- The writes before the event that completes a release. -/
theorem movesOn_enterRegistry (session : SpawnSession) (release : ConfirmedRelease)
    (s : FactoryState) : MovesOn s (s.enterRegistry externals sessionId session release) :=
  (MovesOn.updateSession s fun _ _ => ⟨rfl, .inl rfl⟩ :
    MovesOn s (s.updateSession sessionId (·.release release))).trans (MovesOn.of_eq rfl)

end Updates

/-- The session that an operation retries. -/
def Op.retries : Op → Option String
  | .authorizeAndConsume (.retrySpawnSession sessionId) .. => some sessionId
  | .retryFailedSession sessionId .. => some sessionId
  | _ => none

/-- Every operation but a creation and a retry lets the sessions move on. -/
theorem movesOn_perform (libraries : Libraries) {op : Op} (hop : op.retries = none)
    (hkind : op.kind ≠ .creation) : Within MovesOn (op.perform libraries) := by
  cases op with
  | createSpawnSession => exact absurd rfl hkind
  | reconcileEscrowPayments => exact movesOn_reconcileEscrowPayments
  | applyPaymentScan => exact movesOn_applyPaymentScan
  | authorizeAndConsume command proof canisterId nowNs nowMs =>
    cases command with
    | retrySpawnSession => cases hop
    | claimSpawnRefund =>
      exact MovesOn.bind MovesOn.get fun _ => MovesOn.bind (MovesOn.ofExcept _) fun _ =>
        Within.map MovesOn.trans MovesOn.refl movesOn_authorizeRefund
  | clearRefundInFlight sessionId generation =>
    refine MovesOn.elsewhere fun s => ?_
    unfold FactoryState.clearRefundInFlight
    split <;> rfl
  | persistRefundBroadcastRecord =>
    exact movesOn_writeRefundGuarded (MovesOn.elsewhere fun _ => rfl)
  | persistRefundTransactionRecord => exact movesOn_persistRefundTransactionRecordGuarded
  | draftRefund => exact movesOn_writeRefundGuarded movesOn_draftRefundInState
  | finalizeEscrowRefund => exact movesOn_writeRefundGuarded movesOn_finalizeEscrowRefundInState
  | setFactoryEvmAddress => exact MovesOn.elsewhere fun _ => rfl
  | startSpawn => exact movesOn_applySessionEventInState nofun
  | failSpawn sessionId nowMs reason runtime error =>
    refine MovesOn.bind (Within.modify fun s => ?_) fun _ => movesOn_markSessionFailedInState
    cases runtime with
    | none => exact MovesOn.refl s
    | some runtime => exact movesOn_persistFailedSpawnRuntime runtime s
  | persistSpawnRuntime => exact Within.modify (movesOn_persistFailedSpawnRuntime _)
  | installSucceeded sessionId canisterId evmAddress installed nowMs reason =>
    refine MovesOn.bind (MovesOn.elsewhere fun s => ?_) fun _ =>
      MovesOn.bind (MovesOn.progress fun _ => ⟨rfl, rfl⟩) fun _ =>
        movesOn_applySessionEventInState nofun
    cases installed <;> rfl
  | reserveReleaseNonce =>
    exact MovesOn.bind MovesOn.get fun _ =>
      MovesOn.bind (MovesOn.elsewhere fun _ => rfl) fun _ => MovesOn.pure _
  | persistReleaseBroadcastRecord =>
    exact movesOn_writeReleaseGuarded (MovesOn.progress fun _ => ⟨rfl, rfl⟩)
  | finalizeConfirmedRelease sessionId guard release =>
    refine movesOn_writeReleaseGuarded ?_
    refine MovesOn.bind (within_getSession MovesOn.refl) fun session => ?_
    exact MovesOn.bind (Within.modify (movesOn_enterRegistry session release)) fun _ =>
      movesOn_applySessionEventInState nofun
  | retryFailedSession => cases hop
  | markSessionFailed => exact movesOn_markSessionFailedInState
  | expireSpawnSession => exact movesOn_applySessionEventInState nofun

/-- So does the creation of a session under an id that no session has. -/
theorem movesOn_apply (libraries : Libraries) {op : Op} {s : FactoryState} (hfresh : op.IsFresh s)
    (hop : op.retries = none) : MovesOn s (op.apply libraries s) := by
  by_cases hkind : op.kind = .creation
  · cases op with
    | createSpawnSession => exact movesOn_createSpawnSessionWithSessionId hfresh
    | _ => cases hkind
  · exact movesOn_perform libraries hop hkind s

end Automaton.Factory
