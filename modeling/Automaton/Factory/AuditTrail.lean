import Automaton.Factory.Creation
import Automaton.Factory.PaymentCoherence
import Automaton.Factory.SessionWrites
import Automaton.Library.Trail

/-!
# The audit trail of a session

Every write that moves a session records where it came from and where it went, and a refund records
that the session stayed where it was. So the entries ever written for a session lead from nothing to
its present state, whatever the log has dropped.
-/

namespace Automaton.Factory

open Persist Trail Transition

/-- The stored audit entries of a session. -/
def FactoryState.auditOf (state : FactoryState) (sessionId : String) : List SessionAuditEntry :=
  state.auditLog[sessionId]?.getD []

/-- Where a session is, if it is there. -/
def FactoryState.stateOf (state : FactoryState) (sessionId : String) : Option SpawnSessionState :=
  state.sessions[sessionId]?.map (·.state)

/-- What a write at some time adds to the audit log of a session leads from where the session was to
where it is. Nothing is added as if the session was new. -/
def Trails (time : Option ℕ) (sessionId : String) (s t : FactoryState) : Prop :=
  ∃ added : List SessionAuditEntry,
    (∀ entry ∈ added, time = some entry.timestamp ∧ entry.fromState ≠ none) ∧
      t.auditOf sessionId =
        added.foldl (push maxAuditEntriesPerSession) (s.auditOf sessionId) ∧
      Path SessionAuditEntry.fromState SessionAuditEntry.toState (s.stateOf sessionId) added
        (t.stateOf sessionId)

namespace Trails

variable {time : Option ℕ} {sessionId other : String} {s t u : FactoryState}

/-- Writes to other parts of the state, and to other sessions. -/
theorem of_eq (haudit : t.auditOf sessionId = s.auditOf sessionId)
    (hstate : t.stateOf sessionId = s.stateOf sessionId) : Trails time sessionId s t :=
  ⟨[], by simp, haudit, hstate.symm⟩

protected theorem refl (s : FactoryState) : Trails time sessionId s s := of_eq rfl rfl

/-- What two writes add, one after the other. -/
protected theorem trans (h : Trails time sessionId s t) (h' : Trails time sessionId t u) :
    Trails time sessionId s u := by
  obtain ⟨added, htimes, haudit, hpath⟩ := h
  obtain ⟨more, htimes', haudit', hpath'⟩ := h'
  refine ⟨added ++ more, ?_, ?_, hpath.append hpath'⟩
  · intro entry hentry
    rcases List.mem_append.mp hentry with hentry | hentry
    · exact htimes entry hentry
    · exact htimes' entry hentry
  · rw [List.foldl_append, ← haudit]
    exact haudit'

/-- Other sessions are left alone. -/
theorem of_onlySession (h : OnlySession other s t) (hne : sessionId ≠ other) :
    Trails time sessionId s t := by
  apply of_eq
  · unfold FactoryState.auditOf
    rw [h.audits sessionId hne]
  · unfold FactoryState.stateOf
    rw [h.sessions sessionId hne]

/-- Scheduling. -/
theorem of_sameButJobs (h : SameButJobs s t) : Trails time sessionId s t := by
  obtain ⟨jobs, rfl⟩ := h
  exact of_eq rfl rfl

/-- A write to a session that leaves it where it is. -/
theorem updateSession {f : SpawnSession → SpawnSession}
    (hf : ∀ session, s.sessions[other]? = some session → (f session).state = session.state) :
    Trails time sessionId s (s.updateSession other f) := by
  refine of_eq (by rfl) ?_
  unfold FactoryState.stateOf
  rw [FactoryState.updateSession_sessions, BTreeMap.get?_modify]
  split
  · rename_i hid
    subst hid
    cases hsession : s.sessions[other]? with
    | none => rfl
    | some session => exact congrArg some (hf session hsession)
  · rfl

end Trails

section Updates

variable {sessionId other : String} {nowMs scanToBlock : ℕ} {actor : SessionAuditActor}
  {event : SpawnSessionEvent} {reason : String} {s : FactoryState} {session : SpawnSession}

/-- An event that moves a session is recorded with the state it moves it from. -/
theorem auditFromState_eq {hasAudit : Bool} {transition : EventTransition}
    (hevent : event ≠ .sessionCreated)
    (h : eventTransition session hasAudit sessionId nowMs event = .ok (some transition)) :
    transition.auditFromState = some session.state := by
  unfold eventTransition at h
  cases event with
  | sessionCreated => exact absurd rfl hevent
  | _ =>
    dsimp only at h
    split_ifs at h <;> cases h
    all_goals rfl

/-- Events that do not create a session. -/
theorem trails_applySessionEventInState (hevent : event ≠ .sessionCreated) :
    Within (Trails (some nowMs) sessionId)
      (applySessionEventInState other actor nowMs event reason) := by
  intro s
  rcases applySessionEventInState_cases other actor nowMs event reason s with
    ⟨e, hrun⟩ | ⟨session, hrun, -⟩ | ⟨session, transition, hsession, htransition, hrun⟩
  · rw [after_of_error hrun]
    exact Trails.refl s
  · rw [after_of_ok hrun]
    exact Trails.refl s
  · rw [after_of_ok hrun]
    by_cases hid : sessionId = other
    · subst hid
      have hfrom := auditFromState_eq hevent htransition
      refine ⟨[⟨sessionId, nowMs, transition.auditFromState, transition.toState, actor, reason⟩],
        ?_, ?_, ?_, ?_⟩
      · simp [hfrom]
      · simp [FactoryState.auditOf, FactoryState.entered, push, keepNewest]
      · unfold FactoryState.stateOf
        rw [hsession, hfrom]
        rfl
      · unfold FactoryState.stateOf
        rw [getElem?_entered hsession]
        rfl
    · exact Trails.of_onlySession (onlySession_entered s other session transition actor nowMs
        reason) hid

/-- A refund is recorded with the state that the session stays in. -/
theorem trails_refunded (hsession : s.sessions[other]? = some session) :
    Trails (some nowMs) sessionId s (s.refunded other session nowMs) := by
  by_cases hid : sessionId = other
  · subst hid
    refine ⟨[⟨sessionId, nowMs, some session.state, session.state, .user,
      "refund transaction confirmed on-chain"⟩], ?_, ?_, ?_, ?_⟩
    · simp
    · simp [FactoryState.auditOf, FactoryState.refunded, push, keepNewest]
    · unfold FactoryState.stateOf
      rw [hsession]
      rfl
    · have hstays : (s.refunded sessionId session nowMs).stateOf sessionId =
          some session.state := by
        simp [FactoryState.stateOf, FactoryState.refunded, hsession]
      exact hstays.symm
  · exact Trails.of_onlySession (onlySession_refunded s session) hid

theorem trails_syncSessionDerivedFlagsInState :
    Within (Trails (some nowMs) sessionId) (syncSessionDerivedFlagsInState other nowMs) := by
  intro s
  rcases syncSessionDerivedFlagsInState_cases other nowMs s with heq | ⟨session, hsession, heq⟩
  · rw [heq]
    exact Trails.refl s
  · rw [heq]
    refine Trails.trans (t := s.updateSession other fun _ => session.withDerivedFlags nowMs)
      (Trails.updateSession ?_) (Trails.of_eq rfl rfl)
    intro session' hsession'
    obtain rfl := Option.some.inj (hsession.symm.trans hsession')
    rfl

theorem trails_markSessionFailedInState :
    Within (Trails (some nowMs) sessionId)
      (markSessionFailedInState other actor nowMs reason) := by
  refine Within.bind Trails.trans (trails_applySessionEventInState (by decide)) fun session => ?_
  split
  · exact Within.bind Trails.trans (Within.modify fun s => Trails.of_sameButJobs
      (sameButJobs_enqueueSpawnExecution s other nowMs)) fun _ => Within.pure Trails.refl _
  · exact Within.pure Trails.refl _

theorem trails_retrySpawnSessionInState :
    Within (Trails (some nowMs) sessionId)
      (retrySpawnSessionInState other actor nowMs reason) := by
  refine Within.bind Trails.trans (trails_applySessionEventInState (by decide)) fun session => ?_
  exact Within.bind Trails.trans (Within.modify fun s => Trails.of_sameButJobs
    (sameButJobs_enqueueSpawnExecution s other nowMs)) fun _ => Within.pure Trails.refl _

/-- Recording a payment. -/
theorem trails_recordPayment {payment : ObservedPayment} :
    Within (Trails (some nowMs) sessionId) (recordPayment other payment scanToBlock nowMs) := by
  refine Within.bind Trails.trans (within_getClaim Trails.refl) fun _ => ?_
  refine Within.bind Trails.trans (Within.modify fun s => Trails.of_eq rfl rfl) fun _ => ?_
  refine Within.bind Trails.trans (within_getSession Trails.refl) fun _ => ?_
  exact Within.bind Trails.trans
    (Within.modify fun s => Trails.updateSession fun _ _ => rfl) fun _ =>
      trails_syncSessionDerivedFlagsInState

theorem trails_advanceAfterPayment {detected : Bool} {expiresAt : ℕ} :
    Within (Trails (some nowMs) sessionId)
      (advanceAfterPayment other detected expiresAt nowMs) := by
  refine Within.bind Trails.trans (Within.when Trails.refl ?_) fun _ =>
    Within.bind Trails.trans (Within.when Trails.refl ?_) fun _ => within_getClaim Trails.refl
  · refine Within.bind Trails.trans (trails_applySessionEventInState (by decide)) fun _ => ?_
    exact Within.modify fun s => Trails.of_sameButJobs
      (sameButJobs_enqueueSpawnExecution s other nowMs)
  · exact Within.discard Trails.refl Trails.trans (trails_applySessionEventInState (by decide))

/-- The host's scans. -/
theorem trails_reconcileEscrowPayments {logs : List BaseDepositLog} {blockHashes : BlockHashes} :
    Within (Trails (some nowMs) sessionId)
      (reconcileEscrowPayments logs blockHashes scanToBlock nowMs) := by
  refine Within.bind Trails.trans (Within.ofExcept Trails.refl _) fun amounts => ?_
  refine Within.bind Trails.trans (Within.modify fun s => Trails.of_eq rfl rfl) fun _ => ?_
  refine Within.bind Trails.trans (Within.get Trails.refl) fun state => ?_
  refine Within.bind Trails.trans
    (Within.mapM Trails.refl Trails.trans fun scanned => ?_) fun _ =>
      Within.bind Trails.trans (Within.modify fun s => Trails.of_sameButJobs
        (sameButJobs_syncPaymentPollJob s nowMs)) fun _ => Within.pure Trails.refl _
  refine Within.bind Trails.trans (within_getSession Trails.refl) fun session => ?_
  refine Within.bind Trails.trans (within_getClaim Trails.refl) fun claim => ?_
  refine Within.bind Trails.trans (Within.ofExcept Trails.refl _) fun payment => ?_
  exact Within.bind Trails.trans trails_recordPayment fun _ => trails_advanceAfterPayment

/-- The canister's scans. -/
theorem trails_applyPaymentScan {updates : List (EscrowPaymentScanUpdate nowMs)} :
    Within (Trails (some nowMs) sessionId) (applyPaymentScan updates scanToBlock) := by
  refine Within.bind Trails.trans (Within.modify fun s => Trails.of_eq rfl rfl) fun _ => ?_
  refine Within.bind Trails.trans
    (Within.mapM Trails.refl Trails.trans fun update => ?_) fun _ =>
      Within.bind Trails.trans (Within.modify fun s => Trails.of_sameButJobs
        (sameButJobs_syncPaymentPollJob s nowMs)) fun _ => Within.pure Trails.refl _
  unfold applyScanUpdate
  refine Within.bind Trails.trans (Within.get Trails.refl) fun state => ?_
  refine Within.bind Trails.trans (Within.ofExcept Trails.refl _) fun _ => ?_
  refine Within.bind Trails.trans trails_recordPayment fun _ => ?_
  exact Within.bind Trails.trans (within_getSession Trails.refl) fun session =>
    trails_advanceAfterPayment

/-- The commands of a steward. -/
theorem trails_authorizeAndConsume {externals : Externals} {command : FactoryStewardCommand}
    {proof : FactoryStewardProof} {canisterId : String} {nowNs : ℕ} :
    Within (Trails (some nowMs) sessionId)
      (authorizeAndConsume externals command proof canisterId nowNs nowMs) := by
  have hnonce : ∀ other, Within (Trails (some nowMs) sessionId) (consumeNonce other) := by
    intro other
    refine Within.bind Trails.trans (Within.get Trails.refl) fun state => ?_
    split
    · exact Within.throw Trails.refl _
    · exact Within.modify fun s => Trails.of_eq rfl rfl
  refine Within.bind Trails.trans (Within.get Trails.refl) fun state => ?_
  refine Within.bind Trails.trans (Within.ofExcept Trails.refl _) fun _ => ?_
  cases command with
  | retrySpawnSession other =>
    refine Within.map Trails.trans Trails.refl ?_
    refine Within.bind Trails.trans trails_retrySpawnSessionInState fun _ => ?_
    exact Within.bind Trails.trans (hnonce other) fun _ => Within.pure Trails.refl _
  | claimSpawnRefund other =>
    refine Within.map Trails.trans Trails.refl ?_
    refine Within.bind Trails.trans (Within.get Trails.refl) fun state => ?_
    refine Within.bind Trails.trans (Within.ofExcept Trails.refl _) fun generation => ?_
    refine Within.bind Trails.trans ?_ fun _ => Within.bind Trails.trans ?_ fun _ =>
      Within.bind Trails.trans ?_ fun _ => Within.bind Trails.trans
        (Within.modify fun s => Trails.of_eq rfl rfl) fun _ => Within.pure Trails.refl _
    · refine Within.bind Trails.trans (Within.get Trails.refl) fun _ => ?_
      exact Within.when Trails.refl (Within.discard Trails.refl Trails.trans
        (trails_applySessionEventInState (by decide)))
    · refine Within.bind Trails.trans (within_getSession Trails.refl) fun session => ?_
      refine Within.bind Trails.trans (within_getClaim Trails.refl) fun claim => ?_
      split
      · exact Within.throw Trails.refl _
      · exact Within.pure Trails.refl _
    · refine Within.bind Trails.trans (Within.get Trails.refl) fun _ => ?_
      refine Within.when Trails.refl (Within.bind Trails.trans (hnonce other) fun _ => ?_)
      exact Within.modify fun s => Trails.of_eq rfl rfl

/-- The last step of a refund. -/
theorem trails_finalizeEscrowRefundInState {refundTxHash : String} :
    Within (Trails (some nowMs) sessionId)
      (finalizeEscrowRefundInState other nowMs refundTxHash) := by
  intro s
  unfold finalizeEscrowRefundInState
  rw [after_bind_of_ok outcome_get, after_get]
  refine after_bind_within Trails.trans (Within.ofExcept Trails.refl _ s) fun response => ?_
  rw [after_ofExcept]
  cases response with
  | some response => exact Trails.refl s
  | none =>
    cases hsession : s.sessions[other]? with
    | none =>
      have hrun : recordRefund other nowMs refundTxHash s =
          .error (.sessionNotFound other) s := by
        rw [recordRefund, run_bind, run_getSession_none hsession]
      dsimp only
      rw [after_of_error hrun]
      exact Trails.refl s
    | some session =>
      dsimp only
      rcases run_recordRefund hsession with ⟨response, runtimes, hrun⟩ | ⟨e, hrun⟩
      · rw [after_of_ok hrun]
        exact Trails.trans (t := { s with runtimes := runtimes }) (Trails.of_eq rfl rfl)
          (trails_refunded hsession)
      · rw [after_of_error hrun]
        exact Trails.refl s

end Updates

section Guarded

variable {time : Option ℕ} {sessionId other : String} {α : Type} {mutation : Update α}

/-- A write under the guard of a release. -/
theorem trails_writeReleaseGuarded {guard : SpawnReleaseDraftGuard}
    (h : Within (Trails time sessionId) mutation) :
    Within (Trails time sessionId) (writeReleaseGuarded other guard mutation) :=
  Within.bind Trails.trans (Within.get Trails.refl) fun _ =>
    Within.bind Trails.trans (Within.ofExcept Trails.refl _) fun _ => h

/-- A write under the guard of a refund. -/
theorem trails_writeRefundGuarded {generation : ℕ} (h : Within (Trails time sessionId) mutation) :
    Within (Trails time sessionId) (writeRefundGuarded other generation mutation) :=
  Within.bind Trails.trans (Within.get Trails.refl) fun _ =>
    Within.bind Trails.trans (Within.ofExcept Trails.refl _) fun _ => h

end Guarded

/-- When an operation takes place, if it reads the time. -/
def Op.time : Op → Option ℕ
  | .createSpawnSession _ _ _ nowMs => some nowMs
  | .reconcileEscrowPayments _ _ _ nowMs => some nowMs
  | .applyPaymentScan nowMs _ _ => some nowMs
  | .authorizeAndConsume _ _ _ _ nowMs => some nowMs
  | .finalizeEscrowRefund _ _ nowMs _ => some nowMs
  | .setFactoryEvmAddress _ nowMs => some nowMs
  | .startSpawn _ nowMs => some nowMs
  | .failSpawn _ nowMs _ _ _ => some nowMs
  | .installSucceeded _ _ _ _ nowMs _ => some nowMs
  | .finalizeConfirmedRelease _ _ release => some release.currentTime
  | .retryFailedSession _ _ nowMs _ => some nowMs
  | .markSessionFailed _ _ nowMs _ => some nowMs
  | .expireSpawnSession _ nowMs => some nowMs
  | _ => none

/-- A configuration records nothing about sessions. -/
def FactoryAct.time : FactoryAct → Option ℕ
  | .write op => op.time
  | .configure => none

/-- What an operation adds that does not create a session. -/
theorem trails_apply (libraries : Libraries) {op : Op} (hop : op.kind ≠ .creation)
    (sessionId : String) (state : FactoryState) :
    Trails op.time sessionId state (op.apply libraries state) := by
  have hperform : Within (Trails op.time sessionId) (op.perform libraries) := by
    cases op with
    | createSpawnSession => exact absurd rfl hop
    | reconcileEscrowPayments => exact trails_reconcileEscrowPayments
    | applyPaymentScan => exact trails_applyPaymentScan
    | authorizeAndConsume => exact trails_authorizeAndConsume
    | clearRefundInFlight other generation =>
      refine Within.modify fun s => ?_
      unfold FactoryState.clearRefundInFlight
      split
      · exact Trails.of_eq rfl rfl
      · exact Trails.refl s
    | persistRefundBroadcastRecord =>
      exact trails_writeRefundGuarded (Within.modify fun s => Trails.of_eq rfl rfl)
    | persistRefundTransactionRecord =>
      refine trails_writeRefundGuarded ?_
      refine Within.bind Trails.trans (Within.get Trails.refl) fun state => ?_
      split
      · exact Within.modify fun s => Trails.of_eq rfl rfl
      · exact Within.throw Trails.refl _
    | draftRefund =>
      refine trails_writeRefundGuarded ?_
      refine Within.bind Trails.trans (Within.get Trails.refl) fun state => ?_
      split
      · exact Within.bind Trails.trans (Within.ofExcept Trails.refl _) fun _ =>
          Within.pure Trails.refl _
      · refine Within.bind Trails.trans (Within.ofExcept Trails.refl _) fun _ => ?_
        refine Within.bind Trails.trans (Within.modify fun s => Trails.of_eq rfl rfl) fun _ => ?_
        exact Within.bind Trails.trans (Within.modify fun s => Trails.of_eq rfl rfl) fun _ =>
          Within.pure Trails.refl _
    | finalizeEscrowRefund => exact trails_writeRefundGuarded trails_finalizeEscrowRefundInState
    | setFactoryEvmAddress => exact Within.modify fun s => Trails.of_eq rfl rfl
    | startSpawn => exact trails_applySessionEventInState (by decide)
    | failSpawn other nowMs reason runtime error =>
      refine Within.bind Trails.trans (Within.modify fun s => ?_) fun _ =>
        trails_markSessionFailedInState
      cases runtime with
      | none => exact Trails.refl s
      | some runtime =>
        exact Trails.trans (t := s.putRuntime runtime.canisterId runtime) (Trails.of_eq rfl rfl)
          (Trails.updateSession fun _ _ => rfl)
    | persistSpawnRuntime other runtime =>
      exact Within.modify fun s =>
        Trails.trans (t := s.putRuntime runtime.canisterId runtime) (Trails.of_eq rfl rfl)
          (Trails.updateSession fun _ _ => rfl)
    | installSucceeded other canisterId evmAddress installed nowMs reason =>
      refine Within.bind Trails.trans (Within.modify fun s => ?_) fun _ =>
        Within.bind Trails.trans
          (Within.modify fun s => Trails.updateSession fun _ _ => rfl) fun _ =>
            trails_applySessionEventInState (by decide)
      cases installed with
      | none => exact Trails.refl s
      | some runtime => exact Trails.of_eq rfl rfl
    | reserveReleaseNonce =>
      refine Within.bind Trails.trans (Within.get Trails.refl) fun state => ?_
      exact Within.bind Trails.trans (Within.modify fun s => Trails.of_eq rfl rfl) fun _ =>
        Within.pure Trails.refl _
    | persistReleaseBroadcastRecord =>
      exact trails_writeReleaseGuarded
        (Within.modify fun s => Trails.updateSession fun _ _ => rfl)
    | finalizeConfirmedRelease other guard release =>
      refine trails_writeReleaseGuarded ?_
      refine Within.bind Trails.trans (within_getSession Trails.refl) fun session => ?_
      refine Within.bind Trails.trans (Within.modify fun s => ?_) fun _ =>
        trails_applySessionEventInState (by decide)
      exact Trails.trans (t := s.updateSession other (·.release release))
        (Trails.updateSession fun _ _ => rfl) (Trails.of_eq rfl rfl)
    | retryFailedSession => exact trails_retrySpawnSessionInState
    | markSessionFailed => exact trails_markSessionFailedInState
    | expireSpawnSession => exact trails_applySessionEventInState (by decide)
  exact hperform state

/-- The entries ever written for a session: the log keeps the newest ones, they lead from nothing to
where the session is, and the first one says that it waits for its payment. -/
structure Recorded (sessionId : String) (state : FactoryState)
    (history : List SessionAuditEntry) : Prop where
  stored : state.auditOf sessionId = keepNewest maxAuditEntriesPerSession history
  path : Path SessionAuditEntry.fromState SessionAuditEntry.toState none history
    (state.stateOf sessionId)
  opened : ∀ first rest, history = first :: rest → first.toState = .awaitingPayment

section Histories

variable {libraries : Libraries} {sessionId : String} {s t : FactoryState}
  {history : List SessionAuditEntry}

theorem maxAuditEntries_pos : 0 < maxAuditEntriesPerSession := by decide

/-- Something is stored about a session exactly when the session is there. -/
theorem Recorded.auditOf_eq_nil (h : Recorded sessionId s history) :
    s.auditOf sessionId = [] ↔ s.stateOf sessionId = none := by
  rw [h.stored, keepNewest_eq_nil maxAuditEntries_pos, h.path.eq_nil_iff]

/-- A session is where its newest entry says. -/
theorem Recorded.getLast? (h : Recorded sessionId s history) {session : SpawnSession}
    (hsession : s.sessions[sessionId]? = some session) :
    (s.auditOf sessionId).getLast?.map (·.toState) = some session.state := by
  have hstate : s.stateOf sessionId = some session.state := by
    unfold FactoryState.stateOf
    rw [hsession]
    rfl
  have hne : history ≠ [] := by
    rw [ne_eq, h.path.eq_nil_iff, hstate]
    exact Option.some_ne_none _
  rw [h.stored, getLast?_keepNewest maxAuditEntries_pos, h.path.getLast?_target hne, hstate]

/-- A log that takes up new entries is still the end of all that was written. -/
theorem Recorded.stored_append (h : Recorded sessionId s history)
    {added : List SessionAuditEntry}
    (haudit : t.auditOf sessionId =
      added.foldl (push maxAuditEntriesPerSession) (s.auditOf sessionId)) :
    t.auditOf sessionId = keepNewest maxAuditEntriesPerSession (history ++ added) := by
  rw [haudit, h.stored, foldl_push]

/-- Entries that lead on from where a session was. -/
theorem Recorded.trails {time : Option ℕ} (h : Recorded sessionId s history)
    (htrails : Trails time sessionId s t) :
    ∃ added : List SessionAuditEntry, (∀ entry ∈ added, time = some entry.timestamp) ∧
      t.auditOf sessionId =
        added.foldl (push maxAuditEntriesPerSession) (s.auditOf sessionId) ∧
      Recorded sessionId t (history ++ added) := by
  obtain ⟨added, hadded, haudit, hpath⟩ := htrails
  refine ⟨added, fun entry hentry => (hadded entry hentry).1, haudit, h.stored_append haudit,
    h.path.append hpath, ?_⟩
  intro first rest hfirst
  cases history with
  | nil =>
    -- nothing but a creation adds a first entry
    obtain rfl : added = first :: rest := hfirst
    have hnone : none = s.stateOf sessionId := h.path
    exact absurd (hpath.1.trans hnone.symm) (hadded first List.mem_cons_self).2
  | cons opening later =>
    obtain ⟨rfl, -⟩ := List.cons_eq_cons.mp hfirst
    exact h.opened opening later rfl

/-- The first entry of a session. -/
theorem Recorded.opening (h : Recorded sessionId s history) {nowMs : ℕ}
    {opening : SessionAuditEntry} (hnone : s.stateOf sessionId = none)
    (htime : opening.timestamp = nowMs) (hfrom : opening.fromState = none)
    (hto : opening.toState = .awaitingPayment) (haudit : t.auditOf sessionId = [opening])
    (hstate : t.stateOf sessionId = some .awaitingPayment) :
    ∃ added : List SessionAuditEntry, (∀ entry ∈ added, some nowMs = some entry.timestamp) ∧
      t.auditOf sessionId =
        added.foldl (push maxAuditEntriesPerSession) (s.auditOf sessionId) ∧
      Recorded sessionId t (history ++ added) := by
  have hpushed : t.auditOf sessionId =
      [opening].foldl (push maxAuditEntriesPerSession) (s.auditOf sessionId) := by
    rw [h.auditOf_eq_nil.mpr hnone, haudit]
    rfl
  obtain rfl : history = [] := h.path.eq_nil_iff.mpr hnone
  refine ⟨[opening], by simp [htime], hpushed, h.stored_append hpushed, ⟨hfrom, ?_⟩, ?_⟩
  · rw [hstate, hto]
    rfl
  · intro first rest hfirst
    obtain ⟨rfl, -⟩ := List.cons_eq_cons.mp hfirst
    exact hto

end Histories

/-- A creation that passes the checks before its first write meets no session under its id, or one
that still waits for its payment. -/
def FactoryAct.CreatesApart (libraries : Libraries) (state : FactoryState) :
    FactoryAct → Prop
  | .write (.createSpawnSession request sessionId origin _) =>
    Admitted libraries.toSessionExternals request origin state →
      ∀ session, state.sessions[sessionId]? = some session → session.state = .awaitingPayment
  | _ => True

/-- A step, and what it adds to the entries ever written for a session. They are of the time of the
step, and the log of the session takes up one after the other. -/
def RecordedStep (libraries : Libraries) (sessionId : String)
    (before : FactoryState × List SessionAuditEntry) (act : FactoryAct)
    (next : FactoryState × List SessionAuditEntry) : Prop :=
  act.Step libraries before.1 next.1 ∧ ∃ added : List SessionAuditEntry,
    next.2 = before.2 ++ added ∧ (∀ entry ∈ added, act.time = some entry.timestamp) ∧
      next.1.auditOf sessionId =
        added.foldl (push maxAuditEntriesPerSession) (before.1.auditOf sessionId)

/-- What is written for a session from the empty factory on. -/
abbrev HasHistory (libraries : Libraries) (sessionId : String) (state : FactoryState)
    (history : List SessionAuditEntry) : Prop :=
  Reachable (fun start => start.1.IsEmpty ∧ start.2 = []) (RecordedStep libraries sessionId)
    (state, history)

/-- An entry that says that a session is new. -/
def SessionAuditEntry.IsOpening (entry : SessionAuditEntry) : Prop := entry.fromState = none

/-- The stored entries are the newest of all that were written, each starts where the one before
it ended, the last one ended where the session is, and the first one ever written, and no other,
says that the session is new. -/
structure AuditTrail (stored history : List SessionAuditEntry) (state : SpawnSessionState) :
    Prop where
  newest : stored = keepNewest maxAuditEntriesPerSession history
  bounded : stored.length ≤ maxAuditEntriesPerSession
  connected : stored.IsChain fun entry next => next.fromState = some entry.toState
  current : stored.getLast?.map (·.toState) = some state
  opened : ∃ first rest, history = first :: rest ∧ first.IsOpening ∧
    first.toState = .awaitingPayment ∧ ∀ entry ∈ rest, ¬ entry.IsOpening

/-- Every session has its audit trail. -/
def AuditTrails (libraries : Libraries) (state : FactoryState) : Prop :=
  ∀ (sessionId : String) (session : SpawnSession), state.sessions[sessionId]? = some session →
    ∃ history, HasHistory libraries sessionId state history ∧
      AuditTrail (state.auditOf sessionId) history session.state

section Creations

variable {libraries : Libraries} {externals : SessionExternals}
  {request checked : CreateSpawnSessionRequest} {amounts : QuoteAmounts} {sessionId other : String}
  {origin : SessionOrigin} {nowMs : ℕ} {s t : FactoryState}

/-- A creation changes nothing, or creates a session, or overwrites one that has a log. -/
theorem apply_createSpawnSession_cases (libraries : Libraries)
    (request : CreateSpawnSessionRequest) (other : String) (origin : SessionOrigin) (nowMs : ℕ)
    (s : FactoryState) :
    let t := Op.apply libraries (.createSpawnSession request other origin nowMs) s
    (¬ Admitted libraries.toSessionExternals request origin s ∧ t = s) ∨
      Admitted libraries.toSessionExternals request origin s ∧ ∃ checked amounts,
        (s.auditOf other = [] ∧ t = s.created (newSession libraries.toSessionExternals s checked
          amounts other origin nowMs) nowMs) ∨
        s.auditOf other ≠ [] ∧ t = s.insertSession (newSession libraries.toSessionExternals s
          checked amounts other origin nowMs) := by
  intro t
  by_cases hpermits : Admitted libraries.toSessionExternals request origin s
  · right
    refine ⟨hpermits, ?_⟩
    obtain ⟨checked, amounts, hrequest, hquote⟩ := hpermits
    refine ⟨checked, amounts, ?_⟩
    by_cases haudit : s.auditOf other = []
    · exact .inl ⟨haudit, after_of_ok (run_create_of_no_audit hrequest hquote haudit)⟩
    · exact .inr ⟨haudit, after_of_error (run_create_of_audit hrequest hquote haudit)⟩
  · obtain ⟨error, hrun⟩ : ∃ error, createSpawnSessionWithSessionId libraries.toSessionExternals
        request other origin nowMs s = .error error s := run_create_of_not_admitted hpermits
    exact .inl ⟨hpermits, after_of_error hrun⟩

/-- A session that is stored waits for its payment. -/
theorem stateOf_insertSession :
    (s.insertSession (newSession externals s checked amounts other origin nowMs)).stateOf
      sessionId = if sessionId = other then some .awaitingPayment else s.stateOf sessionId := by
  have hkey : (newSession externals s checked amounts other origin nowMs).sessionId = other := rfl
  unfold FactoryState.stateOf
  rw [FactoryState.insertSession_sessions, BTreeMap.get?_insert, hkey]
  by_cases hid : sessionId = other
  · rw [if_pos hid, if_pos hid.symm]
    rfl
  · rw [if_neg hid, if_neg (Ne.symm hid)]

/-- So does one that is created. -/
theorem stateOf_created :
    (s.created (newSession externals s checked amounts other origin nowMs) nowMs).stateOf
      sessionId = if sessionId = other then some .awaitingPayment else s.stateOf sessionId := by
  unfold FactoryState.stateOf
  rw [getElem?_created_sessions]
  split
  · rfl
  · rfl

/-- The log of a session that is created has one entry. -/
theorem auditOf_created (haudit : s.auditOf other = []) :
    (s.created (newSession externals s checked amounts other origin nowMs) nowMs).auditOf
      sessionId = if sessionId = other
        then [⟨other, nowMs, none, .awaitingPayment, .user, "session created"⟩]
        else s.auditOf sessionId := by
  have hlogs := @created_claim_and_audit externals checked other origin nowMs s amounts haudit
  split
  · rename_i hid
    subst hid
    exact hlogs.2.1
  · rename_i hid
    unfold FactoryState.auditOf
    rw [hlogs.2.2.2 sessionId hid]

/-- What a creation adds, where every session under its id has waited for its payment. -/
theorem Recorded.creation {history : List SessionAuditEntry} (h : Recorded sessionId s history)
    (hcreates : (FactoryAct.write (.createSpawnSession request other origin nowMs)).CreatesApart
      libraries s) :
    let t := Op.apply libraries (.createSpawnSession request other origin nowMs) s
    ∃ added : List SessionAuditEntry, (∀ entry ∈ added, some nowMs = some entry.timestamp) ∧
      t.auditOf sessionId =
        added.foldl (push maxAuditEntriesPerSession) (s.auditOf sessionId) ∧
      Recorded sessionId t (history ++ added) := by
  intro t
  rcases apply_createSpawnSession_cases libraries request other origin nowMs s with
    ⟨-, ht⟩ | ⟨hpermits, checked, amounts, ⟨haudit, ht⟩ | ⟨haudit, ht⟩⟩
  · exact h.trails (Trails.of_eq (congrArg (·.auditOf sessionId) ht)
      (congrArg (·.stateOf sessionId) ht))
  · have hopened : t.auditOf sessionId = _ :=
      (congrArg (·.auditOf sessionId) ht).trans (auditOf_created haudit)
    have hstored : t.stateOf sessionId = _ :=
      (congrArg (·.stateOf sessionId) ht).trans stateOf_created
    by_cases hid : sessionId = other
    · subst hid
      rw [if_pos rfl] at hopened hstored
      exact h.opening (h.auditOf_eq_nil.mp haudit) rfl rfl rfl hopened hstored
    · rw [if_neg hid] at hopened hstored
      exact h.trails (Trails.of_eq hopened hstored)
  · -- the event is refused, and the session is stored again
    have hkept : t.auditOf sessionId = s.auditOf sessionId := congrArg (·.auditOf sessionId) ht
    have hstored : t.stateOf sessionId = _ :=
      (congrArg (·.stateOf sessionId) ht).trans stateOf_insertSession
    by_cases hid : sessionId = other
    · subst hid
      have hthere : s.stateOf sessionId ≠ none := fun hnone =>
        haudit (h.auditOf_eq_nil.mpr hnone)
      obtain ⟨state, hstate⟩ := Option.ne_none_iff_exists'.mp hthere
      obtain ⟨session, hsession, rfl⟩ := Option.map_eq_some_iff.mp hstate
      rw [if_pos rfl, ← hcreates hpermits session hsession] at hstored
      exact h.trails (Trails.of_eq hkept (hstored.trans hstate.symm))
    · rw [if_neg hid] at hstored
      exact h.trails (Trails.of_eq hkept hstored)

end Creations

section Runs

variable {libraries : Libraries} {sessionId : String} {s t : FactoryState} {act : FactoryAct}
  {history : List SessionAuditEntry}

/-- What a step adds. -/
theorem Recorded.step (h : Recorded sessionId s history)
    (hstep : Restrict (FactoryAct.Step libraries)
      (fun state act => act.CreatesApart libraries state) s act t) :
    ∃ added : List SessionAuditEntry, (∀ entry ∈ added, act.time = some entry.timestamp) ∧
      t.auditOf sessionId =
        added.foldl (push maxAuditEntriesPerSession) (s.auditOf sessionId) ∧
      Recorded sessionId t (history ++ added) := by
  obtain ⟨hstep, hcreates⟩ := hstep
  cases act with
  | write op =>
    obtain rfl : t = op.apply libraries s := hstep
    by_cases hop : op.kind = .creation
    · cases op with
      | createSpawnSession request other origin nowMs => exact h.creation hcreates
      | _ => cases hop
    · exact h.trails (trails_apply libraries hop sessionId s)
  | configure =>
    obtain ⟨hsessions, -, haudit⟩ := hstep
    refine h.trails (Trails.of_eq ?_ ?_)
    · unfold FactoryState.auditOf
      rw [haudit]
    · unfold FactoryState.stateOf
      rw [hsessions]

/-- In every run whose creations are apart, every session has its history. -/
theorem exists_history (hreach : Reachable FactoryState.IsEmpty (Restrict
      (FactoryAct.Step libraries) fun state act => act.CreatesApart libraries state) s)
    (sessionId : String) :
    ∃ history, HasHistory libraries sessionId s history ∧ Recorded sessionId s history := by
  induction hreach with
  | start hempty =>
    obtain ⟨hsession, haudit⟩ := hempty sessionId
    refine ⟨[], .start ⟨hempty, rfl⟩, ?_, ?_, by simp⟩
    · simp [FactoryState.auditOf, haudit, keepNewest]
    · have hnone : _ = none := congrArg (Option.map SpawnSession.state) hsession
      exact hnone.symm
  | step _ hstep ih =>
    obtain ⟨history, hhistory, hrecorded⟩ := ih
    obtain ⟨added, htimes, haudit, hnext⟩ := hrecorded.step hstep
    exact ⟨history ++ added, hhistory.step ⟨hstep.1, added, rfl, htimes, haudit⟩, hnext⟩

/-- A session whose entries are recorded has its audit trail. -/
theorem Recorded.auditTrail (h : Recorded sessionId s history) {session : SpawnSession}
    (hsession : s.sessions[sessionId]? = some session) :
    AuditTrail (s.auditOf sessionId) history session.state where
  newest := h.stored
  bounded := by
    rw [h.stored]
    exact length_keepNewest
  connected := by
    rw [h.stored]
    exact h.path.isChain.suffix keepNewest_suffix
  current := h.getLast? hsession
  opened := by
    cases history with
    | nil =>
      have hnone : none = s.stateOf sessionId := h.path
      unfold FactoryState.stateOf at hnone
      rw [hsession] at hnone
      cases hnone
    | cons first rest =>
      exact ⟨first, rest, rfl, h.path.1, h.opened first rest rfl, h.path.source_ne_none⟩

/-- In every run whose creations are apart, every session has its audit trail. -/
theorem auditTrails_of_reachable (hreach : Reachable FactoryState.IsEmpty (Restrict
      (FactoryAct.Step libraries) fun state act => act.CreatesApart libraries state) s) :
    AuditTrails libraries s := by
  intro sessionId session hsession
  obtain ⟨history, hhistory, hrecorded⟩ := exists_history hreach sessionId
  exact ⟨history, hhistory, hrecorded.auditTrail hsession⟩

/-- A creation that is not apart puts a session back that its log has seen move. -/
theorem not_auditTrails (hreach : Reachable FactoryState.IsEmpty (Restrict
      (FactoryAct.Step libraries) fun state act => act.CreatesApart libraries state) s)
    (hstep : act.Step libraries s t) (h : ¬ act.CreatesApart libraries s) :
    ¬ AuditTrails libraries t := by
  intro htrails
  cases act with
  | configure => exact h trivial
  | write op =>
    cases op with
    | createSpawnSession request other origin nowMs =>
      obtain ⟨hpermits, hmoved⟩ := Classical.not_imp.mp h
      obtain ⟨session, hsession, hstate⟩ : ∃ session : SpawnSession,
          s.sessions[other]? = some session ∧ session.state ≠ .awaitingPayment := by
        simpa only [not_forall, exists_prop] using hmoved
      obtain ⟨history, -, hrecorded⟩ := exists_history hreach other
      have hlast := hrecorded.getLast? hsession
      have hlogged : s.auditOf other ≠ [] := by
        intro hnil
        rw [hnil] at hlast
        cases hlast
      rcases apply_createSpawnSession_cases libraries request other origin nowMs s with
        ⟨hnot, -⟩ | ⟨-, checked, amounts, ⟨hnil, -⟩ | ⟨-, ht⟩⟩
      · exact hnot hpermits
      · exact hlogged hnil
      · obtain rfl : t = _ := Eq.trans hstep ht
        have hwaits : (s.insertSession (newSession libraries.toSessionExternals s checked amounts
            other origin nowMs)).stateOf other = some .awaitingPayment :=
          stateOf_insertSession.trans (if_pos rfl)
        obtain ⟨overwritten, hoverwritten, hnew⟩ := Option.map_eq_some_iff.mp hwaits
        obtain ⟨later, -, htrail⟩ := htrails other overwritten hoverwritten
        have hcurrent : (s.auditOf other).getLast?.map (·.toState) = some overwritten.state :=
          htrail.current
        rw [hlast, hnew] at hcurrent
        exact hstate (Option.some.inj hcurrent)
    | _ => exact h trivial

end Runs

/-- In every run whose creations are apart, every session has its audit trail in every state that is
reached, and the first creation that is not leaves a session without. -/
theorem auditTrails_while (libraries : Libraries) (state : FactoryState)
    (hreach : Reachable FactoryState.IsEmpty (Restrict (FactoryAct.Step libraries)
      fun state act => act.CreatesApart libraries state) state) :
    AuditTrails libraries state ∧ ∀ (act : FactoryAct) (next : FactoryState),
      act.Step libraries state next →
        (AuditTrails libraries next ↔ act.CreatesApart libraries state) := by
  refine ⟨auditTrails_of_reachable hreach, ?_⟩
  intro act next hstep
  constructor
  · intro htrails
    by_contra hnot
    exact not_auditTrails hreach hstep hnot htrails
  · intro happart
    exact auditTrails_of_reachable (hreach.step ⟨hstep, happart⟩)

/-- A factory whose first session was created and has expired. -/
def createdThenExpired : FactoryState :=
  Op.apply sampleLibraries (.expireSpawnSession firstId 1800002)
    (Op.apply sampleLibraries (.createSpawnSession sampleRequest firstId humanOrigin 1) .default)

theorem default_isEmpty : FactoryState.default.IsEmpty := fun _ =>
  ⟨by simp [FactoryState.default], by simp [FactoryState.default]⟩

theorem createdThenExpired_auditTrails : AuditTrails sampleLibraries createdThenExpired := by
  have hcreated : Reachable FactoryState.IsEmpty (Restrict (FactoryAct.Step sampleLibraries)
      fun state act => act.CreatesApart sampleLibraries state)
      (Op.apply sampleLibraries (.createSpawnSession sampleRequest firstId humanOrigin 1)
        .default) := by
    refine (Reachable.start default_isEmpty).step
      (a := FactoryAct.write (.createSpawnSession sampleRequest firstId humanOrigin 1)) ⟨rfl, ?_⟩
    intro _ session hsession
    rw [(default_isEmpty firstId).1] at hsession
    cases hsession
  exact (auditTrails_while sampleLibraries createdThenExpired (hcreated.step
    (a := FactoryAct.write (.expireSpawnSession firstId 1800002)) ⟨rfl, trivial⟩)).1

/-- A second creation under the id of an expired session. -/
theorem createdAgain_untracked : ¬ ∀ state,
    Reachable FactoryState.IsEmpty (FactoryAct.Step sampleLibraries) state →
      AuditTrails sampleLibraries state := by
  intro h
  let overwritten := Op.apply sampleLibraries
    (.createSpawnSession sampleRequest firstId humanOrigin 1800003) createdThenExpired
  have hcreated : Reachable FactoryState.IsEmpty (FactoryAct.Step sampleLibraries)
      (Op.apply sampleLibraries (.createSpawnSession sampleRequest firstId humanOrigin 1)
        .default) :=
    (Reachable.start default_isEmpty).step
      (a := FactoryAct.write (.createSpawnSession sampleRequest firstId humanOrigin 1)) rfl
  have hexpired : Reachable FactoryState.IsEmpty (FactoryAct.Step sampleLibraries)
      createdThenExpired :=
    hcreated.step (a := FactoryAct.write (.expireSpawnSession firstId 1800002)) rfl
  have hreach : Reachable FactoryState.IsEmpty (FactoryAct.Step sampleLibraries) overwritten :=
    hexpired.step
      (a := FactoryAct.write (.createSpawnSession sampleRequest firstId humanOrigin 1800003)) rfl
  have hsample : overwritten.stateOf firstId = some .awaitingPayment ∧
      (overwritten.auditOf firstId).getLast?.map (·.toState) = some .expired := by
    decide +kernel
  obtain ⟨hstate, hlast⟩ := hsample
  obtain ⟨session, hsession, hwaits⟩ := Option.map_eq_some_iff.mp hstate
  obtain ⟨history, -, htrail⟩ := h overwritten hreach firstId session hsession
  have hcurrent := htrail.current
  rw [hlast, hwaits] at hcurrent
  cases hcurrent

end Automaton.Factory
