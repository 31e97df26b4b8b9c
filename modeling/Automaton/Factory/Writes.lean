import Automaton.Factory.SessionEvolution

/-!
# The elementary writes

Every operation of the factory is a sequence of elementary writes: events, payments, and
writes to one part of the state. What every elementary write respects, every operation
respects.
-/

namespace Automaton.Factory

open Machine Persist Relation

/-- What operations are for: only creations store sessions, only scans record payments, and
only failures fail a spawn. -/
inductive OpKind
  | creation
  | scan
  | failure
  | other
  deriving DecidableEq

/-- The kind of an operation. -/
def Op.kind : Op → OpKind
  | .createSpawnSession .. => .creation
  | .reconcileEscrowPayments .. => .scan
  | .applyPaymentScan .. => .scan
  | .failSpawn .. => .failure
  | .markSessionFailed .. => .failure
  | _ => .other

/-- The events that neither create a session nor make it ready for its spawn. -/
def SpawnSessionEvent.IsPlain (event : SpawnSessionEvent) : Prop :=
  event ≠ .sessionCreated ∧ event ≠ .paymentObserved ∧ event ≠ .retryRequested

/-- The session, if there is one, waits for its payment. -/
def Waiting (sessionId : String) (s : FactoryState) : Prop :=
  ∀ session, s.sessions[sessionId]? = some session → sessionNeedsPaymentPoll session = true

/-- Operations on other sessions do not change that. -/
theorem Waiting.of_onlySession {sessionId other : String} {s t : FactoryState}
    (h : Waiting other s) (hne : other ≠ sessionId) (honly : OnlySession sessionId s t) :
    Waiting other t := by
  intro session hsession
  rw [honly.sessions other hne] at hsession
  exact h session hsession

/-- The terms that a session was created with. -/
structure SameTerms (session session' : SpawnSession) : Prop where
  sessionId : session'.sessionId = session.sessionId
  origin : session'.origin = session.origin
  grossAmount : session'.grossAmount = session.grossAmount
  platformFee : session'.platformFee = session.platformFee
  creationCost : session'.creationCost = session.creationCost
  netForwardAmount : session'.netForwardAmount = session.netForwardAmount
  royaltyAllocations : session'.royaltyAllocations = session.royaltyAllocations

protected theorem SameTerms.refl (session : SpawnSession) : SameTerms session session :=
  ⟨rfl, rfl, rfl, rfl, rfl, rfl, rfl⟩

protected theorem SameTerms.trans {session session' session'' : SpawnSession}
    (h : SameTerms session session') (h' : SameTerms session' session'') :
    SameTerms session session'' where
  sessionId := h'.sessionId.trans h.sessionId
  origin := h'.origin.trans h.origin
  grossAmount := h'.grossAmount.trans h.grossAmount
  platformFee := h'.platformFee.trans h.platformFee
  creationCost := h'.creationCost.trans h.creationCost
  netForwardAmount := h'.netForwardAmount.trans h.netForwardAmount
  royaltyAllocations := h'.royaltyAllocations.trans h.royaltyAllocations

/-- What a write to a session keeps that is not about its progress. -/
structure SameProgress (session session' : SpawnSession) : Prop
    extends SameTerms session session' where
  state : session'.state = session.state
  paymentStatus : session'.paymentStatus = session.paymentStatus
  retryable : session'.retryable = session.retryable
  expiresAt : session'.expiresAt = session.expiresAt
  updatedAt : session'.updatedAt = session.updatedAt

/-- Recording the canister of an automaton. -/
theorem sameProgress_withAutomaton {canisterId evmAddress : Option String}
    (session : SpawnSession) : SameProgress session (session.withAutomaton canisterId evmAddress) :=
  ⟨⟨rfl, rfl, rfl, rfl, rfl, rfl, rfl⟩, rfl, rfl, rfl, rfl, rfl⟩

/-- Recording a release transaction. -/
theorem sameProgress_withReleaseBroadcast {record : ReleaseBroadcastRecord}
    (session : SpawnSession) : SameProgress session (session.withReleaseBroadcast record) :=
  ⟨⟨rfl, rfl, rfl, rfl, rfl, rfl, rfl⟩, rfl, rfl, rfl, rfl, rfl⟩

/-- Recording a confirmed release. -/
theorem sameProgress_release {release : ConfirmedRelease} (session : SpawnSession) :
    SameProgress session (session.release release) :=
  ⟨⟨rfl, rfl, rfl, rfl, rfl, rfl, rfl⟩, rfl, rfl, rfl, rfl, rfl⟩

/-- An elementary write of an operation of some kind. -/
inductive Write (kind : OpKind) (s : FactoryState) : FactoryState → Prop
  | event (sessionId : String) (actor : SessionAuditActor) (nowMs : ℕ) {event : SpawnSessionEvent}
      (reason : String) (hevent : event.IsPlain)
      (hfailed : event = .spawnFailed → kind = .failure) :
      Write kind s (after (applySessionEventInState sessionId actor nowMs event reason) s)
  | created (sessionId : String) (actor : SessionAuditActor) (nowMs : ℕ) (reason : String)
      (hkind : kind = .creation) :
      Write kind s
        (after (applySessionEventInState sessionId actor nowMs .sessionCreated reason) s)
  | retry (sessionId : String) (actor : SessionAuditActor) (nowMs : ℕ) (reason : String) :
      Write kind s (after (retrySpawnSessionInState sessionId actor nowMs reason) s)
  | detect (sessionId : String) (nowMs : ℕ) (hkind : kind = .scan) :
      Write kind s (after (detectPayment sessionId nowMs) s)
  | payment (sessionId : String) (payment : ObservedPayment) (scanToBlock nowMs : ℕ)
      (hkind : kind = .scan) (hwaits : Waiting sessionId s) :
      Write kind s (s.updateSession sessionId (·.observe payment scanToBlock nowMs))
  | flags (sessionId : String) (nowMs : ℕ)
      (hnow : ∀ session, s.sessions[sessionId]? = some session → session.updatedAt = nowMs) :
      Write kind s (after (syncSessionDerivedFlagsInState sessionId nowMs) s)
  | session (sessionId : String) (f : SpawnSession → SpawnSession)
      (hf : ∀ session, SameProgress session (f session)) :
      Write kind s (s.updateSession sessionId f)
  | refund (sessionId : String) (session : SpawnSession) (nowMs : ℕ)
      (hsession : s.sessions[sessionId]? = some session) :
      Write kind s (s.refunded sessionId session nowMs)
  | claim (sessionId : String) (f : EscrowClaim → EscrowClaim) :
      Write kind s (s.updateClaim sessionId f)
  | newSession (session : SpawnSession) (hkind : kind = .creation)
      (hstate : session.state = .awaitingPayment) (hretryable : session.retryable = false) :
      Write kind s (s.insertSession session)
  | newClaim (session : SpawnSession) (nowMs : ℕ) (hkind : kind = .creation) :
      Write kind s (s.registerEscrowClaim session nowMs)
  | enqueue (sessionId : String) (nowMs : ℕ) :
      Write kind s (s.enqueueSpawnExecution sessionId nowMs)
  | pollJob (nowMs : ℕ) : Write kind s (s.syncPaymentPollJob nowMs)
  | scanCursor (scanToBlock : ℕ) : Write kind s (s.withScanCursor scanToBlock)
  | runtimes (runtimes : BTreeMap String AutomatonRuntimeState) :
      Write kind s { s with runtimes := runtimes }
  | registry (registry : BTreeMap String SpawnedAutomatonRecord) :
      Write kind s { s with registry := registry }
  | releaseNonce (nonce : ℕ) : Write kind s (s.reserveNonce nonce)
  | factoryEvmAddress (address : String) (nowMs : ℕ) :
      Write kind s (s.withFactoryEvmAddress address nowMs)
  | stewardNonce (sessionId : String) :
      Write kind s { s with stewardCommandNonces :=
        s.stewardCommandNonces.insert sessionId (s.stewardNonce sessionId + 1) }
  | refundCommands (inFlight : BTreeMap String Unit) (leases : BTreeMap String RefundCommandLease) :
      Write kind s { s with stewardRefundsInFlight := inFlight, stewardRefundLeases := leases }

/-- Any number of elementary writes. -/
abbrev Writes (kind : OpKind) : FactoryState → FactoryState → Prop := ReflTransGen (Write kind)

section Rules

variable {kind : OpKind} {α β : Type} {m : Update α} {f : α → Update β} {s t u : FactoryState}

/-- What elementary writes respect, sequences of them respect. -/
theorem Writes.within {R : FactoryState → FactoryState → Prop} (hrefl : ∀ s, R s s)
    (htrans : ∀ {s t u}, R s t → R t u → R s u) (hwrite : ∀ {s t}, Write kind s t → R s t)
    (h : Writes kind s t) : R s t := by
  induction h with
  | refl => exact hrefl s
  | tail _ hlast ih => exact htrans ih (hwrite hlast)

protected theorem Writes.refl (s : FactoryState) : Writes kind s s := ReflTransGen.refl

protected theorem Writes.trans (h : Writes kind s t) (h' : Writes kind t u) : Writes kind s u :=
  ReflTransGen.trans h h'

theorem Writes.bind (hm : Within (Writes kind) m) (hf : ∀ a, Within (Writes kind) (f a)) :
    Within (Writes kind) (m >>= f) :=
  Within.bind Writes.trans hm hf

theorem Writes.pure (a : α) : Within (Writes kind) (pure a : Update α) :=
  Within.pure Writes.refl a

theorem Writes.get : Within (Writes kind) (get : Update FactoryState) := Within.get Writes.refl

theorem Writes.ofExcept (result : Except FactoryError α) :
    Within (Writes kind) (ofExcept result : Update α) :=
  Within.ofExcept Writes.refl result

theorem Writes.write {g : FactoryState → FactoryState} (h : ∀ s, Write kind s (g s)) :
    Within (Writes kind) (modify g : Update PUnit) :=
  Within.modify fun s => ReflTransGen.single (h s)

theorem Writes.update (h : ∀ s, Write kind s (after m s)) : Within (Writes kind) m :=
  fun s => ReflTransGen.single (h s)

end Rules

section Updates

variable {kind : OpKind} {sessionId : String} {nowMs scanToBlock : ℕ} {actor : SessionAuditActor}
  {event : SpawnSessionEvent} {reason : String} {externals : Externals}

/-- Deriving the flags is an operation on its session. -/
theorem onlySession_syncSessionDerivedFlagsInState :
    Within (OnlySession sessionId) (syncSessionDerivedFlagsInState sessionId nowMs) := by
  refine Within.bind OnlySession.trans (within_getSession OnlySession.refl) fun session => ?_
  refine Within.bind OnlySession.trans
    (Within.modify fun s => OnlySession.updateSession s _) fun _ => ?_
  exact Within.bind OnlySession.trans (Within.modify fun s => OnlySession.updateClaim s _) fun _ =>
    Within.pure OnlySession.refl _

/-- Recording a payment is an operation on its session. -/
theorem onlySession_recordPayment {payment : ObservedPayment} :
    Within (OnlySession sessionId) (recordPayment sessionId payment scanToBlock nowMs) := by
  refine Within.bind OnlySession.trans (within_getClaim OnlySession.refl) fun _ => ?_
  refine Within.bind OnlySession.trans (Within.modify fun s => OnlySession.updateClaim s _)
    fun _ => ?_
  refine Within.bind OnlySession.trans (within_getSession OnlySession.refl) fun _ => ?_
  exact Within.bind OnlySession.trans (Within.modify fun s => OnlySession.updateSession s _)
    fun _ => onlySession_syncSessionDerivedFlagsInState

/-- The time of a write is the time of the session. -/
theorem updatedAt_updateSession {s : FactoryState} {f : SpawnSession → SpawnSession}
    (hf : ∀ session, (f session).updatedAt = nowMs) {session : SpawnSession}
    (hsession : (s.updateSession sessionId f).sessions[sessionId]? = some session) :
    session.updatedAt = nowMs := by
  rw [FactoryState.updateSession_sessions, BTreeMap.get?_modify, if_pos rfl] at hsession
  obtain ⟨earlier, -, rfl⟩ := Option.map_eq_some_iff.mp hsession
  exact hf earlier

/-- Recording a payment of a session that waits. -/
theorem writes_recordPayment {payment : ObservedPayment} {s : FactoryState}
    (hwaits : Waiting sessionId s) :
    Writes .scan s (after (recordPayment sessionId payment scanToBlock nowMs) s) := by
  refine after_bind_within Writes.trans (within_getClaim Writes.refl s) fun _ => ?_
  rw [after_getClaim]
  refine after_bind_within Writes.trans (.single (.claim _ _)) fun _ => ?_
  refine after_bind_within Writes.trans (within_getSession Writes.refl _) fun _ => ?_
  rw [after_getSession]
  refine after_bind_within Writes.trans (.single (.payment _ _ _ _ rfl hwaits)) fun _ =>
    .single (.flags _ _ fun session hsession => ?_)
  rw [after_modify] at hsession
  refine updatedAt_updateSession ?_ hsession
  exact fun _ => rfl

/-- An event that schedules the spawn is an operation on its session. -/
theorem onlySession_detectPayment :
    Within (OnlySession sessionId) (detectPayment sessionId nowMs) := by
  refine Within.bind OnlySession.trans within_applySessionEventInState fun session => ?_
  refine Within.modify fun s => ?_
  exact OnlySession.of_sameButJobs (sameButJobs_enqueueSpawnExecution s sessionId nowMs)

/-- So is a retry. -/
theorem onlySession_retrySpawnSessionInState :
    Within (OnlySession sessionId) (retrySpawnSessionInState sessionId actor nowMs reason) := by
  refine Within.bind OnlySession.trans within_applySessionEventInState fun session => ?_
  refine Within.bind OnlySession.trans (Within.modify fun s => ?_) fun _ =>
    Within.pure OnlySession.refl _
  exact OnlySession.of_sameButJobs (sameButJobs_enqueueSpawnExecution s sessionId nowMs)

theorem writes_applySessionEventInState (hevent : event.IsPlain)
    (hfailed : event = .spawnFailed → kind = .failure) :
    Within (Writes kind) (applySessionEventInState sessionId actor nowMs event reason) :=
  Writes.update fun _ => .event _ _ _ _ hevent hfailed

theorem writes_expireSessionInState :
    Within (Writes kind) (expireSessionInState sessionId actor nowMs reason) :=
  writes_applySessionEventInState ⟨nofun, nofun, nofun⟩ nofun

theorem writes_markSessionFailedInState :
    Within (Writes .failure) (markSessionFailedInState sessionId actor nowMs reason) := by
  refine Writes.bind (writes_applySessionEventInState ⟨nofun, nofun, nofun⟩ fun _ => rfl)
    fun session => ?_
  split
  · exact Writes.bind (Writes.write fun _ => .enqueue _ _) fun _ => Writes.pure _
  · exact Writes.pure _

theorem writes_advanceAfterPayment {detected : Bool} {expiresAt : ℕ} :
    Within (Writes .scan) (advanceAfterPayment sessionId detected expiresAt nowMs) := by
  refine Writes.bind (Within.when Writes.refl (Writes.update fun _ => .detect _ _ rfl)) fun _ => ?_
  exact Writes.bind (Within.when Writes.refl (Within.discard Writes.refl Writes.trans
    writes_expireSessionInState)) fun _ => within_getClaim Writes.refl

/-- The steps of a scan for one session are an operation on it. -/
theorem onlySession_advanceAfterPayment {detected : Bool} {expiresAt : ℕ} :
    Within (OnlySession sessionId) (advanceAfterPayment sessionId detected expiresAt nowMs) := by
  refine Within.bind OnlySession.trans
    (Within.when OnlySession.refl onlySession_detectPayment) fun _ => ?_
  refine Within.bind OnlySession.trans (Within.when OnlySession.refl ?_) fun _ =>
    within_getClaim OnlySession.refl
  exact Within.discard OnlySession.refl OnlySession.trans within_applySessionEventInState

theorem onlySession_reconcileSession {amounts : DepositAmountsByClaim} {endpoints : List String}
    {blockHashes : BlockHashes} :
    Within (OnlySession sessionId)
      (reconcileSession amounts endpoints blockHashes scanToBlock nowMs sessionId) := by
  refine Within.bind OnlySession.trans (within_getSession OnlySession.refl) fun session => ?_
  refine Within.bind OnlySession.trans (within_getClaim OnlySession.refl) fun claim => ?_
  refine Within.bind OnlySession.trans (Within.ofExcept OnlySession.refl _) fun payment => ?_
  exact Within.bind OnlySession.trans onlySession_recordPayment fun _ =>
    onlySession_advanceAfterPayment

/-- One iteration of the host's scan, on a session that waits. -/
theorem writes_reconcileSession {amounts : DepositAmountsByClaim} {endpoints : List String}
    {blockHashes : BlockHashes} {s : FactoryState} (hwaits : Waiting sessionId s) :
    Writes .scan s
      (after (reconcileSession amounts endpoints blockHashes scanToBlock nowMs sessionId) s) := by
  refine after_bind_within Writes.trans (within_getSession Writes.refl s) fun session => ?_
  rw [after_getSession]
  refine after_bind_within Writes.trans (within_getClaim Writes.refl s) fun claim => ?_
  rw [after_getClaim]
  refine after_bind_within Writes.trans (Writes.ofExcept _ s) fun payment => ?_
  rw [after_ofExcept]
  exact after_bind_within Writes.trans (writes_recordPayment hwaits) fun _ =>
    writes_advanceAfterPayment _

theorem writes_reconcileEscrowPayments {logs : List BaseDepositLog} {blockHashes : BlockHashes} :
    Within (Writes .scan) (reconcileEscrowPayments logs blockHashes scanToBlock nowMs) := by
  refine Writes.bind (Writes.ofExcept _) fun amounts => ?_
  intro s
  refine after_bind_within Writes.trans (.single (.scanCursor _)) fun _ => ?_
  rw [after_modify, after_bind_of_ok outcome_get, after_get]
  refine after_bind_within Writes.trans ?_ fun _ => ?_
  · -- The sessions of the loop wait when it starts, and no iteration touches another one.
    refine after_mapM_within Waiting Writes.refl Writes.trans
      (fun _ _ => writes_reconcileSession) ?_ (nodup_activeSessionIds _) ?_
    · intro item other t hne hwaits
      exact hwaits.of_onlySession hne (onlySession_reconcileSession t)
    · intro item hitem session hsession
      obtain ⟨session', hsession', hpoll⟩ := mem_activeSessionIds.mp hitem
      obtain rfl := Option.some.inj (hsession.symm.trans hsession')
      exact hpoll
  · exact after_bind_within Writes.trans (.single (.pollJob _)) fun _ => Writes.pure _ _

/-- The guard of an update holds only while the session waits. -/
theorem EscrowPaymentScanUpdate.waiting_of_guard (update : EscrowPaymentScanUpdate nowMs)
    {s : FactoryState} (h : ensurePaymentScanGuard s update.guard = .ok ()) :
    Waiting update.guard.sessionId s := by
  intro session hsession
  rw [ensurePaymentScanGuard, hsession] at h
  by_cases hmatches : update.guard.matchesSession session = true
  · obtain ⟨hpaid, hrefunded⟩ := update.unsettled
    simp only [EscrowPaymentScanGuard.matchesSession, Bool.and_eq_true,
      decide_eq_true_eq] at hmatches
    obtain ⟨⟨⟨⟨hstate, hstatus⟩, -⟩, -⟩, -⟩ := hmatches
    simp [sessionNeedsPaymentPoll, hstate, hstatus, update.awaiting, hpaid, hrefunded]
  · simp [hmatches] at h

/-- One iteration of the canister's scan. Its guard holds only while the session waits. -/
theorem writes_applyScanUpdate (update : EscrowPaymentScanUpdate nowMs) :
    Within (Writes .scan) (applyScanUpdate scanToBlock update) := by
  intro s
  unfold applyScanUpdate
  rw [after_bind_of_ok outcome_get, after_get]
  cases hguard : ensurePaymentScanGuard s update.guard with
  | error e => exact Writes.refl s
  | ok _ =>
    have hwaits : Waiting update.guard.sessionId s := update.waiting_of_guard hguard
    rw [after_bind_of_ok rfl, after_ofExcept]
    refine after_bind_within Writes.trans (writes_recordPayment hwaits) fun _ => ?_
    exact Writes.bind (within_getSession Writes.refl) (fun _ => writes_advanceAfterPayment) _

theorem writes_applyPaymentScan {updates : List (EscrowPaymentScanUpdate nowMs)} :
    Within (Writes .scan) (applyPaymentScan updates scanToBlock) := by
  refine Writes.bind (Writes.write fun _ => .scanCursor _) fun _ => ?_
  exact Writes.bind (Within.mapM Writes.refl Writes.trans writes_applyScanUpdate) fun _ =>
    Writes.bind (Writes.write fun _ => .pollJob _) fun _ => Writes.pure _

theorem writes_createSessionInState {externals : SessionExternals}
    {request : CreateSpawnSessionRequest} {origin : SessionOrigin} :
    Within (Writes .creation) (createSessionInState externals request sessionId origin nowMs) := by
  refine Writes.bind Writes.get fun state => ?_
  refine Writes.bind (Writes.ofExcept _) fun amounts => ?_
  refine Writes.bind (Writes.write fun _ => .newSession _ rfl rfl rfl) fun _ => ?_
  exact Writes.bind (Writes.update fun _ => .created _ _ _ _ rfl) fun _ => Writes.pure _

theorem writes_createSpawnSessionWithSessionId {externals : SessionExternals}
    {request : CreateSpawnSessionRequest} {origin : SessionOrigin} :
    Within (Writes .creation)
      (createSpawnSessionWithSessionId externals request sessionId origin nowMs) := by
  refine Writes.bind (Writes.ofExcept _) fun request => ?_
  refine Writes.bind writes_createSessionInState fun session => ?_
  refine Writes.bind (Writes.write fun _ => .newClaim _ _ rfl) fun _ => ?_
  exact Writes.bind (Writes.write fun _ => .pollJob _) fun _ => Writes.pure _

theorem writes_consumeNonce : Within (Writes kind) (consumeNonce sessionId) := by
  intro s
  rw [consumeNonce, after_bind_of_ok outcome_get, after_get]
  cases hnext : checkedAdd u64Max (s.stewardNonce sessionId) 1 with
  | none => exact Writes.refl s
  | some next =>
    rw [← (checkedAdd_eq_some.mp hnext).2]
    exact .single (.stewardNonce sessionId)

theorem writes_authorizeAndConsume {command : FactoryStewardCommand} {proof : FactoryStewardProof}
    {canisterId : String} {nowNs : ℕ} :
    Within (Writes kind)
      (authorizeAndConsume externals command proof canisterId nowNs nowMs) := by
  refine Writes.bind Writes.get fun state => ?_
  refine Writes.bind (Writes.ofExcept _) fun _ => ?_
  cases command with
  | retrySpawnSession sessionId =>
    refine Within.map Writes.trans Writes.refl ?_
    refine Writes.bind (Writes.update fun _ => .retry _ _ _ _) fun _ => ?_
    exact Writes.bind writes_consumeNonce fun _ => Writes.pure _
  | claimSpawnRefund sessionId =>
    refine Within.map Writes.trans Writes.refl ?_
    refine Writes.bind Writes.get fun state => ?_
    refine Writes.bind (Writes.ofExcept _) fun generation => ?_
    refine Writes.bind ?_ fun _ => Writes.bind ?_ fun _ => Writes.bind ?_ fun _ =>
      Writes.bind (Writes.write fun _ => .refundCommands _ _) fun _ => Writes.pure _
    · refine Writes.bind Writes.get fun _ => ?_
      exact Within.when Writes.refl
        (Within.discard Writes.refl Writes.trans writes_expireSessionInState)
    · refine Writes.bind (within_getSession Writes.refl) fun session => ?_
      refine Writes.bind (within_getClaim Writes.refl) fun claim => ?_
      split
      · exact Within.throw Writes.refl _
      · exact Writes.pure _
    · refine Writes.bind Writes.get fun _ => ?_
      refine Within.when Writes.refl (Writes.bind writes_consumeNonce fun _ => ?_)
      exact Writes.write fun _ => .refundCommands _ _

theorem writes_writeRefundGuarded {α : Type} {generation : ℕ} {mutation : Update α}
    (h : Within (Writes kind) mutation) :
    Within (Writes kind) (writeRefundGuarded sessionId generation mutation) :=
  Writes.bind Writes.get fun _ => Writes.bind (Writes.ofExcept _) fun _ => h

theorem writes_writeReleaseGuarded {α : Type} {guard : SpawnReleaseDraftGuard}
    {mutation : Update α} (h : Within (Writes kind) mutation) :
    Within (Writes kind) (writeReleaseGuarded sessionId guard mutation) :=
  Writes.bind Writes.get fun _ => Writes.bind (Writes.ofExcept _) fun _ => h

theorem writes_persistRefundTransactionRecordGuarded {claimId : String}
    {record : ReleaseBroadcastRecord} {generation : ℕ} :
    Within (Writes kind)
      (persistRefundTransactionRecordGuarded claimId record sessionId generation) := by
  refine writes_writeRefundGuarded (Writes.bind Writes.get fun state => ?_)
  split
  · exact Writes.write fun _ => .claim _ _
  · exact Within.throw Writes.refl _

theorem writes_draftRefundInState {session : SpawnSession} {escrow : String}
    {config : ReleaseBroadcastConfig} {pendingNonce : ℕ} :
    Within (Writes kind)
      (draftRefundInState externals sessionId session escrow config pendingNonce) := by
  refine Writes.bind Writes.get fun state => ?_
  split
  · exact Writes.bind (Writes.ofExcept _) fun _ => Writes.pure _
  · refine Writes.bind (Writes.ofExcept _) fun _ => ?_
    refine Writes.bind (Writes.write fun _ => .releaseNonce _) fun _ => ?_
    exact Writes.bind (Writes.write fun _ => .claim _ _) fun _ => Writes.pure _

theorem writes_finalizeEscrowRefundInState {refundTxHash : String} :
    Within (Writes kind) (finalizeEscrowRefundInState sessionId nowMs refundTxHash) := by
  intro s
  unfold finalizeEscrowRefundInState
  rw [after_bind_of_ok outcome_get, after_get]
  refine after_bind_within Writes.trans (Writes.ofExcept _ s) fun response => ?_
  rw [after_ofExcept]
  cases response with
  | some response => exact Writes.pure _ s
  | none =>
    cases hsession : s.sessions[sessionId]? with
    | none =>
      have hrun : recordRefund sessionId nowMs refundTxHash s =
          .error (.sessionNotFound sessionId) s := by
        rw [recordRefund, run_bind, run_getSession_none hsession]
      dsimp only
      rw [after_of_error hrun]
    | some session =>
      dsimp only
      rcases run_recordRefund hsession with ⟨response, runtimes, hrun⟩ | ⟨e, hrun⟩
      · rw [after_of_ok hrun]
        exact (ReflTransGen.single (.runtimes runtimes)).tail (.refund _ session nowMs hsession)
      · rw [after_of_error hrun]

theorem writes_persistFailedSpawnRuntime (runtime : AutomatonRuntimeState) (s : FactoryState) :
    Writes kind s (s.persistFailedSpawnRuntime sessionId runtime) :=
  (ReflTransGen.single (.runtimes _)).tail (.session _ _ sameProgress_withAutomaton)

theorem writes_clearRefundInFlight (generation : ℕ) (s : FactoryState) :
    Writes kind s (s.clearRefundInFlight sessionId generation) := by
  unfold FactoryState.clearRefundInFlight
  split
  · exact .single (.refundCommands _ _)
  · exact Writes.refl _

theorem writes_completeRelease {release : ConfirmedRelease} :
    Within (Writes kind) (completeRelease externals sessionId release) := by
  refine Writes.bind (within_getSession Writes.refl) fun session => ?_
  refine Writes.bind (Within.modify fun s => ?_) fun _ =>
    writes_applySessionEventInState ⟨nofun, nofun, nofun⟩ nofun
  have hsession : Write kind s (s.updateSession sessionId (·.release release)) :=
    .session _ _ sameProgress_release
  exact ((ReflTransGen.single hsession).tail (.runtimes _)).tail (.registry _)

end Updates

/-- Every operation is a sequence of elementary writes of its kind. -/
theorem writes_perform (libraries : Libraries) (op : Op) :
    Within (Writes op.kind) (op.perform libraries) := by
  cases op with
  | createSpawnSession => exact writes_createSpawnSessionWithSessionId
  | reconcileEscrowPayments => exact writes_reconcileEscrowPayments
  | applyPaymentScan => exact writes_applyPaymentScan
  | authorizeAndConsume => exact writes_authorizeAndConsume
  | clearRefundInFlight => exact Within.modify (writes_clearRefundInFlight _)
  | persistRefundBroadcastRecord =>
    exact writes_writeRefundGuarded (Writes.write fun _ => .claim _ _)
  | persistRefundTransactionRecord => exact writes_persistRefundTransactionRecordGuarded
  | draftRefund => exact writes_writeRefundGuarded writes_draftRefundInState
  | finalizeEscrowRefund => exact writes_writeRefundGuarded writes_finalizeEscrowRefundInState
  | setFactoryEvmAddress => exact Writes.write fun _ => .factoryEvmAddress _ _
  | startSpawn => exact writes_applySessionEventInState ⟨nofun, nofun, nofun⟩ nofun
  | failSpawn sessionId nowMs reason runtime error =>
    refine Writes.bind (Within.modify fun s => ?_) fun _ => writes_markSessionFailedInState
    cases runtime with
    | none => exact Writes.refl _
    | some runtime => exact writes_persistFailedSpawnRuntime runtime s
  | persistSpawnRuntime => exact Within.modify (writes_persistFailedSpawnRuntime _)
  | installSucceeded sessionId canisterId evmAddress installed nowMs reason =>
    refine Writes.bind (Within.modify fun s => ?_) fun _ =>
      Writes.bind (Writes.write fun _ => .session _ _ sameProgress_withAutomaton) fun _ =>
        writes_applySessionEventInState ⟨nofun, nofun, nofun⟩ nofun
    cases installed with
    | none => exact Writes.refl _
    | some runtime => exact .single (.runtimes _)
  | reserveReleaseNonce =>
    exact Writes.bind Writes.get fun _ =>
      Writes.bind (Writes.write fun _ => .releaseNonce _) fun _ => Writes.pure _
  | persistReleaseBroadcastRecord =>
    exact writes_writeReleaseGuarded
      (Writes.write fun _ => .session _ _ sameProgress_withReleaseBroadcast)
  | finalizeConfirmedRelease => exact writes_writeReleaseGuarded writes_completeRelease
  | retryFailedSession => exact Writes.update fun _ => .retry _ _ _ _
  | markSessionFailed => exact writes_markSessionFailedInState
  | expireSpawnSession => exact writes_expireSessionInState

end Automaton.Factory
