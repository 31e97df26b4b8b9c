import Automaton.Factory.Operations
import Automaton.Library.Fallible

/-!
# Atomicity of creations

The checks of a creation precede its first write, but for one: the event that opens the audit log is
refused where the log is not empty, and by then the session is stored.
-/

namespace Automaton.Factory

open Machine Persist

/-- `SpawnProviderSecrets`. -/
structure SpawnProviderSecrets where
  openRouterApiKey : Option String
  braveSearchApiKey : Option String
  deriving DecidableEq, Repr

/-- The state with the provider secrets, which are stored apart. -/
structure CreationStore where
  factory : FactoryState
  spawnProviderSecrets : BTreeMap String SpawnProviderSecrets

/-- `create_spawn_session_with_session_id` with the secrets of the request, which are stored when
session and event are. -/
def createSpawnSessionWithSecrets (externals : SessionExternals)
    (request : CreateSpawnSessionRequest) (providerSecrets : SpawnProviderSecrets)
    (sessionId : String) (origin : SessionOrigin) (nowMs : ℕ) (store : CreationStore) :
    Except FactoryError SpawnSession × CreationStore :=
  match createSpawnSessionWithSessionId externals request sessionId origin nowMs
      store.factory with
  | .error error factory => (.error error, { store with factory := factory })
  | .ok session factory =>
    (.ok session, ⟨factory, store.spawnProviderSecrets.insert sessionId providerSecrets⟩)

/-- Exactly one session, one claim and one audit entry are added. -/
structure AddsOne (sessionId : String) (session : SpawnSession) (s t : FactoryState) : Prop where
  newSession : s.sessions[sessionId]? = none
  newClaim : s.escrowClaims[sessionId]? = none
  session : t.sessions[sessionId]? = some session
  claim : (t.escrowClaims[sessionId]?).isSome = true
  audit : ∃ entry, t.auditLog[sessionId]?.getD [] = s.auditLog[sessionId]?.getD [] ++ [entry]
  otherSessions : ∀ other, other ≠ sessionId → t.sessions[other]? = s.sessions[other]?
  otherClaims : ∀ other, other ≠ sessionId → t.escrowClaims[other]? = s.escrowClaims[other]?
  otherAudits : ∀ other, other ≠ sessionId → t.auditLog[other]? = s.auditLog[other]?

/-- The amounts of a session add up to what is paid. -/
def QuoteAddsUp (session : SpawnSession) : Prop :=
  ∃ gross platformFee creationCost netForward,
    parseAmount session.grossAmount = .ok gross ∧
      parseAmount session.platformFee = .ok platformFee ∧
      parseAmount session.creationCost = .ok creationCost ∧
      parseAmount session.netForwardAmount = .ok netForward ∧
      platformFee + creationCost + netForward = gross

/-- A creation changes nothing or adds what it creates, with a quote that adds up. -/
structure CreationAtomic (externals : SessionExternals) (request : CreateSpawnSessionRequest)
    (providerSecrets : SpawnProviderSecrets) (sessionId : String) (origin : SessionOrigin)
    (nowMs : ℕ) (store : CreationStore) : Prop where
  refused : ∀ error store', createSpawnSessionWithSecrets externals request providerSecrets
    sessionId origin nowMs store = (.error error, store') → store' = store
  accepted : ∀ session store', createSpawnSessionWithSecrets externals request providerSecrets
    sessionId origin nowMs store = (.ok session, store') →
      AddsOne sessionId session store.factory store'.factory ∧ QuoteAddsUp session

/-- The request passes the checks that precede the first write. -/
def Admitted (externals : SessionExternals) (request : CreateSpawnSessionRequest)
    (origin : SessionOrigin) (state : FactoryState) : Prop :=
  ∃ checked amounts, checkRequest externals request origin.origin = .ok checked ∧
    admitSession externals state checked = .ok amounts

/-- Nothing is stored under the id, and fee and cost fit 128 bits together. -/
structure CreationFits (state : FactoryState) (sessionId : String) : Prop where
  session : state.sessions[sessionId]? = none
  claim : state.escrowClaims[sessionId]? = none
  audit : state.auditLog[sessionId]?.getD [] = []
  amounts : ∀ platformFee creationCost, parseAmount state.usdcFee = .ok platformFee →
    parseAmount state.usdcCreationCost = .ok creationCost → platformFee + creationCost ≤ u128Max

section Runs

variable {externals : SessionExternals} {request checked : CreateSpawnSessionRequest}
  {sessionId : String} {origin : SessionOrigin} {nowMs : ℕ} {s : FactoryState}
  {amounts : QuoteAmounts}

/-- The state after a creation that succeeds. -/
def FactoryState.created (state : FactoryState) (session : SpawnSession) (nowMs : ℕ) :
    FactoryState :=
  (((state.insertSession session).entered session.sessionId session
    ⟨none, .awaitingPayment, false⟩ .user nowMs "session created").registerEscrowClaim session
      nowMs).syncPaymentPollJob nowMs

/-- A request that is not admitted changes nothing. -/
theorem run_create_of_not_admitted (h : ¬ Admitted externals request origin s) :
    ∃ error, createSpawnSessionWithSessionId externals request sessionId origin nowMs s =
      .error error s := by
  unfold createSpawnSessionWithSessionId
  cases hrequest : checkRequest externals request origin.origin with
  | error error => exact ⟨error, rfl⟩
  | ok checked =>
    cases hquote : admitSession externals s checked with
    | ok amounts => exact absurd ⟨checked, amounts, hrequest, hquote⟩ h
    | error error =>
      refine ⟨error, ?_⟩
      rw [run_bind, run_ofExcept_ok]
      dsimp only
      rw [createSessionInState, run_bind, run_bind, run_get]
      dsimp only
      rw [run_bind, hquote, run_ofExcept_error]

/-- The event of a creation under an id whose audit log is not empty is refused. -/
theorem run_create_of_audit (hrequest : checkRequest externals request origin.origin = .ok checked)
    (hquote : admitSession externals s checked = .ok amounts)
    (haudit : s.auditLog[sessionId]?.getD [] ≠ []) :
    createSpawnSessionWithSessionId externals request sessionId origin nowMs s =
      .error (.illegalSessionTransition sessionId .awaitingPayment "session_created")
        (s.insertSession (newSession externals s checked amounts sessionId origin nowMs)) := by
  set session := newSession externals s checked amounts sessionId origin nowMs with hbuilt
  have hstored : (s.insertSession session).sessions[sessionId]? = some session := by
    simp [hbuilt, newSession]
  have hrefused : eventTransition session
      (!((s.insertSession session).auditLog[sessionId]?.getD []).isEmpty) sessionId nowMs
        .sessionCreated =
      .error (.illegalSessionTransition sessionId .awaitingPayment "session_created") := by
    have hlog : ((s.insertSession session).auditLog[sessionId]?.getD []).isEmpty = false := by
      rw [FactoryState.insertSession_auditLog, List.isEmpty_eq_false_iff]
      exact haudit
    rw [hlog]
    rfl
  have hevent : applySessionEventInState sessionId .user nowMs .sessionCreated "session created"
      (s.insertSession session) =
        .error (.illegalSessionTransition sessionId .awaitingPayment "session_created")
          (s.insertSession session) := by
    rw [run_applySessionEventInState hstored, hrefused]
  unfold createSpawnSessionWithSessionId createSessionInState
  simp only [run_bind, hrequest, run_ofExcept_ok, run_get, hquote, run_modify]
  rw [← hbuilt, hevent]

/-- A creation under an id whose audit log is empty succeeds. -/
theorem run_create_of_no_audit
    (hrequest : checkRequest externals request origin.origin = .ok checked)
    (hquote : admitSession externals s checked = .ok amounts)
    (haudit : s.auditLog[sessionId]?.getD [] = []) :
    createSpawnSessionWithSessionId externals request sessionId origin nowMs s =
      .ok (newSession externals s checked amounts sessionId origin nowMs)
        (s.created (newSession externals s checked amounts sessionId origin nowMs) nowMs) := by
  set session := newSession externals s checked amounts sessionId origin nowMs with hbuilt
  have hid : session.sessionId = sessionId := rfl
  have hstored : (s.insertSession session).sessions[sessionId]? = some session := by
    simp [hbuilt, newSession]
  have haccepted : eventTransition session
      (!((s.insertSession session).auditLog[sessionId]?.getD []).isEmpty) sessionId nowMs
        .sessionCreated = .ok (some ⟨none, .awaitingPayment, false⟩) := by
    rw [FactoryState.insertSession_auditLog, haudit]
    rfl
  have hevent : applySessionEventInState sessionId .user nowMs .sessionCreated "session created"
      (s.insertSession session) = _ := run_applySessionEventInState hstored
  rw [haccepted] at hevent
  unfold createSpawnSessionWithSessionId createSessionInState
  simp only [run_bind, hrequest, run_ofExcept_ok, run_get, hquote, run_modify]
  rw [← hbuilt, hevent]
  rfl

/-- The session after a creation, which its first event leaves as it was built. -/
theorem getElem?_created_sessions (other : String) :
    let session := newSession externals s checked amounts sessionId origin nowMs
    (s.created session nowMs).sessions[other]? =
      if other = sessionId then some session else s.sessions[other]? := by
  intro session
  have hid : session.sessionId = sessionId := rfl
  have hentered : (session.enter ⟨none, .awaitingPayment, false⟩ nowMs
      s.sessionTtlMs).withDerivedFlags nowMs = session := newSession_entered amounts s.sessionTtlMs
  have hstored : (s.insertSession session).sessions[sessionId]? = some session := by
    simp [session, newSession]
  obtain ⟨jobs, hjobs⟩ := sameButJobs_syncPaymentPollJob
    (((s.insertSession session).entered session.sessionId session
      ⟨none, .awaitingPayment, false⟩ .user nowMs "session created").registerEscrowClaim session
        nowMs) nowMs
  unfold FactoryState.created
  rw [hjobs, FactoryState.registerEscrowClaim_sessions]
  by_cases hother : other = sessionId
  · subst hother
    rw [if_pos rfl, hid, getElem?_entered hstored]
    exact congrArg some hentered
  · rw [if_neg hother, hid, (onlySession_entered (s.insertSession session) sessionId session _ _ _
      _).sessions other hother]
    simp [BTreeMap.get?_insert, hid, Ne.symm hother]

/-- The claim, and the log with its first entry. -/
theorem created_claim_and_audit (haudit : s.auditLog[sessionId]?.getD [] = []) :
    let session := newSession externals s checked amounts sessionId origin nowMs
    (s.created session nowMs).escrowClaims[sessionId]? =
        some (newEscrowClaim s session nowMs) ∧
      (s.created session nowMs).auditLog[sessionId]?.getD [] =
        [⟨sessionId, nowMs, none, .awaitingPayment, .user, "session created"⟩] ∧
      (∀ other, other ≠ sessionId →
        (s.created session nowMs).escrowClaims[other]? = s.escrowClaims[other]?) ∧
      ∀ other, other ≠ sessionId →
        (s.created session nowMs).auditLog[other]? = s.auditLog[other]? := by
  intro session
  have hid : session.sessionId = sessionId := rfl
  obtain ⟨jobs, hjobs⟩ := sameButJobs_syncPaymentPollJob
    (((s.insertSession session).entered session.sessionId session
      ⟨none, .awaitingPayment, false⟩ .user nowMs "session created").registerEscrowClaim session
        nowMs) nowMs
  have hentered := onlySession_entered (s.insertSession session) sessionId session
    ⟨none, .awaitingPayment, false⟩ .user nowMs "session created"
  unfold FactoryState.created
  rw [hjobs]
  refine ⟨?_, ?_, ?_, ?_⟩
  · rw [FactoryState.registerEscrowClaim_escrowClaims, BTreeMap.get?_insert, if_pos hid]
    rfl
  · rw [FactoryState.registerEscrowClaim_auditLog, hid]
    simp [FactoryState.entered, haudit, maxAuditEntriesPerSession]
  · intro other hother
    rw [FactoryState.registerEscrowClaim_escrowClaims, BTreeMap.get?_insert, hid,
      if_neg (Ne.symm hother), hentered.claims other hother]
    rfl
  · intro other hother
    rw [FactoryState.registerEscrowClaim_auditLog, hid, hentered.audits other hother]
    rfl

/-- What an admitted request says about amounts. -/
theorem quoteAmounts_spec {grossAmount : String} (h : quoteAmounts s grossAmount = .ok amounts) :
    ∃ gross, parseAmount grossAmount = .ok gross ∧
      parseAmount s.usdcFee = .ok amounts.platformFee ∧
      parseAmount s.usdcCreationCost = .ok amounts.creationCost ∧
      wrappingAdd u128Max amounts.platformFee amounts.creationCost ≤ gross ∧
      amounts.netForward = gross - wrappingAdd u128Max amounts.platformFee amounts.creationCost := by
  obtain ⟨gross, hgross, h⟩ := Fallible.bind_eq_ok.mp h
  obtain ⟨platformFee, hfee, h⟩ := Fallible.bind_eq_ok.mp h
  obtain ⟨creationCost, hcost, h⟩ := Fallible.bind_eq_ok.mp h
  dsimp only at h
  split at h
  · cases h
  · rename_i hcovered
    obtain rfl := Except.ok.inj h
    exact ⟨gross, hgross, hfee, hcost, Nat.le_of_not_lt hcovered, rfl⟩

theorem quoteAmounts_of_admitSession (h : admitSession externals s request = .ok amounts) :
    quoteAmounts s request.grossAmount = .ok amounts := by
  unfold admitSession at h
  split at h
  · cases h
  · obtain ⟨-, -, h⟩ := Fallible.bind_eq_ok.mp h
    obtain ⟨-, -, h⟩ := Fallible.bind_eq_ok.mp h
    exact h

/-- A quote adds up exactly when fee and cost fit 128 bits together. -/
theorem quoteAddsUp_newSession (h : quoteAmounts s checked.grossAmount = .ok amounts) :
    QuoteAddsUp (newSession externals s checked amounts sessionId origin nowMs) ↔
      amounts.platformFee + amounts.creationCost ≤ u128Max := by
  obtain ⟨gross, hgross, hfee, hcost, hcovered, hnet⟩ := quoteAmounts_spec h
  have hgrossFits := parseAmount_le hgross
  have hfeeFits := parseAmount_le hfee
  have hcostFits := parseAmount_le hcost
  constructor
  · rintro ⟨gross', platformFee, creationCost, netForward, hgross', hfee', hcost', hnet', hsum⟩
    obtain rfl := Except.ok.inj (hgross.symm.trans hgross')
    obtain rfl := eq_of_parseAmount_amountToString hfee'
    obtain rfl := eq_of_parseAmount_amountToString hcost'
    obtain rfl := eq_of_parseAmount_amountToString hnet'
    by_contra hover
    have hwrapped := wrappingAdd_of_lt hfeeFits hcostFits (Nat.lt_of_not_le hover)
    omega
  · intro hfits
    have hexact := wrappingAdd_of_le hfits
    refine ⟨gross, amounts.platformFee, amounts.creationCost, amounts.netForward, hgross,
      parseAmount_amountToString hfeeFits, parseAmount_amountToString hcostFits,
      parseAmount_amountToString (by omega), by omega⟩

end Runs

section Stores

variable {externals : SessionExternals} {request checked : CreateSpawnSessionRequest}
  {providerSecrets : SpawnProviderSecrets} {sessionId : String} {origin : SessionOrigin}
  {nowMs : ℕ} {store : CreationStore} {amounts : QuoteAmounts}

theorem createWithSecrets_of_not_admitted
    (h : ¬ Admitted externals request origin store.factory) :
    ∃ error, createSpawnSessionWithSecrets externals request providerSecrets sessionId origin nowMs
      store = (.error error, store) := by
  obtain ⟨error, hrun⟩ := run_create_of_not_admitted h
  refine ⟨error, ?_⟩
  unfold createSpawnSessionWithSecrets
  rw [hrun]

theorem createWithSecrets_of_audit
    (hrequest : checkRequest externals request origin.origin = .ok checked)
    (hquote : admitSession externals store.factory checked = .ok amounts)
    (haudit : store.factory.auditLog[sessionId]?.getD [] ≠ []) :
    createSpawnSessionWithSecrets externals request providerSecrets sessionId origin nowMs store =
      (.error (.illegalSessionTransition sessionId .awaitingPayment "session_created"),
        ⟨store.factory.insertSession
          (newSession externals store.factory checked amounts sessionId origin nowMs),
          store.spawnProviderSecrets⟩) := by
  unfold createSpawnSessionWithSecrets
  rw [run_create_of_audit hrequest hquote haudit]

theorem createWithSecrets_of_no_audit
    (hrequest : checkRequest externals request origin.origin = .ok checked)
    (hquote : admitSession externals store.factory checked = .ok amounts)
    (haudit : store.factory.auditLog[sessionId]?.getD [] = []) :
    let session := newSession externals store.factory checked amounts sessionId origin nowMs
    createSpawnSessionWithSecrets externals request providerSecrets sessionId origin nowMs store =
      (.ok session, ⟨store.factory.created session nowMs,
        store.spawnProviderSecrets.insert sessionId providerSecrets⟩) := by
  intro session
  unfold createSpawnSessionWithSecrets
  rw [run_create_of_no_audit hrequest hquote haudit]

/-- What a creation adds where nothing is stored. -/
theorem addsOne_created (h : CreationFits store.factory sessionId) :
    let session := newSession externals store.factory checked amounts sessionId origin nowMs
    AddsOne sessionId session store.factory (store.factory.created session nowMs) := by
  intro session
  obtain ⟨hclaim, haudit, hotherClaims, hotherAudits⟩ :=
    created_claim_and_audit (s := store.factory) h.audit
  refine ⟨h.session, h.claim, ?_, ?_, ?_, ?_, hotherClaims, hotherAudits⟩
  · rw [getElem?_created_sessions, if_pos rfl]
  · rw [hclaim]
    rfl
  · refine ⟨⟨sessionId, nowMs, none, .awaitingPayment, .user, "session created"⟩, ?_⟩
    rw [h.audit, haudit]
    rfl
  · intro other hother
    rw [getElem?_created_sessions, if_neg hother]

end Stores

/-- A creation is atomic exactly when its request is refused by a check or nothing is stored under
its id and fee and cost fit 128 bits together. -/
theorem creation_atomic_iff (externals : SessionExternals) (request : CreateSpawnSessionRequest)
    (providerSecrets : SpawnProviderSecrets) (sessionId : String) (origin : SessionOrigin)
    (nowMs : ℕ) (store : CreationStore) :
    CreationAtomic externals request providerSecrets sessionId origin nowMs store ↔
      (Admitted externals request origin store.factory →
        CreationFits store.factory sessionId) := by
  constructor
  · rintro h ⟨checked, amounts, hrequest, hquote⟩
    have hquoted := quoteAmounts_of_admitSession hquote
    by_cases haudit : store.factory.auditLog[sessionId]?.getD [] = []
    · obtain ⟨hadds, hadding⟩ :=
        h.accepted _ _ (createWithSecrets_of_no_audit hrequest hquote haudit)
      have hfits := (quoteAddsUp_newSession hquoted).mp hadding
      obtain ⟨gross, -, hfee, hcost, -, -⟩ := quoteAmounts_spec hquoted
      refine ⟨hadds.newSession, hadds.newClaim, haudit, ?_⟩
      intro platformFee creationCost hfee' hcost'
      obtain rfl := Except.ok.inj (hfee.symm.trans hfee')
      obtain rfl := Except.ok.inj (hcost.symm.trans hcost')
      exact hfits
    · -- the refused event leaves the session behind, and a nonce that is counted
      have hsame := h.refused _ _ (createWithSecrets_of_audit hrequest hquote haudit)
      have hnonce : store.factory.nextSessionNonce + 1 = store.factory.nextSessionNonce :=
        congrArg (fun store' => store'.factory.nextSessionNonce) hsame
      omega
  · intro h
    by_cases hadmitted : Admitted externals request origin store.factory
    · have hfits := h hadmitted
      obtain ⟨checked, amounts, hrequest, hquote⟩ := hadmitted
      have hquoted := quoteAmounts_of_admitSession hquote
      obtain ⟨gross, -, hfee, hcost, -, -⟩ := quoteAmounts_spec hquoted
      set session := newSession externals store.factory checked amounts sessionId origin nowMs
      have hrun : createSpawnSessionWithSecrets externals request providerSecrets sessionId origin
          nowMs store = (.ok session, ⟨store.factory.created session nowMs,
            store.spawnProviderSecrets.insert sessionId providerSecrets⟩) :=
        createWithSecrets_of_no_audit hrequest hquote hfits.audit
      constructor
      · intro error store' hstore
        rw [hrun] at hstore
        cases hstore
      · intro created store' hstore
        rw [hrun] at hstore
        obtain ⟨hcreated, rfl⟩ := Prod.mk.inj hstore
        obtain rfl := Except.ok.inj hcreated
        exact ⟨addsOne_created hfits,
          (quoteAddsUp_newSession hquoted).mpr (hfits.amounts _ _ hfee hcost)⟩
    · obtain ⟨error, hrun⟩ := createWithSecrets_of_not_admitted hadmitted
      constructor
      · intro error' store' hstore
        rw [hrun] at hstore
        exact (Prod.mk.inj hstore).2.symm
      · intro session store' hstore
        rw [hrun] at hstore
        cases hstore

/-- The first session was created, and its secrets are stored. -/
def createdStore : CreationStore :=
  ⟨after (createSample firstId 1) .default, (∅ : BTreeMap String SpawnProviderSecrets).insert
    firstId ⟨some "sk-or-first", none⟩⟩

/-- A creation under the same id is refused and overwrites the session. -/
theorem createdAgain_not_atomic :
    ¬ CreationAtomic sampleExternals sampleRequest ⟨none, none⟩ firstId humanOrigin 2
      createdStore := by
  intro h
  have hrun : (createSpawnSessionWithSecrets sampleExternals sampleRequest ⟨none, none⟩ firstId
      humanOrigin 2 createdStore).1.isOk = false ∧
        (createSpawnSessionWithSecrets sampleExternals sampleRequest ⟨none, none⟩ firstId
          humanOrigin 2 createdStore).2.factory.nextSessionNonce = 2 ∧
        createdStore.factory.nextSessionNonce = 1 := by
    decide +kernel
  obtain ⟨herror, hafter, hbefore⟩ := hrun
  cases hresult : createSpawnSessionWithSecrets sampleExternals sampleRequest ⟨none, none⟩ firstId
      humanOrigin 2 createdStore with
  | mk result store' =>
    rw [hresult] at herror hafter
    cases result with
    | ok session => cases herror
    | error error =>
      have hsame : store' = createdStore := h.refused error store' hresult
      rw [hsame, hbefore] at hafter
      cases hafter

end Automaton.Factory
