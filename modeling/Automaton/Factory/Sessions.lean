import Automaton.Factory.SessionScope

/-!
# Creation of spawn sessions

A session is created together with its escrow claim. It starts at the height up to which
the last payment scan was complete.
-/

namespace Automaton.Factory

open Machine Persist

/-- `CreateSpawnSessionRequest`, without the provider secrets, which are stored apart. -/
structure CreateSpawnSessionRequest where
  name : Option String
  constitution : Option String
  stewardAddress : String
  asset : SpawnAsset
  grossAmount : String
  parentId : Option String
  config : SpawnConfig
  deriving DecidableEq, Repr

/-- What creation takes from outside this model: the hash behind `derive_claim_id`, the
check of name and constitution, and the check of the selected strategies. -/
structure SessionExternals where
  deriveClaimId : String → String
  validateGenesis : String → String → Except String (String × String)
  checkSelectedStrategies : FactoryState → CreateSpawnSessionRequest → Except FactoryError Unit

/-- `canonical_deployment_chain_id`. -/
def canonicalDeploymentChainId (childRuntime : AutomatonChildRuntimeConfig)
    (releaseBroadcast : ReleaseBroadcastConfig) : Except FactoryError ℕ :=
  match childRuntime.evmChainId with
  | some childChainId =>
    if childChainId ≠ releaseBroadcast.chainId then
      .error (.invalidChildRuntimeConfig "child_runtime.evm_chain_id"
        ("deployment chain " ++ toString childChainId ++
          " does not match release broadcast chain " ++ toString releaseBroadcast.chainId))
    else .ok childChainId
  | none => .ok releaseBroadcast.chainId

/-- One byte of `hash_quote_terms`. -/
def hashByte (hash byte : ℕ) : ℕ := (hash ^^^ byte) * 1099511628211 % 2 ^ 64

/-- A 64-bit value in `{:016x}`. -/
def hex16 (value : ℕ) : String :=
  let digits := Nat.toDigits 16 value
  String.ofList (List.replicate (16 - digits.length) '0' ++ digits)

/-- `hash_quote_terms`. -/
def hashQuoteTerms (parts : List String) : String :=
  hex16 <| parts.foldl
    (fun hash part => hashByte (part.toUTF8.toList.foldl (fun h b => hashByte h b.toNat) hash) 0xff)
    14695981039346656037

/-- `SpawnSessionOrigin` and `parent_id` of a request have to agree. -/
def checkOrigin (origin : SpawnSessionOrigin) (parentId : Option String) :
    Except FactoryError Unit :=
  match origin with
  | .human =>
    if parentId.isSome then
      .error (.invalidReproduction "human spawn sessions cannot claim parentage")
    else .ok ()
  | .reproductionOf parent =>
    if parentId ≠ some parent then
      .error (.invalidReproduction "reproduction origin and parent_id disagree")
    else .ok ()

/-- The checks of `create_spawn_session_with_session_id` that read no state. They return the
request with name and constitution as they are stored. -/
def checkRequest (externals : SessionExternals) (request : CreateSpawnSessionRequest)
    (origin : SpawnSessionOrigin) : Except FactoryError CreateSpawnSessionRequest := do
  checkOrigin origin request.parentId
  match request.name, request.constitution with
  | none, _ => throw (.invalidChildRuntimeConfig "genesis.name"
      "name is required for new genesis sessions")
  | some _, none => throw (.invalidChildRuntimeConfig "genesis.constitution"
      "constitution is required for new genesis sessions")
  | some rawName, some rawConstitution =>
    match externals.validateGenesis rawName rawConstitution with
    | .error message => throw (.invalidChildRuntimeConfig "genesis" message)
    | .ok (name, constitution) =>
      return { request with name := some name, constitution := some constitution }

/-- The amounts of a quote. -/
structure QuoteAmounts where
  platformFee : ℕ
  creationCost : ℕ
  netForward : ℕ
  deriving DecidableEq, Repr

/-- The amounts of a quote, when the gross amount covers fee and cost. The sum of the two wraps, as
additions do in the build of the canister. -/
def quoteAmounts (state : FactoryState) (grossAmount : String) :
    Except FactoryError QuoteAmounts := do
  let gross ← parseAmount grossAmount
  let platformFee ← parseAmount state.usdcFee
  let creationCost ← parseAmount state.usdcCreationCost
  let requiredMinimum := wrappingAdd u128Max platformFee creationCost
  if gross < requiredMinimum then
    throw (.grossBelowRequiredMinimum grossAmount (amountToString requiredMinimum))
  return ⟨platformFee, creationCost, gross - requiredMinimum⟩

/-- The data of a session beyond the request. -/
structure SessionOrigin where
  origin : SpawnSessionOrigin
  generation : ℕ
  parentConstitutionHash : Option String
  royaltyAllocations : List RoyaltyAllocation
  deriving DecidableEq, Repr

/-- The session that `create_spawn_session_with_session_id` stores. -/
def newSession (externals : SessionExternals) (state : FactoryState)
    (request : CreateSpawnSessionRequest) (amounts : QuoteAmounts) (sessionId : String)
    (origin : SessionOrigin) (nowMs : ℕ) : SpawnSession where
  name := request.name
  constitution := request.constitution
  sessionId := sessionId
  claimId := externals.deriveClaimId sessionId
  stewardAddress := Text.toAsciiLowercase (Text.trim request.stewardAddress)
  chain := request.config.chain
  asset := request.asset
  grossAmount := request.grossAmount
  platformFee := amountToString amounts.platformFee
  creationCost := amountToString amounts.creationCost
  netForwardAmount := amountToString amounts.netForward
  quoteTermsHash := hashQuoteTerms [sessionId, request.stewardAddress, "usdc",
    request.grossAmount, amountToString amounts.platformFee, amountToString amounts.creationCost,
    amountToString amounts.netForward, toString (nowMs + state.sessionTtlMs),
    state.paymentAddress]
  expiresAt := nowMs + state.sessionTtlMs
  state := .awaitingPayment
  retryable := false
  refundable := false
  paymentStatus := .unpaid
  lastScannedBlock := state.paymentLastScannedBlock
  automatonCanisterId := none
  automatonEvmAddress := none
  releaseTxHash := none
  releaseBroadcastAt := none
  releaseBroadcast := none
  parentId := request.parentId
  origin := some origin.origin
  generation := some origin.generation
  parentConstitutionHash := origin.parentConstitutionHash
  royaltyAllocations := some origin.royaltyAllocations
  childIds := []
  config := request.config
  createdAt := nowMs
  updatedAt := nowMs

/-- Stores a session. -/
@[simps]
def FactoryState.insertSession (state : FactoryState) (session : SpawnSession) : FactoryState :=
  { state with
    sessions := state.sessions.insert session.sessionId session
    nextSessionNonce := state.nextSessionNonce + 1 }

/-- The checks of `create_spawn_session_with_session_id` that read the state, all of them
before the first write. -/
def admitSession (externals : SessionExternals) (state : FactoryState)
    (request : CreateSpawnSessionRequest) : Except FactoryError QuoteAmounts := do
  if state.pause then throw (.factoryPaused true)
  let _ ← canonicalDeploymentChainId state.childRuntime state.releaseBroadcastConfig
  externals.checkSelectedStrategies state request
  quoteAmounts state request.grossAmount

/-- The first closure of `create_spawn_session_with_session_id`. -/
def createSessionInState (externals : SessionExternals) (request : CreateSpawnSessionRequest)
    (sessionId : String) (origin : SessionOrigin) (nowMs : ℕ) : Update SpawnSession := do
  let state ← get
  let amounts ← ofExcept (admitSession externals state request)
  let session := newSession externals state request amounts sessionId origin nowMs
  modify (·.insertSession session)
  let _ ← applySessionEventInState sessionId .user nowMs .sessionCreated "session created"
  return session

/-- The claim of `register_escrow_claim`. -/
def newEscrowClaim (state : FactoryState) (session : SpawnSession) (nowMs : ℕ) :
    EscrowClaim where
  sessionId := session.sessionId
  claimId := session.claimId
  quoteTermsHash := session.quoteTermsHash
  paymentAddress := state.paymentAddress
  chain := session.chain
  asset := session.asset
  requiredGrossAmount := session.grossAmount
  paidAmount := "0"
  paymentStatus := .unpaid
  lastScannedBlock := session.lastScannedBlock
  paymentEvidenceBlockNumber := none
  paymentEvidenceBlockHash := none
  paymentEvidenceIncrement := none
  paymentEvidence := []
  refundable := false
  refundedAt := none
  refundBroadcast := none
  createdAt := nowMs
  updatedAt := nowMs

/-- `register_escrow_claim`. -/
@[simps]
def FactoryState.registerEscrowClaim (state : FactoryState) (session : SpawnSession)
    (nowMs : ℕ) : FactoryState :=
  { state with
    escrowClaims := state.escrowClaims.insert session.sessionId
      (newEscrowClaim state session nowMs) }

/-- `create_spawn_session_with_session_id`. -/
def createSpawnSessionWithSessionId (externals : SessionExternals)
    (request : CreateSpawnSessionRequest) (sessionId : String) (origin : SessionOrigin)
    (nowMs : ℕ) : Update SpawnSession := do
  let request ← ofExcept (checkRequest externals request origin.origin)
  let session ← createSessionInState externals request sessionId origin nowMs
  modify (·.registerEscrowClaim session nowMs)
  modify (·.syncPaymentPollJob nowMs)
  return session

section Creation

variable {externals : SessionExternals} {request : CreateSpawnSessionRequest}
  {sessionId : String} {origin : SessionOrigin} {nowMs : ℕ} {s : FactoryState}

/-- A session that nothing is recorded about. -/
structure Unused (state : FactoryState) (sessionId : String) : Prop where
  session : state.sessions[sessionId]? = none
  audit : state.auditLog[sessionId]? = none

/-- A new session is accepted by its first event as it is. -/
theorem newSession_entered (amounts : QuoteAmounts) (ttl : ℕ) :
    ((newSession externals s request amounts sessionId origin nowMs).enter
      ⟨none, .awaitingPayment, false⟩ nowMs ttl).withDerivedFlags nowMs =
    newSession externals s request amounts sessionId origin nowMs := by
  simp [SpawnSession.withDerivedFlags, SpawnSession.enter, deriveRetryable, deriveRefundable,
    newSession]

/-- What is stored when a session is created under an unused id. -/
structure Created (externals : SessionExternals) (sessionId : String) (origin : SessionOrigin)
    (nowMs : ℕ) (s : FactoryState) (session : SpawnSession) (t : FactoryState) : Prop where
  built : ∃ request amounts,
    session = newSession externals s request amounts sessionId origin nowMs
  stored : At t sessionId session (newEscrowClaim s session nowMs)
  only : OnlySession sessionId { s with nextSessionNonce := s.nextSessionNonce + 1 } t

/-- The first closure of a creation under an unused id: the session is stored as built. -/
theorem run_createSessionInState (hunused : Unused s sessionId) {amounts : QuoteAmounts}
    (hquote : admitSession externals s request = .ok amounts) (origin : SessionOrigin)
    (nowMs : ℕ) :
    let session := newSession externals s request amounts sessionId origin nowMs
    ∃ t, createSessionInState externals request sessionId origin nowMs s = .ok session t ∧
      t.sessions[sessionId]? = some session ∧
      OnlySession sessionId { s with nextSessionNonce := s.nextSessionNonce + 1 } t := by
  intro session
  let transition : EventTransition := ⟨none, .awaitingPayment, false⟩
  have hstored : (s.insertSession session).sessions[sessionId]? = some session := by
    simp [session, newSession]
  have htransition : eventTransition session
      (!((s.insertSession session).auditLog[sessionId]?.getD []).isEmpty) sessionId nowMs
      .sessionCreated = .ok (some transition) := by
    simp [eventTransition, hunused.audit, session, newSession, transition]
  refine ⟨(s.insertSession session).entered sessionId session transition .user nowMs
    "session created", ?_, ?_, ?_⟩
  · rw [createSessionInState, run_bind, run_get]
    simp only [run_bind, hquote, run_ofExcept_ok, run_modify]
    rw [run_applySessionEventInState hstored, htransition]
    rfl
  · rw [getElem?_entered hstored]
    exact congrArg some (newSession_entered amounts s.sessionTtlMs)
  · refine OnlySession.trans ?_ (onlySession_entered (s.insertSession session) sessionId session
      transition .user nowMs "session created")
    exact ⟨rfl, fun other hother => by simp [BTreeMap.get?_insert, session, newSession,
      hother.symm], fun _ _ => rfl, fun _ _ => rfl⟩

/-- A creation under an unused id is refused without a write, or stores session and claim. -/
theorem createSpawnSessionWithSessionId_cases (externals : SessionExternals)
    (request : CreateSpawnSessionRequest) (origin : SessionOrigin) (nowMs : ℕ)
    (hunused : Unused s sessionId) :
    (∃ e, createSpawnSessionWithSessionId externals request sessionId origin nowMs s =
      .error e s) ∨
    ∃ session t, createSpawnSessionWithSessionId externals request sessionId origin nowMs s =
        .ok session t ∧ Created externals sessionId origin nowMs s session t := by
  unfold createSpawnSessionWithSessionId
  cases hrequest : checkRequest externals request origin.origin with
  | error e => exact .inl ⟨e, rfl⟩
  | ok request' =>
    simp only [run_bind, run_ofExcept_ok]
    cases hquote : admitSession externals s request' with
    | error e =>
      refine .inl ⟨e, ?_⟩
      rw [createSessionInState, run_bind, run_get]
      simp only [run_bind, hquote, run_ofExcept_error]
    | ok amounts =>
      obtain ⟨t, hrun, hsession, honly⟩ := run_createSessionInState hunused hquote origin
        nowMs
      set session := newSession externals s request' amounts sessionId origin nowMs with hbuilt
      have hjobs := sameButJobs_syncPaymentPollJob (t.registerEscrowClaim session nowMs) nowMs
      refine .inr ⟨session, (t.registerEscrowClaim session nowMs).syncPaymentPollJob nowMs, ?_, ?_⟩
      · rw [hrun]
        rfl
      · have haddress : t.paymentAddress = s.paymentAddress := by rw [honly.frame]
        have hregistered : At (t.registerEscrowClaim session nowMs) sessionId session
            (newEscrowClaim s session nowMs) := by
          refine ⟨hsession, ?_⟩
          rw [FactoryState.registerEscrowClaim_escrowClaims, BTreeMap.get?_insert,
            if_pos (by rw [hbuilt]; rfl), newEscrowClaim, newEscrowClaim, haddress]
        have hclaim : OnlySession sessionId t (t.registerEscrowClaim session nowMs) :=
          ⟨rfl, fun _ _ => rfl, fun other hother => by
            simp [BTreeMap.get?_insert, hbuilt, newSession, hother.symm], fun _ _ => rfl⟩
        exact ⟨⟨request', amounts, hbuilt⟩, hregistered.of_sameButJobs hjobs,
          (honly.trans hclaim).trans (OnlySession.of_sameButJobs hjobs)⟩

end Creation

/-- The first ids of the host, with their claim ids; everything else is accepted. -/
def sampleExternals : SessionExternals where
  deriveClaimId sessionId :=
    if sessionId = "00000001-0000-4000-8000-000000000001" then
      "0x5e28e348c8c1c529f395a47f8810004a6d14ef100b91e96066ced13dc1c83248"
    else "0xfc12dba3b5a7bdf7eac53a185bdff1fce2d20637e6bf999a031a90894648b9c1"
  validateGenesis name constitution := .ok (Text.trim name, Text.trim constitution)
  checkSelectedStrategies _ _ := .ok ()

/-- A request for an automaton, with the smallest gross amount of the default quote. -/
def sampleRequest : CreateSpawnSessionRequest where
  name := some "Meridian"
  constitution := some (String.ofList (List.replicate 400 'a'))
  stewardAddress := "0x3333333333333333333333333333333333333333"
  asset := .usdc
  grossAmount := "50000000"
  parentId := none
  config := { chain := .base, risk := 1, strategies := [], skills := [], model := none }

/-- The origin of sessions that people ask for. -/
def humanOrigin : SessionOrigin where
  origin := .human
  generation := 0
  parentConstitutionHash := none
  royaltyAllocations := []

/-- The creation of a sample session. -/
def createSample (sessionId : String) (nowMs : ℕ) : Update SpawnSession :=
  createSpawnSessionWithSessionId sampleExternals sampleRequest sessionId humanOrigin nowMs

/-- The first id of the host. -/
def firstId : String := "00000001-0000-4000-8000-000000000001"

/-- The second id of the host. -/
def secondId : String := "00000002-0000-4000-8000-000000000002"

end Automaton.Factory
