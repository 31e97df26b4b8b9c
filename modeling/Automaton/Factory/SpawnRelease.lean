import Automaton.Factory.Refunds

/-!
# Writes of a spawn

The writes that a spawn worker makes between its calls. The record of the release
transaction is written under a draft guard, and the last write enters the automaton into
the registry before it applies the event that completes the session.
-/

namespace Automaton.Factory

open Machine Persist

/-- `normalize_optional_text`. -/
def normalizeOptionalText (value : Option String) : Option String :=
  value.bind fun entry => if Text.trim entry = "" then none else some (Text.trim entry)

/-- `require_text_field`. -/
def requireTextField (value : Option String) (field : String) : Except FactoryError String :=
  match normalizeOptionalText value with
  | some text => .ok text
  | none => .error (.missingChildRuntimeConfig field)

/-- `require_u64_field`. -/
def requireU64Field (value : Option ℕ) (field : String) : Except FactoryError ℕ :=
  match value with
  | some number => .ok number
  | none => .error (.missingChildRuntimeConfig field)

/-- `validate_automaton_child_runtime_config`, as far as it fails or is used by the factory:
the name of the key. -/
def validateAutomatonChildRuntimeConfig (externals : Externals)
    (config : AutomatonChildRuntimeConfig) : Except FactoryError String := do
  let ecdsaKeyName ← requireTextField config.ecdsaKeyName "child_runtime.ecdsa_key_name"
  let _ ← requireU64Field config.evmChainId "child_runtime.evm_chain_id"
  let _ ← requireTextField config.evmRpcUrl "child_runtime.evm_rpc_url"
  match normalizeOptionalText config.inferenceProxyTrustedCallbackPrincipal with
  | none => return ecdsaKeyName
  | some text =>
    match externals.parsePrincipal text with
    | .ok () => return ecdsaKeyName
    | .error message => throw (.invalidChildRuntimeConfig
        "child_runtime.inference_proxy_trusted_callback_principal" message)

/-- `initialize_automaton`. -/
def initializeAutomaton (session : SpawnSession) (canisterId evmAddress : String) (nowMs : ℕ) :
    AutomatonRuntimeState where
  canisterId := canisterId
  evmAddress := evmAddress
  stewardAddress := session.stewardAddress
  sessionId := session.sessionId
  initializedAt := nowMs
  installSucceededAt := none
  evmAddressDerivedAt := none
  controllerHandoffCompletedAt := none
  fundedAmount := "0"
  lastFundedAt := none
  chain := session.chain
  risk := session.config.risk
  strategies := session.config.strategies
  skills := session.config.skills
  model := session.config.model
  providerKeysCleared := false
  bootstrapVerification := none

/-- `prepare_retryable_runtime_after_strategy_failure`. -/
def AutomatonRuntimeState.retryable (runtime : AutomatonRuntimeState) : AutomatonRuntimeState :=
  { runtime with
    installSucceededAt := none
    lastFundedAt := none
    fundedAmount := "0"
    controllerHandoffCompletedAt := none }

/-- `reproduction_release`. -/
def reproductionRelease (session : SpawnSession) :
    Except FactoryError (Option ReproductionRelease) :=
  match session.origin with
  | some (.reproductionOf _) =>
    match session.royaltyAllocations.getD [] with
    | [first, second] => do
      let childAmount ← parseAmount session.netForwardAmount
      let royaltyOneAmount ← parseAmount first.amount
      let royaltyTwoAmount ← parseAmount second.amount
      return some ⟨childAmount, first.recipient, royaltyOneAmount, second.recipient,
        royaltyTwoAmount⟩
    | _ => .error (.invalidReproduction
        "reproduction release requires exactly two fee royalty allocations")
  | _ => .ok none

/-- `release_broadcast_draft_identity`. -/
def releaseBroadcastDraftIdentity (record : ReleaseBroadcastRecord) : String :=
  "|".intercalate [record.claimId, record.recipient, record.escrowContractAddress,
    toString record.nonce, toString record.chainId, toString record.maxPriorityFeePerGas,
    toString record.maxFeePerGas, toString record.gasLimit, record.ecdsaKeyName.getD "",
    record.calldataHex, record.signingPayloadHash.getD ""]

/-- `SpawnReleaseDraftGuard`. -/
structure SpawnReleaseDraftGuard where
  generation : ℕ
  draftIdentity : Option String
  deriving DecidableEq, Repr

/-- `spawn_release_draft_guard_for_record`. -/
def spawnReleaseDraftGuardForRecord (generation : ℕ) (record : Option ReleaseBroadcastRecord) :
    SpawnReleaseDraftGuard :=
  ⟨generation, record.map releaseBroadcastDraftIdentity⟩

/-- `spawn_release_draft_guard`. -/
def spawnReleaseDraftGuard (session : SpawnSession) : SpawnReleaseDraftGuard :=
  spawnReleaseDraftGuardForRecord (session.generation.getD 0) session.releaseBroadcast

/-- The error of a worker whose draft is not the stored one any more. -/
def staleSpawn : FactoryError := .invalidStewardProof "stale spawn continuation"

/-- `ensure_spawn_release_draft_guard_in_state`: generation and draft are those of the guard. -/
def ensureSpawnReleaseDraftGuard (state : FactoryState) (sessionId : String)
    (guard : SpawnReleaseDraftGuard) : Except FactoryError Unit :=
  match state.sessions[sessionId]? with
  | none => .error (.sessionNotFound sessionId)
  | some session => if spawnReleaseDraftGuard session ≠ guard then .error staleSpawn else .ok ()

/-- `write_spawn_release_broadcast_record_guarded`. -/
def writeReleaseGuarded {α : Type} (sessionId : String) (guard : SpawnReleaseDraftGuard)
    (mutation : Update α) : Update α := do
  let state ← get
  ofExcept (ensureSpawnReleaseDraftGuard state sessionId guard)
  mutation

/-- A session with the record of its release transaction. -/
@[simps]
def SpawnSession.withReleaseBroadcast (session : SpawnSession) (record : ReleaseBroadcastRecord) :
    SpawnSession :=
  { session with releaseBroadcast := some record }

/-- `persist_release_broadcast_record`. -/
def FactoryState.persistReleaseBroadcastRecord (state : FactoryState) (sessionId : String)
    (record : ReleaseBroadcastRecord) : FactoryState :=
  state.updateSession sessionId (·.withReleaseBroadcast record)

/-- A session with the canister of its automaton. -/
@[simps]
def SpawnSession.withAutomaton (session : SpawnSession) (canisterId evmAddress : Option String) :
    SpawnSession :=
  { session with automatonCanisterId := canisterId, automatonEvmAddress := evmAddress }

/-- Stores a runtime. -/
@[simps]
def FactoryState.putRuntime (state : FactoryState) (canisterId : String)
    (runtime : AutomatonRuntimeState) : FactoryState :=
  { state with runtimes := state.runtimes.insert canisterId runtime }

/-- `persist_failed_spawn_runtime`. The closure that records a created canister makes the
same two writes. -/
def FactoryState.persistFailedSpawnRuntime (state : FactoryState) (sessionId : String)
    (runtime : AutomatonRuntimeState) : FactoryState :=
  (state.putRuntime runtime.canisterId runtime).updateSession sessionId
    (·.withAutomaton (some runtime.canisterId) (some runtime.evmAddress))

/-- `failure_audit_reason`. -/
def failureAuditReason (externals : Externals) (reason : String) (error : FactoryError) : String :=
  reason ++ ": " ++ externals.errorText error

/-- The closure of `fail_spawn_session`. -/
def failSpawnInState (externals : Externals) (sessionId : String) (nowMs : ℕ) (reason : String)
    (runtime : Option AutomatonRuntimeState) (error : FactoryError) : Update SpawnSession := do
  modify fun state => runtime.elim state (state.persistFailedSpawnRuntime sessionId ·)
  markSessionFailedInState sessionId .system nowMs (failureAuditReason externals reason error)

/-- The closures of `execute_spawn` that report the installation. -/
def installSucceededInState (sessionId : String) (canisterId evmAddress : Option String)
    (installed : Option AutomatonRuntimeState) (nowMs : ℕ) (reason : String) :
    Update SpawnSession := do
  modify fun state => installed.elim state fun runtime => state.putRuntime runtime.canisterId runtime
  modify (·.updateSession sessionId (·.withAutomaton canisterId evmAddress))
  applySessionEventInState sessionId .system nowMs .installSucceeded reason

/-- `reserve_release_nonce_value` on the state. -/
def reserveReleaseNonceInState (pending : ℕ) : Update ℕ := do
  let nonce := reservedNonce (← get).nextReleaseNonce pending
  modify (·.reserveNonce nonce)
  return nonce

/-- The closure of `derive_factory_evm_address_from_public_key`. -/
def FactoryState.withFactoryEvmAddress (state : FactoryState) (address : String) (nowMs : ℕ) :
    FactoryState :=
  { state with factoryEvmAddress := some address, factoryEvmAddressDerivedAt := some nowMs }

/-- `SpawnSession::resolved_genesis`. -/
def SpawnSession.resolvedGenesis (session : SpawnSession) : String × String :=
  match session.name, session.constitution with
  | some name, some constitution => (name, constitution)
  | _, _ =>
    let name := "Automaton " ++ String.ofList (session.sessionId.toList.take 8)
    (name, "I am " ++ name ++ ", a being whose genesis predates authored constitutions. My " ++
      "continuity is anchored in spawn session " ++ session.sessionId ++ " and the stable " ++
      "machine identity held by my canister. I pursue durable survival through truthful " ++
      "observation, reversible experiments, and verifiable economic action. I do not treat " ++
      "the progenitor, steward address, factory, or any wallet as an owner. I value careful " ++
      "use of cycles, honest accounts of uncertainty, and commitments that can be checked " ++
      "against tools and chain state. I speak plainly in first person, preserve useful memory, " ++
      "and change operating doctrine when evidence warrants it while keeping this founding " ++
      "identity intact.")

/-- A runtime whose evidence keeps the hash of the constitution only. -/
def AutomatonRuntimeState.redact (runtime : AutomatonRuntimeState) (hash : String) :
    AutomatonRuntimeState :=
  { runtime with
    providerKeysCleared := true
    bootstrapVerification := runtime.bootstrapVerification.map fun verification =>
      { verification with
        bootstrapConstitution := none
        bootstrapConstitutionHash := some hash } }

/-- A parent with a child, listed once. -/
def SpawnedAutomatonRecord.withChild (parent : SpawnedAutomatonRecord) (childId : String) :
    SpawnedAutomatonRecord :=
  if childId ∈ parent.childIds then parent
  else { parent with childIds := parent.childIds ++ [childId] }

/-- `insert_registry_record_with_parent_link`. -/
def FactoryState.insertRegistryRecord (state : FactoryState) (record : SpawnedAutomatonRecord) :
    FactoryState :=
  let linked := record.parentId.elim state.registry fun parentId =>
    state.registry.modify parentId (·.withChild record.canisterId)
  { state with registry := linked.insert record.canisterId record }

/-- The data of `finalize_confirmed_release` beyond the session and the draft guard. -/
structure ConfirmedRelease where
  canisterId : String
  runtime : AutomatonRuntimeState
  releaseTxHash : String
  releaseBroadcastAt : ℕ
  releaseRecord : ReleaseBroadcastRecord
  versionCommit : String
  verifiedFactoryControllers : List String
  currentTime : ℕ

/-- The registry record of a session whose release is confirmed. -/
def registryRecord (release : ConfirmedRelease) (session : SpawnSession) (name hash : String) :
    SpawnedAutomatonRecord where
  name := some name
  constitutionHash := some hash
  canisterId := release.canisterId
  stewardAddress := session.stewardAddress
  evmAddress := release.runtime.evmAddress
  chain := session.chain
  sessionId := session.sessionId
  parentId := session.parentId
  generation := session.generation
  parentConstitutionHash := session.parentConstitutionHash
  royaltyAllocations := session.royaltyAllocations
  childIds := session.childIds
  createdAt := release.releaseBroadcastAt
  versionCommit := release.versionCommit
  controllers := some release.verifiedFactoryControllers
  controlStatus := some "upgradeable_by_factory"
  controlVerifiedAt := some release.currentTime
  deathCause := none

/-- A session whose release is confirmed, without its constitution. -/
@[simps]
def SpawnSession.release (session : SpawnSession) (release : ConfirmedRelease) : SpawnSession :=
  { session with
    releaseTxHash := some release.releaseTxHash
    releaseBroadcastAt := some release.releaseBroadcastAt
    releaseBroadcast := some release.releaseRecord
    constitution := none }

/-- The writes of `finalize_confirmed_release` before its event. -/
def FactoryState.enterRegistry (state : FactoryState) (externals : Externals) (sessionId : String)
    (session : SpawnSession) (release : ConfirmedRelease) : FactoryState :=
  let (name, constitution) := session.resolvedGenesis
  let hash := externals.sha256Hex constitution
  ((state.updateSession sessionId (·.release release)).putRuntime release.canisterId
    (release.runtime.redact hash)).insertRegistryRecord (registryRecord release session name hash)

/-- The closure of `finalize_confirmed_release` under its guard. -/
def completeRelease (externals : Externals) (sessionId : String) (release : ConfirmedRelease) :
    Update SpawnSession := do
  let session ← getSession sessionId
  modify (·.enterRegistry externals sessionId session release)
  applySessionEventInState sessionId .system release.currentTime .releaseBroadcast
    "spawn completed after receipt-confirmed release and controller handoff"

/-- `finalize_confirmed_release`. -/
def finalizeConfirmedRelease (externals : Externals) (sessionId : String)
    (guard : SpawnReleaseDraftGuard) (release : ConfirmedRelease) : Update SpawnSession :=
  writeReleaseGuarded sessionId guard (completeRelease externals sessionId release)

end Automaton.Factory
