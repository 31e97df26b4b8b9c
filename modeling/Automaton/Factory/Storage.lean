import Automaton.Library.MapDelta

/-!
# Stable storage

The factory keeps its state in stable cells and maps, and writes only what differs between
two snapshots. The storage compares and copies the records of the state without looking into
them, so their types are parameters here; it reads the chain of the release configuration
alone, for states that were stored before the confirmation depth was.
-/

namespace Automaton.Factory.Storage

/-- The types of the records in the state. -/
inductive RecordKind
  | repositoryStrategy
  | session
  | escrowClaim
  | registryRecord
  | runtime
  | auditEntry
  | roomState
  | roomMessage
  | schedulerJob
  | schedulerRuntime
  | feeConfig
  | creationCostQuote
  | releaseBroadcastConfig
  | childRuntime
  | refundCommandLease
  | pendingArtifactUpload
  | spawnProviderSecrets

/-- `FactoryState`, with all its fields. -/
@[ext]
structure FactoryStateSnapshot (Record : RecordKind → Type) where
  repositoryStrategies : BTreeMap String (Record .repositoryStrategy)
  sessions : BTreeMap String (Record .session)
  escrowClaims : BTreeMap String (Record .escrowClaim)
  registry : BTreeMap String (Record .registryRecord)
  runtimes : BTreeMap String (Record .runtime)
  auditLog : BTreeMap String (List (Record .auditEntry))
  roomState : Record .roomState
  roomMessages : BTreeMap ℕ (Record .roomMessage)
  schedulerJobs : BTreeMap String (Record .schedulerJob)
  schedulerRuntime : Record .schedulerRuntime
  feeConfig : Record .feeConfig
  creationCostQuote : Record .creationCostQuote
  releaseBroadcastConfig : Record .releaseBroadcastConfig
  childRuntime : Record .childRuntime
  pause : Bool
  nextSessionNonce : ℕ
  nextAutomatonNonce : ℕ
  nextReleaseNonce : Option ℕ
  stewardCommandNonces : BTreeMap String ℕ
  stewardRefundsInFlight : BTreeMap String Unit
  stewardRefundLeases : BTreeMap String (Record .refundCommandLease)
  paymentAddress : String
  escrowContractAddress : String
  paymentLastScannedBlock : Option ℕ
  nextPaymentPollAtMs : Option ℕ
  factoryEvmAddress : Option String
  factoryEvmAddressDerivedAt : Option ℕ
  baseRpcEndpoint : Option String
  baseRpcFallbackEndpoint : Option String
  cyclesPerSpawn : ℕ
  minPoolBalance : ℕ
  estimatedOutcallCyclesPerInterval : ℕ
  evmConfirmationDepth : ℕ
  wasmBytes : Option (List UInt8)
  wasmSha256 : Option String
  pendingArtifactUpload : Option (Record .pendingArtifactUpload)
  adminPrincipals : BTreeMap String Unit
  sessionTtlMs : ℕ
  versionCommit : String

/-- `FactoryStableConfig`. Fields that older states lack are optional. -/
structure FactoryStableConfig (Record : RecordKind → Type) where
  feeConfig : Record .feeConfig
  creationCostQuote : Record .creationCostQuote
  releaseBroadcastConfig : Record .releaseBroadcastConfig
  childRuntime : Option (Record .childRuntime)
  pause : Bool
  nextSessionNonce : ℕ
  nextAutomatonNonce : ℕ
  nextReleaseNonce : Option ℕ
  stewardCommandNonces : Option (BTreeMap String ℕ)
  stewardRefundsInFlight : Option (BTreeMap String Unit)
  stewardRefundLeases : Option (BTreeMap String (Record .refundCommandLease))
  paymentAddress : String
  escrowContractAddress : String
  paymentLastScannedBlock : Option ℕ
  nextPaymentPollAtMs : Option ℕ
  factoryEvmAddress : Option String
  factoryEvmAddressDerivedAt : Option ℕ
  baseRpcEndpoint : Option String
  baseRpcFallbackEndpoint : Option String
  cyclesPerSpawn : ℕ
  minPoolBalance : ℕ
  estimatedOutcallCyclesPerInterval : ℕ
  evmConfirmationDepth : Option ℕ
  wasmBytes : Option (List UInt8)
  wasmSha256 : Option String
  pendingArtifactUpload : Option (Record .pendingArtifactUpload)
  adminPrincipals : BTreeMap String Unit
  sessionTtlMs : ℕ
  versionCommit : String

/-- `StableAuditEntries`. -/
structure StableAuditEntries (Record : RecordKind → Type) where
  entries : List (Record .auditEntry)

/-- `AuditStorageLayout`. -/
inductive AuditStorageLayout
  | sessionKeyedCollection
  deriving DecidableEq

/-- `StorageMetadata`. -/
structure StorageMetadata where
  schemaVersion : ℕ
  auditStorageLayout : AuditStorageLayout
  deriving DecidableEq

/-- `STORAGE_SCHEMA_VERSION`. -/
def storageSchemaVersion : ℕ := 5

/-- `PREVIOUS_STORAGE_SCHEMA_VERSION`. -/
def previousStorageSchemaVersion : ℕ := 4

/-- `StorageMetadata::default`. -/
def StorageMetadata.default : StorageMetadata := ⟨storageSchemaVersion, .sessionKeyedCollection⟩

/-- `FactoryStableStorage`: four cells and nine maps. -/
structure FactoryStableStorage (Record : RecordKind → Type) where
  metadata : StorageMetadata
  config : FactoryStableConfig Record
  schedulerRuntime : Record .schedulerRuntime
  roomState : Record .roomState
  repositoryStrategies : BTreeMap String (Record .repositoryStrategy)
  sessions : BTreeMap String (Record .session)
  spawnProviderSecrets : BTreeMap String (Record .spawnProviderSecrets)
  escrowClaims : BTreeMap String (Record .escrowClaim)
  registry : BTreeMap String (Record .registryRecord)
  runtimes : BTreeMap String (Record .runtime)
  auditLog : BTreeMap String (StableAuditEntries Record)
  roomMessages : BTreeMap ℕ (Record .roomMessage)
  schedulerJobs : BTreeMap String (Record .schedulerJob)

/-- `LOCAL_EVM_CHAIN_ID`. -/
def localEvmChainId : ℕ := 31337

/-- `default_evm_confirmation_depth`. -/
def defaultEvmConfirmationDepth (chainId : ℕ) : ℕ := if chainId = localEvmChainId then 1 else 12

/-- `resolve_evm_confirmation_depth`. -/
def resolveEvmConfirmationDepth (chainId : ℕ) (explicitDepth : Option ℕ) : ℕ :=
  explicitDepth.getD (defaultEvmConfirmationDepth chainId)

variable {Record : RecordKind → Type}

/-- `FactoryStableConfig::from`. -/
def FactoryStableConfig.ofState (value : FactoryStateSnapshot Record) :
    FactoryStableConfig Record where
  feeConfig := value.feeConfig
  creationCostQuote := value.creationCostQuote
  releaseBroadcastConfig := value.releaseBroadcastConfig
  childRuntime := some value.childRuntime
  pause := value.pause
  nextSessionNonce := value.nextSessionNonce
  nextAutomatonNonce := value.nextAutomatonNonce
  nextReleaseNonce := value.nextReleaseNonce
  stewardCommandNonces := some value.stewardCommandNonces
  stewardRefundsInFlight := some value.stewardRefundsInFlight
  stewardRefundLeases := some value.stewardRefundLeases
  paymentAddress := value.paymentAddress
  escrowContractAddress := value.escrowContractAddress
  paymentLastScannedBlock := value.paymentLastScannedBlock
  nextPaymentPollAtMs := value.nextPaymentPollAtMs
  factoryEvmAddress := value.factoryEvmAddress
  factoryEvmAddressDerivedAt := value.factoryEvmAddressDerivedAt
  baseRpcEndpoint := value.baseRpcEndpoint
  baseRpcFallbackEndpoint := value.baseRpcFallbackEndpoint
  cyclesPerSpawn := value.cyclesPerSpawn
  minPoolBalance := value.minPoolBalance
  estimatedOutcallCyclesPerInterval := value.estimatedOutcallCyclesPerInterval
  evmConfirmationDepth := some value.evmConfirmationDepth
  wasmBytes := value.wasmBytes
  wasmSha256 := value.wasmSha256
  pendingArtifactUpload := value.pendingArtifactUpload
  adminPrincipals := value.adminPrincipals
  sessionTtlMs := value.sessionTtlMs
  versionCommit := value.versionCommit

section Storage

variable [∀ kind, DecidableEq (Record kind)] [Inhabited (Record .childRuntime)]
  (chainId : Record .releaseBroadcastConfig → ℕ)

instance : DecidableEq (FactoryStableConfig Record) := fun a b =>
  decidable_of_iff
    (a.feeConfig = b.feeConfig ∧ a.creationCostQuote = b.creationCostQuote ∧
     a.releaseBroadcastConfig = b.releaseBroadcastConfig ∧ a.childRuntime = b.childRuntime ∧
     a.pause = b.pause ∧ a.nextSessionNonce = b.nextSessionNonce ∧ a.nextAutomatonNonce =
     b.nextAutomatonNonce ∧ a.nextReleaseNonce = b.nextReleaseNonce ∧ a.stewardCommandNonces =
     b.stewardCommandNonces ∧ a.stewardRefundsInFlight = b.stewardRefundsInFlight ∧
     a.stewardRefundLeases = b.stewardRefundLeases ∧ a.paymentAddress = b.paymentAddress ∧
     a.escrowContractAddress = b.escrowContractAddress ∧ a.paymentLastScannedBlock =
     b.paymentLastScannedBlock ∧ a.nextPaymentPollAtMs = b.nextPaymentPollAtMs ∧
     a.factoryEvmAddress = b.factoryEvmAddress ∧ a.factoryEvmAddressDerivedAt =
     b.factoryEvmAddressDerivedAt ∧ a.baseRpcEndpoint = b.baseRpcEndpoint ∧
     a.baseRpcFallbackEndpoint = b.baseRpcFallbackEndpoint ∧ a.cyclesPerSpawn = b.cyclesPerSpawn
     ∧ a.minPoolBalance = b.minPoolBalance ∧ a.estimatedOutcallCyclesPerInterval =
     b.estimatedOutcallCyclesPerInterval ∧ a.evmConfirmationDepth = b.evmConfirmationDepth ∧
     a.wasmBytes = b.wasmBytes ∧ a.wasmSha256 = b.wasmSha256 ∧ a.pendingArtifactUpload =
     b.pendingArtifactUpload ∧ a.adminPrincipals = b.adminPrincipals ∧ a.sessionTtlMs =
     b.sessionTtlMs ∧ a.versionCommit = b.versionCommit)
    (by cases a; cases b; simp)

/-- `load_collection`. -/
def loadCollection {κ ν : Type} [Ord κ] [Std.TransOrd κ] (map : BTreeMap κ ν) : BTreeMap κ ν :=
  MapDelta.collect map.toList

/-- The audit log, as it is loaded. -/
def loadAuditLog (map : BTreeMap String (StableAuditEntries Record)) :
    BTreeMap String (List (Record .auditEntry)) :=
  MapDelta.collect (map.toList.map fun entry => (entry.1, entry.2.entries))

/-- `sync_collection`. -/
def syncCollection {κ ν : Type} [Ord κ] [Std.TransOrd κ] [DecidableEq ν] (map : BTreeMap κ ν)
    (current next : BTreeMap κ ν) : BTreeMap κ ν :=
  MapDelta.sync id map current next

/-- `sync_audit_log`. -/
def syncAuditLog (map : BTreeMap String (StableAuditEntries Record))
    (current next : BTreeMap String (List (Record .auditEntry))) :
    BTreeMap String (StableAuditEntries Record) :=
  MapDelta.sync StableAuditEntries.mk map current next

/-- `FactoryStableConfig::into_state`. -/
def FactoryStableConfig.intoState (config : FactoryStableConfig Record)
    (repositoryStrategies : BTreeMap String (Record .repositoryStrategy))
    (sessions : BTreeMap String (Record .session))
    (escrowClaims : BTreeMap String (Record .escrowClaim))
    (registry : BTreeMap String (Record .registryRecord))
    (runtimes : BTreeMap String (Record .runtime))
    (roomState : Record .roomState)
    (roomMessages : BTreeMap ℕ (Record .roomMessage))
    (schedulerJobs : BTreeMap String (Record .schedulerJob))
    (schedulerRuntime : Record .schedulerRuntime)
    (auditLog : BTreeMap String (List (Record .auditEntry))) :
    FactoryStateSnapshot Record where
  repositoryStrategies := repositoryStrategies
  sessions := sessions
  escrowClaims := escrowClaims
  registry := registry
  runtimes := runtimes
  auditLog := auditLog
  roomState := roomState
  roomMessages := roomMessages
  schedulerJobs := schedulerJobs
  schedulerRuntime := schedulerRuntime
  feeConfig := config.feeConfig
  creationCostQuote := config.creationCostQuote
  releaseBroadcastConfig := config.releaseBroadcastConfig
  childRuntime := config.childRuntime.getD default
  pause := config.pause
  nextSessionNonce := config.nextSessionNonce
  nextAutomatonNonce := config.nextAutomatonNonce
  nextReleaseNonce := config.nextReleaseNonce
  stewardCommandNonces := config.stewardCommandNonces.getD ∅
  stewardRefundsInFlight := config.stewardRefundsInFlight.getD ∅
  stewardRefundLeases := config.stewardRefundLeases.getD ∅
  paymentAddress := config.paymentAddress
  escrowContractAddress := config.escrowContractAddress
  paymentLastScannedBlock := config.paymentLastScannedBlock
  nextPaymentPollAtMs := config.nextPaymentPollAtMs
  factoryEvmAddress := config.factoryEvmAddress
  factoryEvmAddressDerivedAt := config.factoryEvmAddressDerivedAt
  baseRpcEndpoint := config.baseRpcEndpoint
  baseRpcFallbackEndpoint := config.baseRpcFallbackEndpoint
  cyclesPerSpawn := config.cyclesPerSpawn
  minPoolBalance := config.minPoolBalance
  estimatedOutcallCyclesPerInterval := config.estimatedOutcallCyclesPerInterval
  evmConfirmationDepth :=
    resolveEvmConfirmationDepth (chainId config.releaseBroadcastConfig) config.evmConfirmationDepth
  wasmBytes := config.wasmBytes
  wasmSha256 := config.wasmSha256
  pendingArtifactUpload := config.pendingArtifactUpload
  adminPrincipals := config.adminPrincipals
  sessionTtlMs := config.sessionTtlMs
  versionCommit := config.versionCommit

/-- `assert_supported_schema`. -/
def FactoryStableStorage.supportedSchema (storage : FactoryStableStorage Record) : Bool :=
  (storage.metadata.schemaVersion = storageSchemaVersion ||
    storage.metadata.schemaVersion = previousStorageSchemaVersion) &&
  storage.metadata.auditStorageLayout = .sessionKeyedCollection

/-- `load_state`. It traps on a schema that is not supported. -/
def FactoryStableStorage.loadState (storage : FactoryStableStorage Record) :
    Option (FactoryStateSnapshot Record) :=
  if storage.supportedSchema then
    some (storage.config.intoState chainId
      (loadCollection storage.repositoryStrategies)
      (loadCollection storage.sessions)
      (loadCollection storage.escrowClaims)
      (loadCollection storage.registry)
      (loadCollection storage.runtimes)
      storage.roomState
      (loadCollection storage.roomMessages)
      (loadCollection storage.schedulerJobs)
      storage.schedulerRuntime
      (loadAuditLog storage.auditLog))
  else none

/-- `StableCell::set`, made only where the cell holds another value. -/
def setIfNe {α : Type} [DecidableEq α] (stored next : α) : α :=
  if stored = next then stored else next

/-- `persist_delta`. -/
def FactoryStableStorage.persistDelta (storage : FactoryStableStorage Record)
    (current next : FactoryStateSnapshot Record) : FactoryStableStorage Record where
  metadata := setIfNe storage.metadata .default
  config :=
    if FactoryStableConfig.ofState current = FactoryStableConfig.ofState next then storage.config
    else FactoryStableConfig.ofState next
  schedulerRuntime := setIfNe storage.schedulerRuntime next.schedulerRuntime
  roomState := setIfNe storage.roomState next.roomState
  repositoryStrategies := syncCollection storage.repositoryStrategies
    current.repositoryStrategies next.repositoryStrategies
  sessions := syncCollection storage.sessions current.sessions next.sessions
  spawnProviderSecrets := storage.spawnProviderSecrets
  escrowClaims := syncCollection storage.escrowClaims current.escrowClaims next.escrowClaims
  registry := syncCollection storage.registry current.registry next.registry
  runtimes := syncCollection storage.runtimes current.runtimes next.runtimes
  auditLog := syncAuditLog storage.auditLog current.auditLog next.auditLog
  roomMessages := syncCollection storage.roomMessages current.roomMessages next.roomMessages
  schedulerJobs := syncCollection storage.schedulerJobs current.schedulerJobs next.schedulerJobs

/-- `mutate`. -/
def FactoryStableStorage.mutate {α : Type} (storage : FactoryStableStorage Record)
    (writer : FactoryStateSnapshot Record → α × FactoryStateSnapshot Record) :
    Option (α × FactoryStableStorage Record) :=
  (storage.loadState chainId).map fun current =>
    let (result, next) := writer current
    (result, storage.persistDelta current next)

/-- `replace_state`, which `restore_state` calls. -/
def FactoryStableStorage.replaceState (storage : FactoryStableStorage Record)
    (next : FactoryStateSnapshot Record) : Option (FactoryStableStorage Record) :=
  (storage.loadState chainId).map fun current => storage.persistDelta current next

end Storage

section Collections

variable {κ ν : Type} [Ord κ] [Std.TransOrd κ] [Std.LawfulEqOrd κ] [DecidableEq κ]

omit [Std.LawfulEqOrd κ] [DecidableEq κ] in
/-- A collection is stored as it is. -/
theorem holds_id (map : BTreeMap κ ν) : MapDelta.Holds id map map :=
  fun _ => Option.map_id_apply.symm

/-- What is loaded is what is stored. -/
theorem loadCollection_eq (map : BTreeMap κ ν) : loadCollection map = map := by
  have hcollect : MapDelta.collect (map.toList.map fun entry => (entry.1, id entry.2)) = map :=
    (holds_id map).collect fun _ => rfl
  rw [List.map_id''] at hcollect
  · exact hcollect
  · exact fun _ => rfl

/-- The difference to the stored collection leads to the next one. -/
theorem syncCollection_eq [DecidableEq ν] (map next : BTreeMap κ ν) :
    syncCollection map map next = next := by
  apply Std.ExtTreeMap.ext_getElem?
  intro key
  exact ((holds_id map).sync key).trans Option.map_id_apply

end Collections

/-- The audit log is stored with its entries wrapped. -/
theorem holds_loadAuditLog (map : BTreeMap String (StableAuditEntries Record)) :
    MapDelta.Holds StableAuditEntries.mk map (loadAuditLog map) := by
  let bare : BTreeMap String (List (Record .auditEntry)) :=
    map.map fun _ wrapped => wrapped.entries
  have hholds : MapDelta.Holds StableAuditEntries.mk map bare := by
    intro key
    simp only [bare, Std.ExtTreeMap.getElem?_map, Option.map_map]
    exact Option.map_id_apply.symm
  have hload : loadAuditLog map = bare := hholds.collect fun _ => rfl
  rw [hload]
  exact hholds

/-- The difference to the stored audit log leads to the next one. -/
theorem loadAuditLog_syncAuditLog [∀ kind, DecidableEq (Record kind)]
    (map : BTreeMap String (StableAuditEntries Record))
    (next : BTreeMap String (List (Record .auditEntry))) :
    loadAuditLog (syncAuditLog map (loadAuditLog map) next) = next :=
  (holds_loadAuditLog map).sync.collect fun _ => rfl

/-- A cell that is set where it differs holds the next value. -/
theorem setIfNe_eq {α : Type} [DecidableEq α] (stored next : α) : setIfNe stored next = next := by
  unfold setIfNe
  split
  · assumption
  · rfl

section Refinement

variable [∀ kind, DecidableEq (Record kind)] [Inhabited (Record .childRuntime)]
  {chainId : Record .releaseBroadcastConfig → ℕ} {storage : FactoryStableStorage Record}
  {current next : FactoryStateSnapshot Record}

omit [∀ kind, DecidableEq (Record kind)] in
/-- A state is what its configuration and its collections make up. -/
theorem intoState_ofState (state : FactoryStateSnapshot Record) :
    (FactoryStableConfig.ofState state).intoState chainId state.repositoryStrategies
      state.sessions state.escrowClaims state.registry state.runtimes state.roomState
      state.roomMessages state.schedulerJobs state.schedulerRuntime state.auditLog = state := rfl

omit [∀ kind, DecidableEq (Record kind)] in
/-- The fields that older states lack have been filled in once they are read. -/
theorem intoState_eq_of_ofState_eq {config : FactoryStableConfig Record}
    {repositoryStrategies sessions escrowClaims registry runtimes roomState roomMessages
      schedulerJobs schedulerRuntime auditLog}
    (h : FactoryStableConfig.ofState (config.intoState chainId repositoryStrategies sessions
      escrowClaims registry runtimes roomState roomMessages schedulerJobs schedulerRuntime
      auditLog) = FactoryStableConfig.ofState next) :
    config.intoState chainId next.repositoryStrategies next.sessions next.escrowClaims
      next.registry next.runtimes next.roomState next.roomMessages next.schedulerJobs
      next.schedulerRuntime next.auditLog = next := by
  calc _ = (FactoryStableConfig.ofState (config.intoState chainId repositoryStrategies sessions
        escrowClaims registry runtimes roomState roomMessages schedulerJobs schedulerRuntime
        auditLog)).intoState chainId next.repositoryStrategies next.sessions next.escrowClaims
        next.registry next.runtimes next.roomState next.roomMessages next.schedulerJobs
        next.schedulerRuntime next.auditLog := rfl
    _ = next := by rw [h]; rfl

/-- The configuration cell after a delta, with the next collections. -/
theorem intoState_persistDelta (hload : storage.loadState chainId = some current) :
    (storage.persistDelta current next).config.intoState chainId next.repositoryStrategies
      next.sessions next.escrowClaims next.registry next.runtimes next.roomState
      next.roomMessages next.schedulerJobs next.schedulerRuntime next.auditLog = next := by
  unfold FactoryStableStorage.loadState at hload
  split at hload
  · obtain rfl := Option.some.inj hload
    simp only [FactoryStableStorage.persistDelta]
    split
    · rename_i hsame
      exact intoState_eq_of_ofState_eq hsame
    · rfl
  · cases hload

omit [∀ kind, DecidableEq (Record kind)] in
/-- The collections that a stored state is loaded with are those of the storage. -/
theorem collections_of_loadState (hload : storage.loadState chainId = some current) :
    current.repositoryStrategies = storage.repositoryStrategies ∧
    current.sessions = storage.sessions ∧ current.escrowClaims = storage.escrowClaims ∧
    current.registry = storage.registry ∧ current.runtimes = storage.runtimes ∧
    current.roomMessages = storage.roomMessages ∧
    current.schedulerJobs = storage.schedulerJobs ∧
    current.auditLog = loadAuditLog storage.auditLog := by
  unfold FactoryStableStorage.loadState at hload
  split at hload
  · obtain rfl := Option.some.inj hload
    simp only [FactoryStableConfig.intoState, loadCollection_eq, and_self]
  · cases hload

/-- What `persist_delta` writes over the state that is stored, is read back. -/
theorem loadState_persistDelta (hload : storage.loadState chainId = some current) :
    (storage.persistDelta current next).loadState chainId = some next := by
  have hsupported : (storage.persistDelta current next).supportedSchema = true := by
    simp [FactoryStableStorage.supportedSchema, FactoryStableStorage.persistDelta, setIfNe_eq,
      StorageMetadata.default]
  have hconfig : (storage.persistDelta current next).config.intoState chainId _ _ _ _ _ _ _ _ _ _ =
      next := intoState_persistDelta hload
  obtain ⟨hstrategies, hsessions, hclaims, hregistry, hruntimes, hmessages, hjobs, haudits⟩ :=
    collections_of_loadState hload
  rw [FactoryStableStorage.loadState, if_pos hsupported, Option.some.injEq]
  refine Eq.trans ?_ hconfig
  simp only [FactoryStableStorage.persistDelta, hstrategies, hsessions, hclaims, hregistry,
    hruntimes, hmessages, hjobs, haudits, loadCollection_eq, syncCollection_eq, setIfNe_eq,
    loadAuditLog_syncAuditLog]

/-- `mutate` on a storage that can be read. -/
theorem mutate_eq {α : Type} (hload : storage.loadState chainId = some current)
    (writer : FactoryStateSnapshot Record → α × FactoryStateSnapshot Record) :
    storage.mutate chainId writer =
      some ((writer current).1, storage.persistDelta current (writer current).2) := by
  rw [FactoryStableStorage.mutate, hload]
  rfl

/-- Stable storage refines the state in memory: for every storage that can be read and every
writer, `mutate` returns what the writer returns and leaves the state that the writer
produced to be read back; and a snapshot that is restored is read back. -/
theorem storage_refines_state (chainId : Record .releaseBroadcastConfig → ℕ)
    (storage : FactoryStableStorage Record) {state : FactoryStateSnapshot Record}
    (hload : storage.loadState chainId = some state) :
    (∀ {α : Type} (writer : FactoryStateSnapshot Record → α × FactoryStateSnapshot Record),
      ∃ storage', storage.mutate chainId writer = some ((writer state).1, storage') ∧
        storage'.loadState chainId = some (writer state).2) ∧
    ∀ snapshot, ∃ storage', storage.replaceState chainId snapshot = some storage' ∧
      storage'.loadState chainId = some snapshot := by
  constructor
  · intro α writer
    exact ⟨_, mutate_eq hload writer, loadState_persistDelta hload⟩
  · intro snapshot
    refine ⟨storage.persistDelta state snapshot, ?_, loadState_persistDelta hload⟩
    rw [FactoryStableStorage.replaceState, hload]
    rfl

/-- A sequence of writers, run through storage, is read back as run in memory. -/
theorem loadState_foldlM_mutate {α : Type}
    (writers : List (FactoryStateSnapshot Record → α × FactoryStateSnapshot Record))
    {state : FactoryStateSnapshot Record} (hload : storage.loadState chainId = some state) :
    ∃ storage', writers.foldlM (fun storage writer => (storage.mutate chainId writer).map (·.2))
        storage = some storage' ∧
      storage'.loadState chainId = some (writers.foldl (fun state writer => (writer state).2)
        state) := by
  induction writers generalizing storage state with
  | nil => exact ⟨storage, rfl, hload⟩
  | cons writer writers ih =>
    obtain ⟨last, hrun, hlast⟩ := ih (loadState_persistDelta hload)
    refine ⟨last, ?_, hlast⟩
    rw [List.foldlM_cons, mutate_eq hload writer]
    exact hrun

end Refinement

/-- Records of the sample: texts. -/
abbrev SampleRecord (_ : RecordKind) : Type := String

/-- A storage of the previous schema with one session, stored before the confirmation depth
and the nonces of the stewards were. -/
def sampleStorage : FactoryStableStorage SampleRecord where
  metadata := ⟨previousStorageSchemaVersion, .sessionKeyedCollection⟩
  config := {
    feeConfig := ""
    creationCostQuote := ""
    releaseBroadcastConfig := ""
    childRuntime := none
    pause := false
    nextSessionNonce := 0
    nextAutomatonNonce := 0
    nextReleaseNonce := none
    stewardCommandNonces := none
    stewardRefundsInFlight := none
    stewardRefundLeases := none
    paymentAddress := ""
    escrowContractAddress := ""
    paymentLastScannedBlock := none
    nextPaymentPollAtMs := none
    factoryEvmAddress := none
    factoryEvmAddressDerivedAt := none
    baseRpcEndpoint := none
    baseRpcFallbackEndpoint := none
    cyclesPerSpawn := 0
    minPoolBalance := 0
    estimatedOutcallCyclesPerInterval := 0
    evmConfirmationDepth := none
    wasmBytes := none
    wasmSha256 := none
    pendingArtifactUpload := none
    adminPrincipals := ∅
    sessionTtlMs := 0
    versionCommit := "" }
  schedulerRuntime := ""
  roomState := ""
  repositoryStrategies := ∅
  sessions := (∅ : BTreeMap String String).insert "first" "awaiting"
  spawnProviderSecrets := ∅
  escrowClaims := ∅
  registry := ∅
  runtimes := ∅
  auditLog := (∅ : BTreeMap String (StableAuditEntries SampleRecord)).insert "first" ⟨["created"]⟩
  roomMessages := ∅
  schedulerJobs := ∅

/-- A writer that replaces the session by another one. -/
def replaceSession (state : FactoryStateSnapshot SampleRecord) :
    Unit × FactoryStateSnapshot SampleRecord :=
  ((), { state with
    sessions := (state.sessions.erase "first").insert "second" "awaiting"
    auditLog := state.auditLog.insert "second" ["created"]
    stewardCommandNonces := state.stewardCommandNonces.insert "second" 1 })

/-- After the replacement both the storage and the writer's state have the second session. -/
theorem sampleStorage_replaceSession :
    ∃ state storage', sampleStorage.loadState (fun _ => 8453) = some state ∧
      sampleStorage.mutate (fun _ => 8453) replaceSession = some ((), storage') ∧
      storage'.loadState (fun _ => 8453) = some (replaceSession state).2 ∧
      (replaceSession state).2.sessions["second"]? = some "awaiting" := by
  have hload : sampleStorage.loadState (fun _ => 8453) =
      some (sampleStorage.config.intoState (fun _ => 8453)
        (loadCollection sampleStorage.repositoryStrategies) (loadCollection sampleStorage.sessions)
        (loadCollection sampleStorage.escrowClaims) (loadCollection sampleStorage.registry)
        (loadCollection sampleStorage.runtimes) sampleStorage.roomState
        (loadCollection sampleStorage.roomMessages) (loadCollection sampleStorage.schedulerJobs)
        sampleStorage.schedulerRuntime (loadAuditLog sampleStorage.auditLog)) :=
    if_pos (by decide)
  obtain ⟨storage', hmutate, hread⟩ :=
    (storage_refines_state (fun _ => 8453) sampleStorage hload).1 replaceSession
  refine ⟨_, storage', hload, hmutate, hread, ?_⟩
  simp [replaceSession]

end Automaton.Factory.Storage
