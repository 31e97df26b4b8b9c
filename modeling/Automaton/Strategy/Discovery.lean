import Automaton.Library.BTreeMap
import Automaton.Library.Machine
import Automaton.Library.Sql
import Automaton.Util

/-!
# Strategy discovery

A worker looks for strategies on behalf of the automaton. A job is pending from its submission until
the worker calls back with a result, which is stored with a marker, or until it expires.
-/

namespace Automaton.Strategy

open Machine

/-- `ProtocolWatchlistEntry`. -/
structure ProtocolWatchlistEntry where
  id : String
  chainId : ℕ
  poolAddress : String
  marketDataApiUrl : String
  abiApiUrl : String
  deriving DecidableEq, Repr

/-- `PendingStrategyDiscoveryJob`. -/
structure PendingStrategyDiscoveryJob where
  jobId : String
  submittedAtNs : ℕ
  objective : String
  watchlist : List ProtocolWatchlistEntry
  exposureSummary : String
  autonomySummary : String
  deriving DecidableEq, Repr

/-- What is checked of a `SourceRecord`. -/
structure SourceRecord where
  sourceId : String
  url : String
  fetchedAtNs : ℕ
  deriving DecidableEq, Repr

/-- What is checked of a `ProtocolArtifactBundle`. -/
structure ProtocolArtifactBundle where
  bundleId : String
  protocolId : String
  chainId : ℕ
  role : String
  contractAddress : String
  abiJson : String
  sourceRef : String
  deriving DecidableEq, Repr

/-- What is checked of a `StrategyCandidateBundle`. -/
structure StrategyCandidateBundle where
  candidateId : String
  objective : String
  chainId : ℕ
  deriving DecidableEq, Repr

/-- `StrategyDiscoveryResultPayload`, with what is only stored in one field. -/
structure StrategyDiscoveryResultPayload where
  protocolArtifacts : List ProtocolArtifactBundle
  candidates : List StrategyCandidateBundle
  sourceRecords : List SourceRecord
  details : String
  deriving DecidableEq, Repr

/-- `SubmitStrategyDiscoveryResultArgs`. -/
structure SubmitStrategyDiscoveryResultArgs where
  jobId : String
  completedAtNs : ℕ
  objective : String
  watchlist : List ProtocolWatchlistEntry
  payload : StrategyDiscoveryResultPayload
  deriving DecidableEq, Repr

/-- `StrategyDiscoveryResultStatus`. -/
inductive StrategyDiscoveryResultStatus
  | validated
  | rejected (reason : String)
  deriving DecidableEq, Repr

/-- `StrategyDiscoveryCallbackRecord`. -/
structure StrategyDiscoveryCallbackRecord where
  jobId : String
  completedAtNs : ℕ
  acceptedAtNs : ℕ
  validatedAtNs : Option ℕ
  callerPrincipal : String
  objective : String
  watchlist : List ProtocolWatchlistEntry
  resultHash : String
  status : StrategyDiscoveryResultStatus
  payload : StrategyDiscoveryResultPayload
  deriving DecidableEq, Repr

/-- `StrategyDiscoveryCallbackApply`. -/
inductive StrategyDiscoveryCallbackApply
  | accepted (status : StrategyDiscoveryResultStatus)
  | duplicate
  deriving DecidableEq, Repr

/-- `MAX_STRATEGY_DISCOVERY_CALLBACK_PAYLOAD_BYTES`. -/
def maxStrategyDiscoveryCallbackPayloadBytes : ℕ := 96 * 1024

/-- The serializer and the hash function. -/
structure DiscoveryEnv where
  watchlistBytes : List ProtocolWatchlistEntry → List UInt8
  payloadBytes : StrategyDiscoveryResultPayload → List UInt8
  keccakHex : List UInt8 → String

namespace DiscoveryEnv

variable (env : DiscoveryEnv)

/-- `strategy_discovery_watchlist_hash`. -/
def watchlistHash (watchlist : List ProtocolWatchlistEntry) : String :=
  "0x" ++ env.keccakHex (env.watchlistBytes watchlist)

/-- `strategy_discovery_result_hash`. -/
def resultHash (payload : StrategyDiscoveryResultPayload) : String :=
  "0x" ++ env.keccakHex (env.payloadBytes payload)

end DiscoveryEnv

/-- What follows `://`. -/
def afterScheme : List Char → Option (List Char)
  | ':' :: '/' :: '/' :: rest => some rest
  | _ :: rest => afterScheme rest
  | [] => none

/-- `source_host_from_url`. -/
def sourceHostFromUrl (url : String) : Option String := do
  let remainder ← afterScheme (Text.trim url).toList
  let hostPort := Text.trim (String.ofList (remainder.takeWhile fun c =>
    !(c = '/' || c = '?' || c = '#')))
  if hostPort = "" then none
  else
    some (Text.toAsciiLowercase (String.ofList
      (hostPort.toList.reverse.takeWhile (· ≠ '@')).reverse))

/-- The hosts of one entry in `strategy_discovery_allowed_source_hosts`. -/
def entryHosts (entry : ProtocolWatchlistEntry) : Except String (List String) :=
  match sourceHostFromUrl entry.marketDataApiUrl, sourceHostFromUrl entry.abiApiUrl with
  | none, _ => .error ("strategy discovery watchlist id=" ++ entry.id ++
      " market_data_api_url must include a host")
  | some _, none => .error ("strategy discovery watchlist id=" ++ entry.id ++
      " abi_api_url must include a host")
  | some marketHost, some abiHost => .ok [marketHost, abiHost]

/-- `strategy_discovery_allowed_source_hosts`. -/
def strategyDiscoveryAllowedSourceHosts (watchlist : List ProtocolWatchlistEntry) :
    Except String (List String) :=
  (watchlist.mapM entryHosts).map List.flatten

/-- A callback, when it is accepted, with the configured lifetime of results; the database may
refuse to write the result and the marker. -/
structure DiscoveryCallback where
  args : SubmitStrategyDiscoveryResultArgs
  callerPrincipal : String
  acceptedAtNs : ℕ
  resultTtlSecs : ℕ
  resultWrite : Except String Unit
  markerWrite : Except String Unit

namespace DiscoveryCallback

variable (env : DiscoveryEnv) (callback : DiscoveryCallback)

/-- The lifetime of results in nanoseconds. -/
def ttlNs : ℕ := saturatingMul u64Max callback.resultTtlSecs 1000000000

/-- The time before which a result is too old. -/
def minCompletedAtNs : ℕ := callback.acceptedAtNs - callback.ttlNs

/-- The checks of `validate_strategy_discovery_payload` before the hosts are needed: the reason for
which the callback is rejected. -/
def firstRejection (job : PendingStrategyDiscoveryJob) : Option String :=
  let args := callback.args
  let size := (env.payloadBytes args.payload).length
  if Text.trim args.objective = "" then
    some "strategy discovery callback objective cannot be empty"
  else if maxStrategyDiscoveryCallbackPayloadBytes < size then
    some ("strategy discovery callback payload too large: " ++ toString size ++ " > " ++
      toString maxStrategyDiscoveryCallbackPayloadBytes ++ " bytes")
  else if Text.trim args.objective ≠ Text.trim job.objective then
    some ("strategy discovery callback objective mismatch expected=" ++ job.objective ++
      " received=" ++ args.objective)
  else if env.watchlistHash job.watchlist ≠ env.watchlistHash args.watchlist then
    some ("strategy discovery callback watchlist mismatch expected=" ++
      env.watchlistHash job.watchlist ++ " received=" ++ env.watchlistHash args.watchlist)
  else if callback.ttlNs = 0 then some "strategy discovery result ttl is zero"
  else if args.completedAtNs < callback.minCompletedAtNs then
    some ("strategy discovery callback expired completed_at_ns=" ++ toString args.completedAtNs ++
      " accepted_at_ns=" ++ toString callback.acceptedAtNs ++ " ttl_secs=" ++
      toString callback.resultTtlSecs)
  else if args.payload.protocolArtifacts.isEmpty && args.payload.candidates.isEmpty &&
      args.payload.sourceRecords.isEmpty then
    some "strategy discovery callback payload must include artifacts, candidates, or sources"
  else none

/-- The record of a callback with its status. -/
def record (status : StrategyDiscoveryResultStatus) : StrategyDiscoveryCallbackRecord where
  jobId := callback.args.jobId
  completedAtNs := callback.args.completedAtNs
  acceptedAtNs := callback.acceptedAtNs
  validatedAtNs := if status = .validated then some callback.acceptedAtNs else none
  callerPrincipal := callback.callerPrincipal
  objective := callback.args.objective
  watchlist := callback.args.watchlist
  resultHash := env.resultHash callback.args.payload
  status := status
  payload := callback.args.payload

/-- The check of a source. -/
def sourceRejection (hosts : List String) (source : SourceRecord) : Option String :=
  if Text.trim source.sourceId = "" then some "strategy discovery source_id cannot be empty"
  else
    match sourceHostFromUrl source.url with
    | none => some ("strategy discovery source url missing host source_id=" ++ source.sourceId)
    | some host =>
      if !hosts.contains host then
        some ("strategy discovery source host not allowlisted source_id=" ++ source.sourceId ++
          " host=" ++ host)
      else if source.fetchedAtNs < callback.minCompletedAtNs then
        some ("strategy discovery source stale source_id=" ++ source.sourceId ++
          " fetched_at_ns=" ++ toString source.fetchedAtNs ++ " ttl_secs=" ++
          toString callback.resultTtlSecs)
      else none

end DiscoveryCallback

/-- The check of an artifact. -/
def bundleRejection (hosts : List String) (bundle : ProtocolArtifactBundle) : Option String :=
  let named := "strategy discovery protocol artifact bundle=" ++ bundle.bundleId
  if Text.trim bundle.bundleId = "" then
    some "strategy discovery protocol artifact bundle_id cannot be empty"
  else if Text.trim bundle.protocolId = "" || Text.trim bundle.role = "" then
    some (named ++ " must include protocol_id and role")
  else if bundle.chainId = 0 then some (named ++ " chain_id must be greater than zero")
  else if !(normalizeEvmAddress bundle.contractAddress).isOk then
    some (named ++ " contract_address invalid")
  else if Text.trim bundle.abiJson = "" then some (named ++ " abi_json cannot be empty")
  else
    match sourceHostFromUrl bundle.sourceRef with
    | none => some (named ++ " source_ref missing host")
    | some host =>
      if !hosts.contains host then
        some ("strategy discovery protocol artifact source host not allowlisted bundle=" ++
          bundle.bundleId ++ " host=" ++ host)
      else none

/-- The check of a candidate. -/
def candidateRejection (candidate : StrategyCandidateBundle) : Option String :=
  let named := "strategy discovery candidate=" ++ candidate.candidateId
  if Text.trim candidate.candidateId = "" then
    some "strategy discovery candidate_id cannot be empty"
  else if Text.trim candidate.objective = "" then some (named ++ " objective cannot be empty")
  else if candidate.chainId = 0 then some (named ++ " chain_id must be greater than zero")
  else none

/-- The status of a callback with the outcome of a check. -/
def statusOf (rejection : Option String) : StrategyDiscoveryResultStatus :=
  rejection.elim .validated .rejected

/-- `validate_strategy_discovery_payload`. -/
def validateStrategyDiscoveryPayload (env : DiscoveryEnv) (callback : DiscoveryCallback)
    (job : PendingStrategyDiscoveryJob) : Except String StrategyDiscoveryResultStatus :=
  let payload := callback.args.payload
  if Text.trim callback.args.jobId = "" then
    .error "strategy discovery callback job_id cannot be empty"
  else
    match callback.firstRejection env job with
    | some reason => .ok (.rejected reason)
    | none =>
      (strategyDiscoveryAllowedSourceHosts job.watchlist).map fun hosts =>
        statusOf ((payload.sourceRecords.findSome? (callback.sourceRejection hosts)).or
          ((payload.protocolArtifacts.findSome? (bundleRejection hosts)).or
            (payload.candidates.findSome? candidateRejection)))

/-- The tables of discovery jobs. -/
structure DiscoveryStore where
  pending : BTreeMap String PendingStrategyDiscoveryJob
  results : BTreeMap String StrategyDiscoveryCallbackRecord
  completed : BTreeMap String (ℕ × String)

/-- The tables before any job is submitted. -/
def DiscoveryStore.empty : DiscoveryStore := ⟨∅, ∅, ∅⟩

namespace DiscoveryStore

variable (env : DiscoveryEnv) (store : DiscoveryStore)

/-- A marker or a result is found under an id. -/
def answered (jobId : String) : Bool :=
  store.completed[Text.trim jobId]?.isSome || store.results[Text.trim jobId]?.isSome

/-- A result is stored with its marker. -/
def recordCallback (callback : DiscoveryCallback) (status : StrategyDiscoveryResultStatus) :
    Except String StrategyDiscoveryCallbackApply × DiscoveryStore :=
  let args := callback.args
  match callback.resultWrite with
  | .error error => (.error error, store)
  | .ok () =>
    let stored := { store with
      results := store.results.insert args.jobId (callback.record env status) }
    match callback.markerWrite with
    | .error error => (.error error, stored)
    | .ok () => (.ok (.accepted status), { stored with
        completed := store.completed.insert (Text.trim args.jobId)
          (callback.acceptedAtNs, env.resultHash args.payload) })

/-- `apply_strategy_discovery_callback`. -/
def applyCallback (callback : DiscoveryCallback) :
    Except String StrategyDiscoveryCallbackApply × DiscoveryStore :=
  let jobId := callback.args.jobId
  if Text.trim jobId = "" then (.error "strategy discovery callback job_id cannot be empty", store)
  else if store.answered jobId then (.ok .duplicate, store)
  else
    match store.pending[Text.trim jobId]? with
    | some job =>
      -- The row is deleted before anything that may fail.
      let taken := { store with pending := store.pending.erase (Text.trim jobId) }
      match validateStrategyDiscoveryPayload env callback job with
      | .error error => (.error error, taken)
      | .ok status => taken.recordCallback env callback status
    | none => store.recordCallback env callback
        (.rejected ("unknown pending strategy discovery job_id=" ++ jobId))

/-- `upsert_pending_strategy_discovery_job`. -/
def upsertPending (job : PendingStrategyDiscoveryJob) : Except String DiscoveryStore :=
  if Text.trim job.jobId = "" then .error "pending strategy discovery job_id cannot be empty"
  else if Text.trim job.objective = "" then
    .error "pending strategy discovery objective cannot be empty"
  else if job.watchlist.isEmpty then
    .error "pending strategy discovery watchlist cannot be empty"
  else .ok { store with pending := store.pending.insert job.jobId job }

end DiscoveryStore

/-- How the database orders jobs by `submitted_at_ns`, the latest one first. -/
abbrev SubmittedOrder := Sql.RowOrder PendingStrategyDiscoveryJob fun first second =>
  Sql.columnOf second.submittedAtNs ≤ Sql.columnOf first.submittedAtNs

/-- The time at which expired jobs were submitted, or before it. -/
def expiryCutoffNs (nowNs ttlSecs : ℕ) : ℕ := nowNs - saturatingMul u64Max ttlSecs 1000000000

namespace DiscoveryStore

variable (order : SubmittedOrder) (store : DiscoveryStore)

/-- The jobs that `expire_strategy_discovery_pending_jobs` returns. -/
def expired (nowNs ttlSecs : ℕ) : List PendingStrategyDiscoveryJob :=
  if ttlSecs = 0 then []
  else
    (((order.sort (store.pending.toList.map (·.2))).take 500).filter
      (·.submittedAtNs ≤ expiryCutoffNs nowNs ttlSecs)).mergeSort
        fun first second => first.submittedAtNs ≤ second.submittedAtNs

/-- `delete_strategy_discovery_pending_job`. -/
def deletePending (jobId : String) : DiscoveryStore :=
  if Text.trim jobId = "" then store
  else { store with pending := store.pending.erase (Text.trim jobId) }

/-- `expire_strategy_discovery_pending_jobs`. -/
def expire (nowNs ttlSecs : ℕ) : DiscoveryStore :=
  (store.expired order nowNs ttlSecs).foldl (fun store job => store.deletePending job.jobId) store

end DiscoveryStore

/-- The id of a job that is submitted at a time. -/
def strategyDiscoveryJobId (nowNs : ℕ) : String := "strategy-discovery-" ++ toString nowNs

/-- What happens to discovery jobs: the worker accepts one, it calls back, and jobs expire. -/
inductive DiscoveryAct
  | submit (nowNs : ℕ) (objective : String) (watchlist : List ProtocolWatchlistEntry)
    (exposureSummary autonomySummary : String)
  | callback (callback : DiscoveryCallback)
  | expire (nowNs ttlSecs : ℕ)

section Runs

variable (env : DiscoveryEnv) (order : SubmittedOrder)

/-- The tables after an act. -/
def DiscoveryAct.apply (act : DiscoveryAct) (store : DiscoveryStore) : DiscoveryStore :=
  match act with
  | .submit nowNs objective watchlist exposureSummary autonomySummary =>
    (store.upsertPending ⟨strategyDiscoveryJobId nowNs, nowNs, objective, watchlist,
      exposureSummary, autonomySummary⟩).toOption.getD store
  | .callback call => (store.applyCallback env call).2
  | .expire nowNs ttlSecs => store.expire order nowNs ttlSecs

/-- An act is the expiry of a job. -/
def DiscoveryAct.Expires (job : PendingStrategyDiscoveryJob) : DiscoveryAct → Prop
  | .expire nowNs ttlSecs => ttlSecs ≠ 0 ∧ job.submittedAtNs ≤ expiryCutoffNs nowNs ttlSecs
  | _ => False

/-- An act is a callback that fails. -/
def DiscoveryAct.Fails (store : DiscoveryStore) : DiscoveryAct → Prop
  | .callback call => (store.applyCallback env call).1.isOk = false
  | _ => False

/-- An act settles jobs as it should: a job is pending until it expires or has a result and a
marker, a callback that fails changes nothing, results are never replaced, and a callback under the
id of a pending job is no duplicate. -/
structure DiscoveryAct.Settles (store : DiscoveryStore) (act : DiscoveryAct) : Prop where
  leaves : ∀ (id : String) (job : PendingStrategyDiscoveryJob), store.pending[id]? = some job →
    (act.apply env order store).pending[id]? = none → act.Expires job ∨
      ((act.apply env order store).results[id]?.isSome = true ∧
        (act.apply env order store).completed[id]?.isSome = true)
  unchanged : act.Fails env store → act.apply env order store = store
  once : ∀ (id : String) (record : StrategyDiscoveryCallbackRecord),
    store.results[id]? = some record → (act.apply env order store).results[id]? = some record
  admits : ∀ (id : String) (job : PendingStrategyDiscoveryJob),
    (act.apply env order store).pending[id]? = some job →
      ∀ call : DiscoveryCallback, call.args.jobId = id →
        ((act.apply env order store).applyCallback env call).1 ≠ .ok .duplicate

/-- The condition on an act. A job is not submitted under an id that has an answer. A callback for
a pending job has its id as it is, is rejected by one of the first checks unless all entries of the
watchlist have hosts, and is written; one for an unknown job is written in full or not at all. -/
def DiscoveryAct.Safe (store : DiscoveryStore) (act : DiscoveryAct) : Prop :=
  match act with
  | .submit nowNs objective watchlist _ _ => Text.trim objective ≠ "" → watchlist ≠ [] →
    store.answered (strategyDiscoveryJobId nowNs) = false
  | .callback call => Text.trim call.args.jobId ≠ "" →
    store.answered call.args.jobId = false →
      (∀ job, store.pending[Text.trim call.args.jobId]? = some job →
        Text.trim call.args.jobId = call.args.jobId ∧
          (call.firstRejection env job = none → ∀ entry ∈ job.watchlist,
            sourceHostFromUrl entry.marketDataApiUrl ≠ none ∧
              sourceHostFromUrl entry.abiApiUrl ≠ none) ∧
          call.resultWrite.isOk = true) ∧
        (call.resultWrite.isOk = true → call.markerWrite.isOk = true)
  | .expire _ _ => True

end Runs

end Automaton.Strategy
