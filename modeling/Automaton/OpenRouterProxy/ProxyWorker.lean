import Automaton.Library.BTreeMap
import Automaton.Library.Fallible
import Automaton.Library.Text

/-!
# The proxy worker

The core of the worker that takes inference jobs of several tenants and sends their results back:
the jobs of all tenants are pending in one map under the ids that the tenants chose.
-/

namespace Automaton.OpenRouterProxy

/-- `DEFAULT_CALLBACK_METHOD`. -/
def defaultCallbackMethod : String := "submit_inference_result"

/-- `WorkerConfig`, with the principal of its `PersistentCallbackIdentity`. -/
structure WorkerConfig where
  principalText : String
  maxSubmitRequestBytes : ℕ
  maxCallbackPayloadBytes : ℕ

/-- `TenantConfig`. -/
structure TenantConfig where
  canisterId : String
  submitBearerToken : String
  callbackMethod : String

/-- `ProxyError`. -/
inductive ProxyError
  | invalidRequest (message : String)
  | missingAuth
  | unauthorized
  | unknownTenant
  | missingOpenRouterApiKey
  | requestTooLarge
  | unknownJob
  | callbackPayloadTooLarge
  | callbackFailed (message : String)
  deriving DecidableEq

/-- `TenantConfig::validate`. -/
def TenantConfig.validate (tenant : TenantConfig) : Except ProxyError Unit :=
  if Text.trim tenant.canisterId = "" then
    .error (.invalidRequest "canister_id cannot be empty")
  else if Text.trim tenant.submitBearerToken = "" then
    .error (.invalidRequest "submit_bearer_token cannot be empty")
  else .ok ()

/-- `TenantConfig::callback_method_or_default`. -/
def TenantConfig.callbackMethodOrDefault (tenant : TenantConfig) : String :=
  let trimmed := Text.trim tenant.callbackMethod
  if trimmed = "" then defaultCallbackMethod else trimmed

/-- `SubmitJobRequest`, as far as `accept_submit` reads it. -/
structure SubmitJobRequest where
  canisterId : String
  turnId : String
  jobId : String
  model : String

/-- `SubmitJobAck`. -/
structure SubmitJobAck where
  jobId : String
  acceptedAtNs : ℕ
  status : String

/-- `PendingJob`. -/
structure PendingJob where
  canisterId : String
  turnId : String
  jobId : String
  model : String
  submittedAtNs : ℕ
  deriving DecidableEq

/-- `ToolCall`. -/
structure ToolCall where
  toolCallId : Option String
  tool : String
  argsJson : String

/-- `InferenceProxyResultPayload`. -/
structure InferenceProxyResultPayload where
  explanation : Option String
  toolCalls : List ToolCall

/-- `SubmitInferenceResultArgs`. -/
structure SubmitInferenceResultArgs where
  jobId : String
  turnId : String
  completedAtNs : ℕ
  result : Option InferenceProxyResultPayload
  error : Option String

/-- `CallbackEnvelope`. -/
structure CallbackEnvelope where
  canisterId : String
  method : String
  callerPrincipal : String
  args : SubmitInferenceResultArgs

/-- `HttpHeaders`, values under the names in lower case. -/
structure HttpHeaders where
  inner : BTreeMap String String

namespace HttpHeaders

/-- `HttpHeaders::new`: of headers with one name the last one stays. -/
def new (headers : List (String × String)) : HttpHeaders where
  inner := headers.foldl
    (fun inner header => inner.insert (Text.toAsciiLowercase header.1) header.2) ∅

/-- `bearer_token`. -/
def bearerToken (headers : HttpHeaders) : Option String := do
  let auth ← headers.inner["authorization"]?
  let token ← Text.stripPrefix? "Bearer " auth
  let trimmed := Text.trim token
  if trimmed = "" then none else some trimmed

/-- `openrouter_api_key`. -/
def openrouterApiKey (headers : HttpHeaders) : Option String := do
  let key ← headers.inner["x-openrouter-api-key"]?
  let trimmed := Text.trim key
  if trimmed = "" then none else some trimmed

end HttpHeaders

/-- `ProxyWorker`. -/
structure ProxyWorker where
  config : WorkerConfig
  tenants : BTreeMap String TenantConfig
  pendingJobs : BTreeMap String PendingJob

namespace ProxyWorker

/-- The loop of `new` that fills the map of the tenants. -/
def tenantMap : List TenantConfig → BTreeMap String TenantConfig →
    Except ProxyError (BTreeMap String TenantConfig)
  | [], tenants => .ok tenants
  | tenant :: rest, tenants => do
    tenant.validate
    if tenants[tenant.canisterId]?.isSome then
      throw (.invalidRequest "duplicate tenant canister_id")
    tenantMap rest (tenants.insert tenant.canisterId tenant)

/-- `ProxyWorker::new`. -/
def new (config : WorkerConfig) (tenants : List TenantConfig) : Except ProxyError ProxyWorker := do
  if Text.trim config.principalText = "" then
    throw (.invalidRequest "callback identity principal cannot be empty")
  if config.maxSubmitRequestBytes = 0 then
    throw (.invalidRequest "max_submit_request_bytes must be > 0")
  if config.maxCallbackPayloadBytes = 0 then
    throw (.invalidRequest "max_callback_payload_bytes must be > 0")
  let tenants ← tenantMap tenants ∅
  return { config, tenants, pendingJobs := ∅ }

/-- The envelope that `complete_job` builds. -/
def envelope (worker : ProxyWorker) (pending : PendingJob) (tenant : TenantConfig)
    (completedAtNs : ℕ) (result : Option InferenceProxyResultPayload) (error : Option String) :
    CallbackEnvelope where
  canisterId := pending.canisterId
  method := tenant.callbackMethodOrDefault
  callerPrincipal := worker.config.principalText
  args := {
    jobId := pending.jobId
    turnId := pending.turnId
    completedAtNs
    result
    error }

/-- `pending_job`. -/
def pendingJob (worker : ProxyWorker) (jobId : String) : Option PendingJob :=
  worker.pendingJobs[jobId]?

/-- `pending_count_for`. -/
def pendingCountFor (worker : ProxyWorker) (canisterId : String) : ℕ :=
  worker.pendingJobs.toList.countP fun entry => entry.2.canisterId = canisterId

section Calls

variable (fromSlice : List UInt8 → Except String SubmitJobRequest)
  (toVec : CallbackEnvelope → Except String (List UInt8))

/-- What `accept_submit` checks, and the job that it then stores. -/
def checkSubmit (worker : ProxyWorker) (headers : HttpHeaders) (rawBody : List UInt8)
    (nowNs : ℕ) : Except ProxyError PendingJob := do
  if worker.config.maxSubmitRequestBytes < rawBody.length then throw .requestTooLarge
  let bearer ← headers.bearerToken.elim (throw .missingAuth) pure
  let _ ← headers.openrouterApiKey.elim (throw .missingOpenRouterApiKey) pure
  let request ← (fromSlice rawBody).mapError .invalidRequest
  if Text.trim request.canisterId = "" ∨ Text.trim request.turnId = "" ∨
      Text.trim request.jobId = "" ∨ Text.trim request.model = "" then
    throw (.invalidRequest "canister_id, turn_id, job_id, and model are required")
  let tenant ← worker.tenants[request.canisterId]?.elim (throw .unknownTenant) pure
  if bearer ≠ tenant.submitBearerToken then throw .unauthorized
  return {
    canisterId := request.canisterId
    turnId := request.turnId
    jobId := request.jobId
    model := request.model
    submittedAtNs := nowNs }

/-- `accept_submit`. -/
def acceptSubmit (worker : ProxyWorker) (headers : HttpHeaders) (rawBody : List UInt8)
    (nowNs : ℕ) : Except ProxyError (SubmitJobAck × ProxyWorker) := do
  let job ← worker.checkSubmit fromSlice headers rawBody nowNs
  return (⟨job.jobId, nowNs, "accepted"⟩,
    { worker with pendingJobs := worker.pendingJobs.insert job.jobId job })

/-- A callback that was sent, and whether it succeeded. -/
structure SentCallback where
  envelope : CallbackEnvelope
  succeeded : Bool

/-- What a call of `complete_job` returns and leaves. -/
structure Completion where
  outcome : Except ProxyError Unit
  sent : List SentCallback
  worker : ProxyWorker

/-- `complete_job`: the job is removed before the steps that can fail. -/
def completeJob (worker : ProxyWorker) (jobId : String) (completedAtNs : ℕ)
    (result : Option InferenceProxyResultPayload) (error : Option String)
    (submitResult : CallbackEnvelope → Except String Unit) : Completion :=
  match worker.pendingJobs[jobId]? with
  | none => ⟨.error .unknownJob, [], worker⟩
  | some pending =>
    let removed := { worker with pendingJobs := worker.pendingJobs.erase jobId }
    match worker.tenants[pending.canisterId]? with
    | none => ⟨.error .unknownTenant, [], removed⟩
    | some tenant =>
      let envelope := worker.envelope pending tenant completedAtNs result error
      match toVec envelope with
      | .error message => ⟨.error (.invalidRequest message), [], removed⟩
      | .ok serialized =>
        if worker.config.maxCallbackPayloadBytes < serialized.length then
          ⟨.error .callbackPayloadTooLarge, [], removed⟩
        else
          ⟨(submitResult envelope).mapError .callbackFailed,
            [⟨envelope, (submitResult envelope).toBool⟩], removed⟩

end Calls

end ProxyWorker

end Automaton.OpenRouterProxy
