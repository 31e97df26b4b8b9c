import Mathlib.Data.List.MinMax
import Mathlib.Data.Prod.Lex
import Automaton.Library.BTreeMap
import Automaton.Library.Machine
import Automaton.Library.Text

/-!
# Inference by a proxy worker

The jobs that were submitted to the worker and are pending, the results that its callbacks have
delivered and that wait to be consumed, and the last jobs that were completed.
-/

namespace Automaton.Agent

open Machine

/-- `ToolCall`. -/
structure ToolCall where
  toolCallId : Option String
  tool : String
  argsJson : String

/-- `InferenceProxyResultPayload`. -/
structure InferenceProxyResultPayload where
  explanation : Option String
  toolCalls : List ToolCall

/-- `PendingInferenceProxyJob`. -/
structure PendingInferenceProxyJob where
  jobId : String
  turnId : String
  submittedAtNs : ℕ
  model : String

/-- `SubmitInferenceResultArgs`. -/
structure SubmitInferenceResultArgs where
  jobId : String
  turnId : String
  completedAtNs : ℕ
  result : Option InferenceProxyResultPayload
  error : Option String

/-- `InferenceProxyCallbackRecord`. -/
structure InferenceProxyCallbackRecord where
  jobId : String
  turnId : String
  completedAtNs : ℕ
  acceptedAtNs : ℕ
  callerPrincipal : String
  result : Option InferenceProxyResultPayload
  error : Option String

/-- `InferenceProxyCallbackApply`. -/
inductive InferenceProxyCallbackApply
  | accepted
  | duplicate
  deriving DecidableEq

/-- `InferenceProxyRuntimeMetrics`, as far as callbacks and expiry count. -/
structure InferenceProxyMetrics where
  callbackAccepted : ℕ
  callbackDuplicates : ℕ
  expiredJobs : ℕ

/-- `MAX_COMPLETED_INFERENCE_PROXY_CALLBACK_JOBS`. -/
def maxCompletedJobs : ℕ := 2048

/-- The runtime scalars of the proxy. -/
structure InferenceProxyStore where
  pendingJobs : BTreeMap String PendingInferenceProxyJob
  callbackResults : BTreeMap String InferenceProxyCallbackRecord
  completedJobs : BTreeMap String ℕ
  metrics : InferenceProxyMetrics

namespace InferenceProxyStore

/-- Nothing was submitted yet. -/
def empty : InferenceProxyStore where
  pendingJobs := ∅
  callbackResults := ∅
  completedJobs := ∅
  metrics := ⟨0, 0, 0⟩

/-- A metric is raised by an amount. -/
def count (metric amount : ℕ) : ℕ := saturatingAdd u64Max metric amount

/-- `upsert_pending_inference_proxy_job`. -/
def upsertPendingJob (store : InferenceProxyStore) (job : PendingInferenceProxyJob) :
    Except String InferenceProxyStore :=
  if Text.trim job.jobId = "" then .error "pending inference proxy job_id cannot be empty"
  else if Text.trim job.turnId = "" then
    .error "pending inference proxy turn_id cannot be empty"
  else .ok { store with pendingJobs := store.pendingJobs.insert job.jobId job }

/-- The entry that `pop_next_inference_proxy_callback_result` takes. -/
def nextResult (store : InferenceProxyStore) : Option (String × InferenceProxyCallbackRecord) :=
  store.callbackResults.toList.argmin fun entry =>
    toLex (entry.2.acceptedAtNs, entry.2.completedAtNs)

/-- `pop_next_inference_proxy_callback_result`. -/
def popNextResult (store : InferenceProxyStore) :
    Option (InferenceProxyCallbackRecord × InferenceProxyStore) :=
  store.nextResult.map fun (jobId, record) =>
    (record, { store with callbackResults := store.callbackResults.erase jobId })

/-- `take_inference_proxy_callback_result`. -/
def takeResult (store : InferenceProxyStore) (jobId : String) :
    Option (InferenceProxyCallbackRecord × InferenceProxyStore) :=
  if Text.trim jobId = "" then none
  else store.callbackResults[jobId]?.map fun record =>
    (record, { store with callbackResults := store.callbackResults.erase jobId })

/-- The pending jobs that have expired, in the order of their submission. -/
def expiredJobs (store : InferenceProxyStore) (nowNs ttlSecs : ℕ) : List PendingInferenceProxyJob :=
  let ttlNs := saturatingMul u64Max ttlSecs 1000000000
  let cutoffNs := nowNs - ttlNs
  ((store.pendingJobs.toList.map (·.2)).filter (·.submittedAtNs ≤ cutoffNs)).insertionSort
    fun first second => first.submittedAtNs ≤ second.submittedAtNs

/-- `expire_inference_proxy_pending_jobs`. -/
def expirePendingJobs (store : InferenceProxyStore) (nowNs ttlSecs : ℕ) :
    List PendingInferenceProxyJob × InferenceProxyStore :=
  if ttlSecs = 0 then ([], store)
  else
    let expired := store.expiredJobs nowNs ttlSecs
    if expired = [] then ([], store)
    else (expired, { store with
      pendingJobs := expired.foldl (fun jobs job => jobs.erase job.jobId) store.pendingJobs
      metrics := { store.metrics with
        expiredJobs := count store.metrics.expiredJobs expired.length } })

/-- The oldest completed jobs are forgotten while there are too many. -/
def evictCompleted (completedJobs : BTreeMap String ℕ) : BTreeMap String ℕ :=
  if _hfull : maxCompletedJobs < completedJobs.size then
    match _holdest : completedJobs.toList.argmin (·.2) with
    | none => completedJobs
    | some oldest => evictCompleted (completedJobs.erase oldest.1)
  else completedJobs
termination_by completedJobs.size
decreasing_by
  have hmem := List.argmin_mem _holdest
  have hstored := Std.ExtTreeMap.mem_toList_iff_getElem?_eq_some.mp hmem
  have hkey : completedJobs.contains oldest.1 = true := by
    rw [Std.ExtTreeMap.contains_eq_isSome_getElem?, hstored]
    rfl
  have hpos := Nat.zero_lt_of_lt _hfull
  rw [Std.ExtTreeMap.size_erase, if_pos hkey]
  omega

/-- `remember_completed_inference_proxy_callback_job`. -/
def rememberCompletedJob (completedJobs : BTreeMap String ℕ) (jobId : String)
    (acceptedAtNs : ℕ) : BTreeMap String ℕ :=
  evictCompleted (completedJobs.insert jobId acceptedAtNs)

/-- A callback that is a duplicate is counted. -/
def countDuplicate (store : InferenceProxyStore) : InferenceProxyStore :=
  { store with
    metrics := { store.metrics with
      callbackDuplicates := count store.metrics.callbackDuplicates 1 } }

/-- The record of an accepted callback. -/
def recordOf (args : SubmitInferenceResultArgs) (callerPrincipal : String) (acceptedAtNs : ℕ) :
    InferenceProxyCallbackRecord where
  jobId := args.jobId
  turnId := args.turnId
  completedAtNs := args.completedAtNs
  acceptedAtNs := acceptedAtNs
  callerPrincipal := callerPrincipal
  result := args.result
  error := args.error

/-- `apply_inference_proxy_callback`. -/
def applyCallback (store : InferenceProxyStore) (args : SubmitInferenceResultArgs)
    (callerPrincipal : String) (acceptedAtNs : ℕ) :
    Except String InferenceProxyCallbackApply × InferenceProxyStore :=
  if Text.trim args.jobId = "" then
    (.error "inference proxy callback job_id cannot be empty", store)
  else if Text.trim args.turnId = "" then
    (.error "inference proxy callback turn_id cannot be empty", store)
  else if args.result.isNone ∧ Text.trim (args.error.getD "") = "" then
    (.error "inference proxy callback must include result or error", store)
  else if store.callbackResults.contains args.jobId ∨ store.completedJobs.contains args.jobId then
    (.ok .duplicate, store.countDuplicate)
  else
    match store.pendingJobs[args.jobId]? with
    | none => (.ok .duplicate, store.countDuplicate)
    | some pending =>
      if pending.turnId ≠ args.turnId then
        (.error ("inference proxy callback turn_id mismatch job_id=" ++ args.jobId ++
          " expected_turn_id=" ++ pending.turnId ++ " received_turn_id=" ++ args.turnId), store)
      else
        (.ok .accepted,
          { pendingJobs := store.pendingJobs.erase args.jobId
            callbackResults := store.callbackResults.insert args.jobId
              (recordOf args callerPrincipal acceptedAtNs)
            completedJobs := rememberCompletedJob store.completedJobs pending.jobId acceptedAtNs
            metrics := { store.metrics with
              callbackAccepted := count store.metrics.callbackAccepted 1 } })

end InferenceProxyStore

end Automaton.Agent
