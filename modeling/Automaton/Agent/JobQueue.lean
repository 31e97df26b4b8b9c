import Automaton.Agent.Types
import Automaton.Library.Sql

/-!
# The job queue of the automaton

Jobs, task configurations, task runtimes and the scheduler runtime are rows of a database.
Every operation of the queue reads rows, changes copies and writes them back. Storage calls
succeed here.
-/

namespace Automaton.Agent

open Machine

/-- The rows that the scheduler uses. -/
structure Store where
  jobs : BTreeMap String ScheduledJob
  taskConfigs : TaskKind → Option TaskScheduleConfig
  taskRuntimes : TaskKind → Option TaskScheduleRuntime
  scheduler : SchedulerRuntime
  backoffUntilNs : SurvivalOperationClass → Option ℕ

/-- `sqlite::upsert_job`. -/
@[simps]
def Store.upsertJob (store : Store) (job : ScheduledJob) : Store :=
  { store with jobs := store.jobs.insert job.id job }

/-- `sqlite::delete_job`. -/
@[simps]
def Store.deleteJob (store : Store) (jobId : String) : Store :=
  { store with jobs := store.jobs.erase jobId }

/-- `save_task_runtime`. -/
@[simps]
def Store.saveTaskRuntime (store : Store) (kind : TaskKind) (runtime : TaskScheduleRuntime) :
    Store :=
  { store with taskRuntimes := Function.update store.taskRuntimes kind (some runtime) }

/-- `upsert_task_config`. -/
@[simps]
def Store.upsertTaskConfig (store : Store) (config : TaskScheduleConfig) : Store :=
  { store with taskConfigs := Function.update store.taskConfigs config.kind (some config) }

/-- `save_scheduler_runtime`. -/
@[simps]
def Store.saveScheduler (store : Store) (runtime : SchedulerRuntime) : Store :=
  { store with scheduler := runtime }

/-- `get_task_config` with the default that its callers use. -/
def Store.taskConfig (store : Store) (kind : TaskKind) : TaskScheduleConfig :=
  (store.taskConfigs kind).getD (.defaultFor kind)

/-- `get_task_runtime`. -/
def Store.taskRuntime (store : Store) (kind : TaskKind) (nowNs : ℕ) : TaskScheduleRuntime :=
  (store.taskRuntimes kind).getD
    (.fresh kind (saturatingAdd u64Max nowNs (nanos kind.defaultIntervalSecs)))

/-- `list_task_configs`: by priority, then by name. -/
def Store.listTaskConfigs (store : Store) : List (TaskKind × TaskScheduleConfig) :=
  (TaskKind.all.filterMap fun kind => (store.taskConfigs kind).map (kind, ·)).insertionSort
    fun a b => a.2.priority < b.2.priority ∨ a.2.priority = b.2.priority ∧ a.1.asStr ≤ b.1.asStr

/-- A lane in JSON. -/
def TaskLane.asStr : TaskLane → String
  | .mutating => "Mutating"
  | .readOnly => "ReadOnly"

/-- A status in JSON and in the column of the table. -/
def JobStatus.asStr : JobStatus → String
  | .pending => "Pending"
  | .inFlight => "InFlight"
  | .succeeded => "Succeeded"
  | .failed => "Failed"
  | .timedOut => "TimedOut"
  | .skipped => "Skipped"

/-- The payload of the row of a job. -/
def ScheduledJob.payloadJson (job : ScheduledJob) : List Char :=
  Json.object [
    ("id", Json.text job.id),
    ("kind", Json.text job.kind.asStr),
    ("lane", Json.text job.lane.asStr),
    ("dedupe_key", Json.text job.dedupeKey),
    ("priority", Json.number job.priority),
    ("created_at_ns", Json.number job.createdAtNs),
    ("scheduled_for_ns", Json.number job.scheduledForNs),
    ("started_at_ns", Json.optional Json.number job.startedAtNs),
    ("finished_at_ns", Json.optional Json.number job.finishedAtNs),
    ("status", Json.text job.status.asStr),
    ("attempts", Json.number job.attempts),
    ("max_attempts", Json.number job.maxAttempts),
    ("last_error", Json.optional Json.text job.lastError)]

/-- The pattern that `find_job_by_dedupe_key` matches payloads against. The key is not escaped. -/
def dedupePattern (dedupeKey : String) : List Char :=
  "%\"dedupe_key\":\"".toList ++ dedupeKey.toList ++ "\"%".toList

/-- `sqlite::find_job_by_dedupe_key`: the first row of the query, if it has the key. The query
asks for the status `Running`, which no row has, beside `Pending`. It leaves the order of the rows
open; here it is that of the ids. -/
def Store.findJobByDedupeKey (store : Store) (dedupeKey : String) : Option ScheduledJob :=
  ((store.jobs.toList.map (·.2)).find? fun job =>
    (job.status.asStr = "Pending" || job.status.asStr = "Running") &&
      Sql.like (dedupePattern dedupeKey) job.payloadJson).filter (·.dedupeKey = dedupeKey)

/-- A number with leading zeros up to twenty digits. -/
def pad20 (value : ℕ) : List Char :=
  let digits := Nat.toDigits 10 value
  List.replicate (20 - digits.length) '0' ++ digits

/-- The id of a job. -/
def jobIdOf (jobSeq scheduledForNs : ℕ) : String :=
  String.ofList ("job:".toList ++ pad20 jobSeq ++ ':' :: pad20 scheduledForNs)

/-- The job that `enqueue_job_if_absent` stores. -/
@[simps]
def newJob (kind : TaskKind) (lane : TaskLane) (dedupeKey : String)
    (jobSeq scheduledForNs priority nowNs : ℕ) : ScheduledJob where
  id := jobIdOf jobSeq scheduledForNs
  kind := kind
  lane := lane
  dedupeKey := dedupeKey
  priority := priority
  createdAtNs := nowNs
  scheduledForNs := scheduledForNs
  startedAtNs := none
  finishedAtNs := none
  status := .pending
  attempts := 0
  maxAttempts := 3
  lastError := none

/-- A stored task runtime follows the job that was enqueued. -/
def Store.trackPendingJob (store : Store) (kind : TaskKind) (jobId : String) : Store :=
  match store.taskRuntimes kind with
  | some runtime => store.saveTaskRuntime kind { runtime with pendingJobId := some jobId }
  | none => store

/-- The sequence number of the next job. -/
def Store.nextSeq (store : Store) : ℕ := saturatingAdd u64Max store.scheduler.nextJobSeq 1

/-- The rows with a job that is stored as new. -/
def Store.storeNewJob (store : Store) (job : ScheduledJob) : Store :=
  ((store.saveScheduler { store.scheduler with nextJobSeq := store.nextSeq }).upsertJob
    job).trackPendingJob job.kind job.id

/-- `enqueue_job_if_absent`. -/
def Store.enqueueJobIfAbsent (store : Store) (kind : TaskKind) (lane : TaskLane)
    (dedupeKey : String) (scheduledForNs priority nowNs : ℕ) : Store × Option String :=
  if (store.findJobByDedupeKey dedupeKey).any (!·.status.isTerminal) then (store, none)
  else
    let job := newJob kind lane dedupeKey store.nextSeq scheduledForNs priority nowNs
    (store.storeNewJob job, some job.id)

/-- The order in which pending jobs are popped. The query leaves the order of equal priorities
and times open. -/
def ScheduledJob.before (a b : ScheduledJob) : Prop :=
  a.priority < b.priority ∨ a.priority = b.priority ∧ a.createdAtNs ≤ b.createdAtNs

instance : DecidableRel ScheduledJob.before := fun _ _ =>
  inferInstanceAs (Decidable (_ ∨ _ ∧ _))

/-- The pending jobs of a lane that are due, in the order in which they are popped. -/
def Store.duePendingJobs (store : Store) (lane : TaskLane) (nowNs : ℕ) : List ScheduledJob :=
  ((store.jobs.toList.map (·.2)).filter fun job =>
    job.status = .pending && job.lane = lane && job.scheduledForNs ≤ nowNs).insertionSort
      ScheduledJob.before

/-- A job that was popped. -/
@[simps]
def ScheduledJob.start (job : ScheduledJob) (nowNs : ℕ) : ScheduledJob :=
  { job with startedAtNs := some nowNs, status := .inFlight }

/-- `pop_next_pending_job`. -/
def Store.popNextPendingJob (store : Store) (lane : TaskLane) (nowNs : ℕ) :
    Option (ScheduledJob × Store) :=
  (store.duePendingJobs lane nowNs).head?.map fun job =>
    (job.start nowNs, store.upsertJob (job.start nowNs))

/-- `mutating_lease_active`. -/
def Store.mutatingLeaseActive (store : Store) (nowNs : ℕ) : Bool :=
  store.scheduler.activeMutatingLease.any fun lease => nowNs < lease.expiresAtNs

/-- `acquire_mutating_lease`. -/
def Store.acquireMutatingLease (store : Store) (jobId : String) (nowNs ttlNs : ℕ) :
    Except String Store :=
  if store.mutatingLeaseActive nowNs then .error "mutating lease already active"
  else if store.jobs[jobId]?.isNone then .error "job not found"
  else .ok (store.saveScheduler { store.scheduler with
    activeMutatingLease := some ⟨jobId, nowNs, saturatingAdd u64Max nowNs ttlNs⟩ })

/-- A failed job is retried while attempts are left. -/
def ScheduledJob.shouldRetry (job : ScheduledJob) (status : JobStatus)
    (retryAfterSecs : Option ℕ) : Bool :=
  (status = .failed || status = .timedOut) && retryAfterSecs.isSome &&
    saturatingAdd u32Max job.attempts 1 < job.maxAttempts

/-- The job as `complete_job` stores it. -/
def ScheduledJob.complete (job : ScheduledJob) (status : JobStatus) (error : Option String)
    (nowNs : ℕ) (retryAfterSecs : Option ℕ) : ScheduledJob :=
  let counted := { job with
    lastError := error, attempts := saturatingAdd u32Max job.attempts 1 }
  if job.shouldRetry status retryAfterSecs then
    { counted with
      status := .pending
      scheduledForNs := saturatingAdd u64Max nowNs (nanos (retryAfterSecs.getD 0))
      startedAtNs := none
      finishedAtNs := none }
  else { counted with status := status, finishedAtNs := some nowNs }

/-- The backoff of a task whose job has failed for good. -/
def failureBackoffNs (failures maxBackoffSecs nowNs : ℕ) (retryAfterSecs : Option ℕ) : Option ℕ :=
  let capped := retryAfterSecs.getD (min (2 ^ min failures 20) (max maxBackoffSecs 1))
  checkedAdd u64Max nowNs (nanos capped)

/-- The runtime of the task as `complete_job` stores it. -/
def TaskScheduleRuntime.complete (runtime : TaskScheduleRuntime) (config : TaskScheduleConfig)
    (job : ScheduledJob) (status : JobStatus) (error : Option String) (nowNs : ℕ)
    (retryAfterSecs : Option ℕ) : TaskScheduleRuntime :=
  let failures := saturatingAdd u32Max runtime.consecutiveFailures 1
  let retried := job.shouldRetry status retryAfterSecs
  let finished := { runtime with
    lastStartedNs := job.startedAtNs, lastFinishedNs := some nowNs, lastError := error }
  let counted :=
    if status = .succeeded then
      { finished with consecutiveFailures := 0, backoffUntilNs := none }
    else if retried then
      { finished with
        consecutiveFailures := failures
        backoffUntilNs := some (saturatingAdd u64Max nowNs (nanos (retryAfterSecs.getD 0)))
        pendingJobId := some job.id }
    else if status = .failed ∨ status = .timedOut then
      { finished with
        consecutiveFailures := failures
        backoffUntilNs := failureBackoffNs failures config.maxBackoffSecs nowNs retryAfterSecs }
    else finished
  if !retried && counted.pendingJobId = some job.id then { counted with pendingJobId := none }
  else counted

/-- The lease of a job ends with the job. -/
def SchedulerRuntime.release (runtime : SchedulerRuntime) (jobId : String) : SchedulerRuntime :=
  if runtime.activeMutatingLease.any (·.jobId = jobId) then
    { runtime with activeMutatingLease := none }
  else runtime

/-- `complete_job`. -/
def Store.completeJob (store : Store) (jobId : String) (status : JobStatus)
    (error : Option String) (nowNs : ℕ) (retryAfterSecs : Option ℕ) : Store :=
  match store.jobs[jobId]? with
  | none => store
  | some job =>
    let runtime := (store.taskRuntime job.kind nowNs).complete (store.taskConfig job.kind) job
      status error nowNs retryAfterSecs
    ((store.upsertJob (job.complete status error nowNs retryAfterSecs)).saveTaskRuntime job.kind
      runtime).saveScheduler (store.scheduler.release jobId)

/-- `recover_stale_lease`. -/
def Store.recoverStaleLease (store : Store) (nowNs : ℕ) : Store :=
  match store.scheduler.activeMutatingLease with
  | none => store
  | some lease =>
    if lease.expiresAtNs ≤ nowNs then
      store.completeJob lease.jobId .timedOut (some "mutating lease expired") nowNs none
    else store

end Automaton.Agent
