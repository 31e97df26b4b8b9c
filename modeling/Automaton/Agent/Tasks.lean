import Automaton.Agent.JobQueue

/-!
# Recurring tasks

Every kind of task has a configuration and a runtime. A tick enqueues a job for every task that
is due. Administrators change intervals and enable or disable tasks.
-/

namespace Automaton.Agent

open Machine

/-- `set_task_interval_secs`. -/
def Store.setTaskIntervalSecs (store : Store) (kind : TaskKind) (intervalSecs nowNs : ℕ) :
    Except String Store :=
  if intervalSecs = 0 then .error "interval_secs must be greater than 0"
  else
    let store := store.upsertTaskConfig { store.taskConfig kind with intervalSecs := intervalSecs }
    let runtime := store.taskRuntime kind nowNs
    .ok (store.saveTaskRuntime kind
      { runtime with nextDueNs := saturatingAdd u64Max nowNs (nanos intervalSecs) })

/-- `task_interval_for_multiplier` of the clamped multiplier. -/
def taskIntervalForMultiplier (multiplier : ℕ) : ℕ := baseTickSecs * max 2 (min multiplier 40)

/-- The intervals that `set_cadence_multiplier` sets. Errors are dropped. -/
def Store.setCadenceMultiplier (store : Store) (multiplier nowNs : ℕ) : Store :=
  TaskKind.all.foldl (fun store kind =>
    match store.setTaskIntervalSecs kind (taskIntervalForMultiplier multiplier) nowNs with
    | .ok store => store
    | .error _ => store) store

/-- `clear_pending_job_for_disabled_task`. -/
def Store.clearPendingJobForDisabledTask (store : Store) (kind : TaskKind) : Store :=
  match store.taskRuntimes kind with
  | none => store
  | some runtime =>
    match runtime.pendingJobId with
    | none => store
    | some jobId =>
      match store.jobs[jobId]? with
      | none => store.saveTaskRuntime kind { runtime with pendingJobId := none }
      | some job =>
        if job.status ≠ .pending then store
        else (store.deleteJob jobId).saveTaskRuntime kind { runtime with pendingJobId := none }

/-- `set_task_enabled`. -/
def Store.setTaskEnabled (store : Store) (kind : TaskKind) (enabled : Bool) : Store :=
  let store := store.upsertTaskConfig { store.taskConfig kind with enabled := enabled }
  if enabled then store else store.clearPendingJobForDisabledTask kind

/-- `topup_cycles_dedupe_key`. -/
def topupCyclesDedupeKey : String := TaskKind.topUpCycles.asStr ++ ":singleton"

/-- The dedupe key of a job that a tick enqueues. -/
def taskDedupeKey (kind : TaskKind) (slotStartNs : ℕ) : String :=
  if kind = .topUpCycles then topupCyclesDedupeKey
  else kind.asStr ++ ":" ++ toString slotStartNs

/-- The task gets a job: it is enabled, it may run in low-cycles mode, it has no pending job and
no backoff, and it is due. -/
def Store.taskIsDue (store : Store) (config : TaskScheduleConfig) (kind : TaskKind)
    (nowNs : ℕ) : Bool :=
  let runtime := store.taskRuntime kind nowNs
  config.enabled && (!store.scheduler.lowCyclesMode || config.essential) &&
    nanos config.intervalSecs ≠ 0 && runtime.pendingJobId.isNone &&
    !runtime.backoffUntilNs.any (nowNs < ·) && runtime.nextDueNs ≤ nowNs

/-- The next due time after a slot. -/
def nextDue (nextDueNs slotStartNs intervalNs : ℕ) : ℕ :=
  max (saturatingAdd u64Max nextDueNs intervalNs) (saturatingAdd u64Max slotStartNs intervalNs)

/-- One iteration of `refresh_due_jobs`, with the id of the job that it created. The runtime
that is written at the end was read at the beginning. -/
def Store.refreshTask (store : Store) (kind : TaskKind) (config : TaskScheduleConfig)
    (nowNs : ℕ) : Store × Option String :=
  if store.taskIsDue config kind nowNs then
    let runtime := store.taskRuntime kind nowNs
    let intervalNs := nanos config.intervalSecs
    let slotStartNs := nowNs - nowNs % intervalNs
    let enqueued := store.enqueueJobIfAbsent kind .mutating (taskDedupeKey kind slotStartNs)
      slotStartNs config.priority nowNs
    (enqueued.1.saveTaskRuntime kind
      { runtime with nextDueNs := nextDue runtime.nextDueNs slotStartNs intervalNs }, enqueued.2)
  else (store, none)

/-- `refresh_due_jobs`, with the kinds and ids of the jobs that it created. -/
def Store.refreshDueJobs (store : Store) (nowNs : ℕ) : Store × List (TaskKind × String) :=
  store.listTaskConfigs.foldl (fun refreshed schedule =>
    let task := refreshed.1.refreshTask schedule.1 schedule.2 nowNs
    (task.1, refreshed.2 ++ (task.2.map (schedule.1, ·)).toList)) (store, [])

/-- The rows after `init_scheduler_defaults` on an empty database. The inbox is polled at once. -/
def Store.initial (nowNs : ℕ) : Store where
  jobs := ∅
  taskConfigs kind := some (.defaultFor kind)
  taskRuntimes kind := some (.fresh kind
    (if kind = .pollInbox then nowNs
      else saturatingAdd u64Max nowNs (nanos kind.defaultIntervalSecs)))
  scheduler := ⟨true, none, false, .normal, 0, none⟩
  backoffUntilNs _ := none

end Automaton.Agent
