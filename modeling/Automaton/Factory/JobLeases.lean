import Automaton.Factory.Scheduler

/-!
# Leases of scheduler jobs

A tick leases the jobs that are due and starts a worker for each. A worker reports its
outcome under the id of its job, and the report clears the lease that the job has by then.
The bookkeeping of ticks for the admin view is left out.
-/

namespace Automaton.Factory

open Machine

/-- `PAYMENT_POLL_INTERVAL_MS`. -/
def paymentPollIntervalMs : ℕ := 30000

/-- `JOB_LEASE_DURATION_MS`. -/
def jobLeaseDurationMs : ℕ := 60000

/-- `INITIAL_BACKOFF_MS`. -/
def initialBackoffMs : ℕ := 5000

/-- `MAX_BACKOFF_MS`. -/
def maxBackoffMs : ℕ := 5 * 60000

/-- `MAX_JOBS_PER_TICK`. -/
def maxJobsPerTick : ℕ := 8

/-- `job_is_due`. -/
def jobIsDue (job : SchedulerJob) (nowMs : ℕ) : Bool :=
  job.nextRunAtMs.any (· ≤ nowMs) && !jobHasLiveLease job nowMs

/-- `backoff_delay_ms`. -/
def backoffDelayMs (consecutiveFailures : ℕ) : ℕ :=
  min (saturatingMul u64Max initialBackoffMs (2 ^ min (consecutiveFailures - 1) 16)) maxBackoffMs

/-- A job with the lease of a tick. -/
@[simps]
def SchedulerJob.lease (job : SchedulerJob) (nowMs : ℕ) : SchedulerJob :=
  { job with
    status := .running
    leasedAtMs := some nowMs
    leasedUntilMs := some (nowMs + jobLeaseDurationMs)
    lastStartedAtMs := some nowMs
    attemptCount := saturatingAdd u32Max job.attemptCount 1 }

/-- The ids of the jobs that a tick leases: those that have been due longest, up to a limit. -/
def dueJobIds (state : FactoryState) (nowMs limit : ℕ) : List String :=
  let due := (state.schedulerJobs.toList.map (·.2)).filter (jobIsDue · nowMs)
  let keyed := due.map fun job => (job.nextRunAtMs.getD u64Max, job.jobId)
  ((keyed.insertionSort fun a b => a.1 < b.1 ∨ a.1 = b.1 ∧ a.2 ≤ b.2).take limit).map (·.2)

/-- `scheduler_jobs.get_mut` on a job that may be absent. -/
@[simps]
def FactoryState.updateJob (state : FactoryState) (jobId : String)
    (f : SchedulerJob → SchedulerJob) : FactoryState :=
  { state with schedulerJobs := state.schedulerJobs.modify jobId f }

/-- The state after `lease_due_jobs`. -/
def FactoryState.leaseDueJobs (state : FactoryState) (nowMs limit : ℕ) : FactoryState :=
  (dueJobIds state nowMs limit).foldl (fun state jobId => state.updateJob jobId (·.lease nowMs))
    state

/-- Some session waits for its payment. -/
def FactoryState.pollRemainsActive (state : FactoryState) : Bool :=
  state.sessions.toList.any fun entry => sessionNeedsPaymentPoll entry.2

/-- A job whose worker has succeeded. -/
@[simps]
def SchedulerJob.succeed (job : SchedulerJob) (pollRemainsActive : Bool) (nowMs : ℕ) :
    SchedulerJob :=
  let again := job.kind = .paymentPoll && pollRemainsActive
  { job with
    lastFinishedAtMs := some nowMs
    leasedAtMs := none
    leasedUntilMs := none
    successCount := saturatingAdd u32Max job.successCount 1
    consecutiveFailureCount := 0
    lastError := none
    status := if again then .pending else .completed
    nextRunAtMs := if again then some (nowMs + paymentPollIntervalMs) else none }

/-- The next run of a job whose worker has failed. -/
def nextRunAfterFailure (kind : SchedulerJobKind) (pollRemainsActive : Bool)
    (consecutiveFailures nowMs : ℕ) : SchedulerFailureAction → Option ℕ
  | .retry => some nowMs
  | .backoff => some (nowMs + backoffDelayMs consecutiveFailures)
  | .skip =>
    if kind = .paymentPoll ∧ pollRemainsActive then some (nowMs + paymentPollIntervalMs) else none
  | .terminal => none

/-- The status of a job whose worker has failed. -/
def SchedulerFailureAction.status : SchedulerFailureAction → SchedulerJobStatus
  | .retry => .pending
  | .backoff => .backoff
  | .skip => .skipped
  | .terminal => .terminal

/-- A job whose worker has failed. -/
@[simps]
def SchedulerJob.fail (job : SchedulerJob) (pollRemainsActive : Bool)
    (failure : SchedulerJobFailure) (nowMs : ℕ) : SchedulerJob :=
  let failures := saturatingAdd u32Max job.consecutiveFailureCount 1
  { job with
    lastFinishedAtMs := some nowMs
    leasedAtMs := none
    leasedUntilMs := none
    consecutiveFailureCount := failures
    lastError := some failure
    status := failure.action.status
    nextRunAtMs := nextRunAfterFailure job.kind pollRemainsActive failures nowMs failure.action }

/-- `finalize_job_success`. -/
def FactoryState.finalizeJobSuccess (state : FactoryState) (jobId : String) (nowMs : ℕ) :
    FactoryState :=
  state.updateJob jobId (·.succeed state.pollRemainsActive nowMs)

/-- `finalize_job_failure`. -/
def FactoryState.finalizeJobFailure (state : FactoryState) (jobId : String)
    (failure : SchedulerJobFailure) (nowMs : ℕ) : FactoryState :=
  state.updateJob jobId (·.fail state.pollRemainsActive failure nowMs)

/-- `endpoint_has_scheme`. -/
def endpointHasScheme (endpoint : String) : Bool := Text.contains endpoint "://"

/-- `base_rpc_missing_or_invalid_failure`. -/
def baseRpcMissingOrInvalidFailure (primary fallback : Option String) (nowMs : ℕ) :
    Option SchedulerJobFailure :=
  let endpoints := configuredRpcEndpoints primary fallback
  if endpoints = [] then
    some ⟨.skip, .missingConfig, "base RPC endpoint is not configured", nowMs⟩
  else if endpoints.all fun endpoint => !endpointHasScheme endpoint then
    some ⟨.skip, .invalidConfig,
      "base RPC endpoints have no scheme: " ++ ", ".intercalate endpoints, nowMs⟩
  else none

/-- `payment_poll_prerequisite_failure`. -/
def paymentPollPrerequisiteFailure (state : FactoryState) (nowMs : ℕ) :
    Option SchedulerJobFailure :=
  match baseRpcMissingOrInvalidFailure state.baseRpcEndpoint state.baseRpcFallbackEndpoint
      nowMs with
  | some failure => some failure
  | none =>
    if Text.trim state.escrowContractAddress = "" then
      some ⟨.skip, .missingConfig, "escrow contract address is not configured", nowMs⟩
    else none

/-- `classify_payment_poll_error`. -/
def classifyPaymentPollError (errorText : FactoryError → String) (error : FactoryError)
    (nowMs : ℕ) : SchedulerJobFailure :=
  match error with
  | .rpcRequestFailed _ _ _ _ message => ⟨.backoff, .transient, message, nowMs⟩
  | .managementCallFailed _ message => ⟨.backoff, .transient, message, nowMs⟩
  | .invalidAmount value =>
    ⟨.skip, .deterministic, "invalid payment log amount: " ++ value, nowMs⟩
  | other => ⟨.skip, .deterministic, errorText other, nowMs⟩

/-- `classify_spawn_error`. -/
def classifySpawnError (errorText : FactoryError → String) (error : FactoryError) (nowMs : ℕ) :
    SchedulerJobFailure :=
  match error with
  | .missingChildRuntimeConfig field =>
    ⟨.skip, .missingConfig, "missing child runtime config: " ++ field, nowMs⟩
  | .managementCallFailed _ message =>
    if Text.contains message "not configured" then ⟨.skip, .missingConfig, message, nowMs⟩
    else ⟨.backoff, .transient, message, nowMs⟩
  | .rpcRequestFailed _ _ _ _ message => ⟨.backoff, .transient, message, nowMs⟩
  | .insufficientCyclesPool available required =>
    ⟨.backoff, .transient, "insufficient cycles pool: available=" ++ toString available ++
      ", required=" ++ toString required, nowMs⟩
  | .insufficientCyclesForOperation operation available required =>
    ⟨.backoff, .transient, "insufficient cycles for operation " ++ operation ++ ": available=" ++
      toString available ++ ", required=" ++ toString required, nowMs⟩
  | .sessionExpired sessionId expiresAt =>
    ⟨.terminal, .deterministic,
      "session expired: " ++ sessionId ++ " at " ++ toString expiresAt, nowMs⟩
  | .sessionNotReadyForSpawn _ _ => ⟨.skip, .deterministic, errorText error, nowMs⟩
  | .paymentNotSettled _ _ => ⟨.skip, .deterministic, errorText error, nowMs⟩
  | .sessionNotFound _ => ⟨.terminal, .deterministic, errorText error, nowMs⟩
  | other => ⟨.skip, .deterministic, errorText other, nowMs⟩

end Automaton.Factory
