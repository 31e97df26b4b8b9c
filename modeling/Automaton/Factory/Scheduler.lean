import Automaton.Factory.State

/-!
# Scheduler jobs

The job that polls for payments and the jobs that execute spawns, as far as sessions
create and refresh them.
-/

namespace Automaton.Factory

/-- `session_needs_payment_poll`. -/
def sessionNeedsPaymentPoll (session : SpawnSession) : Bool :=
  session.state = .awaitingPayment &&
    !(session.paymentStatus = .paid || session.paymentStatus = .refunded)

/-- `PAYMENT_POLL_JOB_ID`. -/
def paymentPollJobId : String := "payment-poll:base"

/-- `spawn_job_id`. -/
def spawnJobId (sessionId : String) : String := "spawn-execution:" ++ sessionId

/-- A job that has never run, as both kinds start. -/
def newJob (jobId : String) (kind : SchedulerJobKind) (nowMs : ℕ) : SchedulerJob where
  jobId := jobId
  kind := kind
  status := .pending
  nextRunAtMs := some nowMs
  leasedAtMs := none
  leasedUntilMs := none
  lastStartedAtMs := none
  lastFinishedAtMs := none
  attemptCount := 0
  consecutiveFailureCount := 0
  successCount := 0
  lastError := none

/-- `payment_poll_job`. -/
def paymentPollJob (nowMs : ℕ) : SchedulerJob := newJob paymentPollJobId .paymentPoll nowMs

/-- `spawn_execution_job`. -/
def spawnExecutionJob (sessionId : String) (nowMs : ℕ) : SchedulerJob :=
  newJob (spawnJobId sessionId) (.spawnExecution sessionId) nowMs

/-- `job_has_live_lease`. -/
def jobHasLiveLease (job : SchedulerJob) (nowMs : ℕ) : Bool :=
  match job.leasedUntilMs with
  | some leasedUntilMs => leasedUntilMs > nowMs
  | none => false

/-- Stores a job. -/
@[simps]
def FactoryState.putJob (state : FactoryState) (jobId : String) (job : SchedulerJob) :
    FactoryState :=
  { state with schedulerJobs := state.schedulerJobs.insert jobId job }

/-- `sync_payment_poll_job_in_state`. -/
def FactoryState.syncPaymentPollJob (state : FactoryState) (nowMs : ℕ) : FactoryState :=
  if state.sessions.toList.any fun entry => sessionNeedsPaymentPoll entry.2 then
    let job := state.schedulerJobs[paymentPollJobId]?.getD (paymentPollJob nowMs)
    if jobHasLiveLease job nowMs then state.putJob paymentPollJobId job
    else state.putJob paymentPollJobId
      { job with
        nextRunAtMs := some (min (job.nextRunAtMs.getD nowMs) nowMs)
        status := .pending
        leasedAtMs := none
        leasedUntilMs := none }
  else
    match state.schedulerJobs[paymentPollJobId]? with
    | none => state
    | some job =>
      if jobHasLiveLease job nowMs then state
      else state.putJob paymentPollJobId
        { job with
          status := .completed
          nextRunAtMs := none
          leasedAtMs := none
          leasedUntilMs := none }

/-- `enqueue_spawn_execution_in_state`. -/
def FactoryState.enqueueSpawnExecution (state : FactoryState) (sessionId : String) (nowMs : ℕ) :
    FactoryState :=
  let job := state.schedulerJobs[spawnJobId sessionId]?.getD (spawnExecutionJob sessionId nowMs)
  if jobHasLiveLease job nowMs then state.putJob (spawnJobId sessionId) job
  else state.putJob (spawnJobId sessionId)
    { job with
      status := .pending
      nextRunAtMs := some nowMs
      leasedAtMs := none
      leasedUntilMs := none }

/-- Two states that differ in scheduler jobs only. -/
def SameButJobs (s s' : FactoryState) : Prop := ∃ jobs, s' = { s with schedulerJobs := jobs }

/-- Refreshing the poll job touches jobs only. -/
theorem sameButJobs_syncPaymentPollJob (state : FactoryState) (nowMs : ℕ) :
    SameButJobs state (state.syncPaymentPollJob nowMs) := by
  unfold FactoryState.syncPaymentPollJob
  split
  · dsimp only
    split <;> exact ⟨_, rfl⟩
  · split
    · exact ⟨_, rfl⟩
    · split <;> exact ⟨_, rfl⟩

/-- Scheduling a spawn touches jobs only. -/
theorem sameButJobs_enqueueSpawnExecution (state : FactoryState) (sessionId : String)
    (nowMs : ℕ) : SameButJobs state (state.enqueueSpawnExecution sessionId nowMs) := by
  unfold FactoryState.enqueueSpawnExecution
  dsimp only
  split <;> exact ⟨_, rfl⟩

end Automaton.Factory
