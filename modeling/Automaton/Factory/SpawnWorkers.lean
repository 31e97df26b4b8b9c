import Automaton.Factory.PaymentPoller

/-!
# Workers of spawn jobs

A tick starts a worker for every spawn job that it leases. The worker runs up to its first
call, awaits, writes to the state between its calls, and at last reports under the id of its
job. Nothing but the clock ends a lease, so a job may be leased again while the worker of an
earlier lease still runs.
-/

namespace Automaton.Factory

open Machine Persist Transition

/-- What `execute_spawn` reads before its first call and the modelled state does not hold. -/
structure SpawnEnvironment where
  canisterBalance : ℕ
  costCreateCanister : ℕ
  minPoolBalance : ℕ

/-- `ensure_spawn_creation_cycles`. -/
def ensureSpawnCreationCycles (environment : SpawnEnvironment) (requiredCreateCycles : ℕ) :
    Except FactoryError Unit :=
  let required := saturatingAdd u128Max requiredCreateCycles environment.minPoolBalance
  if environment.canisterBalance < required then
    .error (.insufficientCyclesPool environment.canisterBalance required)
  else .ok ()

/-- What `execute_spawn` checks of a session that is ready: the artifact, the cycles and the
configuration of the child. An error comes with the reason of the failed session. -/
def spawnPrerequisites (externals : Externals) (environment : SpawnEnvironment)
    (state : FactoryState) : Except (String × FactoryError) Unit :=
  let createCycles := max state.cyclesPerSpawn (environment.costCreateCanister % 2 ^ 64)
  if !state.wasmLoaded then
    .error ("spawn artifact unavailable", .managementCallFailed "install_code" "artifact not loaded")
  else
    match ensureSpawnCreationCycles environment createCycles with
    | .error error => .error ("cycles pool below required minimum", error)
    | .ok _ =>
      match validateAutomatonChildRuntimeConfig externals state.childRuntime with
      | .error error => .error ("child runtime config missing or invalid", error)
      | .ok _ => .ok ()

/-- The errors of `resume_broadcasting_release` before its first call. -/
def resumeBroadcastingRelease (state : FactoryState) (session : SpawnSession) :
    Except FactoryError Unit := do
  let some record := session.releaseBroadcast
    | throw (.managementCallFailed "eth_getTransactionReceipt"
        "broadcasting release has no durable transaction record")
  if record.rpcTxHash.isNone then
    throw (.managementCallFailed "eth_getTransactionReceipt"
      "broadcasting release has no transaction hash")
  ensureSpawnReleaseDraftGuard state session.sessionId (spawnReleaseDraftGuard session)

/-- `execute_spawn` up to its first call: the state then, and what it returned unless it awaits
the call. -/
def beginSpawn (externals : Externals) (environment : SpawnEnvironment) (sessionId : String)
    (startedMs nowMs : ℕ) (state : FactoryState) :
    FactoryState × Option (Except FactoryError Unit) :=
  match state.sessions[sessionId]? with
  | none => (state, some (.error (.sessionNotFound sessionId)))
  | some session =>
    if session.paymentStatus ≠ .paid then
      (state, some (.error (.paymentNotSettled sessionId session.paymentStatus)))
    else
      match session.state with
      | .paymentDetected =>
        match spawnPrerequisites externals environment state with
        | .error (reason, error) =>
          (after (failSpawnInState externals sessionId nowMs reason none error) state,
            some (.error error))
        | .ok _ =>
          let start := applySessionEventInState sessionId .system startedMs .spawnStarted
            "spawn execution started"
          match outcome start state with
          | .ok _ => (after start state, none)
          | .error error => (after start state, some (.error error))
      | .broadcastingRelease =>
        match resumeBroadcastingRelease state session with
        | .ok _ => (state, none)
        | .error error => (state, some (.error error))
      | .complete => (state, some (.ok ()))
      | other => (state, some (.error (.sessionNotReadyForSpawn sessionId other)))

/-- Where a worker is: its job is leased, it awaits a call, or it has reported. -/
inductive WorkerStage
  | leased
  | running
  | done
  deriving DecidableEq, Repr

/-- A worker of a spawn job. -/
structure SpawnWorker where
  jobId : String
  sessionId : String
  stage : WorkerStage
  deriving DecidableEq, Repr

/-- A factory with the workers of its spawn jobs, in the order of their leases. -/
structure SpawnWorld where
  factory : FactoryState
  workers : List SpawnWorker

/-- The worker of a spawn job that is leased. -/
def SchedulerJob.worker? (job : SchedulerJob) : Option SpawnWorker :=
  match job.kind with
  | .spawnExecution sessionId => some ⟨job.jobId, sessionId, .leased⟩
  | .paymentPoll => none

/-- The workers that a tick starts. -/
def leasedWorkers (state : FactoryState) (nowMs limit : ℕ) : List SpawnWorker :=
  (dueJobIds state nowMs limit).filterMap fun jobId =>
    state.schedulerJobs[jobId]?.bind (·.worker?)

/-- How a worker ends after its last call: it returns, or it fails the session first. -/
inductive SpawnEnd
  | returned (result : Except FactoryError Unit)
  | failed (reason : String) (runtime : Option AutomatonRuntimeState) (error : FactoryError)

/-- What happens to a factory with its workers. Writes are those of messages and those that
workers make between their calls. A failure of a session is part of the end of a worker. -/
inductive SpawnAct
  | write (op : Op)
  | pollUnready (nowMs : ℕ)
  | pollDone (result : Except FactoryError Unit) (startedMs nowMs : ℕ)
  | lease (nowMs limit : ℕ)
  | start (worker : ℕ) (environment : SpawnEnvironment) (startedMs nowMs : ℕ)
  | finish (worker : ℕ) (spawnEnd : SpawnEnd) (startedMs nowMs : ℕ)

section Acts

variable (libraries : Libraries)

/-- The report of a worker. -/
def SpawnWorker.report (worker : SpawnWorker) (result : Except FactoryError Unit)
    (startedMs nowMs : ℕ) (state : FactoryState) : FactoryState :=
  state.reportJob worker.jobId (classifySpawnError libraries.errorText) result startedMs nowMs

/-- The last segment of a worker: the failure of its session, if it fails it, and its report. -/
def SpawnWorker.conclude (worker : SpawnWorker) (spawnEnd : SpawnEnd) (startedMs nowMs : ℕ)
    (state : FactoryState) : FactoryState :=
  match spawnEnd with
  | .returned result => worker.report libraries result startedMs nowMs state
  | .failed reason runtime error =>
    worker.report libraries (.error error) startedMs nowMs
      (after (failSpawnInState libraries.toExternals worker.sessionId nowMs reason runtime error)
        state)

/-- The first segment of a worker, with its report if it ends there. -/
def SpawnWorker.begin (worker : SpawnWorker) (environment : SpawnEnvironment)
    (startedMs nowMs : ℕ) (state : FactoryState) : FactoryState × WorkerStage :=
  match beginSpawn libraries.toExternals environment worker.sessionId startedMs nowMs state with
  | (state, none) => (state, .running)
  | (state, some result) => (worker.report libraries result startedMs nowMs state, .done)

/-- What an act does. An act of a worker that is not at that stage does nothing. -/
def SpawnAct.apply (act : SpawnAct) (world : SpawnWorld) : SpawnWorld :=
  match act with
  | .write op => { world with factory := op.apply libraries world.factory }
  | .pollUnready nowMs =>
    { world with factory := (SchedulerAct.pollUnready nowMs).apply libraries world.factory }
  | .pollDone result startedMs nowMs =>
    { world with
      factory := (SchedulerAct.pollDone result startedMs nowMs).apply libraries world.factory }
  | .lease nowMs limit =>
    { factory := world.factory.leaseDueJobs nowMs limit
      workers := world.workers ++ leasedWorkers world.factory nowMs limit }
  | .start index environment startedMs nowMs =>
    match world.workers[index]? with
    | none => world
    | some worker =>
      if worker.stage = .leased then
        let begun := worker.begin libraries environment startedMs nowMs world.factory
        { factory := begun.1, workers := world.workers.set index { worker with stage := begun.2 } }
      else world
  | .finish index spawnEnd startedMs nowMs =>
    match world.workers[index]? with
    | none => world
    | some worker =>
      if worker.stage = .running then
        { factory := worker.conclude libraries spawnEnd startedMs nowMs world.factory
          workers := world.workers.set index { worker with stage := .done } }
      else world

/-- The worker that acts. -/
def SpawnAct.worker? : SpawnAct → Option ℕ
  | .start index .. => some index
  | .finish index .. => some index
  | _ => none

/-- Sessions are created under new ids, and fail at the end of a worker only. -/
def SpawnAct.IsPossible (act : SpawnAct) (world : SpawnWorld) : Prop :=
  match act with
  | .write op => op.IsFresh world.factory ∧ op.kind ≠ .failure
  | _ => True

/-- One step of a factory with its workers. -/
def SpawnStep (w : SpawnWorld) (act : SpawnAct) (v : SpawnWorld) : Prop :=
  act.IsPossible w ∧ v = act.apply libraries w

end Acts

/-- A factory without sessions, jobs and workers. -/
def SpawnWorld.IsIdle (world : SpawnWorld) : Prop := world.factory.IsIdle ∧ world.workers = []

/-- The job of the worker was leased again. -/
def SpawnWorld.Superseded (world : SpawnWorld) (index : ℕ) : Prop :=
  ∃ later worker worker', world.workers[index]? = some worker ∧
    world.workers[later]? = some worker' ∧ index < later ∧ worker'.jobId = worker.jobId

/-- No job is leased whose last worker still works. -/
def SpawnAct.NoOverlap (act : SpawnAct) (world : SpawnWorld) : Prop :=
  match act with
  | .lease nowMs limit => ∀ worker ∈ world.workers, worker.stage ≠ .done →
      worker.jobId ∉ dueJobIds world.factory nowMs limit
  | _ => True

end Automaton.Factory
