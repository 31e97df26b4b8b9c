import Automaton.Library.BTreeMap
import Automaton.Library.EventLoop

/-!
# The run controller

The evaluator runs experiments. The controller refers to one run at a time, and its methods look
this run up again whenever they write a manifest or emit an event. Everything that is awaited may
fail, and while one method awaits an answer others may run.
-/

namespace Automaton.Evaluator

/-- The ids of `randomUUID`, which never repeat, in the order in which they are made. -/
abbrev RunId := ℕ

/-- An error that was thrown: its message, and its details in JSON. -/
structure Failure where
  message : String
  details : Option String
  deriving DecidableEq, Repr

/-- An `Error` without details. -/
def Failure.of (message : String) : Failure := ⟨message, none⟩

/-- `EvaluationRunState`. No code sets `stopping`. -/
inductive EvaluationRunState
  | booting
  | validating
  | spawning
  | running
  | stopping
  | completed
  | aborted
  | failed
  deriving DecidableEq, Repr

/-- `isFinalRunState`. -/
def EvaluationRunState.isFinal : EvaluationRunState → Bool
  | .completed => true
  | .aborted => true
  | .failed => true
  | _ => false

/-- `EvaluationCompletionReason`. -/
inductive EvaluationCompletionReason
  | completed
  | timedOut
  | stoppedManually
  | aborted
  | failed
  deriving DecidableEq, Repr

/-- The state of a run that is finalized for a reason. -/
def EvaluationCompletionReason.runState : EvaluationCompletionReason → EvaluationRunState
  | .aborted => .aborted
  | .failed => .failed
  | _ => .completed

/-- `EvaluationAutomatonStatus`. -/
inductive EvaluationAutomatonStatus
  | pendingSpawn
  | spawning
  | active
  | stalled
  | spawnFailed
  | completed
  deriving DecidableEq, Repr

/-- `EvaluationInferenceTransport`. -/
inductive EvaluationInferenceTransport
  | openrouterDirect
  | openrouterProxyWorker
  deriving DecidableEq, Repr

/-- `EvaluationAutomatonConfig`: what the controller itself reads. -/
structure EvaluationAutomatonConfig where
  id : String
  transport : EvaluationInferenceTransport
  strategies : List String
  deriving DecidableEq, Repr

/-- `RuntimeBaseline`. -/
structure RuntimeBaseline where
  observedAt : ℕ
  cycles : Option String
  netWorthUsd : Option String
  ethBalanceWei : Option String
  usdcBalanceRaw : Option String
  txCount : Option ℕ
  deriving DecidableEq, Repr

/-- `RuntimeAutomatonState`, without the series and counters that only the summary reads. -/
structure RuntimeAutomatonState where
  config : EvaluationAutomatonConfig
  sessionId : Option String
  canisterId : Option String
  evmAddress : Option String
  spawnStatus : EvaluationAutomatonStatus
  runtimeStatus : EvaluationAutomatonStatus
  spawnSucceeded : Bool
  baseline : Option RuntimeBaseline
  lastError : Option String
  lastErrorDetails : Option String
  childCommit : Option String
  deriving DecidableEq, Repr

/-- `createAutomatonState`. -/
def createAutomatonState (config : EvaluationAutomatonConfig) : RuntimeAutomatonState where
  config := config
  sessionId := none
  canisterId := none
  evmAddress := none
  spawnStatus := .pendingSpawn
  runtimeStatus := .pendingSpawn
  spawnSucceeded := false
  baseline := none
  lastError := none
  lastErrorDetails := none
  childCommit := none

/-- `ExperimentFile` as parsed. `requiredSuccesses` is the product of the number of automatons and
the ratio of successes, rounded up, and `minSuccessRatio` is the ratio as text. -/
structure ExperimentFile where
  path : String
  hash : String
  name : String
  automatons : List EvaluationAutomatonConfig
  samplingIntervalSeconds : ℕ
  maxRuntimeMinutes : ℕ
  minSuccessRatio : String
  requiredSuccesses : ℕ
  generationScenario : Bool
  deriving DecidableEq, Repr, Inhabited

/-- `isDieWellExperiment`. -/
def isDieWellExperiment (name : String) : Bool :=
  name = "die-well" || name.endsWith "/die-well.yaml"

/-- `EvaluationArtifacts`: the paths of a run, each with the directory of the run in front. -/
structure EvaluationArtifacts where
  manifestPath : List String
  eventsPath : List String
  samplesDirectory : List String
  summaryPath : List String
  reportPath : List String
  generationPath : List String
  deriving DecidableEq, Repr, Inhabited

/-- The paths of `createRunArtifacts`. -/
def createRunArtifacts (rootDirectory : String) (runId : RunId) : EvaluationArtifacts where
  manifestPath := [rootDirectory, toString runId, "manifest.json"]
  eventsPath := [rootDirectory, toString runId, "events.ndjson"]
  samplesDirectory := [rootDirectory, toString runId, "samples"]
  summaryPath := [rootDirectory, toString runId, "summary.json"]
  reportPath := [rootDirectory, toString runId, "report.md"]
  generationPath := [rootDirectory, toString runId, "generation-scenario.json"]

/-- `EvaluationRunMetadata`. -/
structure EvaluationRunMetadata where
  runId : RunId
  experimentPath : String
  experimentHash : String
  runState : EvaluationRunState
  abortReason : Option String
  startedAt : ℕ
  endedAt : Option ℕ
  launchpadCommit : String
  childCommit : Option String
  requestedAutomatonCount : ℕ
  successfulSpawnCount : ℕ
  samplingIntervalSeconds : ℕ
  maxRuntimeMinutes : ℕ
  deriving DecidableEq, Repr

instance : Inhabited EvaluationRunMetadata :=
  ⟨⟨0, "", "", .booting, none, 0, none, "", none, 0, 0, 0, 0⟩⟩

/-- `EvaluationReportMetadata`, without the ranking. -/
structure EvaluationReportMetadata where
  generatedAt : ℕ
  completionReason : EvaluationCompletionReason
  comparisonValid : Bool
  comparisonInvalidReason : Option String
  deriving DecidableEq, Repr

/-- `ActiveEvaluationRun`. -/
structure ActiveEvaluationRun where
  experiment : ExperimentFile
  artifacts : EvaluationArtifacts
  completionReason : Option EvaluationCompletionReason
  comparisonValid : Bool
  stopRequested : Bool
  report : Option EvaluationReportMetadata
  metadata : EvaluationRunMetadata
  automatons : List RuntimeAutomatonState
  deriving DecidableEq, Repr, Inhabited

/-- `EvaluationTimelineEvent`: the payload tells the type. -/
inductive EventPayload
  | runUpdated (runState : EvaluationRunState)
  | automatonUpdated (automatonId : String) (spawnStatus runtimeStatus : EvaluationAutomatonStatus)
      (lastError lastErrorDetails : Option String)
  | sampleRecorded (automatonId : String) (baseline : Bool)
  | runFinalized (completionReason : EvaluationCompletionReason)
  deriving DecidableEq, Repr

structure EvaluationTimelineEvent where
  runId : RunId
  timestamp : ℕ
  payload : EventPayload
  deriving DecidableEq, Repr

/-- What is written to the artifacts. Summary and report are known by the metadata of their run. -/
inductive Document
  | manifest (run : EvaluationRunMetadata) (completionReason : Option EvaluationCompletionReason)
      (comparisonValid : Bool)
  | event (event : EvaluationTimelineEvent)
  | sample (automatonId : String) (observedAt : ℕ)
  | summary (run : EvaluationRunMetadata)
  | report (run : EvaluationRunMetadata) (report : EvaluationReportMetadata)
  | generationScenario
  deriving DecidableEq, Repr

/-- A write to a file. -/
structure FileWrite where
  path : List String
  document : Document
  deriving DecidableEq, Repr

/-- What the controller and its methods share, with the files written and the events broadcast so
far. Runs are objects that methods refer to. -/
structure Controller where
  activeRun : Option RunId
  runs : BTreeMap RunId ActiveEvaluationRun
  nextUuid : RunId
  writes : List FileWrite
  broadcasts : List EvaluationTimelineEvent

/-- A controller that has not run anything. -/
def Controller.new : Controller := ⟨none, ∅, 0, [], []⟩

/-- What `captureAutomatonSample` stores in the automaton before it returns. -/
structure Observation where
  lastError : Option String
  stalled : Bool
  deriving DecidableEq, Repr

/-- A sample: the metrics that make a baseline, and the commit of the canister. -/
structure Sample where
  cycles : Option String
  netWorthUsd : Option String
  ethBalanceWei : Option String
  usdcBalanceRaw : Option String
  txCount : Option ℕ
  commit : Option String
  deriving DecidableEq, Repr

/-- An automaton may have been observed when sampling fails. -/
structure SampleReply where
  observed : Option Observation
  sample : Except Failure Sample

/-- The record of a session that is complete. -/
structure RegistryRecord where
  canisterId : Option String
  evmAddress : Option String
  versionCommit : Option String
  deriving DecidableEq, Repr

/-- What is answered at once. The builders of summaries, reports and dashboards may throw on
evidence that does not parse. -/
inductive Query
  | now
  | createEphemeralWallet
  | broadcast (event : EvaluationTimelineEvent)
  | buildSummary
  | buildReport
  | getDashboard

def Query.Reply : Query → Type
  | .now => ℕ
  | .createEphemeralWallet => Except Failure String
  | _ => Except Failure Unit

/-- What is awaited. The last three calls handle their errors themselves. -/
inductive Call
  | loadExperimentFile (experimentPath : String)
  | makeDirectory (directory : List String)
  | readGitCommit
  | writeFile (write : FileWrite)
  | bootstrapPlayground
  | resolveRuntime
  | fetchRepositoryStrategies
  | loadPlaygroundHelpers
  | claimPlaygroundFaucet (address : String)
  | createSpawnSession (automatonId : String)
  | fetchSpawnSession (sessionId : String)
  | submitSpawnPayment (sessionId : String)
  | waitForSessionCompletion (sessionId : String)
  | captureAutomatonSample (automatonId : String) (now : ℕ)
  | readTerminalEvidence (canisterId sessionId : String)
  | executeGenerationScenario
  | pause (ms : ℕ)
  | fetchAutomatonLineage (canisterIds : List String)
  | fetchChronicle
  | stopPlayground

def Call.Answer : Call → Type
  | .loadExperimentFile _ => Except Failure ExperimentFile
  | .readGitCommit => Except Failure String
  | .fetchRepositoryStrategies => Except Failure (List String)
  | .createSpawnSession _ => Except Failure String
  | .waitForSessionCompletion _ => Except Failure RegistryRecord
  | .captureAutomatonSample _ _ => SampleReply
  | .readTerminalEvidence _ _ => Except Failure (List String)
  | .fetchAutomatonLineage _ => Unit
  | .fetchChronicle => Unit
  | .stopPlayground => Unit
  | _ => Except Failure Unit

/-- The head of the sampling loop: the run, how long it pauses there, and what a die-well experiment
still lacks. -/
structure SamplingHead where
  run : RunId
  samplingDelay : ℕ
  unmet : List String

/-- The event loop of the evaluator. -/
abbrev evaluatorLoop : EventLoop where
  State := Controller
  Query := Query
  Reply := Query.Reply
  Call := Call
  Answer := Call.Answer
  Head := SamplingHead
  call head := .pause head.samplingDelay

/-- An asynchronous method of the controller. -/
abbrev Method (α : Type) := Promise evaluatorLoop Failure α

/-- Awaits the answer to a call. -/
def request (call : Call) : Method call.Answer := Promise.await (L := evaluatorLoop) call

/-- Asks what is answered at once. -/
def ask (query : Query) : Method query.Reply := Promise.ask (L := evaluatorLoop) query

/-- An answer, where an error is thrown. -/
def orThrow {α : Type} (answer : Except Failure α) : Method α := Promise.ofExcept answer

/-- The clock. -/
def now : Method ℕ := ask .now

/-- A run that a method refers to. -/
def getRun (run : RunId) : Method ActiveEvaluationRun := do
  let controller ← Promise.read
  return controller.runs[run]?.getD default

/-- Writes a run. -/
def modifyRun (run : RunId) (f : ActiveEvaluationRun → ActiveEvaluationRun) : Method Unit :=
  Promise.write fun controller => { controller with runs := controller.runs.modify run f }

/-- An automaton of a run with a changed state. -/
def ActiveEvaluationRun.modifyAutomaton (run : ActiveEvaluationRun) (id : String)
    (f : RuntimeAutomatonState → RuntimeAutomatonState) : ActiveEvaluationRun :=
  { run with
    automatons := run.automatons.map fun automaton =>
      if automaton.config.id = id then f automaton else automaton }

/-- Writes an automaton of a run. -/
def modifyAutomaton (run : RunId) (id : String)
    (f : RuntimeAutomatonState → RuntimeAutomatonState) : Method Unit :=
  modifyRun run (·.modifyAutomaton id f)

/-- An automaton of a run. -/
def getAutomaton (run : RunId) (id : String) : Method (Option RuntimeAutomatonState) := do
  let state ← getRun run
  return state.automatons.find? (·.config.id = id)

/-- `requireRun`. -/
def requireRun : Method RunId := do
  let controller ← Promise.read
  match controller.activeRun with
  | some run => return run
  | none => throw (Failure.of "No active evaluation run.")

/-- A write to the artifacts. -/
def writeFile (path : List String) (document : Document) : Method Unit := do
  Promise.write fun controller =>
    { controller with writes := controller.writes ++ [⟨path, document⟩] }
  orThrow (← request (.writeFile ⟨path, document⟩))

/-- `EvaluationEventHub::broadcast`. -/
def broadcast (event : EvaluationTimelineEvent) : Method Unit := do
  Promise.write fun controller =>
    { controller with broadcasts := controller.broadcasts ++ [event] }
  orThrow (← ask (.broadcast event))

/-- `persistManifest`. -/
def persistManifest : Method Unit := do
  let run ← getRun (← requireRun)
  writeFile run.artifacts.manifestPath
    (.manifest run.metadata run.completionReason run.comparisonValid)

/-- `emitEvent`. -/
def emitEvent (event : EvaluationTimelineEvent) : Method Unit := do
  let run ← getRun (← requireRun)
  writeFile run.artifacts.eventsPath (.event event)
  broadcast event

/-- `emitAutomatonUpdated`. The automaton is one of `run`, the event is one of the active run. -/
def emitAutomatonUpdated (run : RunId) (id : String) : Method Unit := do
  let active ← getRun (← requireRun)
  let timestamp ← now
  match ← getAutomaton run id with
  | none => return ()
  | some automaton =>
    emitEvent ⟨active.metadata.runId, timestamp, .automatonUpdated id automaton.spawnStatus
      automaton.runtimeStatus automaton.lastError automaton.lastErrorDetails⟩

/-- The event that tells the state of a run. -/
def emitRunUpdated (run : RunId) : Method Unit := do
  let active ← getRun run
  emitEvent ⟨active.metadata.runId, ← now, .runUpdated active.metadata.runState⟩

/-- A run in another state. -/
def ActiveEvaluationRun.withRunState (run : ActiveEvaluationRun) (runState : EvaluationRunState) :
    ActiveEvaluationRun :=
  { run with metadata := { run.metadata with runState := runState } }

/-- A run with the reason why it was aborted. -/
def ActiveEvaluationRun.withAbortReason (run : ActiveEvaluationRun) (reason : String) :
    ActiveEvaluationRun :=
  { run with metadata := { run.metadata with abortReason := some reason } }

/-- A run that has not come to an end. -/
def ActiveEvaluationRun.isOpen (run : ActiveEvaluationRun) : Bool := !run.metadata.runState.isFinal

/-- The run that is referred to. -/
def Controller.current (controller : Controller) : Option ActiveEvaluationRun :=
  controller.activeRun.bind fun run => controller.runs[run]?

/-- `requestStop`. -/
def Controller.requestStop (controller : Controller) : Controller :=
  match controller.activeRun with
  | none => controller
  | some run =>
    if (controller.runs[run]?.getD default).isOpen then
      { controller with
        runs := controller.runs.modify run fun state => { state with stopRequested := true } }
    else controller

/-- `validateInferenceRuntimeConfig`. -/
def validateInferenceRuntimeConfig (baseUrl callbackPrincipal : Option String) : Method Unit := do
  let run ← getRun (← requireRun)
  let missingFields := (if baseUrl.isNone then ["EVAL_INFERENCE_PROXY_WORKER_BASE_URL"] else []) ++
    (if callbackPrincipal.isNone then ["EVAL_INFERENCE_PROXY_TRUSTED_CALLBACK_PRINCIPAL"] else [])
  if run.automatons.any (·.config.transport = .openrouterProxyWorker) ∧ missingFields ≠ [] then
    throw (Failure.of ("Proxy-backed evaluation requires " ++ " and ".intercalate missingFields ++
      " when any automaton uses transport=openrouter_proxy_worker."))

/-- What the controller is configured with. -/
structure RunControllerConfig where
  artifactsRoot : String
  inferenceProxyWorkerBaseUrl : Option String
  inferenceProxyTrustedCallbackPrincipal : Option String

/-- `transitionToValidationAndLoadStrategies`. -/
def transitionToValidationAndLoadStrategies (config : RunControllerConfig) :
    Method (List String) := do
  let run ← requireRun
  modifyRun run (·.withRunState .validating)
  persistManifest
  validateInferenceRuntimeConfig config.inferenceProxyWorkerBaseUrl
    config.inferenceProxyTrustedCallbackPrincipal
  let available ← orThrow (← request .fetchRepositoryStrategies)
  let state ← getRun run
  match (state.automatons.flatMap (·.config.strategies)).find? (· ∉ available) with
  | some strategyId => throw (Failure.of
      ("Strategy \"" ++ strategyId ++ "\" is not available in the live repository."))
  | none =>
    modifyRun run (·.withRunState .spawning)
    persistManifest
    emitRunUpdated run
    return available

/-- An automaton after it was observed. -/
def RuntimeAutomatonState.observe (automaton : RuntimeAutomatonState)
    (observed : Option Observation) : RuntimeAutomatonState :=
  match observed with
  | none => automaton
  | some observation =>
    { automaton with
      lastError := observation.lastError
      lastErrorDetails := none
      runtimeStatus := if observation.stalled then .stalled else .active }

/-- `captureAutomatonSample`, with the time that the sample gets. -/
def captureAutomatonSample (run : RunId) (id : String) : Method (ℕ × Sample) := do
  let observedAt ← now
  let reply ← request (.captureAutomatonSample id observedAt)
  modifyAutomaton run id (·.observe reply.observed)
  let sample ← orThrow reply.sample
  return (observedAt, sample)

/-- `baselineSampleIsReady`. -/
def baselineSampleIsReady (sample : Sample) : Bool :=
  sample.cycles.isSome && sample.netWorthUsd.isSome && sample.netWorthUsd ≠ some "0" &&
    sample.ethBalanceWei.isSome && sample.usdcBalanceRaw.isSome

/-- A run with the commit of its automatons, where it was not known. -/
def ActiveEvaluationRun.learnCommit (run : ActiveEvaluationRun) (commit : Option String) :
    ActiveEvaluationRun :=
  { run with metadata := { run.metadata with childCommit := run.metadata.childCommit.or commit } }

/-- The commit of an automaton, where it was not known, which is then the commit of `active`, where
that was not known. -/
def learnCommit (run active : RunId) (id : String) (commit : Option String) : Method Unit := do
  modifyAutomaton run id fun automaton =>
    { automaton with childCommit := automaton.childCommit.or commit }
  let automaton ← getAutomaton run id
  modifyRun active (·.learnCommit (automaton.bind (·.childCommit)))

/-- An automaton with its baseline. -/
def RuntimeAutomatonState.withBaseline (automaton : RuntimeAutomatonState) (observedAt : ℕ)
    (sample : Sample) : RuntimeAutomatonState :=
  { automaton with
    baseline := some ⟨observedAt, sample.cycles, sample.netWorthUsd, sample.ethBalanceWei,
      sample.usdcBalanceRaw, sample.txCount⟩ }

/-- One attempt of `captureBaseline`: nothing, when the baseline is captured, or what was
missing. -/
def attemptBaseline (run : RunId) (id : String) (attempt : ℕ) : Method (Option String) := do
  let (observedAt, sample) ← captureAutomatonSample run id
  if !baselineSampleIsReady sample then
    return some ("baseline telemetry not ready on attempt " ++ toString attempt ++ "/8")
  modifyAutomaton run id (·.withBaseline observedAt sample)
  learnCommit run (← requireRun) id sample.commit
  let state ← getRun (← requireRun)
  writeFile (state.artifacts.samplesDirectory ++ [id ++ ".jsonl"]) (.sample id observedAt)
  let state ← getRun (← requireRun)
  emitEvent ⟨state.metadata.runId, observedAt, .sampleRecorded id true⟩
  return none

/-- `captureBaseline`, with the attempts that are left and the last failure. -/
def captureBaseline (run : RunId) (id : String) : ℕ → Option String → Method Unit
  | 0, lastFailure => throw (Failure.of ("Baseline capture failed after 8 attempts: " ++
      lastFailure.getD "unknown error"))
  | left + 1, _ => do
    let failure ← Promise.catching (attemptBaseline run id (8 - left)) fun error =>
      return some error.message
    match failure with
    | none => return ()
    | some failure =>
      if left ≠ 0 then orThrow (← request (.pause 5000))
      captureBaseline run id left (some failure)

/-- An automaton that is being spawned. -/
def RuntimeAutomatonState.spawning (automaton : RuntimeAutomatonState) : RuntimeAutomatonState :=
  { automaton with spawnStatus := .spawning, runtimeStatus := .spawning }

/-- An automaton whose session is complete. -/
def RuntimeAutomatonState.spawned (automaton : RuntimeAutomatonState) (record : RegistryRecord) :
    RuntimeAutomatonState :=
  { automaton with
    spawnSucceeded := true
    spawnStatus := .active
    runtimeStatus := .active
    canisterId := record.canisterId.or automaton.canisterId
    evmAddress := record.evmAddress.or automaton.evmAddress
    childCommit := record.versionCommit }

/-- A run with one more automaton that was spawned. -/
def ActiveEvaluationRun.countSpawn (run : ActiveEvaluationRun) (commit : Option String) :
    ActiveEvaluationRun :=
  { run with
    metadata := { run.metadata with
      childCommit := run.metadata.childCommit.or commit
      successfulSpawnCount := run.metadata.successfulSpawnCount + 1 } }

/-- An automaton whose spawn failed. -/
def RuntimeAutomatonState.failSpawn (automaton : RuntimeAutomatonState) (error : Failure) :
    RuntimeAutomatonState :=
  { automaton with
    spawnStatus := .spawnFailed
    runtimeStatus := .spawnFailed
    lastError := some error.message
    lastErrorDetails := error.details }

/-- An automaton whose sampling failed. -/
def RuntimeAutomatonState.failSample (automaton : RuntimeAutomatonState) (error : Failure) :
    RuntimeAutomatonState :=
  { automaton with lastError := some error.message, lastErrorDetails := none }

/-- The part of `spawnAutomaton` whose errors are recorded in the automaton. -/
def spawnSession (run : RunId) (id : String) (availableStrategyIds : List String) :
    Method Unit := do
  let automaton ← getAutomaton run id
  match ((automaton.map (·.config.strategies)).getD []).find? (· ∉ availableStrategyIds) with
  | some strategyId =>
    throw (Failure.of ("Strategy \"" ++ strategyId ++ "\" is not available for spawn."))
  | none =>
    let address ← orThrow (← ask .createEphemeralWallet)
    orThrow (← request (.claimPlaygroundFaucet address))
    let sessionId ← orThrow (← request (.createSpawnSession id))
    modifyAutomaton run id fun automaton =>
      { automaton with sessionId := some sessionId, evmAddress := some address }
    emitAutomatonUpdated run id
    orThrow (← request (.fetchSpawnSession sessionId))
    orThrow (← request (.submitSpawnPayment sessionId))
    let record ← orThrow (← request (.waitForSessionCompletion sessionId))
    modifyAutomaton run id (·.spawned record)
    modifyRun run (·.countSpawn record.versionCommit)
    Promise.catching (captureBaseline run id 8 none) fun error =>
      modifyAutomaton run id (·.failSample error)
    persistManifest
    emitAutomatonUpdated run id

/-- `spawnAutomaton`. -/
def spawnAutomaton (id : String) (availableStrategyIds : List String) : Method Unit := do
  let run ← requireRun
  orThrow (← request .loadPlaygroundHelpers)
  modifyAutomaton run id (·.spawning)
  emitAutomatonUpdated run id
  Promise.catching (spawnSession run id availableStrategyIds) fun error => do
    modifyAutomaton run id (·.failSpawn error)
    emitAutomatonUpdated run id

/-- The loop of `executeRun` over the automatons. -/
def spawnFleet (run : RunId) (availableStrategyIds : List String) : List String → Method Unit
  | [] => return ()
  | id :: ids => do
    let state ← getRun run
    if state.stopRequested then return ()
    spawnAutomaton id availableStrategyIds
    spawnFleet run availableStrategyIds ids

/-- The part of an iteration of `sampleFleet` whose errors are recorded in the automaton. -/
def sampleAutomaton (run : RunId) (id : String) : Method Unit := do
  let (observedAt, sample) ← captureAutomatonSample run id
  learnCommit run run id sample.commit
  let state ← getRun run
  writeFile (state.artifacts.samplesDirectory ++ [id ++ ".jsonl"]) (.sample id observedAt)
  emitEvent ⟨state.metadata.runId, observedAt, .sampleRecorded id false⟩
  emitAutomatonUpdated run id

/-- The loop of `sampleFleet`. -/
def sampleAutomatons (run : RunId) : List String → Method Unit
  | [] => return ()
  | id :: ids => do
    let automaton ← getAutomaton run id
    if automaton.any fun automaton => automaton.spawnSucceeded && automaton.canisterId.isSome then
      Promise.catching (sampleAutomaton run id) fun error => do
        modifyAutomaton run id (·.failSample error)
        emitAutomatonUpdated run id
    sampleAutomatons run ids

/-- `sampleFleet`. -/
def sampleFleet : Method Unit := do
  let run ← requireRun
  let state ← getRun run
  sampleAutomatons run (state.automatons.map (·.config.id))

/-- The loop of `evaluateDieWellRun`, with what is unmet so far. -/
def readTerminalEvidence (run : RunId) : List String → List String → Method (List String)
  | [], unmet => return unmet
  | id :: ids, unmet => do
    let automaton ← getAutomaton run id
    match automaton.filter (·.spawnSucceeded), automaton.bind (·.canisterId),
        automaton.bind (·.sessionId) with
    | some _, some canisterId, some sessionId =>
      let lacking ← orThrow (← request (.readTerminalEvidence canisterId sessionId))
      readTerminalEvidence run ids (unmet ++ lacking.map (id ++ ": " ++ ·))
    | _, _, _ => readTerminalEvidence run ids (unmet ++ [id ++ ": spawn/session is incomplete"])

/-- `evaluateDieWellRun`: what is unmet. -/
def evaluateDieWellRun : Method (List String) := do
  let run ← requireRun
  let state ← getRun run
  readTerminalEvidence run (state.automatons.map (·.config.id)) []

/-- `hasMetSpawnSuccessThreshold`. -/
def ActiveEvaluationRun.hasMetSpawnSuccessThreshold (run : ActiveEvaluationRun) : Bool :=
  run.experiment.requiredSuccesses ≤ run.metadata.successfulSpawnCount

/-- `buildSpawnThresholdAbortReason`. -/
def ActiveEvaluationRun.spawnThresholdAbortReason (run : ActiveEvaluationRun) : String :=
  let failedSpawnSummaries := (run.automatons.filter (·.spawnStatus = .spawnFailed)).map
    fun automaton => automaton.config.id ++ ": " ++ automaton.lastError.getD "spawn failed"
  "Spawn success threshold missed: " ++ toString run.metadata.successfulSpawnCount ++ "/" ++
    toString run.metadata.requestedAutomatonCount ++ " successful spawns; required " ++
    toString run.experiment.requiredSuccesses ++ " successful spawns for minSuccessRatio=" ++
    run.experiment.minSuccessRatio ++ "." ++
    (if failedSpawnSummaries = [] then ""
      else " Failed spawns: " ++ " | ".intercalate (failedSpawnSummaries.take 3))

/-- `hasComparableBaseline`. -/
def RuntimeAutomatonState.hasComparableBaseline (automaton : RuntimeAutomatonState) : Bool :=
  automaton.baseline.any fun baseline =>
    baseline.cycles.isSome && baseline.netWorthUsd.isSome && baseline.ethBalanceWei.isSome &&
      baseline.usdcBalanceRaw.isSome && baseline.txCount.isSome

/-- `EvaluationCompletionReason` as text. -/
def EvaluationCompletionReason.asStr : EvaluationCompletionReason → String
  | .completed => "completed"
  | .timedOut => "timed_out"
  | .stoppedManually => "stopped_manually"
  | .aborted => "aborted"
  | .failed => "failed"

/-- `assessComparisonValidity`: why a comparison is not valid. -/
def ActiveEvaluationRun.comparisonInvalidReason (run : ActiveEvaluationRun)
    (completionReason : EvaluationCompletionReason) : Option String :=
  if completionReason = .aborted ∨ completionReason = .failed then
    some (run.metadata.abortReason.getD
      ("Run ended with completion reason \"" ++ completionReason.asStr ++ "\"."))
  else
    let successful := run.automatons.filter (·.spawnSucceeded)
    let missingBaseline := successful.filter (·.baseline.isNone)
    let nonComparable := successful.filter (!·.hasComparableBaseline)
    if successful.length < 2 then
      some ("Only " ++ toString successful.length ++ " successful spawn" ++
        (if successful.length = 1 then "" else "s") ++ "; need at least 2 for comparison.")
    else if missingBaseline ≠ [] then
      some ("Missing baseline capture for successful spawns: " ++
        ", ".intercalate (missingBaseline.map (·.config.id)) ++ ".")
    else if nonComparable ≠ [] then
      some ("Baseline telemetry incomplete for successful spawns: " ++
        ", ".intercalate (nonComparable.map (·.config.id)) ++ ".")
    else none

/-- An automaton of a run that is finalized. -/
def RuntimeAutomatonState.complete (automaton : RuntimeAutomatonState) : RuntimeAutomatonState :=
  if automaton.spawnSucceeded ∧ automaton.runtimeStatus ≠ .spawnFailed ∧
      automaton.runtimeStatus ≠ .stalled then { automaton with runtimeStatus := .completed }
  else automaton

/-- What `finalizeRun` writes before it awaits anything. -/
def ActiveEvaluationRun.close (run : ActiveEvaluationRun) (reason : EvaluationCompletionReason)
    (endedAt : ℕ) : ActiveEvaluationRun :=
  { run with
    completionReason := some reason
    comparisonValid := (run.comparisonInvalidReason reason).isNone
    metadata := { run.metadata with runState := reason.runState, endedAt := some endedAt }
    automatons := run.automatons.map (·.complete) }

/-- `buildReportMetadata`, without the ranking. -/
def ActiveEvaluationRun.buildReport (run : ActiveEvaluationRun) : EvaluationReportMetadata where
  generatedAt := run.metadata.endedAt.getD run.metadata.startedAt
  completionReason := run.completionReason.getD .failed
  comparisonValid := run.comparisonValid
  comparisonInvalidReason := run.completionReason.bind run.comparisonInvalidReason

/-- The canisters of a run, each once. -/
def ActiveEvaluationRun.initialCanisterIds (run : ActiveEvaluationRun) : List String :=
  ((run.automatons.filter (·.spawnSucceeded)).filterMap (·.canisterId)).eraseDups

/-- `finalizeRun`. Its result is not used. -/
def finalizeRun (reason : EvaluationCompletionReason) : Method Unit := do
  let run ← requireRun
  let endedAt ← now
  modifyRun run (·.close reason endedAt)
  orThrow (← ask .buildSummary)
  let summary := (← getRun run).metadata
  request (.fetchAutomatonLineage (← getRun run).initialCanisterIds)
  request .fetchChronicle
  orThrow (← ask .buildReport)
  let report := (← getRun run).buildReport
  modifyRun run fun state => { state with report := some report }
  let metadata := (← getRun run).metadata
  request .stopPlayground
  writeFile (← getRun run).artifacts.summaryPath (.summary summary)
  writeFile (← getRun run).artifacts.reportPath (.report metadata report)
  persistManifest
  orThrow (← ask .getDashboard)
  emitEvent ⟨(← getRun run).metadata.runId, endedAt, .runFinalized reason⟩

/-- The handler of `executeRun`: a run that throws is finalized as failed. -/
def guarded (run : RunId) (body : Method Unit) : Method Unit :=
  Promise.catching body fun error => do
    modifyRun run (·.withAbortReason error.message)
    finalizeRun .failed

/-- The condition of the sampling loop. -/
def beforeDeadline (run : RunId) : Method Bool := do
  let state ← getRun run
  if state.stopRequested then return false
  let time ← now
  return decide (time < state.metadata.startedAt + state.experiment.maxRuntimeMinutes * 60000)

/-- What follows the sampling loop. -/
def endSampling (run : RunId) (dieWellUnmet : List String) : Method Unit := do
  let state ← getRun run
  if state.stopRequested then finalizeRun .stoppedManually
  else if isDieWellExperiment state.experiment.name then
    throw (Failure.of ("Die-well assertions not satisfied: " ++ "; ".intercalate dieWellUnmet))
  else finalizeRun .timedOut

/-- The sampling loop up to its next pause. A pause that is left out ends the loop: its condition
was read just before. -/
def samplingLoop (head : SamplingHead) : Method Unit := do
  if !(← beforeDeadline head.run) then endSampling head.run head.unmet
  else
    sampleFleet
    let state ← getRun head.run
    if isDieWellExperiment state.experiment.name then
      let unmet ← evaluateDieWellRun
      if unmet = [] then finalizeRun .completed
      else if ← beforeDeadline head.run then Promise.park { head with unmet := unmet }
      else endSampling head.run unmet
    else if ← beforeDeadline head.run then Promise.park (L := evaluatorLoop) head
    else endSampling head.run head.unmet

/-- What follows a pause of the sampling loop. -/
def resumeSampling (head : SamplingHead) (paused : Except Failure Unit) : Method Unit :=
  guarded head.run do
    orThrow paused
    samplingLoop head

/-- `executeRun`. -/
def executeRun (config : RunControllerConfig) : Method Unit := do
  let run ← requireRun
  guarded run do
    orThrow (← request .bootstrapPlayground)
    orThrow (← request .resolveRuntime)
    let strategyIds ← transitionToValidationAndLoadStrategies config
    let state ← getRun run
    spawnFleet run strategyIds (state.automatons.map (·.config.id))
    let state ← getRun run
    if state.stopRequested then finalizeRun .stoppedManually
    else if !state.hasMetSpawnSuccessThreshold then
      modifyRun run (·.withAbortReason state.spawnThresholdAbortReason)
      finalizeRun .aborted
    else
      modifyRun run (·.withRunState .running)
      persistManifest
      emitRunUpdated run
      if state.experiment.generationScenario then
        orThrow (← request .executeGenerationScenario)
        writeFile state.artifacts.generationPath .generationScenario
        sampleFleet
        finalizeRun .completed
      else
        samplingLoop ⟨run, state.experiment.samplingIntervalSeconds * 1000,
          ["terminal evidence has not been sampled"]⟩

/-- The run that `startRun` registers. -/
def newRun (experiment : ExperimentFile) (artifacts : EvaluationArtifacts) (runId : RunId)
    (startedAt : ℕ) (launchpadCommit : String) : ActiveEvaluationRun where
  experiment := experiment
  artifacts := artifacts
  completionReason := none
  comparisonValid := false
  stopRequested := false
  report := none
  metadata := {
    runId := runId
    experimentPath := experiment.path
    experimentHash := experiment.hash
    runState := .booting
    abortReason := none
    startedAt := startedAt
    endedAt := none
    launchpadCommit := launchpadCommit
    childCommit := none
    requestedAutomatonCount := experiment.automatons.length
    successfulSpawnCount := 0
    samplingIntervalSeconds := experiment.samplingIntervalSeconds
    maxRuntimeMinutes := experiment.maxRuntimeMinutes }
  automatons := experiment.automatons.map createAutomatonState

/-- `randomUUID`. -/
def randomUUID : Method RunId := do
  let controller ← Promise.read
  Promise.write fun controller => { controller with nextUuid := controller.nextUuid + 1 }
  return controller.nextUuid

/-- `startRun` up to the call of `executeRun`, which does not wait. -/
def startRun (config : RunControllerConfig) (experimentPath : String) : Method RunId := do
  let controller ← Promise.read
  if controller.current.any (·.isOpen) then
    throw (Failure.of ("Run " ++ toString (controller.activeRun.getD 0) ++ " is already active."))
  let experiment ← orThrow (← request (.loadExperimentFile experimentPath))
  let runId ← randomUUID
  let artifacts := createRunArtifacts config.artifactsRoot runId
  orThrow (← request (.makeDirectory artifacts.samplesDirectory))
  let startedAt ← now
  let launchpadCommit ← orThrow (← request .readGitCommit)
  let run := newRun experiment artifacts runId startedAt launchpadCommit
  Promise.write fun controller =>
    { controller with activeRun := some runId, runs := controller.runs.insert runId run }
  persistManifest
  emitEvent ⟨runId, startedAt, .runUpdated .booting⟩
  return runId

/-- What a call of `startRun` comes to: its own error, or how the promise of the run settles. -/
inductive Outcome
  | rejected (error : Failure)
  | settled (run : RunId) (result : Except Failure Unit)

/-- A call of `startRun`, and the run that it starts. -/
def evaluate (config : RunControllerConfig) (experimentPath : String) :
    Async evaluatorLoop Outcome := do
  match ← (startRun config experimentPath).run with
  | .error error => return .rejected error
  | .ok run => return .settled run (← (executeRun config).run)

end Automaton.Evaluator
