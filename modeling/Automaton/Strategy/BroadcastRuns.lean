import Automaton.Library.Transition
import Automaton.Strategy.Receipts
import Automaton.Strategy.Settlement

/-!
# Runs that send calls, and jobs that read receipts

Runs that send the calls of executions and jobs that read receipts take turns at their awaits, in
any order, and an endpoint may accept a transaction and yet answer with an error. A step is
undisturbed when nobody else works on an execution while a transaction of it is out, and when an
accepted transaction is neither answered with an error nor given up. The invariant of undisturbed
steps is kept by what runs and jobs write.
-/

namespace Automaton.Strategy

open Machine Transition

/-- A transaction that an endpoint accepted, with the call that it was sent for. -/
structure Acceptance where
  executionId : String
  index : ℕ
  raw : List UInt8
  deriving DecidableEq

/-- The tables, the runs and the jobs that were started, and the accepted transactions. -/
structure BroadcastWorld where
  rows : StrategyRows
  runs : List RunState
  jobs : List JobState
  accepted : List Acceptance

/-- Nothing has happened. -/
def BroadcastWorld.fresh : BroadcastWorld := ⟨.empty, [], [], []⟩

/-- What happens: an execution is stored, a run starts, its answers arrive, an endpoint accepts the
transaction that was posted to it, an endpoint replies, a job starts, and a receipt arrives. -/
inductive BroadcastAct
  | insert (turnId planDigest : String) (plan : ExecutionPlan) (nowNs : ℕ)
  | execute (env : BroadcastEnv) (plan : ExecutionPlan) (executionId : String)
  | prepare (i : ℕ) (answers : SendAnswers) (env : BroadcastEnv)
  | accept (i : ℕ)
  | reply (i : ℕ) (answer : Except String RpcResponse) (env : BroadcastEnv)
  | reconcile (nowNs : ℕ) (snapshot : RuntimeSnapshot) (policy : QuarantinePolicy)
  | observe (i : ℕ) (answer : Except String StrategyReceiptObservation) (policy : QuarantinePolicy)

/-- The run at a position that waits. -/
def BroadcastWorld.run? (world : BroadcastWorld) (i : ℕ) : Option PlanRun :=
  match world.runs[i]? with
  | some (.sending run) => some run
  | _ => none

/-- The job at a position that waits. -/
def BroadcastWorld.job? (world : BroadcastWorld) (i : ℕ) : Option ReceiptJob :=
  match world.jobs[i]? with
  | some (.waiting job) => some job
  | _ => none

/-- A run has gone on. -/
def BroadcastWorld.setRun (world : BroadcastWorld) (i : ℕ) (result : StrategyRows × RunState) :
    BroadcastWorld :=
  { world with rows := result.1, runs := world.runs.set i result.2 }

/-- A job has gone on. -/
def BroadcastWorld.setJob (world : BroadcastWorld) (i : ℕ) (result : StrategyRows × JobState) :
    BroadcastWorld :=
  { world with rows := result.1, jobs := world.jobs.set i result.2 }

section Steps

variable (keccakHex : String → String)
  (recoverYParity : List UInt8 → List UInt8 → String → Except String ℕ)

/-- The world after an act. -/
def BroadcastAct.apply (act : BroadcastAct) (world : BroadcastWorld) : BroadcastWorld :=
  match act with
  | .insert turnId planDigest plan nowNs =>
    (world.rows.insertPendingStrategyExecution
      (newPendingExecution turnId planDigest plan nowNs)).toOption.elim world fun (_, rows) =>
        { world with rows := rows }
  | .execute env plan executionId =>
    let result := world.rows.executeStrategyPlan keccakHex env plan executionId
    { world with rows := result.1, runs := world.runs ++ [result.2] }
  | .prepare i answers env =>
    (world.run? i).elim world fun run =>
      world.setRun i (run.prepare keccakHex world.rows env recoverYParity answers)
  | .accept i =>
    (world.run? i).elim world fun run => run.posted.elim world fun raw =>
      { world with accepted := world.accepted ++ [⟨run.executionId, run.index, raw⟩] }
  | .reply i answer env =>
    (world.run? i).elim world fun run =>
      world.setRun i (run.receive keccakHex world.rows env answer)
  | .reconcile nowNs snapshot policy =>
    let result := world.rows.reconcile keccakHex policy nowNs snapshot
    { world with rows := result.1, jobs := world.jobs ++ [result.2] }
  | .observe i answer policy =>
    (world.job? i).elim world fun job =>
      world.setJob i (job.observe keccakHex policy world.rows answer)

end Steps

/-- Every accepted transaction is kept: neither its call nor its execution is dropped, and no other
transaction was accepted for its call. -/
structure BroadcastWorld.KeepsAccepted (world : BroadcastWorld) : Prop where
  execution : ∀ acceptance ∈ world.accepted, ∀ execution : PendingStrategyExecution,
    world.rows.executions[acceptance.executionId]? = some execution → execution.state ≠ .dropped
  call : ∀ acceptance ∈ world.accepted, ∀ execution : PendingStrategyExecution,
    world.rows.executions[acceptance.executionId]? = some execution →
      ∀ call, execution.calls[acceptance.index]? = some call → call.state ≠ .dropped
  once : ∀ acceptance ∈ world.accepted, ∀ other ∈ world.accepted,
    acceptance.executionId = other.executionId → acceptance.index = other.index →
      acceptance.raw = other.raw

section Conditions

/-- The transaction of a run can be built, and is posted. -/
def PlanRun.posts (run : PlanRun)
    (recoverYParity : List UInt8 → List UInt8 → String → Except String ℕ)
    (answers : SendAnswers) : Bool :=
  match run.phase with
  | .preparing args fromAddress chainId =>
    (buildRawTransaction recoverYParity args fromAddress chainId answers).toOption.isSome
  | _ => false

/-- The executions that a job takes up without waiting for a receipt. -/
def takenUpAtOnce (nowNs : ℕ) (rpc : Except String Unit)
    (executions : List PendingStrategyExecution) : List PendingStrategyExecution :=
  executions.takeWhile fun expected =>
    ((expireUnattemptedStrategyCalls expected nowNs).nextReceipt 0).isNone ||
      !rpc.toOption.isSome

variable (world : BroadcastWorld)

/-- The stored execution. -/
def BroadcastWorld.stored (executionId : String) : Option PendingStrategyExecution :=
  world.rows.executions[executionId]?

/-- No run of an execution, but for one, has a transaction out. -/
def BroadcastWorld.NoneOut (executionId : String) (own : Option ℕ) : Prop :=
  ∀ i run, world.run? i = some run → some i ≠ own → run.executionId = executionId →
    run.posted = none

/-- A transaction was accepted for a call. -/
def BroadcastWorld.Accepted (executionId : String) (index : ℕ) : Prop :=
  ∃ acceptance ∈ world.accepted,
    acceptance.executionId = executionId ∧ acceptance.index = index

/-- A copy of an execution has the hashes of the transactions that were accepted for its calls. -/
def BroadcastWorld.Knows (copy : PendingStrategyExecution) : Prop :=
  ∀ index, world.Accepted copy.executionId index → copy.hasHash index = true

/-- A run that fails does not overlook a transaction of its execution. -/
def BroadcastWorld.MayFail (i : ℕ) (run : PlanRun) : Prop :=
  ∀ stored, world.stored run.executionId = some stored → stored.isOpen = true →
    world.NoneOut run.executionId (some i) ∧ world.Knows run.execution

/-- A run posts a transaction for the execution as it is stored, for a call that is not recorded as
dropped, and while no other transaction of the execution is out. -/
def BroadcastWorld.MayPost (i : ℕ) (run : PlanRun) : Prop :=
  world.NoneOut run.executionId (some i) ∧ world.stored run.executionId = some run.execution ∧
    ∀ call, run.execution.calls[run.index]? = some call → call.state ≠ .dropped

/-- A job does not write while a transaction of the execution is out. -/
def BroadcastWorld.MayUpdate (expected : PendingStrategyExecution) : Prop :=
  world.stored expected.executionId = some expected → world.NoneOut expected.executionId none

/-- A job that ends an execution does not overlook a transaction of it, and drops the execution only
when none was accepted. -/
structure BroadcastWorld.MaySettle (expected execution : PendingStrategyExecution) : Prop where
  update : world.MayUpdate expected
  settle : execution.fails = true ∨ execution.allConfirmed = true →
    ∀ stored, world.stored expected.executionId = some stored → stored.isOpen = true →
      world.NoneOut expected.executionId none
  knows : execution.fails = true →
    ∀ stored, world.stored expected.executionId = some stored → stored.isOpen = true →
      world.Knows expected
  dropped : execution.fails = true → execution.failedState = .dropped →
    ∀ index, ¬ world.Accepted expected.executionId index

/-- A job may write the executions that it takes up without waiting. -/
def BroadcastWorld.MayTakeUp (nowNs : ℕ) (rpc : Except String Unit)
    (executions : List PendingStrategyExecution) : Prop :=
  ∀ expected ∈ takenUpAtOnce nowNs rpc executions,
    let execution := expireUnattemptedStrategyCalls expected nowNs
    world.MayUpdate expected ∧
      (execution.nextReceipt 0 = none → world.MaySettle expected execution)

/-- A receipt does not give up an accepted transaction, and the job may write what it has found. -/
structure BroadcastWorld.MayObserve (job : ReceiptJob)
    (answer : Except String StrategyReceiptObservation) : Prop where
  unread : ∀ error, answer = .error error →
    world.MayUpdate job.expected ∧ world.MayTakeUp job.nowNs (.ok ()) job.rest
  pending : ∀ observation, answer = .ok observation → observation.status = .pending →
    ∀ call, job.execution.calls[job.index]? = some call →
      call.timedOut job.nowNs job.execution.createdAtNs = true →
        ¬ world.Accepted job.expected.executionId job.index
  settle : ∀ observation execution, answer = .ok observation →
    job.check observation = .ok execution → execution.nextReceipt (job.index + 1) = none →
      world.MaySettle job.expected execution ∧ world.MayTakeUp job.nowNs (.ok ()) job.rest

/-- The condition on a step: while a transaction is out, nobody else works on its execution, and an
accepted transaction is neither answered with an error nor given up. -/
def BroadcastWorld.Undisturbed
    (recoverYParity : List UInt8 → List UInt8 → String → Except String ℕ)
    (world : BroadcastWorld) (act : BroadcastAct) : Prop :=
  match act with
  | .insert _ _ _ _ => True
  | .execute _ _ executionId => world.NoneOut executionId none
  | .prepare i answers _ => ∀ run, world.run? i = some run →
      if run.posts recoverYParity answers then world.MayPost i run else world.MayFail i run
  | .accept _ => True
  | .reply i answer _ => ∀ run error, world.run? i = some run →
      run.result answer = some (.error error) → ¬ world.Accepted run.executionId run.index
  | .reconcile nowNs snapshot _ =>
      world.MayTakeUp nowNs snapshot.rpcClient (world.rows.listDuePendingStrategyExecutions nowNs)
  | .observe i answer _ => ∀ job, world.job? i = some job → world.MayObserve job answer

end Conditions

/-- A call that is not dropped has a hash when it was sent. -/
def PendingStrategyExecutionCall.Hashed (call : PendingStrategyExecutionCall) : Prop :=
  call.state = .dropped ∨ (call.txHash.isSome = true ↔ call.state ≠ .unattempted)

/-- A stored execution that is not open failed, or all of its calls have hashes. -/
def PendingStrategyExecution.Shaped (execution : PendingStrategyExecution) : Prop :=
  execution.isOpen = true ∨ execution.terminalBookkeepingApplied = true ∨
    ∀ index < execution.calls.length, execution.hasHash index = true

/-- What holds of a copy, however old it is: the stored execution has its hashes as long as it is
open, and it drops no accepted transaction of which it has the hash. -/
structure BroadcastWorld.Copied (world : BroadcastWorld) (copy : PendingStrategyExecution) :
    Prop where
  stored : ∃ stored, world.stored copy.executionId = some stored ∧ (stored.isOpen = true →
    ∀ index, copy.hasHash index = true → stored.hasHash index = true)
  honest : ∀ index call, copy.calls[index]? = some call → call.state = .dropped →
    call.txHash.isSome = true → ¬ world.Accepted copy.executionId index
  hashed : ∀ call ∈ copy.calls, call.Hashed

/-- What holds of a run that waits. -/
structure BroadcastWorld.RunInv (world : BroadcastWorld) (i : ℕ) (run : PlanRun) : Prop where
  id : run.execution.executionId = run.executionId
  opened : run.execution.isOpen = true
  unsent : run.execution.hasHash run.index = false
  length : run.index + 1 + run.rest.length = run.execution.calls.length
  hashes : run.txHashes = [] → ∀ index, run.execution.hasHash index = false
  copied : world.Copied run.execution
  posted : run.posted ≠ none → world.MayPost i run

/-- What holds of a job that waits. -/
structure BroadcastWorld.JobInv (world : BroadcastWorld) (job : ReceiptJob) : Prop where
  id : job.execution.executionId = job.expected.executionId
  hashes : ∀ index, job.execution.hasHash index = job.expected.hasHash index
  expected : world.Copied job.expected
  execution : world.Copied job.execution
  awaited : ∀ call, job.execution.calls[job.index]? = some call → call.txHash.isSome = true
  rest : ∀ copy ∈ job.rest, world.Copied copy
  distinct : (job.expected.executionId :: job.rest.map (·.executionId)).Nodup

/-- The invariant of undisturbed runs: an accepted transaction of an open execution is out, or its
hash is stored. -/
structure BroadcastInv (world : BroadcastWorld) : Prop where
  keeps : world.KeepsAccepted
  rows : ∀ executionId execution, world.stored executionId = some execution →
    execution.executionId = executionId ∧ execution.Shaped ∧ ∀ call ∈ execution.calls, call.Hashed
  covered : ∀ acceptance ∈ world.accepted, ∃ execution,
    world.stored acceptance.executionId = some execution ∧ (execution.isOpen = true →
      execution.hasHash acceptance.index = true ∨ ∃ i run, world.run? i = some run ∧
        run.executionId = acceptance.executionId ∧ run.index = acceptance.index ∧
          run.posted = some acceptance.raw)
  runs : ∀ i run, world.run? i = some run → world.RunInv i run
  jobs : ∀ i job, world.job? i = some job → world.JobInv job

section Worlds

variable {world : BroadcastWorld} {i j : ℕ} {run : PlanRun} {rows : StrategyRows}
  {state : RunState} {executionId : String} {execution next : PendingStrategyExecution}

theorem run?_eq_some : world.run? i = some run ↔ world.runs[i]? = some (.sending run) := by
  unfold BroadcastWorld.run?
  split
  · rename_i other hother
    rw [hother]
    simp
  · rename_i hother
    simp only [reduceCtorEq, false_iff]
    exact hother run

theorem job?_eq_some {job : ReceiptJob} :
    world.job? i = some job ↔ world.jobs[i]? = some (.waiting job) := by
  unfold BroadcastWorld.job?
  split
  · rename_i other hother
    rw [hother]
    simp
  · rename_i hother
    simp only [reduceCtorEq, false_iff]
    exact hother job

/-- The runs after one of them has gone on. -/
theorem run?_setRun (h : (world.setRun i (rows, state)).run? j = some run) :
    j = i ∧ state = .sending run ∨ j ≠ i ∧ world.run? j = some run := by
  rw [run?_eq_some, BroadcastWorld.setRun, List.getElem?_set] at h
  split at h
  · rename_i hij
    split at h
    · exact .inl ⟨hij.symm, Option.some.inj h⟩
    · cases h
  · rename_i hij
    exact .inr ⟨Ne.symm hij, run?_eq_some.mpr h⟩

theorem run?_setRun_of_ne (h : world.run? j = some run) (hne : j ≠ i) :
    (world.setRun i (rows, state)).run? j = some run := by
  rw [run?_eq_some, BroadcastWorld.setRun, List.getElem?_set_ne (Ne.symm hne)]
  exact run?_eq_some.mp h

theorem run?_setRun_self (h : i < world.runs.length) :
    (world.setRun i (rows, .sending run)).run? i = some run := by
  rw [run?_eq_some, BroadcastWorld.setRun, List.getElem?_set_self h]

theorem lt_length_of_run? (h : world.run? i = some run) : i < world.runs.length :=
  (List.getElem?_eq_some_iff.mp (run?_eq_some.mp h)).1

/-- Nothing but the row of one execution is written. -/
def RowOf (before : StrategyRows) (execution : PendingStrategyExecution) (after : StrategyRows) :
    Prop :=
  after.executions = before.executions.insert execution.executionId execution

theorem stored_of_rowOf {world after : BroadcastWorld}
    (h : RowOf world.rows next after.rows) :
    after.stored executionId = if next.executionId = executionId then some next
      else world.stored executionId := by
  rw [BroadcastWorld.stored, h, BTreeMap.get?_insert]
  rfl

end Worlds

/-- No stored execution gets lost, and one that is open was open and keeps its hashes. -/
def BroadcastWorld.Evolves (world later : BroadcastWorld) : Prop :=
  ∀ executionId stored, world.stored executionId = some stored →
    ∃ next, later.stored executionId = some next ∧ (next.isOpen = true →
      stored.isOpen = true ∧ ∀ index, stored.hasHash index = true → next.hasHash index = true)

/-- An admissible write of an open execution: no transaction of it is out, but for that of the run
that writes, and what is written does not drop an accepted one, and has its hash. -/
structure BroadcastWorld.Writes (world : BroadcastWorld) (i : ℕ) (rows : StrategyRows)
    (execution next : PendingStrategyExecution) : Prop where
  row : RowOf world.rows next rows
  stored : world.stored next.executionId = some execution
  opened : execution.isOpen = true
  noneOut : world.NoneOut next.executionId (some i)
  own : ∀ run, world.run? i = some run → run.posted ≠ none → run.executionId = next.executionId
  hashes : next.isOpen = true → ∀ index, execution.hasHash index = true →
    next.hasHash index = true
  shaped : next.Shaped
  hashed : ∀ call ∈ next.calls, call.Hashed
  keeps : ∀ index, world.Accepted next.executionId index → next.state ≠ .dropped ∧
    (∀ call, next.calls[index]? = some call → call.state ≠ .dropped) ∧
      (next.isOpen = true → next.hasHash index = true)

section Evolution

variable {world later : BroadcastWorld} {copy execution next : PendingStrategyExecution}
  {rows : StrategyRows} {i : ℕ} {run : PlanRun}

theorem BroadcastWorld.Evolves.of_rows (h : later.rows = world.rows) : world.Evolves later := by
  intro executionId stored hstored
  refine ⟨stored, ?_, fun hopen => ⟨hopen, fun _ hhash => hhash⟩⟩
  rw [BroadcastWorld.stored, h]
  exact hstored

theorem BroadcastWorld.Evolves.trans {last : BroadcastWorld} (h : world.Evolves later)
    (hlast : later.Evolves last) : world.Evolves last := by
  intro executionId stored hstored
  obtain ⟨next, hnext, hkept⟩ := h executionId stored hstored
  obtain ⟨final, hfinal, hkept'⟩ := hlast executionId next hnext
  refine ⟨final, hfinal, fun hopen => ?_⟩
  obtain ⟨hnextOpen, hhashes'⟩ := hkept' hopen
  obtain ⟨hstoredOpen, hhashes⟩ := hkept hnextOpen
  exact ⟨hstoredOpen, fun k hk => hhashes' k (hhashes k hk)⟩

theorem BroadcastWorld.Writes.evolves (h : world.Writes i rows execution next)
    (hrows : later.rows = rows) : world.Evolves later := by
  intro executionId stored hstored
  have hlater : later.stored executionId = _ := stored_of_rowOf (hrows ▸ h.row)
  rw [hlater]
  split
  · rename_i hid
    obtain rfl := Option.some.inj ((hid ▸ h.stored).symm.trans hstored)
    exact ⟨next, rfl, fun hopen => ⟨h.opened, h.hashes hopen⟩⟩
  · exact ⟨stored, hstored, fun hopen => ⟨hopen, fun _ hhash => hhash⟩⟩

theorem BroadcastWorld.Copied.evolve (h : world.Copied copy) (hevolves : world.Evolves later)
    (haccepted : later.accepted = world.accepted) : later.Copied copy := by
  obtain ⟨stored, hstored, hhashes⟩ := h.stored
  obtain ⟨next, hnext, hopen⟩ := hevolves _ _ hstored
  constructor
  · refine ⟨next, hnext, fun hnextOpen index hhash => ?_⟩
    obtain ⟨hstoredOpen, hkept⟩ := hopen hnextOpen
    exact hkept index (hhashes hstoredOpen index hhash)
  · intro index call hcall hdropped hhash haccept
    refine h.honest index call hcall hdropped hhash ?_
    rw [BroadcastWorld.Accepted, ← haccepted]
    exact haccept
  · exact h.hashed

theorem BroadcastWorld.JobInv.evolve {job : ReceiptJob} (h : world.JobInv job)
    (hevolves : world.Evolves later) (haccepted : later.accepted = world.accepted) :
    later.JobInv job := by
  constructor
  · exact h.id
  · exact h.hashes
  · exact h.expected.evolve hevolves haccepted
  · exact h.execution.evolve hevolves haccepted
  · exact h.awaited
  · exact fun copy hcopy => (h.rest copy hcopy).evolve hevolves haccepted
  · exact h.distinct

theorem BroadcastWorld.RunInv.evolve (h : world.RunInv i run) (hevolves : world.Evolves later)
    (haccepted : later.accepted = world.accepted) (hposted : run.posted ≠ none →
      later.MayPost i run) : later.RunInv i run := by
  constructor
  · exact h.id
  · exact h.opened
  · exact h.unsent
  · exact h.length
  · exact h.hashes
  · exact h.copied.evolve hevolves haccepted
  · exact hposted

end Evolution

section Writing

variable {world : BroadcastWorld} {execution next : PendingStrategyExecution}
  {rows : StrategyRows} {i : ℕ} {run : PlanRun} {result : Except String (List String)}

/-- The invariant is kept by an admissible write at the end of a run. -/
theorem BroadcastInv.write (h : BroadcastInv world) (hwrite : world.Writes i rows execution next) :
    BroadcastInv (world.setRun i (rows, .ended result)) := by
  have hevolves : world.Evolves (world.setRun i (rows, .ended result)) := hwrite.evolves rfl
  have hstored : ∀ executionId, (world.setRun i (rows, .ended result)).stored executionId =
      if next.executionId = executionId then some next else world.stored executionId := by
    intro executionId
    exact stored_of_rowOf hwrite.row
  have hrun : ∀ j run, (world.setRun i (rows, .ended result)).run? j = some run →
      j ≠ i ∧ world.run? j = some run := by
    intro j run hrun
    rcases run?_setRun hrun with ⟨-, hstate⟩ | hother
    · cases hstate
    · exact hother
  constructor
  · constructor
    · intro acceptance hacceptance stored hafter
      change (world.setRun i (rows, .ended result)).stored _ = _ at hafter
      rw [hstored] at hafter
      split at hafter
      · rename_i hid
        obtain rfl := Option.some.inj hafter
        exact (hwrite.keeps _ ⟨acceptance, hacceptance, hid.symm, rfl⟩).1
      · exact h.keeps.execution acceptance hacceptance stored hafter
    · intro acceptance hacceptance stored hafter
      change (world.setRun i (rows, .ended result)).stored _ = _ at hafter
      rw [hstored] at hafter
      split at hafter
      · rename_i hid
        obtain rfl := Option.some.inj hafter
        exact (hwrite.keeps _ ⟨acceptance, hacceptance, hid.symm, rfl⟩).2.1
      · exact h.keeps.call acceptance hacceptance stored hafter
    · exact h.keeps.once
  · intro executionId stored hafter
    rw [hstored] at hafter
    split at hafter
    · rename_i hid
      obtain rfl := Option.some.inj hafter
      exact ⟨hid, hwrite.shaped, hwrite.hashed⟩
    · exact h.rows executionId stored hafter
  · intro acceptance hacceptance
    rw [hstored]
    split
    · rename_i hid
      refine ⟨next, rfl, fun hopen => .inl ?_⟩
      exact (hwrite.keeps _ ⟨acceptance, hacceptance, hid.symm, rfl⟩).2.2 hopen
    · rename_i hid
      obtain ⟨stored, hbefore, hcovered⟩ := h.covered acceptance hacceptance
      refine ⟨stored, hbefore, fun hopen => ?_⟩
      rcases hcovered hopen with hhash | ⟨j, run, hj, hrunId, hindex, hraw⟩
      · exact .inl hhash
      · refine .inr ⟨j, run, run?_setRun_of_ne hj ?_, hrunId, hindex, hraw⟩
        rintro rfl
        exact hid ((hwrite.own run hj (by simp [hraw])).symm.trans hrunId)
  · intro j run hj
    obtain ⟨hne, hj⟩ := hrun j run hj
    have hinv := h.runs j run hj
    refine hinv.evolve hevolves rfl fun hposted => ?_
    obtain ⟨hnone, hfresh, hcall⟩ := hinv.posted hposted
    have hid : next.executionId ≠ run.executionId := by
      intro hid
      exact hposted (hwrite.noneOut j run hj (by simpa using hne) hid.symm)
    refine ⟨?_, ?_, hcall⟩
    · intro k other hk hown hotherId
      exact hnone k other (hrun k other hk).2 hown hotherId
    · rw [hstored, if_neg hid]
      exact hfresh
  · intro j job hj
    exact (h.jobs j job hj).evolve hevolves rfl

/-- The invariant is kept by an admissible write of a job. -/
theorem BroadcastInv.writeRows (h : BroadcastInv world)
    (hwrite : world.Writes world.runs.length rows execution next) :
    BroadcastInv { world with rows := rows } := by
  have hinv : BroadcastInv (world.setRun world.runs.length (rows, .ended (.ok []))) :=
    h.write hwrite
  rw [BroadcastWorld.setRun, List.set_eq_of_length_le le_rfl] at hinv
  exact hinv

/-- A run may end without a write when its transaction was not accepted, or its execution is not
open. -/
theorem BroadcastInv.endRun (h : BroadcastInv world)
    (hfree : ∀ run, world.run? i = some run → run.posted ≠ none →
      ¬ world.Accepted run.executionId run.index) :
    BroadcastInv (world.setRun i (world.rows, .ended result)) := by
  have hrun : ∀ j run, (world.setRun i (world.rows, .ended result)).run? j = some run →
      j ≠ i ∧ world.run? j = some run := by
    intro j run hrun
    rcases run?_setRun hrun with ⟨-, hstate⟩ | hother
    · cases hstate
    · exact hother
  constructor
  · exact ⟨h.keeps.execution, h.keeps.call, h.keeps.once⟩
  · exact h.rows
  · intro acceptance hacceptance
    obtain ⟨stored, hstored, hcovered⟩ := h.covered acceptance hacceptance
    refine ⟨stored, hstored, fun hopen => ?_⟩
    rcases hcovered hopen with hhash | ⟨j, run, hj, hid, hindex, hraw⟩
    · exact .inl hhash
    · refine .inr ⟨j, run, run?_setRun_of_ne hj ?_, hid, hindex, hraw⟩
      rintro rfl
      exact hfree run hj (by simp [hraw]) ⟨acceptance, hacceptance, hid.symm, hindex.symm⟩
  · intro j run hj
    obtain ⟨-, hj⟩ := hrun j run hj
    have hinv := h.runs j run hj
    refine hinv.evolve (.of_rows rfl) rfl fun hposted => ?_
    obtain ⟨hnone, hfresh, hcall⟩ := hinv.posted hposted
    exact ⟨fun k other hk => hnone k other (hrun k other hk).2, hfresh, hcall⟩
  · intro j job hj
    exact (h.jobs j job hj).evolve (.of_rows rfl) rfl

/-- A run goes on to another phase, in which it has posted nothing new, or what it may post. -/
theorem BroadcastInv.sendRun (h : BroadcastInv world)
    (hold : ∀ old, world.run? i = some old → old.posted ≠ none →
      run.executionId = old.executionId ∧ run.index = old.index ∧ run.posted = old.posted)
    (hinv : world.RunInv i run) :
    BroadcastInv (world.setRun i (world.rows, .sending run)) := by
  have hnone : ∀ executionId own, world.NoneOut executionId own →
      (run.posted ≠ none → run.executionId = executionId → some i = own) →
      (world.setRun i (world.rows, .sending run)).NoneOut executionId own := by
    intro executionId own hnone hown j other hj hne hid
    rcases run?_setRun hj with ⟨rfl, hstate⟩ | ⟨-, hj⟩
    · obtain rfl := RunState.sending.inj hstate
      by_contra hposted
      exact hne (hown hposted hid)
    · exact hnone j other hj hne hid
  constructor
  · exact ⟨h.keeps.execution, h.keeps.call, h.keeps.once⟩
  · exact h.rows
  · intro acceptance hacceptance
    obtain ⟨stored, hstored, hcovered⟩ := h.covered acceptance hacceptance
    refine ⟨stored, hstored, fun hopen => ?_⟩
    rcases hcovered hopen with hhash | ⟨j, old, hj, hid, hindex, hraw⟩
    · exact .inl hhash
    · right
      by_cases hij : j = i
      · subst hij
        obtain ⟨hid', hindex', hposted⟩ := hold old hj (by simp [hraw])
        exact ⟨j, run, run?_setRun_self (lt_length_of_run? hj), hid'.trans hid,
          hindex'.trans hindex, hposted.trans hraw⟩
      · exact ⟨j, old, run?_setRun_of_ne hj hij, hid, hindex, hraw⟩
  · intro j other hj
    rcases run?_setRun hj with ⟨rfl, hstate⟩ | ⟨hne, hj⟩
    · obtain rfl := RunState.sending.inj hstate
      refine hinv.evolve (.of_rows rfl) rfl fun hposted => ?_
      obtain ⟨hout, hfresh, hcall⟩ := hinv.posted hposted
      exact ⟨hnone _ _ hout fun _ _ => rfl, hfresh, hcall⟩
    · have hother := h.runs j other hj
      refine hother.evolve (.of_rows rfl) rfl fun hposted => ?_
      obtain ⟨hout, hfresh, hcall⟩ := hother.posted hposted
      refine ⟨hnone _ _ hout fun hrun hid => ?_, hfresh, hcall⟩
      have hothers := (hinv.posted hrun).1 j other hj (by simpa using hne) hid.symm
      exact absurd hothers hposted
  · intro j job hj
    exact (h.jobs j job hj).evolve (.of_rows rfl) rfl

/-- The stored execution has the hash of an accepted transaction that is not out. -/
theorem BroadcastInv.knows (h : BroadcastInv world) {executionId : String} {index : ℕ}
    (hstored : world.stored executionId = some execution) (hopen : execution.isOpen = true)
    (hnone : ∀ i run, world.run? i = some run → run.executionId = executionId →
      run.index = index → run.posted = none)
    (haccepted : world.Accepted executionId index) : execution.hasHash index = true := by
  obtain ⟨acceptance, hacceptance, rfl, rfl⟩ := haccepted
  obtain ⟨stored, hbefore, hcovered⟩ := h.covered acceptance hacceptance
  obtain rfl := Option.some.inj (hstored.symm.trans hbefore)
  rcases hcovered hopen with hhash | ⟨i, run, hi, hid, hindex, hraw⟩
  · exact hhash
  · rw [hnone i run hi hid hindex] at hraw
    cases hraw

/-- What is stored is a copy. -/
theorem BroadcastInv.copied (h : BroadcastInv world) {executionId : String}
    (hstored : world.stored executionId = some execution) : world.Copied execution := by
  obtain ⟨rfl, -, hhashed⟩ := h.rows executionId execution hstored
  constructor
  · exact ⟨execution, hstored, fun _ _ hhash => hhash⟩
  · rintro index call hcall hdropped - ⟨acceptance, hacceptance, hid, rfl⟩
    exact h.keeps.call acceptance hacceptance execution (hid ▸ hstored) call hcall hdropped
  · exact hhashed

end Writing

end Automaton.Strategy
