import Automaton.Factory.JobInvariants
import Automaton.Factory.PaymentCoherence

/-!
# The payment poller

In every state that the factory and its scheduler reach, the poll job has a next run while
some session waits for its payment. Creations, scans, ticks and reports of workers may come
in any order, also while the job is leased.
-/

namespace Automaton.Factory

open Persist Transition

/-- What happens to a factory with its scheduler: a write of a message, a tick that leases the
jobs that are due, or the report of a worker with the time that it started and the time that
it reports. -/
inductive SchedulerAct
  | write (op : Op)
  | lease (nowMs limit : ℕ)
  | pollUnready (nowMs : ℕ)
  | pollDone (result : Except FactoryError Unit) (startedMs nowMs : ℕ)
  | spawnDone (sessionId : String) (result : Except FactoryError Unit) (startedMs nowMs : ℕ)

/-- The report of a worker, classified. -/
def FactoryState.reportJob (state : FactoryState) (jobId : String)
    (classify : FactoryError → ℕ → SchedulerJobFailure) (result : Except FactoryError Unit)
    (startedMs nowMs : ℕ) : FactoryState :=
  match result with
  | .ok _ => state.finalizeJobSuccess jobId nowMs
  | .error error => state.finalizeJobFailure jobId (classify error startedMs) nowMs

/-- The state afterwards. A poll whose prerequisites fail reports in the message it starts in. -/
def SchedulerAct.apply (libraries : Libraries) (act : SchedulerAct) (state : FactoryState) :
    FactoryState :=
  match act with
  | .write op => op.apply libraries state
  | .lease nowMs limit => state.leaseDueJobs nowMs limit
  | .pollUnready nowMs =>
    match paymentPollPrerequisiteFailure state nowMs with
    | some failure => state.finalizeJobFailure paymentPollJobId failure nowMs
    | none => state
  | .pollDone result startedMs nowMs =>
    state.reportJob paymentPollJobId (classifyPaymentPollError libraries.errorText) result startedMs
      nowMs
  | .spawnDone sessionId result startedMs nowMs =>
    state.reportJob (spawnJobId sessionId) (classifySpawnError libraries.errorText) result
      startedMs nowMs

/-- A session is created under an id that no session has. -/
def SchedulerAct.IsFresh (act : SchedulerAct) (state : FactoryState) : Prop :=
  match act with
  | .write op => op.IsFresh state
  | _ => True

/-- One step of the factory and its scheduler. -/
def SchedulerStep (libraries : Libraries) (s : FactoryState) (act : SchedulerAct)
    (t : FactoryState) : Prop :=
  act.IsFresh s ∧ t = act.apply libraries s

/-- A factory without sessions and jobs. -/
def FactoryState.IsIdle (state : FactoryState) : Prop :=
  state.IsEmpty ∧ ∀ jobId : String, state.schedulerJobs[jobId]? = none

variable {libraries : Libraries} {s t : FactoryState}

/-- What every step keeps. -/
structure PollerSound (s : FactoryState) : Prop where
  consistent : Consistent s
  jobs : JobsSound s
  scheduled : ∀ sessionId, NeedsPoll sessionId s → Scheduled paymentPollJobId s

theorem PollerSound.of_isIdle (h : s.IsIdle) : PollerSound s where
  consistent := Consistent.of_isEmpty h.1
  jobs jobId job hjob := by
    rw [h.2 jobId] at hjob
    cases hjob
  scheduled sessionId hpoll := by
    obtain ⟨session, hsession, -⟩ := hpoll
    rw [(h.1 sessionId).1] at hsession
    cases hsession

/-- Elementary writes keep the poll scheduled, but the storing of a new session. -/
theorem Write.poll_scheduled {kind : OpKind} (h : Write kind s t) (hkind : kind ≠ .creation)
    (hs : JobsSound s)
    (hscheduled : ∀ sessionId, NeedsPoll sessionId s → Scheduled paymentPollJobId s)
    {sessionId : String} (hpoll : NeedsPoll sessionId t) : Scheduled paymentPollJobId t := by
  have hbefore : Scheduled paymentPollJobId s := hscheduled sessionId (h.needsPoll hkind hpoll)
  rcases h.jobs_cases with hjobs | ⟨other, nowMs, hjobs⟩ | ⟨nowMs, rfl⟩
  · exact hbefore.of_eq hjobs
  · exact (hbefore.enqueueSpawnExecution hs other nowMs).of_eq hjobs
  · refine hs.scheduled_syncPaymentPollJob (pollRemainsActive_iff.mpr ⟨sessionId, ?_⟩) nowMs
    exact hpoll.of_eq (sameButJobs_syncPaymentPollJob s nowMs).sessions_eq

/-- A creation ends with a refreshed poll job, or fails. -/
theorem createSpawnSession_syncs {externals : SessionExternals}
    {request : CreateSpawnSessionRequest} {sessionId : String} {origin : SessionOrigin} {nowMs : ℕ}
    {session : SpawnSession}
    (h : createSpawnSessionWithSessionId externals request sessionId origin nowMs s =
      .ok session t) : ∃ u, Writes .creation s u ∧ t = u.syncPaymentPollJob nowMs := by
  have houtcome : outcome (createSpawnSessionWithSessionId externals request sessionId origin
      nowMs) s = .ok session := by
    rw [outcome, h]
  obtain rfl := (after_of_ok h).symm
  unfold createSpawnSessionWithSessionId at houtcome ⊢
  obtain ⟨request', hrequest, houtcome⟩ := outcome_bind_eq_ok.mp houtcome
  rw [after_bind_of_ok hrequest, after_ofExcept]
  rw [after_ofExcept] at houtcome
  obtain ⟨stored, hstored, -⟩ := outcome_bind_eq_ok.mp houtcome
  rw [after_bind_of_ok hstored]
  exact ⟨_, (writes_createSessionInState s).tail (.newClaim stored nowMs rfl), rfl⟩

/-- A write of a message keeps the poll scheduled. -/
theorem PollerSound.write {op : Op} (hs : PollerSound s) (h : FactoryStep libraries s op t) :
    PollerSound t := by
  have hconsistent : Consistent t := hs.consistent.step h
  obtain ⟨hfresh, rfl⟩ := h
  by_cases hkind : op.kind = .creation
  · cases op with
    | createSpawnSession request sessionId origin nowMs =>
      have hunused : Unused s sessionId := ⟨hfresh, hs.consistent.silent hfresh⟩
      rcases createSpawnSessionWithSessionId_cases libraries.toSessionExternals request origin
        nowMs hunused with ⟨e, hrun⟩ | ⟨session, t, hrun, -⟩
      · have happly : Op.apply libraries (.createSpawnSession request sessionId origin nowMs) s =
            s := after_of_error hrun
        rw [happly]
        exact hs
      · have happly : Op.apply libraries (.createSpawnSession request sessionId origin nowMs) s =
            t := after_of_ok hrun
        rw [happly] at hconsistent ⊢
        obtain ⟨u, hwrites, rfl⟩ := createSpawnSession_syncs hrun
        have hjobs : JobsSound u := hwrites.within (R := fun s t => JobsSound s → JobsSound t)
          (fun _ => id) (fun h h' => h' ∘ h) Write.jobsSound hs.jobs
        refine ⟨hconsistent, hjobs.syncPaymentPollJob nowMs, fun id hpoll => ?_⟩
        refine hjobs.scheduled_syncPaymentPollJob (pollRemainsActive_iff.mpr ⟨id, ?_⟩) nowMs
        exact hpoll.of_eq (sameButJobs_syncPaymentPollJob u nowMs).sessions_eq
    | _ => cases hkind
  · have hkeeps : JobsSound (op.apply libraries s) ∧ ∀ sessionId,
        NeedsPoll sessionId (op.apply libraries s) →
          Scheduled paymentPollJobId (op.apply libraries s) := by
      refine (writes_perform libraries op s).within
        (R := fun s t => (JobsSound s ∧ ∀ sessionId, NeedsPoll sessionId s →
          Scheduled paymentPollJobId s) → JobsSound t ∧ ∀ sessionId, NeedsPoll sessionId t →
            Scheduled paymentPollJobId t) (fun _ => id) (fun h h' => h' ∘ h) ?_
        ⟨hs.jobs, hs.scheduled⟩
      rintro s t hwrite ⟨hjobs, hscheduled⟩
      exact ⟨hwrite.jobsSound hjobs, fun _ => hwrite.poll_scheduled hkind hjobs hscheduled⟩
    exact ⟨hconsistent, hkeeps.1, hkeeps.2⟩

/-- Steps of the scheduler leave everything but jobs as it is. -/
theorem PollerSound.of_sameButJobs (hs : PollerSound s) (h : SameButJobs s t) (hjobs : JobsSound t)
    (hscheduled : s.pollRemainsActive = true → Scheduled paymentPollJobId s →
      Scheduled paymentPollJobId t) : PollerSound t where
  consistent := hs.consistent.evolves (Evolves.of_sameButJobs h)
  jobs := hjobs
  scheduled sessionId hpoll := by
    have hbefore : NeedsPoll sessionId s := hpoll.of_eq h.sessions_eq
    exact hscheduled (pollRemainsActive_iff.mpr ⟨sessionId, hbefore⟩)
      (hs.scheduled sessionId hbefore)

/-- The report of a poll schedules the next one while some session waits, whatever the poll
returned. -/
theorem PollerSound.reportPoll {f : SchedulerJob → SchedulerJob} (hs : PollerSound s)
    (hf : ∀ job, (f job).jobId = job.jobId ∧ (f job).kind = job.kind ∧
      (f job).leasedUntilMs = none)
    (hnext : ∀ job, job.kind = .paymentPoll → s.pollRemainsActive = true →
      (f job).nextRunAtMs.isSome = true) : PollerSound (s.updateJob paymentPollJobId f) := by
  refine hs.of_sameButJobs ⟨_, rfl⟩ (hs.jobs.report hf) fun hactive hscheduled => ?_
  obtain ⟨job, hjob, -⟩ := hscheduled
  have hkind : job.kind = .paymentPoll := (hs.jobs _ job hjob).poll.mpr rfl
  exact ⟨f job, by simp [hjob], hnext job hkind hactive⟩

/-- The report of another worker. -/
theorem PollerSound.reportSpawn {f : SchedulerJob → SchedulerJob} (hs : PollerSound s)
    (sessionId : String) (hf : ∀ job, (f job).jobId = job.jobId ∧ (f job).kind = job.kind ∧
      (f job).leasedUntilMs = none) : PollerSound (s.updateJob (spawnJobId sessionId) f) :=
  hs.of_sameButJobs ⟨_, rfl⟩ (hs.jobs.report hf) fun _ hscheduled =>
    hscheduled.updateJob_of_ne (spawnJobId_ne_paymentPollJobId sessionId)

/-- A failed poll is skipped or tried again after a delay, never given up. -/
theorem action_classifyPaymentPollError (errorText : FactoryError → String) (error : FactoryError)
    (nowMs : ℕ) : (classifyPaymentPollError errorText error nowMs).action = .backoff ∨
      (classifyPaymentPollError errorText error nowMs).action = .skip := by
  cases error <;> simp [classifyPaymentPollError]

/-- A poll whose prerequisites fail is skipped. -/
theorem action_paymentPollPrerequisiteFailure {nowMs : ℕ} {failure : SchedulerJobFailure}
    (h : paymentPollPrerequisiteFailure s nowMs = some failure) : failure.action = .skip := by
  unfold paymentPollPrerequisiteFailure baseRpcMissingOrInvalidFailure at h
  dsimp only at h
  split at h
  · rename_i failure' hfailure
    obtain rfl := Option.some.inj h
    split at hfailure
    · obtain rfl := Option.some.inj hfailure
      rfl
    · split at hfailure
      · obtain rfl := Option.some.inj hfailure
        rfl
      · cases hfailure
  · split at h
    · obtain rfl := Option.some.inj h
      rfl
    · cases h

/-- A poll that fails in one of these ways runs again while some session waits. -/
theorem nextRun_fail {failure : SchedulerJobFailure} {nowMs : ℕ} {job : SchedulerJob}
    (haction : failure.action = .backoff ∨ failure.action = .skip)
    (hkind : job.kind = .paymentPoll) (hactive : s.pollRemainsActive = true) :
    (job.fail s.pollRemainsActive failure nowMs).nextRunAtMs.isSome = true := by
  rcases haction with h | h
  · simp [h, nextRunAfterFailure]
  · simp [h, nextRunAfterFailure, hkind, hactive]

/-- One step keeps the poller sound. -/
theorem PollerSound.step {act : SchedulerAct} (hs : PollerSound s)
    (h : SchedulerStep libraries s act t) : PollerSound t := by
  obtain ⟨hfresh, rfl⟩ := h
  cases act with
  | write op => exact hs.write ⟨hfresh, rfl⟩
  | lease nowMs limit =>
    obtain ⟨hjobs, hkeeps⟩ := hs.jobs.leaseDueJobs nowMs limit
    exact hs.of_sameButJobs (sameButJobs_leaseDueJobs s nowMs limit) hjobs fun _ => hkeeps _
  | pollUnready nowMs =>
    simp only [SchedulerAct.apply]
    split
    · rename_i failure hfailure
      refine hs.reportPoll (fun job => ⟨rfl, rfl, rfl⟩) fun job hkind hactive => ?_
      exact nextRun_fail (.inr (action_paymentPollPrerequisiteFailure hfailure)) hkind hactive
    · exact hs
  | pollDone result startedMs nowMs =>
    cases result with
    | ok _ =>
      refine hs.reportPoll (fun job => ⟨rfl, rfl, rfl⟩) fun job hkind hactive => ?_
      simp [hkind, hactive]
    | error error =>
      refine hs.reportPoll (fun job => ⟨rfl, rfl, rfl⟩) fun job hkind hactive => ?_
      exact nextRun_fail (action_classifyPaymentPollError _ error startedMs) hkind hactive
  | spawnDone sessionId result startedMs nowMs =>
    cases result with
    | ok _ => exact hs.reportSpawn sessionId fun job => ⟨rfl, rfl, rfl⟩
    | error error => exact hs.reportSpawn sessionId fun job => ⟨rfl, rfl, rfl⟩

/-- In every state that the factory and its scheduler reach, while some session waits for its
payment the poll job is stored and has a next run. -/
theorem payment_poller_never_sleeps
    (hreach : Reachable FactoryState.IsIdle (SchedulerStep libraries) s)
    (hpoll : ∃ (sessionId : String) (session : SpawnSession), s.sessions[sessionId]? = some session ∧
      sessionNeedsPaymentPoll session = true) :
    ∃ job, s.schedulerJobs[paymentPollJobId]? = some job ∧ job.nextRunAtMs.isSome = true := by
  have hsound : PollerSound s :=
    hreach.invariant (fun _ => PollerSound.of_isIdle) fun _ _ _ hs hstep => hs.step hstep
  obtain ⟨sessionId, session, hsession, hneeds⟩ := hpoll
  exact hsound.scheduled sessionId ⟨session, hsession, hneeds⟩

/-- A creation of the sample. -/
def createAct (sessionId : String) (nowMs : ℕ) : SchedulerAct :=
  .write (.createSpawnSession sampleRequest sessionId humanOrigin nowMs)

/-- A session is created and the poll is leased. -/
def leasedPoll : FactoryState :=
  (SchedulerAct.lease 2 8).apply sampleLibraries
    ((createAct firstId 1).apply sampleLibraries .default)

/-- A second session is created under the lease, and the first one expires. -/
def lateSession : FactoryState :=
  (SchedulerAct.write (.expireSpawnSession firstId 1800002)).apply sampleLibraries
    ((createAct secondId 3).apply sampleLibraries leasedPoll)

/-- After the report of the worker the poll runs again for the second session. -/
theorem lateSession_polled : ∃ job,
    ((SchedulerAct.pollDone (.ok ()) 2 1800003).apply sampleLibraries
      lateSession).schedulerJobs[paymentPollJobId]? = some job ∧
        job.nextRunAtMs.isSome = true := by
  have hstart : Reachable FactoryState.IsIdle (SchedulerStep sampleLibraries) .default :=
    .start ⟨fun _ => ⟨by simp [FactoryState.default], by simp [FactoryState.default]⟩,
      fun _ => by simp [FactoryState.default]⟩
  have hfirst := hstart.step (a := createAct firstId 1)
    ⟨by simp [createAct, SchedulerAct.IsFresh, Op.IsFresh, FactoryState.default], rfl⟩
  have hleased : Reachable FactoryState.IsIdle (SchedulerStep sampleLibraries) leasedPoll :=
    hfirst.step (a := SchedulerAct.lease 2 8) ⟨trivial, rfl⟩
  have hunused : leasedPoll.sessions[secondId]?.isNone = true := by decide +kernel
  have hsecond := hleased.step (a := createAct secondId 3) ⟨Option.isNone_iff_eq_none.mp hunused,
    rfl⟩
  have hexpired : Reachable FactoryState.IsIdle (SchedulerStep sampleLibraries) lateSession :=
    hsecond.step (a := SchedulerAct.write (.expireSpawnSession firstId 1800002)) ⟨trivial, rfl⟩
  have hreported := hexpired.step (a := SchedulerAct.pollDone (.ok ()) 2 1800003) ⟨trivial, rfl⟩
  have hwaits : ((SchedulerAct.pollDone (.ok ()) 2 1800003).apply sampleLibraries
      lateSession).sessions[secondId]?.any sessionNeedsPaymentPoll = true := by decide +kernel
  obtain ⟨session, hsession, hpoll⟩ := (Option.any_eq_true _ _).mp hwaits
  exact payment_poller_never_sleeps hreported ⟨secondId, session, hsession, hpoll⟩

end Automaton.Factory
