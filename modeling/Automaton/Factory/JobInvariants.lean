import Automaton.Factory.JobLeases
import Automaton.Factory.SessionEvolution
import Automaton.Factory.Writes

/-!
# What the writes of the factory keep of scheduler jobs

A job is stored under its id with the kind of the id, and a job that has a lease has a next
run. Sessions enter and leave the states that jobs work on only together with the job.
-/

namespace Automaton.Factory

open Persist

/-- What holds of every stored job. -/
structure JobSound (jobId : String) (job : SchedulerJob) : Prop where
  id : job.jobId = jobId
  leased : job.leasedUntilMs.isSome = true → job.nextRunAtMs.isSome = true
  poll : job.kind = .paymentPoll ↔ jobId = paymentPollJobId
  spawn : ∀ sessionId, job.kind = .spawnExecution sessionId → jobId = spawnJobId sessionId

/-- Every stored job is sound. -/
def JobsSound (s : FactoryState) : Prop :=
  ∀ (jobId : String) job, s.schedulerJobs[jobId]? = some job → JobSound jobId job

/-- The job is stored and has a next run. -/
def Scheduled (jobId : String) (s : FactoryState) : Prop :=
  ∃ job, s.schedulerJobs[jobId]? = some job ∧ job.nextRunAtMs.isSome = true

/-- The session is paid for and waits for its spawn. -/
def Detected (sessionId : String) (s : FactoryState) : Prop :=
  ∃ session, s.sessions[sessionId]? = some session ∧ session.state = .paymentDetected

/-- The session waits for its payment. -/
def NeedsPoll (sessionId : String) (s : FactoryState) : Prop :=
  ∃ session, s.sessions[sessionId]? = some session ∧ sessionNeedsPaymentPoll session = true

/-- The ids of spawn jobs are not the id of the poll job. -/
theorem spawnJobId_ne_paymentPollJobId (sessionId : String) :
    spawnJobId sessionId ≠ paymentPollJobId := by
  intro h
  have hlist := congrArg (fun text => text.toList.head?) h
  simp [spawnJobId, paymentPollJobId] at hlist

section Jobs

variable {s t : FactoryState} {jobId other sessionId : String} {job : SchedulerJob} {nowMs : ℕ}

/-- A new spawn job is sound. -/
theorem jobSound_spawnExecutionJob : JobSound (spawnJobId sessionId)
    (spawnExecutionJob sessionId nowMs) := by
  refine ⟨rfl, fun _ => rfl, ?_, ?_⟩
  · simp [spawnExecutionJob, newJob, spawnJobId_ne_paymentPollJobId]
  · rintro other hkind
    cases hkind
    rfl

/-- A new poll job is sound. -/
theorem jobSound_paymentPollJob : JobSound paymentPollJobId (paymentPollJob nowMs) :=
  ⟨rfl, fun _ => rfl, by simp [paymentPollJob, newJob], nofun⟩

/-- Only what is stored under the id differs after a job is stored. -/
theorem getElem?_putJob : (s.putJob jobId job).schedulerJobs[other]? =
    if jobId = other then some job else s.schedulerJobs[other]? :=
  BTreeMap.get?_insert

/-- Storing a sound job. -/
theorem JobsSound.putJob (h : JobsSound s) (hjob : JobSound jobId job) :
    JobsSound (s.putJob jobId job) := by
  intro other stored hstored
  rw [getElem?_putJob] at hstored
  split at hstored
  · rename_i heq
    subst heq
    obtain rfl := Option.some.inj hstored
    exact hjob
  · exact h other stored hstored

/-- Changing a stored job. -/
theorem JobsSound.updateJob {f : SchedulerJob → SchedulerJob} (h : JobsSound s)
    (hf : ∀ job, s.schedulerJobs[jobId]? = some job → JobSound jobId job →
      JobSound jobId (f job)) : JobsSound (s.updateJob jobId f) := by
  intro other stored hstored
  rw [FactoryState.updateJob_schedulerJobs, BTreeMap.get?_modify] at hstored
  split at hstored
  · rename_i heq
    subst heq
    obtain ⟨job, hjob, rfl⟩ := Option.map_eq_some_iff.mp hstored
    exact hf job hjob (h jobId job hjob)
  · exact h other stored hstored

/-- The state has another set of jobs, all sound. -/
theorem JobsSound.of_eq (h : JobsSound s) (hjobs : t.schedulerJobs = s.schedulerJobs) :
    JobsSound t := by
  intro jobId job hjob
  rw [hjobs] at hjob
  exact h jobId job hjob

theorem Scheduled.of_eq (h : Scheduled jobId s) (hjobs : t.schedulerJobs = s.schedulerJobs) :
    Scheduled jobId t := by
  obtain ⟨job, hjob, hnext⟩ := h
  exact ⟨job, by rw [hjobs]; exact hjob, hnext⟩

/-- The job that scheduling a spawn finds or makes is sound. -/
theorem JobsSound.spawnJob (h : JobsSound s) (sessionId : String) (nowMs : ℕ) :
    JobSound (spawnJobId sessionId)
      (s.schedulerJobs[spawnJobId sessionId]?.getD (spawnExecutionJob sessionId nowMs)) := by
  cases hjob : s.schedulerJobs[spawnJobId sessionId]? with
  | none => exact jobSound_spawnExecutionJob
  | some job => exact h _ job hjob

/-- A live lease is a lease. -/
theorem leased_of_live (h : jobHasLiveLease job nowMs = true) : job.leasedUntilMs.isSome = true := by
  unfold jobHasLiveLease at h
  split at h
  · rename_i hleased
    rw [hleased]
    rfl
  · cases h

/-- Scheduling a spawn keeps the jobs sound. -/
theorem JobsSound.enqueueSpawnExecution (h : JobsSound s) (sessionId : String) (nowMs : ℕ) :
    JobsSound (s.enqueueSpawnExecution sessionId nowMs) := by
  have hjob := h.spawnJob sessionId nowMs
  unfold FactoryState.enqueueSpawnExecution
  dsimp only
  split
  · exact h.putJob hjob
  · exact h.putJob ⟨hjob.id, fun _ => rfl, hjob.poll, hjob.spawn⟩

/-- Scheduling a spawn schedules its job. Under a live lease it has a next run already. -/
theorem JobsSound.scheduled_enqueue (h : JobsSound s) (sessionId : String) (nowMs : ℕ) :
    Scheduled (spawnJobId sessionId) (s.enqueueSpawnExecution sessionId nowMs) := by
  have hjob := h.spawnJob sessionId nowMs
  unfold FactoryState.enqueueSpawnExecution
  dsimp only
  split
  · rename_i hlive
    refine ⟨_, by rw [getElem?_putJob, if_pos rfl], hjob.leased (leased_of_live hlive)⟩
  · exact ⟨_, by rw [getElem?_putJob, if_pos rfl], rfl⟩

/-- Scheduling a spawn leaves every other job as it is. -/
theorem getElem?_enqueueSpawnExecution_of_ne (h : spawnJobId sessionId ≠ jobId) :
    (s.enqueueSpawnExecution sessionId nowMs).schedulerJobs[jobId]? = s.schedulerJobs[jobId]? := by
  unfold FactoryState.enqueueSpawnExecution
  dsimp only
  split <;> rw [getElem?_putJob, if_neg h]

/-- Scheduling a spawn unschedules nothing. -/
theorem Scheduled.enqueueSpawnExecution (h : Scheduled jobId s) (hsound : JobsSound s)
    (sessionId : String) (nowMs : ℕ) :
    Scheduled jobId (s.enqueueSpawnExecution sessionId nowMs) := by
  by_cases hid : spawnJobId sessionId = jobId
  · subst hid
    exact hsound.scheduled_enqueue sessionId nowMs
  · obtain ⟨job, hjob, hnext⟩ := h
    exact ⟨job, by rw [getElem?_enqueueSpawnExecution_of_ne hid, hjob], hnext⟩

/-- Refreshing the poll job keeps the jobs sound. -/
theorem JobsSound.syncPaymentPollJob (h : JobsSound s) (nowMs : ℕ) :
    JobsSound (s.syncPaymentPollJob nowMs) := by
  have hjob : JobSound paymentPollJobId
      (s.schedulerJobs[paymentPollJobId]?.getD (paymentPollJob nowMs)) := by
    cases hstored : s.schedulerJobs[paymentPollJobId]? with
    | none => exact jobSound_paymentPollJob
    | some job => exact h _ job hstored
  unfold FactoryState.syncPaymentPollJob
  split
  · dsimp only
    split
    · exact h.putJob hjob
    · exact h.putJob ⟨hjob.id, fun _ => rfl, hjob.poll, hjob.spawn⟩
  · split
    · exact h
    · rename_i job hstored
      split
      · exact h
      · exact h.putJob ⟨(h _ job hstored).id, nofun, (h _ job hstored).poll,
          (h _ job hstored).spawn⟩

/-- Refreshing the poll job leaves the other jobs as they are. -/
theorem getElem?_syncPaymentPollJob_of_ne (h : paymentPollJobId ≠ jobId) :
    (s.syncPaymentPollJob nowMs).schedulerJobs[jobId]? = s.schedulerJobs[jobId]? := by
  unfold FactoryState.syncPaymentPollJob
  split
  · dsimp only
    split <;> rw [getElem?_putJob, if_neg h]
  · split
    · rfl
    · split
      · rfl
      · rw [getElem?_putJob, if_neg h]

/-- Some session waits exactly when the poll is active. -/
theorem pollRemainsActive_iff : s.pollRemainsActive = true ↔ ∃ sessionId, NeedsPoll sessionId s := by
  unfold FactoryState.pollRemainsActive
  rw [List.any_eq_true]
  constructor
  · rintro ⟨⟨sessionId, session⟩, hmem, hpoll⟩
    exact ⟨sessionId, session, Std.ExtTreeMap.mem_toList_iff_getElem?_eq_some.mp hmem, hpoll⟩
  · rintro ⟨sessionId, session, hsession, hpoll⟩
    exact ⟨(sessionId, session), Std.ExtTreeMap.mem_toList_iff_getElem?_eq_some.mpr hsession,
      hpoll⟩

/-- While some session waits, refreshing the poll job schedules it. Under a live lease it has
a next run already. -/
theorem JobsSound.scheduled_syncPaymentPollJob (h : JobsSound s)
    (hactive : s.pollRemainsActive = true) (nowMs : ℕ) :
    Scheduled paymentPollJobId (s.syncPaymentPollJob nowMs) := by
  unfold FactoryState.syncPaymentPollJob
  unfold FactoryState.pollRemainsActive at hactive
  rw [if_pos hactive]
  dsimp only
  split
  · rename_i hlive
    refine ⟨_, by rw [getElem?_putJob, if_pos rfl], ?_⟩
    cases hstored : s.schedulerJobs[paymentPollJobId]? with
    | none => rfl
    | some job =>
      rw [hstored] at hlive
      exact (h _ job hstored).leased (leased_of_live hlive)
  · exact ⟨_, by rw [getElem?_putJob, if_pos rfl], rfl⟩

end Jobs

section Writes

variable {s t : FactoryState} {sessionId : String} {kind : OpKind} {nowMs : ℕ}
  {actor : SessionAuditActor} {event : SpawnSessionEvent} {reason : String}

/-- Events touch no job. -/
theorem schedulerJobs_applySessionEventInState :
    (after (applySessionEventInState sessionId actor nowMs event reason) s).schedulerJobs =
      s.schedulerJobs := by
  rcases applySessionEventInState_cases sessionId actor nowMs event reason s with
    ⟨e, hrun⟩ | ⟨session, hrun, -⟩ | ⟨session, transition, -, -, hrun⟩
  · rw [after_of_error hrun]
  · rw [after_of_ok hrun]
  · rw [after_of_ok hrun]
    rfl

/-- Scheduling a spawn depends on the jobs alone. -/
theorem schedulerJobs_enqueue_congr (hjobs : t.schedulerJobs = s.schedulerJobs) :
    (t.enqueueSpawnExecution sessionId nowMs).schedulerJobs =
      (s.enqueueSpawnExecution sessionId nowMs).schedulerJobs := by
  unfold FactoryState.enqueueSpawnExecution
  rw [hjobs]
  dsimp only
  split <;> simp [hjobs]

/-- An event that is followed by scheduling the spawn is refused, or the spawn is scheduled. -/
theorem eventThenEnqueue_cases {α : Type} {f : SpawnSession → Update α}
    (hf : ∀ session u, after (f session) u = u.enqueueSpawnExecution sessionId nowMs) :
    after (applySessionEventInState sessionId actor nowMs event reason >>= f) s = s ∨
    (after (applySessionEventInState sessionId actor nowMs event reason >>= f) s).schedulerJobs =
      (s.enqueueSpawnExecution sessionId nowMs).schedulerJobs := by
  rcases applySessionEventInState_cases sessionId actor nowMs event reason s with
    ⟨e, hrun⟩ | ⟨session, hrun, -⟩ | ⟨session, transition, -, -, hrun⟩
  · left
    rw [after_bind_of_error (by rw [outcome, hrun]), after_of_error hrun]
  · right
    rw [after_bind_of_ok (by rw [outcome, hrun]), hf, after_of_ok hrun]
  · right
    rw [after_bind_of_ok (by rw [outcome, hrun]), hf, after_of_ok hrun]
    exact schedulerJobs_enqueue_congr rfl

/-- Deriving the flags keeps state and payment status. -/
theorem syncSessionDerivedFlagsInState_cases (sessionId : String) (nowMs : ℕ) (s : FactoryState) :
    after (syncSessionDerivedFlagsInState sessionId nowMs) s = s ∨
    ∃ session, s.sessions[sessionId]? = some session ∧
      after (syncSessionDerivedFlagsInState sessionId nowMs) s =
        (s.updateSession sessionId fun _ => session.withDerivedFlags nowMs).updateClaim sessionId
          (·.withRefundable (deriveRefundable session) nowMs) := by
  cases hsession : s.sessions[sessionId]? with
  | none =>
    left
    rw [syncSessionDerivedFlagsInState, after_bind_of_error (by
      rw [outcome, run_getSession_none hsession]), after_getSession]
  | some session =>
    exact .inr ⟨session, rfl, after_of_ok (run_syncSessionDerivedFlagsInState hsession)⟩

/-- What an elementary write does to the jobs. -/
theorem Write.jobs_cases (h : Write kind s t) : t.schedulerJobs = s.schedulerJobs ∨
    (∃ sessionId nowMs, t.schedulerJobs =
      (s.enqueueSpawnExecution sessionId nowMs).schedulerJobs) ∨
    ∃ nowMs, t = s.syncPaymentPollJob nowMs := by
  cases h with
  | event id actor nowMs reason hevent hfailed => exact .inl schedulerJobs_applySessionEventInState
  | created id actor nowMs reason hkind => exact .inl schedulerJobs_applySessionEventInState
  | retry id actor nowMs reason =>
    rcases eventThenEnqueue_cases (f := fun session : SpawnSession => do
      modify (·.enqueueSpawnExecution id nowMs)
      return session) (fun _ _ => rfl) with heq | hjobs
    · exact .inl (congrArg _ heq)
    · exact .inr (.inl ⟨id, nowMs, hjobs⟩)
  | detect id nowMs hkind =>
    rcases eventThenEnqueue_cases (f := fun _ : SpawnSession =>
      (modify (·.enqueueSpawnExecution id nowMs) : Update PUnit)) (fun _ _ => rfl) with heq | hjobs
    · exact .inl (congrArg _ heq)
    · exact .inr (.inl ⟨id, nowMs, hjobs⟩)
  | flags id nowMs hnow =>
    left
    rcases syncSessionDerivedFlagsInState_cases id nowMs s with heq | ⟨session, -, heq⟩
    · rw [heq]
    · rw [heq]
      rfl
  | enqueue id nowMs => exact .inr (.inl ⟨id, nowMs, rfl⟩)
  | pollJob nowMs => exact .inr (.inr ⟨nowMs, rfl⟩)
  | _ => exact .inl rfl

/-- After an accepted event the session is in the state that the event leads to. -/
theorem getElem?_entered_cases {session : SpawnSession} {transition : EventTransition}
    {other : String} {session' : SpawnSession} (hsession : s.sessions[sessionId]? = some session)
    (h : (s.entered sessionId session transition actor nowMs reason).sessions[other]? =
      some session') :
    (other = sessionId ∧ session'.state = transition.toState ∧
      session'.paymentStatus = session.paymentStatus) ∨
    other ≠ sessionId ∧ s.sessions[other]? = some session' := by
  by_cases hother : other = sessionId
  · subst hother
    rw [getElem?_entered hsession] at h
    obtain rfl := Option.some.inj h
    exact .inl ⟨rfl, rfl, rfl⟩
  · exact .inr ⟨hother, ((onlySession_entered s sessionId session transition actor nowMs
      reason).sessions other hother).symm.trans h⟩

/-- No event makes a session wait for its payment that did not before. -/
theorem needsPoll_of_event {other : String}
    (h : NeedsPoll other
      (after (applySessionEventInState sessionId actor nowMs event reason) s)) :
    NeedsPoll other s := by
  rcases applySessionEventInState_cases sessionId actor nowMs event reason s with
    ⟨e, hrun⟩ | ⟨session, hrun, -⟩ | ⟨session, transition, hsession, htransition, hrun⟩
  · rwa [after_of_error hrun] at h
  · rwa [after_of_ok hrun] at h
  · rw [after_of_ok hrun] at h
    obtain ⟨session', hsession', hpoll⟩ := h
    rcases getElem?_entered_cases hsession hsession' with ⟨rfl, hstate, hstatus⟩ | ⟨-, hsame⟩
    · refine ⟨session, hsession, ?_⟩
      have hawaiting := state_of_needsPaymentPoll hpoll
      -- Only the event of a creation leads to this state, and from this state.
      rcases eventTransition_cases htransition with h | h | h | h | h | h | h | h <;>
        simp_all [sessionNeedsPaymentPoll]
    · exact ⟨session', hsame, hpoll⟩

/-- Only payments and retries make a session ready for its spawn. -/
theorem detected_of_event {other : String} (hevent : event ≠ .paymentObserved)
    (hevent' : event ≠ .retryRequested)
    (h : Detected other
      (after (applySessionEventInState sessionId actor nowMs event reason) s)) :
    Detected other s := by
  rcases applySessionEventInState_cases sessionId actor nowMs event reason s with
    ⟨e, hrun⟩ | ⟨session, hrun, -⟩ | ⟨session, transition, hsession, htransition, hrun⟩
  · rwa [after_of_error hrun] at h
  · rwa [after_of_ok hrun] at h
  · rw [after_of_ok hrun] at h
    obtain ⟨session', hsession', hdetected⟩ := h
    rcases getElem?_entered_cases hsession hsession' with ⟨rfl, hstate, hstatus⟩ | ⟨-, hsame⟩
    · rcases eventTransition_cases htransition with h | h | h | h | h | h | h | h <;> simp_all
    · exact ⟨session', hsame, hdetected⟩

/-- The sessions after a write to one of them. -/
theorem getElem?_updateSession_cases {f : SpawnSession → SpawnSession} {other : String}
    {session' : SpawnSession}
    (h : (s.updateSession sessionId f).sessions[other]? = some session') :
    (other = sessionId ∧ ∃ session, s.sessions[sessionId]? = some session ∧ session' = f session) ∨
    other ≠ sessionId ∧ s.sessions[other]? = some session' := by
  rw [FactoryState.updateSession_sessions, BTreeMap.get?_modify] at h
  split at h
  · rename_i heq
    subst heq
    obtain ⟨session, hsession, rfl⟩ := Option.map_eq_some_iff.mp h
    exact .inl ⟨rfl, session, hsession, rfl⟩
  · rename_i hne
    exact .inr ⟨Ne.symm hne, h⟩

/-- An event that is followed by scheduling the spawn leaves the sessions of the event. -/
theorem sessions_eventThenEnqueue {α : Type} {f : SpawnSession → Update α}
    (hf : ∀ session u, after (f session) u = u.enqueueSpawnExecution sessionId nowMs) :
    (after (applySessionEventInState sessionId actor nowMs event reason >>= f) s).sessions =
      (after (applySessionEventInState sessionId actor nowMs event reason) s).sessions := by
  cases hrun : outcome (applySessionEventInState sessionId actor nowMs event reason) s with
  | error e => rw [after_bind_of_error hrun]
  | ok session =>
    rw [after_bind_of_ok hrun, hf]
    obtain ⟨jobs, hjobs⟩ := sameButJobs_enqueueSpawnExecution
      (after (applySessionEventInState sessionId actor nowMs event reason) s) sessionId nowMs
    rw [hjobs]

theorem NeedsPoll.of_eq {sessionId : String} (h : NeedsPoll sessionId t)
    (hsessions : t.sessions = s.sessions) : NeedsPoll sessionId s := by
  obtain ⟨session, hsession, hpoll⟩ := h
  exact ⟨session, hsessions ▸ hsession, hpoll⟩

theorem Detected.of_eq {sessionId : String} (h : Detected sessionId t)
    (hsessions : t.sessions = s.sessions) : Detected sessionId s := by
  obtain ⟨session, hsession, hdetected⟩ := h
  exact ⟨session, hsessions ▸ hsession, hdetected⟩

/-- Scheduling touches no session. -/
theorem SameButJobs.sessions_eq (h : SameButJobs s t) : t.sessions = s.sessions := by
  obtain ⟨jobs, rfl⟩ := h
  rfl

/-- A write to a session that does not make it wait. -/
theorem NeedsPoll.of_updateSession {other : String} {f : SpawnSession → SpawnSession}
    (h : NeedsPoll other (s.updateSession sessionId f))
    (hf : ∀ session, s.sessions[sessionId]? = some session →
      sessionNeedsPaymentPoll (f session) = true → sessionNeedsPaymentPoll session = true) :
    NeedsPoll other s := by
  obtain ⟨session', hsession', hpoll⟩ := h
  rcases getElem?_updateSession_cases hsession' with ⟨rfl, session, hsession, rfl⟩ | ⟨-, hsame⟩
  · exact ⟨session, hsession, hf session hsession hpoll⟩
  · exact ⟨session', hsame, hpoll⟩

/-- A write to a session that keeps its state. -/
theorem Detected.of_updateSession {other : String} {f : SpawnSession → SpawnSession}
    (h : Detected other (s.updateSession sessionId f))
    (hf : ∀ session, s.sessions[sessionId]? = some session → (f session).state = session.state) :
    Detected other s := by
  obtain ⟨session', hsession', hstate⟩ := h
  rcases getElem?_updateSession_cases hsession' with ⟨rfl, session, hsession, rfl⟩ | ⟨-, hsame⟩
  · exact ⟨session, hsession, (hf session hsession).symm.trans hstate⟩
  · exact ⟨session', hsame, hstate⟩

/-- An event with its scheduling is refused, or schedules its own session, or leaves the
session as it is. -/
theorem detected_of_eventThenEnqueue {α : Type} {f : SpawnSession → Update α} {other : String}
    (hf : ∀ session u, after (f session) u = u.enqueueSpawnExecution sessionId nowMs)
    (h : Detected other
      (after (applySessionEventInState sessionId actor nowMs event reason >>= f) s)) :
    Detected other s ∨ ∃ nowMs',
      (after (applySessionEventInState sessionId actor nowMs event reason >>= f) s).schedulerJobs =
        (s.enqueueSpawnExecution other nowMs').schedulerJobs := by
  rcases eventThenEnqueue_cases hf with heq | hjobs
  · rw [heq] at h
    exact .inl h
  · by_cases hother : other = sessionId
    · subst hother
      exact .inr ⟨nowMs, hjobs⟩
    · left
      obtain ⟨session, hsession, hstate⟩ := h.of_eq (sessions_eventThenEnqueue hf)
      have honly : OnlySession sessionId s
          (after (applySessionEventInState sessionId actor nowMs event reason) s) :=
        within_applySessionEventInState s
      exact ⟨session, (honly.sessions other hother).symm.trans hsession, hstate⟩

/-- No elementary write makes a session wait for its payment that did not before, but the
storing of a new one. -/
theorem Write.needsPoll (h : Write kind s t) (hkind : kind ≠ .creation) {other : String}
    (hpoll : NeedsPoll other t) : NeedsPoll other s := by
  cases h with
  | event id actor nowMs reason hevent hfailed => exact needsPoll_of_event hpoll
  | created id actor nowMs reason hkind' => exact absurd hkind' hkind
  | retry id actor nowMs reason =>
    exact needsPoll_of_event (hpoll.of_eq (sessions_eventThenEnqueue fun _ _ => rfl))
  | detect id nowMs hkind' =>
    exact needsPoll_of_event (hpoll.of_eq (sessions_eventThenEnqueue fun _ _ => rfl))
  | payment id payment scanToBlock nowMs hkind' hwaits =>
    exact hpoll.of_updateSession fun session hsession _ => hwaits session hsession
  | flags id nowMs hnow =>
    rcases syncSessionDerivedFlagsInState_cases id nowMs s with heq | ⟨session, hsession, heq⟩
    · rwa [heq] at hpoll
    · rw [heq] at hpoll
      have hflags : NeedsPoll other (s.updateSession id fun _ => session.withDerivedFlags nowMs) :=
        hpoll
      refine hflags.of_updateSession fun session' hsession' hpoll' => ?_
      obtain rfl := Option.some.inj (hsession.symm.trans hsession')
      exact hpoll'
  | session id f hf =>
    refine hpoll.of_updateSession fun session _ hpoll' => ?_
    rw [sessionNeedsPaymentPoll, (hf session).state, (hf session).paymentStatus] at hpoll'
    exact hpoll'
  | refund id session nowMs hsession =>
    have hrefunded : NeedsPoll other
        (s.updateSession id fun _ => (session.markRefunded nowMs).withDerivedFlags nowMs) :=
      hpoll.of_eq (s.refunded_sessions session)
    refine hrefunded.of_updateSession fun session' _ hpoll' => ?_
    simp [sessionNeedsPaymentPoll] at hpoll'
  | enqueue id nowMs =>
    exact hpoll.of_eq (sameButJobs_enqueueSpawnExecution s id nowMs).sessions_eq
  | pollJob nowMs => exact hpoll.of_eq (sameButJobs_syncPaymentPollJob s nowMs).sessions_eq
  | newSession session hkind' hstate hretryable => exact absurd hkind' hkind
  | _ => exact hpoll

/-- A session becomes ready for its spawn together with its job. -/
theorem Write.detected (h : Write kind s t) {other : String} (hdetected : Detected other t) :
    Detected other s ∨ ∃ nowMs, t.schedulerJobs =
      (s.enqueueSpawnExecution other nowMs).schedulerJobs := by
  have hcreated : SpawnSessionEvent.sessionCreated ≠ .paymentObserved ∧
      SpawnSessionEvent.sessionCreated ≠ .retryRequested := by decide
  cases h with
  | event id actor nowMs reason hevent hfailed =>
    exact .inl (detected_of_event hevent.2.1 hevent.2.2 hdetected)
  | created id actor nowMs reason hkind => 
    exact .inl (detected_of_event hcreated.1 hcreated.2 hdetected)
  | retry id actor nowMs reason => exact detected_of_eventThenEnqueue (fun _ _ => rfl) hdetected
  | detect id nowMs hkind => exact detected_of_eventThenEnqueue (fun _ _ => rfl) hdetected
  | payment id payment scanToBlock nowMs hkind hwaits =>
    exact .inl (hdetected.of_updateSession fun _ _ => rfl)
  | flags id nowMs hnow =>
    left
    rcases syncSessionDerivedFlagsInState_cases id nowMs s with heq | ⟨session, hsession, heq⟩
    · rwa [heq] at hdetected
    · rw [heq] at hdetected
      have hflags : Detected other (s.updateSession id fun _ => session.withDerivedFlags nowMs) :=
        hdetected
      refine hflags.of_updateSession fun session' hsession' => ?_
      obtain rfl := Option.some.inj (hsession.symm.trans hsession')
      rfl
  | session id f hf => exact .inl (hdetected.of_updateSession fun session _ => (hf session).state)
  | refund id session nowMs hsession =>
    left
    have hrefunded : Detected other
        (s.updateSession id fun _ => (session.markRefunded nowMs).withDerivedFlags nowMs) :=
      hdetected.of_eq (s.refunded_sessions session)
    refine hrefunded.of_updateSession fun session' hsession' => ?_
    obtain rfl := Option.some.inj (hsession.symm.trans hsession')
    rfl
  | enqueue id nowMs =>
    exact .inl (hdetected.of_eq (sameButJobs_enqueueSpawnExecution s id nowMs).sessions_eq)
  | pollJob nowMs =>
    exact .inl (hdetected.of_eq (sameButJobs_syncPaymentPollJob s nowMs).sessions_eq)
  | newSession session hkind hstate hretryable =>
    left
    obtain ⟨session', hsession', hdetected'⟩ := hdetected
    rw [FactoryState.insertSession_sessions, BTreeMap.get?_insert] at hsession'
    split at hsession'
    · obtain rfl := Option.some.inj hsession'
      rw [hstate] at hdetected'
      cases hdetected'
    · exact ⟨session', hsession', hdetected'⟩
  | _ => exact .inl hdetected

/-- Elementary writes keep the jobs sound. -/
theorem Write.jobsSound (h : Write kind s t) (hs : JobsSound s) : JobsSound t := by
  rcases h.jobs_cases with hjobs | ⟨sessionId, nowMs, hjobs⟩ | ⟨nowMs, rfl⟩
  · exact hs.of_eq hjobs
  · exact (hs.enqueueSpawnExecution sessionId nowMs).of_eq hjobs
  · exact hs.syncPaymentPollJob nowMs

/-- Elementary writes unschedule no spawn. -/
theorem Write.scheduled_spawn (h : Write kind s t) (hs : JobsSound s)
    (hscheduled : Scheduled (spawnJobId sessionId) s) : Scheduled (spawnJobId sessionId) t := by
  rcases h.jobs_cases with hjobs | ⟨other, nowMs, hjobs⟩ | ⟨nowMs, rfl⟩
  · exact hscheduled.of_eq hjobs
  · exact (hscheduled.enqueueSpawnExecution hs other nowMs).of_eq hjobs
  · obtain ⟨job, hjob, hnext⟩ := hscheduled
    refine ⟨job, ?_, hnext⟩
    rw [getElem?_syncPaymentPollJob_of_ne (spawnJobId_ne_paymentPollJobId sessionId).symm, hjob]

end Writes

section Leases

variable {s : FactoryState} {jobId : String} {nowMs limit : ℕ}

/-- Leases touch jobs only. -/
theorem sameButJobs_leaseDueJobs (s : FactoryState) (nowMs limit : ℕ) :
    SameButJobs s (s.leaseDueJobs nowMs limit) := by
  unfold FactoryState.leaseDueJobs
  generalize dueJobIds s nowMs limit = ids
  induction ids generalizing s with
  | nil => exact ⟨_, rfl⟩
  | cons id ids ih =>
    obtain ⟨jobs, hjobs⟩ := ih (s.updateJob id (·.lease nowMs))
    exact ⟨jobs, hjobs⟩

/-- The jobs that a tick leases are stored and due. -/
theorem JobsSound.due_of_mem (hs : JobsSound s) (h : jobId ∈ dueJobIds s nowMs limit) :
    ∃ job, s.schedulerJobs[jobId]? = some job ∧ jobIsDue job nowMs = true := by
  unfold dueJobIds at h
  obtain ⟨key, hkey, rfl⟩ := List.mem_map.mp h
  have hsorted := (List.mem_insertionSort _).mp (List.mem_of_mem_take hkey)
  obtain ⟨job, hjob, rfl⟩ := List.mem_map.mp hsorted
  obtain ⟨hmem, hdue⟩ := List.mem_filter.mp hjob
  obtain ⟨⟨id, job'⟩, hentry, rfl⟩ := List.mem_map.mp hmem
  have hstored := Std.ExtTreeMap.mem_toList_iff_getElem?_eq_some.mp hentry
  refine ⟨job', ?_, hdue⟩
  rw [(hs id job' hstored).id, hstored]

/-- A lease keeps the next run of every job. -/
theorem Scheduled.lease {leased : String} (h : Scheduled jobId s) :
    Scheduled jobId (s.updateJob leased (·.lease nowMs)) := by
  obtain ⟨job, hjob, hnext⟩ := h
  by_cases hid : leased = jobId
  · subst hid
    exact ⟨job.lease nowMs, by simp [hjob], hnext⟩
  · exact ⟨job, by simp [BTreeMap.get?_modify, hid, hjob], hnext⟩

/-- A tick leases jobs that have a next run, so the jobs stay sound, and unschedules none. -/
theorem JobsSound.leaseDueJobs (hs : JobsSound s) (nowMs limit : ℕ) :
    JobsSound (s.leaseDueJobs nowMs limit) ∧
      ∀ jobId, Scheduled jobId s → Scheduled jobId (s.leaseDueJobs nowMs limit) := by
  have hdue : ∀ id ∈ dueJobIds s nowMs limit, Scheduled id s := by
    intro id hid
    obtain ⟨job, hjob, hdue⟩ := hs.due_of_mem hid
    refine ⟨job, hjob, ?_⟩
    unfold jobIsDue at hdue
    cases hnext : job.nextRunAtMs with
    | none => simp [hnext] at hdue
    | some next => rfl
  unfold FactoryState.leaseDueJobs
  generalize dueJobIds s nowMs limit = ids at hdue
  induction ids generalizing s with
  | nil => exact ⟨hs, fun _ h => h⟩
  | cons id ids ih =>
    have hsound : JobsSound (s.updateJob id (·.lease nowMs)) := by
      refine hs.updateJob fun job hjob hsoundJob =>
        ⟨hsoundJob.id, fun _ => ?_, hsoundJob.poll, hsoundJob.spawn⟩
      obtain ⟨job', hjob', hnext⟩ := hdue id List.mem_cons_self
      obtain rfl := Option.some.inj (hjob.symm.trans hjob')
      exact hnext
    obtain ⟨hsound', hkeeps⟩ := ih hsound fun other hother =>
      (hdue other (List.mem_cons_of_mem _ hother)).lease
    exact ⟨hsound', fun jobId h => hkeeps jobId h.lease⟩

/-- A report of a worker keeps the jobs sound: it removes the lease. -/
theorem JobsSound.report {f : SchedulerJob → SchedulerJob} (hs : JobsSound s)
    (hf : ∀ job, (f job).jobId = job.jobId ∧ (f job).kind = job.kind ∧
      (f job).leasedUntilMs = none) : JobsSound (s.updateJob jobId f) := by
  refine hs.updateJob fun job _ hsound => ?_
  obtain ⟨hid, hkind, hlease⟩ := hf job
  refine ⟨hid.trans hsound.id, ?_, by rw [hkind]; exact hsound.poll,
    by rw [hkind]; exact hsound.spawn⟩
  rw [hlease]
  nofun

/-- Reports of other workers leave a job as it is. -/
theorem Scheduled.updateJob_of_ne {other : String} {f : SchedulerJob → SchedulerJob}
    (h : Scheduled jobId s) (hne : other ≠ jobId) : Scheduled jobId (s.updateJob other f) := by
  obtain ⟨job, hjob, hnext⟩ := h
  exact ⟨job, by simp [BTreeMap.get?_modify, hne, hjob], hnext⟩

end Leases

end Automaton.Factory
