import Automaton.Factory.SpawnWorkers

/-!
# Spawn jobs of paid sessions

While no job is leased that a worker still works on, every session that is paid for and waits
for its spawn has a job with a next run. A worker that awaits a call has moved its session on,
so its report unschedules no job that a session waits for.
-/

namespace Automaton.Factory

open Persist Transition

section Begun

variable {kind : OpKind} {s t : FactoryState} {sessionId other : String} {nowMs : ℕ}
  {actor : SessionAuditActor} {event : SpawnSessionEvent} {reason : String}

/-- The spawn of the session has begun and has not failed. -/
def Begun (sessionId : String) (s : FactoryState) : Prop :=
  ∃ session, s.sessions[sessionId]? = some session ∧ session.state ≠ .awaitingPayment ∧
    session.state ≠ .paymentDetected ∧ session.state ≠ .failed

theorem Begun.of_stored (h : Begun sessionId s)
    (hstored : t.sessions[sessionId]? = s.sessions[sessionId]?) : Begun sessionId t := by
  unfold Begun
  rwa [hstored]

theorem Begun.of_eq (h : Begun sessionId s) (hsessions : t.sessions = s.sessions) :
    Begun sessionId t :=
  h.of_stored (by rw [hsessions])

/-- Such a session is not ready for its spawn. -/
theorem Begun.not_detected (h : Begun sessionId s) : ¬ Detected sessionId s := by
  rintro ⟨session, hsession, hdetected⟩
  obtain ⟨session', hsession', -, hstate, -⟩ := h
  obtain rfl := Option.some.inj (hsession.symm.trans hsession')
  exact hstate hdetected

/-- A write to a session that keeps its state. -/
theorem Begun.updateSession {f : SpawnSession → SpawnSession} (h : Begun sessionId s)
    (hf : ∀ session, s.sessions[other]? = some session → (f session).state = session.state) :
    Begun sessionId (s.updateSession other f) := by
  obtain ⟨session, hsession, hstate⟩ := h
  by_cases hother : other = sessionId
  · subst hother
    refine ⟨f session, by simp [hsession], ?_⟩
    rwa [hf session hsession]
  · exact ⟨session, by simp [BTreeMap.get?_modify, hother, hsession], hstate⟩

/-- Events lead on, but for a failure. -/
theorem Begun.after_event (h : Begun sessionId s) (hevent : event ≠ .spawnFailed) :
    Begun sessionId
      (after (applySessionEventInState other actor nowMs event reason) s) := by
  by_cases hother : sessionId = other
  · subst hother
    rcases applySessionEventInState_cases sessionId actor nowMs event reason s with
      ⟨e, hrun⟩ | ⟨session, hrun, -⟩ | ⟨session, transition, hsession, htransition, hrun⟩
    · rwa [after_of_error hrun]
    · rwa [after_of_ok hrun]
    · rw [after_of_ok hrun]
      obtain ⟨session', hsession', hstate⟩ := h
      obtain rfl := Option.some.inj (hsession.symm.trans hsession')
      refine ⟨_, getElem?_entered hsession, ?_⟩
      rcases eventTransition_cases htransition with h | h | h | h | h | h | h | h <;> simp_all
  · exact h.of_stored ((within_applySessionEventInState s).sessions sessionId hother)

/-- Elementary writes do not undo a spawn that has begun. -/
theorem Write.begun (h : Write kind s t) (hcreation : kind ≠ .creation) (hfailure : kind ≠ .failure)
    (hbegun : Begun sessionId s) : Begun sessionId t := by
  cases h with
  | event id actor nowMs reason hevent hfailed =>
    exact hbegun.after_event fun heq => hfailure (hfailed heq)
  | created id actor nowMs reason hkind => exact absurd hkind hcreation
  | retry id actor nowMs reason =>
    refine Begun.of_eq ?_ (sessions_eventThenEnqueue fun _ _ => rfl)
    exact hbegun.after_event nofun
  | detect id nowMs hkind =>
    refine Begun.of_eq ?_ (sessions_eventThenEnqueue fun _ _ => rfl)
    exact hbegun.after_event nofun
  | payment id payment scanToBlock nowMs hkind hwaits =>
    exact hbegun.updateSession fun _ _ => rfl
  | flags id nowMs hnow =>
    rcases syncSessionDerivedFlagsInState_cases id nowMs s with heq | ⟨session, hsession, heq⟩
    · rwa [heq]
    · rw [heq]
      refine Begun.of_eq (s := s.updateSession id fun _ => session.withDerivedFlags nowMs) ?_ rfl
      refine hbegun.updateSession fun session' hsession' => ?_
      obtain rfl := Option.some.inj (hsession.symm.trans hsession')
      rfl
  | session id f hf => exact hbegun.updateSession fun session _ => (hf session).state
  | refund id session nowMs hsession =>
    refine Begun.of_eq ?_ (s.refunded_sessions session)
    refine hbegun.updateSession fun session' hsession' => ?_
    obtain rfl := Option.some.inj (hsession.symm.trans hsession')
    rfl
  | enqueue id nowMs =>
    exact hbegun.of_eq (sameButJobs_enqueueSpawnExecution s id nowMs).sessions_eq
  | pollJob nowMs => exact hbegun.of_eq (sameButJobs_syncPaymentPollJob s nowMs).sessions_eq
  | newSession session hkind hstate hretryable => exact absurd hkind hcreation
  | _ => exact hbegun

end Begun

section Factory

variable {libraries : Libraries} {s t : FactoryState} {sessionId other : String} {nowMs : ℕ}

/-- What every step keeps of the factory. -/
structure SpawnsScheduled (s : FactoryState) : Prop where
  consistent : Consistent s
  jobs : JobsSound s
  scheduled : ∀ sessionId, Detected sessionId s → Scheduled (spawnJobId sessionId) s

theorem SpawnsScheduled.of_isIdle (h : s.IsIdle) : SpawnsScheduled s where
  consistent := (PollerSound.of_isIdle h).consistent
  jobs := (PollerSound.of_isIdle h).jobs
  scheduled sessionId hdetected := by
    obtain ⟨session, hsession, -⟩ := hdetected
    rw [(h.1 sessionId).1] at hsession
    cases hsession

/-- A session that waits for its spawn is paid for. -/
theorem Consistent.paid_of_detected {session : SpawnSession} (hs : Consistent s)
    (hsession : s.sessions[sessionId]? = some session) (hstate : session.state = .paymentDetected) :
    session.paymentStatus = .paid := by
  obtain ⟨-, claim, -, hcoherent⟩ := hs.stored hsession
  exact hcoherent.active (.inl hstate)

/-- A write of a message, or of a worker. -/
theorem SpawnsScheduled.write {op : Op} (hs : SpawnsScheduled s)
    (h : FactoryStep libraries s op t) : SpawnsScheduled t := by
  have hconsistent : Consistent t := hs.consistent.step h
  obtain ⟨hfresh, rfl⟩ := h
  have hkeeps : JobsSound (op.apply libraries s) ∧ ∀ sessionId,
      Detected sessionId (op.apply libraries s) →
        Scheduled (spawnJobId sessionId) (op.apply libraries s) := by
    refine (writes_perform libraries op s).within
      (R := fun s t => (JobsSound s ∧ ∀ sessionId, Detected sessionId s →
        Scheduled (spawnJobId sessionId) s) → JobsSound t ∧ ∀ sessionId, Detected sessionId t →
          Scheduled (spawnJobId sessionId) t) (fun _ => id) (fun h h' => h' ∘ h) ?_
      ⟨hs.jobs, hs.scheduled⟩
    rintro s t hwrite ⟨hjobs, hscheduled⟩
    refine ⟨hwrite.jobsSound hjobs, fun sessionId hdetected => ?_⟩
    rcases hwrite.detected hdetected with hbefore | ⟨nowMs, henqueued⟩
    · exact hwrite.scheduled_spawn hjobs (hscheduled sessionId hbefore)
    · exact (hjobs.scheduled_enqueue sessionId nowMs).of_eq henqueued
  exact ⟨hconsistent, hkeeps.1, hkeeps.2⟩

theorem SpawnsScheduled.apply {op : Op} (hs : SpawnsScheduled s) (hfresh : op.IsFresh s) :
    SpawnsScheduled (op.apply libraries s) :=
  hs.write ⟨hfresh, rfl⟩

/-- A write that fails no session undoes no spawn that has begun: a new session has a new id. -/
theorem Begun.write {op : Op} (hbegun : Begun sessionId s) (hs : Consistent s)
    (h : FactoryStep libraries s op t) (hfailure : op.kind ≠ .failure) : Begun sessionId t := by
  by_cases hcreation : op.kind = .creation
  · cases op with
    | createSpawnSession request newId origin nowMs =>
      have hunused : Unused s newId := ⟨h.1, hs.silent h.1⟩
      obtain ⟨-, rfl⟩ := h
      rcases createSpawnSessionWithSessionId_cases libraries.toSessionExternals request origin
        nowMs hunused with ⟨e, hrun⟩ | ⟨session, t, hrun, hcreated⟩
      · have happly : Op.apply libraries (.createSpawnSession request newId origin nowMs) s =
            s := after_of_error hrun
        rwa [happly]
      · have happly : Op.apply libraries (.createSpawnSession request newId origin nowMs) s =
            t := after_of_ok hrun
        rw [happly]
        refine hbegun.of_stored (hcreated.only.sessions sessionId ?_)
        rintro rfl
        obtain ⟨session, hsession, -⟩ := hbegun
        rw [hunused.1] at hsession
        cases hsession
    | _ => cases hcreation
  · obtain ⟨-, rfl⟩ := h
    exact (writes_perform libraries op s).within (R := fun s t => Begun sessionId s →
      Begun sessionId t) (fun _ => id) (fun h h' => h' ∘ h)
      (fun hwrite => hwrite.begun hcreation hfailure) hbegun

/-- The session is stored as before. -/
def SessionKept (sessionId : String) (s t : FactoryState) : Prop :=
  t.sessions[sessionId]? = s.sessions[sessionId]?

protected theorem SessionKept.refl (s : FactoryState) : SessionKept sessionId s s := rfl

protected theorem SessionKept.trans {s t u : FactoryState} (h : SessionKept sessionId s t)
    (h' : SessionKept sessionId t u) : SessionKept sessionId s u :=
  Eq.trans h' h

/-- A closure that marks a session as failed touches no other one. -/
theorem kept_markSessionFailedInState {actor : SessionAuditActor} {reason : String}
    (hother : other ≠ sessionId) :
    Within (SessionKept other) (markSessionFailedInState sessionId actor nowMs reason) := by
  refine Within.bind SessionKept.trans
    (fun s => (within_applySessionEventInState s).sessions other hother) fun session => ?_
  split
  · refine Within.bind SessionKept.trans (Within.modify fun s => ?_) fun _ =>
      Within.pure SessionKept.refl _
    rw [SessionKept, (sameButJobs_enqueueSpawnExecution s sessionId nowMs).sessions_eq]
  · exact Within.pure SessionKept.refl _

/-- Neither does the closure of a failed spawn. -/
theorem kept_failSpawnInState {externals : Externals} {reason : String}
    {runtime : Option AutomatonRuntimeState} {error : FactoryError} (hother : other ≠ sessionId) :
    Within (SessionKept other)
      (failSpawnInState externals sessionId nowMs reason runtime error) := by
  refine Within.bind SessionKept.trans (Within.modify fun s => ?_) fun _ =>
    kept_markSessionFailedInState hother
  cases runtime with
  | none => exact SessionKept.refl s
  | some runtime =>
    exact (OnlySession.updateSession (s.putRuntime runtime.canisterId runtime) _).sessions other
      hother

/-- A session that has been marked as failed does not wait for its spawn. -/
theorem not_detected_markSessionFailedInState {actor : SessionAuditActor} {reason : String} :
    ¬ Detected sessionId (after (markSessionFailedInState sessionId actor nowMs reason) s) := by
  intro hdetected
  have hsessions : (after (markSessionFailedInState sessionId actor nowMs reason) s).sessions =
      (after (applySessionEventInState sessionId actor nowMs .spawnFailed reason) s).sessions := by
    rcases applySessionEventInState_cases sessionId actor nowMs .spawnFailed reason s with
      ⟨e, hrun⟩ | ⟨session, hrun, -⟩ | ⟨session, transition, -, -, hrun⟩
    · rw [markSessionFailedInState, after_bind_of_error (by rw [outcome, hrun])]
    all_goals
      rw [markSessionFailedInState, after_bind_of_ok (by rw [outcome, hrun]), after_of_ok hrun]
      split
      · exact (sameButJobs_enqueueSpawnExecution _ sessionId nowMs).sessions_eq
      · rfl
  have hafter := hdetected.of_eq hsessions
  obtain ⟨session, hsession, hstate⟩ := detected_of_event (by decide) (by decide) hafter
  -- A session that waits for its spawn accepts the failure.
  have haccepted : eventTransition session (!(s.auditLog[sessionId]?.getD []).isEmpty) sessionId
      nowMs .spawnFailed = .ok (some ⟨some session.state, .failed, false⟩) := by
    simp [eventTransition, hstate]
  have hrun : applySessionEventInState sessionId actor nowMs .spawnFailed reason s = _ :=
    run_applySessionEventInState hsession
  rw [haccepted] at hrun
  obtain ⟨session', hsession', hstate'⟩ := hafter
  rw [after_of_ok hrun, getElem?_entered hsession] at hsession'
  obtain rfl := Option.some.inj hsession'
  cases hstate'

/-- Neither does a session whose spawn has failed. -/
theorem not_detected_failSpawnInState {externals : Externals} {reason : String}
    {runtime : Option AutomatonRuntimeState} {error : FactoryError} : ¬ Detected sessionId
      (after (failSpawnInState externals sessionId nowMs reason runtime error) s) := by
  rw [failSpawnInState, after_bind_of_ok outcome_modify]
  exact not_detected_markSessionFailedInState

/-- The event that starts the spawn of a session that waits for it. -/
theorem run_startSpawn {session : SpawnSession} (startedMs : ℕ) (reason : String)
    (hsession : s.sessions[sessionId]? = some session) (hstate : session.state = .paymentDetected) :
    ∃ session', applySessionEventInState sessionId .system startedMs .spawnStarted reason s =
      .ok session' (s.entered sessionId session ⟨some session.state, .spawning, false⟩ .system
        startedMs reason) := by
  have haccepted : eventTransition session (!(s.auditLog[sessionId]?.getD []).isEmpty) sessionId
      startedMs .spawnStarted = .ok (some ⟨some session.state, .spawning, false⟩) := by
    simp [eventTransition, hstate]
  have hrun : applySessionEventInState sessionId .system startedMs .spawnStarted reason s = _ :=
    run_applySessionEventInState hsession
  rw [haccepted] at hrun
  exact ⟨_, hrun⟩

/-- What the first segment of a worker does: it returns at once, it resumes a release, it fails
the session, or it starts the spawn. -/
theorem beginSpawn_cases {environment : SpawnEnvironment} {startedMs : ℕ}
    {result : Option (Except FactoryError Unit)}
    (h : beginSpawn libraries.toExternals environment sessionId startedMs nowMs s = (t, result)) :
    (t = s ∧ result ≠ none ∧ ∀ session, s.sessions[sessionId]? = some session →
      session.paymentStatus = .paid → session.state ≠ .paymentDetected) ∨
    (t = s ∧ ∃ session, s.sessions[sessionId]? = some session ∧
      session.state = .broadcastingRelease) ∨
    (result ≠ none ∧ ∃ reason error,
      t = after (failSpawnInState libraries.toExternals sessionId nowMs reason none error) s) ∨
    result = none ∧ ∃ session, s.sessions[sessionId]? = some session ∧
      session.state = .paymentDetected ∧
      t = s.entered sessionId session ⟨some session.state, .spawning, false⟩ .system startedMs
        "spawn execution started" := by
  unfold beginSpawn at h
  split at h
  · rename_i hnone
    obtain ⟨rfl, rfl⟩ := Prod.mk.inj h
    exact .inl ⟨rfl, Option.some_ne_none _, fun session hsession => by simp [hnone] at hsession⟩
  · rename_i session hsession
    have hother : session.paymentStatus ≠ .paid ∨ session.state ≠ .paymentDetected →
        ∀ session', s.sessions[sessionId]? = some session' → session'.paymentStatus = .paid →
          session'.state ≠ .paymentDetected := by
      intro hsome session' hsession' hpaid hdetected
      obtain rfl := Option.some.inj (hsession.symm.trans hsession')
      exact hsome.elim (· hpaid) (· hdetected)
    split at h
    · rename_i hunpaid
      obtain ⟨rfl, rfl⟩ := Prod.mk.inj h
      exact .inl ⟨rfl, Option.some_ne_none _, hother (.inl hunpaid)⟩
    · split at h
      · rename_i hstate
        split at h
        · obtain ⟨rfl, rfl⟩ := Prod.mk.inj h
          exact .inr (.inr (.inl ⟨Option.some_ne_none _, _, _, rfl⟩))
        · obtain ⟨session', hrun⟩ := run_startSpawn startedMs "spawn execution started" hsession
            hstate
          simp only [outcome, hrun, after_of_ok hrun] at h
          obtain ⟨rfl, rfl⟩ := Prod.mk.inj h
          exact .inr (.inr (.inr ⟨rfl, session, hsession, hstate, rfl⟩))
      · rename_i hstate
        split at h <;> obtain ⟨rfl, rfl⟩ := Prod.mk.inj h
        all_goals exact .inr (.inl ⟨rfl, session, hsession, hstate⟩)
      · rename_i hstate
        obtain ⟨rfl, rfl⟩ := Prod.mk.inj h
        exact .inl ⟨rfl, Option.some_ne_none _, hother (.inr (by simp [hstate]))⟩
      · rename_i hstate _ _
        obtain ⟨rfl, rfl⟩ := Prod.mk.inj h
        exact .inl ⟨rfl, Option.some_ne_none _, hother (.inr hstate)⟩

/-- The first segment of a worker: other sessions are kept, a worker that awaits a call has
moved its session on, and one that has ended leaves no session that waits for its spawn. -/
theorem SpawnsScheduled.beginSpawn {environment : SpawnEnvironment} {startedMs : ℕ}
    {result : Option (Except FactoryError Unit)} (hs : SpawnsScheduled s)
    (h : beginSpawn libraries.toExternals environment sessionId startedMs nowMs s = (t, result)) :
    SpawnsScheduled t ∧ (∀ other, other ≠ sessionId → SessionKept other s t) ∧
      (result = none → Begun sessionId t) ∧ (result ≠ none → ¬ Detected sessionId t) := by
  rcases beginSpawn_cases h with ⟨rfl, hended, hstate⟩ | ⟨rfl, session, hsession, hstate⟩ |
    ⟨hended, reason, error, rfl⟩ | ⟨hawaits, session, hsession, hstate, rfl⟩
  · refine ⟨hs, fun _ _ => SessionKept.refl _, fun hnone => absurd hnone hended, fun _ => ?_⟩
    rintro ⟨session, hsession, hdetected⟩
    exact hstate session hsession (hs.consistent.paid_of_detected hsession hdetected) hdetected
  · have hbegun : Begun sessionId t := ⟨session, hsession, by simp [hstate]⟩
    exact ⟨hs, fun _ _ => SessionKept.refl _, fun _ => hbegun, fun _ => hbegun.not_detected⟩
  · have hfailed : SpawnsScheduled (Op.apply libraries
        (.failSpawn sessionId nowMs reason none error) s) := hs.apply trivial
    refine ⟨hfailed, fun other hother => kept_failSpawnInState hother s,
      fun hnone => absurd hnone hended, fun _ => ?_⟩
    exact not_detected_failSpawnInState
  · obtain ⟨session', hrun⟩ := run_startSpawn startedMs "spawn execution started" hsession hstate
    have hstarted : SpawnsScheduled (Op.apply libraries (.startSpawn sessionId startedMs) s) :=
      hs.apply trivial
    have happly : Op.apply libraries (.startSpawn sessionId startedMs) s = _ := after_of_ok hrun
    rw [happly] at hstarted
    refine ⟨hstarted, fun other hother => (onlySession_entered ..).sessions other hother,
      fun _ => ?_, fun hended => absurd hawaits hended⟩
    exact ⟨_, getElem?_entered hsession, nofun, nofun, nofun⟩

/-- Steps of the scheduler leave everything but jobs as it is. -/
theorem SpawnsScheduled.of_sameButJobs (hs : SpawnsScheduled s) (h : SameButJobs s t)
    (hjobs : JobsSound t) (hscheduled : ∀ sessionId, Detected sessionId s →
      Scheduled (spawnJobId sessionId) s → Scheduled (spawnJobId sessionId) t) :
    SpawnsScheduled t where
  consistent := hs.consistent.evolves (Evolves.of_sameButJobs h)
  jobs := hjobs
  scheduled sessionId hdetected := by
    have hbefore : Detected sessionId s := hdetected.of_eq h.sessions_eq
    exact hscheduled sessionId hbefore (hs.scheduled sessionId hbefore)

/-- The ids of spawn jobs tell the sessions apart. -/
theorem spawnJobId_injective (h : spawnJobId sessionId = spawnJobId other) : sessionId = other := by
  have hlist := congrArg String.toList h
  simp only [spawnJobId, String.toList_append, List.append_cancel_left_eq] at hlist
  exact String.toList_inj.mp hlist

/-- A report for a session that does not wait for its spawn. -/
theorem SpawnsScheduled.report {f : SchedulerJob → SchedulerJob} (hs : SpawnsScheduled s)
    (hf : ∀ job, (f job).jobId = job.jobId ∧ (f job).kind = job.kind ∧
      (f job).leasedUntilMs = none) (hdetected : ¬ Detected sessionId s) :
    SpawnsScheduled (s.updateJob (spawnJobId sessionId) f) := by
  refine hs.of_sameButJobs ⟨_, rfl⟩ (hs.jobs.report hf) fun other hother hscheduled => ?_
  refine hscheduled.updateJob_of_ne fun hid => hdetected ?_
  rwa [spawnJobId_injective hid]

end Factory

section Worlds

variable {libraries : Libraries} {w v : SpawnWorld} {s t : FactoryState} {nowMs limit : ℕ}

/-- What every step keeps of the workers: they report to the job of their session, no two work
on one job, and those that await a call have moved their session on. -/
structure WorkersSound (workers : List SpawnWorker) (s : FactoryState) : Prop where
  ids : ∀ worker ∈ workers, worker.jobId = spawnJobId worker.sessionId
  alone : workers.Pairwise fun earlier later => later.jobId = earlier.jobId →
    earlier.stage = .done
  begun : ∀ worker ∈ workers, worker.stage = .running → Begun worker.sessionId s

/-- A step that does not touch workers. -/
theorem WorkersSound.of_begun {workers : List SpawnWorker} (h : WorkersSound workers s)
    (hbegun : ∀ sessionId, Begun sessionId s → Begun sessionId t) : WorkersSound workers t :=
  ⟨h.ids, h.alone, fun worker hworker hrunning => hbegun _ (h.begun worker hworker hrunning)⟩

/-- The worker of a spawn job. -/
theorem worker?_eq_some {job : SchedulerJob} {worker : SpawnWorker}
    (h : job.worker? = some worker) : worker.jobId = job.jobId ∧
      job.kind = .spawnExecution worker.sessionId ∧ worker.stage = .leased := by
  unfold SchedulerJob.worker? at h
  split at h
  · rename_i sessionId hkind
    obtain rfl := Option.some.inj h
    exact ⟨rfl, hkind, rfl⟩
  · cases h

/-- The workers that a tick starts. -/
theorem mem_leasedWorkers {worker : SpawnWorker} (hs : JobsSound s)
    (h : worker ∈ leasedWorkers s nowMs limit) : worker.jobId ∈ dueJobIds s nowMs limit ∧
      worker.jobId = spawnJobId worker.sessionId ∧ worker.stage = .leased := by
  obtain ⟨jobId, hdue, hworker⟩ := List.mem_filterMap.mp h
  obtain ⟨job, hjob, hworker⟩ := Option.bind_eq_some_iff.mp hworker
  obtain ⟨hid, hkind, hstage⟩ := worker?_eq_some hworker
  rw [hid, (hs jobId job hjob).id]
  exact ⟨hdue, (hs jobId job hjob).spawn worker.sessionId hkind, hstage⟩

/-- A tick leases no job twice. -/
theorem JobsSound.nodup_dueJobIds (hs : JobsSound s) : (dueJobIds s nowMs limit).Nodup := by
  have hids : s.schedulerJobs.toList.map (fun entry => entry.2.jobId) = s.schedulerJobs.keys := by
    rw [← Std.ExtTreeMap.map_fst_toList_eq_keys]
    refine List.map_congr_left fun entry hentry => ?_
    exact (hs entry.1 entry.2 (Std.ExtTreeMap.mem_toList_iff_getElem?_eq_some.mp hentry)).id
  have hstored : ((s.schedulerJobs.toList.map (·.2)).map (·.jobId)).Nodup := by
    rw [List.map_map]
    exact hids ▸ Std.ExtTreeMap.nodup_keys
  unfold dueJobIds
  dsimp only
  refine List.Nodup.sublist ((List.take_sublist _ _).map _) ?_
  rw [((List.perm_insertionSort _ _).map _).nodup_iff, List.map_map]
  exact hstored.sublist (List.filter_sublist.map _)

/-- No two of the workers that a tick starts work on one job. -/
theorem pairwise_leasedWorkers (hs : JobsSound s) :
    (leasedWorkers s nowMs limit).Pairwise fun earlier later => later.jobId ≠ earlier.jobId := by
  unfold leasedWorkers
  rw [List.pairwise_filterMap]
  refine hs.nodup_dueJobIds.imp fun hne worker hworker worker' hworker' => ?_
  obtain ⟨job, hjob, hworker⟩ := Option.bind_eq_some_iff.mp hworker
  obtain ⟨job', hjob', hworker'⟩ := Option.bind_eq_some_iff.mp hworker'
  rw [(worker?_eq_some hworker).1, (worker?_eq_some hworker').1, (hs _ job hjob).id,
    (hs _ job' hjob').id]
  exact hne.symm

/-- A tick that leases no job whose worker still works. -/
theorem WorkersSound.lease {workers : List SpawnWorker} (h : WorkersSound workers s)
    (hs : JobsSound s) (hfree : ∀ worker ∈ workers, worker.stage ≠ .done →
      worker.jobId ∉ dueJobIds s nowMs limit) :
    WorkersSound (workers ++ leasedWorkers s nowMs limit) (s.leaseDueJobs nowMs limit) where
  ids worker hworker := by
    rcases List.mem_append.mp hworker with hold | hnew
    · exact h.ids worker hold
    · exact (mem_leasedWorkers hs hnew).2.1
  alone := by
    refine List.pairwise_append.mpr ⟨h.alone, ?_, ?_⟩
    · exact (pairwise_leasedWorkers hs).imp fun hne heq => absurd heq hne
    · intro earlier hearlier later hlater hid
      by_contra hstage
      refine hfree earlier hearlier hstage ?_
      rw [← hid]
      exact (mem_leasedWorkers hs hlater).1
  begun worker hworker hrunning := by
    rcases List.mem_append.mp hworker with hold | hnew
    · exact (h.begun worker hold hrunning).of_eq (sameButJobs_leaseDueJobs s nowMs limit).sessions_eq
    · rw [(mem_leasedWorkers hs hnew).2.2] at hrunning
      cases hrunning

/-- Of two workers of one job the earlier one is done. -/
theorem WorkersSound.done_of_lt {workers : List SpawnWorker} {i j : ℕ}
    {earlier later : SpawnWorker} (h : WorkersSound workers s) (hearlier : workers[i]? = some earlier)
    (hlater : workers[j]? = some later) (hlt : i < j) (hid : later.jobId = earlier.jobId) :
    earlier.stage = .done := by
  obtain ⟨hi, rfl⟩ := List.getElem?_eq_some_iff.mp hearlier
  obtain ⟨hj, rfl⟩ := List.getElem?_eq_some_iff.mp hlater
  exact List.pairwise_iff_getElem.mp h.alone i j hi hj hlt hid

/-- No two workers that still work have the same job. -/
theorem WorkersSound.ne_of_works {workers : List SpawnWorker} {i j : ℕ}
    {worker other : SpawnWorker} (h : WorkersSound workers s) (hworker : workers[i]? = some worker)
    (hother : workers[j]? = some other) (hne : j ≠ i) (hworks : worker.stage ≠ .done)
    (hworks' : other.stage ≠ .done) : other.jobId ≠ worker.jobId := by
  intro hid
  rcases Nat.lt_or_gt_of_ne hne with hlt | hlt
  · exact hworks' (h.done_of_lt hother hworker hlt hid.symm)
  · exact hworks (h.done_of_lt hworker hother hlt hid)

/-- A worker that still works moves on. Others work on other sessions. -/
theorem WorkersSound.move {workers : List SpawnWorker} {index : ℕ} {worker : SpawnWorker}
    {stage : WorkerStage} (h : WorkersSound workers s) (hworker : workers[index]? = some worker)
    (hworks : worker.stage ≠ .done)
    (hkept : ∀ other, other ≠ worker.sessionId → SessionKept other s t)
    (hbegun : stage = .running → Begun worker.sessionId t) :
    WorkersSound (workers.set index { worker with stage := stage }) t where
  ids worker' hworker' := by
    rcases List.mem_or_eq_of_mem_set hworker' with hold | rfl
    · exact h.ids worker' hold
    · exact h.ids worker (List.mem_of_getElem? hworker)
  alone := by
    refine List.pairwise_iff_getElem.mpr fun i j hi hj hlt hid => ?_
    rw [List.length_set] at hi hj
    rw [List.getElem_set, List.getElem_set] at hid
    rw [List.getElem_set]
    by_cases hindex : index = i
    · -- A later worker of the same job would have found this one done.
      subst hindex
      rw [if_pos rfl, if_neg hlt.ne] at hid
      exact absurd (h.done_of_lt hworker (List.getElem?_eq_getElem hj) hlt hid) hworks
    · rw [if_neg hindex] at hid ⊢
      split at hid
      · rename_i hindex'
        subst hindex'
        exact h.done_of_lt (List.getElem?_eq_getElem hi) hworker hlt hid
      · exact h.done_of_lt (List.getElem?_eq_getElem hi) (List.getElem?_eq_getElem hj) hlt hid
  begun worker' hworker' hrunning := by
    obtain ⟨i, hi⟩ := List.mem_iff_getElem?.mp hworker'
    by_cases hindex : index = i
    · subst hindex
      rw [List.getElem?_set_self (List.getElem?_eq_some_iff.mp hworker).1] at hi
      obtain rfl := Option.some.inj hi
      exact hbegun hrunning
    · rw [List.getElem?_set_ne hindex] at hi
      have hmem := List.mem_of_getElem? hi
      refine (h.begun worker' hmem hrunning).of_stored (hkept _ fun hsession => ?_)
      refine h.ne_of_works hworker hi (Ne.symm hindex) hworks (by simp [hrunning]) ?_
      rw [h.ids worker' hmem, h.ids worker (List.mem_of_getElem? hworker), hsession]

/-- Reports touch jobs only. -/
theorem sameButJobs_report {worker : SpawnWorker} {result : Except FactoryError Unit}
    {startedMs : ℕ} : SameButJobs s (worker.report libraries result startedMs nowMs s) := by
  cases result with
  | ok _ => exact ⟨_, rfl⟩
  | error error => exact ⟨_, rfl⟩

/-- The report of a worker whose session does not wait for its spawn. -/
theorem SpawnsScheduled.worker_report {worker : SpawnWorker} {result : Except FactoryError Unit}
    {startedMs : ℕ} (hs : SpawnsScheduled s) (hid : worker.jobId = spawnJobId worker.sessionId)
    (hdetected : ¬ Detected worker.sessionId s) :
    SpawnsScheduled (worker.report libraries result startedMs nowMs s) := by
  unfold SpawnWorker.report
  rw [hid]
  cases result with
  | ok _ => exact hs.report (fun job => ⟨rfl, rfl, rfl⟩) hdetected
  | error error => exact hs.report (fun job => ⟨rfl, rfl, rfl⟩) hdetected

/-- The report of a poll. -/
theorem SpawnsScheduled.updateJob_poll {f : SchedulerJob → SchedulerJob} (hs : SpawnsScheduled s)
    (hf : ∀ job, (f job).jobId = job.jobId ∧ (f job).kind = job.kind ∧
      (f job).leasedUntilMs = none) : SpawnsScheduled (s.updateJob paymentPollJobId f) :=
  hs.of_sameButJobs ⟨_, rfl⟩ (hs.jobs.report hf) fun sessionId _ hscheduled =>
    hscheduled.updateJob_of_ne (spawnJobId_ne_paymentPollJobId sessionId).symm

/-- What every step keeps of a factory with its workers. -/
structure SpawnSound (w : SpawnWorld) : Prop where
  factory : SpawnsScheduled w.factory
  workers : WorkersSound w.workers w.factory

theorem SpawnSound.of_isIdle (h : w.IsIdle) : SpawnSound w where
  factory := SpawnsScheduled.of_isIdle h.1
  workers := by
    rw [h.2]
    exact ⟨nofun, List.Pairwise.nil, nofun⟩

/-- A step of the scheduler that starts no worker. -/
theorem SpawnSound.of_sameButJobs (hs : SpawnSound w) (h : SameButJobs w.factory t)
    (ht : SpawnsScheduled t) : SpawnSound { w with factory := t } :=
  ⟨ht, hs.workers.of_begun fun _ hbegun => hbegun.of_eq h.sessions_eq⟩

/-- The first segment of a worker. -/
theorem SpawnSound.begin {index : ℕ} {worker : SpawnWorker} {environment : SpawnEnvironment}
    {startedMs : ℕ} (hs : SpawnSound w) (hworker : w.workers[index]? = some worker)
    (hstage : worker.stage = .leased) :
    let begun := worker.begin libraries environment startedMs nowMs w.factory
    SpawnSound ⟨begun.1, w.workers.set index { worker with stage := begun.2 }⟩ := by
  have hworks : worker.stage ≠ .done := by simp [hstage]
  have hid := hs.workers.ids worker (List.mem_of_getElem? hworker)
  unfold SpawnWorker.begin
  cases hbegin : beginSpawn libraries.toExternals environment worker.sessionId startedMs nowMs
      w.factory with
  | mk t result =>
    obtain ⟨ht, hkept, hbegun, hended⟩ := hs.factory.beginSpawn hbegin
    cases result with
    | none => exact ⟨ht, hs.workers.move hworker hworks hkept fun _ => hbegun rfl⟩
    | some result =>
      refine ⟨ht.worker_report hid (hended nofun), hs.workers.move hworker hworks ?_ nofun⟩
      intro other hother
      rw [SessionKept, sameButJobs_report.sessions_eq]
      exact hkept other hother

/-- The last segment of a worker: its session has moved on, or the worker fails it. -/
theorem SpawnSound.conclude {index : ℕ} {worker : SpawnWorker} {spawnEnd : SpawnEnd}
    {startedMs : ℕ} (hs : SpawnSound w) (hworker : w.workers[index]? = some worker)
    (hstage : worker.stage = .running) :
    SpawnSound ⟨worker.conclude libraries spawnEnd startedMs nowMs w.factory,
      w.workers.set index { worker with stage := .done }⟩ := by
  have hworks : worker.stage ≠ .done := by simp [hstage]
  have hmem := List.mem_of_getElem? hworker
  have hid := hs.workers.ids worker hmem
  cases spawnEnd with
  | returned result =>
    have hbegun := hs.workers.begun worker hmem hstage
    refine ⟨hs.factory.worker_report hid hbegun.not_detected,
      hs.workers.move hworker hworks (fun other _ => ?_) nofun⟩
    exact congrArg (·[other]?) sameButJobs_report.sessions_eq
  | failed reason runtime error =>
    have hfailed : SpawnsScheduled (Op.apply libraries
        (.failSpawn worker.sessionId nowMs reason runtime error) w.factory) :=
      hs.factory.apply trivial
    have hreported : SpawnsScheduled (worker.conclude libraries (.failed reason runtime error)
        startedMs nowMs w.factory) :=
      hfailed.worker_report hid not_detected_failSpawnInState
    refine ⟨hreported, hs.workers.move hworker hworks (fun other hother => ?_) nofun⟩
    have hkept : SessionKept other w.factory (after (failSpawnInState libraries.toExternals
        worker.sessionId nowMs reason runtime error) w.factory) :=
      kept_failSpawnInState hother w.factory
    exact hkept.trans (congrArg (·[other]?) sameButJobs_report.sessions_eq)

/-- One step that leases no job whose worker still works. -/
theorem SpawnSound.step {act : SpawnAct} (hs : SpawnSound w)
    (h : Restrict (SpawnStep libraries) (fun w act => act.NoOverlap w) w act v) : SpawnSound v := by
  obtain ⟨⟨hpossible, rfl⟩, hfree⟩ := h
  cases act with
  | write op =>
    have hstep : FactoryStep libraries w.factory op (op.apply libraries w.factory) :=
      ⟨hpossible.1, rfl⟩
    exact ⟨hs.factory.write hstep,
      hs.workers.of_begun fun _ hbegun => hbegun.write hs.factory.consistent hstep hpossible.2⟩
  | pollUnready nowMs =>
    simp only [SpawnAct.apply, SchedulerAct.apply]
    split
    · exact hs.of_sameButJobs ⟨_, rfl⟩ (hs.factory.updateJob_poll fun job => ⟨rfl, rfl, rfl⟩)
    · exact hs
  | pollDone result startedMs nowMs =>
    cases result with
    | ok _ =>
      exact hs.of_sameButJobs ⟨_, rfl⟩ (hs.factory.updateJob_poll fun job => ⟨rfl, rfl, rfl⟩)
    | error error =>
      exact hs.of_sameButJobs ⟨_, rfl⟩ (hs.factory.updateJob_poll fun job => ⟨rfl, rfl, rfl⟩)
  | lease nowMs limit =>
    obtain ⟨hjobs, hkeeps⟩ := hs.factory.jobs.leaseDueJobs nowMs limit
    refine ⟨?_, hs.workers.lease hs.factory.jobs hfree⟩
    exact hs.factory.of_sameButJobs (sameButJobs_leaseDueJobs w.factory nowMs limit) hjobs
      fun sessionId _ => hkeeps _
  | start index environment startedMs nowMs =>
    simp only [SpawnAct.apply]
    split
    · exact hs
    · rename_i worker hworker
      split
      · rename_i hstage
        exact hs.begin hworker hstage
      · exact hs
  | finish index spawnEnd startedMs nowMs =>
    simp only [SpawnAct.apply]
    split
    · exact hs
    · rename_i worker hworker
      split
      · rename_i hstage
        exact hs.conclude hworker hstage
      · exact hs

/-- A worker whose job was leased again has reported before. -/
theorem SpawnSound.apply_of_superseded {act : SpawnAct} {index : ℕ} (hs : SpawnSound w)
    (hact : act.worker? = some index) (h : w.Superseded index) : act.apply libraries w = w := by
  obtain ⟨later, worker, worker', hworker, hworker', hlt, hid⟩ := h
  have hdone : worker.stage = .done := hs.workers.done_of_lt hworker hworker' hlt hid
  cases act with
  | start i environment startedMs nowMs =>
    obtain rfl := Option.some.inj hact
    simp [SpawnAct.apply, hworker, hdone]
  | finish i spawnEnd startedMs nowMs =>
    obtain rfl := Option.some.inj hact
    simp [SpawnAct.apply, hworker, hdone]
  | _ => cases hact

end Worlds

/-- In every run that leases no job whose last worker still works, a session that is paid for
and waits for its spawn has a job with a next run, and no act of a worker whose job was leased
again unschedules the job or clears its lease. -/
theorem spawn_jobs_kept {libraries : Libraries} {w : SpawnWorld}
    (hreach : Reachable SpawnWorld.IsIdle
      (Restrict (SpawnStep libraries) fun w act => act.NoOverlap w) w) :
    (∀ (sessionId : String) (session : SpawnSession),
      w.factory.sessions[sessionId]? = some session → session.state = .paymentDetected →
      ∃ job, w.factory.schedulerJobs[spawnJobId sessionId]? = some job ∧
        job.nextRunAtMs.isSome = true) ∧
    ∀ (act : SpawnAct) (index : ℕ) (jobId : String) (job : SchedulerJob),
      act.worker? = some index → w.Superseded index →
      w.factory.schedulerJobs[jobId]? = some job →
      ∃ job', (act.apply libraries w).factory.schedulerJobs[jobId]? = some job' ∧
        (job.nextRunAtMs.isSome = true → job'.nextRunAtMs.isSome = true) ∧
        job'.leasedUntilMs = job.leasedUntilMs := by
  have hsound : SpawnSound w :=
    hreach.invariant (fun _ => SpawnSound.of_isIdle) fun _ _ _ hs hstep => hs.step hstep
  constructor
  · intro sessionId session hsession hstate
    exact hsound.factory.scheduled sessionId ⟨session, hsession, hstate⟩
  · intro act index jobId job hact hsuperseded hjob
    rw [hsound.apply_of_superseded hact hsuperseded]
    exact ⟨job, hjob, id, rfl⟩

/-- A factory that can spawn. -/
def spawningFactory : FactoryState :=
  { FactoryState.default with
    wasmLoaded := true
    childRuntime := ⟨some "key_1", some 8453, some "https://mainnet.base.org", none⟩
    baseRpcEndpoint := some "https://mainnet.base.org" }

/-- The scan that finds the full payment of the first session. -/
def fullPayment : EscrowPaymentScanUpdate 2 where
  guard := {
    sessionId := firstId
    sessionState := .awaitingPayment
    sessionPaymentStatus := .unpaid
    sessionUpdatedAt := 1
    sessionLastScannedBlock := none
    sessionExpiresAt := 1800001
    claimPaymentStatus := .unpaid
    claimUpdatedAt := 1
    claimLastScannedBlock := none
    claimPaidAmount := "0"
    claimPaymentEvidenceBlockNumber := none
    claimPaymentEvidenceBlockHash := none }
  payment := ⟨⟨[⟨5, "0xb5", "50000000"⟩], 50000000, 50000000, some 5⟩, .paid⟩
  paymentDetected := true
  awaiting := rfl
  unsettled := by decide
  notRefunded := by decide
  detected := by decide

theorem spawningFactory_isIdle : SpawnWorld.IsIdle ⟨spawningFactory, []⟩ :=
  ⟨⟨fun _ => ⟨by simp [spawningFactory, FactoryState.default],
    by simp [spawningFactory, FactoryState.default]⟩,
      fun _ => by simp [spawningFactory, FactoryState.default]⟩, rfl⟩

/-- A world in which the first session is created. -/
def createdWorld : SpawnWorld :=
  (SpawnAct.write (.createSpawnSession sampleRequest firstId humanOrigin 1)).apply sampleLibraries
    ⟨spawningFactory, []⟩

/-- A run of acts. -/
def runActs (acts : List SpawnAct) (w : SpawnWorld) : SpawnWorld :=
  acts.foldl (fun w act => act.apply sampleLibraries w) w

/-- The first session is paid for. -/
def paidWorld : SpawnWorld := runActs [.write (.applyPaymentScan 2 [fullPayment] 9)] createdWorld

/-- What the first session waits for is scheduled. -/
theorem paidWorld_scheduled : ∃ job,
    paidWorld.factory.schedulerJobs[spawnJobId firstId]? = some job ∧
      job.nextRunAtMs.isSome = true := by
  have hstate : paidWorld.factory.sessions[firstId]?.map (·.state) = some .paymentDetected := by
    decide +kernel
  obtain ⟨session, hsession, hdetected⟩ := Option.map_eq_some_iff.mp hstate
  have hcreated : Reachable SpawnWorld.IsIdle
      (Restrict (SpawnStep sampleLibraries) fun w act => act.NoOverlap w) createdWorld :=
    Reachable.step (Reachable.start spawningFactory_isIdle)
      (a := SpawnAct.write (.createSpawnSession sampleRequest firstId humanOrigin 1))
      ⟨⟨⟨by simp [Op.IsFresh, spawningFactory, FactoryState.default], by decide⟩, rfl⟩, trivial⟩
  have hpaid := hcreated.step (a := SpawnAct.write (.applyPaymentScan 2 [fullPayment] 9))
    ⟨⟨⟨trivial, by decide⟩, rfl⟩, trivial⟩
  exact (spawn_jobs_kept hpaid).1 firstId session hsession hdetected

/-- The canister of the first session. -/
def childRuntime : AutomatonRuntimeState where
  canisterId := "child"
  evmAddress := "0x4444444444444444444444444444444444444444"
  stewardAddress := "0x3333333333333333333333333333333333333333"
  sessionId := firstId
  initializedAt := 4
  installSucceededAt := some 4
  evmAddressDerivedAt := some 4
  controllerHandoffCompletedAt := some 4
  fundedAmount := "45000000"
  lastFundedAt := some 4
  chain := .base
  risk := 1
  strategies := []
  skills := []
  model := none
  providerKeysCleared := false
  bootstrapVerification := none

/-- The release transaction of the first session. -/
def releaseRecord : ReleaseBroadcastRecord where
  claimId := sampleExternals.deriveClaimId firstId
  recipient := "0x4444444444444444444444444444444444444444"
  escrowContractAddress := "0x2222222222222222222222222222222222222222"
  nonce := 0
  chainId := 8453
  maxPriorityFeePerGas := 1
  maxFeePerGas := 2
  gasLimit := 21000
  ecdsaKeyName := some "key_1"
  calldataHex := "0x"
  signingPayloadHash := some "0x01"
  signature := none
  rawTransactionHash := some "0x02"
  rawTransactionHex := some "0x03"
  rpcTxHash := some "0x02"
  broadcastAt := some 5
  receiptBlockNumber := none
  receiptBlockHash := none
  receiptStatus := none
  lastError := none

/-- The release transaction is pending. -/
def releasePending : FactoryError :=
  .managementCallFailed "eth_getTransactionReceipt" "release transaction remains pending"

/-- Enough cycles. -/
def richEnvironment : SpawnEnvironment := ⟨10 ^ 15, 10 ^ 12, 0⟩

/-- The first worker sends the release transaction and reports that it is pending. A second
worker awaits the receipt for longer than its lease, and a third one finds it reverted. After a
retry the answer to the second worker is a receipt that confirms the release. -/
def lateAnswer : List SpawnAct := [
  .lease 3 8,
  .start 0 richEnvironment 3 3,
  .write (.installSucceeded firstId (some "child")
    (some "0x4444444444444444444444444444444444444444") (some childRuntime) 4 "installed"),
  .write (.persistReleaseBroadcastRecord firstId ⟨0, none⟩ releaseRecord),
  .finish 0 (.returned (.error releasePending)) 3 5,
  .lease 5005 8,
  .start 1 richEnvironment 5005 5005,
  .lease 65005 8,
  .start 2 richEnvironment 65005 65005,
  .finish 2 (.failed "release receipt terminal failure" (some childRuntime)
    (.managementCallFailed "eth_getTransactionReceipt" "release transaction reverted")) 65005 65006,
  .write (.retryFailedSession firstId .admin 65007 "retry"),
  .write (.finalizeConfirmedRelease firstId ⟨0, some (releaseBroadcastDraftIdentity releaseRecord)⟩
    ⟨"child", childRuntime, "0x02", 5, releaseRecord, "dev-build", ["factory"], 65008⟩),
  .finish 1 (.returned (.error (.illegalSessionTransition firstId .paymentDetected
    "release_broadcast"))) 5005 65008]

/-- Runs of acts that are possible in every world. -/
theorem reachable_runActs {acts : List SpawnAct} {w : SpawnWorld}
    (hreach : Reachable SpawnWorld.IsIdle (SpawnStep sampleLibraries) w)
    (hpossible : ∀ act ∈ acts, ∀ w, act.IsPossible w) :
    Reachable SpawnWorld.IsIdle (SpawnStep sampleLibraries) (runActs acts w) := by
  induction acts generalizing w with
  | nil => exact hreach
  | cons act acts ih =>
    exact ih (hreach.step ⟨hpossible act List.mem_cons_self w, rfl⟩)
      fun act' hact' => hpossible act' (List.mem_cons_of_mem _ hact')

/-- The state of the first session and the next run of its job. -/
def SpawnWorld.firstSpawn (world : SpawnWorld) : Option SpawnSessionState × Option (Option ℕ) :=
  (world.factory.sessions[firstId]?.map (·.state),
    world.factory.schedulerJobs[spawnJobId firstId]?.map (·.nextRunAtMs))

/-- The report of the second worker leaves the session without a next run of its job. -/
theorem lateAnswer_unscheduled : ¬ ∀ w, Reachable SpawnWorld.IsIdle (SpawnStep sampleLibraries) w →
    ∀ (sessionId : String) (session : SpawnSession),
      w.factory.sessions[sessionId]? = some session → session.state = .paymentDetected →
      ∃ job, w.factory.schedulerJobs[spawnJobId sessionId]? = some job ∧
        job.nextRunAtMs.isSome = true := by
  intro hclaim
  have hcreated : Reachable SpawnWorld.IsIdle (SpawnStep sampleLibraries) createdWorld :=
    Reachable.step (Reachable.start spawningFactory_isIdle)
      (a := SpawnAct.write (.createSpawnSession sampleRequest firstId humanOrigin 1))
      ⟨⟨by simp [Op.IsFresh, spawningFactory, FactoryState.default], by decide⟩, rfl⟩
  have hpaid : Reachable SpawnWorld.IsIdle (SpawnStep sampleLibraries) paidWorld :=
    reachable_runActs hcreated (by simp [SpawnAct.IsPossible, Op.IsFresh, Op.kind])
  have hlate : Reachable SpawnWorld.IsIdle (SpawnStep sampleLibraries)
      (runActs lateAnswer paidWorld) :=
    reachable_runActs hpaid (by simp [lateAnswer, SpawnAct.IsPossible, Op.IsFresh, Op.kind])
  have hfinal : (runActs lateAnswer paidWorld).firstSpawn = (some .paymentDetected, some none) := by
    decide +kernel
  obtain ⟨hstate, hnext⟩ := Prod.mk.inj hfinal
  obtain ⟨session, hsession, hdetected⟩ := Option.map_eq_some_iff.mp hstate
  obtain ⟨job, hjob, hsome⟩ := hclaim _ hlate firstId session hsession hdetected
  have hnone : job.nextRunAtMs = none := by simpa [hjob] using hnext
  simp [hnone] at hsome

end Automaton.Factory
