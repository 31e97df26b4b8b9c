import Automaton.OpenRouterProxy.ProxyWorker

/-!
# Tenants and their jobs

Sequences of submissions and completions, with any callback outcomes. The map of the pending jobs is
shared, so a tenant is left alone as long as no submission takes an id under which another job is
pending, and a job is kept as long as no completion fails, because the job is removed first.
-/

namespace Automaton.OpenRouterProxy

open ProxyWorker Fallible

/-- A call at the worker. A completion comes with what the callback client answers. -/
inductive ProxyAct
  | submit (headers : HttpHeaders) (rawBody : List UInt8) (nowNs : ℕ)
  | complete (jobId : String) (completedAtNs : ℕ) (result : Option InferenceProxyResultPayload)
      (error : Option String) (submitResult : CallbackEnvelope → Except String Unit)

/-- A call that completes a job. -/
def ProxyAct.Completes (jobId : String) : ProxyAct → Prop
  | submit _ _ _ => False
  | complete completed _ _ _ _ => completed = jobId

section Runs

variable (fromSlice : List UInt8 → Except String SubmitJobRequest)
  (toVec : CallbackEnvelope → Except String (List UInt8))

/-- The job of a submission that is accepted. -/
def ProxyAct.accepted (worker : ProxyWorker) : ProxyAct → Option PendingJob
  | submit headers rawBody nowNs => (worker.checkSubmit fromSlice headers rawBody nowNs).toOption
  | complete _ _ _ _ _ => none

/-- The worker after a call. -/
def ProxyAct.apply (worker : ProxyWorker) : ProxyAct → ProxyWorker
  | submit headers rawBody nowNs =>
    (worker.acceptSubmit fromSlice headers rawBody nowNs).toOption.elim worker (·.2)
  | complete jobId completedAtNs result error submitResult =>
    (worker.completeJob toVec jobId completedAtNs result error submitResult).worker

/-- The callbacks of a call. -/
def ProxyAct.sent (worker : ProxyWorker) : ProxyAct → List SentCallback
  | submit _ _ _ => []
  | complete jobId completedAtNs result error submitResult =>
    (worker.completeJob toVec jobId completedAtNs result error submitResult).sent

/-- A call of `complete_job` that returns an error. -/
def ProxyAct.Fails (worker : ProxyWorker) : ProxyAct → Prop
  | submit _ _ _ => False
  | complete jobId completedAtNs result error submitResult =>
    (worker.completeJob toVec jobId completedAtNs result error submitResult).outcome.toBool = false

/-- The worker after calls in a row. -/
def workerAfter (worker : ProxyWorker) (acts : List ProxyAct) : ProxyWorker :=
  acts.foldl (ProxyAct.apply fromSlice toVec) worker

/-- The callbacks of calls in a row. -/
def sentBy (worker : ProxyWorker) : List ProxyAct → List SentCallback
  | [] => []
  | act :: acts => act.sent toVec worker ++ sentBy (act.apply fromSlice toVec worker) acts

/-- The calls without the accepted submissions of a tenant. -/
def withoutTenant (worker : ProxyWorker) (tenant : String) (acts : List ProxyAct) : List ProxyAct :=
  acts.filter fun act => (act.accepted fromSlice worker).all (·.canisterId ≠ tenant)

/-- The pending jobs of a tenant. -/
def jobsOf (worker : ProxyWorker) (tenant jobId : String) : Option PendingJob :=
  (worker.pendingJob jobId).filter (·.canisterId = tenant)

/-- The callbacks to a tenant. -/
def callbacksTo (tenant : String) (sent : List SentCallback) : List SentCallback :=
  sent.filter (·.envelope.canisterId = tenant)

/-- A tenant's jobs and callbacks do not depend on the accepted submissions of another tenant. -/
def Unaffected (worker : ProxyWorker) (acts : List ProxyAct) : Prop :=
  ∀ tenant other, tenant ≠ other →
    (∀ jobId, jobsOf (workerAfter fromSlice toVec worker acts) tenant jobId =
      jobsOf (workerAfter fromSlice toVec worker (withoutTenant fromSlice worker other acts))
        tenant jobId) ∧
    (workerAfter fromSlice toVec worker acts).pendingCountFor tenant =
      (workerAfter fromSlice toVec worker
        (withoutTenant fromSlice worker other acts)).pendingCountFor tenant ∧
    callbacksTo tenant (sentBy fromSlice toVec worker acts) =
      callbacksTo tenant
        (sentBy fromSlice toVec worker (withoutTenant fromSlice worker other acts))

/-- What the tenants rely on in a run. -/
structure Isolated (worker : ProxyWorker) (acts : List ProxyAct) : Prop where
  /-- At no time a tenant is affected by another one. -/
  unaffected : ∀ before, before <+: acts → Unaffected fromSlice toVec worker before
  /-- An accepted job stays pending until a call completes it. -/
  staysPending : ∀ before submission between after job,
    acts = before ++ submission :: between ++ after →
      submission.accepted fromSlice worker = some job →
      (∀ act ∈ between, ¬ act.Completes job.jobId) →
      (workerAfter fromSlice toVec worker (before ++ submission :: between)).pendingJob job.jobId =
        some job
  /-- Until its id is submitted again, an accepted job is answered at most once, with the turn of
  the submission and to its tenant. -/
  answeredOnce : ∀ before submission between after job,
    acts = before ++ submission :: between ++ after →
      submission.accepted fromSlice worker = some job →
      (∀ act ∈ between, ∀ other, act.accepted fromSlice worker = some other →
        other.jobId ≠ job.jobId) →
      let answers := (sentBy fromSlice toVec
        (workerAfter fromSlice toVec worker (before ++ [submission])) between).filter
          (·.envelope.args.jobId = job.jobId)
      answers.length ≤ 1 ∧ ∀ answer ∈ answers,
        answer.envelope.canisterId = job.canisterId ∧ answer.envelope.args.turnId = job.turnId
  /-- A job whose completion fails is still pending. -/
  staysRetryable : ∀ before completion after jobId job,
    acts = before ++ completion :: after → completion.Completes jobId →
      completion.Fails toVec (workerAfter fromSlice toVec worker before) →
      (workerAfter fromSlice toVec worker before).pendingJob jobId = some job →
      (workerAfter fromSlice toVec worker (before ++ [completion])).pendingJob jobId = some job

/-- A submission takes an id that is free, and the result of a pending job can be delivered: its
envelope is small enough and the callback succeeds. -/
def ProxyAct.KeepsJobs (worker : ProxyWorker) : ProxyAct → Prop
  | submit headers rawBody nowNs => ∀ job pending,
    worker.checkSubmit fromSlice headers rawBody nowNs = .ok job →
      worker.pendingJobs[job.jobId]? = some pending → pending = job
  | complete jobId completedAtNs result error submitResult => ∀ pending tenant,
    worker.pendingJobs[jobId]? = some pending →
      worker.tenants[pending.canisterId]? = some tenant →
      let envelope := worker.envelope pending tenant completedAtNs result error
      (∃ serialized, toVec envelope = .ok serialized ∧
        serialized.length ≤ worker.config.maxCallbackPayloadBytes) ∧
      submitResult envelope = .ok ()

/-- All calls of a run keep the jobs that are pending. -/
def AllKeepJobs (worker : ProxyWorker) (acts : List ProxyAct) : Prop :=
  ∀ before act after, acts = before ++ act :: after →
    act.KeepsJobs fromSlice toVec (workerAfter fromSlice toVec worker before)

end Runs

/-- Jobs are pending under their own ids, for tenants of the worker. -/
structure JobsInv (worker : ProxyWorker) : Prop where
  keyed : ∀ {jobId : String} {job : PendingJob},
    worker.pendingJob jobId = some job → job.jobId = jobId
  known : ∀ {jobId : String} {job : PendingJob},
    worker.pendingJob jobId = some job → ∃ tenant, worker.tenants[job.canisterId]? = some tenant

section Steps

variable {fromSlice : List UInt8 → Except String SubmitJobRequest}
  {toVec : CallbackEnvelope → Except String (List UInt8)} {worker other : ProxyWorker}
  {act : ProxyAct} {acts before after : List ProxyAct} {job : PendingJob} {jobId : String}

/-- A checked submission is one of a tenant of the worker. -/
theorem tenant_of_checkSubmit {headers : HttpHeaders} {rawBody : List UInt8} {nowNs : ℕ}
    (h : worker.checkSubmit fromSlice headers rawBody nowNs = .ok job) :
    ∃ tenant, worker.tenants[job.canisterId]? = some tenant := by
  simp only [checkSubmit, throw_bind, ite_error_eq_ok, bind_eq_ok, pure_eq_ok] at h
  obtain ⟨-, bearer, -, key, -, request, -, -, tenant, htenant, -, rfl⟩ := h
  cases hfound : worker.tenants[request.canisterId]? with
  | none => rw [hfound] at htenant; cases htenant
  | some found => exact ⟨found, rfl⟩

/-- The checks read nothing of the worker that calls change. -/
theorem checkSubmit_congr {headers : HttpHeaders} {rawBody : List UInt8} {nowNs : ℕ}
    (hconfig : other.config = worker.config) (htenants : other.tenants = worker.tenants) :
    other.checkSubmit fromSlice headers rawBody nowNs =
      worker.checkSubmit fromSlice headers rawBody nowNs := by
  simp only [checkSubmit, hconfig, htenants]

/-- Calls change neither the configuration nor the tenants. -/
theorem apply_frame : (act.apply fromSlice toVec worker).config = worker.config ∧
    (act.apply fromSlice toVec worker).tenants = worker.tenants := by
  cases act with
  | submit headers rawBody nowNs =>
    rw [ProxyAct.apply, acceptSubmit]
    cases worker.checkSubmit fromSlice headers rawBody nowNs <;> exact ⟨rfl, rfl⟩
  | complete completed completedAtNs result error submitResult =>
    rw [ProxyAct.apply, completeJob]
    split
    · exact ⟨rfl, rfl⟩
    · split
      · exact ⟨rfl, rfl⟩
      · dsimp only
        split
        · exact ⟨rfl, rfl⟩
        · split <;> exact ⟨rfl, rfl⟩

/-- Whether a submission is accepted depends on nothing that calls change. -/
theorem accepted_congr (hconfig : other.config = worker.config)
    (htenants : other.tenants = worker.tenants) :
    act.accepted fromSlice other = act.accepted fromSlice worker := by
  cases act with
  | submit headers rawBody nowNs =>
    rw [ProxyAct.accepted, checkSubmit_congr hconfig htenants, ProxyAct.accepted]
  | complete => rfl

/-- The pending jobs after an accepted submission. -/
theorem pendingJob_accepted (h : act.accepted fromSlice worker = some job) :
    (act.apply fromSlice toVec worker).pendingJob jobId =
      if job.jobId = jobId then some job else worker.pendingJob jobId := by
  cases act with
  | submit headers rawBody nowNs =>
    rw [ProxyAct.accepted, toOption_eq_some] at h
    have happly : (ProxyAct.submit headers rawBody nowNs).apply fromSlice toVec worker =
        { worker with pendingJobs := worker.pendingJobs.insert job.jobId job } := by
      rw [ProxyAct.apply, acceptSubmit, h]
      rfl
    rw [happly]
    exact BTreeMap.get?_insert
  | complete => cases h

/-- A rejected submission changes nothing. -/
theorem apply_rejected {headers : HttpHeaders} {rawBody : List UInt8} {nowNs : ℕ}
    (h : (ProxyAct.submit headers rawBody nowNs).accepted fromSlice worker = none) :
    (ProxyAct.submit headers rawBody nowNs).apply fromSlice toVec worker = worker := by
  rw [ProxyAct.accepted] at h
  rw [ProxyAct.apply, acceptSubmit]
  cases hchecked : worker.checkSubmit fromSlice headers rawBody nowNs with
  | error => rfl
  | ok job => rw [hchecked] at h; cases h

/-- A completion removes the job under its id, and its callback is the envelope of that job. -/
theorem completeJob_spec {completedAtNs : ℕ} {result : Option InferenceProxyResultPayload}
    {error : Option String} {submitResult : CallbackEnvelope → Except String Unit}
    {completion : Completion}
    (h : worker.completeJob toVec jobId completedAtNs result error submitResult = completion) :
    (∀ id, completion.worker.pendingJob id =
      if jobId = id then none else worker.pendingJob id) ∧
    (completion.sent = [] ∨ ∃ pending tenant succeeded,
      worker.pendingJobs[jobId]? = some pending ∧
        worker.tenants[pending.canisterId]? = some tenant ∧
        completion.sent = [⟨worker.envelope pending tenant completedAtNs result error,
          succeeded⟩]) := by
  subst h
  unfold completeJob
  split
  · rename_i habsent
    refine ⟨fun id => ?_, .inl rfl⟩
    split_ifs with hid
    · subst hid
      exact habsent
    · rfl
  · rename_i pending hpending
    have hremoved (id : String) : ProxyWorker.pendingJob
        { worker with pendingJobs := worker.pendingJobs.erase jobId } id =
          if jobId = id then none else worker.pendingJob id := BTreeMap.get?_erase
    split
    · exact ⟨hremoved, .inl rfl⟩
    · rename_i tenant htenant
      dsimp only
      split
      · exact ⟨hremoved, .inl rfl⟩
      · split
        · exact ⟨hremoved, .inl rfl⟩
        · exact ⟨hremoved, .inr ⟨pending, tenant, _, hpending, htenant, rfl⟩⟩

/-- A completion returns no error exactly when its envelope can be delivered. -/
theorem outcome_eq_ok {completedAtNs : ℕ} {result : Option InferenceProxyResultPayload}
    {error : Option String} {submitResult : CallbackEnvelope → Except String Unit}
    {pending : PendingJob} {tenant : TenantConfig}
    (hpending : worker.pendingJobs[jobId]? = some pending)
    (htenant : worker.tenants[pending.canisterId]? = some tenant) :
    (worker.completeJob toVec jobId completedAtNs result error submitResult).outcome.toBool = true ↔
      (∃ serialized,
        toVec (worker.envelope pending tenant completedAtNs result error) = .ok serialized ∧
          serialized.length ≤ worker.config.maxCallbackPayloadBytes) ∧
        submitResult (worker.envelope pending tenant completedAtNs result error) = .ok () := by
  simp only [completeJob, hpending, htenant]
  cases toVec (worker.envelope pending tenant completedAtNs result error) with
  | error message => simp [Except.toBool]
  | ok serialized =>
    by_cases hlarge : worker.config.maxCallbackPayloadBytes < serialized.length
    · have hnot : ¬ serialized.length ≤ worker.config.maxCallbackPayloadBytes := by omega
      simp [hlarge, hnot, Except.toBool]
    · have hfits : serialized.length ≤ worker.config.maxCallbackPayloadBytes := by omega
      cases submitResult (worker.envelope pending tenant completedAtNs result error) <;>
        simp [hlarge, hfits, Except.toBool, Except.mapError]

/-- The jobs that are pending after a call: one that it accepts, and those that it leaves. -/
theorem pendingJob_apply : (act.apply fromSlice toVec worker).pendingJob jobId = some job ↔
    (act.accepted fromSlice worker = some job ∧ job.jobId = jobId) ∨
      (worker.pendingJob jobId = some job ∧ ¬ act.Completes jobId ∧
        ∀ new, act.accepted fromSlice worker = some new → new.jobId ≠ jobId) := by
  cases act with
  | submit headers rawBody nowNs =>
    cases haccepted : (ProxyAct.submit headers rawBody nowNs).accepted fromSlice worker with
    | none => simp [apply_rejected haccepted, ProxyAct.Completes]
    | some new =>
      rw [pendingJob_accepted haccepted]
      split_ifs with hid
      · constructor
        · intro h
          exact .inl ⟨h, by rw [← Option.some.inj h]; exact hid⟩
        · rintro (⟨h, -⟩ | ⟨-, -, h⟩)
          · exact h
          · exact absurd hid (h new rfl)
      · constructor
        · intro h
          refine .inr ⟨h, id, fun other hother => ?_⟩
          rw [← Option.some.inj hother]
          exact hid
        · rintro (⟨h, hjob⟩ | ⟨h, -⟩)
          · rw [← Option.some.inj h] at hjob
            exact absurd hjob hid
          · exact h
  | complete completed completedAtNs result error submitResult =>
    rw [ProxyAct.apply, (completeJob_spec rfl).1 jobId]
    split_ifs with hid
    · simp [ProxyAct.accepted, ProxyAct.Completes, hid]
    · simp [ProxyAct.accepted, ProxyAct.Completes, hid]

/-- Every call keeps the jobs under their ids and their tenants known. -/
theorem JobsInv.apply (h : JobsInv worker) : JobsInv (act.apply fromSlice toVec worker) := by
  have htenants : (act.apply fromSlice toVec worker).tenants = worker.tenants := apply_frame.2
  constructor
  · intro jobId job hjob
    rcases pendingJob_apply.mp hjob with ⟨-, hid⟩ | ⟨hjob, -⟩
    · exact hid
    · exact h.keyed hjob
  · intro jobId job hjob
    rw [htenants]
    rcases pendingJob_apply.mp hjob with ⟨haccepted, -⟩ | ⟨hjob, -⟩
    · cases act with
      | submit headers rawBody nowNs => exact tenant_of_checkSubmit (toOption_eq_some.mp haccepted)
      | complete => cases haccepted
    · exact h.known hjob

/-- The calls after a first one start from the worker that it leaves. -/
theorem workerAfter_cons : workerAfter fromSlice toVec worker (act :: acts) =
    workerAfter fromSlice toVec (act.apply fromSlice toVec worker) acts := rfl

/-- Calls in a row can be split. -/
theorem workerAfter_append : workerAfter fromSlice toVec worker (before ++ after) =
    workerAfter fromSlice toVec (workerAfter fromSlice toVec worker before) after :=
  List.foldl_append

/-- A last call comes after the others. -/
theorem workerAfter_concat : workerAfter fromSlice toVec worker (before ++ [act]) =
    act.apply fromSlice toVec (workerAfter fromSlice toVec worker before) :=
  workerAfter_append

/-- Runs change neither the configuration nor the tenants. -/
theorem workerAfter_frame : (workerAfter fromSlice toVec worker acts).config = worker.config ∧
    (workerAfter fromSlice toVec worker acts).tenants = worker.tenants := by
  induction acts generalizing worker with
  | nil => exact ⟨rfl, rfl⟩
  | cons act acts ih =>
    rw [workerAfter_cons]
    exact ⟨ih.1.trans apply_frame.1, ih.2.trans apply_frame.2⟩

/-- A submission is accepted at any time or at none. -/
theorem accepted_workerAfter :
    act.accepted fromSlice (workerAfter fromSlice toVec worker acts) =
      act.accepted fromSlice worker :=
  accepted_congr workerAfter_frame.1 workerAfter_frame.2

/-- Every run keeps the jobs under their ids and their tenants known. -/
theorem JobsInv.workerAfter (h : JobsInv worker) :
    JobsInv (workerAfter fromSlice toVec worker acts) := by
  induction acts generalizing worker with
  | nil => exact h
  | cons act acts ih => exact ih h.apply

/-- A pending job was accepted, and no later call completed it. -/
theorem exists_submission (hempty : ∀ id, worker.pendingJob id = none)
    (h : (workerAfter fromSlice toVec worker acts).pendingJob jobId = some job) :
    ∃ before submission between, acts = before ++ submission :: between ∧
      submission.accepted fromSlice worker = some job ∧ job.jobId = jobId ∧
      ∀ act ∈ between, ¬ act.Completes jobId := by
  induction acts using List.reverseRecOn with
  | nil => exact absurd h (by rw [workerAfter, List.foldl_nil, hempty]; simp)
  | append_singleton acts act ih =>
    rw [workerAfter_append] at h
    rcases pendingJob_apply.mp h with ⟨haccepted, hid⟩ | ⟨hpending, hcompletes, -⟩
    · rw [accepted_workerAfter] at haccepted
      exact ⟨acts, act, [], rfl, haccepted, hid, by simp⟩
    · obtain ⟨before, submission, between, rfl, haccepted, hid, hbetween⟩ := ih hpending
      refine ⟨before, submission, between ++ [act], by simp, haccepted, hid, ?_⟩
      intro other hother
      rcases List.mem_append.mp hother with hother | hother
      · exact hbetween other hother
      · rw [List.mem_singleton.mp hother]
        exact hcompletes

/-- The later calls of a run keep the jobs that are pending then. -/
theorem AllKeepJobs.rest (h : AllKeepJobs fromSlice toVec worker (before ++ after)) :
    AllKeepJobs fromSlice toVec (workerAfter fromSlice toVec worker before) after := by
  intro first act rest hsplit
  rw [← workerAfter_append]
  exact h (before ++ first) act rest (by rw [hsplit, List.append_assoc])

/-- The earlier calls of a run keep the jobs that are pending then. -/
theorem AllKeepJobs.start (h : AllKeepJobs fromSlice toVec worker (before ++ after)) :
    AllKeepJobs fromSlice toVec worker before := by
  intro first act rest hsplit
  exact h first act (rest ++ after) (by simp [hsplit])

/-- A call that keeps the jobs leaves each one that it does not complete. -/
theorem pendingJob_kept (hkeeps : act.KeepsJobs fromSlice toVec worker)
    (hpending : worker.pendingJob jobId = some job) (hcompletes : ¬ act.Completes jobId) :
    (act.apply fromSlice toVec worker).pendingJob jobId = some job := by
  by_cases hnew : ∃ new, act.accepted fromSlice worker = some new ∧ new.jobId = jobId
  · obtain ⟨new, hnew, rfl⟩ := hnew
    cases act with
    | submit headers rawBody nowNs =>
      obtain rfl := hkeeps new job (toOption_eq_some.mp hnew) hpending
      exact pendingJob_apply.mpr (.inl ⟨hnew, rfl⟩)
    | complete => cases hnew
  · apply pendingJob_apply.mpr
    exact .inr ⟨hpending, hcompletes, fun new haccepted hid => hnew ⟨new, haccepted, hid⟩⟩

/-- Calls that keep the jobs leave each one that they do not complete. -/
theorem pendingJob_workerAfter (hkeep : AllKeepJobs fromSlice toVec worker acts)
    (hpending : worker.pendingJob jobId = some job)
    (hcompletes : ∀ act ∈ acts, ¬ act.Completes jobId) :
    (workerAfter fromSlice toVec worker acts).pendingJob jobId = some job := by
  induction acts generalizing worker with
  | nil => exact hpending
  | cons act acts ih =>
    have hfirst := pendingJob_kept (hkeep [] act acts rfl) hpending
      (hcompletes act List.mem_cons_self)
    have hrest : AllKeepJobs fromSlice toVec (act.apply fromSlice toVec worker) acts :=
      AllKeepJobs.rest (show AllKeepJobs fromSlice toVec worker ([act] ++ acts) from hkeep)
    exact ih hrest hfirst fun later hlater => hcompletes later (List.mem_cons_of_mem _ hlater)

section Answers

/-- The callbacks for a job. -/
abbrev answersTo (jobId : String) (sent : List SentCallback) : List SentCallback :=
  sent.filter (·.envelope.args.jobId = jobId)

/-- A call answers a job only when it completes it, and then for the tenant and with the turn under
which it is pending. -/
theorem answersTo_sent (hinv : JobsInv worker) :
    answersTo jobId (act.sent toVec worker) = [] ∨
      act.Completes jobId ∧ ∃ pending answer, worker.pendingJob jobId = some pending ∧
        answersTo jobId (act.sent toVec worker) = [answer] ∧
        answer.envelope.canisterId = pending.canisterId ∧
        answer.envelope.args.turnId = pending.turnId := by
  cases act with
  | submit => exact .inl rfl
  | complete completed completedAtNs result error submitResult =>
    obtain ⟨-, hsent | ⟨pending, tenant, succeeded, hpending, -, hsent⟩⟩ := completeJob_spec
      (rfl : worker.completeJob toVec completed completedAtNs result error submitResult = _)
    · left
      rw [ProxyAct.sent, hsent]
      rfl
    · have hkey := hinv.keyed hpending
      rw [ProxyAct.sent, hsent]
      by_cases hid : completed = jobId
      · subst hid
        refine .inr ⟨rfl, pending, ⟨worker.envelope pending tenant completedAtNs result error,
          succeeded⟩, hpending, ?_, rfl, rfl⟩
        simp [answersTo, envelope, hkey]
      · left
        simp [answersTo, envelope, hkey, hid]

/-- Calls that do not take the id again answer a job at most once, and not at all when it is not
pending. -/
theorem answersTo_sentBy (hinv : JobsInv worker)
    (hnew : ∀ act ∈ acts, ∀ new, act.accepted fromSlice worker = some new → new.jobId ≠ jobId) :
    (worker.pendingJob jobId = none → answersTo jobId (sentBy fromSlice toVec worker acts) = []) ∧
    ∀ job, worker.pendingJob jobId = some job →
      (answersTo jobId (sentBy fromSlice toVec worker acts)).length ≤ 1 ∧
      ∀ answer ∈ answersTo jobId (sentBy fromSlice toVec worker acts),
        answer.envelope.canisterId = job.canisterId ∧
          answer.envelope.args.turnId = job.turnId := by
  induction acts generalizing worker with
  | nil => exact ⟨fun _ => rfl, fun job _ => by simp [sentBy]⟩
  | cons act acts ih =>
    have hnewLater : ∀ later ∈ acts, ∀ new,
        later.accepted fromSlice (act.apply fromSlice toVec worker) = some new →
          new.jobId ≠ jobId := by
      intro later hmem new haccepted
      rw [accepted_congr apply_frame.1 apply_frame.2] at haccepted
      exact hnew later (List.mem_cons_of_mem _ hmem) new haccepted
    have hlater := ih hinv.apply hnewLater
    have hact := hnew act List.mem_cons_self
    have hgone (h : act.Completes jobId ∨ worker.pendingJob jobId = none) :
        (act.apply fromSlice toVec worker).pendingJob jobId = none := by
      rw [Option.eq_none_iff_forall_ne_some]
      intro job hjob
      rcases pendingJob_apply.mp hjob with ⟨haccepted, hid⟩ | ⟨hpending, hcompletes, -⟩
      · exact hact job haccepted hid
      · rcases h with h | h
        · exact hcompletes h
        · rw [h] at hpending
          cases hpending
    have hsplit : answersTo jobId (sentBy fromSlice toVec worker (act :: acts)) =
        answersTo jobId (act.sent toVec worker) ++
          answersTo jobId (sentBy fromSlice toVec (act.apply fromSlice toVec worker) acts) :=
      List.filter_append _ _
    rw [hsplit]
    have hanswers : answersTo jobId (act.sent toVec worker) = [] ∨ _ := answersTo_sent hinv
    rcases hanswers with
      hnone | ⟨hcompletes, pending, answer, hpending, hanswer, hcanister, hturn⟩
    · rw [hnone, List.nil_append]
      constructor
      · intro habsent
        exact hlater.1 (hgone (.inr habsent))
      · intro job hjob
        by_cases hcompletes : act.Completes jobId
        · rw [hlater.1 (hgone (.inl hcompletes))]
          simp
        · exact hlater.2 job (pendingJob_apply.mpr (.inr ⟨hjob, hcompletes, hact⟩))
    · rw [hanswer, hlater.1 (hgone (.inl hcompletes))]
      constructor
      · intro habsent
        rw [habsent] at hpending
        cases hpending
      · intro job hjob
        rw [hjob] at hpending
        obtain rfl := Option.some.inj hpending
        simp [hcanister, hturn]

end Answers

section Hiding

variable {tenant other : String} {hidden : ProxyWorker}

/-- A worker without the jobs of a tenant. -/
structure Hides (other : String) (worker hidden : ProxyWorker) : Prop where
  config : hidden.config = worker.config
  tenants : hidden.tenants = worker.tenants
  jobs : ∀ jobId,
    hidden.pendingJob jobId = (worker.pendingJob jobId).filter (·.canisterId ≠ other)

/-- What a completion sends depends only on the job under its id. -/
theorem sent_congr {completedAtNs : ℕ} {result : Option InferenceProxyResultPayload}
    {error : Option String} {submitResult : CallbackEnvelope → Except String Unit}
    (hconfig : hidden.config = worker.config) (htenants : hidden.tenants = worker.tenants)
    (hjob : hidden.pendingJob jobId = worker.pendingJob jobId) :
    (hidden.completeJob toVec jobId completedAtNs result error submitResult).sent =
      (worker.completeJob toVec jobId completedAtNs result error submitResult).sent := by
  simp only [pendingJob] at hjob
  simp only [completeJob, hjob, htenants, envelope, hconfig]
  cases worker.pendingJobs[jobId]? with
  | none => rfl
  | some pending =>
    simp only
    cases worker.tenants[pending.canisterId]? with
    | none => rfl
    | some tenant =>
      simp only
      split
      · rfl
      · split <;> rfl

/-- A call of the hidden tenant. -/
theorem Hides.accepted (h : Hides other worker hidden)
    (hkeeps : act.KeepsJobs fromSlice toVec worker)
    (haccepted : act.accepted fromSlice worker = some job) (hjob : job.canisterId = other) :
    Hides other (act.apply fromSlice toVec worker) hidden ∧ act.sent toVec worker = [] := by
  cases act with
  | submit headers rawBody nowNs =>
    refine ⟨⟨h.config.trans apply_frame.1.symm, h.tenants.trans apply_frame.2.symm,
      fun id => ?_⟩, rfl⟩
    rw [pendingJob_accepted haccepted, h.jobs id]
    split_ifs with hid
    · subst hid
      cases hpending : worker.pendingJob job.jobId with
      | none => rw [Option.filter_some_neg (by simp [hjob])]; rfl
      | some pending =>
        obtain rfl := hkeeps job pending (toOption_eq_some.mp haccepted) hpending
        rfl
    · rfl
  | complete => cases haccepted

/-- A call of anyone else. -/
theorem Hides.step (h : Hides other worker hidden)
    (haccepted : (act.accepted fromSlice worker).all (·.canisterId ≠ other)) :
    Hides other (act.apply fromSlice toVec worker) (act.apply fromSlice toVec hidden) ∧
      act.sent toVec hidden =
        (act.sent toVec worker).filter (·.envelope.canisterId ≠ other) := by
  have hsame : act.accepted fromSlice hidden = act.accepted fromSlice worker :=
    accepted_congr h.config h.tenants
  have hconfig : (act.apply fromSlice toVec hidden).config =
      (act.apply fromSlice toVec worker).config :=
    apply_frame.1.trans (h.config.trans apply_frame.1.symm)
  have htenants : (act.apply fromSlice toVec hidden).tenants =
      (act.apply fromSlice toVec worker).tenants :=
    apply_frame.2.trans (h.tenants.trans apply_frame.2.symm)
  cases act with
  | submit headers rawBody nowNs =>
    refine ⟨⟨hconfig, htenants, fun id => ?_⟩, rfl⟩
    cases hnew : (ProxyAct.submit headers rawBody nowNs).accepted fromSlice worker with
    | none => rw [apply_rejected hnew, apply_rejected (hsame.trans hnew), h.jobs id]
    | some job =>
      rw [hnew] at haccepted
      rw [pendingJob_accepted hnew, pendingJob_accepted (hsame.trans hnew), h.jobs id]
      split_ifs
      · rw [Option.filter_some_pos (by simpa using haccepted)]
      · rfl
  | complete completed completedAtNs result error submitResult =>
    constructor
    · refine ⟨hconfig, htenants, fun id => ?_⟩
      rw [ProxyAct.apply, ProxyAct.apply, (completeJob_spec rfl).1 id, (completeJob_spec rfl).1 id,
        h.jobs id]
      split_ifs <;> rfl
    · rw [ProxyAct.sent, ProxyAct.sent]
      obtain ⟨-, hsent⟩ := completeJob_spec
        (rfl : worker.completeJob toVec completed completedAtNs result error submitResult = _)
      obtain ⟨-, hsentHidden⟩ := completeJob_spec
        (rfl : hidden.completeJob toVec completed completedAtNs result error submitResult = _)
      have hjobs := h.jobs completed
      by_cases hhides : ∃ pending, worker.pendingJob completed = some pending ∧
          pending.canisterId = other
      · obtain ⟨pending, hpending, hother⟩ := hhides
        rw [hpending, Option.filter_some_neg (by simp [hother])] at hjobs
        rcases hsentHidden with hnone | ⟨job, -, -, hjob, -⟩
        · rw [hnone]
          rcases hsent with hsent | ⟨job, tenant, succeeded, hjob, -, hsent⟩
          · rw [hsent]
            rfl
          · obtain rfl := Option.some.inj (hpending.symm.trans hjob)
            simp [hsent, envelope, hother]
        · rw [ProxyWorker.pendingJob, hjob] at hjobs
          cases hjobs
      · have hsame : hidden.pendingJob completed = worker.pendingJob completed := by
          rw [hjobs]
          cases hpending : worker.pendingJob completed with
          | none => rfl
          | some pending => simpa using fun hother => hhides ⟨pending, hpending, hother⟩
        rw [sent_congr h.config h.tenants hsame]
        rcases hsent with hsent | ⟨job, tenant, succeeded, hjob, -, hsent⟩
        · rw [hsent]
          rfl
        · have hother : job.canisterId ≠ other := fun hother => hhides ⟨job, hjob, hother⟩
          simp [hsent, envelope, hother]

/-- Which submissions are left out depends on nothing that calls change. -/
theorem withoutTenant_apply :
    withoutTenant fromSlice (act.apply fromSlice toVec worker) other acts =
      withoutTenant fromSlice worker other acts := by
  simp only [withoutTenant, accepted_congr apply_frame.1 apply_frame.2]

/-- A call is left out when it is an accepted submission of the tenant. -/
theorem withoutTenant_cons : withoutTenant fromSlice worker other (act :: acts) =
    if (act.accepted fromSlice worker).all (·.canisterId ≠ other) then
      act :: withoutTenant fromSlice worker other acts
    else withoutTenant fromSlice worker other acts :=
  List.filter_cons

/-- Along calls that keep the jobs, leaving out a tenant's submissions hides its jobs and callbacks
and no others. -/
theorem Hides.run (h : Hides other worker hidden)
    (hkeep : AllKeepJobs fromSlice toVec worker acts) :
    Hides other (workerAfter fromSlice toVec worker acts)
        (workerAfter fromSlice toVec hidden (withoutTenant fromSlice worker other acts)) ∧
      sentBy fromSlice toVec hidden (withoutTenant fromSlice worker other acts) =
        (sentBy fromSlice toVec worker acts).filter (·.envelope.canisterId ≠ other) := by
  induction acts generalizing worker hidden with
  | nil => exact ⟨h, rfl⟩
  | cons act acts ih =>
    have hrest : AllKeepJobs fromSlice toVec (act.apply fromSlice toVec worker) acts :=
      AllKeepJobs.rest (show AllKeepJobs fromSlice toVec worker ([act] ++ acts) from hkeep)
    rw [workerAfter_cons, sentBy, List.filter_append]
    by_cases haccepted : (act.accepted fromSlice worker).all (·.canisterId ≠ other)
    · have hboth : Hides other (act.apply fromSlice toVec worker)
          (act.apply fromSlice toVec hidden) ∧ _ := h.step haccepted
      obtain ⟨hstep, hsent⟩ := hboth
      obtain ⟨hhides, hlater⟩ := ih hstep hrest
      rw [withoutTenant_apply] at hhides hlater
      rw [withoutTenant_cons, if_pos haccepted]
      exact ⟨hhides, by rw [sentBy, hsent]; exact congrArg _ hlater⟩
    · cases hnew : act.accepted fromSlice worker with
      | none => simp [hnew] at haccepted
      | some job =>
        have hjob : job.canisterId = other := by simpa [hnew] using haccepted
        obtain ⟨hstep, hsent⟩ := h.accepted (hkeep [] act acts rfl) hnew hjob
        obtain ⟨hhides, hlater⟩ := ih hstep hrest
        rw [withoutTenant_apply] at hhides hlater
        rw [withoutTenant_cons, if_neg haccepted, hsent]
        exact ⟨hhides, hlater⟩

/-- A tenant's number of pending jobs is determined by its jobs. -/
theorem pendingCountFor_congr
    (h : ∀ jobId, jobsOf worker tenant jobId = jobsOf hidden tenant jobId) :
    worker.pendingCountFor tenant = hidden.pendingCountFor tenant := by
  have hmem (w : ProxyWorker) (entry : String × PendingJob) :
      entry ∈ w.pendingJobs.toList.filter (·.2.canisterId = tenant) ↔
        jobsOf w tenant entry.1 = some entry.2 := by
    rw [List.mem_filter, jobsOf, pendingJob, Option.filter_eq_some_iff,
      Std.ExtTreeMap.mem_toList_iff_getElem?_eq_some]
  rw [pendingCountFor, pendingCountFor, List.countP_eq_length_filter, List.countP_eq_length_filter]
  apply List.Perm.length_eq
  rw [List.perm_ext_iff_of_nodup (BTreeMap.nodup_toList.filter _) (BTreeMap.nodup_toList.filter _)]
  intro entry
  rw [hmem, hmem, h]

/-- Calls that keep the jobs affect no other tenant. -/
theorem unaffected_of_allKeepJobs (hkeep : AllKeepJobs fromSlice toVec worker acts)
    (hempty : ∀ id, worker.pendingJob id = none) : Unaffected fromSlice toVec worker acts := by
  intro tenant other hne
  have hstart : Hides other worker worker := ⟨rfl, rfl, fun id => by rw [hempty]; rfl⟩
  obtain ⟨hhides, hsent⟩ := hstart.run hkeep
  have hjobs : ∀ jobId, jobsOf (workerAfter fromSlice toVec worker acts) tenant jobId =
      jobsOf (workerAfter fromSlice toVec worker (withoutTenant fromSlice worker other acts))
        tenant jobId := by
    intro jobId
    rw [jobsOf, jobsOf, hhides.jobs, Option.filter_filter]
    congr 1
    funext job
    by_cases hjob : job.canisterId = tenant
    · simp [hjob, hne]
    · simp [hjob]
  refine ⟨hjobs, pendingCountFor_congr hjobs, ?_⟩
  rw [callbacksTo, callbacksTo, hsent, List.filter_filter]
  congr 1
  funext callback
  by_cases hcallback : callback.envelope.canisterId = tenant
  · simp [hcallback, hne]
  · simp [hcallback]

end Hiding

/-- A new worker has no pending jobs. -/
theorem pendingJob_new {config : WorkerConfig} {tenants : List TenantConfig}
    (h : ProxyWorker.new config tenants = .ok worker) : worker.pendingJob jobId = none := by
  simp only [new, throw_bind, ite_error_eq_ok, bind_eq_ok, pure_eq_ok] at h
  obtain ⟨-, -, -, -, -, rfl⟩ := h
  rfl

/-- When every accepted job stays pending and every failed completion can be repeated, all calls
keep the jobs. -/
theorem Isolated.allKeepJobs (h : Isolated fromSlice toVec worker acts)
    (hempty : ∀ id, worker.pendingJob id = none) : AllKeepJobs fromSlice toVec worker acts := by
  intro before act after hsplit
  cases act with
  | submit headers rawBody nowNs =>
    intro job pending hchecked hpending
    obtain ⟨first, submission, between, rfl, haccepted, hid, hbetween⟩ :=
      exists_submission hempty hpending
    have hnew : (ProxyAct.submit headers rawBody nowNs).accepted fromSlice (workerAfter fromSlice
        toVec worker (first ++ submission :: between)) = some job := toOption_eq_some.mpr hchecked
    have hstays := h.staysPending first submission (between ++ [.submit headers rawBody nowNs])
      after pending (by simp [hsplit]) haccepted (by
        intro act hact
        rcases List.mem_append.mp hact with hact | hact
        · rw [hid]
          exact hbetween act hact
        · rw [List.mem_singleton.mp hact]
          exact id)
    rw [← List.cons_append, ← List.append_assoc, workerAfter_concat, hid] at hstays
    rcases pendingJob_apply.mp hstays with ⟨hsame, -⟩ | ⟨-, -, hother⟩
    · exact Option.some.inj (hsame.symm.trans hnew)
    · exact absurd rfl (hother job hnew)
  | complete jobId completedAtNs result error submitResult =>
    intro pending tenant hpending htenant
    rw [← outcome_eq_ok hpending htenant, ← Bool.not_eq_false]
    intro hfails
    have hstays := h.staysRetryable before _ after jobId pending hsplit rfl hfails hpending
    rw [workerAfter_concat] at hstays
    rcases pendingJob_apply.mp hstays with ⟨haccepted, -⟩ | ⟨-, hcompletes, -⟩
    · cases haccepted
    · exact hcompletes rfl

/-- When all calls keep the jobs, tenants can rely on the worker. -/
theorem AllKeepJobs.isolated (h : AllKeepJobs fromSlice toVec worker acts)
    (hempty : ∀ id, worker.pendingJob id = none) : Isolated fromSlice toVec worker acts := by
  have hstart : JobsInv worker := by
    constructor <;> intro jobId job hjob <;> rw [hempty] at hjob <;> cases hjob
  have hsubmitted (before : List ProxyAct) (submission : ProxyAct) (job : PendingJob)
      (haccepted : submission.accepted fromSlice worker = some job) :
      (workerAfter fromSlice toVec worker (before ++ [submission])).pendingJob job.jobId =
        some job := by
    rw [workerAfter_concat]
    apply pendingJob_apply.mpr
    exact .inl ⟨accepted_workerAfter.trans haccepted, rfl⟩
  refine ⟨?_, ?_, ?_, ?_⟩
  · rintro before ⟨after, rfl⟩
    exact unaffected_of_allKeepJobs h.start hempty
  · rintro before submission between after job rfl haccepted hbetween
    have hrest : AllKeepJobs fromSlice toVec (workerAfter fromSlice toVec worker
        (before ++ [submission])) between := by
      have hsplit : AllKeepJobs fromSlice toVec worker
          ((before ++ [submission]) ++ (between ++ after)) := by simpa using h
      exact hsplit.rest.start
    have hpending := hsubmitted before submission job haccepted
    have hstays := pendingJob_workerAfter hrest hpending hbetween
    rwa [← workerAfter_append, List.append_assoc, List.singleton_append] at hstays
  · rintro before submission between after job rfl haccepted hbetween
    have hinv : JobsInv (workerAfter fromSlice toVec worker (before ++ [submission])) :=
      hstart.workerAfter
    refine (answersTo_sentBy hinv ?_).2 job (hsubmitted before submission job haccepted)
    intro act hact new hnew
    rw [accepted_workerAfter] at hnew
    exact hbetween act hact new hnew
  · rintro before completion after jobId job rfl hcompletes hfails hpending
    cases completion with
    | submit => exact absurd hcompletes id
    | complete completed completedAtNs result error submitResult =>
      obtain rfl := hcompletes
      obtain ⟨tenant, htenant⟩ := hstart.workerAfter.known hpending
      have hok := (outcome_eq_ok hpending htenant).mpr
        (h before _ after rfl job tenant hpending htenant)
      rw [ProxyAct.Fails, hok] at hfails
      cases hfails

/-- The tenants of a worker can rely on it in exactly the runs in which no submission takes the id
of a pending job and every completion of a pending job can be delivered. -/
theorem isolated_iff {config : WorkerConfig} {tenants : List TenantConfig}
    (hnew : ProxyWorker.new config tenants = .ok worker) :
    Isolated fromSlice toVec worker acts ↔ AllKeepJobs fromSlice toVec worker acts :=
  ⟨fun h => h.allKeepJobs fun _ => pendingJob_new hnew,
    fun h => h.isolated fun _ => pendingJob_new hnew⟩

end Steps

section Example

/-- A text as JSON, when it has no characters to escape. -/
def quoted (text : String) : String := "\"" ++ text ++ "\""

/-- The body of a submission. -/
def submitBody (canisterId turnId jobId : String) : List UInt8 :=
  ("\x7b\"canister_id\":" ++ quoted canisterId ++ ",\"turn_id\":" ++ quoted turnId ++
    ",\"job_id\":" ++ quoted jobId ++ ",\"model\":\"openai/gpt-4o-mini\"," ++
    "\"inference_request\":\x7b\x7d\x7d").toUTF8.toList

/-- A reader of the bodies of two submissions. -/
def readBody (rawBody : List UInt8) : Except String SubmitJobRequest :=
  let request (canisterId turnId : String) : SubmitJobRequest :=
    ⟨canisterId, turnId, "job-1", "openai/gpt-4o-mini"⟩
  if rawBody = submitBody "mdwwn-niaaa-aaaab-qabta-cai" "turn-1" "job-1" then
    .ok (request "mdwwn-niaaa-aaaab-qabta-cai" "turn-1")
  else if rawBody = submitBody "ulvla-h7777-77774-qaacq-cai" "turn-2" "job-1" then
    .ok (request "ulvla-h7777-77774-qaacq-cai" "turn-2")
  else .error "expected value at line 1 column 1"

/-- The JSON text of an envelope without a result. -/
def writeEnvelope (envelope : CallbackEnvelope) : Except String (List UInt8) :=
  .ok ("\x7b\"canister_id\":" ++ quoted envelope.canisterId ++
    ",\"method\":" ++ quoted envelope.method ++
    ",\"caller_principal\":" ++ quoted envelope.callerPrincipal ++
    ",\"args\":\x7b\"job_id\":" ++ quoted envelope.args.jobId ++
    ",\"turn_id\":" ++ quoted envelope.args.turnId ++
    ",\"completed_at_ns\":" ++ toString envelope.args.completedAtNs ++
    ",\"result\":null,\"error\":" ++ envelope.args.error.elim "null" quoted ++
    "\x7d\x7d").toUTF8.toList

/-- The configuration of a worker. -/
def exampleConfig : WorkerConfig := ⟨"w36hm-eqaaa-aaaal-qr76a-cai", 4096, 8192⟩

/-- Two tenants. -/
def exampleTenants : List TenantConfig :=
  [⟨"mdwwn-niaaa-aaaab-qabta-cai", "tenant-a-token", defaultCallbackMethod⟩,
    ⟨"ulvla-h7777-77774-qaacq-cai", "tenant-b-token", ""⟩]

/-- The worker of the two tenants. -/
def exampleWorker : ProxyWorker where
  config := exampleConfig
  tenants := exampleTenants.foldl (fun tenants tenant => tenants.insert tenant.canisterId tenant) ∅
  pendingJobs := ∅

/-- The headers of a submission. -/
def exampleHeaders (token : String) : HttpHeaders :=
  .new [("Authorization", "Bearer " ++ token), ("X-OpenRouter-Api-Key", "sk-or-test-value")]

/-- The first tenant submits a job. -/
def firstSubmission : ProxyAct :=
  .submit (exampleHeaders "tenant-a-token")
    (submitBody "mdwwn-niaaa-aaaab-qabta-cai" "turn-1" "job-1") 1

/-- The second tenant submits a job under the same id. -/
def secondSubmission : ProxyAct :=
  .submit (exampleHeaders "tenant-b-token")
    (submitBody "ulvla-h7777-77774-qaacq-cai" "turn-2" "job-1") 2

/-- The job ends with an error, and the callback has an outcome. -/
def exampleCompletion (callback : Except String Unit) : ProxyAct :=
  .complete "job-1" 3 none (some "timeout") fun _ => callback

/-- The job of the first tenant. -/
def firstJob : PendingJob :=
  ⟨"mdwwn-niaaa-aaaab-qabta-cai", "turn-1", "job-1", "openai/gpt-4o-mini", 1⟩

/-- One job that is submitted and answered leaves nothing to wish for. -/
theorem exampleCompletion_isolated : Isolated readBody writeEnvelope exampleWorker
    [firstSubmission, exampleCompletion (.ok ())] := by
  have hnew : ProxyWorker.new exampleConfig exampleTenants = .ok exampleWorker := rfl
  refine (isolated_iff hnew).mpr ?_
  intro before act after hsplit
  match before, hsplit with
  | [], hsplit =>
    obtain ⟨rfl, -⟩ := List.cons.inj hsplit
    intro job pending _ hpending
    exact absurd hpending (by simp [exampleWorker, workerAfter])
  | [_], hsplit =>
    obtain ⟨rfl, hrest⟩ := List.cons.inj hsplit
    obtain ⟨rfl, -⟩ := List.cons.inj hrest
    intro pending tenant hpending htenant
    have hok : (completeJob writeEnvelope (workerAfter readBody writeEnvelope exampleWorker
        [firstSubmission]) "job-1" 3 none (some "timeout")
        fun _ => .ok ()).outcome.toBool = true := by decide +kernel
    exact (outcome_eq_ok hpending htenant).mp hok
  | _ :: _ :: before, hsplit => simp at hsplit

/-- A submission of another tenant under the same id takes the place of a pending job, and a job is
lost when its callback fails. -/
theorem sharedJobId_not_isolated :
    ProxyWorker.new exampleConfig exampleTenants = .ok exampleWorker ∧
      ¬ Isolated readBody writeEnvelope exampleWorker [firstSubmission, secondSubmission] ∧
      ¬ Isolated readBody writeEnvelope exampleWorker
        [firstSubmission, exampleCompletion (.error "canister is stopped")] := by
  refine ⟨rfl, ?_, ?_⟩
  · intro h
    have hstays := h.staysPending [] firstSubmission [secondSubmission] [] firstJob rfl
      (by decide +kernel) (by simp [secondSubmission, ProxyAct.Completes])
    exact absurd hstays (by decide +kernel)
  · intro h
    have hstays := h.staysRetryable [firstSubmission] _ [] "job-1" firstJob rfl rfl
      (show Except.toBool _ = false by decide +kernel) (by decide +kernel)
    exact absurd hstays (by decide +kernel)

end Example

end Automaton.OpenRouterProxy
