import Mathlib.Data.String.Basic
import Automaton.Agent.QueueSteps

/-!
# Deduplication of jobs

A job is enqueued only when no job that has not ended has its dedupe key. The query that looks
for such a job never finds one in flight, and takes the key for a pattern.
-/

namespace Automaton.Agent

/-- What happens to the jobs. -/
inductive DedupeAct
  | enqueue (kind : TaskKind) (lane : TaskLane) (dedupeKey : String)
      (scheduledForNs priority nowNs : ℕ)
  | pop (lane : TaskLane) (nowNs : ℕ)
  | acquire (jobId : String) (nowNs ttlNs : ℕ)
  | complete (jobId : String) (status : JobStatus) (error : Option String) (nowNs : ℕ)
      (retryAfterSecs : Option ℕ)
  | recover (nowNs : ℕ)

/-- The rows after an act. -/
def DedupeAct.apply (act : DedupeAct) (store : Store) : Store :=
  match act with
  | .enqueue kind lane dedupeKey scheduledForNs priority nowNs =>
    (store.enqueueJobIfAbsent kind lane dedupeKey scheduledForNs priority nowNs).1
  | .pop lane nowNs => (store.popNextPendingJob lane nowNs).elim store (·.2)
  | .acquire jobId nowNs ttlNs => (store.acquireMutatingLease jobId nowNs ttlNs).toOption.getD store
  | .complete jobId status error nowNs retryAfterSecs =>
    store.completeJob jobId status error nowNs retryAfterSecs
  | .recover nowNs => store.recoverStaleLease nowNs

/-- A job with the dedupe key that has not ended is stored under the id. -/
def Store.HasActive (store : Store) (jobId dedupeKey : String) : Prop :=
  ∃ job, store.jobs[jobId]? = some job ∧ job.status.isTerminal = false ∧
    job.dedupeKey = dedupeKey

/-- No two jobs that have not ended have the same dedupe key. -/
def Store.ActiveKeysUnique (store : Store) : Prop :=
  ∀ jobId jobId' dedupeKey, store.HasActive jobId dedupeKey → store.HasActive jobId' dedupeKey →
    jobId = jobId'

/-- Enqueueing is refused exactly when a job with the key has not ended. -/
def DedupeAct.AnswersExactly (act : DedupeAct) (store : Store) : Prop :=
  match act with
  | .enqueue kind lane dedupeKey scheduledForNs priority nowNs =>
    (store.enqueueJobIfAbsent kind lane dedupeKey scheduledForNs priority nowNs).2 = none ↔
      ∃ jobId, store.HasActive jobId dedupeKey
  | _ => True

/-- In every state of a run the keys are unique, and every answer is exact. -/
def DedupesExactly (store : Store) : List DedupeAct → Prop
  | [] => store.ActiveKeysUnique
  | act :: acts =>
    store.ActiveKeysUnique ∧ act.AnswersExactly store ∧ DedupesExactly (act.apply store) acts

/-- The query of `find_job_by_dedupe_key` lists a job. -/
def ScheduledJob.Listed (job : ScheduledJob) (dedupeKey : String) : Prop :=
  job.status = .pending ∧ Sql.like (dedupePattern dedupeKey) job.payloadJson = true

/-- A job with the key that has not ended is the first one that the query lists, and a job that has
ended is opened again only when no other job with its key has not ended. -/
def DedupeAct.ListsActive (act : DedupeAct) (store : Store) : Prop :=
  match act with
  | .enqueue _ _ dedupeKey _ _ _ => ∀ (jobId : String) (job : ScheduledJob),
      store.jobs[jobId]? = some job → job.status.isTerminal = false → job.dedupeKey = dedupeKey →
      job.Listed dedupeKey ∧ ∀ (otherId : String) (other : ScheduledJob),
        store.jobs[otherId]? = some other → otherId < jobId → ¬ other.Listed dedupeKey
  | .complete jobId status _ _ retryAfterSecs => ∀ job : ScheduledJob,
      store.jobs[jobId]? = some job → job.status.isTerminal = true →
      job.shouldRetry status retryAfterSecs = true ∨ status.isTerminal = false →
      ∀ other, ¬ store.HasActive other job.dedupeKey
  | _ => True

/-- Every act of a run meets the condition. -/
def AlwaysListsActive (store : Store) : List DedupeAct → Prop
  | [] => True
  | act :: acts => act.ListsActive store ∧ AlwaysListsActive (act.apply store) acts

/-- Jobs are stored under their ids. -/
def Store.JobsKeyed (store : Store) : Prop :=
  ∀ (jobId : String) (job : ScheduledJob), store.jobs[jobId]? = some job → job.id = jobId

section Keys

variable {s t : Store} {job : ScheduledJob}

theorem Store.JobsKeyed.insert (h : s.JobsKeyed) (hjobs : t.jobs = s.jobs.insert job.id job) :
    t.JobsKeyed := by
  intro jobId stored hstored
  rw [hjobs, BTreeMap.get?_insert] at hstored
  split at hstored
  · obtain rfl := Option.some.inj hstored
    assumption
  · exact h jobId stored hstored

/-- A job that is active after an insertion was active before, or is the inserted one. -/
theorem Store.HasActive.of_insert {jobId dedupeKey : String}
    (hjobs : t.jobs = s.jobs.insert job.id job) (h : t.HasActive jobId dedupeKey) :
    s.HasActive jobId dedupeKey ∧ jobId ≠ job.id ∨
      jobId = job.id ∧ job.status.isTerminal = false ∧ job.dedupeKey = dedupeKey := by
  obtain ⟨stored, hstored, hactive, hkey⟩ := h
  rw [hjobs, BTreeMap.get?_insert] at hstored
  split at hstored
  · rename_i hid
    obtain rfl := Option.some.inj hstored
    exact .inr ⟨hid.symm, hactive, hkey⟩
  · rename_i hid
    exact .inl ⟨⟨stored, hstored, hactive, hkey⟩, Ne.symm hid⟩

/-- Keys stay unique when the inserted job has ended or has a key of no other active job. -/
theorem Store.ActiveKeysUnique.insert (h : s.ActiveKeysUnique)
    (hjobs : t.jobs = s.jobs.insert job.id job)
    (hother : job.status.isTerminal = false →
      ∀ other, other ≠ job.id → ¬ s.HasActive other job.dedupeKey) : t.ActiveKeysUnique := by
  intro jobId jobId' dedupeKey hfirst hsecond
  rcases hfirst.of_insert hjobs with ⟨hold, hne⟩ | ⟨rfl, hactive, rfl⟩
  · rcases hsecond.of_insert hjobs with ⟨hold', -⟩ | ⟨rfl, hactive, rfl⟩
    · exact h jobId jobId' dedupeKey hold hold'
    · exact absurd hold (hother hactive jobId hne)
  · rcases hsecond.of_insert hjobs with ⟨hold', hne⟩ | ⟨rfl, -, -⟩
    · exact absurd hold' (hother hactive jobId' hne)
    · rfl

theorem Store.ActiveKeysUnique.congr (h : s.ActiveKeysUnique) (hjobs : t.jobs = s.jobs) :
    t.ActiveKeysUnique := by
  intro jobId jobId' dedupeKey hfirst hsecond
  unfold Store.HasActive at hfirst hsecond
  rw [hjobs] at hfirst hsecond
  exact h jobId jobId' dedupeKey hfirst hsecond

end Keys

/-- The job that an act stores. -/
inductive StoresJob (s : Store) : DedupeAct → ScheduledJob → Prop
  | new {kind : TaskKind} {lane : TaskLane} {dedupeKey : String}
      {scheduledForNs priority nowNs : ℕ} {job : ScheduledJob}
      (hnone : s.findJobByDedupeKey dedupeKey = none) (hkey : job.dedupeKey = dedupeKey) :
      StoresJob s (.enqueue kind lane dedupeKey scheduledForNs priority nowNs) job
  | started {lane : TaskLane} {key : String} {job : ScheduledJob} {nowNs : ℕ}
      (hstored : s.jobs[key]? = some job) (hpending : job.status = .pending) :
      StoresJob s (.pop lane nowNs) (job.start nowNs)
  | completed {jobId : String} {job : ScheduledJob} {status : JobStatus} {error : Option String}
      {nowNs : ℕ} {retryAfterSecs : Option ℕ} (hstored : s.jobs[jobId]? = some job) :
      StoresJob s (.complete jobId status error nowNs retryAfterSecs)
        (job.complete status error nowNs retryAfterSecs)
  | recovered {job : ScheduledJob} {error : Option String} {nowNs : ℕ} :
      StoresJob s (.recover nowNs) (job.complete .timedOut error nowNs none)

section Acts

variable {s : Store} {act : DedupeAct}

theorem completeJob_jobs {jobId : String} {job : ScheduledJob} {status : JobStatus}
    {error : Option String} {nowNs : ℕ} {retryAfterSecs : Option ℕ}
    (hstored : s.jobs[jobId]? = some job) :
    (s.completeJob jobId status error nowNs retryAfterSecs).jobs =
      s.jobs.insert (job.complete status error nowNs retryAfterSecs).id
        (job.complete status error nowNs retryAfterSecs) := by
  unfold Store.completeJob
  rw [hstored]
  rfl

/-- An act leaves the jobs as they are or stores one job under its id. -/
theorem apply_jobs (s : Store) (act : DedupeAct) : (act.apply s).jobs = s.jobs ∨
    ∃ job, StoresJob s act job ∧ (act.apply s).jobs = s.jobs.insert job.id job := by
  cases act with
  | enqueue kind lane dedupeKey scheduledForNs priority nowNs =>
    rw [DedupeAct.apply]
    rcases enqueueJobIfAbsent_cases kind lane dedupeKey scheduledForNs priority nowNs s with
      ⟨-, heq⟩ | ⟨hfind, job, hjob, heq⟩
    · rw [heq]
      exact .inl rfl
    · rw [heq]
      exact .inr ⟨job, .new (Option.isNone_iff_eq_none.mp hfind) (by rw [hjob, newJob_dedupeKey]),
        jobs_storeNewJob⟩
  | pop lane nowNs =>
    rw [DedupeAct.apply]
    cases hpop : s.popNextPendingJob lane nowNs with
    | none => exact .inl rfl
    | some entry =>
      obtain ⟨job, hhead, rfl⟩ := Option.map_eq_some_iff.mp hpop
      obtain ⟨key, hstored, hpending⟩ := stored_of_mem_duePendingJobs (List.mem_of_head? hhead)
      exact .inr ⟨job.start nowNs, .started hstored hpending, rfl⟩
  | acquire jobId nowNs ttlNs =>
    rw [DedupeAct.apply]
    cases hacquire : s.acquireMutatingLease jobId nowNs ttlNs with
    | error => exact .inl rfl
    | ok t => exact .inl (acquireMutatingLease_step hacquire).2.1
  | complete jobId status error nowNs retryAfterSecs =>
    rw [DedupeAct.apply]
    cases hstored : s.jobs[jobId]? with
    | none =>
      rw [completeJob_eq_self hstored]
      exact .inl rfl
    | some job => exact .inr ⟨_, .completed hstored, completeJob_jobs hstored⟩
  | recover nowNs =>
    rw [DedupeAct.apply, recoverStaleLease_eq]
    cases s.staleLease nowNs with
    | none => exact .inl rfl
    | some lease =>
      cases hstored : s.jobs[lease.jobId]? with
      | none =>
        rw [Option.elim_some, completeJob_eq_self hstored]
        exact .inl rfl
      | some job => exact .inr ⟨_, .recovered, completeJob_jobs hstored⟩

/-- An act keeps jobs under their ids. -/
theorem Store.JobsKeyed.apply (h : s.JobsKeyed) : (act.apply s).JobsKeyed := by
  rcases apply_jobs s act with hsame | ⟨job, -, hjobs⟩
  · intro jobId job hstored
    exact h jobId job (hsame ▸ hstored)
  · exact h.insert hjobs

/-- The query answers with the first job that it lists, if that one has the key. -/
theorem findJobByDedupeKey_eq_some_iff {dedupeKey : String} {job : ScheduledJob} :
    s.findJobByDedupeKey dedupeKey = some job ↔ ∃ jobId : String,
      s.jobs[jobId]? = some job ∧ job.dedupeKey = dedupeKey ∧ job.Listed dedupeKey ∧
        ∀ (otherId : String) (other : ScheduledJob), s.jobs[otherId]? = some other →
          otherId < jobId → ¬ other.Listed dedupeKey := by
  have hlisted (row : ScheduledJob) :
      ((row.status.asStr = "Pending" || row.status.asStr = "Running") &&
        Sql.like (dedupePattern dedupeKey) row.payloadJson) = true ↔ row.Listed dedupeKey := by
    unfold ScheduledJob.Listed
    simp only [Bool.and_eq_true, Bool.or_eq_true, decide_eq_true_eq]
    exact and_congr_left fun _ => ⟨status_of_asStr, fun h => .inl (by rw [h]; rfl)⟩
  have hbefore (a b : String) : compare a b = .lt ↔ a < b := compare_lt_iff_lt
  unfold Store.findJobByDedupeKey
  rw [Option.filter_eq_some_iff, List.find?_map, Option.map_eq_some_iff]
  constructor
  · rintro ⟨⟨entry, hfind, rfl⟩, hkey⟩
    obtain ⟨hstored, htest, hfirst⟩ := BTreeMap.find?_toList_eq_some_iff.mp hfind
    refine ⟨entry.1, hstored, of_decide_eq_true hkey, (hlisted _).mp htest, ?_⟩
    intro otherId other hother hlt hlists
    have hfails := hfirst (otherId, other) hother ((hbefore _ _).mpr hlt)
    rw [Function.comp_apply, (hlisted other).mpr hlists] at hfails
    cases hfails
  · rintro ⟨jobId, hstored, hkey, hlists, hfirst⟩
    refine ⟨⟨(jobId, job), ?_, rfl⟩, decide_eq_true hkey⟩
    refine BTreeMap.find?_toList_eq_some_iff.mpr ⟨hstored, (hlisted job).mpr hlists, ?_⟩
    rintro ⟨otherId, other⟩ hother hlt
    rw [← Bool.not_eq_true]
    intro htest
    exact hfirst otherId other hother ((hbefore _ _).mp hlt) ((hlisted other).mp htest)

/-- Enqueueing answers exactly when the query finds what it should find. -/
theorem answersExactly_iff_isSome {kind : TaskKind} {lane : TaskLane} {dedupeKey : String}
    {scheduledForNs priority nowNs : ℕ} :
    (DedupeAct.enqueue kind lane dedupeKey scheduledForNs priority nowNs).AnswersExactly s ↔
      ((∃ jobId, s.HasActive jobId dedupeKey) →
        (s.findJobByDedupeKey dedupeKey).isSome = true) := by
  have hfound (h : (s.findJobByDedupeKey dedupeKey).isSome = true) :
      ∃ jobId, s.HasActive jobId dedupeKey := by
    obtain ⟨job, hjob⟩ := Option.isSome_iff_exists.mp h
    obtain ⟨⟨jobId, hstored⟩, hpending, hkey⟩ := of_findJobByDedupeKey hjob
    exact ⟨jobId, job, hstored, by rw [hpending]; rfl, hkey⟩
  unfold DedupeAct.AnswersExactly
  dsimp only
  rcases enqueueJobIfAbsent_cases kind lane dedupeKey scheduledForNs priority nowNs s with
    ⟨hfind, heq⟩ | ⟨hfind, job, -, heq⟩
  · have hsome : (s.findJobByDedupeKey dedupeKey).isSome = true := by
      rwa [Option.isNone_eq_false_iff] at hfind
    rw [heq]
    exact ⟨fun _ _ => hsome, fun _ => ⟨fun _ => hfound hsome, fun _ => rfl⟩⟩
  · have hnone : ¬ (s.findJobByDedupeKey dedupeKey).isSome = true := by
      rw [Option.isNone_iff_eq_none.mp hfind]
      simp
    rw [heq]
    constructor
    · intro h hactive
      cases h.mpr hactive
    · intro h
      constructor
      · intro hjob
        cases hjob
      · intro hactive
        exact absurd (h hactive) hnone

/-- With unique keys, enqueueing answers exactly when the query lists the open job first. -/
theorem answersExactly_iff_listsActive (hunique : s.ActiveKeysUnique) {kind : TaskKind}
    {lane : TaskLane} {dedupeKey : String} {scheduledForNs priority nowNs : ℕ} :
    (DedupeAct.enqueue kind lane dedupeKey scheduledForNs priority nowNs).AnswersExactly s ↔
      (DedupeAct.enqueue kind lane dedupeKey scheduledForNs priority nowNs).ListsActive s := by
  rw [answersExactly_iff_isSome]
  constructor
  · intro hfinds jobId job hstored hopen hkey
    have hactive : s.HasActive jobId dedupeKey := ⟨job, hstored, hopen, hkey⟩
    obtain ⟨found, hfound⟩ := Option.isSome_iff_exists.mp (hfinds ⟨jobId, hactive⟩)
    obtain ⟨foundId, hfoundStored, hfoundKey, hlists, hfirst⟩ :=
      findJobByDedupeKey_eq_some_iff.mp hfound
    have hfoundActive : s.HasActive foundId dedupeKey :=
      ⟨found, hfoundStored, by rw [hlists.1]; rfl, hfoundKey⟩
    obtain rfl := hunique _ _ _ hactive hfoundActive
    obtain rfl := Option.some.inj (hstored.symm.trans hfoundStored)
    exact ⟨hlists, hfirst⟩
  · rintro hlists ⟨jobId, job, hstored, hopen, hkey⟩
    obtain ⟨hlisted, hfirst⟩ := hlists jobId job hstored hopen hkey
    exact Option.isSome_iff_exists.mpr ⟨job, findJobByDedupeKey_eq_some_iff.mpr
      ⟨jobId, hstored, hkey, hlisted, hfirst⟩⟩

/-- A completed job is open when it is retried, or completed with a status that is open. -/
theorem complete_isTerminal_eq_false {job : ScheduledJob} {status : JobStatus}
    {error : Option String} {nowNs : ℕ} {retryAfterSecs : Option ℕ} :
    (job.complete status error nowNs retryAfterSecs).status.isTerminal = false ↔
      job.shouldRetry status retryAfterSecs = true ∨ status.isTerminal = false := by
  unfold ScheduledJob.complete
  dsimp only
  split
  · rename_i hretry
    exact iff_of_true rfl (.inl hretry)
  · rename_i hretry
    exact ⟨.inr, fun h => h.resolve_left hretry⟩

@[simp] theorem ScheduledJob.complete_dedupeKey (job : ScheduledJob) (status : JobStatus)
    (error : Option String) (nowNs : ℕ) (retryAfterSecs : Option ℕ) :
    (job.complete status error nowNs retryAfterSecs).dedupeKey = job.dedupeKey := by
  unfold ScheduledJob.complete
  dsimp only
  split <;> rfl

/-- An act that meets the condition keeps the keys unique. -/
theorem DedupeAct.ListsActive.unique (h : act.ListsActive s) (hkeyed : s.JobsKeyed)
    (hunique : s.ActiveKeysUnique) : (act.apply s).ActiveKeysUnique := by
  rcases apply_jobs s act with hsame | ⟨job, hstores, hjobs⟩
  · exact hunique.congr hsame
  · refine hunique.insert hjobs fun hopen other hne hother => ?_
    cases hstores with
    | new hnone hkey =>
      have hsome := answersExactly_iff_isSome.mp
        ((answersExactly_iff_listsActive hunique).mpr h) ⟨other, hkey ▸ hother⟩
      rw [hnone] at hsome
      cases hsome
    | @started _ key job _ hstored hpending =>
      have hactive : s.HasActive key job.dedupeKey :=
        ⟨job, hstored, by rw [hpending]; rfl, rfl⟩
      have hsame := hunique _ _ _ hother hactive
      exact hne (hsame.trans (hkeyed key job hstored).symm)
    | @completed jobId job status error nowNs retryAfterSecs hstored =>
      rw [complete_isTerminal_eq_false] at hopen
      rw [ScheduledJob.complete_dedupeKey] at hother
      rw [ScheduledJob.complete_id, hkeyed jobId job hstored] at hne
      by_cases hended : job.status.isTerminal = true
      · exact h job hstored hended hopen other hother
      · have hactive : s.HasActive jobId job.dedupeKey :=
          ⟨job, hstored, Bool.not_eq_true _ ▸ hended, rfl⟩
        exact hne (hunique _ _ _ hother hactive)
    | recovered =>
      rw [complete_isTerminal_eq_false] at hopen
      simp [ScheduledJob.shouldRetry, JobStatus.isTerminal] at hopen

/-- Keys that are unique after an act that answers exactly come from an act that meets the
condition. -/
theorem listsActive_of_unique (hkeyed : s.JobsKeyed) (hunique : s.ActiveKeysUnique)
    (hanswers : act.AnswersExactly s)
    (hnext : (act.apply s).ActiveKeysUnique) : act.ListsActive s := by
  cases act with
  | enqueue => exact (answersExactly_iff_listsActive hunique).mp hanswers
  | complete jobId status error nowNs retryAfterSecs =>
    intro job hstored hended hopen other hother
    have hid := hkeyed jobId job hstored
    have hjobs : ((DedupeAct.complete jobId status error nowNs retryAfterSecs).apply s).jobs =
        s.jobs.insert jobId (job.complete status error nowNs retryAfterSecs) := by
      rw [DedupeAct.apply, completeJob_jobs hstored, ScheduledJob.complete_id, hid]
    have hne : jobId ≠ other := by
      rintro rfl
      obtain ⟨stored, hsame, hactive, -⟩ := hother
      obtain rfl := Option.some.inj (hstored.symm.trans hsame)
      rw [hended] at hactive
      cases hactive
    refine hne (hnext jobId other job.dedupeKey ?_ ?_)
    · refine ⟨job.complete status error nowNs retryAfterSecs, ?_,
        complete_isTerminal_eq_false.mpr hopen, ScheduledJob.complete_dedupeKey ..⟩
      rw [hjobs, BTreeMap.get?_insert, if_pos rfl]
    · obtain ⟨stored, hsame, hactive⟩ := hother
      refine ⟨stored, ?_, hactive⟩
      rw [hjobs, BTreeMap.get?_insert, if_neg hne, hsame]
  | pop | acquire | recover => trivial

theorem answersExactly_of_listsActive (hunique : s.ActiveKeysUnique) (h : act.ListsActive s) :
    act.AnswersExactly s := by
  cases act with
  | enqueue => exact (answersExactly_iff_listsActive hunique).mpr h
  | pop | acquire | complete | recover => trivial

end Acts

theorem DedupesExactly.unique {s : Store} {acts : List DedupeAct} (h : DedupesExactly s acts) :
    s.ActiveKeysUnique := by
  cases acts with
  | nil => exact h
  | cons act acts => exact h.1

/-- From unique keys a run deduplicates exactly when every act meets the condition. -/
theorem dedupesExactly_iff {s : Store} {acts : List DedupeAct} (hkeyed : s.JobsKeyed)
    (hunique : s.ActiveKeysUnique) : DedupesExactly s acts ↔ AlwaysListsActive s acts := by
  induction acts generalizing s with
  | nil => exact iff_of_true hunique trivial
  | cons act acts ih =>
    constructor
    · rintro ⟨-, hanswers, hrest⟩
      exact ⟨listsActive_of_unique hkeyed hunique hanswers hrest.unique,
        (ih hkeyed.apply hrest.unique).mp hrest⟩
    · rintro ⟨hlists, hrest⟩
      exact ⟨hunique, answersExactly_of_listsActive hunique hlists,
        (ih hkeyed.apply (hlists.unique hkeyed hunique)).mpr hrest⟩

/-- The rows without jobs. -/
def Store.withoutJobs (store : Store) : Store := { store with jobs := ∅ }

/-- From rows without jobs a run deduplicates exactly when the query always lists the job that
has not ended first and no job that has ended is opened beside another one. -/
theorem dedupe_exact_iff (store : Store) (acts : List DedupeAct) :
    DedupesExactly store.withoutJobs acts ↔ AlwaysListsActive store.withoutJobs acts := by
  apply dedupesExactly_iff
  · intro jobId job hstored
    simp [Store.withoutJobs] at hstored
  · rintro jobId jobId' dedupeKey ⟨job, hstored, -⟩
    simp [Store.withoutJobs] at hstored

/-- A top-up job is enqueued and popped. -/
def flyingTopup : Store :=
  (DedupeAct.pop .mutating 0).apply ((DedupeAct.enqueue .topUpCycles .mutating
    topupCyclesDedupeKey 0 3 0).apply (Store.initial 0).withoutJobs)

/-- A top-up job is enqueued, popped and enqueued again while it is in flight. -/
def doubleTopup : List DedupeAct := [
  .enqueue .topUpCycles .mutating topupCyclesDedupeKey 0 3 0,
  .pop .mutating 0,
  .enqueue .topUpCycles .mutating topupCyclesDedupeKey 0 3 0]

theorem doubleTopup_not_deduped : ¬ DedupesExactly (Store.initial 0).withoutJobs doubleTopup := by
  rintro ⟨-, -, -, -, -, hanswers, -⟩
  have hflight : flyingTopup.jobs.toList.map
      (fun entry => (entry.2.status, entry.2.dedupeKey)) = [(.inFlight, topupCyclesDedupeKey)] := by
    decide +kernel
  have hstored : (flyingTopup.enqueueJobIfAbsent .topUpCycles .mutating topupCyclesDedupeKey
      0 3 0).2.isSome = true := by
    decide +kernel
  obtain ⟨⟨jobId, job⟩, hmem, hjob⟩ :=
    List.mem_map.mp (hflight ▸ List.mem_singleton.mpr rfl)
  obtain ⟨hstatus, hkey⟩ := Prod.mk.inj hjob
  have hactive : flyingTopup.HasActive jobId topupCyclesDedupeKey :=
    ⟨job, Std.ExtTreeMap.mem_toList_iff_getElem?_eq_some.mp hmem, by rw [hstatus]; rfl, hkey⟩
  have hnone : (flyingTopup.enqueueJobIfAbsent .topUpCycles .mutating topupCyclesDedupeKey
      0 3 0).2 = none := hanswers.mpr ⟨jobId, hactive⟩
  rw [hnone] at hstored
  cases hstored

end Automaton.Agent
