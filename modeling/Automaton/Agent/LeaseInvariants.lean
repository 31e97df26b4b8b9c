import Automaton.Agent.QueueSteps

/-!
# Invariants of the queue and its lease

Jobs are stored under ids that are never given twice, have attempts left while they have not
ended, and hold the lease only in flight. Steps that complete jobs in flight only keep this, keep
closed jobs closed and leave the lease to its worker.
-/

namespace Automaton.Agent

open Machine

/-- A number of at most twenty digits is written with twenty digits. -/
theorem length_pad20 {value : ℕ} (h : value ≤ u64Max) : (pad20 value).length = 20 := by
  have hdigits : (Nat.toDigits 10 value).length ≤ 20 := by
    rw [Nat.length_toDigits_le_iff (by decide) (by decide)]
    exact lt_of_le_of_lt h (by decide)
  simp only [pad20, List.length_append, List.length_replicate]
  omega

theorem ofDigitChars_pad20 (value : ℕ) : Nat.ofDigitChars 10 (pad20 value) 0 = value := by
  unfold pad20
  rw [Nat.ofDigitChars_append, Nat.ofDigitChars_replicate_zero, Nat.mul_zero,
    Nat.ofDigitChars_ten_toDigits]

/-- The id of a job gives its sequence number. -/
theorem jobIdOf_inj {first second scheduledFirst scheduledSecond : ℕ} (hfirst : first ≤ u64Max)
    (hsecond : second ≤ u64Max)
    (h : jobIdOf first scheduledFirst = jobIdOf second scheduledSecond) : first = second := by
  have hchars := congrArg String.toList h
  simp only [jobIdOf, String.toList_ofList, List.append_assoc] at hchars
  have htail := List.append_cancel_left hchars
  have hdigits := (List.append_inj htail (by rw [length_pad20 hfirst, length_pad20 hsecond])).1
  rw [← ofDigitChars_pad20 first, hdigits, ofDigitChars_pad20]

/-- The id was given to a job. -/
def Store.Knows (store : Store) (jobId : String) : Prop :=
  ∃ jobSeq scheduledForNs, jobSeq ≤ store.scheduler.nextJobSeq ∧
    jobId = jobIdOf jobSeq scheduledForNs

/-- Jobs are stored under their ids, have attempts left while they have not ended, and the lease
is held by a job in flight. -/
structure Store.Sound (store : Store) : Prop where
  id : ∀ (jobId : String) (job : ScheduledJob), store.jobs[jobId]? = some job → job.id = jobId
  known : ∀ (jobId : String) (job : ScheduledJob), store.jobs[jobId]? = some job →
    store.Knows jobId
  attempts : ∀ (jobId : String) (job : ScheduledJob), store.jobs[jobId]? = some job →
    job.attempts ≤ job.maxAttempts ∧ job.maxAttempts ≤ u32Max ∧
      (job.status.isTerminal = false → job.attempts < job.maxAttempts)
  lease : ∀ lease, store.lease = some lease → store.HasStatus lease.jobId .inFlight

/-- The job has ended, or was deleted. -/
def Store.Closed (store : Store) (jobId : String) : Prop :=
  store.Knows jobId ∧
    ∀ job : ScheduledJob, store.jobs[jobId]? = some job → job.status.isTerminal = true

/-- The job of a worker is not pending, and the lease of the worker is the stored one until it
expires. -/
structure Store.Employs (store : Store) (nowNs : ℕ) (jobId : String) (expiresAtNs : ℕ) : Prop where
  known : store.Knows jobId
  started : ¬ store.HasStatus jobId .pending
  holds : nowNs < expiresAtNs → store.lease.any (fun lease => lease.jobId = jobId ∧
    lease.expiresAtNs = expiresAtNs) = true

/-- The queue is sound, serves its workers and keeps closed jobs closed. -/
structure Store.Serves (store : Store) (nowNs : ℕ) (works : String → ℕ → Prop)
    (shut : String → Prop) : Prop where
  sound : store.Sound
  employs : ∀ jobId expiresAtNs, works jobId expiresAtNs → store.Employs nowNs jobId expiresAtNs
  closed : ∀ jobId, shut jobId → store.Closed jobId

/-- The steps that keep the queue safe: a job is completed while it is in flight, and no worker
with an unexpired lease or of a job that becomes pending is left behind. The lease goes to a job
in flight when no lease is active. -/
def QueueEffect.IsSafe (s t : Store) (nowNs : ℕ) (works : String → ℕ → Prop) : QueueEffect → Prop
  | .finish jobId => s.HasStatus jobId .inFlight ∧ ∀ expiresAtNs, works jobId expiresAtNs →
      expiresAtNs ≤ nowNs ∧ ¬ t.HasStatus jobId .pending
  | .lease jobId => s.HasStatus jobId .inFlight ∧ s.mutatingLeaseActive nowNs = false
  | _ => True

section Steps

variable {s t : Store} {nowNs : ℕ} {works : String → ℕ → Prop} {shut : String → Prop}
  {effect : QueueEffect} {jobId : String}

/-- Sequence numbers grow. -/
theorem QueueStep.nextJobSeq_le (h : QueueStep s t effect)
    (hseq : t.scheduler.nextJobSeq < u64Max) :
    s.scheduler.nextJobSeq ≤ t.scheduler.nextJobSeq := by
  cases h with
  | add kind lane dedupeKey scheduledForNs priority nowNs job hjob hjobs hlease hnext =>
    rw [hnext] at hseq ⊢
    unfold Store.nextSeq saturatingAdd at hseq ⊢
    omega
  | keep hjobs hlease hnext => omega
  | start key job nowNs hstored hpending hjobs hlease hnext => omega
  | lease lease hjobs hlease hnext => omega
  | finish jobId job status error nowNs retryAfterSecs hterminal hstored hjobs hlease hnext =>
    omega
  | delete jobId hstatus hjobs hlease hnext => omega

theorem Store.Knows.mono (h : s.Knows jobId)
    (hseq : s.scheduler.nextJobSeq ≤ t.scheduler.nextJobSeq) : t.Knows jobId := by
  obtain ⟨jobSeq, scheduledForNs, hle, hid⟩ := h
  exact ⟨jobSeq, scheduledForNs, hle.trans hseq, hid⟩

/-- A new job has an id that was not given before. -/
theorem ne_newJob_id {scheduledForNs : ℕ} (h : s.Knows jobId)
    (hseq : s.nextSeq < u64Max) : jobIdOf s.nextSeq scheduledForNs ≠ jobId := by
  obtain ⟨jobSeq, scheduled, hle, rfl⟩ := h
  intro heq
  unfold Store.nextSeq saturatingAdd at *
  have := jobIdOf_inj (by omega) (by omega) heq
  omega

/-- What a completed job looks like: it keeps its limit, counts an attempt, and is pending only
while attempts are left. -/
theorem ScheduledJob.complete_attempts {job : ScheduledJob} {status : JobStatus}
    (error : Option String) (nowNs : ℕ) (retryAfterSecs : Option ℕ)
    (hterminal : status.isTerminal = true)
    (hleft : job.attempts < job.maxAttempts) (hlimit : job.maxAttempts ≤ u32Max) :
    let completed := job.complete status error nowNs retryAfterSecs
    completed.maxAttempts = job.maxAttempts ∧ completed.attempts ≤ job.maxAttempts ∧
      (completed.status.isTerminal = false → completed.attempts < job.maxAttempts) := by
  have hcount : saturatingAdd u32Max job.attempts 1 = job.attempts + 1 := by
    unfold saturatingAdd
    omega
  unfold ScheduledJob.complete
  dsimp only
  split
  · rename_i hretry
    simp only [ScheduledJob.shouldRetry, Bool.and_eq_true, decide_eq_true_eq] at hretry
    exact ⟨rfl, hretry.2.le, fun _ => hretry.2⟩
  · refine ⟨rfl, hcount.le.trans hleft, fun hopen => ?_⟩
    rw [hterminal] at hopen
    cases hopen

/-- A job that is inserted under its id keeps the rest of the soundness. -/
theorem Store.Sound.insert (job : ScheduledJob) (h : s.Sound)
    (hjobs : t.jobs = s.jobs.insert job.id job)
    (hseq : s.scheduler.nextJobSeq ≤ t.scheduler.nextJobSeq) (hknown : t.Knows job.id)
    (hattempts : job.attempts ≤ job.maxAttempts ∧ job.maxAttempts ≤ u32Max ∧
      (job.status.isTerminal = false → job.attempts < job.maxAttempts))
    (hlease : ∀ lease, t.lease = some lease → t.HasStatus lease.jobId .inFlight) : t.Sound := by
  refine ⟨?_, ?_, ?_, hlease⟩
  · intro jobId stored hstored
    rw [hjobs, BTreeMap.get?_insert] at hstored
    split at hstored
    · obtain rfl := Option.some.inj hstored
      assumption
    · exact h.id jobId stored hstored
  · intro jobId stored hstored
    rw [hjobs, BTreeMap.get?_insert] at hstored
    split at hstored
    · rename_i hid
      exact hid ▸ hknown
    · exact (h.known jobId stored hstored).mono hseq
  · intro jobId stored hstored
    rw [hjobs, BTreeMap.get?_insert] at hstored
    split at hstored
    · obtain rfl := Option.some.inj hstored
      exact hattempts
    · exact h.attempts jobId stored hstored

/-- Fewer jobs are as sound. -/
theorem Store.Sound.subset (h : s.Sound)
    (hjobs : ∀ (jobId : String) (job : ScheduledJob), t.jobs[jobId]? = some job →
      s.jobs[jobId]? = some job)
    (hseq : s.scheduler.nextJobSeq ≤ t.scheduler.nextJobSeq)
    (hlease : ∀ lease, t.lease = some lease → t.HasStatus lease.jobId .inFlight) : t.Sound := by
  refine ⟨?_, ?_, ?_, hlease⟩
  · exact fun jobId job hstored => h.id jobId job (hjobs jobId job hstored)
  · exact fun jobId job hstored => (h.known jobId job (hjobs jobId job hstored)).mono hseq
  · exact fun jobId job hstored => h.attempts jobId job (hjobs jobId job hstored)

/-- A status is kept by an insertion under another id. -/
theorem Store.HasStatus.insert_of_ne {status : JobStatus} (job : ScheduledJob)
    (h : s.HasStatus jobId status) (hjobs : t.jobs = s.jobs.insert job.id job)
    (hne : job.id ≠ jobId) : t.HasStatus jobId status := by
  obtain ⟨stored, hstored, hstatus⟩ := h
  refine ⟨stored, ?_, hstatus⟩
  rw [hjobs, BTreeMap.get?_insert, if_neg hne, hstored]

theorem Store.HasStatus.insert_self (job : ScheduledJob)
    (hjobs : t.jobs = s.jobs.insert job.id job) : t.HasStatus job.id job.status := by
  refine ⟨job, ?_, rfl⟩
  rw [hjobs, BTreeMap.get?_insert, if_pos rfl]

/-- The lease that is left after a job was completed is held by another one. -/
theorem ne_of_lease_left {held : SchedulerLease}
    (h : (if s.lease.any (·.jobId = jobId) then none else s.lease) = some held) :
    s.lease = some held ∧ held.jobId ≠ jobId := by
  split at h
  · cases h
  · rename_i hnone
    refine ⟨h, fun heq => hnone ?_⟩
    simp [h, heq]

/-- Safe steps keep the queue sound. -/
theorem QueueStep.sound (h : QueueStep s t effect) (hs : s.Sound)
    (hsafe : effect.IsSafe s t nowNs works) (hseq : t.scheduler.nextJobSeq < u64Max) :
    t.Sound := by
  have hle := h.nextJobSeq_le hseq
  cases h with
  | keep hjobs hlease hnext =>
    refine hs.subset (fun jobId job hstored => hjobs ▸ hstored) hle fun lease hheld => ?_
    rw [Store.HasStatus, hjobs]
    exact hs.lease lease (hlease ▸ hheld)
  | add kind lane dedupeKey scheduledForNs priority nowNs job hjob hjobs hlease hnext =>
    have hid : job.id = jobIdOf s.nextSeq scheduledForNs := by rw [hjob, newJob_id]
    refine hs.insert job hjobs hle ⟨s.nextSeq, scheduledForNs, hnext.ge, hid⟩ ?_ ?_
    · rw [hjob]
      simp [newJob, u32Max]
    · intro lease hheld
      have hinFlight := hs.lease lease (hlease ▸ hheld)
      have hknown : s.Knows lease.jobId :=
        let ⟨stored, hstored, _⟩ := hinFlight
        hs.known lease.jobId stored hstored
      refine hinFlight.insert_of_ne job hjobs ?_
      rw [hid]
      exact ne_newJob_id hknown (hnext ▸ hseq)
  | start key job nowNs hstored hpending hjobs hlease hnext =>
    obtain rfl := hs.id key job hstored
    have hattempts := hs.attempts job.id job hstored
    refine hs.insert (job.start nowNs) hjobs hle ((hs.known job.id job hstored).mono hle) ?_ ?_
    · exact ⟨hattempts.1, hattempts.2.1, fun _ => hattempts.2.2 (by rw [hpending]; rfl)⟩
    · intro lease hheld
      by_cases hid : job.id = lease.jobId
      · rw [← hid]
        exact Store.HasStatus.insert_self (job.start nowNs) hjobs
      · exact (hs.lease lease (hlease ▸ hheld)).insert_of_ne (job.start nowNs) hjobs hid
  | lease lease hjobs hlease hnext =>
    refine hs.subset (fun jobId job hstored => hjobs ▸ hstored) hle fun held hheld => ?_
    obtain rfl := Option.some.inj (hlease.symm.trans hheld)
    rw [Store.HasStatus, hjobs]
    exact hsafe.1
  | finish jobId job status error nowNs retryAfterSecs hterminal hstored hjobs hlease hnext =>
    obtain ⟨stored, hstored', hinFlight⟩ := hsafe.1
    obtain rfl := Option.some.inj (hstored.symm.trans hstored')
    obtain rfl := hs.id jobId job hstored
    obtain ⟨hle', hlimit, hleft⟩ := hs.attempts job.id job hstored
    have hcompleted := ScheduledJob.complete_attempts error nowNs retryAfterSecs hterminal
      (hleft (by rw [hinFlight]; rfl)) hlimit
    rw [← job.complete_id status error nowNs retryAfterSecs] at hjobs
    refine hs.insert (job.complete status error nowNs retryAfterSecs) hjobs hle ?_ ?_ ?_
    · rw [ScheduledJob.complete_id]
      exact (hs.known job.id job hstored).mono hle
    · rw [hcompleted.1]
      exact ⟨hcompleted.2.1, hlimit, hcompleted.2.2⟩
    · intro held hheld
      obtain ⟨hheld, hne⟩ := ne_of_lease_left (hlease.symm.trans hheld)
      refine (hs.lease held hheld).insert_of_ne _ hjobs ?_
      rw [ScheduledJob.complete_id]
      exact hne.symm
  | delete jobId hstatus hjobs hlease hnext =>
    refine hs.subset (fun other job hstored => ?_) hle fun held hheld => ?_
    · rw [hjobs, BTreeMap.get?_erase] at hstored
      split at hstored
      · cases hstored
      · exact hstored
    · have hinFlight := hs.lease held (hlease ▸ hheld)
      have hne : jobId ≠ held.jobId := by
        rintro rfl
        exact hstatus hinFlight
      obtain ⟨stored, hstored, hstatus⟩ := hinFlight
      refine ⟨stored, ?_, hstatus⟩
      rw [hjobs, BTreeMap.get?_erase, if_neg hne, hstored]

/-- A step changes no other job than the one that it starts, completes or deletes. -/
theorem QueueStep.jobs_other (h : QueueStep s t effect) (hs : s.Sound) (hknown : s.Knows jobId)
    (hseq : t.scheduler.nextJobSeq < u64Max) (hstart : effect ≠ .start jobId)
    (hfinish : effect ≠ .finish jobId) (hdelete : effect ≠ .delete jobId) :
    t.jobs[jobId]? = s.jobs[jobId]? := by
  cases h with
  | keep hjobs hlease hnext => rw [hjobs]
  | add kind lane dedupeKey scheduledForNs priority nowNs job hjob hjobs hlease hnext =>
    have hne : job.id ≠ jobId := by
      rw [hjob, newJob_id]
      exact ne_newJob_id hknown (hnext ▸ hseq)
    rw [hjobs, BTreeMap.get?_insert, if_neg hne]
  | start key job nowNs hstored hpending hjobs hlease hnext =>
    have hne : job.id ≠ jobId := fun heq => hstart (heq ▸ rfl)
    rw [hjobs, BTreeMap.get?_insert, if_neg hne]
  | lease lease hjobs hlease hnext => rw [hjobs]
  | finish key job status error nowNs retryAfterSecs hterminal hstored hjobs hlease hnext =>
    have hne : job.id ≠ jobId := by
      rw [hs.id key job hstored]
      rintro rfl
      exact hfinish rfl
    rw [hjobs, BTreeMap.get?_insert, if_neg hne]
  | delete key hstatus hjobs hlease hnext =>
    have hne : key ≠ jobId := by
      rintro rfl
      exact hdelete rfl
    rw [hjobs, BTreeMap.get?_erase, if_neg hne]

/-- The job that a step starts was pending. -/
theorem QueueStep.pending_of_start (h : QueueStep s t (.start jobId)) (hs : s.Sound) :
    s.HasStatus jobId .pending := by
  cases h with
  | start key job nowNs hstored hpending hjobs hlease hnext =>
    exact ⟨job, hs.id key job hstored ▸ hstored, hpending⟩

/-- A deleted job is not stored. -/
theorem QueueStep.absent_of_delete (h : QueueStep s t (.delete jobId)) :
    t.jobs[jobId]? = none := by
  cases h with
  | delete _ hstatus hjobs hlease hnext => rw [hjobs, BTreeMap.get?_erase, if_pos rfl]

/-- Safe steps keep closed jobs closed. -/
theorem QueueStep.closed (h : QueueStep s t effect) (hs : s.Sound)
    (hsafe : effect.IsSafe s t nowNs works) (hseq : t.scheduler.nextJobSeq < u64Max)
    (hclosed : s.Closed jobId) : t.Closed jobId := by
  refine ⟨hclosed.1.mono (h.nextJobSeq_le hseq), fun job hstored => ?_⟩
  have hnot {status : JobStatus} (hopen : status.isTerminal = false) :
      ¬ s.HasStatus jobId status := by
    rintro ⟨stored, hstored, rfl⟩
    rw [hclosed.2 stored hstored] at hopen
    cases hopen
  by_cases hstart : effect = .start jobId
  · subst hstart
    exact absurd (h.pending_of_start hs) (hnot rfl)
  by_cases hfinish : effect = .finish jobId
  · subst hfinish
    exact absurd hsafe.1 (hnot rfl)
  by_cases hdelete : effect = .delete jobId
  · subst hdelete
    rw [h.absent_of_delete] at hstored
    cases hstored
  rw [h.jobs_other hs hclosed.1 hseq hstart hfinish hdelete] at hstored
  exact hclosed.2 job hstored

/-- A lease is kept by a step that gives no lease and does not complete its job. -/
theorem QueueStep.lease_kept {lease : SchedulerLease} (h : QueueStep s t effect)
    (hheld : s.lease = some lease) (hlease : ∀ other, effect ≠ .lease other)
    (hfinish : effect ≠ .finish lease.jobId) : t.lease = some lease := by
  cases h with
  | keep hjobs hsame hnext => rw [hsame, hheld]
  | add kind lane dedupeKey scheduledForNs priority nowNs job hjob hjobs hsame hnext =>
    rw [hsame, hheld]
  | start key job nowNs hstored hpending hjobs hsame hnext => rw [hsame, hheld]
  | lease lease hjobs hsame hnext => exact absurd rfl (hlease lease.jobId)
  | finish key job status error nowNs retryAfterSecs hterminal hstored hjobs hsame hnext =>
    have hne : lease.jobId ≠ key := by
      rintro rfl
      exact hfinish rfl
    rw [hsame, hheld, if_neg (by simpa using hne)]
  | delete key hstatus hjobs hsame hnext => rw [hsame, hheld]

/-- Safe steps serve the workers. -/
theorem QueueStep.employs {expiresAtNs : ℕ} (h : QueueStep s t effect) (hs : s.Sound)
    (hsafe : effect.IsSafe s t nowNs works) (hseq : t.scheduler.nextJobSeq < u64Max)
    (hworks : works jobId expiresAtNs) (hemploys : s.Employs nowNs jobId expiresAtNs) :
    t.Employs nowNs jobId expiresAtNs := by
  refine ⟨hemploys.known.mono (h.nextJobSeq_le hseq), ?_, fun hunexpired => ?_⟩
  · intro hpending
    by_cases hstart : effect = .start jobId
    · subst hstart
      exact hemploys.started (h.pending_of_start hs)
    by_cases hfinish : effect = .finish jobId
    · subst hfinish
      exact (hsafe.2 expiresAtNs hworks).2 hpending
    by_cases hdelete : effect = .delete jobId
    · subst hdelete
      obtain ⟨job, hstored, -⟩ := hpending
      rw [h.absent_of_delete] at hstored
      cases hstored
    have hsame := h.jobs_other hs hemploys.known hseq hstart hfinish hdelete
    rw [Store.HasStatus, hsame] at hpending
    exact hemploys.started hpending
  · obtain ⟨lease, hheld, hlease⟩ := (Option.any_eq_true _ _).mp (hemploys.holds hunexpired)
    obtain ⟨rfl, rfl⟩ := of_decide_eq_true hlease
    have hkept : t.lease = some lease := by
      refine h.lease_kept hheld ?_ ?_
      · rintro other rfl
        have hactive : s.mutatingLeaseActive nowNs = true := by
          have hstored : s.scheduler.activeMutatingLease = some lease := hheld
          simp [Store.mutatingLeaseActive, hstored, hunexpired]
        rw [hsafe.2] at hactive
        cases hactive
      · rintro rfl
        have := (hsafe.2 lease.expiresAtNs hworks).1
        omega
    simp [hkept]

/-- Safe steps keep the queue as it should be. -/
theorem QueueStep.serves (h : QueueStep s t effect) (hserves : s.Serves nowNs works shut)
    (hsafe : effect.IsSafe s t nowNs works) (hseq : t.scheduler.nextJobSeq < u64Max) :
    t.Serves nowNs works shut where
  sound := h.sound hserves.sound hsafe hseq
  employs jobId expiresAtNs hworks :=
    h.employs hserves.sound hsafe hseq hworks (hserves.employs jobId expiresAtNs hworks)
  closed jobId hclosed := h.closed hserves.sound hsafe hseq (hserves.closed jobId hclosed)

theorem QueueEffect.IsOutside.isSafe (h : effect.IsOutside) (s t : Store) (nowNs : ℕ)
    (works : String → ℕ → Prop) : effect.IsSafe s t nowNs works := by
  cases effect with
  | keep | add | delete => trivial
  | _ => exact h.elim

/-- Only a new job uses a sequence number. -/
theorem QueueStep.nextJobSeq_eq (h : QueueStep s t effect) (hadd : effect ≠ .add) :
    t.scheduler.nextJobSeq = s.scheduler.nextJobSeq := by
  cases h with
  | add => exact absurd rfl hadd
  | keep hjobs hlease hnext => exact hnext
  | start key job nowNs hstored hpending hjobs hlease hnext => exact hnext
  | lease lease hjobs hlease hnext => exact hnext
  | finish key job status error nowNs retryAfterSecs hterminal hstored hjobs hlease hnext =>
    exact hnext
  | delete key hstatus hjobs hlease hnext => exact hnext

theorem QueueRun.nextJobSeq_eq (h : QueueRun (· ≠ .add) s t) :
    t.scheduler.nextJobSeq = s.scheduler.nextJobSeq := by
  induction h with
  | refl => rfl
  | tail _ hstep ih =>
    obtain ⟨effect, hadd, hstep⟩ := hstep
    exact (hstep.nextJobSeq_eq hadd).trans ih

/-- Sequences of harmless steps keep the queue as it should be. -/
theorem QueueRun.serves (h : QueueRun QueueEffect.IsOutside s t)
    (hserves : s.Serves nowNs works shut) (hseq : t.scheduler.nextJobSeq < u64Max) :
    t.Serves nowNs works shut := by
  induction h with
  | refl => exact hserves
  | tail _ hstep ih =>
    obtain ⟨effect, houtside, hstep⟩ := hstep
    exact hstep.serves (ih ((hstep.nextJobSeq_le hseq).trans_lt hseq)) (houtside.isSafe ..) hseq

theorem Store.Serves.mono {works' : String → ℕ → Prop} {shut' : String → Prop}
    (h : s.Serves nowNs works shut)
    (hworks : ∀ jobId expiresAtNs, works' jobId expiresAtNs → works jobId expiresAtNs)
    (hshut : ∀ jobId, shut' jobId → shut jobId) : s.Serves nowNs works' shut' where
  sound := h.sound
  employs jobId expiresAtNs hworks' := h.employs jobId expiresAtNs (hworks _ _ hworks')
  closed jobId hshut' := h.closed jobId (hshut jobId hshut')

/-- Time only ends leases. -/
theorem Store.Serves.wait {later : ℕ} (h : s.Serves nowNs works shut) (hlater : nowNs ≤ later) :
    s.Serves later works shut where
  sound := h.sound
  employs jobId expiresAtNs hworks :=
    let employs := h.employs jobId expiresAtNs hworks
    ⟨employs.known, employs.started, fun hunexpired => employs.holds (hlater.trans_lt hunexpired)⟩
  closed := h.closed

/-- A completed job is not pending when it is not retried. -/
theorem ScheduledJob.complete_none {job : ScheduledJob} {status : JobStatus}
    {error : Option String} :
    (job.complete status error nowNs none).status = status := by
  unfold ScheduledJob.complete ScheduledJob.shouldRetry
  simp

/-- The job that a step completes without a retry is stored with the status. -/
theorem stored_completeJob {job : ScheduledJob} {status : JobStatus} {error : Option String}
    (hs : s.Sound) (hstored : s.jobs[jobId]? = some job) :
    (s.completeJob jobId status error nowNs none).jobs[jobId]? =
      some (job.complete status error nowNs none) := by
  obtain rfl := hs.id jobId job hstored
  unfold Store.completeJob
  rw [hstored]
  simp only [Store.saveScheduler_jobs, Store.saveTaskRuntime_jobs, Store.upsertJob_jobs,
    ScheduledJob.complete_id]
  rw [BTreeMap.get?_insert, if_pos rfl]

/-- Recovery closes the job of the lease that has expired. -/
theorem Store.Serves.recoverStaleLease (h : s.Serves nowNs works shut)
    (hseq : s.scheduler.nextJobSeq < u64Max) : (s.recoverStaleLease nowNs).Serves nowNs works
      fun jobId => (∃ lease, s.staleLease nowNs = some lease ∧ lease.jobId = jobId) ∨
        shut jobId := by
  rw [recoverStaleLease_eq]
  cases hstale : s.staleLease nowNs with
  | none =>
    refine h.mono (fun _ _ hworks => hworks) ?_
    rintro jobId (⟨lease, hlease, -⟩ | hshut)
    · cases hlease
    · exact hshut
  | some lease =>
    obtain ⟨hheld, hexpired⟩ := Option.filter_eq_some_iff.mp hstale
    replace hheld : s.lease = some lease := hheld
    obtain ⟨job, hstored, hstatus⟩ := h.sound.lease lease hheld
    have hstep : QueueStep s (s.completeJob lease.jobId .timedOut
        (some "mutating lease expired") nowNs none) (.finish lease.jobId) :=
      completeJob_step hstored rfl
    have hclosed : ∀ stored : ScheduledJob, (s.completeJob lease.jobId .timedOut
        (some "mutating lease expired") nowNs none).jobs[lease.jobId]? = some stored →
        stored.status = .timedOut := by
      intro stored hnow
      rw [stored_completeJob h.sound hstored] at hnow
      obtain rfl := Option.some.inj hnow
      exact ScheduledJob.complete_none
    have hsafe : (QueueEffect.finish lease.jobId).IsSafe s (s.completeJob lease.jobId .timedOut
        (some "mutating lease expired") nowNs none) nowNs works := by
      refine ⟨⟨job, hstored, hstatus⟩, fun expiresAtNs hworks => ⟨?_, ?_⟩⟩
      · by_contra hunexpired
        have hholds := (h.employs _ _ hworks).holds (not_le.mp hunexpired)
        rw [hheld] at hholds
        simp only [Option.any_some, decide_eq_true_eq] at hholds hexpired
        omega
      · rintro ⟨stored, hnow, hpending⟩
        rw [hclosed stored hnow] at hpending
        cases hpending
    have hnext := hstep.nextJobSeq_eq (by simp)
    have hserves := hstep.serves h hsafe (by omega)
    refine ⟨hserves.sound, hserves.employs, ?_⟩
    rintro jobId (⟨other, hother, rfl⟩ | hshut)
    · obtain rfl := Option.some.inj hother
      refine ⟨(h.sound.known _ job hstored).mono hnext.ge, fun stored hnow => ?_⟩
      rw [hclosed stored hnow]
      rfl
    · exact hserves.closed jobId hshut

/-- A stored job gets the lease when none is active. -/
theorem acquireMutatingLease_ok {job : ScheduledJob} (ttlNs : ℕ)
    (hinactive : s.mutatingLeaseActive nowNs = false) (hstored : s.jobs[jobId]? = some job) :
    ∃ t, s.acquireMutatingLease jobId nowNs ttlNs = .ok t := by
  unfold Store.acquireMutatingLease
  rw [hinactive, hstored]
  exact ⟨_, rfl⟩

/-- How an iteration starts a job: the job is popped and gets the lease. -/
structure StartsJob (s t : Store) (nowNs : ℕ) (job : ScheduledJob) (expiresAtNs : ℕ) : Prop where
  steps : ∃ popped : Store, QueueStep s popped (.start job.id) ∧
    QueueStep popped t (.lease job.id) ∧ popped.HasStatus job.id .inFlight ∧
    popped.mutatingLeaseActive nowNs = false
  lease : t.lease = some ⟨job.id, nowNs, expiresAtNs⟩
  stored : t.jobs[job.id]? = some job
  inFlight : job.status = .inFlight

/-- An iteration does nothing, or starts a job and either skips it or dispatches it. -/
theorem runOnePendingMutatingJob_cases (state : AgentState) (nowNs : ℕ) :
    state.runOnePendingMutatingJob nowNs = ⟨state, [], .idle⟩ ∨
    ∃ job leased expiresAtNs, StartsJob state.store leased nowNs job expiresAtNs ∧
      ((∃ reason events, state.runOnePendingMutatingJob nowNs =
        ⟨state.withStore (leased.completeJob job.id .skipped reason nowNs none), events,
          .skipped⟩) ∨
      ∃ events, state.runOnePendingMutatingJob nowNs =
        ⟨state.withStore leased, events, .dispatched job expiresAtNs⟩) := by
  unfold AgentState.runOnePendingMutatingJob
  split
  · exact .inl rfl
  · rename_i hinactive
    cases hpop : state.store.popNextPendingJob .mutating nowNs with
    | none => exact .inl rfl
    | some entry =>
      obtain ⟨job, popped⟩ := entry
      obtain ⟨hstart, hstored, hstatus⟩ := popNextPendingJob_step hpop
      have hinactive' : popped.mutatingLeaseActive nowNs = false := by
        obtain ⟨_, -, heq⟩ := Option.map_eq_some_iff.mp hpop
        obtain ⟨-, rfl⟩ := Prod.mk.inj heq
        simpa [Store.mutatingLeaseActive] using hinactive
      obtain ⟨leased, hacquire⟩ := acquireMutatingLease_ok (leaseTtlNs job.kind) hinactive' hstored
      obtain ⟨hlease, hsame, hheld⟩ := acquireMutatingLease_step hacquire
      have hjobs : leased.jobs[job.id]? = some job := by rw [hsame, hstored]
      refine .inr ⟨job, leased, _, ⟨⟨popped, hstart, hlease, ⟨job, hstored, hstatus⟩, hinactive'⟩,
        hheld, hjobs, hstatus⟩, ?_⟩
      dsimp only
      rw [hacquire]
      dsimp only
      unfold AgentState.dispatchLeased
      split
      · exact .inl ⟨_, _, rfl⟩
      · exact .inr ⟨_, rfl⟩

/-- The queue with a job that was started serves a worker for it. -/
theorem StartsJob.serves {job : ScheduledJob} {expiresAtNs : ℕ}
    (h : StartsJob s t nowNs job expiresAtNs) (hserves : s.Serves nowNs works shut)
    (hseq : s.scheduler.nextJobSeq < u64Max) :
    t.Serves nowNs (fun jobId expires => works jobId expires ∨
      jobId = job.id ∧ expires = expiresAtNs) shut ∧
      t.scheduler.nextJobSeq = s.scheduler.nextJobSeq ∧
      ∀ expires, ¬ works job.id expires := by
  obtain ⟨popped, hstart, hlease, hinFlight, hinactive⟩ := h.steps
  have hpopped := hstart.nextJobSeq_eq (by simp)
  have hleased := hlease.nextJobSeq_eq (by simp)
  have hstarted := hstart.serves hserves trivial (by omega)
  have hkept := hlease.serves hstarted ⟨hinFlight, hinactive⟩ (by omega)
  refine ⟨⟨hkept.sound, ?_, hkept.closed⟩, hleased.trans hpopped, fun expires hworks => ?_⟩
  · rintro jobId expires (hworks | ⟨rfl, rfl⟩)
    · exact hkept.employs jobId expires hworks
    · refine ⟨hkept.sound.known _ job h.stored, ?_, fun _ => by simp [h.lease]⟩
      rintro ⟨stored, hstored, hpending⟩
      obtain rfl := Option.some.inj (h.stored.symm.trans hstored)
      rw [h.inFlight] at hpending
      cases hpending
  · exact (hserves.employs job.id expires hworks).started (hstart.pending_of_start hserves.sound)

end Steps

end Automaton.Agent
