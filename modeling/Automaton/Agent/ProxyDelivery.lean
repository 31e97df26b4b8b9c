import Automaton.Agent.InferenceProxy
import Automaton.Library.Transition

/-!
# Proxy results are delivered at most once

An id that was submitted once is accepted once, because acceptance takes it from the pending jobs
and no later submission puts it back. The completed jobs that are remembered do not matter for
this.
-/

namespace Automaton.Agent

open Transition

/-- What happens to the jobs of the proxy. -/
inductive ProxyAct
  | submit (job : PendingInferenceProxyJob)
  | callback (args : SubmitInferenceResultArgs) (callerPrincipal : String) (acceptedAtNs : ℕ)
  | popNext
  | take (jobId : String)
  | expire (nowNs ttlSecs : ℕ)

/-- The store, and what has happened to it. -/
structure ProxyWorld where
  store : InferenceProxyStore
  /-- The ids of the jobs that were submitted. -/
  submitted : List String
  /-- The ids of the callbacks that were accepted. -/
  accepted : List String
  /-- The records that were handed out. -/
  handedOut : List InferenceProxyCallbackRecord

namespace ProxyWorld

/-- Nothing has happened. -/
def fresh : ProxyWorld := ⟨.empty, [], [], []⟩

/-- A record is handed out. -/
def handOut (world : ProxyWorld)
    (taken : Option (InferenceProxyCallbackRecord × InferenceProxyStore)) : ProxyWorld :=
  taken.elim world fun (record, store) =>
    { world with store := store, handedOut := world.handedOut ++ [record] }

/-- The ids that were handed out. -/
def handedIds (world : ProxyWorld) : List String := world.handedOut.map (·.jobId)

end ProxyWorld

/-- The world after an act. -/
def ProxyAct.apply (act : ProxyAct) (world : ProxyWorld) : ProxyWorld :=
  match act with
  | .submit job => (world.store.upsertPendingJob job).toOption.elim world fun store =>
      { world with store := store, submitted := world.submitted ++ [job.jobId] }
  | .callback args callerPrincipal acceptedAtNs =>
    let (result, store) := world.store.applyCallback args callerPrincipal acceptedAtNs
    { world with
      store := store
      accepted := if result.toOption = some .accepted then world.accepted ++ [args.jobId]
        else world.accepted }
  | .popNext => world.handOut world.store.popNextResult
  | .take jobId => world.handOut (world.store.takeResult jobId)
  | .expire nowNs ttlSecs => { world with store := (world.store.expirePendingJobs nowNs ttlSecs).2 }

/-- A job is submitted under an id of its own. -/
def ProxyAct.IsFresh (world : ProxyWorld) : ProxyAct → Prop
  | .submit job => job.jobId ∉ world.submitted
  | _ => True

/-- The worlds that are reached when every job is submitted under an id of its own. -/
def ProxyReachable : ProxyWorld → Prop :=
  Reachable (· = ProxyWorld.fresh) (Restrict (StepOf ProxyAct.apply) ProxyAct.IsFresh)

/-- Every id is accepted at most once, every accepted record is handed out at most once, and no job
is pending and has a result. -/
structure DeliversOnce (world : ProxyWorld) : Prop where
  accepted : world.accepted.Nodup
  handedOut : world.handedIds.Nodup
  fromAccepted : world.handedIds ⊆ world.accepted
  apart : ∀ jobId : String, world.store.pendingJobs[jobId]? = none ∨
    world.store.callbackResults[jobId]? = none

/-- A callback that is not accepted changes no jobs. -/
def CallbacksExact (store : InferenceProxyStore) : Prop :=
  ∀ args callerPrincipal acceptedAtNs,
    (store.applyCallback args callerPrincipal acceptedAtNs).1 ≠ .ok .accepted →
      (store.applyCallback args callerPrincipal acceptedAtNs).2.pendingJobs = store.pendingJobs ∧
      (store.applyCallback args callerPrincipal acceptedAtNs).2.callbackResults =
        store.callbackResults ∧
      (store.applyCallback args callerPrincipal acceptedAtNs).2.completedJobs = store.completedJobs

/-- Where the ids of the jobs are: those pending were submitted and not accepted, those with a
result were accepted and not handed out. -/
structure ProxyInv (world : ProxyWorld) : Prop where
  delivers : DeliversOnce world
  pendingKey : ∀ (jobId : String) (job : PendingInferenceProxyJob),
    world.store.pendingJobs[jobId]? = some job → job.jobId = jobId
  resultKey : ∀ (jobId : String) (record : InferenceProxyCallbackRecord),
    world.store.callbackResults[jobId]? = some record → record.jobId = jobId
  pending : ∀ jobId : String, world.store.pendingJobs[jobId]? ≠ none →
    jobId ∈ world.submitted ∧ jobId ∉ world.accepted
  result : ∀ jobId : String, world.store.callbackResults[jobId]? ≠ none →
    jobId ∈ world.accepted ∧ jobId ∉ world.handedIds
  submitted : world.accepted ⊆ world.submitted

section Callback

variable {store : InferenceProxyStore} {args : SubmitInferenceResultArgs}
  {callerPrincipal : String} {acceptedAtNs : ℕ}

/-- A callback is accepted for a pending job, or leaves all jobs as they are. -/
theorem applyCallback_cases (store : InferenceProxyStore) (args : SubmitInferenceResultArgs)
    (callerPrincipal : String) (acceptedAtNs : ℕ) :
    ((store.applyCallback args callerPrincipal acceptedAtNs).1 ≠ .ok .accepted ∧
      ∃ metrics, (store.applyCallback args callerPrincipal acceptedAtNs).2 =
        { store with metrics := metrics }) ∨
    ∃ pending, store.pendingJobs[args.jobId]? = some pending ∧
      store.callbackResults[args.jobId]? = none ∧
      (store.applyCallback args callerPrincipal acceptedAtNs).1 = .ok .accepted ∧
      (store.applyCallback args callerPrincipal acceptedAtNs).2.pendingJobs =
        store.pendingJobs.erase args.jobId ∧
      (store.applyCallback args callerPrincipal acceptedAtNs).2.callbackResults =
        store.callbackResults.insert args.jobId
          (InferenceProxyStore.recordOf args callerPrincipal acceptedAtNs) := by
  unfold InferenceProxyStore.applyCallback
  split
  · exact .inl ⟨by simp, store.metrics, rfl⟩
  · split
    · exact .inl ⟨by simp, store.metrics, rfl⟩
    · split
      · exact .inl ⟨by simp, store.metrics, rfl⟩
      · split
        · exact .inl ⟨by simp, _, rfl⟩
        · rename_i hknown
          cases hpending : store.pendingJobs[args.jobId]? with
          | none => exact .inl ⟨by simp, _, rfl⟩
          | some pending =>
            dsimp only
            split
            · exact .inl ⟨by simp, store.metrics, rfl⟩
            · rw [not_or, Bool.not_eq_true, Std.ExtTreeMap.contains_eq_isSome_getElem?,
                Option.isSome_eq_false_iff, Option.isNone_iff_eq_none] at hknown
              exact .inr ⟨pending, rfl, hknown.1, rfl, rfl, rfl⟩

theorem callbacksExact (store : InferenceProxyStore) : CallbacksExact store := by
  intro args callerPrincipal acceptedAtNs hrefused
  rcases applyCallback_cases store args callerPrincipal acceptedAtNs with
    ⟨-, metrics, heq⟩ | ⟨pending, -, -, haccepted, -⟩
  · rw [heq]
    exact ⟨rfl, rfl, rfl⟩
  · exact absurd haccepted hrefused

end Callback

section Steps

variable {world : ProxyWorld} {store : InferenceProxyStore}

/-- What is taken is one stored result, which is removed. -/
def Takes (store : InferenceProxyStore)
    (taken : Option (InferenceProxyCallbackRecord × InferenceProxyStore)) : Prop :=
  taken = none ∨ ∃ (jobId : String) (record : InferenceProxyCallbackRecord),
    store.callbackResults[jobId]? = some record ∧
      taken = some (record, { store with callbackResults := store.callbackResults.erase jobId })

theorem takes_popNextResult (store : InferenceProxyStore) : Takes store store.popNextResult := by
  unfold InferenceProxyStore.popNextResult InferenceProxyStore.nextResult
  cases hnext : store.callbackResults.toList.argmin fun entry =>
      toLex (entry.2.acceptedAtNs, entry.2.completedAtNs) with
  | none => exact .inl rfl
  | some entry =>
    have hstored := Std.ExtTreeMap.mem_toList_iff_getElem?_eq_some.mp (List.argmin_mem hnext)
    exact .inr ⟨entry.1, entry.2, hstored, rfl⟩

theorem takes_takeResult (store : InferenceProxyStore) (jobId : String) :
    Takes store (store.takeResult jobId) := by
  unfold InferenceProxyStore.takeResult
  split
  · exact .inl rfl
  · cases hstored : store.callbackResults[jobId]? with
    | none => exact .inl rfl
    | some record => exact .inr ⟨jobId, record, hstored, rfl⟩

/-- Expiry only removes pending jobs. -/
theorem get?_foldl_erase {expired : List PendingInferenceProxyJob}
    {jobs : BTreeMap String PendingInferenceProxyJob} {jobId : String}
    {job : PendingInferenceProxyJob}
    (h : (expired.foldl (fun jobs job => jobs.erase job.jobId) jobs)[jobId]? = some job) :
    jobs[jobId]? = some job := by
  induction expired generalizing jobs with
  | nil => exact h
  | cons first expired ih =>
    have hrest := ih h
    rw [BTreeMap.get?_erase] at hrest
    split at hrest
    · cases hrest
    · exact hrest

theorem expirePendingJobs_cases (store : InferenceProxyStore) (nowNs ttlSecs : ℕ) :
    (store.expirePendingJobs nowNs ttlSecs).2.callbackResults = store.callbackResults ∧
      ∀ (jobId : String) (job : PendingInferenceProxyJob),
        (store.expirePendingJobs nowNs ttlSecs).2.pendingJobs[jobId]? = some job →
          store.pendingJobs[jobId]? = some job := by
  unfold InferenceProxyStore.expirePendingJobs
  split
  · exact ⟨rfl, fun jobId job h => h⟩
  · dsimp only
    split
    · exact ⟨rfl, fun jobId job h => h⟩
    · exact ⟨rfl, fun jobId job h => get?_foldl_erase h⟩

theorem ProxyInv.submit {job : PendingInferenceProxyJob} (h : ProxyInv world)
    (hfresh : job.jobId ∉ world.submitted) : ProxyInv ((ProxyAct.submit job).apply world) := by
  have hresult : world.store.callbackResults[job.jobId]? = none := by
    by_contra hstored
    exact hfresh (h.submitted (h.result job.jobId hstored).1)
  unfold ProxyAct.apply InferenceProxyStore.upsertPendingJob
  dsimp only
  split
  · exact h
  · split
    · exact h
    · constructor
      · refine ⟨h.delivers.accepted, h.delivers.handedOut, h.delivers.fromAccepted, ?_⟩
        intro jobId
        by_cases hsame : job.jobId = jobId
        · exact .inr (hsame ▸ hresult)
        · refine (h.delivers.apart jobId).imp_left fun hnone => ?_
          exact (BTreeMap.get?_insert.trans (if_neg hsame)).trans hnone
      · intro jobId stored hstored
        rcases ite_eq_iff.mp (BTreeMap.get?_insert.symm.trans hstored) with
          ⟨hsame, hjob⟩ | ⟨-, hold⟩
        · exact Option.some.inj hjob ▸ hsame
        · exact h.pendingKey jobId stored hold
      · exact h.resultKey
      · intro jobId hstored
        by_cases hsame : job.jobId = jobId
        · subst hsame
          exact ⟨List.mem_append_right _ (List.mem_singleton.mpr rfl),
            fun haccepted => hfresh (h.submitted haccepted)⟩
        · have hold : world.store.pendingJobs[jobId]? ≠ none := by
            intro hnone
            exact hstored ((BTreeMap.get?_insert.trans (if_neg hsame)).trans hnone)
          exact ⟨List.mem_append_left _ (h.pending jobId hold).1, (h.pending jobId hold).2⟩
      · exact h.result
      · exact fun jobId hjob => List.mem_append_left _ (h.submitted hjob)

theorem ProxyInv.callback {args : SubmitInferenceResultArgs} {callerPrincipal : String}
    {acceptedAtNs : ℕ} (h : ProxyInv world) :
    ProxyInv ((ProxyAct.callback args callerPrincipal acceptedAtNs).apply world) := by
  unfold ProxyAct.apply
  dsimp only
  rcases applyCallback_cases world.store args callerPrincipal acceptedAtNs with
    ⟨hrefused, metrics, heq⟩ | ⟨pending, hpending, hresult, haccepted, hjobs, hresults⟩
  · have hnot : ¬ (world.store.applyCallback args callerPrincipal acceptedAtNs).1.toOption =
        some .accepted := by
      intro hok
      cases hcase : (world.store.applyCallback args callerPrincipal acceptedAtNs).1 with
      | error => rw [hcase] at hok; cases hok
      | ok apply =>
        rw [hcase] at hok hrefused
        obtain rfl := Option.some.inj hok
        exact hrefused rfl
    rw [if_neg hnot, heq]
    exact ⟨⟨h.delivers.accepted, h.delivers.handedOut, h.delivers.fromAccepted,
      h.delivers.apart⟩, h.pendingKey, h.resultKey, h.pending, h.result, h.submitted⟩
  · have hstored : world.store.pendingJobs[args.jobId]? ≠ none := by
      rw [hpending]
      exact Option.some_ne_none _
    obtain ⟨hsubmitted, hnew⟩ := h.pending args.jobId hstored
    have hok : (world.store.applyCallback args callerPrincipal acceptedAtNs).1.toOption =
        some .accepted := by
      rw [haccepted]
      rfl
    rw [if_pos hok]
    constructor
    · constructor
      · exact List.nodup_append.mpr ⟨h.delivers.accepted, List.nodup_singleton _, by
          rintro id hid other hother rfl
          exact hnew (List.mem_singleton.mp hother ▸ hid)⟩
      · exact h.delivers.handedOut
      · exact fun id hid => List.mem_append_left _ (h.delivers.fromAccepted hid)
      · intro jobId
        dsimp only
        rw [hjobs, hresults, BTreeMap.get?_erase, BTreeMap.get?_insert]
        by_cases hsame : args.jobId = jobId
        · exact .inl (if_pos hsame)
        · rw [if_neg hsame, if_neg hsame]
          exact h.delivers.apart jobId
    · intro jobId job hjob
      dsimp only at hjob
      rw [hjobs, BTreeMap.get?_erase] at hjob
      split at hjob
      · cases hjob
      · exact h.pendingKey jobId job hjob
    · intro jobId record hrecord
      dsimp only at hrecord
      rw [hresults, BTreeMap.get?_insert] at hrecord
      split at hrecord
      · rename_i hsame
        rw [← Option.some.inj hrecord]
        exact hsame
      · exact h.resultKey jobId record hrecord
    · intro jobId hjob
      dsimp only at hjob
      rw [hjobs, BTreeMap.get?_erase] at hjob
      split at hjob
      · exact absurd rfl hjob
      · rename_i hother
        obtain ⟨hin, hout⟩ := h.pending jobId hjob
        refine ⟨hin, ?_⟩
        rw [List.mem_append, List.mem_singleton, not_or]
        exact ⟨hout, Ne.symm hother⟩
    · intro jobId hrecord
      dsimp only at hrecord
      rw [hresults, BTreeMap.get?_insert] at hrecord
      split at hrecord
      · rename_i hsame
        subst hsame
        refine ⟨List.mem_append_right _ (List.mem_singleton.mpr rfl), ?_⟩
        exact fun hhanded => hnew (h.delivers.fromAccepted hhanded)
      · obtain ⟨hin, hout⟩ := h.result jobId hrecord
        exact ⟨List.mem_append_left _ hin, hout⟩
    · intro id hid
      rcases List.mem_append.mp hid with hid | hid
      · exact h.submitted hid
      · exact List.mem_singleton.mp hid ▸ hsubmitted

theorem ProxyInv.handOut {taken : Option (InferenceProxyCallbackRecord × InferenceProxyStore)}
    (h : ProxyInv world) (htakes : Takes world.store taken) : ProxyInv (world.handOut taken) := by
  rcases htakes with rfl | ⟨jobId, record, hstored, rfl⟩
  · exact h
  · have hkey : record.jobId = jobId := h.resultKey jobId record hstored
    obtain ⟨haccepted, hnew⟩ := h.result jobId (by rw [hstored]; exact Option.some_ne_none _)
    have hhanded : (world.handOut (some (record, { world.store with
        callbackResults := world.store.callbackResults.erase jobId }))).handedIds =
          world.handedIds ++ [jobId] := by
      rw [← hkey]
      exact List.map_append
    have hold {other : String} {stored : InferenceProxyCallbackRecord}
        (hother : (world.store.callbackResults.erase jobId)[other]? = some stored) :
        jobId ≠ other ∧ world.store.callbackResults[other]? = some stored := by
      rw [BTreeMap.get?_erase] at hother
      split at hother
      · cases hother
      · rename_i hne
        exact ⟨hne, hother⟩
    constructor
    · constructor
      · exact h.delivers.accepted
      · rw [hhanded]
        exact List.nodup_append.mpr ⟨h.delivers.handedOut, List.nodup_singleton _, by
          rintro id hid other hother rfl
          exact hnew (List.mem_singleton.mp hother ▸ hid)⟩
      · rw [hhanded]
        intro id hid
        rcases List.mem_append.mp hid with hid | hid
        · exact h.delivers.fromAccepted hid
        · exact List.mem_singleton.mp hid ▸ haccepted
      · intro other
        refine (h.delivers.apart other).imp_right fun hnone => ?_
        change (world.store.callbackResults.erase jobId)[other]? = none
        rw [BTreeMap.get?_erase, hnone, ite_self]
    · exact h.pendingKey
    · exact fun other stored hother => h.resultKey other stored (hold hother).2
    · exact h.pending
    · intro other hother
      obtain ⟨stored, hsome⟩ := Option.ne_none_iff_exists'.mp hother
      obtain ⟨hne, hbefore⟩ := hold hsome
      obtain ⟨hin, hout⟩ := h.result other (by rw [hbefore]; exact Option.some_ne_none _)
      refine ⟨hin, ?_⟩
      rw [hhanded, List.mem_append, List.mem_singleton, not_or]
      exact ⟨hout, Ne.symm hne⟩
    · exact h.submitted

theorem ProxyInv.expire {nowNs ttlSecs : ℕ} (h : ProxyInv world) :
    ProxyInv ((ProxyAct.expire nowNs ttlSecs).apply world) := by
  obtain ⟨hresults, hjobs⟩ := expirePendingJobs_cases world.store nowNs ttlSecs
  constructor
  · refine ⟨h.delivers.accepted, h.delivers.handedOut, h.delivers.fromAccepted, ?_⟩
    intro jobId
    rcases h.delivers.apart jobId with hnone | hnone
    · left
      by_contra hsome
      obtain ⟨job, hjob⟩ := Option.ne_none_iff_exists'.mp hsome
      rw [hjobs jobId job hjob] at hnone
      cases hnone
    · exact .inr (hresults ▸ hnone)
  · exact fun jobId job hjob => h.pendingKey jobId job (hjobs jobId job hjob)
  · exact fun jobId record hrecord => h.resultKey jobId record (hresults ▸ hrecord)
  · intro jobId hsome
    obtain ⟨job, hjob⟩ := Option.ne_none_iff_exists'.mp hsome
    exact h.pending jobId (by rw [hjobs jobId job hjob]; exact Option.some_ne_none _)
  · exact fun jobId hrecord => h.result jobId (hresults ▸ hrecord)
  · exact h.submitted

/-- An act with an id of its own keeps the invariant. -/
theorem ProxyInv.step {act : ProxyAct} (h : ProxyInv world) (hfresh : act.IsFresh world) :
    ProxyInv (act.apply world) := by
  cases act with
  | submit job => exact h.submit hfresh
  | callback args callerPrincipal acceptedAtNs => exact h.callback
  | popNext => exact h.handOut (takes_popNextResult world.store)
  | take jobId => exact h.handOut (takes_takeResult world.store jobId)
  | expire nowNs ttlSecs => exact h.expire

theorem proxyInv_fresh : ProxyInv .fresh := by
  constructor
  · exact ⟨List.nodup_nil, List.nodup_nil, fun _ h => h, fun jobId => .inl (by
      simp [ProxyWorld.fresh, InferenceProxyStore.empty])⟩
  all_goals simp [ProxyWorld.fresh, InferenceProxyStore.empty]

end Steps

/-- In every run whose jobs are submitted under ids of their own, every id is accepted at most once,
every accepted record is handed out at most once, no job is pending and has a result, and callbacks
that are not accepted change no jobs. -/
theorem proxy_results_delivered_once (world : ProxyWorld) (hreach : ProxyReachable world) :
    DeliversOnce world ∧ CallbacksExact world.store := by
  refine ⟨?_, callbacksExact world.store⟩
  have hinv : ProxyInv world := by
    refine Reachable.invariant hreach ?_ ?_
    · rintro world rfl
      exact proxyInv_fresh
    · rintro world act next hinv ⟨rfl, hfresh⟩
      exact hinv.step hfresh
  exact hinv.delivers

/-- A job. -/
def sampleProxyJob : PendingInferenceProxyJob := ⟨"proxy-turn-1-7", "turn-1", 7, "model"⟩

/-- A callback for the job. -/
def sampleProxyArgs : SubmitInferenceResultArgs :=
  ⟨"proxy-turn-1-7", "turn-1", 8, none, some "worker failed"⟩

/-- The job is submitted, its result is delivered twice and consumed. -/
def deliveredWorld : ProxyWorld :=
  ProxyAct.popNext.apply ((ProxyAct.callback sampleProxyArgs "worker" 10).apply
    ((ProxyAct.callback sampleProxyArgs "worker" 9).apply
      ((ProxyAct.submit sampleProxyJob).apply .fresh)))

theorem deliveredWorld_delivers :
    DeliversOnce deliveredWorld ∧ CallbacksExact deliveredWorld.store := by
  apply proxy_results_delivered_once
  refine .step (a := .popNext) ?_ ⟨rfl, trivial⟩
  refine .step (a := .callback sampleProxyArgs "worker" 10) ?_ ⟨rfl, trivial⟩
  refine .step (a := .callback sampleProxyArgs "worker" 9) ?_ ⟨rfl, trivial⟩
  exact .step (a := .submit sampleProxyJob) (.start rfl) ⟨rfl, List.not_mem_nil⟩

end Automaton.Agent
