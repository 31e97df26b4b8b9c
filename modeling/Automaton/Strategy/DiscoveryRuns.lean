import Automaton.Library.Fallible
import Automaton.Library.Transition
import Automaton.Strategy.Discovery
import Automaton.Strategy.Types

/-!
# Runs of strategy discovery

Which acts settle the jobs as they should: submissions, callbacks and expiries in any order.
-/

namespace Automaton.Strategy

open Fallible Transition

/-- Jobs are stored under ids without white space at their ends, an id of a pending job has no
answer, and a result has a marker. -/
structure DiscoveryOk (store : DiscoveryStore) : Prop where
  keyed : ∀ (id : String) (job : PendingStrategyDiscoveryJob), store.pending[id]? = some job →
    job.jobId = id ∧ Text.trim id = id ∧ id ≠ ""
  unanswered : ∀ (id : String) (job : PendingStrategyDiscoveryJob), store.pending[id]? = some job →
    store.answered id = false
  marked : ∀ (id : String) (record : StrategyDiscoveryCallbackRecord),
    store.results[id]? = some record → store.completed[Text.trim id]?.isSome = true

section Callbacks

variable {env : DiscoveryEnv} {store : DiscoveryStore} {call : DiscoveryCallback}
  {job : PendingStrategyDiscoveryJob}

theorem isOk_entryHosts_iff {entry : ProtocolWatchlistEntry} : (entryHosts entry).isOk = true ↔
    sourceHostFromUrl entry.marketDataApiUrl ≠ none ∧ sourceHostFromUrl entry.abiApiUrl ≠ none := by
  unfold entryHosts
  cases sourceHostFromUrl entry.marketDataApiUrl with
  | none => simp [Except.isOk, Except.toBool]
  | some marketHost =>
    cases sourceHostFromUrl entry.abiApiUrl with
    | none => simp [Except.isOk, Except.toBool]
    | some abiHost => simp [Except.isOk, Except.toBool]

/-- A callback is validated or rejected when it is rejected before the hosts are needed, or they are
there. -/
theorem isOk_validate_iff (hid : Text.trim call.args.jobId ≠ "") :
    (validateStrategyDiscoveryPayload env call job).isOk = true ↔
      (call.firstRejection env job = none → ∀ entry ∈ job.watchlist,
        sourceHostFromUrl entry.marketDataApiUrl ≠ none ∧
          sourceHostFromUrl entry.abiApiUrl ≠ none) := by
  unfold validateStrategyDiscoveryPayload
  dsimp only
  rw [if_neg hid]
  cases call.firstRejection env job with
  | some reason => simp [Except.isOk, Except.toBool]
  | none =>
    dsimp only
    rw [isOk_map, strategyDiscoveryAllowedSourceHosts, isOk_map, isOk_mapM]
    simp only [isOk_entryHosts_iff, forall_const]

theorem applyCallback_answered (hid : Text.trim call.args.jobId ≠ "")
    (hanswered : store.answered call.args.jobId = true) :
    store.applyCallback env call = (.ok .duplicate, store) := by
  unfold DiscoveryStore.applyCallback
  dsimp only
  rw [if_neg hid, if_pos hanswered]

theorem applyCallback_pending (hid : Text.trim call.args.jobId ≠ "")
    (hanswered : store.answered call.args.jobId = false)
    (hjob : store.pending[Text.trim call.args.jobId]? = some job) :
    store.applyCallback env call =
      match validateStrategyDiscoveryPayload env call job with
      | .error error => (.error error,
        { store with pending := store.pending.erase (Text.trim call.args.jobId) })
      | .ok status => DiscoveryStore.recordCallback env
        { store with pending := store.pending.erase (Text.trim call.args.jobId) } call status := by
  unfold DiscoveryStore.applyCallback
  dsimp only
  rw [if_neg hid, hanswered, hjob]
  rfl

theorem applyCallback_unknown (hid : Text.trim call.args.jobId ≠ "")
    (hanswered : store.answered call.args.jobId = false)
    (hjob : store.pending[Text.trim call.args.jobId]? = none) :
    store.applyCallback env call = store.recordCallback env call
      (.rejected ("unknown pending strategy discovery job_id=" ++ call.args.jobId)) := by
  unfold DiscoveryStore.applyCallback
  dsimp only
  rw [if_neg hid, hanswered, hjob]
  rfl

/-- What recording a callback does: nothing when the result is not written, and the result without
a marker when that is not written. -/
theorem recordCallback_cases (env : DiscoveryEnv) (store : DiscoveryStore)
    (call : DiscoveryCallback) (status : StrategyDiscoveryResultStatus) :
    (call.resultWrite.isOk = false ∧ ∃ error,
      store.recordCallback env call status = (.error error, store)) ∨
    (call.resultWrite.isOk = true ∧ call.markerWrite.isOk = false ∧ ∃ error,
      store.recordCallback env call status = (.error error, { store with
        results := store.results.insert call.args.jobId (call.record env status) })) ∨
    (call.resultWrite.isOk = true ∧ call.markerWrite.isOk = true ∧
      store.recordCallback env call status = (.ok (.accepted status), { store with
        results := store.results.insert call.args.jobId (call.record env status)
        completed := store.completed.insert (Text.trim call.args.jobId)
          (call.acceptedAtNs, env.resultHash call.args.payload) })) := by
  unfold DiscoveryStore.recordCallback
  cases call.resultWrite with
  | error error => exact .inl ⟨rfl, error, rfl⟩
  | ok =>
    cases call.markerWrite with
    | error error => exact .inr (.inl ⟨rfl, rfl, error, rfl⟩)
    | ok => exact .inr (.inr ⟨rfl, rfl, rfl⟩)

theorem recordCallback_ne_duplicate {status : StrategyDiscoveryResultStatus} :
    (store.recordCallback env call status).1 ≠ .ok .duplicate := by
  rcases recordCallback_cases env store call status with
    ⟨-, error, hresult⟩ | ⟨-, -, error, hresult⟩ | ⟨-, -, hresult⟩
  · simp [hresult]
  · simp [hresult]
  · simp [hresult]

/-- A callback is a duplicate when there is an answer under its id. -/
theorem applyCallback_duplicate_iff (hid : Text.trim call.args.jobId ≠ "") :
    (store.applyCallback env call).1 = .ok .duplicate ↔ store.answered call.args.jobId = true := by
  cases hanswered : store.answered call.args.jobId with
  | true => simp [applyCallback_answered hid hanswered]
  | false =>
    refine iff_of_false ?_ (by simp)
    cases hjob : store.pending[Text.trim call.args.jobId]? with
    | none =>
      rw [applyCallback_unknown hid hanswered hjob]
      exact recordCallback_ne_duplicate
    | some job =>
      rw [applyCallback_pending hid hanswered hjob]
      split
      · simp
      · exact recordCallback_ne_duplicate

/-- Callbacks under an id are admitted when there is no answer under it. -/
theorem admits_iff {id : String} (hid : Text.trim id ≠ "") :
    (∀ call : DiscoveryCallback, call.args.jobId = id →
      (store.applyCallback env call).1 ≠ .ok .duplicate) ↔ store.answered id = false := by
  constructor
  · intro hadmits
    obtain ⟨call, rfl⟩ : ∃ call : DiscoveryCallback, call.args.jobId = id :=
      ⟨⟨⟨id, 0, "", [], ⟨[], [], [], ""⟩⟩, "", 0, 0, .ok (), .ok ()⟩, rfl⟩
    have hcall := hadmits call rfl
    rw [Ne, applyCallback_duplicate_iff hid] at hcall
    simpa using hcall
  · rintro hanswered call rfl
    rw [Ne, applyCallback_duplicate_iff hid, hanswered]
    exact Bool.false_ne_true

end Callbacks

section Steps

variable {env : DiscoveryEnv} {order : SubmittedOrder} {store : DiscoveryStore}
  {act : DiscoveryAct} {call : DiscoveryCallback} {job : PendingStrategyDiscoveryJob}

/-- An act settles jobs as it should exactly when it meets the condition, and then it keeps the
invariant. -/
def DiscoveryAct.Agrees (env : DiscoveryEnv) (order : SubmittedOrder) (store : DiscoveryStore)
    (act : DiscoveryAct) : Prop :=
  (act.Settles env order store ↔ act.Safe env store) ∧
    (act.Settles env order store → DiscoveryOk (act.apply env order store))

/-- The ids of jobs have no white space and are not empty. -/
theorem trim_strategyDiscoveryJobId (nowNs : ℕ) :
    Text.trim (strategyDiscoveryJobId nowNs) = strategyDiscoveryJobId nowNs ∧
      strategyDiscoveryJobId nowNs ≠ "" := by
  have hdigits : (toString nowNs).toList = Nat.toDigits 10 nowNs := by
    rw [Nat.toString_eq_ofList_toDigits, String.toList_ofList]
  have hchars : (strategyDiscoveryJobId nowNs).toList =
      "strategy-discovery-".toList ++ Nat.toDigits 10 nowNs := by
    rw [← hdigits]
    exact String.toList_append
  constructor
  · apply Text.trim_eq_self_of_all
    intro c hc
    rw [hchars, List.mem_append] at hc
    rcases hc with hc | hc
    · have hfront : ("strategy-discovery-".toList.all fun c => !Text.isWhitespace c) = true := by
        decide
      simpa using List.all_eq_true.mp hfront c hc
    · exact isWhitespace_of_isDigit (Nat.isDigit_of_mem_toDigits (by omega) (by omega) hc)
  · intro hempty
    rw [hempty] at hchars
    exact Nat.toDigits_ne_nil (List.append_eq_nil_iff.mp hchars.symm).2

/-- Jobs that leave no answer behind are admitted. -/
theorem DiscoveryOk.admits (h : DiscoveryOk store) (id : String)
    (hjob : store.pending[id]? = some job) (call : DiscoveryCallback)
    (hcall : call.args.jobId = id) : (store.applyCallback env call).1 ≠ .ok .duplicate := by
  obtain ⟨-, htrim, hid⟩ := h.keyed id job hjob
  have hnonempty : Text.trim id ≠ "" := by rwa [htrim]
  exact (admits_iff hnonempty).mpr (h.unanswered id job hjob) call hcall

/-- An act that changes nothing settles jobs as it should. -/
theorem DiscoveryOk.same (h : DiscoveryOk store) (hsame : act.apply env order store = store) :
    act.Settles env order store ∧ DiscoveryOk (act.apply env order store) := by
  refine ⟨⟨?_, fun _ => hsame, ?_, ?_⟩, hsame.symm ▸ h⟩
  · intro id job hjob hgone
    rw [hsame, hjob] at hgone
    cases hgone
  · intro id record hrecord
    rw [hsame]
    exact hrecord
  · intro id job hjob
    rw [hsame] at hjob ⊢
    exact h.admits id hjob

/-- A submission. -/
theorem DiscoveryOk.submit (h : DiscoveryOk store) (nowNs : ℕ) (objective : String)
    (watchlist : List ProtocolWatchlistEntry) (exposureSummary autonomySummary : String) :
    (DiscoveryAct.submit nowNs objective watchlist exposureSummary autonomySummary).Agrees env order
      store := by
  obtain ⟨htrim, hid⟩ := trim_strategyDiscoveryJobId nowNs
  have hnonempty : Text.trim (strategyDiscoveryJobId nowNs) ≠ "" := by rwa [htrim]
  have hupsert : (DiscoveryAct.submit nowNs objective watchlist exposureSummary
      autonomySummary).apply env order store =
        if Text.trim objective ≠ "" ∧ watchlist ≠ [] then { store with
          pending := store.pending.insert (strategyDiscoveryJobId nowNs)
            ⟨strategyDiscoveryJobId nowNs, nowNs, objective, watchlist, exposureSummary,
              autonomySummary⟩ }
        else store := by
    dsimp only [DiscoveryAct.apply, DiscoveryStore.upsertPending]
    rw [if_neg hnonempty]
    by_cases hobjective : Text.trim objective = ""
    · rw [if_pos hobjective, if_neg fun hvalid => hvalid.1 hobjective]
      rfl
    · rw [if_neg hobjective]
      cases watchlist with
      | nil =>
        have hinvalid : ¬ (Text.trim objective ≠ "" ∧ ([] : List ProtocolWatchlistEntry) ≠ []) :=
          fun hvalid => hvalid.2 rfl
        rw [List.isEmpty_nil, if_pos rfl, if_neg hinvalid]
        rfl
      | cons entry entries =>
        have hvalid : Text.trim objective ≠ "" ∧ entry :: entries ≠ [] :=
          ⟨hobjective, List.cons_ne_nil entry entries⟩
        rw [List.isEmpty_cons, if_neg Bool.false_ne_true, if_pos hvalid]
        rfl
  by_cases hvalid : Text.trim objective ≠ "" ∧ watchlist ≠ []
  · rw [if_pos hvalid] at hupsert
    have hanswered (id : String) : ((DiscoveryAct.submit nowNs objective watchlist exposureSummary
        autonomySummary).apply env order store).answered id = store.answered id := by
      rw [hupsert]
      rfl
    have hkeyed : ∀ (id : String) (job : PendingStrategyDiscoveryJob),
        ((DiscoveryAct.submit nowNs objective watchlist exposureSummary
          autonomySummary).apply env order store).pending[id]? = some job →
            (id = strategyDiscoveryJobId nowNs ∨ store.pending[id]? = some job) ∧
              job.jobId = id ∧ Text.trim id = id ∧ id ≠ "" := by
      intro id job hjob
      rw [hupsert, BTreeMap.get?_insert] at hjob
      split at hjob
      · rename_i hsame
        subst hsame
        exact ⟨.inl rfl, by rw [← Option.some.inj hjob], htrim, hid⟩
      · exact ⟨.inr hjob, h.keyed id job hjob⟩
    constructor
    · constructor
      · intro hsettles _ _
        have hjob : ((DiscoveryAct.submit nowNs objective watchlist exposureSummary
            autonomySummary).apply env order store).pending[strategyDiscoveryJobId nowNs]? =
              some ⟨strategyDiscoveryJobId nowNs, nowNs, objective, watchlist, exposureSummary,
                autonomySummary⟩ := by
          rw [hupsert, BTreeMap.get?_insert, if_pos rfl]
        rw [← hanswered]
        exact (admits_iff hnonempty).mp (hsettles.admits _ _ hjob)
      · intro hsafe
        refine ⟨?_, fun hfails => hfails.elim, ?_, ?_⟩
        · intro id job hjob hgone
          rw [hupsert, BTreeMap.get?_insert] at hgone
          split at hgone
          · cases hgone
          · rw [hjob] at hgone
            cases hgone
        · intro id record hrecord
          rw [hupsert]
          exact hrecord
        · intro id job hjob
          obtain ⟨hwhich, -, hidTrim, hidNonempty⟩ := hkeyed id job hjob
          have hidTrimmed : Text.trim id ≠ "" := by rwa [hidTrim]
          rw [admits_iff hidTrimmed, hanswered]
          rcases hwhich with rfl | hstored
          · exact hsafe hvalid.1 hvalid.2
          · exact h.unanswered id job hstored
    · intro hsettles
      refine ⟨fun id job hjob => (hkeyed id job hjob).2, ?_, ?_⟩
      · intro id job hjob
        obtain ⟨-, -, hidTrim, hidNonempty⟩ := hkeyed id job hjob
        have hidTrimmed : Text.trim id ≠ "" := by rwa [hidTrim]
        exact (admits_iff hidTrimmed).mp (hsettles.admits id job hjob)
      · rw [hupsert]
        exact h.marked
  · rw [if_neg hvalid] at hupsert
    obtain ⟨hsettles, hok⟩ := h.same hupsert
    refine ⟨iff_of_true hsettles ?_, fun _ => hok⟩
    intro hobjective hwatchlist
    exact absurd ⟨hobjective, hwatchlist⟩ hvalid

/-- Deleting jobs leaves the answers and the other jobs. -/
theorem foldl_deletePending (jobs : List PendingStrategyDiscoveryJob) (store : DiscoveryStore) :
    (jobs.foldl (fun store job => store.deletePending job.jobId) store).results = store.results ∧
      (jobs.foldl (fun store job => store.deletePending job.jobId) store).completed =
        store.completed ∧
      ∀ id : String,
        (jobs.foldl (fun store job => store.deletePending job.jobId) store).pending[id]? =
          store.pending[id]? ∨
        ((jobs.foldl (fun store job => store.deletePending job.jobId) store).pending[id]? = none ∧
          ∃ job ∈ jobs, Text.trim job.jobId = id) := by
  induction jobs generalizing store with
  | nil => exact ⟨rfl, rfl, fun id => .inl rfl⟩
  | cons job jobs ih =>
    obtain ⟨hresults, hcompleted, hpending⟩ := ih (store.deletePending job.jobId)
    have hdelete : (store.deletePending job.jobId).results = store.results ∧
        (store.deletePending job.jobId).completed = store.completed ∧
          ∀ id : String, (store.deletePending job.jobId).pending[id]? = store.pending[id]? ∨
            ((store.deletePending job.jobId).pending[id]? = none ∧ Text.trim job.jobId = id) := by
      unfold DiscoveryStore.deletePending
      split
      · exact ⟨rfl, rfl, fun id => .inl rfl⟩
      · refine ⟨rfl, rfl, fun id => ?_⟩
        dsimp only
        rw [BTreeMap.get?_erase]
        by_cases hid : Text.trim job.jobId = id
        · exact .inr ⟨if_pos hid, hid⟩
        · exact .inl (if_neg hid)
    rw [List.foldl_cons]
    refine ⟨hresults.trans hdelete.1, hcompleted.trans hdelete.2.1, fun id => ?_⟩
    rcases hpending id with hsame | ⟨hnone, other, hother, hid⟩
    · rcases hdelete.2.2 id with hkept | ⟨hgone, hid⟩
      · exact .inl (hsame.trans hkept)
      · exact .inr ⟨hsame.trans hgone, job, List.mem_cons_self, hid⟩
    · exact .inr ⟨hnone, other, List.mem_cons_of_mem _ hother, hid⟩

/-- What expires was pending and is old. -/
theorem DiscoveryOk.mem_expired (h : DiscoveryOk store) {nowNs ttlSecs : ℕ}
    (hmem : job ∈ store.expired order nowNs ttlSecs) :
    store.pending[Text.trim job.jobId]? = some job ∧
      DiscoveryAct.Expires job (.expire nowNs ttlSecs) := by
  unfold DiscoveryStore.expired at hmem
  split at hmem
  · cases hmem
  · rename_i httl
    obtain ⟨hlisted, hold⟩ := List.mem_filter.mp (List.mem_mergeSort.mp hmem)
    have hrow := (order.perm _).mem_iff.mp (List.mem_of_mem_take hlisted)
    obtain ⟨⟨id, stored⟩, hentry, rfl⟩ := List.mem_map.mp hrow
    have hstored := Std.ExtTreeMap.mem_toList_iff_getElem?_eq_some.mp hentry
    obtain ⟨hkey, htrim, -⟩ := h.keyed id stored hstored
    dsimp only
    rw [hkey, htrim]
    exact ⟨hstored, httl, by simpa using hold⟩

/-- An expiry. -/
theorem DiscoveryOk.expire (h : DiscoveryOk store) (nowNs ttlSecs : ℕ) :
    (DiscoveryAct.expire nowNs ttlSecs).Agrees env order store := by
  obtain ⟨hresults, hcompleted, hpending⟩ :=
    foldl_deletePending (store.expired order nowNs ttlSecs) store
  have hanswered (id : String) : ((DiscoveryAct.expire nowNs ttlSecs).apply env order
      store).answered id = store.answered id := by
    dsimp only [DiscoveryAct.apply, DiscoveryStore.expire, DiscoveryStore.answered]
    rw [hresults, hcompleted]
  have hstored : ∀ (id : String) (job : PendingStrategyDiscoveryJob),
      ((DiscoveryAct.expire nowNs ttlSecs).apply env order store).pending[id]? = some job →
        store.pending[id]? = some job := by
    intro id job hjob
    rcases hpending id with hsame | ⟨hnone, -⟩
    · exact hsame.symm.trans hjob
    · exact absurd (hnone.symm.trans hjob) (by simp)
  have hok : DiscoveryOk ((DiscoveryAct.expire nowNs ttlSecs).apply env order store) := by
    refine ⟨fun id job hjob => h.keyed id job (hstored id job hjob), ?_, ?_⟩
    · intro id job hjob
      rw [hanswered]
      exact h.unanswered id job (hstored id job hjob)
    · intro id record hrecord
      dsimp only [DiscoveryAct.apply, DiscoveryStore.expire] at hrecord ⊢
      rw [hresults] at hrecord
      rw [hcompleted]
      exact h.marked id record hrecord
  refine ⟨iff_of_true ⟨?_, fun hfails => hfails.elim, ?_, fun id job => hok.admits id⟩ trivial,
    fun _ => hok⟩
  · intro id job hjob hgone
    left
    rcases hpending id with hsame | ⟨-, other, hother, hid⟩
    · exact absurd (hsame.symm.trans hgone) (by simp [hjob])
    · obtain ⟨hpresent, hexpires⟩ := h.mem_expired hother
      rw [hid, hjob] at hpresent
      rw [Option.some.inj hpresent]
      exact hexpires
  · intro id record hrecord
    dsimp only [DiscoveryAct.apply, DiscoveryStore.expire]
    rw [hresults]
    exact hrecord

/-- A callback whose result is written with its marker. -/
theorem answered_recorded {id : String} {record : StrategyDiscoveryCallbackRecord}
    {marker : ℕ × String} (pending : BTreeMap String PendingStrategyDiscoveryJob)
    (hid : Text.trim id ≠ Text.trim call.args.jobId) (hresult : Text.trim id ≠ call.args.jobId) :
    DiscoveryStore.answered ⟨pending, store.results.insert call.args.jobId record,
      store.completed.insert (Text.trim call.args.jobId) marker⟩ id = store.answered id := by
  unfold DiscoveryStore.answered
  rw [BTreeMap.get?_insert, BTreeMap.get?_insert, if_neg hid.symm, if_neg hresult.symm]

/-- A result is not stored again under an id that has no answer. -/
theorem DiscoveryOk.no_result (h : DiscoveryOk store)
    (hanswered : store.answered call.args.jobId = false) :
    store.results[call.args.jobId]? = none ∧ store.results[Text.trim call.args.jobId]? = none := by
  simp only [DiscoveryStore.answered, Bool.or_eq_false_iff, Option.isSome_eq_false_iff,
    Option.isNone_iff_eq_none] at hanswered
  refine ⟨?_, hanswered.2⟩
  cases hresult : store.results[call.args.jobId]? with
  | none => rfl
  | some record =>
    have hmarked := h.marked _ _ hresult
    rw [hanswered.1] at hmarked
    cases hmarked

/-- Markers go with results. -/
theorem DiscoveryOk.marked_insert (h : DiscoveryOk store)
    {record : StrategyDiscoveryCallbackRecord} {marker : ℕ × String} :
    ∀ (id : String) (stored : StrategyDiscoveryCallbackRecord),
      (store.results.insert call.args.jobId record)[id]? = some stored →
        (store.completed.insert (Text.trim call.args.jobId) marker)[Text.trim id]?.isSome =
          true := by
  intro id stored hstored
  rw [BTreeMap.get?_insert] at hstored ⊢
  split at hstored
  · rename_i hid
    rw [if_pos (by rw [hid])]
    rfl
  · split
    · rfl
    · exact h.marked id stored hstored

/-- A callback for a pending job. -/
theorem DiscoveryOk.callback_pending (h : DiscoveryOk store)
    (hid : Text.trim call.args.jobId ≠ "") (hanswered : store.answered call.args.jobId = false)
    (hjob : store.pending[Text.trim call.args.jobId]? = some job) :
    (DiscoveryAct.callback call).Agrees env order store := by
  have hresult := @applyCallback_pending env _ _ _ hid hanswered hjob
  -- A failure after the row is deleted is none that changes nothing.
  have herased (store' : DiscoveryStore)
      (hpending : store'.pending = store.pending.erase (Text.trim call.args.jobId)) :
      store' ≠ store := by
    rintro rfl
    rw [hpending, BTreeMap.get?_erase, if_pos rfl] at hjob
    cases hjob
  have hfails (error : String) (store' : DiscoveryStore)
      (hresult : store.applyCallback env call = (.error error, store'))
      (hpending : store'.pending = store.pending.erase (Text.trim call.args.jobId)) :
      ¬ (DiscoveryAct.callback call).Settles env order store := by
    intro hsettles
    have hfails : (DiscoveryAct.callback call).Fails env store := by
      dsimp only [DiscoveryAct.Fails]
      rw [hresult]
      rfl
    have hunchanged := hsettles.unchanged hfails
    dsimp only [DiscoveryAct.apply] at hunchanged
    rw [hresult] at hunchanged
    exact herased store' hpending hunchanged
  cases hvalid : validateStrategyDiscoveryPayload env call job with
  | error error =>
    rw [hvalid] at hresult
    have hsettles := hfails error _ hresult rfl
    refine ⟨iff_of_false hsettles ?_, fun h => absurd h hsettles⟩
    intro hsafe
    obtain ⟨⟨-, hhosts, -⟩, -⟩ := And.intro ((hsafe hid hanswered).1 job hjob) trivial
    have hok := (isOk_validate_iff hid).mpr hhosts
    rw [hvalid] at hok
    cases hok
  | ok status =>
    rw [hvalid] at hresult
    dsimp only at hresult
    have hhosts := (isOk_validate_iff hid).mp (show
      (validateStrategyDiscoveryPayload env call job).isOk = true by rw [hvalid]; rfl)
    rcases recordCallback_cases env ⟨store.pending.erase (Text.trim call.args.jobId), store.results,
      store.completed⟩ call status with
      ⟨hwrite, error, hrecord⟩ | ⟨hwrite, hmarker, error, hrecord⟩ | ⟨hwrite, hmarker, hrecord⟩
    · have hsettles := hfails error _ (hresult.trans hrecord) rfl
      refine ⟨iff_of_false hsettles ?_, fun h => absurd h hsettles⟩
      intro hsafe
      have hwritten := ((hsafe hid hanswered).1 job hjob).2.2
      rw [hwrite] at hwritten
      cases hwritten
    · have hsettles := hfails error _ (hresult.trans hrecord) rfl
      refine ⟨iff_of_false hsettles ?_, fun h => absurd h hsettles⟩
      intro hsafe
      have hwritten := (hsafe hid hanswered).2 hwrite
      rw [hmarker] at hwritten
      cases hwritten
    · obtain ⟨hfresh, hfreshTrimmed⟩ := h.no_result hanswered
      have happly : (DiscoveryAct.callback call).apply env order store =
          ⟨store.pending.erase (Text.trim call.args.jobId),
            store.results.insert call.args.jobId (call.record env status),
            store.completed.insert (Text.trim call.args.jobId)
              (call.acceptedAtNs, env.resultHash call.args.payload)⟩ := by
        dsimp only [DiscoveryAct.apply]
        rw [hresult, hrecord]
      have hrest : ∀ (id : String) (other : PendingStrategyDiscoveryJob),
          ((DiscoveryAct.callback call).apply env order store).pending[id]? = some other →
            id ≠ Text.trim call.args.jobId ∧ store.pending[id]? = some other := by
        intro id other hother
        rw [happly, BTreeMap.get?_erase] at hother
        split at hother
        · cases hother
        · rename_i hne
          exact ⟨Ne.symm hne, hother⟩
      have hok (hname : Text.trim call.args.jobId = call.args.jobId) :
          DiscoveryOk ((DiscoveryAct.callback call).apply env order store) := by
        refine ⟨fun id other hother => h.keyed id other (hrest id other hother).2, ?_, ?_⟩
        · intro id other hother
          obtain ⟨hne, hstored⟩ := hrest id other hother
          obtain ⟨-, htrim, -⟩ := h.keyed id other hstored
          rw [happly, answered_recorded _ (by rwa [htrim]) (by rwa [htrim, ← hname])]
          exact h.unanswered id other hstored
        · rw [happly]
          exact h.marked_insert
      have hsettles : (DiscoveryAct.callback call).Settles env order store ↔
          Text.trim call.args.jobId = call.args.jobId := by
        constructor
        · intro hsettles
          have hgone : ((DiscoveryAct.callback call).apply env order
              store).pending[Text.trim call.args.jobId]? = none := by
            rw [happly, BTreeMap.get?_erase, if_pos rfl]
          rcases hsettles.leaves _ job hjob hgone with hexpires | ⟨hstored, -⟩
          · exact hexpires.elim
          · rw [happly, BTreeMap.get?_insert] at hstored
            split at hstored
            · rename_i hname
              exact hname.symm
            · rw [hfreshTrimmed] at hstored
              cases hstored
        · intro hname
          refine ⟨?_, ?_, ?_, fun id other => (hok hname).admits id⟩
          · intro id other hother hgone
            right
            have hsame : Text.trim call.args.jobId = id := by
              by_contra hne
              rw [happly, BTreeMap.get?_erase, if_neg hne, hother] at hgone
              cases hgone
            subst hsame
            rw [happly, BTreeMap.get?_insert, BTreeMap.get?_insert, if_pos hname.symm, if_pos rfl]
            exact ⟨rfl, rfl⟩
          · intro hfailed
            dsimp only [DiscoveryAct.Fails] at hfailed
            rw [hresult, hrecord] at hfailed
            cases hfailed
          · intro id record hrecord
            rw [happly, BTreeMap.get?_insert, if_neg]
            · exact hrecord
            · intro hsame
              rw [← hsame, hfresh] at hrecord
              cases hrecord
      refine ⟨hsettles.trans ?_, fun h => hok (hsettles.mp h)⟩
      constructor
      · intro hname _ _
        refine ⟨?_, fun _ => hmarker⟩
        intro other hother
        obtain rfl := Option.some.inj (hjob.symm.trans hother)
        exact ⟨hname, hhosts, hwrite⟩
      · intro hsafe
        exact ((hsafe hid hanswered).1 job hjob).1

/-- A callback for a job that is not pending. -/
theorem DiscoveryOk.callback_unknown (h : DiscoveryOk store)
    (hid : Text.trim call.args.jobId ≠ "") (hanswered : store.answered call.args.jobId = false)
    (hjob : store.pending[Text.trim call.args.jobId]? = none) :
    (DiscoveryAct.callback call).Agrees env order store := by
  have hresult := @applyCallback_unknown env _ _ hid hanswered hjob
  obtain ⟨hfresh, -⟩ := h.no_result hanswered
  rcases recordCallback_cases env store call
    (.rejected ("unknown pending strategy discovery job_id=" ++ call.args.jobId)) with
    ⟨hwrite, error, hrecord⟩ | ⟨hwrite, hmarker, error, hrecord⟩ | ⟨hwrite, hmarker, hrecord⟩
  · have happly : (DiscoveryAct.callback call).apply env order store = store := by
      dsimp only [DiscoveryAct.apply]
      rw [hresult, hrecord]
    obtain ⟨hsettles, hok⟩ := h.same happly
    refine ⟨iff_of_true hsettles ?_, fun _ => hok⟩
    intro _ _
    refine ⟨fun job hpresent => ?_, fun hwritten => ?_⟩
    · rw [hjob] at hpresent
      cases hpresent
    · rw [hwrite] at hwritten
      cases hwritten
  · have hsettles : ¬ (DiscoveryAct.callback call).Settles env order store := by
      intro hsettles
      have hfails : (DiscoveryAct.callback call).Fails env store := by
        dsimp only [DiscoveryAct.Fails]
        rw [hresult, hrecord]
        rfl
      have hunchanged := congrArg DiscoveryStore.results (hsettles.unchanged hfails)
      dsimp only [DiscoveryAct.apply] at hunchanged
      rw [hresult, hrecord] at hunchanged
      dsimp only at hunchanged
      rw [← hunchanged, BTreeMap.get?_insert, if_pos rfl] at hfresh
      cases hfresh
    refine ⟨iff_of_false hsettles ?_, fun h => absurd h hsettles⟩
    intro hsafe
    have hwritten := (hsafe hid hanswered).2 hwrite
    rw [hmarker] at hwritten
    cases hwritten
  · have happly : (DiscoveryAct.callback call).apply env order store =
        ⟨store.pending, store.results.insert call.args.jobId (call.record env
          (.rejected ("unknown pending strategy discovery job_id=" ++ call.args.jobId))),
          store.completed.insert (Text.trim call.args.jobId)
            (call.acceptedAtNs, env.resultHash call.args.payload)⟩ := by
      dsimp only [DiscoveryAct.apply]
      rw [hresult, hrecord]
    have hok : DiscoveryOk ((DiscoveryAct.callback call).apply env order store) := by
      rw [happly]
      refine ⟨h.keyed, ?_, h.marked_insert⟩
      intro id job hpresent
      obtain ⟨-, htrim, -⟩ := h.keyed id job hpresent
      have hne : id ≠ Text.trim call.args.jobId := by
        rintro rfl
        exact absurd (hjob.symm.trans hpresent) (by simp)
      rw [answered_recorded _ (by rwa [htrim])]
      · exact h.unanswered id job hpresent
      · intro hsame
        rw [← hsame, htrim] at hne
        exact hne htrim.symm
    have hsettles : (DiscoveryAct.callback call).Settles env order store := by
      refine ⟨?_, ?_, ?_, fun id job => hok.admits id⟩
      · intro id job hpresent hgone
        rw [happly] at hgone
        exact absurd (hgone.symm.trans hpresent) (by simp)
      · intro hfailed
        dsimp only [DiscoveryAct.Fails] at hfailed
        rw [hresult, hrecord] at hfailed
        cases hfailed
      · intro id record hstored
        rw [happly, BTreeMap.get?_insert, if_neg]
        · exact hstored
        · intro hsame
          rw [← hsame, hfresh] at hstored
          cases hstored
    refine ⟨iff_of_true hsettles ?_, fun _ => hok⟩
    intro _ _
    refine ⟨fun job hpresent => ?_, fun _ => hmarker⟩
    rw [hjob] at hpresent
    cases hpresent

theorem DiscoveryOk.agrees (h : DiscoveryOk store) (act : DiscoveryAct) :
    act.Agrees env order store := by
  cases act with
  | submit nowNs objective watchlist exposureSummary autonomySummary =>
    exact h.submit nowNs objective watchlist exposureSummary autonomySummary
  | expire nowNs ttlSecs => exact h.expire nowNs ttlSecs
  | callback call =>
    by_cases hid : Text.trim call.args.jobId = ""
    · have happly : (DiscoveryAct.callback call).apply env order store = store := by
        dsimp only [DiscoveryAct.apply, DiscoveryStore.applyCallback]
        rw [if_pos hid]
      obtain ⟨hsettles, hok⟩ := h.same happly
      exact ⟨iff_of_true hsettles fun hnonempty => absurd hid hnonempty, fun _ => hok⟩
    · cases hanswered : store.answered call.args.jobId with
      | true =>
        have happly : (DiscoveryAct.callback call).apply env order store = store := by
          dsimp only [DiscoveryAct.apply]
          rw [applyCallback_answered hid hanswered]
        obtain ⟨hsettles, hok⟩ := h.same happly
        refine ⟨iff_of_true hsettles ?_, fun _ => hok⟩
        intro _ hunanswered
        rw [hanswered] at hunanswered
        cases hunanswered
      | false =>
        cases hjob : store.pending[Text.trim call.args.jobId]? with
        | none => exact h.callback_unknown hid hanswered hjob
        | some job => exact h.callback_pending hid hanswered hjob

end Steps

/-- Every act of a run settles jobs as it should if and only if every act of the run meets the
condition. -/
theorem discovery_settles_iff (env : DiscoveryEnv) (order : SubmittedOrder)
    (acts : List DiscoveryAct) :
    Along (DiscoveryAct.apply env order) (fun store act => act.Settles env order store) acts
        .empty ↔
      Along (DiscoveryAct.apply env order) (fun store act => act.Safe env store) acts .empty := by
  have hempty : DiscoveryOk .empty := by
    refine ⟨fun id job hjob => ?_, fun id job hjob => ?_, fun id record hrecord => ?_⟩
    · simp [DiscoveryStore.empty] at hjob
    · simp [DiscoveryStore.empty] at hjob
    · simp [DiscoveryStore.empty] at hrecord
  exact along_iff (fun _ act h => (h.agrees act).1) (fun _ act h => (h.agrees act).2) hempty

section Hostless

/-- Jobs of one time in the order of their ids. -/
def byJobId : SubmittedOrder where
  sort jobs := (Sql.RowOrder.byColumn fun job : PendingStrategyDiscoveryJob =>
    -Sql.columnOf job.submittedAtNs).sort jobs
  perm jobs := Sql.RowOrder.perm _ jobs
  sorted jobs := (Sql.RowOrder.sorted _ jobs).imp fun h => by omega

/-- A watchlist with an address that has no scheme, which the configuration admits. -/
def hostlessWatchlist : List ProtocolWatchlistEntry :=
  [⟨"moonwell-usdc", 8453, "0x1111111111111111111111111111111111111111",
    "api.example.com/market", "https://api.example.com/abi"⟩]

/-- A callback for the job with that watchlist. -/
def hostlessCallback : DiscoveryCallback where
  args := ⟨"strategy-discovery-1", 2, "yield", hostlessWatchlist,
    ⟨[], [⟨"c1", "yield", 8453⟩], [], ""⟩⟩
  callerPrincipal := "worker"
  acceptedAtNs := 3
  resultTtlSecs := 3600
  resultWrite := .ok ()
  markerWrite := .ok ()

/-- The callback fails, and the job is lost. -/
theorem hostlessCallback_loses : ¬ ∀ (env : DiscoveryEnv) (order : SubmittedOrder)
    (acts : List DiscoveryAct), Along (DiscoveryAct.apply env order)
      (fun store act => act.Settles env order store) acts .empty := by
  intro hsettles
  obtain ⟨-, hcallback, -⟩ := hsettles ⟨fun _ => [], fun _ => [], fun _ => ""⟩ byJobId
    [.submit 1 "yield" hostlessWatchlist "" "", .callback hostlessCallback]
  have hleaves := hcallback.leaves "strategy-discovery-1"
    ⟨"strategy-discovery-1", 1, "yield", hostlessWatchlist, "", ""⟩ (by decide +kernel)
    (by decide +kernel)
  rcases hleaves with hexpires | ⟨hresult, -⟩
  · exact hexpires
  · revert hresult
    decide +kernel

end Hostless

end Automaton.Strategy
