import Automaton.Strategy.BroadcastRuns

/-!
# The steps of a run

A run that starts, posts a transaction, receives a reply, goes on or fails keeps the invariant. A
transaction that is accepted is recorded in the row that the run has read, or it is still out.
-/

namespace Automaton.Strategy

open Machine Transition

section Calls

variable {execution : PendingStrategyExecution} {index other : ℕ}

theorem hasHash_iff : execution.hasHash index = true ↔
    ∃ call, execution.calls[index]? = some call ∧ call.txHash.isSome = true := by
  unfold PendingStrategyExecution.hasHash
  cases execution.calls[index]? <;> simp

/-- What is done to a call that keeps its hash. -/
theorem hasHash_modify {change : PendingStrategyExecutionCall → PendingStrategyExecutionCall}
    {next : PendingStrategyExecution} (hcalls : next.calls = execution.calls.modify index change)
    (hchange : ∀ call, (change call).txHash = call.txHash) :
    next.hasHash other = execution.hasHash other := by
  unfold PendingStrategyExecution.hasHash
  rw [hcalls, List.getElem?_modify]
  cases execution.calls[other]? with
  | none => rfl
  | some call =>
    rw [Option.map_eq_map, Option.map_some, Option.any_some, Option.any_some]
    split
    · rw [hchange]
    · rfl

/-- The calls after one of them was changed. -/
theorem mem_modify {change : PendingStrategyExecutionCall → PendingStrategyExecutionCall}
    {calls : List PendingStrategyExecutionCall} {call : PendingStrategyExecutionCall}
    (h : call ∈ calls.modify index change) :
    call ∈ calls ∨ ∃ old ∈ calls, call = change old := by
  obtain ⟨k, hk⟩ := List.mem_iff_getElem?.mp h
  rw [List.getElem?_modify] at hk
  cases hold : calls[k]? with
  | none =>
    rw [hold] at hk
    cases hk
  | some old =>
    have hmem : old ∈ calls := List.mem_of_getElem? hold
    rw [hold, Option.map_eq_map, Option.map_some] at hk
    split at hk
    · exact .inr ⟨old, hmem, (Option.some.inj hk).symm⟩
    · exact .inl (Option.some.inj hk ▸ hmem)

end Calls

section Failing

variable {keccakHex : String → String} {env : BroadcastEnv} {world : BroadcastWorld}
  {copy : PendingStrategyExecution} {i index : ℕ} {txHashes : List String}
  {kind : StrategyOutcomeKind} {error : String}

/-- A run that fails keeps the invariant when it does not overlook an accepted transaction. -/
theorem BroadcastInv.failRun (h : BroadcastInv world) (hcopied : world.Copied copy)
    (hunsent : copy.hasHash index = false)
    (hhashes : txHashes = [] → ∀ k, copy.hasHash k = false)
    (hown : ∀ run, world.run? i = some run → run.posted ≠ none →
      run.executionId = copy.executionId ∧ ¬ world.Accepted run.executionId run.index)
    (hmay : ∀ stored, world.stored copy.executionId = some stored → stored.isOpen = true →
      world.NoneOut copy.executionId (some i) ∧ world.Knows copy) :
    BroadcastInv (world.setRun i
      (world.rows.failRun keccakHex env copy index txHashes kind error)) := by
  have hend {result : Except String (List String)} :
      BroadcastInv (world.setRun i (world.rows, .ended result)) :=
    h.endRun fun run hrun hposted => (hown run hrun hposted).2
  have hstate : (copy.dropCall index error txHashes env.nowNs).state ≠ .confirmed := by
    unfold PendingStrategyExecution.dropCall
    dsimp only
    split <;> exact fun hstate => PendingStrategyExecutionState.noConfusion hstate
  unfold StrategyRows.failRun
  cases hresult : world.rows.applyTerminalStrategyFailure keccakHex env.policy
    (copy.dropCall index error txHashes env.nowNs) kind error env.nowNs with
  | error failure => exact hend
  | ok pair =>
    obtain ⟨changed, next⟩ := pair
    rcases applyTerminalStrategyFailure_spec hstate hresult with ⟨-, rfl⟩ | ⟨-, hsettles⟩
    · exact hend
    obtain ⟨stored, hstored, hopen⟩ := hsettles.wasOpen
    obtain ⟨hnone, hknows⟩ := hmay stored hstored hopen
    have hclosed : ((copy.dropCall index error txHashes env.nowNs).terminate env.nowNs).isOpen
        = false := by
      simp [PendingStrategyExecution.isOpen]
    apply h.write
    constructor
    · exact hsettles.executions
    · exact hstored
    · exact hopen
    · exact hnone
    · exact fun run hrun hposted => (hown run hrun hposted).1
    · intro hnextOpen
      rw [hclosed] at hnextOpen
      cases hnextOpen
    · exact .inr (.inl rfl)
    · intro call hcall
      rcases mem_modify hcall with hold | ⟨old, -, rfl⟩
      · exact hcopied.hashed call hold
      · exact .inl rfl
    · intro k haccepted
      have hhash := hknows k haccepted
      refine ⟨?_, ?_, ?_⟩
      · change (if txHashes.isEmpty then _ else _) ≠ _
        split
        · rename_i hempty
          rw [hhashes (List.isEmpty_iff.mp hempty) k] at hhash
          cases hhash
        · exact fun hstate => PendingStrategyExecutionState.noConfusion hstate
      · intro call hcall hdropped
        have hne : index ≠ k := by
          rintro rfl
          rw [hunsent] at hhash
          cases hhash
        change (copy.calls.modify index _)[k]? = some call at hcall
        rw [List.getElem?_modify_ne _ _ hne] at hcall
        obtain ⟨old, hold, hsome⟩ := hasHash_iff.mp hhash
        obtain rfl := Option.some.inj (hold.symm.trans hcall)
        exact hcopied.honest k old hold hdropped hsome haccepted
      · intro hnextOpen
        rw [hclosed] at hnextOpen
        cases hnextOpen

end Failing

section Sending

variable {keccakHex : String → String} {env : BroadcastEnv} {world : BroadcastWorld}
  {copy : PendingStrategyExecution} {i index : ℕ} {txHashes : List String} {run : PlanRun}
  {recoverYParity : List UInt8 → List UInt8 → String → Except String ℕ}

/-- With nothing out, the stored execution has the hashes of all accepted transactions. -/
theorem BroadcastInv.knows_of_noneOut (h : BroadcastInv world)
    (hstored : world.stored copy.executionId = some copy) (hopen : copy.isOpen = true)
    (hnone : world.NoneOut copy.executionId none) : world.Knows copy := by
  intro k haccepted
  refine h.knows hstored hopen ?_ haccepted
  intro j run hj hid _
  exact hnone j run hj (by simp) hid

/-- A run that has sent all calls keeps the invariant. -/
theorem BroadcastInv.finishRun (h : BroadcastInv world) (hidle : world.run? i = none)
    (hstored : world.stored copy.executionId = some copy)
    (hnone : world.NoneOut copy.executionId none) :
    BroadcastInv (world.setRun i (world.rows.finishRun env copy.executionId copy txHashes)) := by
  have hend {result : Except String (List String)} :
      BroadcastInv (world.setRun i (world.rows, .ended result)) := by
    apply h.endRun
    intro run hrun
    rw [hidle] at hrun
    cases hrun
  have hexecution : world.rows.executions[copy.executionId]? = some copy := hstored
  unfold StrategyRows.finishRun
  dsimp only
  rw [hexecution]
  dsimp only
  let desired : PendingStrategyExecution :=
    { copy with state := .pending, updatedAtNs := env.nowNs }
  have hwritten : ∀ next result, (world.rows.compareAndUpdate copy desired).2 = next →
      BroadcastInv (world.setRun i (next, .ended result)) := by
    intro next result hnext
    rcases compareAndUpdate_spec hnext with rfl | ⟨hopen, hdesired, -, rfl⟩
    · exact hend
    apply h.write (?_ : world.Writes i _ copy desired)
    constructor
    · rfl
    · exact hstored
    · exact hopen
    · exact fun j run hj _ => hnone j run hj (by simp)
    · intro run hrun
      rw [hidle] at hrun
      cases hrun
    · exact fun _ _ hhash => hhash
    · exact .inl hdesired
    · exact (h.copied hstored).hashed
    · intro k haccepted
      have hhash := h.knows_of_noneOut hstored hopen hnone k haccepted
      obtain ⟨acceptance, hacceptance, hid, rfl⟩ := haccepted
      refine ⟨fun hstate => PendingStrategyExecutionState.noConfusion hstate, ?_, fun _ => hhash⟩
      exact h.keeps.call acceptance hacceptance copy (hid ▸ hstored)
  cases hcas : world.rows.compareAndUpdate copy desired with
  | mk updated next =>
    cases updated with
    | true => exact hwritten next _ (congrArg Prod.snd hcas)
    | false => exact hwritten next _ (congrArg Prod.snd hcas)

/-- A run that goes on with the stored execution, of which nothing is out, keeps the invariant. -/
theorem BroadcastInv.sendCalls (h : BroadcastInv world) (hidle : world.run? i = none)
    (hstored : world.stored copy.executionId = some copy)
    (hnone : world.NoneOut copy.executionId none) (rest : List StrategyExecutionCall)
    (hlength : index + rest.length = copy.calls.length)
    (hhashes : txHashes = [] → ∀ k, copy.hasHash k = false)
    (hterminal : copy.terminalBookkeepingApplied = false) :
    BroadcastInv (world.setRun i
      (world.rows.sendCalls keccakHex env copy.executionId copy txHashes index rest)) := by
  induction rest generalizing index with
  | nil => exact h.finishRun hidle hstored hnone
  | cons call rest ih =>
    rw [List.length_cons] at hlength
    unfold StrategyRows.sendCalls
    split
    · exact ih (by omega)
    · rename_i hunsent
      have hunsent : copy.hasHash index = false := Bool.eq_false_iff.mpr hunsent
      have hcopied := h.copied hstored
      have hopen : copy.isOpen = true := by
        rcases (h.rows _ _ hstored).2.1 with hopen | hclosed | hall
        · exact hopen
        · rw [hterminal] at hclosed
          cases hclosed
        · rw [hall index (by omega)] at hunsent
          cases hunsent
      have hfail {kind : StrategyOutcomeKind} {error : String} : BroadcastInv (world.setRun i
          (world.rows.failRun keccakHex env copy index txHashes kind error)) := by
        apply h.failRun hcopied hunsent hhashes
        · intro run hrun
          rw [hidle] at hrun
          cases hrun
        · intro stored _ _
          exact ⟨fun j run hj _ => hnone j run hj (by simp),
            h.knows_of_noneOut hstored hopen hnone⟩
      split
      · exact hfail
      · split
        · exact hfail
        · apply h.sendRun
          · intro old hold
            rw [hidle] at hold
            cases hold
          · constructor
            · rfl
            · exact hopen
            · exact hunsent
            · dsimp only
              omega
            · exact hhashes
            · exact hcopied
            · exact fun hposted => absurd rfl hposted

theorem compareAndUpdate_of_stored {rows : StrategyRows}
    {expected desired : PendingStrategyExecution} (hid : expected.executionId = desired.executionId)
    (hexpected : expected.isOpen = true) (hdesired : desired.isOpen = true)
    (hstored : rows.executions[expected.executionId]? = some expected) :
    rows.compareAndUpdate expected desired = (true, { rows with
      executions := rows.executions.insert desired.executionId desired }) := by
  unfold StrategyRows.compareAndUpdate
  rw [if_neg (by simp [hid, hexpected, hdesired]), ← hid, if_pos hstored]

/-- The transaction hash is recorded in the stored execution, and the run goes on. -/
theorem BroadcastInv.resume_ok (h : BroadcastInv world) (hrun : world.run? i = some run)
    (hposted : run.posted ≠ none) (txHash : String) :
    BroadcastInv (world.setRun i (run.resume keccakHex world.rows env (.ok txHash))) := by
  have hinv := h.runs i run hrun
  obtain ⟨hnone, hfresh, hcall⟩ := hinv.posted hposted
  rw [← hinv.id] at hnone hfresh
  obtain ⟨next, hnext⟩ : ∃ next, next = run.execution.submitCall run.index txHash env.nowNs :=
    ⟨_, rfl⟩
  have hcalls : next.calls = run.execution.calls.modify run.index fun call =>
      { call with
        txHash := some txHash, state := .submitted, submittedAtNs := some env.nowNs } := by
    rw [hnext]
    rfl
  have hid : next.executionId = run.execution.executionId := by rw [hnext]; rfl
  have hopen : next.isOpen = true := by
    rw [hnext]
    exact hinv.opened
  have hstate : next.state = run.execution.state := by rw [hnext]; rfl
  have hlength : next.calls.length = run.execution.calls.length := by
    rw [hcalls, List.length_modify]
  have hterminal : next.terminalBookkeepingApplied = false := by
    have hflag := hopen
    simp only [PendingStrategyExecution.isOpen, Bool.and_eq_true] at hflag
    simpa using hflag.2
  have hown : next.hasHash run.index = true := by
    have hlt : run.index < run.execution.calls.length := by
      have hlength := hinv.length
      omega
    apply hasHash_iff.mpr
    rw [hcalls, List.getElem?_modify_eq, List.getElem?_eq_getElem hlt]
    exact ⟨_, rfl, rfl⟩
  have hhash : ∀ k, run.execution.hasHash k = true → next.hasHash k = true := by
    intro k hk
    by_cases hki : k = run.index
    · rw [hki]
      exact hown
    · obtain ⟨call, hcall, hsome⟩ := hasHash_iff.mp hk
      apply hasHash_iff.mpr
      rw [hcalls, List.getElem?_modify_ne _ _ (Ne.symm hki)]
      exact ⟨call, hcall, hsome⟩
  unfold PlanRun.resume
  dsimp only
  rw [← hnext, compareAndUpdate_of_stored hid.symm hinv.opened hopen hfresh]
  dsimp only
  let rows : StrategyRows :=
    { world.rows with executions := world.rows.executions.insert next.executionId next }
  have hwritten : BroadcastInv (world.setRun i (rows, .ended (.ok []))) := by
    apply h.write (?_ : world.Writes i rows run.execution next)
    constructor
    · rfl
    · rw [hid]
      exact hfresh
    · exact hinv.opened
    · rw [hid]
      exact hnone
    · intro other hother _
      obtain rfl := Option.some.inj (hrun.symm.trans hother)
      rw [hid, hinv.id]
    · exact fun _ => hhash
    · exact .inl hopen
    · intro call hmem
      rw [hcalls] at hmem
      rcases mem_modify hmem with hold | ⟨old, -, rfl⟩
      · exact hinv.copied.hashed call hold
      · exact .inr (iff_of_true rfl fun hstate => StrategyExecutionCallState.noConfusion hstate)
    · intro k haccepted
      rw [hid] at haccepted
      have hpending : next.state = .pending := state_of_isOpen hopen
      refine ⟨?_, ?_, fun _ => ?_⟩
      · rw [hpending]
        exact fun hstate => PendingStrategyExecutionState.noConfusion hstate
      · intro call hk
        by_cases hki : k = run.index
        · subst hki
          rw [hcalls, List.getElem?_modify_eq] at hk
          obtain ⟨old, -, rfl⟩ := Option.map_eq_some_iff.mp hk
          exact fun hdropped => StrategyExecutionCallState.noConfusion hdropped
        · rw [hcalls, List.getElem?_modify_ne _ _ (Ne.symm hki)] at hk
          obtain ⟨acceptance, hacceptance, hacceptanceId, rfl⟩ := haccepted
          exact h.keeps.call acceptance hacceptance run.execution (hacceptanceId ▸ hfresh) call hk
      · by_cases hki : k = run.index
        · rw [hki]
          exact hown
        · refine hhash k (h.knows hfresh hinv.opened ?_ haccepted)
          intro j other hj hotherId hindex
          refine hnone j other hj ?_ hotherId
          rintro ⟨⟩
          obtain rfl := Option.some.inj (hrun.symm.trans hj)
          exact hki hindex.symm
  have hset : ∀ result, world.setRun i result =
      (world.setRun i (rows, .ended (.ok []))).setRun i result := by
    intro result
    simp [BroadcastWorld.setRun]
  rw [hset, ← hinv.id, ← hid]
  apply hwritten.sendCalls
  · by_contra hsome
    obtain ⟨other, hother⟩ := Option.ne_none_iff_exists'.mp hsome
    rcases run?_setRun hother with ⟨-, hstate⟩ | ⟨hne, -⟩
    · cases hstate
    · exact hne rfl
  · exact (BTreeMap.get?_insert).trans (if_pos rfl)
  · intro j other hj _ hotherId
    rcases run?_setRun hj with ⟨-, hstate⟩ | ⟨hne, hj⟩
    · cases hstate
    · exact hnone j other hj (by simpa using hne) (hotherId.trans hid)
  · rw [hlength]
    exact hinv.length
  · intro hnil
    simp at hnil
  · exact hterminal

/-- A send that failed is recorded when its transaction was not accepted. -/
theorem BroadcastInv.resume_error (h : BroadcastInv world) (hrun : world.run? i = some run)
    (hmay : world.MayFail i run)
    (hfree : run.posted ≠ none → ¬ world.Accepted run.executionId run.index) (error : String) :
    BroadcastInv (world.setRun i (run.resume keccakHex world.rows env (.error error))) := by
  have hinv := h.runs i run hrun
  apply h.failRun hinv.copied hinv.unsent hinv.hashes
  · intro other hother hposted
    obtain rfl := Option.some.inj (hrun.symm.trans hother)
    exact ⟨hinv.id.symm, hfree hposted⟩
  · intro stored hstored hopen
    rw [hinv.id] at hstored ⊢
    exact hmay stored hstored hopen

/-- The answers before the transaction keep the invariant. -/
theorem BroadcastInv.prepare {answers : SendAnswers} (h : BroadcastInv world)
    (hrun : world.run? i = some run)
    (hmay : if run.posts recoverYParity answers then world.MayPost i run
      else world.MayFail i run) :
    BroadcastInv (world.setRun i
      (run.prepare keccakHex world.rows env recoverYParity answers)) := by
  have hinv := h.runs i run hrun
  unfold PlanRun.prepare
  split
  · rename_i args fromAddress chainId hphase
    have hnone : run.posted = none := by
      unfold PlanRun.posted
      rw [hphase]
    split
    · rename_i error hbuild
      rw [if_neg (by simp [PlanRun.posts, hphase, hbuild, Except.toOption])] at hmay
      exact h.resume_error hrun hmay (absurd hnone) error
    · rename_i raw hbuild
      rw [if_pos (by simp [PlanRun.posts, hphase, hbuild, Except.toOption])] at hmay
      apply h.sendRun
      · intro old hold hposted
        obtain rfl := Option.some.inj (hrun.symm.trans hold)
        exact absurd hnone hposted
      · exact ⟨hinv.id, hinv.opened, hinv.unsent, hinv.length, hinv.hashes, hinv.copied,
          fun _ => hmay⟩
  · apply h.sendRun
    · intro old hold _
      obtain rfl := Option.some.inj (hrun.symm.trans hold)
      exact ⟨rfl, rfl, rfl⟩
    · exact hinv

/-- The reply of an endpoint keeps the invariant when no accepted transaction is answered with an
error. -/
theorem BroadcastInv.receive {answer : Except String RpcResponse} (h : BroadcastInv world)
    (hrun : world.run? i = some run)
    (hfree : ∀ error, run.result answer = some (.error error) →
      ¬ world.Accepted run.executionId run.index) :
    BroadcastInv (world.setRun i (run.receive keccakHex world.rows env answer)) := by
  have hinv := h.runs i run hrun
  have hposted : run.result answer ≠ none → run.posted ≠ none := by
    unfold PlanRun.result PlanRun.posted
    cases run.phase <;> simp
  unfold PlanRun.receive
  cases hresult : run.result answer with
  | none =>
    have hsame : (run.fallBack answer).posted = run.posted := by
      unfold PlanRun.fallBack
      split
      · rename_i raw error hphase
        simp only [PlanRun.posted, hphase]
      · rfl
    have hfields : (run.fallBack answer).executionId = run.executionId ∧
        (run.fallBack answer).execution = run.execution ∧
        (run.fallBack answer).txHashes = run.txHashes ∧
        (run.fallBack answer).index = run.index ∧ (run.fallBack answer).rest = run.rest := by
      unfold PlanRun.fallBack
      split <;> exact ⟨rfl, rfl, rfl, rfl, rfl⟩
    obtain ⟨hid, hexecution, hhashes, hindex, hrest⟩ := hfields
    apply h.sendRun
    · intro old hold _
      obtain rfl := Option.some.inj (hrun.symm.trans hold)
      exact ⟨hid, hindex, hsame⟩
    · constructor
      · rw [hid, hexecution]
        exact hinv.id
      · rw [hexecution]
        exact hinv.opened
      · rw [hexecution, hindex]
        exact hinv.unsent
      · rw [hexecution, hindex, hrest]
        exact hinv.length
      · rw [hexecution, hhashes]
        exact hinv.hashes
      · rw [hexecution]
        exact hinv.copied
      · intro hne
        rw [hsame] at hne
        rw [BroadcastWorld.MayPost, hid, hexecution, hindex]
        exact hinv.posted hne
  | some result =>
    have hout := hposted (by rw [hresult]; exact Option.some_ne_none result)
    cases result with
    | ok txHash => exact h.resume_ok hrun hout txHash
    | error error =>
      have hrefused := hfree error hresult
      refine h.resume_error hrun ?_ (fun _ => hrefused) error
      obtain ⟨hnone, hfresh, -⟩ := hinv.posted hout
      intro stored hstored hopen
      refine ⟨hnone, fun k haccepted => ?_⟩
      rw [hinv.id] at haccepted
      refine h.knows hfresh hinv.opened ?_ haccepted
      intro j other hj hid hindex
      refine hnone j other hj ?_ hid
      rintro ⟨⟩
      obtain rfl := Option.some.inj (hrun.symm.trans hj)
      exact hrefused (hindex ▸ haccepted)

/-- An endpoint that accepts a transaction keeps the invariant. -/
theorem BroadcastInv.accept (h : BroadcastInv world) (hrun : world.run? i = some run)
    {raw : List UInt8} (hraw : run.posted = some raw) :
    BroadcastInv { world with
      accepted := world.accepted ++ [⟨run.executionId, run.index, raw⟩] } := by
  have hinv := h.runs i run hrun
  have hposted : run.posted ≠ none := by simp [hraw]
  obtain ⟨hnone, hfresh, hcall⟩ := hinv.posted hposted
  let later : BroadcastWorld := { world with
    accepted := world.accepted ++ [⟨run.executionId, run.index, raw⟩] }
  have hmem : ∀ acceptance ∈ later.accepted, acceptance ∈ world.accepted ∨
      acceptance = ⟨run.executionId, run.index, raw⟩ := by
    intro acceptance hacceptance
    exact (List.mem_append.mp hacceptance).imp_right List.mem_singleton.mp
  have hcopied : ∀ copy, world.Copied copy → later.Copied copy := by
    intro copy hcopy
    refine ⟨hcopy.stored, ?_, hcopy.hashed⟩
    rintro k call hk hdropped hhash ⟨acceptance, hacceptance, hid, hindex⟩
    rcases hmem acceptance hacceptance with hold | rfl
    · exact hcopy.honest k call hk hdropped hhash ⟨acceptance, hold, hid, hindex⟩
    · obtain ⟨stored, hstored, hhashes⟩ := hcopy.stored
      change run.executionId = copy.executionId at hid
      rw [← hid, hfresh] at hstored
      obtain rfl := Option.some.inj hstored
      have hsent := hhashes hinv.opened k (hasHash_iff.mpr ⟨call, hk, hhash⟩)
      rw [← hindex, hinv.unsent] at hsent
      cases hsent
  have honce : ∀ acceptance ∈ world.accepted, acceptance.executionId = run.executionId →
      acceptance.index = run.index → acceptance.raw = raw := by
    intro acceptance hacceptance hid hindex
    obtain ⟨stored, hstored, hcovered⟩ := h.covered acceptance hacceptance
    rw [hid, hfresh] at hstored
    obtain rfl := Option.some.inj hstored
    rcases hcovered hinv.opened with hhash | ⟨j, other, hj, hotherId, -, hotherRaw⟩
    · rw [hindex, hinv.unsent] at hhash
      cases hhash
    · by_cases hij : j = i
      · subst hij
        obtain rfl := Option.some.inj (hrun.symm.trans hj)
        exact Option.some.inj (hotherRaw.symm.trans hraw)
      · rw [hnone j other hj (by simpa using hij) (hotherId.trans hid)] at hotherRaw
        cases hotherRaw
  have hstate : run.execution.state ≠ .dropped := by
    rw [state_of_isOpen hinv.opened]
    exact fun hstate => PendingStrategyExecutionState.noConfusion hstate
  constructor
  · constructor
    · intro acceptance hacceptance stored hstored
      rcases hmem acceptance hacceptance with hold | rfl
      · exact h.keeps.execution acceptance hold stored hstored
      · obtain rfl := Option.some.inj (hfresh.symm.trans hstored)
        exact hstate
    · intro acceptance hacceptance stored hstored
      rcases hmem acceptance hacceptance with hold | rfl
      · exact h.keeps.call acceptance hold stored hstored
      · obtain rfl := Option.some.inj (hfresh.symm.trans hstored)
        exact hcall
    · intro acceptance hacceptance other hother hid hindex
      rcases hmem acceptance hacceptance with hold | rfl
      · rcases hmem other hother with hold' | rfl
        · exact h.keeps.once acceptance hold other hold' hid hindex
        · exact honce acceptance hold hid hindex
      · rcases hmem other hother with hold' | rfl
        · exact (honce other hold' hid.symm hindex.symm).symm
        · rfl
  · exact h.rows
  · intro acceptance hacceptance
    rcases hmem acceptance hacceptance with hold | rfl
    · exact h.covered acceptance hold
    · exact ⟨run.execution, hfresh, fun _ => .inr ⟨i, run, hrun, rfl, rfl, hraw⟩⟩
  · intro j other hj
    have hother := h.runs j other hj
    exact ⟨hother.id, hother.opened, hother.unsent, hother.length, hother.hashes,
      hcopied _ hother.copied, hother.posted⟩
  · intro j job hj
    have hjob := h.jobs j job hj
    exact ⟨hjob.id, hjob.hashes, hcopied _ hjob.expected, hcopied _ hjob.execution, hjob.awaited,
      fun copy hcopy => hcopied copy (hjob.rest copy hcopy), hjob.distinct⟩

end Sending

end Automaton.Strategy
