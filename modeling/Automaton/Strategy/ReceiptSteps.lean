import Automaton.Strategy.BroadcastSteps

/-!
# The steps of the receipts job

The copies on which a job works keep the hashes of their calls, and drop no accepted transaction.
What the job writes from them keeps the invariant, for one execution after the other.
-/

namespace Automaton.Strategy

open Machine Transition

section Copies

variable {world : BroadcastWorld} {copy next : PendingStrategyExecution} {nowNs : ℕ}

/-- A copy whose calls were changed, with their hashes kept, drops no accepted transaction. -/
theorem BroadcastWorld.Copied.change (h : world.Copied copy)
    (hid : next.executionId = copy.executionId)
    (hcalls : ∀ k call, next.calls[k]? = some call → ∃ old, copy.calls[k]? = some old ∧
      call.txHash = old.txHash ∧ call.Hashed ∧ (call.state = .dropped → call.txHash.isSome = true →
        old.state = .dropped ∨ ¬ world.Accepted copy.executionId k)) :
    world.Copied next := by
  constructor
  · obtain ⟨stored, hstored, hhashes⟩ := h.stored
    refine ⟨stored, hid ▸ hstored, fun hopen k hhash => hhashes hopen k ?_⟩
    obtain ⟨call, hcall, hsome⟩ := hasHash_iff.mp hhash
    obtain ⟨old, hold, htxHash, -⟩ := hcalls k call hcall
    exact hasHash_iff.mpr ⟨old, hold, htxHash ▸ hsome⟩
  · intro k call hcall hdropped hsome
    obtain ⟨old, hold, htxHash, -, hhonest⟩ := hcalls k call hcall
    rw [hid]
    rcases hhonest hdropped hsome with holdDropped | hfree
    · exact h.honest k old hold holdDropped (htxHash ▸ hsome)
    · exact hfree
  · intro call hmem
    obtain ⟨k, hk⟩ := List.mem_iff_getElem?.mp hmem
    obtain ⟨old, -, -, hhashed, -⟩ := hcalls k call hk
    exact hhashed

/-- A copy of which the calls stay as they are. -/
theorem BroadcastWorld.Copied.sameCalls (h : world.Copied copy)
    (hid : next.executionId = copy.executionId) (hcalls : next.calls = copy.calls) :
    world.Copied next := by
  refine h.change hid fun k call hcall => ?_
  rw [hcalls] at hcall
  exact ⟨call, hcall, rfl, h.hashed call (List.mem_of_getElem? hcall), fun hdropped _ =>
    .inl hdropped⟩

theorem hasHash_of_calls {change : PendingStrategyExecutionCall → PendingStrategyExecutionCall}
    (hcalls : next.calls = copy.calls.map change)
    (hchange : ∀ call, (change call).txHash = call.txHash) (k : ℕ) :
    next.hasHash k = copy.hasHash k := by
  unfold PendingStrategyExecution.hasHash
  rw [hcalls, List.getElem?_map]
  cases copy.calls[k]? with
  | none => rfl
  | some call => rw [Option.map_some, Option.any_some, Option.any_some, hchange]

theorem expire_txHash (call : PendingStrategyExecutionCall) :
    (call.expire nowNs).txHash = call.txHash := by
  unfold PendingStrategyExecutionCall.expire
  split <;> rfl

/-- Only calls without a hash expire. -/
theorem expire_spec {call : PendingStrategyExecutionCall} (nowNs : ℕ) (h : call.Hashed) :
    call.expire nowNs = call ∨ (call.expire nowNs).state = .dropped ∧ call.txHash = none := by
  unfold PendingStrategyExecutionCall.expire
  split
  · rename_i hexpires
    refine .inr ⟨rfl, ?_⟩
    simp only [PendingStrategyExecutionCall.expires, Bool.or_eq_true, decide_eq_true_eq,
      Bool.and_eq_true] at hexpires
    rcases hexpires with hunattempted | ⟨-, hnone⟩
    · rcases h with hdropped | hhash
      · rw [hunattempted] at hdropped
        cases hdropped
      · rw [hunattempted] at hhash
        simpa using hhash
    · exact Option.isNone_iff_eq_none.mp hnone
  · exact .inl rfl

theorem expireUnattempted_calls (copy : PendingStrategyExecution) (nowNs : ℕ) :
    ∃ change, (∀ call, change call = call ∨ change call = call.expire nowNs) ∧
    (expireUnattemptedStrategyCalls copy nowNs).calls = copy.calls.map change ∧
    (expireUnattemptedStrategyCalls copy nowNs).executionId = copy.executionId := by
  unfold expireUnattemptedStrategyCalls
  split
  · exact ⟨id, fun _ => .inl rfl, (List.map_id _).symm, rfl⟩
  · exact ⟨(·.expire nowNs), fun _ => .inr rfl, rfl, rfl⟩

/-- Expired calls have no hashes. -/
theorem BroadcastWorld.Copied.expire (h : world.Copied copy) :
    world.Copied (expireUnattemptedStrategyCalls copy nowNs) := by
  obtain ⟨change, hchange, hcalls, hid⟩ := expireUnattempted_calls copy nowNs
  refine h.change hid fun k call hcall => ?_
  rw [hcalls, List.getElem?_map] at hcall
  obtain ⟨old, hold, rfl⟩ := Option.map_eq_some_iff.mp hcall
  have hhashed := h.hashed old (List.mem_of_getElem? hold)
  rcases hchange old with hsame | hexpired
  · rw [hsame]
    exact ⟨old, hold, rfl, hhashed, fun hdropped _ => .inl hdropped⟩
  · rw [hexpired]
    refine ⟨old, hold, expire_txHash old, ?_⟩
    rcases expire_spec nowNs hhashed with hsame | ⟨hdropped, hnone⟩
    · rw [hsame]
      exact ⟨hhashed, fun hdropped _ => .inl hdropped⟩
    · refine ⟨.inl hdropped, fun _ hsome => ?_⟩
      rw [expire_txHash, hnone] at hsome
      cases hsome

theorem hasHash_expire (k : ℕ) :
    (expireUnattemptedStrategyCalls copy nowNs).hasHash k = copy.hasHash k := by
  obtain ⟨change, hchange, hcalls, -⟩ := expireUnattempted_calls copy nowNs
  refine hasHash_of_calls hcalls ?_ k
  intro call
  rcases hchange call with hsame | hexpired
  · rw [hsame]
  · rw [hexpired]
    exact expire_txHash call

theorem executionId_expire :
    (expireUnattemptedStrategyCalls copy nowNs).executionId = copy.executionId := by
  obtain ⟨-, -, -, hid⟩ := expireUnattempted_calls copy nowNs
  exact hid

theorem backOff_calls {index : ℕ} {error : String} :
    ∃ change : PendingStrategyExecutionCall → PendingStrategyExecutionCall,
      (∀ call, (change call).txHash = call.txHash ∧ (change call).state = call.state) ∧
        (copy.backOff index error nowNs).calls = copy.calls.modify index change := by
  let change (call : PendingStrategyExecutionCall) : PendingStrategyExecutionCall :=
    { call with lastCheckedAtNs := some nowNs, error := some error }
  exact ⟨change, fun _ => ⟨rfl, rfl⟩, rfl⟩

theorem hasHash_backOff {index : ℕ} {error : String} (k : ℕ) :
    (copy.backOff index error nowNs).hasHash k = copy.hasHash k := by
  obtain ⟨change, hchange, hcalls⟩ : ∃ change : PendingStrategyExecutionCall → _, _ ∧
    (copy.backOff index error nowNs).calls = _ := backOff_calls
  exact hasHash_modify hcalls fun call => (hchange call).1

/-- A receipt that could not be read changes no call. -/
theorem BroadcastWorld.Copied.backOff {index : ℕ} {error : String} (h : world.Copied copy) :
    world.Copied (copy.backOff index error nowNs) := by
  obtain ⟨change, hchange, hcalls⟩ : ∃ change : PendingStrategyExecutionCall → _, _ ∧
    (copy.backOff index error nowNs).calls = _ := backOff_calls
  refine h.change rfl fun k call hcall => ?_
  rw [hcalls, List.getElem?_modify] at hcall
  obtain ⟨old, hold, rfl⟩ := Option.map_eq_some_iff.mp hcall
  have hhashed := h.hashed old (List.mem_of_getElem? hold)
  refine ⟨old, hold, ?_⟩
  split
  · obtain ⟨htxHash, hstate⟩ := hchange old
    refine ⟨htxHash, ?_, fun hdropped _ => .inl (hstate ▸ hdropped)⟩
    rw [PendingStrategyExecutionCall.Hashed, htxHash, hstate]
    exact hhashed
  · exact ⟨rfl, hhashed, fun hdropped _ => .inl hdropped⟩

/-- The next receipt is that of a call that was submitted. -/
theorem nextReceipt_spec {first index : ℕ} (h : copy.nextReceipt first = some index) :
    ∀ call, copy.calls[index]? = some call → call.txHash.isSome = true := by
  intro call hcall
  unfold PendingStrategyExecution.nextReceipt at h
  obtain ⟨k, hk, rfl⟩ := Option.map_eq_some_iff.mp h
  obtain ⟨hlt, hawaits, -⟩ := List.findIdx?_eq_some_iff_getElem.mp hk
  rw [List.getElem_drop] at hawaits
  rw [Nat.add_comm] at hcall
  obtain ⟨hlt', hget⟩ := List.getElem?_eq_some_iff.mp hcall
  rw [hget, PendingStrategyExecutionCall.awaitsReceipt, Bool.and_eq_true] at hawaits
  exact hawaits.2

end Copies

section Jobs

variable {keccakHex : String → String} {policy : QuarantinePolicy} {world : BroadcastWorld}
  {expected execution next : PendingStrategyExecution} {rows : StrategyRows}
  {nowNs requiredDepth : ℕ}

/-- What a job has written about an execution keeps the invariant and leaves the other executions
alone. -/
structure BroadcastWorld.Settled (world : BroadcastWorld) (executionId : String)
    (rows : StrategyRows) : Prop where
  inv : BroadcastInv { world with rows := rows }
  evolves : world.Evolves { world with rows := rows }
  others : ∀ other, other ≠ executionId → rows.executions[other]? = world.rows.executions[other]?

theorem BroadcastInv.settled_self (h : BroadcastInv world) (executionId : String) :
    world.Settled executionId world.rows :=
  ⟨h, .of_rows rfl, fun _ _ => rfl⟩

theorem BroadcastInv.settled_write (h : BroadcastInv world)
    (hwrite : world.Writes world.runs.length rows execution next) :
    world.Settled next.executionId rows := by
  constructor
  · exact h.writeRows hwrite
  · exact hwrite.evolves rfl
  · intro other hother
    rw [hwrite.row, BTreeMap.get?_insert, if_neg (Ne.symm hother)]

theorem run?_length : world.run? world.runs.length = none := by
  by_contra hsome
  obtain ⟨run, hrun⟩ := Option.ne_none_iff_exists'.mp hsome
  exact absurd (lt_length_of_run? hrun) (lt_irrefl _)

/-- Progress that a job writes over what it has read. -/
theorem BroadcastInv.update (h : BroadcastInv world) (hmay : world.MayUpdate expected)
    (hid : next.executionId = expected.executionId)
    (hhashes : ∀ k, next.hasHash k = expected.hasHash k) (hcopied : world.Copied next) :
    world.Settled expected.executionId (world.rows.compareAndUpdate expected next).2 := by
  rcases compareAndUpdate_spec (rfl : (world.rows.compareAndUpdate expected next).2 = _) with
    hsame | ⟨hopen, hnext, hstored, hrows⟩
  · rw [hsame]
    exact h.settled_self _
  rw [hrows, ← hid]
  have hfresh : world.stored expected.executionId = some expected := hid ▸ hstored
  have hnone := hmay hfresh
  apply h.settled_write (?_ : world.Writes _ _ expected next)
  constructor
  · rfl
  · exact hstored
  · exact hopen
  · rw [hid]
    exact fun j run hj _ => hnone j run hj (by simp)
  · intro run hrun
    rw [run?_length] at hrun
    cases hrun
  · exact fun _ k hk => (hhashes k).trans hk
  · exact .inl hnext
  · exact hcopied.hashed
  · intro k haccepted
    rw [hid] at haccepted
    have hhash : next.hasHash k = true :=
      (hhashes k).trans (h.knows_of_noneOut hfresh hopen hnone k haccepted)
    refine ⟨?_, ?_, fun _ => hhash⟩
    · rw [state_of_isOpen hnext]
      exact fun hstate => PendingStrategyExecutionState.noConfusion hstate
    · intro call hcall hdropped
      obtain ⟨other, hother, hsome⟩ := hasHash_iff.mp hhash
      obtain rfl := Option.some.inj (hother.symm.trans hcall)
      exact hcopied.honest k other hother hdropped hsome (hid ▸ haccepted)

/-- An execution that a job has found to fail. -/
theorem BroadcastInv.settle_failed (h : BroadcastInv world)
    (hmay : world.MaySettle expected execution) (hid : execution.executionId = expected.executionId)
    (hhashes : ∀ k, execution.hasHash k = expected.hasHash k) (hcopied : world.Copied execution)
    (hfails : execution.fails = true) (hcalls : next.calls = execution.calls)
    (hnextId : next.executionId = execution.executionId)
    (hstate : next.state = execution.failedState)
    {kind : StrategyOutcomeKind} {reason : String} {changed : Bool}
    (hresult : world.rows.applyTerminalStrategyFailure keccakHex policy next kind reason nowNs =
      .ok (changed, rows)) : world.Settled expected.executionId rows := by
  have hne : next.state ≠ .confirmed := by
    rw [hstate, PendingStrategyExecution.failedState]
    split_ifs <;> exact fun hstate => PendingStrategyExecutionState.noConfusion hstate
  have hclosed : (next.terminate nowNs).isOpen = false := by
    simp [PendingStrategyExecution.isOpen]
  have hexpected : (next.terminate nowNs).executionId = expected.executionId := hnextId.trans hid
  rcases applyTerminalStrategyFailure_spec hne hresult with ⟨-, rfl⟩ | ⟨-, hsettles⟩
  · exact h.settled_self _
  obtain ⟨stored, hstored, hopen⟩ := hsettles.wasOpen
  rw [hexpected] at hstored
  have hnone := hmay.settle (.inl hfails) stored hstored hopen
  rw [← hexpected]
  apply h.settled_write (?_ : world.Writes _ _ stored _)
  constructor
  · exact hsettles.executions
  · rw [hexpected]
    exact hstored
  · exact hopen
  · rw [hexpected]
    exact fun j run hj _ => hnone j run hj (by simp)
  · intro run hrun
    rw [run?_length] at hrun
    cases hrun
  · intro hnextOpen
    rw [hclosed] at hnextOpen
    cases hnextOpen
  · exact .inr (.inl rfl)
  · intro call hmem
    exact hcopied.hashed call (hcalls ▸ hmem)
  · intro k haccepted
    rw [hexpected] at haccepted
    have hhash := (hhashes k).trans (hmay.knows hfails stored hstored hopen k haccepted)
    refine ⟨?_, ?_, ?_⟩
    · intro hdropped
      exact hmay.dropped hfails (hstate.symm.trans hdropped) k haccepted
    · intro call hcall hdropped
      obtain ⟨other, hother, hsome⟩ := hasHash_iff.mp hhash
      change next.calls[k]? = some call at hcall
      rw [hcalls] at hcall
      obtain rfl := Option.some.inj (hother.symm.trans hcall)
      exact hcopied.honest k other hother hdropped hsome (hid ▸ haccepted)
    · intro hnextOpen
      rw [hclosed] at hnextOpen
      cases hnextOpen

/-- An execution of which a job has found all calls confirmed. -/
theorem BroadcastInv.settle_confirmed (h : BroadcastInv world)
    (hmay : world.MaySettle expected execution) (hid : execution.executionId = expected.executionId)
    (hcopied : world.Copied execution) (hconfirmed : execution.allConfirmed = true)
    (hcalls : next.calls = execution.calls) (hnextId : next.executionId = execution.executionId)
    {changed : Bool}
    (hresult : world.rows.applyConfirmedStrategyExecution keccakHex next nowNs =
      .ok (changed, rows)) : world.Settled expected.executionId rows := by
  have hclosed : (next.confirm nowNs).isOpen = false := by
    simp [PendingStrategyExecution.isOpen]
  have hexpected : (next.confirm nowNs).executionId = expected.executionId := hnextId.trans hid
  have hall : ∀ call ∈ execution.calls, call.state = .confirmed := by
    simp only [PendingStrategyExecution.allConfirmed, Bool.and_eq_true] at hconfirmed
    simpa using hconfirmed.2
  have hsent : ∀ (k : ℕ) (call : PendingStrategyExecutionCall), next.calls[k]? = some call →
      call.state = .confirmed ∧ call.txHash.isSome = true := by
    intro k call hcall
    rw [hcalls] at hcall
    have hmem := List.mem_of_getElem? hcall
    have hstate := hall call hmem
    refine ⟨hstate, ?_⟩
    rcases hcopied.hashed call hmem with hdropped | hhash
    · rw [hstate] at hdropped
      cases hdropped
    · rw [hstate] at hhash
      exact hhash.mpr fun hunattempted => StrategyExecutionCallState.noConfusion hunattempted
  rcases applyConfirmedStrategyExecution_spec hresult with ⟨-, rfl⟩ | ⟨-, hsettles, -⟩
  · exact h.settled_self _
  obtain ⟨stored, hstored, hopen⟩ := hsettles.wasOpen
  rw [hexpected] at hstored
  have hnone := hmay.settle (.inr hconfirmed) stored hstored hopen
  rw [← hexpected]
  apply h.settled_write (?_ : world.Writes _ _ stored _)
  constructor
  · exact hsettles.executions
  · rw [hexpected]
    exact hstored
  · exact hopen
  · rw [hexpected]
    exact fun j run hj _ => hnone j run hj (by simp)
  · intro run hrun
    rw [run?_length] at hrun
    cases hrun
  · intro hnextOpen
    rw [hclosed] at hnextOpen
    cases hnextOpen
  · refine .inr (.inr fun k hk => hasHash_iff.mpr ?_)
    have hget : next.calls[k]? = some next.calls[k] := List.getElem?_eq_getElem hk
    exact ⟨_, hget, (hsent k _ hget).2⟩
  · intro call hmem
    exact hcopied.hashed call (hcalls ▸ hmem)
  · intro k _
    refine ⟨fun hstate => PendingStrategyExecutionState.noConfusion hstate, ?_, ?_⟩
    · intro call hcall
      rw [(hsent k call hcall).1]
      exact fun hstate => StrategyExecutionCallState.noConfusion hstate
    · intro hnextOpen
      rw [hclosed] at hnextOpen
      cases hnextOpen

/-- What a job writes after it has read the receipts. -/
theorem BroadcastInv.settleExecution (h : BroadcastInv world)
    (hmay : world.MaySettle expected execution) (hid : execution.executionId = expected.executionId)
    (hhashes : ∀ k, execution.hasHash k = expected.hasHash k) (hcopied : world.Copied execution)
    (hresult : world.rows.settleExecution keccakHex policy expected execution nowNs = .ok rows) :
    world.Settled expected.executionId rows := by
  unfold StrategyRows.settleExecution at hresult
  dsimp only at hresult
  split at hresult
  · rename_i hfails
    obtain ⟨⟨changed, next⟩, hfailed, rfl⟩ := Fallible.map_eq_ok.mp hresult
    refine h.settle_failed hmay hid hhashes hcopied hfails ?_ ?_ ?_ hfailed <;> rfl
  · split at hresult
    · rename_i hconfirmed
      obtain ⟨⟨changed, next⟩, hdone, rfl⟩ := Fallible.map_eq_ok.mp hresult
      refine h.settle_confirmed hmay hid hcopied hconfirmed ?_ ?_ hdone <;> rfl
    · obtain rfl := Except.ok.inj hresult
      refine h.update hmay.update ?_ ?_ ?_
      · exact hid
      · exact hhashes
      · exact hcopied.sameCalls rfl rfl

end Jobs

section TakingUp

variable {keccakHex : String → String} {policy : QuarantinePolicy} {world : BroadcastWorld}
  {expected execution : PendingStrategyExecution} {rows : StrategyRows} {nowNs requiredDepth : ℕ}
  {rpc : Except String Unit} {executions : List PendingStrategyExecution}

/-- What was written about one execution does not change what may be written about others. -/
theorem BroadcastWorld.MayTakeUp.of_rows {executionId : String}
    (h : world.MayTakeUp nowNs rpc executions)
    (hothers : ∀ other, other ≠ executionId →
      rows.executions[other]? = world.rows.executions[other]?)
    (hdistinct : executionId ∉ executions.map (·.executionId)) :
    BroadcastWorld.MayTakeUp { world with rows := rows } nowNs rpc executions := by
  intro expected hmem
  obtain ⟨hupdate, hsettle⟩ := h expected hmem
  have hne : expected.executionId ≠ executionId := by
    rintro rfl
    exact hdistinct (List.mem_map_of_mem ((List.takeWhile_subset _) hmem))
  have hstored : BroadcastWorld.stored { world with rows := rows } expected.executionId =
      world.stored expected.executionId := hothers _ hne
  refine ⟨?_, fun hnone => ?_⟩
  · intro hfresh
    exact hupdate (hstored.symm.trans hfresh)
  · have hmay := hsettle hnone
    constructor
    · intro hfresh
      exact hmay.update (hstored.symm.trans hfresh)
    · intro hends stored hbefore hopen
      exact hmay.settle hends stored (hstored.symm.trans hbefore) hopen
    · intro hfails stored hbefore hopen
      exact hmay.knows hfails stored (hstored.symm.trans hbefore) hopen
    · exact hmay.dropped

theorem takenUpAtOnce_cons
    (h : ((expireUnattemptedStrategyCalls expected nowNs).nextReceipt 0).isNone ∨
      rpc.toOption.isSome = false) :
    takenUpAtOnce nowNs rpc (expected :: executions) =
      expected :: takenUpAtOnce nowNs rpc executions := by
  unfold takenUpAtOnce
  rw [List.takeWhile_cons_of_pos]
  simpa using h

/-- What a job has done when it waits again or ends. -/
structure BroadcastWorld.TookUp (world : BroadcastWorld) (result : StrategyRows × JobState) :
    Prop where
  inv : BroadcastInv { world with rows := result.1 }
  evolves : world.Evolves { world with rows := result.1 }
  job : ∀ job, result.2 = .waiting job →
    BroadcastWorld.JobInv { world with rows := result.1 } job

/-- The job takes up one execution after the other. -/
theorem BroadcastInv.takeUp (h : BroadcastInv world)
    (hcopied : ∀ copy ∈ executions, world.Copied copy)
    (hdistinct : (executions.map (·.executionId)).Nodup)
    (hmay : world.MayTakeUp nowNs rpc executions) :
    world.TookUp (world.rows.takeUp keccakHex policy nowNs requiredDepth rpc executions) := by
  induction executions generalizing world with
  | nil => exact ⟨h, .of_rows rfl, fun job hjob => JobState.noConfusion hjob⟩
  | cons expected rest ih =>
    have hhead := hcopied expected List.mem_cons_self
    have hexpired : world.Copied (expireUnattemptedStrategyCalls expected nowNs) := hhead.expire
    obtain ⟨hfresh, hrest⟩ := List.nodup_cons.mp hdistinct
    have hnext {rows : StrategyRows} (hsettled : world.Settled expected.executionId rows)
        (hatOnce : takenUpAtOnce nowNs rpc (expected :: rest) =
          expected :: takenUpAtOnce nowNs rpc rest) :
        world.TookUp (rows.takeUp keccakHex policy nowNs requiredDepth rpc rest) := by
      have htail : world.MayTakeUp nowNs rpc rest := by
        intro copy hmem
        exact hmay copy (hatOnce ▸ List.mem_cons_of_mem _ hmem)
      have hdone := ih hsettled.inv
        (fun copy hmem => (hcopied copy (List.mem_cons_of_mem _ hmem)).evolve hsettled.evolves rfl)
        hrest (htail.of_rows hsettled.others hfresh)
      exact ⟨hdone.inv, hsettled.evolves.trans hdone.evolves, hdone.job⟩
    unfold StrategyRows.takeUp
    dsimp only
    cases hreceipt : (expireUnattemptedStrategyCalls expected nowNs).nextReceipt 0 with
    | some index =>
      dsimp only
      cases rpc with
      | ok _ =>
        refine ⟨h, .of_rows rfl, ?_⟩
        rintro job ⟨⟩
        constructor
        · exact executionId_expire
        · exact hasHash_expire
        · exact hhead
        · exact hexpired
        · exact nextReceipt_spec hreceipt
        · exact fun copy hmem => hcopied copy (List.mem_cons_of_mem _ hmem)
        · exact hdistinct
      | error error =>
        have hatOnce : takenUpAtOnce nowNs (.error error) (expected :: rest) =
            expected :: takenUpAtOnce nowNs (.error error) rest := takenUpAtOnce_cons (.inr rfl)
        have hupdate := (hmay expected (hatOnce ▸ List.mem_cons_self)).1
        refine hnext (h.update hupdate ?_ ?_ ?_) hatOnce
        · exact executionId_expire
        · exact fun k => (hasHash_backOff k).trans (hasHash_expire k)
        · exact hexpired.backOff
    | none =>
      have hatOnce : takenUpAtOnce nowNs rpc (expected :: rest) =
          expected :: takenUpAtOnce nowNs rpc rest :=
        takenUpAtOnce_cons (.inl (by rw [hreceipt]; rfl))
      have hsettle := (hmay expected (hatOnce ▸ List.mem_cons_self)).2 hreceipt
      dsimp only
      cases hresult : world.rows.settleExecution keccakHex policy expected
        (expireUnattemptedStrategyCalls expected nowNs) nowNs with
      | error error => exact ⟨h, .of_rows rfl, fun job hjob => JobState.noConfusion hjob⟩
      | ok next =>
        exact hnext (h.settleExecution hsettle executionId_expire hasHash_expire hexpired hresult)
          hatOnce

end TakingUp

section Observing

variable {keccakHex : String → String} {policy : QuarantinePolicy} {world : BroadcastWorld}
  {execution : PendingStrategyExecution} {job : ReceiptJob} {i : ℕ}
  {observation : StrategyReceiptObservation}

/-- A receipt keeps the hash of its call; it drops a call that is pending after its time. -/
theorem applyStrategyReceiptObservation_spec {call next : PendingStrategyExecutionCall}
    {nowNs createdAtNs requiredDepth : ℕ}
    (h : applyStrategyReceiptObservation call observation nowNs createdAtNs requiredDepth =
      .ok next) :
    next.txHash = call.txHash ∧ (next.state = call.state ∨ next.state = .confirmed ∨
      next.state = .reverted ∨ next.state = .dropped ∧ observation.status = .pending ∧
        call.timedOut nowNs createdAtNs = true) := by
  unfold applyStrategyReceiptObservation at h
  dsimp only at h
  cases hstatus : observation.status with
  | pending =>
    rw [hstatus] at h
    obtain rfl := Except.ok.inj h
    split
    · exact ⟨rfl, .inr (.inr (.inr ⟨rfl, rfl, ‹_›⟩))⟩
    · exact ⟨rfl, .inl rfl⟩
  | reverted =>
    rw [hstatus] at h
    obtain rfl := Except.ok.inj h
    exact ⟨rfl, .inr (.inr (.inl rfl))⟩
  | confirmed =>
    rw [hstatus] at h
    obtain ⟨receiptBlock, -, h⟩ := Fallible.bind_eq_ok.mp h
    obtain ⟨-, h⟩ := Fallible.ite_error_eq_ok.mp h
    obtain ⟨confirmations, -, h⟩ := Fallible.bind_eq_ok.mp h
    obtain rfl := Except.ok.inj h
    split
    · exact ⟨rfl, .inr (.inl rfl)⟩
    · exact ⟨rfl, .inl rfl⟩

/-- The copy of a job after a receipt that gives up no accepted transaction. -/
theorem BroadcastWorld.JobInv.check (h : world.JobInv job)
    (hpending : observation.status = .pending →
      ∀ call, job.execution.calls[job.index]? = some call →
        call.timedOut job.nowNs job.execution.createdAtNs = true →
          ¬ world.Accepted job.expected.executionId job.index)
    (hcheck : job.check observation = .ok execution) :
    execution.executionId = job.expected.executionId ∧
      (∀ k, execution.hasHash k = job.expected.hasHash k) ∧ world.Copied execution := by
  unfold ReceiptJob.check at hcheck
  cases hcall : job.execution.calls[job.index]? with
  | none =>
    rw [hcall] at hcheck
    obtain rfl := Except.ok.inj hcheck
    exact ⟨h.id, h.hashes, h.execution⟩
  | some call =>
    rw [hcall] at hcheck
    obtain ⟨next, hnext, rfl⟩ := Fallible.map_eq_ok.mp hcheck
    obtain ⟨htxHash, hstate⟩ := applyStrategyReceiptObservation_spec hnext
    obtain ⟨hlt, hget⟩ := List.getElem?_eq_some_iff.mp hcall
    have hcalls : ∀ k, (job.execution.calls.set job.index next)[k]? =
        if job.index = k then some next else job.execution.calls[k]? := by
      intro k
      rw [List.getElem?_set]
      simp only [hlt, if_true]
    refine ⟨h.id, fun k => ?_, h.execution.change rfl fun k call' hcall' => ?_⟩
    · rw [← h.hashes k]
      unfold PendingStrategyExecution.hasHash
      rw [hcalls]
      split
      · rename_i hk
        rw [← hk, hcall, Option.any_some, Option.any_some, htxHash]
      · rfl
    · change (job.execution.calls.set job.index next)[k]? = some call' at hcall'
      rw [hcalls] at hcall'
      split at hcall'
      · rename_i hk
        obtain rfl := Option.some.inj hcall'
        have hsome := h.awaited call hcall
        refine ⟨call, hk ▸ hcall, htxHash, ?_, fun hdropped _ => ?_⟩
        · rw [PendingStrategyExecutionCall.Hashed, htxHash]
          rcases hstate with hsame | hconfirmed | hreverted | ⟨hdropped, -⟩
          · rw [hsame]
            exact h.execution.hashed call (List.mem_of_getElem? hcall)
          · rw [hconfirmed]
            exact .inr (iff_of_true hsome fun hne => StrategyExecutionCallState.noConfusion hne)
          · rw [hreverted]
            exact .inr (iff_of_true hsome fun hne => StrategyExecutionCallState.noConfusion hne)
          · exact .inl hdropped
        · rcases hstate with hsame | hconfirmed | hreverted | ⟨-, hstatus, htimedOut⟩
          · exact .inl (hsame.symm.trans hdropped)
          · rw [hconfirmed] at hdropped
            cases hdropped
          · rw [hreverted] at hdropped
            cases hdropped
          · right
            rw [h.id, ← hk]
            exact hpending hstatus call hcall htimedOut
      · exact ⟨call', hcall', rfl, h.execution.hashed call' (List.mem_of_getElem? hcall'),
          fun hdropped _ => .inl hdropped⟩

/-- The job goes on with the executions that follow the one it has written. -/
theorem BroadcastWorld.JobInv.takeRest {rows : StrategyRows} (hjob : world.JobInv job)
    (hsettled : world.Settled job.expected.executionId rows)
    (hmay : world.MayTakeUp job.nowNs (.ok ()) job.rest) :
    world.TookUp (rows.takeUp keccakHex policy job.nowNs job.requiredDepth (.ok ()) job.rest) := by
  obtain ⟨hfresh, hrest⟩ := List.nodup_cons.mp hjob.distinct
  have hdone : BroadcastWorld.TookUp { world with rows := rows }
      (rows.takeUp keccakHex policy job.nowNs job.requiredDepth (.ok ()) job.rest) :=
    hsettled.inv.takeUp
      (fun copy hmem => (hjob.rest copy hmem).evolve hsettled.evolves rfl) hrest
      (hmay.of_rows hsettled.others hfresh)
  exact ⟨hdone.inv, hsettled.evolves.trans hdone.evolves, hdone.job⟩

/-- A job that has gone on keeps the invariant. -/
theorem BroadcastInv.setJobs {rows : StrategyRows} {jobs : List JobState} {state : JobState}
    (h : world.TookUp (rows, state))
    (hjobs : ∀ (j : ℕ) (job : ReceiptJob), jobs[j]? = some (.waiting job) →
      state = .waiting job ∨ world.JobInv job) :
    BroadcastInv { world with rows := rows, jobs := jobs } := by
  constructor
  · exact ⟨h.inv.keeps.execution, h.inv.keeps.call, h.inv.keeps.once⟩
  · exact h.inv.rows
  · exact h.inv.covered
  · intro j run hj
    have hrun := h.inv.runs j run hj
    refine hrun.evolve (.of_rows rfl) rfl fun hposted => ?_
    obtain ⟨hnone, hfresh, hcall⟩ := hrun.posted hposted
    exact ⟨hnone, hfresh, hcall⟩
  · intro j job hj
    rcases hjobs j job (job?_eq_some.mp hj) with hstate | hold
    · exact (h.job job hstate).evolve (.of_rows rfl) rfl
    · refine (hold.evolve h.evolves rfl).evolve (.of_rows rfl) rfl

/-- The answer to the question for a receipt keeps the invariant. -/
theorem BroadcastInv.observe {answer : Except String StrategyReceiptObservation}
    (h : BroadcastInv world) (hjob : world.job? i = some job)
    (hmay : world.MayObserve job answer) :
    BroadcastInv (world.setJob i (job.observe keccakHex policy world.rows answer)) := by
  have hinv := h.jobs i job hjob
  have hset : world.TookUp (job.observe keccakHex policy world.rows answer) := by
    unfold ReceiptJob.observe
    dsimp only
    cases answer with
    | error error =>
      obtain ⟨hupdate, hrest⟩ := hmay.unread error rfl
      refine hinv.takeRest (h.update hupdate ?_ ?_ ?_) hrest
      · exact hinv.id
      · exact fun k => (hasHash_backOff k).trans (hinv.hashes k)
      · exact hinv.execution.backOff
    | ok observation =>
      dsimp only
      cases hcheck : job.check observation with
      | error error => exact ⟨h, .of_rows rfl, fun job hjob => JobState.noConfusion hjob⟩
      | ok execution =>
        obtain ⟨hid, hhashes, hcopied⟩ := hinv.check (hmay.pending observation rfl) hcheck
        dsimp only
        cases hreceipt : execution.nextReceipt (job.index + 1) with
        | some index =>
          refine ⟨h, .of_rows rfl, ?_⟩
          rintro next ⟨⟩
          exact ⟨hid, hhashes, hinv.expected, hcopied, nextReceipt_spec hreceipt, hinv.rest,
            hinv.distinct⟩
        | none =>
          obtain ⟨hsettle, hrest⟩ := hmay.settle observation execution rfl hcheck hreceipt
          dsimp only
          cases hresult : world.rows.settleExecution keccakHex policy job.expected execution
            job.nowNs with
          | error error => exact ⟨h, .of_rows rfl, fun job hjob => JobState.noConfusion hjob⟩
          | ok next =>
            exact hinv.takeRest (h.settleExecution hsettle hid hhashes hcopied hresult) hrest
  apply BroadcastInv.setJobs hset
  intro j other hj
  rw [List.getElem?_set] at hj
  split_ifs at hj
  · exact .inl (Option.some.inj hj)
  · exact .inr (h.jobs j other (job?_eq_some.mpr hj))

/-- The executions that are due are stored, each under its own id. -/
theorem BroadcastInv.due (h : BroadcastInv world) (nowNs : ℕ) :
    (∀ copy ∈ world.rows.listDuePendingStrategyExecutions nowNs, world.Copied copy) ∧
      ((world.rows.listDuePendingStrategyExecutions nowNs).map (·.executionId)).Nodup := by
  constructor
  · intro copy hmem
    obtain ⟨⟨executionId, hstored⟩, -⟩ := mem_listDuePendingStrategyExecutions hmem
    exact h.copied hstored
  · exact nodup_listDuePendingStrategyExecutions fun executionId execution hstored =>
      (h.rows executionId execution hstored).1

/-- A job that starts keeps the invariant. -/
theorem BroadcastInv.reconcile {nowNs : ℕ} {snapshot : RuntimeSnapshot} (h : BroadcastInv world)
    (hmay : world.MayTakeUp nowNs snapshot.rpcClient
      (world.rows.listDuePendingStrategyExecutions nowNs)) :
    BroadcastInv { world with
      rows := (world.rows.reconcile keccakHex policy nowNs snapshot).1
      jobs := world.jobs ++ [(world.rows.reconcile keccakHex policy nowNs snapshot).2] } := by
  obtain ⟨hcopied, hdistinct⟩ := h.due nowNs
  have htook : world.TookUp (world.rows.reconcile keccakHex policy nowNs snapshot) :=
    h.takeUp hcopied hdistinct hmay
  apply BroadcastInv.setJobs htook
  intro j job hj
  rw [List.getElem?_append] at hj
  split_ifs at hj
  · exact .inr (h.jobs j job (job?_eq_some.mpr hj))
  · rw [List.getElem?_singleton] at hj
    split_ifs at hj
    exact .inl (Option.some.inj hj)

/-- An execution that is inserted keeps the invariant. -/
theorem BroadcastInv.insert (h : BroadcastInv world) {execution : PendingStrategyExecution}
    (hnone : world.stored execution.executionId = none) (hopen : execution.isOpen = true)
    (hnew : ∀ call ∈ execution.calls, call.state = .unattempted ∧ call.txHash = none) :
    BroadcastInv { world with rows := { world.rows with
      executions := world.rows.executions.insert execution.executionId execution } } := by
  let later : BroadcastWorld := { world with rows := { world.rows with
    executions := world.rows.executions.insert execution.executionId execution } }
  have hstored : ∀ executionId stored, world.stored executionId = some stored →
      later.stored executionId = some stored := by
    intro executionId stored hbefore
    refine (BTreeMap.get?_insert).trans ?_
    rw [if_neg]
    · exact hbefore
    · rintro rfl
      rw [hnone] at hbefore
      cases hbefore
  have hafter : ∀ executionId stored, later.stored executionId = some stored →
      executionId = execution.executionId ∧ stored = execution ∨
        world.stored executionId = some stored := by
    intro executionId stored hlater
    have hinsert := (BTreeMap.get?_insert).symm.trans hlater
    split at hinsert
    · exact .inl ⟨Eq.symm ‹_›, (Option.some.inj hinsert).symm⟩
    · exact .inr hinsert
  have hevolves : world.Evolves later := fun executionId stored hbefore =>
    ⟨stored, hstored _ _ hbefore, fun hopen => ⟨hopen, fun _ hhash => hhash⟩⟩
  have hfree : ∀ acceptance ∈ world.accepted, acceptance.executionId ≠ execution.executionId := by
    intro acceptance hacceptance hid
    obtain ⟨stored, hbefore, -⟩ := h.covered acceptance hacceptance
    rw [hid, hnone] at hbefore
    cases hbefore
  constructor
  · constructor
    · intro acceptance hacceptance stored hlater
      rcases hafter _ _ hlater with ⟨hid, -⟩ | hbefore
      · exact absurd hid (hfree acceptance hacceptance)
      · exact h.keeps.execution acceptance hacceptance stored hbefore
    · intro acceptance hacceptance stored hlater
      rcases hafter _ _ hlater with ⟨hid, -⟩ | hbefore
      · exact absurd hid (hfree acceptance hacceptance)
      · exact h.keeps.call acceptance hacceptance stored hbefore
    · exact h.keeps.once
  · intro executionId stored hlater
    rcases hafter _ _ hlater with ⟨rfl, rfl⟩ | hbefore
    · refine ⟨rfl, .inl hopen, fun call hmem => .inr ?_⟩
      obtain ⟨hstate, htxHash⟩ := hnew call hmem
      rw [hstate, htxHash]
      simp
    · exact h.rows executionId stored hbefore
  · intro acceptance hacceptance
    obtain ⟨stored, hbefore, hcovered⟩ := h.covered acceptance hacceptance
    exact ⟨stored, hstored _ _ hbefore, hcovered⟩
  · intro j run hj
    have hrun := h.runs j run hj
    refine hrun.evolve hevolves rfl fun hposted => ?_
    obtain ⟨hnone, hfresh, hcall⟩ := hrun.posted hposted
    exact ⟨hnone, hstored _ _ hfresh, hcall⟩
  · intro j job hj
    exact (h.jobs j job hj).evolve hevolves rfl

end Observing

end Automaton.Strategy
