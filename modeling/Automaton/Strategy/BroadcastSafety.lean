import Automaton.Strategy.ReceiptSteps

/-!
# Accepted transactions are kept, and sent once

In runs whose steps are undisturbed, an accepted call is not dropped, and only one transaction is
accepted for it. When the reply to an accepted transaction is lost, its call is dropped.
-/

namespace Automaton.Strategy

open Machine Transition

section Steps

variable {keccakHex : String → String}
  {recoverYParity : List UInt8 → List UInt8 → String → Except String ℕ} {world : BroadcastWorld}

theorem newExecutionCall_unattempted {calls : List StrategyExecutionCall}
    {call : PendingStrategyExecutionCall} (h : call ∈ calls.mapIdx newExecutionCall) :
    call.state = .unattempted ∧ call.txHash = none := by
  obtain ⟨index, hlt, rfl⟩ := List.mem_mapIdx.mp h
  exact ⟨rfl, rfl⟩

/-- Only the executions matter. -/
theorem BroadcastInv.of_executions {rows : StrategyRows} (h : BroadcastInv world)
    (hsame : rows.executions = world.rows.executions) :
    BroadcastInv { world with rows := rows } := by
  have hstored : ∀ executionId, BroadcastWorld.stored { world with rows := rows } executionId =
      world.stored executionId := by
    intro executionId
    simp only [BroadcastWorld.stored, hsame]
  have hevolves : world.Evolves { world with rows := rows } := by
    intro executionId stored hbefore
    exact ⟨stored, (hstored executionId).trans hbefore, fun hopen => ⟨hopen, fun _ hhash => hhash⟩⟩
  constructor
  · constructor
    · intro acceptance hacceptance execution hexecution
      exact h.keeps.execution acceptance hacceptance execution ((hstored _).symm.trans hexecution)
    · intro acceptance hacceptance execution hexecution
      exact h.keeps.call acceptance hacceptance execution ((hstored _).symm.trans hexecution)
    · exact h.keeps.once
  · intro executionId execution hexecution
    exact h.rows executionId execution ((hstored _).symm.trans hexecution)
  · intro acceptance hacceptance
    obtain ⟨execution, hexecution, hcovered⟩ := h.covered acceptance hacceptance
    exact ⟨execution, (hstored _).trans hexecution, hcovered⟩
  · intro j run hj
    have hrun := h.runs j run hj
    refine hrun.evolve hevolves rfl fun hposted => ?_
    obtain ⟨hnone, hfresh, hcall⟩ := hrun.posted hposted
    exact ⟨hnone, (hstored _).trans hfresh, hcall⟩
  · intro j job hj
    exact (h.jobs j job hj).evolve hevolves rfl

theorem persistStrategyFailure_executions {rows next : StrategyRows} {env : BroadcastEnv}
    {plan : ExecutionPlan} {kind : StrategyOutcomeKind} {error : String}
    (h : rows.persistStrategyFailure keccakHex env plan kind error = .ok next) :
    next.executions = rows.executions := by
  unfold StrategyRows.persistStrategyFailure at h
  obtain ⟨-, -, h⟩ := Fallible.bind_eq_ok.mp h
  obtain ⟨-, h⟩ := Fallible.ite_error_eq_ok.mp h
  obtain ⟨stats, -, h⟩ := Fallible.bind_eq_ok.mp h
  dsimp only at h
  split at h
  · obtain rfl := Except.ok.inj h
    rfl
  · obtain rfl := Except.ok.inj h
    rfl

/-- A run that starts keeps the invariant. -/
theorem BroadcastInv.execute {env : BroadcastEnv} {plan : ExecutionPlan} {executionId : String}
    (h : BroadcastInv world) (hnone : world.NoneOut executionId none) :
    BroadcastInv { world with
      rows := (world.rows.executeStrategyPlan keccakHex env plan executionId).1
      runs := world.runs ++
        [(world.rows.executeStrategyPlan keccakHex env plan executionId).2] } := by
  let started : BroadcastWorld := { world with runs := world.runs ++ [.ended (.ok [])] }
  have hold : ∀ j run, started.run? j = some run → world.run? j = some run := by
    intro j run hj
    have hrun := run?_eq_some.mp hj
    rw [List.getElem?_append] at hrun
    split_ifs at hrun
    · exact run?_eq_some.mpr hrun
    · rw [List.getElem?_singleton] at hrun
      split_ifs at hrun
      cases Option.some.inj hrun
  have hnew : ∀ j run, world.run? j = some run → started.run? j = some run := by
    intro j run hj
    apply run?_eq_some.mpr
    rw [List.getElem?_append_left (lt_length_of_run? hj)]
    exact run?_eq_some.mp hj
  have hstarted : BroadcastInv started := by
    constructor
    · exact ⟨h.keeps.execution, h.keeps.call, h.keeps.once⟩
    · exact h.rows
    · intro acceptance hacceptance
      obtain ⟨stored, hstored, hcovered⟩ := h.covered acceptance hacceptance
      refine ⟨stored, hstored, fun hopen => ?_⟩
      rcases hcovered hopen with hhash | ⟨j, run, hj, hrun⟩
      · exact .inl hhash
      · exact .inr ⟨j, run, hnew j run hj, hrun⟩
    · intro j run hj
      have hrun := h.runs j run (hold j run hj)
      refine hrun.evolve (.of_rows rfl) rfl fun hposted => ?_
      obtain ⟨hnone, hfresh, hcall⟩ := hrun.posted hposted
      exact ⟨fun k other hk => hnone k other (hold k other hk), hfresh, hcall⟩
    · intro j job hj
      exact (h.jobs j job hj).evolve (.of_rows rfl) rfl
  have hidle : started.run? world.runs.length = none := by
    by_contra hsome
    obtain ⟨run, hrun⟩ := Option.ne_none_iff_exists'.mp hsome
    exact absurd (lt_length_of_run? (hold _ _ hrun)) (lt_irrefl _)
  have hset : ∀ result, started.setRun world.runs.length result =
      { world with rows := result.1, runs := world.runs ++ [result.2] } := by
    intro result
    simp [started, BroadcastWorld.setRun]
  rw [← hset]
  have hend : ∀ result, BroadcastInv (started.setRun world.runs.length
      (world.rows, .ended result)) := by
    intro result
    apply hstarted.endRun
    intro run hrun
    rw [hidle] at hrun
    cases hrun
  unfold StrategyRows.executeStrategyPlan
  split
  · dsimp only
    split
    · exact hend _
    · rename_i next hpersist
      exact (hend _).of_executions (persistStrategyFailure_executions hpersist)
  · split
    · exact hend _
    · rename_i execution hstored
      split
      · exact hend _
      · rename_i hcalls
        split
        · exact hend _
        · rename_i hterminal
          obtain rfl := (h.rows _ _ hstored).1
          apply hstarted.sendCalls hidle hstored
          · exact fun j run hj => hnone j run (hold j run hj)
          · rw [← not_not.mp hcalls, List.length_map, Nat.zero_add]
          · intro hempty k
            rw [Bool.eq_false_iff]
            intro hhash
            obtain ⟨call, hcall, hsome⟩ := hasHash_iff.mp hhash
            obtain ⟨txHash, htxHash⟩ := Option.isSome_iff_exists.mp hsome
            have hmem : txHash ∈ execution.calls.filterMap (·.txHash) :=
              List.mem_filterMap.mpr ⟨call, List.mem_of_getElem? hcall, htxHash⟩
            rw [hempty] at hmem
            cases hmem
          · exact Bool.eq_false_iff.mpr hterminal

theorem BroadcastInv.step {act : BroadcastAct} (h : BroadcastInv world)
    (hundisturbed : world.Undisturbed recoverYParity act) :
    BroadcastInv (act.apply keccakHex recoverYParity world) := by
  cases act with
  | insert turnId planDigest plan nowNs =>
    dsimp only [BroadcastAct.apply]
    cases hinsert : world.rows.insertPendingStrategyExecution
        (newPendingExecution turnId planDigest plan nowNs) with
    | error message => exact h
    | ok pair =>
      obtain ⟨stored, next⟩ := pair
      rcases insertPendingStrategyExecution_spec hinsert with ⟨-, rfl⟩ | ⟨hnone, rfl⟩
      · exact h
      · exact h.insert hnone isOpen_newPendingExecution fun call hcall =>
          newExecutionCall_unattempted hcall
  | execute env plan executionId => exact h.execute hundisturbed
  | prepare i answers env =>
    dsimp only [BroadcastAct.apply]
    cases hrun : world.run? i with
    | none => exact h
    | some run => exact h.prepare hrun (hundisturbed run hrun)
  | accept i =>
    dsimp only [BroadcastAct.apply]
    cases hrun : world.run? i with
    | none => exact h
    | some run =>
      dsimp only [Option.elim]
      cases hraw : run.posted with
      | none => exact h
      | some raw => exact h.accept hrun hraw
  | reply i answer env =>
    dsimp only [BroadcastAct.apply]
    cases hrun : world.run? i with
    | none => exact h
    | some run => exact h.receive hrun fun error => hundisturbed run error hrun
  | reconcile nowNs snapshot policy => exact h.reconcile hundisturbed
  | observe i answer policy =>
    dsimp only [BroadcastAct.apply]
    cases hjob : world.job? i with
    | none => exact h
    | some job => exact h.observe hjob (hundisturbed job hjob)

theorem broadcastInv_fresh : BroadcastInv .fresh := by
  constructor
  · constructor <;> simp [BroadcastWorld.fresh]
  · intro executionId execution hstored
    simp [BroadcastWorld.stored, BroadcastWorld.fresh, StrategyRows.empty] at hstored
  · simp [BroadcastWorld.fresh]
  · intro i run hrun
    simp [BroadcastWorld.run?, BroadcastWorld.fresh] at hrun
  · intro i job hjob
    simp [BroadcastWorld.job?, BroadcastWorld.fresh] at hjob

end Steps

/-- The worlds that undisturbed steps reach. -/
def UndisturbedReachable (keccakHex : String → String)
    (recoverYParity : List UInt8 → List UInt8 → String → Except String ℕ) :
    BroadcastWorld → Prop :=
  Reachable (· = BroadcastWorld.fresh) (Restrict
    (StepOf (BroadcastAct.apply keccakHex recoverYParity))
    (BroadcastWorld.Undisturbed recoverYParity))

/-- In runs whose steps are undisturbed, no accepted transaction is recorded as dropped, and at most
one is accepted for a call. -/
theorem undisturbed_keepsAccepted (keccakHex : String → String)
    (recoverYParity : List UInt8 → List UInt8 → String → Except String ℕ) (world : BroadcastWorld)
    (hreach : UndisturbedReachable keccakHex recoverYParity world) : world.KeepsAccepted := by
  have hinv : BroadcastInv world := by
    refine Reachable.invariant hreach ?_ ?_
    · rintro world rfl
      exact broadcastInv_fresh
    · rintro world act next hinv ⟨rfl, hundisturbed⟩
      exact hinv.step hundisturbed
  exact hinv.keeps

section Lost

private def quietAddress : String := String.ofList ("0x".toList ++ List.replicate 40 '2')

/-- A call, and what it is sent with. -/
private def quietCall : StrategyExecutionCall := ⟨"token", quietAddress, "0", "0x"⟩

private def quietArgs : SendEthArgs := ⟨quietAddress, "0", some "0x"⟩

/-- A plan that makes the call. -/
private def sentPlan : ExecutionPlan := { quietPlan with calls := [quietCall] }

/-- A host with two endpoints. -/
private def quietEnv : BroadcastEnv where
  nowNs := 0
  snapshot := ⟨some "0x1111111111111111111111111111111111111111", "https://primary",
    some "https://fallback", 8453, 1⟩
  affordable := .ok ()
  policy := ⟨3, 0⟩

private def quietSignature : String := String.ofList ("0x".toList ++ List.replicate 128 '1')

private def quietAnswers : SendAnswers :=
  ⟨.ok 0, .ok 7, .ok 21000, .ok 1, .ok quietSignature, .ok ()⟩

private def quietParity (_ _ : List UInt8) (_ : String) : Except String ℕ := .ok 0

private theorem quietAddress_normal : normalizeEvmAddress quietAddress = .ok quietAddress := by
  have hdigits : ∀ c ∈ List.replicate 40 '2', Text.isHexDigit c = true ∧ c.toLower = c := by
    intro c hc
    rw [List.eq_of_mem_replicate hc]
    decide
  exact normalizeEvmAddress_eq_self String.toList_ofList rfl hdigits

private theorem quietData_normal : normalizeHexBlob "0x" "data" = .ok "0x" := by
  exact normalizeHexBlob_eq_self (List.append_nil _).symm rfl fun c hc => absurd hc List.not_mem_nil

private theorem quietSignature_parsed :
    ∃ bytes, parseCompactSignature quietSignature = .ok bytes := by
  have hdigits : ∀ c ∈ List.replicate 128 '1', Text.isHexDigit c = true ∧ c.toLower = c := by
    intro c hc
    rw [List.eq_of_mem_replicate hc]
    decide
  have hlist : quietSignature.toList = "0x".toList ++ List.replicate 128 '1' := String.toList_ofList
  have hblob : normalizeHexBlob quietSignature "signature" = .ok quietSignature :=
    normalizeHexBlob_eq_self hlist (by simp) hdigits
  have hlength : quietSignature.toList.length = 130 := by
    rw [hlist, List.length_append, List.length_replicate]
    rfl
  refine ⟨decodeHexBlob quietSignature, ?_⟩
  simp only [parseCompactSignature, Fallible.bind_eq_ok]
  exact ⟨quietSignature, hblob, if_neg (not_not.mpr hlength)⟩

private theorem quietArgs_of_call : strategyCallToSendEthArgs quietCall = .ok quietArgs := by
  have hvalue : parseDecimalU256 quietCall.valueWei "value_wei" = .ok 0 := by decide +kernel
  simp only [strategyCallToSendEthArgs, Fallible.bind_eq_ok]
  exact ⟨_, quietAddress_normal, _, hvalue, _, quietData_normal, rfl⟩

private theorem quietArgs_sent : ∃ args : ParsedSendEthArgs, args.valueWei = 0 ∧
    beginSend quietEnv quietArgs = .ok (args, "0x1111111111111111111111111111111111111111") := by
  have hvalue : parseDecimalU256 quietArgs.valueWei "value_wei" = .ok 0 := by decide +kernel
  have hurl : Text.trim quietEnv.snapshot.evmRpcUrl ≠ "" := by decide +kernel
  have hparsed : parseSendEthArgs quietArgs = .ok ⟨decodeHexBlob quietArgs.toAddress, 0,
      decodeHexBlob "0x"⟩ := by
    simp only [parseSendEthArgs, Fallible.bind_eq_ok]
    exact ⟨_, quietAddress_normal, _, hvalue, _, quietData_normal, rfl⟩
  refine ⟨⟨decodeHexBlob quietArgs.toAddress, 0, decodeHexBlob "0x"⟩, rfl, ?_⟩
  simp only [beginSend, Fallible.bind_eq_ok]
  exact ⟨_, hparsed, _, rfl, (), rfl, (), if_neg hurl, rfl⟩

/-- A transaction is built when all answers arrive. -/
private theorem buildRawTransaction_of_answers
    {recoverYParity : List UInt8 → List UInt8 → String → Except String ℕ}
    {args : ParsedSendEthArgs} {fromAddress signature : String} {chainId balance nonce parity : ℕ}
    {bytes : List UInt8} {answers : SendAnswers} (hbalance : answers.balance = .ok balance)
    (hcovered : args.valueWei ≤ balance) (hnonce : answers.nonce = .ok nonce)
    (hsignature : answers.signature = .ok signature)
    (hbytes : parseCompactSignature signature = .ok bytes)
    (hparity : ∀ unsigned, recoverYParity unsigned bytes fromAddress = .ok parity)
    (haffordable : answers.affordable = .ok ()) :
    ∃ raw, buildRawTransaction recoverYParity args fromAddress chainId answers = .ok raw := by
  have hbound : ¬ balance < args.valueWei := Nat.not_lt.mpr hcovered
  simp only [buildRawTransaction, hbalance, hnonce, hsignature, hbytes, hparity, haffordable,
    bind, Except.bind, if_neg hbound, Except.mapError]
  exact ⟨_, rfl⟩

private theorem quietTransaction_built {args : ParsedSendEthArgs} {fromAddress : String}
    {chainId : ℕ} (hvalue : args.valueWei = 0) :
    ∃ raw, buildRawTransaction quietParity args fromAddress chainId quietAnswers = .ok raw := by
  obtain ⟨bytes, hbytes⟩ := quietSignature_parsed
  exact buildRawTransaction_of_answers rfl hvalue.le rfl rfl hbytes (fun _ => rfl) rfl

/-- The execution of the plan. -/
private def sentExecution : PendingStrategyExecution :=
  newPendingExecution "turn" "digest" sentPlan 0

private def sentRows : StrategyRows := { StrategyRows.empty with
  executions := StrategyRows.empty.executions.insert sentExecution.executionId sentExecution }

/-- The run that has posted the transaction of the call to the primary endpoint. -/
private def postedRun (raw : List UInt8) : PlanRun where
  executionId := sentExecution.executionId
  execution := sentExecution
  txHashes := []
  index := 0
  rest := []
  fallbackRpcUrl := some "https://fallback"
  phase := .primary raw

private def postedWorld (raw : List UInt8) : BroadcastWorld :=
  ⟨sentRows, [.sending (postedRun raw)], [], []⟩

private theorem sentRows_stored :
    sentRows.executions[sentExecution.executionId]? = some sentExecution :=
  BTreeMap.get?_insert.trans (if_pos rfl)

private theorem insert_sent : StrategyRows.empty.insertPendingStrategyExecution sentExecution =
    .ok (sentExecution, sentRows) := by
  have hid : Text.trim sentExecution.executionId ≠ "" := by decide +kernel
  have hdigest : Text.trim sentExecution.planDigest ≠ "" := by decide +kernel
  have hkey : validateStrategyTemplateKey sentExecution.key = .ok () := by decide +kernel
  have hfree : StrategyRows.empty.executions[sentExecution.executionId]? = none := by
    simp [StrategyRows.empty]
  unfold StrategyRows.insertPendingStrategyExecution
  rw [if_neg (not_or.mpr ⟨hid, hdigest⟩), hfree]
  exact Fallible.bind_eq_ok.mpr ⟨(), hkey, rfl⟩

/-- The run starts and waits for the answers before the transaction. -/
private theorem execute_sent : ∃ args : ParsedSendEthArgs, args.valueWei = 0 ∧
    sentRows.executeStrategyPlan id quietEnv sentPlan sentExecution.executionId =
      (sentRows, .sending { postedRun [] with
        phase := .preparing args "0x1111111111111111111111111111111111111111" 8453 }) := by
  obtain ⟨args, hvalue, hbegin⟩ := quietArgs_sent
  refine ⟨args, hvalue, ?_⟩
  unfold StrategyRows.executeStrategyPlan
  rw [if_neg (by simp [sentPlan]), sentRows_stored]
  dsimp only
  have hplanned : sentExecution.calls.map (·.call) = sentPlan.calls := rfl
  have hterminal : sentExecution.terminalBookkeepingApplied = false := rfl
  have hunsent : sentExecution.hasHash 0 = false := rfl
  have hcalls : sentPlan.calls = [quietCall] := rfl
  rw [if_neg (not_not.mpr hplanned), hterminal, if_neg Bool.false_ne_true, hcalls,
    StrategyRows.sendCalls, hunsent, if_neg Bool.false_ne_true, quietArgs_of_call]
  dsimp only
  rw [hbegin]
  rfl

/-- The transaction of the call is posted. -/
private theorem exists_postedWorld :
    ∃ raw, UndisturbedReachable id quietParity (postedWorld raw) := by
  obtain ⟨args, hvalue, hexecute⟩ := execute_sent
  obtain ⟨raw, hraw⟩ : ∃ raw, buildRawTransaction quietParity args
      "0x1111111111111111111111111111111111111111" 8453 quietAnswers = .ok raw :=
    quietTransaction_built hvalue
  let preparing : PlanRun := { postedRun [] with
    phase := .preparing args "0x1111111111111111111111111111111111111111" 8453 }
  have hstart : UndisturbedReachable id quietParity .fresh := .start rfl
  have hinserted : UndisturbedReachable id quietParity ⟨sentRows, [], [], []⟩ := by
    refine hstart.step (a := .insert "turn" "digest" sentPlan 0) ⟨?_, trivial⟩
    have hresult := congrArg (·.toOption.elim BroadcastWorld.fresh fun pair =>
      { BroadcastWorld.fresh with rows := pair.2 }) insert_sent
    exact hresult
  have hstarted : UndisturbedReachable id quietParity ⟨sentRows, [.sending preparing], [], []⟩ := by
    refine hinserted.step (a := .execute quietEnv sentPlan sentExecution.executionId) ⟨?_, ?_⟩
    · have hresult := congrArg (fun result : StrategyRows × RunState =>
        (⟨result.1, [] ++ [result.2], [], []⟩ : BroadcastWorld)) hexecute
      exact hresult
    · intro i run hrun
      cases run?_eq_some.mp hrun
  refine ⟨raw, hstarted.step (a := .prepare 0 quietAnswers quietEnv) ⟨?_, ?_⟩⟩
  · have hprepare : preparing.prepare id sentRows quietEnv quietParity quietAnswers =
        (sentRows, .sending (postedRun raw)) := by
      simp only [PlanRun.prepare, preparing, hraw]
      rfl
    exact congrArg (BroadcastWorld.setRun ⟨sentRows, [.sending preparing], [], []⟩ 0) hprepare
  · intro run hrun
    obtain rfl := Option.some.inj hrun
    have hposts : preparing.posts quietParity quietAnswers = true := by
      simp [PlanRun.posts, preparing, hraw, Except.toOption]
    rw [if_pos hposts]
    refine ⟨?_, sentRows_stored, ?_⟩
    · intro i other hother hne _
      have hlt := lt_length_of_run? hother
      refine absurd ?_ hne
      have hzero : i = 0 := Nat.lt_one_iff.mp hlt
      rw [hzero]
    · intro call hcall
      obtain rfl := Option.some.inj hcall
      exact fun hdropped => StrategyExecutionCallState.noConfusion hdropped

/-- A transaction is accepted and kept. -/
theorem posted_keepsAccepted : ∃ world : BroadcastWorld,
    world.accepted.length = 1 ∧ world.KeepsAccepted := by
  obtain ⟨raw, hposted⟩ := exists_postedWorld
  let act := BroadcastAct.accept 0
  refine ⟨act.apply id quietParity (postedWorld raw), rfl, ?_⟩
  exact undisturbed_keepsAccepted id quietParity _ (hposted.step (a := act) ⟨rfl, trivial⟩)

/-- The primary endpoint accepts the transaction and its reply is lost; the fallback refuses the
transaction because it is known. The call is recorded as dropped. -/
theorem lostReply_dropsAccepted : ¬ ∀ (keccakHex : String → String)
    (recoverYParity : List UInt8 → List UInt8 → String → Except String ℕ) (world : BroadcastWorld),
    Reachable (· = BroadcastWorld.fresh) (StepOf (BroadcastAct.apply keccakHex recoverYParity))
      world → world.KeepsAccepted := by
  intro hkeeps
  obtain ⟨raw, hundisturbed⟩ := exists_postedWorld
  let Reached : BroadcastWorld → Prop :=
    Reachable (· = BroadcastWorld.fresh) (StepOf (BroadcastAct.apply id quietParity))
  have hposted : Reached (postedWorld raw) := hundisturbed.mono fun _ _ _ hstep => hstep.1
  let accepted : BroadcastWorld := { postedWorld raw with
    accepted := [⟨sentExecution.executionId, 0, raw⟩] }
  let lost : Except String RpcResponse := .error "timeout"
  let known : Except String RpcResponse := .ok (.error "already known")
  let fallBack : PlanRun := { postedRun raw with phase := .fallback raw "timeout" }
  have haccepted : Reached accepted := hposted.step (a := BroadcastAct.accept 0) rfl
  have hlost : Reached { accepted with runs := [.sending fallBack] } :=
    haccepted.step (a := BroadcastAct.reply 0 lost quietEnv) rfl
  let error := sendRawTransactionFailed "already known"
  let copy := sentExecution.dropCall 0 error [] 0
  obtain ⟨rows, hfailed⟩ : ∃ rows, sentRows.applyTerminalStrategyFailure id quietEnv.policy copy
      (classifyStrategyFailureKind error) error 0 = .ok (true, rows) := by
    refine exists_applyTerminalStrategyFailure ⟨rfl, rfl⟩
      (fun h => PendingStrategyExecutionState.noConfusion h) ?_ sentRows_stored rfl
    unfold classifyStrategyFailureKind
    dsimp only
    split <;> exact fun hkind => StrategyOutcomeKind.noConfusion hkind
  have hresumed : fallBack.receive id sentRows quietEnv known =
      (rows, .ended (.error error)) := by
    have hfail : sentRows.failRun id quietEnv sentExecution 0 []
        (classifyStrategyFailureKind error) error = (rows, .ended (.error error)) := by
      unfold StrategyRows.failRun
      rw [show sentExecution.dropCall 0 error [] quietEnv.nowNs = copy from rfl,
        show quietEnv.nowNs = 0 from rfl, hfailed]
    exact hfail
  have hrefused : Reached { accepted with rows := rows, runs := [.ended (.error error)] } :=
    hlost.step (a := BroadcastAct.reply 0 known quietEnv)
      (congrArg (BroadcastWorld.setRun { accepted with runs := [.sending fallBack] } 0) hresumed)
  have hstate : copy.state ≠ .confirmed := fun h => PendingStrategyExecutionState.noConfusion h
  rcases applyTerminalStrategyFailure_spec hstate hfailed with ⟨hfalse, -⟩ | ⟨-, hsettles⟩
  · cases hfalse
  have hstored : rows.executions[sentExecution.executionId]? = some (copy.terminate 0) := by
    rw [hsettles.executions]
    exact BTreeMap.get?_insert.trans (if_pos rfl)
  exact (hkeeps id quietParity _ hrefused).execution _ (List.mem_singleton_self _) _ hstored rfl

end Lost

end Automaton.Strategy

