import Automaton.Factory.DepositLedger
import Automaton.Library.Transition

/-!
# Scan windows

Runs that plan a window, fetch its logs and reconcile them, while sessions are created at
any time, also between a plan and its reconciliation. Every window starts at or before the
first block that an active session has not seen, so the cursors of sessions move without
gaps. A session that is created under a pending plan starts at the stored cursor of the
last scan, which moves back when the chain head does.
-/

namespace Automaton.Factory

open Machine Persist Transition

/-- The factory, the plan whose logs are being fetched, and the height up to which the last
scan was complete. -/
structure ScanState where
  factory : FactoryState
  pending : Option PaymentScanPlan
  completed : Option ℕ

/-- What happens in a run of scans. -/
inductive ScanAction
  | create (externals : SessionExternals) (request : CreateSpawnSessionRequest)
      (sessionId : String) (origin : SessionOrigin) (nowMs : ℕ)
  | plan (latestBlock : ℕ)
  | reconcile (logs : List BaseDepositLog) (blockHashes : BlockHashes) (nowMs : ℕ)

/-- A run starts with no session and no pending plan. -/
structure ScanState.Initial (state : ScanState) : Prop where
  sessions : ∀ sessionId : String, state.factory.sessions[sessionId]? = none
  audits : ∀ sessionId : String, state.factory.auditLog[sessionId]? = none
  pending : state.pending = none
  completed : state.completed = state.factory.paymentLastScannedBlock

/-- Plans and successful reconciliations alternate. Sessions are created under unused ids,
and the logs of a window come from its blocks. -/
inductive ScanStep : ScanState → ScanAction → ScanState → Prop
  | create {s t : FactoryState} {pending : Option PaymentScanPlan} {completed : Option ℕ}
      {externals : SessionExternals} {request : CreateSpawnSessionRequest} {sessionId : String}
      {origin : SessionOrigin} {nowMs : ℕ} {session : SpawnSession}
      (hunused : s.sessions[sessionId]? = none)
      (hcreate : createSpawnSessionWithSessionId externals request sessionId origin nowMs s =
        .ok session t) :
      ScanStep ⟨s, pending, completed⟩ (.create externals request sessionId origin nowMs)
        ⟨t, pending, completed⟩
  | plan {s : FactoryState} {completed : Option ℕ} {latestBlock : ℕ} {plan : PaymentScanPlan}
      (hplan : nextPaymentScanPlan s latestBlock = some plan) :
      ScanStep ⟨s, none, completed⟩ (.plan latestBlock) ⟨s, some plan, completed⟩
  | reconcile {s t : FactoryState} {completed : Option ℕ} {plan : PaymentScanPlan}
      {logs : List BaseDepositLog} {blockHashes : BlockHashes} {nowMs : ℕ}
      {claims : List EscrowClaim}
      (hlogs : ∀ log ∈ logs, plan.fromBlock ≤ log.blockNumber ∧ log.blockNumber ≤ plan.toBlock)
      (hreconcile : reconcileEscrowPayments logs blockHashes plan.toBlock nowMs s =
        .ok claims t) :
      ScanStep ⟨s, some plan, completed⟩ (.reconcile logs blockHashes nowMs)
        ⟨t, none, some plan.toBlock⟩

/-- A session that is polled, with its cursor. -/
def PolledAt (state : FactoryState) (sessionId : String) (cursor : ℕ) : Prop :=
  ∃ session, state.sessions[sessionId]? = some session ∧
    sessionNeedsPaymentPoll session = true ∧ session.lastScannedBlock = some cursor

/-- The newest block that has enough confirmations. -/
def safeHead (state : FactoryState) (latestBlock : ℕ) : ℕ :=
  latestBlock - (state.evmConfirmationDepth - 1)

/-- What a step owes to the sessions: a plan starts no later than the first block that a
polled session has not seen, a reconciliation moves cursors over scanned blocks only, and a
new session starts where the last scan was complete. -/
def Contiguous (s : ScanState) (action : ScanAction) (t : ScanState) : Prop :=
  match action with
  | .plan latestBlock => ∀ plan sessionId cursor, t.pending = some plan →
      PolledAt s.factory sessionId cursor →
      plan.fromBlock ≤ min (cursor + 1) (safeHead s.factory latestBlock) ∧
      plan.toBlock ≤ safeHead s.factory latestBlock ∧ plan.toBlock - plan.fromBlock < 10000
  | .reconcile _ _ _ => ∀ plan sessionId cursor, s.pending = some plan →
      PolledAt s.factory sessionId cursor → ∃ session cursor',
        t.factory.sessions[sessionId]? = some session ∧
        session.lastScannedBlock = some cursor' ∧ cursor ≤ cursor' ∧
        ∀ block, cursor < block → block ≤ cursor' → plan.fromBlock ≤ block ∧ block ≤ plan.toBlock
  | .create _ _ sessionId _ _ => ∃ session, t.factory.sessions[sessionId]? = some session ∧
      session.lastScannedBlock = s.completed

/-- A session is created between a plan and its reconciliation only while the stored cursor
of the last scan, if there is one, reaches the first planned block. -/
def Timely (s : ScanState) (action : ScanAction) : Prop :=
  match action with
  | .create _ _ _ _ _ => ∀ plan cursor, s.pending = some plan →
      s.factory.paymentLastScannedBlock = some cursor → plan.fromBlock ≤ cursor + 1
  | _ => True

section Plans

variable {s : FactoryState} {latestBlock : ℕ} {plan : PaymentScanPlan} {sessionId : String}
  {cursor : ℕ}

/-- The first unscanned block is not behind the cursor of any polled session. -/
theorem firstUnscannedBlock_le (hpolled : PolledAt s sessionId cursor) :
    ∃ first, firstUnscannedBlock s = some first ∧ first ≤ cursor + 1 := by
  obtain ⟨session, hsession, hpoll, hcursor⟩ := hpolled
  have hmem : saturatingAdd u64Max cursor 1 ∈ (activeSessions s).filterMap fun session =>
      session.lastScannedBlock.map (saturatingAdd u64Max · 1) :=
    List.mem_filterMap.mpr ⟨session, mem_activeSessions hsession hpoll, by rw [hcursor]; rfl⟩
  cases hfirst : firstUnscannedBlock s with
  | none =>
    rw [firstUnscannedBlock, List.min?_eq_none_iff] at hfirst
    rw [hfirst] at hmem
    cases hmem
  | some first =>
    have hle := (List.min?_eq_some_iff.mp hfirst).2 _ hmem
    exact ⟨first, rfl, hle.trans (min_le_left _ _)⟩

/-- A plan that is produced while a session is polled. -/
theorem nextPaymentScanPlan_spec (hplan : nextPaymentScanPlan s latestBlock = some plan)
    (hpolled : PolledAt s sessionId cursor) :
    plan.fromBlock ≤ min (cursor + 1) (safeHead s latestBlock) ∧
      plan.toBlock ≤ safeHead s latestBlock ∧ plan.toBlock - plan.fromBlock < 10000 := by
  obtain ⟨first, hfirst, hle⟩ := firstUnscannedBlock_le hpolled
  simp only [nextPaymentScanPlan, hfirst, Option.some_or, Option.getD_some] at hplan
  split_ifs at hplan
  obtain rfl := Option.some.inj hplan
  simp only [safeHead, saturatingAdd, baseLogWindowLimit]
  omega

end Plans

section Steps

variable {σ τ : ScanState} {action : ScanAction}

/-- What holds all along a run: the cursors of a session and its claim agree, the stored
cursor is the height of the last scan, and a pending plan leaves no polled session behind. -/
structure ScanInvariant (σ : ScanState) : Prop where
  audits : ∀ sessionId : String, σ.factory.sessions[sessionId]? = none →
    σ.factory.auditLog[sessionId]? = none
  cursors : ∀ (sessionId : String) session, σ.factory.sessions[sessionId]? = some session →
    ∃ claim, σ.factory.escrowClaims[sessionId]? = some claim ∧
      claim.lastScannedBlock = session.lastScannedBlock
  completed : σ.factory.paymentLastScannedBlock = σ.completed
  planned : ∀ plan sessionId cursor, σ.pending = some plan →
    PolledAt σ.factory sessionId cursor → plan.fromBlock ≤ cursor + 1

/-- A run starts with the invariant. -/
theorem ScanInvariant.initial (h : σ.Initial) : ScanInvariant σ where
  audits sessionId _ := h.audits sessionId
  cursors sessionId session hsession := by
    rw [h.sessions sessionId] at hsession
    cases hsession
  completed := h.completed.symm
  planned plan _ _ hplan := by
    rw [h.pending] at hplan
    cases hplan

/-- What a successful creation stores. -/
theorem created_of_ok {externals : SessionExternals} {request : CreateSpawnSessionRequest}
    {sessionId : String} {origin : SessionOrigin} {nowMs : ℕ} {s t : FactoryState}
    {session : SpawnSession} (hunused : Unused s sessionId)
    (hcreate : createSpawnSessionWithSessionId externals request sessionId origin nowMs s =
      .ok session t) : Created externals sessionId origin nowMs s session t := by
  rcases createSpawnSessionWithSessionId_cases externals request origin nowMs hunused with
    ⟨e, herror⟩ | ⟨session', t', hok, hcreated⟩
  · rw [herror] at hcreate
    cases hcreate
  · rw [hok] at hcreate
    cases hcreate
    exact hcreated

/-- Creation keeps the invariant, when it is timely. -/
theorem ScanInvariant.create {externals : SessionExternals} {request : CreateSpawnSessionRequest}
    {sessionId : String} {origin : SessionOrigin} {nowMs : ℕ} {t : FactoryState}
    {session : SpawnSession} (hinv : ScanInvariant σ)
    (htimely : Timely σ (.create externals request sessionId origin nowMs))
    (hcreated : Created externals sessionId origin nowMs σ.factory session t) :
    ScanInvariant ⟨t, σ.pending, σ.completed⟩ := by
  obtain ⟨request', amounts, hbuilt⟩ := hcreated.built
  have hstart : session.lastScannedBlock = σ.factory.paymentLastScannedBlock := by
    rw [hbuilt]
    rfl
  refine ⟨?_, ?_, ?_, ?_⟩
  · intro other hother
    by_cases hid : other = sessionId
    · subst hid
      rw [hcreated.stored.session] at hother
      cases hother
    · rw [hcreated.only.sessions other hid] at hother
      rw [hcreated.only.audits other hid]
      exact hinv.audits other hother
  · intro other session' hsession'
    by_cases hid : other = sessionId
    · subst hid
      obtain rfl := Option.some.inj (hsession'.symm.trans hcreated.stored.session)
      exact ⟨_, hcreated.stored.claim, rfl⟩
    · rw [hcreated.only.sessions other hid] at hsession'
      rw [hcreated.only.claims other hid]
      exact hinv.cursors other session' hsession'
  · rw [hcreated.only.frame]
    exact hinv.completed
  · rintro plan other cursor hplan ⟨session', hsession', hpoll, hcursor⟩
    by_cases hid : other = sessionId
    · subst hid
      obtain rfl := Option.some.inj (hsession'.symm.trans hcreated.stored.session)
      exact htimely plan cursor hplan (hstart.symm.trans hcursor)
    · rw [hcreated.only.sessions other hid] at hsession'
      exact hinv.planned plan other cursor hplan ⟨session', hsession', hpoll, hcursor⟩

/-- A scan gives a polled session and its claim one new cursor, at its height or at the old
cursor. -/
theorem polled_reconcile {logs : List BaseDepositLog} {blockHashes : BlockHashes} {nowMs : ℕ}
    {plan : PaymentScanPlan} {s t : FactoryState} {claims : List EscrowClaim}
    {sessionId : String} {session : SpawnSession} {claim : EscrowClaim}
    (hlogs : ∀ log ∈ logs, plan.fromBlock ≤ log.blockNumber ∧ log.blockNumber ≤ plan.toBlock)
    (hreconcile : reconcileEscrowPayments logs blockHashes plan.toBlock nowMs s = .ok claims t)
    (hat : At s sessionId session claim) (hpoll : sessionNeedsPaymentPoll session = true) :
    ∃ session' claim', At t sessionId session' claim' ∧
      session'.lastScannedBlock =
        some (max plan.toBlock (claim.lastScannedBlock.getD 0)) ∧
      claim'.lastScannedBlock = session'.lastScannedBlock := by
  obtain ⟨amounts, hamounts, hscanned⟩ := scanned_of_reconcileEscrowPayments hreconcile
  obtain ⟨payment, hpayment, hat'⟩ := hscanned.host
    (mem_activeSessionIds.mpr ⟨session, hat.session, hpoll⟩) ⟨hat.session, hat.claim⟩
  refine ⟨_, _, hat', ?_, rfl⟩
  have hbound : ∀ block ∈ (amounts[session.claimId]?.getD ∅).toList,
      block.1 ≤ plan.toBlock := by
    intro block hblock
    obtain ⟨log, hlog, hnumber⟩ := mem_amountsByClaim hamounts hblock
    exact hnumber ▸ (hlogs log hlog).2
  exact congrArg some (cursor_eq hbound (observePayment_merged hpayment))

/-- A session that is not polled stays as it is in a scan. -/
theorem unpolled_reconcile {logs : List BaseDepositLog} {blockHashes : BlockHashes} {nowMs : ℕ}
    {toBlock : ℕ} {s t : FactoryState} {claims : List EscrowClaim} {sessionId : String}
    (hreconcile : reconcileEscrowPayments logs blockHashes toBlock nowMs s = .ok claims t)
    (hidle : sessionId ∉ activeSessionIds s) :
    t.sessions[sessionId]? = s.sessions[sessionId]? ∧
      t.escrowClaims[sessionId]? = s.escrowClaims[sessionId]? ∧
      t.auditLog[sessionId]? = s.auditLog[sessionId]? := by
  obtain ⟨amounts, -, hscanned⟩ := scanned_of_reconcileEscrowPayments hreconcile
  rw [← List.map_id (activeSessionIds s)] at hidle
  exact ⟨hscanned.sessions sessionId hidle, hscanned.claims sessionId hidle,
    hscanned.audits sessionId hidle⟩

/-- A session is polled, or a scan leaves it alone. -/
theorem active_or_idle (s : FactoryState) (sessionId : String) :
    (∃ session, s.sessions[sessionId]? = some session ∧ sessionNeedsPaymentPoll session = true) ∨
      sessionId ∉ activeSessionIds s := by
  rw [mem_activeSessionIds]
  exact em _

/-- A reconciliation keeps the invariant. -/
theorem ScanInvariant.reconcile {logs : List BaseDepositLog} {blockHashes : BlockHashes}
    {nowMs : ℕ} {plan : PaymentScanPlan} {t : FactoryState} {claims : List EscrowClaim}
    (hinv : ScanInvariant σ)
    (hlogs : ∀ log ∈ logs, plan.fromBlock ≤ log.blockNumber ∧ log.blockNumber ≤ plan.toBlock)
    (hreconcile : reconcileEscrowPayments logs blockHashes plan.toBlock nowMs σ.factory =
      .ok claims t) : ScanInvariant ⟨t, none, some plan.toBlock⟩ := by
  refine ⟨?_, ?_, ?_, nofun⟩
  · intro sessionId hnone
    rcases active_or_idle σ.factory sessionId with ⟨session, hsession, hpoll⟩ | hidle
    · obtain ⟨claim, hclaim, -⟩ := hinv.cursors sessionId session hsession
      obtain ⟨session', claim', hat', -, -⟩ := polled_reconcile hlogs hreconcile
        ⟨hsession, hclaim⟩ hpoll
      rw [hat'.session] at hnone
      cases hnone
    · obtain ⟨hsessions, -, haudits⟩ := unpolled_reconcile hreconcile hidle
      rw [haudits]
      exact hinv.audits sessionId (hsessions ▸ hnone)
  · intro sessionId session' hsession'
    rcases active_or_idle σ.factory sessionId with ⟨session, hsession, hpoll⟩ | hidle
    · obtain ⟨claim, hclaim, -⟩ := hinv.cursors sessionId session hsession
      obtain ⟨session'', claim'', hat', -, hagree⟩ := polled_reconcile hlogs hreconcile
        ⟨hsession, hclaim⟩ hpoll
      obtain rfl := Option.some.inj (hat'.session.symm.trans hsession')
      exact ⟨claim'', hat'.claim, hagree⟩
    · obtain ⟨hsessions, hclaims, -⟩ := unpolled_reconcile hreconcile hidle
      rw [hsessions] at hsession'
      rw [hclaims]
      exact hinv.cursors sessionId session' hsession'
  · obtain ⟨amounts, -, hscanned⟩ := scanned_of_reconcileEscrowPayments hreconcile
    rw [hscanned.frame]
    rfl

/-- Every timely step keeps the invariant. -/
theorem ScanInvariant.step (hinv : ScanInvariant σ) (hstep : ScanStep σ action τ)
    (htimely : Timely σ action) : ScanInvariant τ := by
  cases hstep with
  | create hunused hcreate =>
    exact hinv.create htimely (created_of_ok ⟨hunused, hinv.audits _ hunused⟩ hcreate)
  | plan hplan =>
    refine ⟨hinv.audits, hinv.cursors, hinv.completed, ?_⟩
    intro plan' sessionId cursor hplan' hpolled
    obtain rfl := Option.some.inj hplan'
    exact (nextPaymentScanPlan_spec hplan hpolled).1.trans (min_le_left _ _)
  | reconcile hlogs hreconcile => exact hinv.reconcile hlogs hreconcile

/-- Under the invariant every step is contiguous. -/
theorem ScanInvariant.contiguous (hinv : ScanInvariant σ) (hstep : ScanStep σ action τ) :
    Contiguous σ action τ := by
  cases hstep with
  | create hunused hcreate =>
    have hcreated := created_of_ok ⟨hunused, hinv.audits _ hunused⟩ hcreate
    obtain ⟨request', amounts, hbuilt⟩ := hcreated.built
    refine ⟨_, hcreated.stored.session, ?_⟩
    rw [hbuilt]
    exact hinv.completed
  | plan hplan =>
    intro plan' sessionId cursor hplan' hpolled
    obtain rfl := Option.some.inj hplan'
    exact nextPaymentScanPlan_spec hplan hpolled
  | @reconcile s t completed plan logs blockHashes nowMs claims hlogs hreconcile =>
    intro plan' sessionId cursor hplan' hpolled
    obtain rfl := Option.some.inj hplan'
    have hfrom := hinv.planned _ sessionId cursor rfl hpolled
    obtain ⟨session, hsession, hpoll, hcursor⟩ := hpolled
    obtain ⟨claim, hclaim, hagree⟩ := hinv.cursors sessionId session hsession
    obtain ⟨session', claim', hat', hnew, -⟩ := polled_reconcile hlogs hreconcile
      ⟨hsession, hclaim⟩ hpoll
    rw [hagree, hcursor, Option.getD_some] at hnew
    refine ⟨session', _, hat'.session, hnew, le_max_right _ _, ?_⟩
    intro block hafter huntil
    omega

end Steps

/-- The states of runs in which sessions are created in time. -/
def TimelyReachable : ScanState → Prop :=
  Reachable ScanState.Initial (Restrict ScanStep Timely)

/-- In every run in which no session is created under a pending plan that starts beyond the
stored cursor, windows have no gaps. -/
theorem scan_windows_contiguous {σ τ : ScanState} {action : ScanAction}
    (hreach : TimelyReachable σ) (hstep : ScanStep σ action τ) : Contiguous σ action τ := by
  have hinv : ScanInvariant σ := hreach.invariant (fun _ h => ScanInvariant.initial h)
    (fun _ _ _ hinv h => hinv.step h.1 h.2)
  exact hinv.contiguous hstep

/-- A reconciliation of a window without logs. -/
def reconcileEmpty (toBlock : ℕ) : Update (List EscrowClaim) :=
  reconcileEscrowPayments [] (fun _ _ => .ok "") toBlock 1

/-- A factory whose first session has been scanned up to block 100. -/
def scannedHigh : FactoryState := after (reconcileEmpty 100) (after (createSample firstId 1) .default)

/-- The same after the head fell to 61: the stored cursor is 50, that of the session 100. -/
def scannedLow : FactoryState := after (reconcileEmpty 50) scannedHigh

/-- The plan for a head of 211. -/
def latePlan : PaymentScanPlan where
  claimIds := [sampleExternals.deriveClaimId firstId]
  fromBlock := 101
  toBlock := 200

/-- A second session is created while the logs of this plan are fetched. -/
def lateCreated : FactoryState := after (createSample secondId 1) scannedLow

/-- An empty window is reconciled. -/
theorem scanStep_reconcileEmpty {s : FactoryState} {plan : PaymentScanPlan} {completed : Option ℕ}
    (hok : (outcome (reconcileEmpty plan.toBlock) s).isOk = true) :
    ScanStep ⟨s, some plan, completed⟩ (.reconcile [] (fun _ _ => .ok "") 1)
      ⟨after (reconcileEmpty plan.toBlock) s, none, some plan.toBlock⟩ := by
  obtain ⟨claims, hrun⟩ := run_eq_ok hok
  exact .reconcile (by simp) hrun

/-- A first session, scanned up to block 100. -/
theorem reachable_scannedHigh : TimelyReachable ⟨scannedHigh, none, some 100⟩ := by
  obtain ⟨session, hcreate⟩ := run_eq_ok (m := createSample firstId 1) (s := .default)
    (by decide +kernel)
  have hstart : TimelyReachable ⟨.default, none, none⟩ := .start
    ⟨fun _ => by simp [FactoryState.default], fun _ => by simp [FactoryState.default], rfl, rfl⟩
  have hcreated := hstart.step
    ⟨ScanStep.create (by simp [FactoryState.default]) hcreate, fun _ _ => nofun⟩
  have hfirst : ScanStep ⟨after (createSample firstId 1) .default, none, none⟩ (.plan 111)
      ⟨after (createSample firstId 1) .default,
        some ⟨[sampleExternals.deriveClaimId firstId], 0, 100⟩, none⟩ := .plan (by decide +kernel)
  have hplan := hcreated.step ⟨hfirst, trivial⟩
  exact hplan.step ⟨scanStep_reconcileEmpty (by decide +kernel), trivial⟩

/-- The next plan after it goes on at block 101. -/
theorem scannedHigh_plan_contiguous : Contiguous ⟨scannedHigh, none, some 100⟩ (.plan 211)
    ⟨scannedHigh, some latePlan, some 100⟩ :=
  scan_windows_contiguous reachable_scannedHigh (.plan (by decide +kernel))

/-- The stored cursor moves back with the head. -/
theorem reachable_scannedLow :
    Reachable ScanState.Initial ScanStep ⟨scannedLow, none, some 50⟩ := by
  have hhigh : Reachable ScanState.Initial ScanStep ⟨scannedHigh, none, some 100⟩ :=
    reachable_scannedHigh.mono fun _ _ _ h => h.1
  have hfallen : ScanStep ⟨scannedHigh, none, some 100⟩ (.plan 61)
      ⟨scannedHigh, some ⟨[sampleExternals.deriveClaimId firstId], 50, 50⟩, some 100⟩ :=
    .plan (by decide +kernel)
  exact (hhigh.step hfallen).step (scanStep_reconcileEmpty (by decide +kernel))

/-- A session that is created under a pending plan, after the head fell, skips the blocks
between the stored cursor and the window. -/
theorem lateCreated_skips_blocks : ¬ ∀ σ action τ, Reachable ScanState.Initial ScanStep σ →
    ScanStep σ action τ → Contiguous σ action τ := by
  intro h
  obtain ⟨session, hcreate⟩ := run_eq_ok (m := createSample secondId 1) (s := scannedLow)
    (by decide +kernel)
  have hplan : ScanStep ⟨scannedLow, none, some 50⟩ (.plan 211)
      ⟨scannedLow, some latePlan, some 50⟩ := .plan (by decide +kernel)
  have hlate := (reachable_scannedLow.step hplan).step (.create (by decide +kernel) hcreate)
  have hstep : ScanStep ⟨lateCreated, some latePlan, some 50⟩ (.reconcile [] (fun _ _ => .ok "") 1)
      ⟨after (reconcileEmpty latePlan.toBlock) lateCreated, none, some latePlan.toBlock⟩ :=
    scanStep_reconcileEmpty (by decide +kernel)
  obtain ⟨created, hcreated⟩ := Option.isSome_iff_exists.mp
    (show (lateCreated.sessions[secondId]?).isSome = true by decide +kernel)
  have hbefore : lateCreated.sessions[secondId]?.map (fun session =>
      (sessionNeedsPaymentPoll session, session.lastScannedBlock)) = some (true, some 50) := by
    decide +kernel
  have hafter : (after (reconcileEmpty latePlan.toBlock) lateCreated).sessions[secondId]?.map
      (·.lastScannedBlock) = some (some 200) := by
    decide +kernel
  rw [hcreated, Option.map_some, Option.some_inj, Prod.mk.injEq] at hbefore
  obtain ⟨session', cursor', hsession', hcursor', -, hblocks⟩ := h _ _ _ hlate hstep latePlan
    secondId 50 rfl ⟨created, hcreated, hbefore.1, hbefore.2⟩
  dsimp only at hsession'
  rw [hsession', Option.map_some, Option.some_inj, hcursor', Option.some_inj] at hafter
  have hblock := hblocks 51 (by omega) (by omega)
  exact absurd hblock.1 (by decide)

end Automaton.Factory
