import Automaton.Factory.Payments
import Automaton.Factory.SessionScope
import Automaton.Library.Fallible

/-!
# What a payment scan does

Every active session whose checks pass is written in one step: claim, session, flags and
the event that follows. A scan on the host stops at the first session whose checks fail.
-/

namespace Automaton.Factory

open Persist

/-- The state of a session that waits for a payment, after a scan. -/
def stateAfterScan (paymentStatus : PaymentStatus) (expiresAt nowMs : ℕ) : SpawnSessionState :=
  if nowMs > expiresAt then .expired
  else if paymentStatus = .paid then .paymentDetected
  else .awaitingPayment

/-- A session that waited for a payment, after a scan. -/
def SpawnSession.scanned (session : SpawnSession) (payment : ObservedPayment)
    (scanToBlock nowMs : ℕ) : SpawnSession :=
  { session.observe payment scanToBlock nowMs with
    state := stateAfterScan payment.paymentStatus session.expiresAt nowMs }.withDerivedFlags nowMs

/-- Its claim. -/
def EscrowClaim.scanned (claim : EscrowClaim) (session : SpawnSession) (payment : ObservedPayment)
    (scanToBlock nowMs : ℕ) : EscrowClaim :=
  (claim.observe payment scanToBlock nowMs).withRefundable
    (session.scanned payment scanToBlock nowMs).refundable nowMs

section Iteration

variable {s : FactoryState} {sessionId : String} {session : SpawnSession} {claim : EscrowClaim}
  {payment : ObservedPayment} {scanToBlock nowMs : ℕ}

/-- Recording a payment, on a session with its claim. -/
theorem At.recordPayment (hat : At s sessionId session claim) (payment : ObservedPayment)
    (scanToBlock nowMs : ℕ) :
    ∃ t, recordPayment sessionId payment scanToBlock nowMs s =
        .ok ((session.observe payment scanToBlock nowMs).withDerivedFlags nowMs) t ∧
      At t sessionId ((session.observe payment scanToBlock nowMs).withDerivedFlags nowMs)
        ((claim.observe payment scanToBlock nowMs).withRefundable
          (deriveRefundable (session.observe payment scanToBlock nowMs)) nowMs) ∧
      OnlySession sessionId s t := by
  let written := (s.updateClaim sessionId (·.observe payment scanToBlock nowMs)).updateSession
    sessionId (·.observe payment scanToBlock nowMs)
  have hwritten : At written sessionId (session.observe payment scanToBlock nowMs)
      (claim.observe payment scanToBlock nowMs) := by
    constructor
    · simp [written, hat.session]
    · simp [written, hat.claim]
  have honly : OnlySession sessionId s written :=
    (OnlySession.updateClaim s _).trans (OnlySession.updateSession _ _)
  obtain ⟨t, hrun, hat', honly'⟩ := hwritten.syncSessionDerivedFlagsInState nowMs
  refine ⟨t, ?_, hat', honly.trans honly'⟩
  rw [Factory.recordPayment, run_bind, run_getClaim hat.claim]
  simp only [run_bind, run_modify]
  rw [run_getSession (show (s.updateClaim sessionId _).sessions[sessionId]? = some session from
    hat.session)]
  exact hrun

theorem eventTransition_paymentObserved {session : SpawnSession} {hasAudit : Bool}
    (hstate : session.state = .awaitingPayment) (hpaid : session.paymentStatus = .paid) :
    eventTransition session hasAudit sessionId nowMs .paymentObserved =
      .ok (some ⟨some .awaitingPayment, .paymentDetected, false⟩) := by
  simp [eventTransition, hstate, hpaid]

/-- A payment that is complete in time moves the session on. -/
theorem At.detectPayment (hat : At s sessionId session claim) (nowMs : ℕ)
    (hstate : session.state = .awaitingPayment) (hpaid : session.paymentStatus = .paid) :
    ∃ t, detectPayment sessionId nowMs s = .ok () t ∧
      At t sessionId ({ session with
        state := .paymentDetected, updatedAt := nowMs }.withDerivedFlags nowMs)
        (claim.withRefundable false nowMs) ∧
      OnlySession sessionId s t := by
  let transition : EventTransition := ⟨some .awaitingPayment, .paymentDetected, false⟩
  have hentered := hat.entered transition .system nowMs "payment detected from Base logs"
  have hjobs := sameButJobs_enqueueSpawnExecution (s.entered sessionId session transition .system
    nowMs "payment detected from Base logs") sessionId nowMs
  refine ⟨_, ?_, hentered.of_sameButJobs hjobs, (onlySession_entered ..).trans
    (OnlySession.of_sameButJobs hjobs)⟩
  rw [Factory.detectPayment, run_bind, run_applySessionEventInState hat.session,
    eventTransition_paymentObserved hstate hpaid]
  rfl

/-- A session that waits for a payment expires after its time. -/
theorem At.expireSessionInState (hat : At s sessionId session claim)
    (hstate : session.state = .awaitingPayment) (hstatus : session.paymentStatus ≠ .refunded)
    (hlate : nowMs > session.expiresAt) (reason : String) :
    ∃ t, (discard (expireSessionInState sessionId .system nowMs reason) : Update Unit) s =
        .ok () t ∧
      At t sessionId ({ session with
        state := .expired, updatedAt := nowMs }.withDerivedFlags nowMs)
        (claim.withRefundable (deriveRefundable { session with state := .expired }) nowMs) ∧
      OnlySession sessionId s t := by
  let transition : EventTransition := ⟨some .awaitingPayment, .expired, false⟩
  refine ⟨_, ?_, hat.entered transition .system nowMs reason, onlySession_entered ..⟩
  have htransition : eventTransition session (!(s.auditLog[sessionId]?.getD []).isEmpty) sessionId
      nowMs .sessionExpired = .ok (some transition) := by
    simp [eventTransition, hstate, hstatus, transition, hlate]
  rw [run_discard, Factory.expireSessionInState, run_applySessionEventInState hat.session,
    htransition]

/-- The events that follow a recorded payment. -/
theorem At.advanceAfterPayment (detected : Bool)
    (hat : At s sessionId ((session.observe payment scanToBlock nowMs).withDerivedFlags nowMs)
      ((claim.observe payment scanToBlock nowMs).withRefundable
        (deriveRefundable (session.observe payment scanToBlock nowMs)) nowMs))
    (hstate : session.state = .awaitingPayment) (hstatus : payment.paymentStatus ≠ .refunded)
    (hdetected : detected = true ↔ payment.paymentStatus = .paid ∧ nowMs ≤ session.expiresAt) :
    ∃ t, advanceAfterPayment sessionId detected session.expiresAt nowMs s =
        .ok (claim.scanned session payment scanToBlock nowMs) t ∧
      At t sessionId (session.scanned payment scanToBlock nowMs)
        (claim.scanned session payment scanToBlock nowMs) ∧
      OnlySession sessionId s t := by
  by_cases hlate : nowMs > session.expiresAt
  · have hnot : ¬ detected = true := fun h => absurd (hdetected.mp h).2 (by omega)
    have hfinal : stateAfterScan payment.paymentStatus session.expiresAt nowMs = .expired :=
      if_pos hlate
    obtain ⟨t, hrun, hat', honly⟩ := hat.expireSessionInState hstate hstatus hlate
      "payment scan observed expired session"
    have hscanned : At t sessionId (session.scanned payment scanToBlock nowMs)
        (claim.scanned session payment scanToBlock nowMs) := by
      unfold EscrowClaim.scanned SpawnSession.scanned
      rw [hfinal]
      exact hat'
    refine ⟨t, ?_, hscanned, honly⟩
    rw [Factory.advanceAfterPayment, run_bind, run_when_neg hnot]
    simp only [run_bind, run_when_pos hlate, hrun]
    exact run_getClaim hscanned.claim
  · by_cases hpaid : payment.paymentStatus = .paid
    · have hyes : detected = true := hdetected.mpr ⟨hpaid, by omega⟩
      have hfinal : stateAfterScan payment.paymentStatus session.expiresAt nowMs =
          .paymentDetected := by
        rw [stateAfterScan, if_neg hlate, if_pos hpaid]
      obtain ⟨t, hrun, hat', honly⟩ := hat.detectPayment nowMs hstate hpaid
      have hscanned : At t sessionId (session.scanned payment scanToBlock nowMs)
          (claim.scanned session payment scanToBlock nowMs) := by
        unfold EscrowClaim.scanned SpawnSession.scanned
        rw [hfinal]
        exact hat'
      refine ⟨t, ?_, hscanned, honly⟩
      rw [Factory.advanceAfterPayment, run_bind, run_when_pos hyes, hrun]
      simp only [run_bind, run_when_neg hlate]
      exact run_getClaim hscanned.claim
    · have hnot : ¬ detected = true := fun h => hpaid (hdetected.mp h).1
      have hfinal : stateAfterScan payment.paymentStatus session.expiresAt nowMs =
          .awaitingPayment := by
        rw [stateAfterScan, if_neg hlate, if_neg hpaid]
      have hscanned : At s sessionId (session.scanned payment scanToBlock nowMs)
          (claim.scanned session payment scanToBlock nowMs) := by
        unfold EscrowClaim.scanned SpawnSession.scanned
        rw [hfinal, ← hstate]
        exact hat
      refine ⟨s, ?_, hscanned, OnlySession.refl s⟩
      rw [Factory.advanceAfterPayment, run_bind, run_when_neg hnot]
      simp only [run_bind, run_when_neg hlate]
      exact run_getClaim hscanned.claim

/-- A session that is polled waits for its payment. -/
theorem state_of_needsPaymentPoll (hpoll : sessionNeedsPaymentPoll session = true) :
    session.state = .awaitingPayment := by
  simp only [sessionNeedsPaymentPoll, Bool.and_eq_true, decide_eq_true_eq] at hpoll
  exact hpoll.1

/-- A scan never reports a refund. -/
theorem paymentStatus_ne_refunded {amounts : DepositAmountsByClaim} {endpoints : List String}
    {lookup : ℕ → Except FactoryError String}
    (hpayment : observePayment amounts endpoints lookup session claim = .ok payment) :
    payment.paymentStatus ≠ .refunded := by
  simp only [observePayment, Fallible.bind_eq_ok, Fallible.pure_eq_ok] at hpayment
  obtain ⟨merged, -, required, -, canonical, -, rfl⟩ := hpayment
  simp only [finalizePaymentStatusForEscrow, paymentStatusForAmount]
  split_ifs <;> simp_all

/-- One iteration on the host, for a session that waits for a payment. -/
theorem At.reconcileSession {amounts : DepositAmountsByClaim} {endpoints : List String}
    {blockHashes : BlockHashes} (hat : At s sessionId session claim)
    (hpoll : sessionNeedsPaymentPoll session = true)
    (hpayment : observePayment amounts endpoints (blockHashes sessionId) session claim =
      .ok payment) :
    ∃ t, reconcileSession amounts endpoints blockHashes scanToBlock nowMs sessionId s =
        .ok (claim.scanned session payment scanToBlock nowMs) t ∧
      At t sessionId (session.scanned payment scanToBlock nowMs)
        (claim.scanned session payment scanToBlock nowMs) ∧
      OnlySession sessionId s t := by
  have hstate := state_of_needsPaymentPoll hpoll
  obtain ⟨t, hrun, hat', honly⟩ := hat.recordPayment payment scanToBlock nowMs
  obtain ⟨u, hrun', hat'', honly'⟩ := At.advanceAfterPayment
    (session.state = .awaitingPayment && payment.paymentStatus = .paid &&
      nowMs ≤ session.expiresAt) hat' hstate (paymentStatus_ne_refunded hpayment) (by simp [hstate])
  refine ⟨u, ?_, hat'', honly.trans honly'⟩
  rw [Factory.reconcileSession, run_bind, run_getSession hat.session]
  simp only [run_bind]
  rw [run_getClaim hat.claim]
  simp only [hpayment, run_ofExcept_ok]
  rw [hrun]
  exact hrun'

end Iteration

section Loop

variable {ι : Type}

/-- A loop over sessions. Each item names its session and establishes the payment from the
session and its claim, or fails before the first write; else the session goes through the
scan. The host loops over ids, the canister over planned updates. -/
structure ScanLoop (ι : Type) where
  key : ι → String
  waiting : SpawnSession → Prop
  payment : ι → SpawnSession → EscrowClaim → Option ObservedPayment
  scanToBlock : ℕ
  nowMs : ℕ
  action : ι → Update EscrowClaim
  succeeds : ∀ {item s session claim observed}, At s (key item) session claim →
    waiting session → payment item session claim = some observed →
    ∃ t, action item s = .ok (claim.scanned session observed scanToBlock nowMs) t ∧
      At t (key item) (session.scanned observed scanToBlock nowMs)
        (claim.scanned session observed scanToBlock nowMs) ∧
      OnlySession (key item) s t
  fails : ∀ {item s}, (∀ session claim, At s (key item) session claim →
    payment item session claim = none) → ∃ e, action item s = .error e s

variable (loop : ScanLoop ι)

/-- Some sessions went through a scan, and nothing else changed but audit logs and jobs. -/
structure Scanned (items : List ι) (s t : FactoryState) : Prop where
  frame : t = { s with
    sessions := t.sessions
    escrowClaims := t.escrowClaims
    auditLog := t.auditLog
    schedulerJobs := t.schedulerJobs }
  sessions : ∀ other ∉ items.map loop.key, t.sessions[other]? = s.sessions[other]?
  claims : ∀ other ∉ items.map loop.key, t.escrowClaims[other]? = s.escrowClaims[other]?
  audits : ∀ other ∉ items.map loop.key, t.auditLog[other]? = s.auditLog[other]?
  scanned : ∀ item ∈ items, ∃ session claim observed, At s (loop.key item) session claim ∧
    loop.waiting session ∧ loop.payment item session claim = some observed ∧
    At t (loop.key item) (session.scanned observed loop.scanToBlock loop.nowMs)
      (claim.scanned session observed loop.scanToBlock loop.nowMs)

/-- The steps before the first write fail: session or claim is missing, or the payment
cannot be established. -/
def ScanFails (s : FactoryState) (item : ι) : Prop :=
  ∀ session claim, At s (loop.key item) session claim → loop.payment item session claim = none

variable {loop} {items : List ι} {item : ι} {s t u : FactoryState}

/-- A scan of no session. -/
theorem Scanned.nil (s : FactoryState) : Scanned loop [] s s where
  frame := rfl
  sessions _ _ := rfl
  claims _ _ := rfl
  audits _ _ := rfl
  scanned := by simp

/-- Scheduling after a scan. -/
theorem Scanned.of_sameButJobs (h : Scanned loop items s t) (hjobs : SameButJobs t u) :
    Scanned loop items s u := by
  obtain ⟨jobs, rfl⟩ := hjobs
  refine ⟨?_, h.sessions, h.claims, h.audits, ?_⟩
  · conv_lhs => rw [h.frame]
  · intro item hmem
    obtain ⟨session, claim, observed, hat, hwaiting, hpayment, hat'⟩ := h.scanned item hmem
    exact ⟨session, claim, observed, hat, hwaiting, hpayment, hat'.session, hat'.claim⟩

/-- A scan of one session and then of others. -/
theorem Scanned.cons {session : SpawnSession} {claim : EscrowClaim} {observed : ObservedPayment}
    (hfresh : loop.key item ∉ items.map loop.key) (hat : At s (loop.key item) session claim)
    (hwaiting : loop.waiting session) (hpayment : loop.payment item session claim = some observed)
    (hat' : At t (loop.key item) (session.scanned observed loop.scanToBlock loop.nowMs)
      (claim.scanned session observed loop.scanToBlock loop.nowMs))
    (honly : OnlySession (loop.key item) s t) (hrest : Scanned loop items t u) :
    Scanned loop (item :: items) s u where
  frame := by
    have hu := hrest.frame
    rw [honly.frame] at hu
    exact hu
  sessions other hother := by
    simp only [List.map_cons, List.mem_cons, not_or] at hother
    exact (hrest.sessions other hother.2).trans (honly.sessions other hother.1)
  claims other hother := by
    simp only [List.map_cons, List.mem_cons, not_or] at hother
    exact (hrest.claims other hother.2).trans (honly.claims other hother.1)
  audits other hother := by
    simp only [List.map_cons, List.mem_cons, not_or] at hother
    exact (hrest.audits other hother.2).trans (honly.audits other hother.1)
  scanned := by
    intro other hother
    rcases List.mem_cons.mp hother with rfl | hmem
    · refine ⟨session, claim, observed, hat, hwaiting, hpayment, ?_, ?_⟩
      · exact (hrest.sessions _ hfresh).trans hat'.session
      · exact (hrest.claims _ hfresh).trans hat'.claim
    · obtain ⟨session', claim', observed', hat₁, hwaiting', hpayment', hat₂⟩ :=
        hrest.scanned other hmem
      have hne : loop.key other ≠ loop.key item := fun h => hfresh (h ▸ List.mem_map_of_mem hmem)
      refine ⟨session', claim', observed', ⟨?_, ?_⟩, hwaiting', hpayment', hat₂⟩
      · exact (honly.sessions _ hne).symm.trans hat₁.session
      · exact (honly.claims _ hne).symm.trans hat₁.claim

/-- The checks of a session that an iteration on another one leaves alone. -/
theorem ScanFails.of_onlySession {other : ι} (hne : loop.key other ≠ loop.key item)
    (honly : OnlySession (loop.key item) s t) (hfails : ScanFails loop t other) :
    ScanFails loop s other :=
  fun session claim hat => hfails session claim (honly.at_of_ne hne hat)

/-- A loop stops at the first session whose checks fail, with the sessions before it
written. -/
theorem ScanLoop.run (hnodup : (items.map loop.key).Nodup)
    (hwaiting : ∀ item ∈ items, ∀ session, s.sessions[loop.key item]? = some session →
      loop.waiting session) :
    (∃ claims t, items.mapM loop.action s = .ok claims t ∧ Scanned loop items s t) ∨
    (∃ before failing behind e t, items = before ++ failing :: behind ∧
      Scanned loop before s t ∧ ScanFails loop s failing ∧
      items.mapM loop.action s = .error e t) := by
  induction items generalizing s with
  | nil => exact .inl ⟨[], s, rfl, Scanned.nil s⟩
  | cons item items ih =>
    rw [List.map_cons, List.nodup_cons] at hnodup
    obtain ⟨hfresh, hnodup⟩ := hnodup
    by_cases hfails : ScanFails loop s item
    · obtain ⟨e, hrun⟩ := loop.fails hfails
      refine .inr ⟨[], item, items, e, s, rfl, Scanned.nil s, hfails, ?_⟩
      rw [List.mapM_cons, run_bind, hrun]
    · simp only [ScanFails, not_forall] at hfails
      obtain ⟨session, claim, hat, hsome⟩ := hfails
      obtain ⟨observed, hpayment⟩ := Option.ne_none_iff_exists'.mp hsome
      have hready := hwaiting item (by simp) session hat.session
      obtain ⟨t, hrun, hat', honly⟩ := loop.succeeds hat hready hpayment
      have hwaiting' : ∀ other ∈ items, ∀ session, t.sessions[loop.key other]? = some session →
          loop.waiting session := by
        intro other hmem session hsession
        have hne : loop.key other ≠ loop.key item :=
          fun h => hfresh (h ▸ List.mem_map_of_mem hmem)
        rw [honly.sessions _ hne] at hsession
        exact hwaiting other (by simp [hmem]) session hsession
      rcases ih hnodup hwaiting' with ⟨claims, u, hrest, hscanned⟩ |
        ⟨before, failing, behind, e, u, rfl, hscanned, hfails, hrest⟩
      · refine .inl ⟨claim.scanned session observed loop.scanToBlock loop.nowMs :: claims, u, ?_,
          Scanned.cons hfresh hat hready hpayment hat' honly hscanned⟩
        rw [List.mapM_cons, run_bind, hrun]
        simp only [run_bind]
        rw [hrest]
        rfl
      · simp only [List.map_append, List.map_cons, List.mem_append, List.mem_cons, not_or] at hfresh
        refine .inr ⟨item :: before, failing, behind, e, u, rfl,
          Scanned.cons hfresh.1 hat hready hpayment hat' honly hscanned,
          ScanFails.of_onlySession (fun h => hfresh.2.1 h.symm) honly hfails, ?_⟩
        rw [List.mapM_cons, run_bind, hrun]
        simp only [run_bind]
        rw [hrest]

end Loop

section Host

variable {amounts : DepositAmountsByClaim} {endpoints : List String} {blockHashes : BlockHashes}
  {scanToBlock nowMs : ℕ} {sessionId : String} {s : FactoryState}

/-- An iteration on the host fails without a write when its checks fail. -/
theorem reconcileSession_error (hfails : ∀ session claim, At s sessionId session claim →
      (observePayment amounts endpoints (blockHashes sessionId) session claim).toOption = none) :
    ∃ e, reconcileSession amounts endpoints blockHashes scanToBlock nowMs sessionId s =
      .error e s := by
  rw [Factory.reconcileSession, run_bind]
  cases hsession : s.sessions[sessionId]? with
  | none =>
    rw [run_getSession_none hsession]
    exact ⟨_, rfl⟩
  | some session =>
    rw [run_getSession hsession]
    simp only [run_bind]
    cases hclaim : s.escrowClaims[sessionId]? with
    | none =>
      rw [run_getClaim_none hclaim]
      exact ⟨_, rfl⟩
    | some claim =>
      rw [run_getClaim hclaim]
      have hnone := hfails session claim ⟨hsession, hclaim⟩
      cases hpayment : observePayment amounts endpoints (blockHashes sessionId) session claim with
      | error e => exact ⟨e, by simp only [hpayment, run_ofExcept_error]⟩
      | ok payment =>
        rw [hpayment] at hnone
        cases hnone

/-- The loop of `reconcile_escrow_payments` on the host. -/
def hostLoop (amounts : DepositAmountsByClaim) (endpoints : List String)
    (blockHashes : BlockHashes) (scanToBlock nowMs : ℕ) : ScanLoop String where
  key := id
  waiting session := sessionNeedsPaymentPoll session = true
  payment sessionId session claim :=
    (observePayment amounts endpoints (blockHashes sessionId) session claim).toOption
  scanToBlock := scanToBlock
  nowMs := nowMs
  action := reconcileSession amounts endpoints blockHashes scanToBlock nowMs
  succeeds hat hpoll hpayment :=
    hat.reconcileSession hpoll (Fallible.toOption_eq_some.mp hpayment)
  fails := reconcileSession_error

end Host

section Scan

variable {logs : List BaseDepositLog} {blockHashes : BlockHashes} {scanToBlock nowMs : ℕ}
  {s t : FactoryState}

@[simp] theorem activeSessionIds_withScanCursor :
    activeSessionIds (s.withScanCursor scanToBlock) = activeSessionIds s := rfl

@[simp] theorem paymentEndpoints_withScanCursor :
    (s.withScanCursor scanToBlock).paymentEndpoints = s.paymentEndpoints := rfl

/-- Every active session is listed once. -/
theorem nodup_activeSessionIds (s : FactoryState) : (activeSessionIds s).Nodup := by
  have hkeys : (s.sessions.toList.map (·.1)).Nodup := by
    rw [Std.ExtTreeMap.map_fst_toList_eq_keys]
    exact Std.ExtTreeMap.nodup_keys
  exact hkeys.sublist (List.filter_sublist.map _)

/-- An id is active when its session waits for a payment. -/
theorem mem_activeSessionIds {sessionId : String} : sessionId ∈ activeSessionIds s ↔
    ∃ session, s.sessions[sessionId]? = some session ∧ sessionNeedsPaymentPoll session = true := by
  simp [activeSessionIds, Std.ExtTreeMap.mem_toList_iff_getElem?_eq_some]

/-- `reconcile_escrow_payments` on the host: the logs cannot be grouped and nothing is
written, or every active session is scanned, or the scan stops at a session whose checks
fail, with the cursor and the sessions before it written. -/
theorem reconcileEscrowPayments_cases (logs : List BaseDepositLog) (blockHashes : BlockHashes)
    (scanToBlock nowMs : ℕ) (s : FactoryState) :
    (∃ e, amountsByClaim logs = .error e ∧
      reconcileEscrowPayments logs blockHashes scanToBlock nowMs s = .error e s) ∨
    (∃ amounts, amountsByClaim logs = .ok amounts ∧
      let loop := hostLoop amounts s.paymentEndpoints blockHashes scanToBlock nowMs
      ((∃ claims t, reconcileEscrowPayments logs blockHashes scanToBlock nowMs s = .ok claims t ∧
          Scanned loop (activeSessionIds s) (s.withScanCursor scanToBlock) t) ∨
        ∃ before failing behind e t, activeSessionIds s = before ++ failing :: behind ∧
          Scanned loop before (s.withScanCursor scanToBlock) t ∧ ScanFails loop s failing ∧
          reconcileEscrowPayments logs blockHashes scanToBlock nowMs s = .error e t)) := by
  cases hamounts : amountsByClaim logs with
  | error e =>
    refine .inl ⟨e, rfl, ?_⟩
    rw [reconcileEscrowPayments, hamounts]
    rfl
  | ok amounts =>
    refine .inr ⟨amounts, rfl, ?_⟩
    intro loop
    have hwaiting : ∀ item ∈ activeSessionIds s, ∀ session,
        (s.withScanCursor scanToBlock).sessions[loop.key item]? = some session →
        loop.waiting session := by
      intro item hmem session hsession
      obtain ⟨session', hsession', hpoll⟩ := mem_activeSessionIds.mp hmem
      obtain rfl := Option.some.inj (hsession'.symm.trans hsession)
      exact hpoll
    have hnodup : ((activeSessionIds s).map loop.key).Nodup := by
      rw [show loop.key = id from rfl, List.map_id]
      exact nodup_activeSessionIds s
    rw [reconcileEscrowPayments, hamounts]
    simp only [run_bind, run_ofExcept_ok, reconcileInState, run_modify, run_get,
      activeSessionIds_withScanCursor, paymentEndpoints_withScanCursor]
    rcases loop.run hnodup hwaiting with ⟨claims, t, hrun, hscanned⟩ |
      ⟨before, failing, behind, e, t, hsplit, hscanned, hfails, hrun⟩
    · refine .inl ⟨claims, t.syncPaymentPollJob nowMs, ?_,
        hscanned.of_sameButJobs (sameButJobs_syncPaymentPollJob t nowMs)⟩
      rw [show reconcileSession amounts s.paymentEndpoints blockHashes scanToBlock nowMs =
        loop.action from rfl, hrun]
      rfl
    · refine .inr ⟨before, failing, behind, e, t, hsplit, hscanned,
        fun session claim hat => hfails session claim ⟨hat.session, hat.claim⟩, ?_⟩
      rw [show reconcileSession amounts s.paymentEndpoints blockHashes scanToBlock nowMs =
        loop.action from rfl, hrun]

/-- A scan that succeeds scans every active session. -/
theorem scanned_of_reconcileEscrowPayments {claims : List EscrowClaim}
    (h : reconcileEscrowPayments logs blockHashes scanToBlock nowMs s = .ok claims t) :
    ∃ amounts, amountsByClaim logs = .ok amounts ∧
      Scanned (hostLoop amounts s.paymentEndpoints blockHashes scanToBlock nowMs)
        (activeSessionIds s) (s.withScanCursor scanToBlock) t := by
  rcases reconcileEscrowPayments_cases logs blockHashes scanToBlock nowMs s with
    ⟨e, -, herror⟩ | ⟨amounts, hamounts, ⟨claims', t', hok, hscanned⟩ |
      ⟨before, failing, behind, e, t', -, -, -, herror⟩⟩
  · rw [herror] at h
    cases h
  · rw [hok] at h
    cases h
    exact ⟨amounts, hamounts, hscanned⟩
  · rw [herror] at h
    cases h

/-- What a scan of the host does to a session with its claim. -/
theorem Scanned.host {amounts : DepositAmountsByClaim} {endpoints : List String}
    {ids : List String} {sessionId : String} {session : SpawnSession} {claim : EscrowClaim}
    (h : Scanned (hostLoop amounts endpoints blockHashes scanToBlock nowMs) ids s t)
    (hmem : sessionId ∈ ids) (hat : At s sessionId session claim) :
    ∃ payment, observePayment amounts endpoints (blockHashes sessionId) session claim =
        .ok payment ∧
      At t sessionId (session.scanned payment scanToBlock nowMs)
        (claim.scanned session payment scanToBlock nowMs) := by
  obtain ⟨session', claim', payment, hat', -, hpayment, hafter⟩ := h.scanned sessionId hmem
  obtain rfl := Option.some.inj (hat'.session.symm.trans hat.session)
  obtain rfl := Option.some.inj (hat'.claim.symm.trans hat.claim)
  exact ⟨payment, Fallible.toOption_eq_some.mp hpayment, hafter⟩

end Scan

end Automaton.Factory
