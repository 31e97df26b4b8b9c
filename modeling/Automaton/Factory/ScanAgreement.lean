import Automaton.Factory.FailedScan
import Automaton.Factory.PaymentCoherence
import Automaton.Factory.Writes

/-!
# The two payment scans

The canister plans all updates before it writes, the host writes session by session. Where no other
message comes between, they agree as long as no session fails after the host has written.
-/

namespace Automaton.Factory

open Persist

/-- A session that is polled, with its claim, as a scan in the canister reads them. -/
structure PolledSession where
  session : SpawnSession
  claim : EscrowClaim
  polled : sessionNeedsPaymentPoll session = true

/-- The snapshot of a stored session, if it is polled and has a claim. -/
def FactoryState.snapshot (state : FactoryState) (entry : String × SpawnSession) :
    Option PolledSession :=
  if polled : sessionNeedsPaymentPoll entry.2 = true then
    state.escrowClaims[entry.1]?.map fun claim => ⟨entry.2, claim, polled⟩
  else none

/-- The sessions that a scan in the canister reads. -/
def polledSessions (state : FactoryState) : List PolledSession :=
  state.sessions.toList.filterMap state.snapshot

/-- The loop over the evidence in the canister, with the guard after each answer. -/
def guardedBlockHashes (state : FactoryState) (guard : EscrowPaymentScanGuard)
    (lookup : ℕ → Except FactoryError String) :
    List PaymentEvidenceBlock → Except FactoryError Bool
  | [] => .ok true
  | proof :: rest => do
    let canonicalBlockHash ← lookup proof.blockNumber
    ensurePaymentScanGuard state guard
    if ¬ Text.eqIgnoreAsciiCase canonicalBlockHash proof.blockHash then return false
    guardedBlockHashes state guard lookup rest

/-- The block hashes are looked up as on the host, under the guard. -/
def confirmGuarded (state : FactoryState) (guard : EscrowPaymentScanGuard)
    (paymentStatus : PaymentStatus) (endpoints : List String)
    (lookup : ℕ → Except FactoryError String) (evidence : List PaymentEvidenceBlock) :
    Except FactoryError Bool :=
  if paymentStatus = .paid ∧ endpoints ≠ [] then guardedBlockHashes state guard lookup evidence
  else .ok true

/-- The fallible steps of the canister for one session, in a state that no other message changes. -/
def observeGuarded (state : FactoryState) (guard : EscrowPaymentScanGuard)
    (amounts : DepositAmountsByClaim) (endpoints : List String)
    (lookup : ℕ → Except FactoryError String) (session : SpawnSession) (claim : EscrowClaim) :
    Except FactoryError ObservedPayment := do
  let merged ← mergedClaimEvidenceForSession claim amounts[session.claimId]?
  let required ← parseAmount session.grossAmount
  let paymentStatus := paymentStatusForAmount merged.totalPaid required
  ensurePaymentScanGuard state guard
  let canonical ← confirmGuarded state guard paymentStatus endpoints lookup merged.evidence
  return ⟨merged, finalizePaymentStatusForEscrow paymentStatus canonical⟩

/-- The status of a payment that is observed under guards. -/
theorem observeGuarded_status {state : FactoryState} {guard : EscrowPaymentScanGuard}
    {amounts : DepositAmountsByClaim} {endpoints : List String}
    {lookup : ℕ → Except FactoryError String} {session : SpawnSession} {claim : EscrowClaim}
    {payment : ObservedPayment}
    (h : observeGuarded state guard amounts endpoints lookup session claim = .ok payment) :
    payment.paymentStatus ≠ .refunded := by
  simp only [observeGuarded, Fallible.bind_eq_ok, Fallible.pure_eq_ok] at h
  obtain ⟨merged, -, required, -, -, -, canonical, -, rfl⟩ := h
  simp only [finalizePaymentStatusForEscrow, paymentStatusForAmount]
  split_ifs <;> simp_all

/-- The update that the canister plans for a session. -/
def planUpdate (amounts : DepositAmountsByClaim) (blockHashes : BlockHashes) (nowMs : ℕ)
    (state : FactoryState) (polled : PolledSession) :
    Except FactoryError (EscrowPaymentScanUpdate nowMs) :=
  let session := polled.session
  let guard := EscrowPaymentScanGuard.new session polled.claim
  match hpayment : observeGuarded state guard amounts state.paymentEndpoints
      (blockHashes session.sessionId) session polled.claim with
  | .error error => .error error
  | .ok payment => .ok {
      guard := guard
      payment := payment
      paymentDetected := session.state = .awaitingPayment && payment.paymentStatus = .paid &&
        nowMs ≤ session.expiresAt
      awaiting := state_of_needsPaymentPoll polled.polled
      unsettled := by
        have hpolled := polled.polled
        simp only [sessionNeedsPaymentPoll, Bool.and_eq_true, Bool.not_eq_true',
          Bool.or_eq_false_iff, decide_eq_false_iff_not] at hpolled
        exact hpolled.2
      notRefunded := observeGuarded_status hpayment
      detected := by
        have hstate : session.state = .awaitingPayment := state_of_needsPaymentPoll polled.polled
        simp [hstate, guard, EscrowPaymentScanGuard.new] }

/-- `reconcile_escrow_payments` in the canister, when no other message comes between. -/
def reconcileInCanister (logs : List BaseDepositLog) (blockHashes : BlockHashes)
    (scanToBlock nowMs : ℕ) : Update (List EscrowClaim) := do
  let amounts ← ofExcept (amountsByClaim logs)
  let state ← get
  let updates ← ofExcept ((polledSessions state).mapM (planUpdate amounts blockHashes nowMs state))
  applyPaymentScan updates scanToBlock

section Steps

variable {state s t u : FactoryState} {guard : EscrowPaymentScanGuard}
  {amounts : DepositAmountsByClaim} {endpoints : List String} {blockHashes : BlockHashes}
  {lookup : ℕ → Except FactoryError String} {session : SpawnSession} {claim : EscrowClaim}
  {scanToBlock nowMs : ℕ} {sessionId : String} {polled : PolledSession}

/-- While the guard holds, the loops over the evidence are the same. -/
theorem guardedBlockHashes_eq (hguard : ensurePaymentScanGuard state guard = .ok ())
    (evidence : List PaymentEvidenceBlock) :
    guardedBlockHashes state guard lookup evidence = blockHashesCanonical lookup evidence := by
  induction evidence with
  | nil => rfl
  | cons proof rest ih =>
    unfold guardedBlockHashes blockHashesCanonical
    rw [ih, hguard]
    rfl

/-- While the guard holds, the payment is what the host observes. -/
theorem observeGuarded_eq (hguard : ensurePaymentScanGuard state guard = .ok ()) :
    observeGuarded state guard amounts endpoints lookup session claim =
      observePayment amounts endpoints lookup session claim := by
  unfold observeGuarded observePayment confirmGuarded confirmBlockHashes
  rw [hguard]
  simp only [guardedBlockHashes_eq hguard]
  rfl

/-- A guard holds for the session and the claim that it was made of. -/
theorem guard_new_matches (session : SpawnSession) (claim : EscrowClaim) :
    (EscrowPaymentScanGuard.new session claim).matchesSession session = true ∧
      (EscrowPaymentScanGuard.new session claim).matchesClaim claim = true := by
  simp [EscrowPaymentScanGuard.new, EscrowPaymentScanGuard.matchesSession,
    EscrowPaymentScanGuard.matchesClaim]

theorem ensurePaymentScanGuard_new (hat : At s session.sessionId session claim) :
    ensurePaymentScanGuard s (.new session claim) = .ok () := by
  have hmatches := guard_new_matches session claim
  have hguard : ensurePaymentScanGuard s (.new session claim) = _ := ensurePaymentScanGuard_at hat
  rw [hguard, if_pos hmatches]

/-- A plan fails as the observation does. -/
theorem planUpdate_error {error : FactoryError}
    (hat : At s polled.session.sessionId polled.session polled.claim)
    (hpayment : observePayment amounts s.paymentEndpoints (blockHashes polled.session.sessionId)
      polled.session polled.claim = .error error) :
    planUpdate amounts blockHashes nowMs s polled = .error error := by
  rw [← observeGuarded_eq (ensurePaymentScanGuard_new hat)] at hpayment
  unfold planUpdate
  dsimp only
  split
  · rename_i error' hfailed
    rw [hpayment] at hfailed
    rw [Except.error.inj hfailed]
  · rename_i payment hobserved
    rw [hpayment] at hobserved
    cases hobserved

/-- A plan carries what is observed. -/
theorem planUpdate_ok {payment : ObservedPayment}
    (hat : At s polled.session.sessionId polled.session polled.claim)
    (hpayment : observePayment amounts s.paymentEndpoints (blockHashes polled.session.sessionId)
      polled.session polled.claim = .ok payment) :
    ∃ update, planUpdate amounts blockHashes nowMs s polled = .ok update ∧
      update.guard = .new polled.session polled.claim ∧ update.payment = payment ∧
      update.paymentDetected = (polled.session.state = .awaitingPayment &&
        payment.paymentStatus = .paid && nowMs ≤ polled.session.expiresAt) := by
  rw [← observeGuarded_eq (ensurePaymentScanGuard_new hat)] at hpayment
  unfold planUpdate
  dsimp only
  split
  · rename_i error hfailed
    rw [hpayment] at hfailed
    cases hfailed
  · rename_i payment' hobserved
    obtain rfl := Except.ok.inj (hpayment.symm.trans hobserved)
    exact ⟨_, rfl, rfl, rfl, rfl⟩

/-- An update that was planned for a session is applied as the host reconciles it. -/
theorem applyScanUpdate_eq {payment : ObservedPayment} {update : EscrowPaymentScanUpdate nowMs}
    (hid : polled.session.sessionId = sessionId)
    (hat : At u sessionId polled.session polled.claim)
    (hpayment : observePayment amounts endpoints (blockHashes sessionId) polled.session
      polled.claim = .ok payment)
    (hguard : update.guard = .new polled.session polled.claim) (hupdate : update.payment = payment)
    (hdetected : update.paymentDetected = (polled.session.state = .awaitingPayment &&
      payment.paymentStatus = .paid && nowMs ≤ polled.session.expiresAt)) :
    applyScanUpdate scanToBlock update u =
      reconcileSession amounts endpoints blockHashes scanToBlock nowMs sessionId u := by
  have hkey : update.guard.sessionId = sessionId := by
    rw [hguard]
    exact hid
  have hchecked : ensurePaymentScanGuard u update.guard = .ok () := by
    rw [hguard]
    subst hid
    exact ensurePaymentScanGuard_new hat
  obtain ⟨t, hrecord, hat', -⟩ := hat.recordPayment payment scanToBlock nowMs
  have hhost : reconcileSession amounts endpoints blockHashes scanToBlock nowMs sessionId u =
      advanceAfterPayment sessionId (polled.session.state = .awaitingPayment &&
        payment.paymentStatus = .paid && nowMs ≤ polled.session.expiresAt)
          polled.session.expiresAt nowMs t := by
    rw [reconcileSession, run_bind, run_getSession hat.session]
    dsimp only
    rw [run_bind, run_getClaim hat.claim]
    dsimp only
    rw [hpayment, run_bind, run_ofExcept_ok]
    dsimp only
    rw [run_bind, hrecord]
  rw [hhost, applyScanUpdate, run_bind, run_get]
  dsimp only
  rw [hchecked, run_bind, run_ofExcept_ok]
  dsimp only
  rw [hkey, hupdate, run_bind, hrecord]
  dsimp only
  rw [run_bind, run_getSession hat'.session, hdetected]
  rfl

/-- Where nothing can be observed, the host fails without a write. -/
theorem reconcileSession_observe_error {error : FactoryError}
    (hat : At u sessionId session claim)
    (hpayment : observePayment amounts endpoints (blockHashes sessionId) session claim =
      .error error) :
    reconcileSession amounts endpoints blockHashes scanToBlock nowMs sessionId u =
      .error error u := by
  rw [reconcileSession, run_bind, run_getSession hat.session]
  dsimp only
  rw [run_bind, run_getClaim hat.claim]
  dsimp only
  rw [hpayment, run_bind, run_ofExcept_error]

end Steps

section Loops

variable {s u : FactoryState} (amounts : DepositAmountsByClaim) (blockHashes : BlockHashes)
  (scanToBlock nowMs : ℕ)

/-- The snapshot of a session that is stored under its id. -/
def SnapshotOf (s : FactoryState) (sessionId : String) (polled : PolledSession) : Prop :=
  polled.session.sessionId = sessionId ∧ At s sessionId polled.session polled.claim

/-- Every session that is polled is stored under its id and has a claim. -/
def PolledWithClaims (s : FactoryState) : Prop :=
  ∀ sessionId session, s.sessions[sessionId]? = some session →
    sessionNeedsPaymentPoll session = true →
      session.sessionId = sessionId ∧ ∃ claim, s.escrowClaims[sessionId]? = some claim

/-- Every state that the writes of the factory reach is such a state. -/
theorem Consistent.polledWithClaims (h : Consistent s) : PolledWithClaims s := by
  intro sessionId session hsession _
  obtain ⟨hid, claim, hclaim, -⟩ := h.stored hsession
  exact ⟨hid, claim, hclaim⟩

/-- The canister reads a snapshot of every session that the host visits, in the same order. -/
theorem polledSessions_snapshots (hpolled : PolledWithClaims s) :
    List.Forall₂ (SnapshotOf s) (activeSessionIds s) (polledSessions s) := by
  have hentries : ∀ entries : List (String × SpawnSession),
      (∀ entry ∈ entries, s.sessions[entry.1]? = some entry.2) →
        List.Forall₂ (SnapshotOf s)
          ((entries.filter fun entry => sessionNeedsPaymentPoll entry.2).map (·.1))
          (entries.filterMap s.snapshot) := by
    intro entries hstored
    induction entries with
    | nil => exact .nil
    | cons entry entries ih =>
      have hrest := ih fun other hother => hstored other (List.mem_cons_of_mem _ hother)
      rw [List.filter_cons]
      by_cases hpoll : sessionNeedsPaymentPoll entry.2 = true
      · obtain ⟨hid, claim, hclaim⟩ := hpolled _ _ (hstored entry List.mem_cons_self) hpoll
        have hsnapshot : s.snapshot entry = some ⟨entry.2, claim, hpoll⟩ := by
          simp [FactoryState.snapshot, hpoll, hclaim]
        rw [if_pos hpoll, List.map_cons, List.filterMap_cons_some hsnapshot]
        exact .cons ⟨hid, hstored entry List.mem_cons_self, hclaim⟩ hrest
      · have hsnapshot : s.snapshot entry = none := by simp [FactoryState.snapshot, hpoll]
        rw [if_neg hpoll, List.filterMap_cons_none hsnapshot]
        exact hrest
  refine hentries s.sessions.toList fun entry hentry => ?_
  exact Std.ExtTreeMap.mem_toList_iff_getElem?_eq_some.mp hentry

/-- The two loops over sessions whose snapshots are current: all sessions can be observed, and the
loops run alike; or both fail with the error of the first session that cannot, with the sessions
before it written on the host. -/
theorem loops_agree {ids : List String} {polleds : List PolledSession}
    (hsnapshots : List.Forall₂ (SnapshotOf s) ids polleds) (hnodup : ids.Nodup)
    (hcurrent : ∀ id ∈ ids, ∀ session claim, At s id session claim → At u id session claim) :
    let host := reconcileSession amounts s.paymentEndpoints blockHashes scanToBlock nowMs
    let plan := planUpdate amounts blockHashes nowMs s
    (∃ updates claims t, polleds.mapM plan = .ok updates ∧ ids.mapM host u = .ok claims t ∧
      updates.mapM (applyScanUpdate scanToBlock) u = .ok claims t) ∨
    ∃ before failing behind claims error t, ids = before ++ failing :: behind ∧
      polleds.mapM plan = .error error ∧ before.mapM host u = .ok claims t ∧
      ids.mapM host u = .error error t ∧
      (∀ id ∈ before, ∃ session claim payment, At s id session claim ∧
        observePayment amounts s.paymentEndpoints (blockHashes id) session claim = .ok payment) ∧
      ∃ session claim, At s failing session claim ∧
        observePayment amounts s.paymentEndpoints (blockHashes failing) session claim =
          .error error := by
  intro host plan
  induction hsnapshots generalizing u with
  | nil => exact .inl ⟨[], [], u, rfl, rfl, rfl⟩
  | @cons id polled ids polleds hsnapshot hrest ih =>
    rw [List.nodup_cons] at hnodup
    obtain ⟨hfresh, hnodup⟩ := hnodup
    obtain ⟨hid, hat⟩ := hsnapshot
    have hnow : At u id polled.session polled.claim := hcurrent id List.mem_cons_self _ _ hat
    have hstored : At s polled.session.sessionId polled.session polled.claim := by
      rw [hid]
      exact hat
    cases hpayment : observePayment amounts s.paymentEndpoints (blockHashes id) polled.session
        polled.claim with
    | error error =>
      have hplan : plan polled = .error error := by
        refine planUpdate_error hstored ?_
        rw [hid]
        exact hpayment
      have hhost : host id u = .error error u := reconcileSession_observe_error hnow hpayment
      refine .inr ⟨[], id, ids, [], error, u, rfl, ?_, rfl, ?_, by simp, _, _, hat, hpayment⟩
      · rw [List.mapM_cons, hplan]
        rfl
      · rw [List.mapM_cons, run_bind, hhost]
    | ok payment =>
      obtain ⟨update, hplan, hguard, hupdate, hdetected⟩ := planUpdate_ok hstored (by
        rw [hid]
        exact hpayment)
      have hplan : plan polled = .ok update := hplan
      obtain ⟨t, hhost, -, honly⟩ := hnow.reconcileSession polled.polled hpayment
      set written := polled.claim.scanned polled.session payment scanToBlock nowMs
      have hhost : host id u = .ok written t := hhost
      have happly : applyScanUpdate scanToBlock update u = .ok written t :=
        (applyScanUpdate_eq hid hnow hpayment hguard hupdate hdetected).trans hhost
      have hcurrent' : ∀ other ∈ ids, ∀ session claim, At s other session claim →
          At t other session claim := by
        intro other hother session claim hother'
        have hne : other ≠ id := by
          rintro rfl
          exact hfresh hother
        exact honly.at_of_ne hne (hcurrent other (List.mem_cons_of_mem _ hother) _ _ hother')
      rcases ih hnodup hcurrent' with ⟨updates, claims, v, hplans, hhosts, happlies⟩ |
        ⟨before, failing, behind, claims, error, v, rfl, hplans, hbefore, hhosts, hpass, hfails⟩
      · refine .inl ⟨update :: updates, written :: claims, v, ?_, ?_, ?_⟩
        · rw [List.mapM_cons, hplan, Fallible.bind_eq_ok]
          refine ⟨update, rfl, ?_⟩
          rw [hplans]
          rfl
        · rw [List.mapM_cons, run_bind, hhost]
          dsimp only
          rw [run_bind, hhosts]
          rfl
        · rw [List.mapM_cons, run_bind, happly]
          dsimp only
          rw [run_bind, happlies]
          rfl
      · refine .inr ⟨id :: before, failing, behind, written :: claims, error, v, rfl, ?_, ?_, ?_,
          ?_, hfails⟩
        · rw [List.mapM_cons, hplan]
          change (polleds.mapM plan >>= _) = _
          rw [hplans]
          rfl
        · rw [List.mapM_cons, run_bind, hhost]
          dsimp only
          rw [run_bind, hbefore]
          rfl
        · rw [List.mapM_cons, run_bind, hhost]
          dsimp only
          rw [run_bind, hhosts]
        · intro other hother
          rcases List.mem_cons.mp hother with rfl | hother
          · exact ⟨_, _, payment, hat, hpayment⟩
          · exact hpass other hother

end Loops

section Quiet

variable {s t u : FactoryState} {amounts : DepositAmountsByClaim} {endpoints : List String}
  {blockHashes : BlockHashes} {session : SpawnSession} {claim : EscrowClaim}
  {payment : ObservedPayment} {scanToBlock nowMs : ℕ} {sessionId : String}

/-- Nothing is logged, and the jobs stay. -/
structure Quiet (s t : FactoryState) : Prop where
  audits : t.auditLog = s.auditLog
  jobs : t.schedulerJobs = s.schedulerJobs

protected theorem Quiet.refl (s : FactoryState) : Quiet s s := ⟨rfl, rfl⟩

protected theorem Quiet.trans (h : Quiet s t) (h' : Quiet t u) : Quiet s u :=
  ⟨h'.audits.trans h.audits, h'.jobs.trans h.jobs⟩

/-- Recording a payment logs nothing. -/
theorem quiet_recordPayment : Within Quiet (recordPayment sessionId payment scanToBlock nowMs) := by
  refine Within.bind Quiet.trans (within_getClaim Quiet.refl) fun _ => ?_
  refine Within.bind Quiet.trans (Within.modify fun _ => ⟨rfl, rfl⟩) fun _ => ?_
  refine Within.bind Quiet.trans (within_getSession Quiet.refl) fun _ => ?_
  refine Within.bind Quiet.trans (Within.modify fun _ => ⟨rfl, rfl⟩) fun _ => ?_
  refine Within.bind Quiet.trans (within_getSession Quiet.refl) fun _ => ?_
  refine Within.bind Quiet.trans (Within.modify fun _ => ⟨rfl, rfl⟩) fun _ => ?_
  exact Within.bind Quiet.trans (Within.modify fun _ => ⟨rfl, rfl⟩) fun _ =>
    Within.pure Quiet.refl _

/-- A session that a scan finds as it stores it goes on waiting. -/
theorem waits_of_scanned_eq (hpoll : sessionNeedsPaymentPoll session = true)
    (hsame : session.scanned payment scanToBlock nowMs = session) :
    nowMs ≤ session.expiresAt ∧ payment.paymentStatus ≠ .paid := by
  have hstate : stateAfterScan payment.paymentStatus session.expiresAt nowMs = .awaitingPayment :=
    (congrArg (·.state) hsame).trans (state_of_needsPaymentPoll hpoll)
  unfold stateAfterScan at hstate
  split_ifs at hstate with hlate hpaid
  exact ⟨Nat.le_of_not_lt hlate, hpaid⟩

/-- The host logs nothing about such a session. -/
theorem quiet_reconcileSession (hat : At u sessionId session claim)
    (hpoll : sessionNeedsPaymentPoll session = true)
    (hpayment : observePayment amounts endpoints (blockHashes sessionId) session claim =
      .ok payment)
    (hsame : session.scanned payment scanToBlock nowMs = session) :
    Quiet u (after (reconcileSession amounts endpoints blockHashes scanToBlock nowMs sessionId)
      u) := by
  obtain ⟨hdue, hopen⟩ := waits_of_scanned_eq hpoll hsame
  obtain ⟨t, hrecord, hat', -⟩ := hat.recordPayment payment scanToBlock nowMs
  have hquiet : Quiet u t := by
    rw [← after_of_ok hrecord]
    exact quiet_recordPayment u
  have hundetected : ¬ (session.state = .awaitingPayment && payment.paymentStatus = .paid &&
      nowMs ≤ session.expiresAt : Bool) = true := by
    simp [hopen]
  have hrun : reconcileSession amounts endpoints blockHashes scanToBlock nowMs sessionId u =
      getClaim sessionId t := by
    rw [reconcileSession, run_bind, run_getSession hat.session]
    dsimp only
    rw [run_bind, run_getClaim hat.claim]
    dsimp only
    rw [hpayment, run_bind, run_ofExcept_ok]
    dsimp only
    rw [run_bind, hrecord]
    dsimp only
    rw [advanceAfterPayment, run_bind, run_when_neg hundetected]
    dsimp only
    rw [run_bind, run_when_neg (Nat.not_lt.mpr hdue)]
  rw [run_getClaim hat'.claim] at hrun
  rw [after_of_ok hrun]
  exact hquiet

/-- A session that is observed and stored already as the scan stores it. -/
def Settled (amounts : DepositAmountsByClaim) (endpoints : List String) (blockHashes : BlockHashes)
    (scanToBlock nowMs : ℕ) (sessionId : String) (s : FactoryState) : Prop :=
  ∃ session claim payment, At s sessionId session claim ∧
    sessionNeedsPaymentPoll session = true ∧
    observePayment amounts endpoints (blockHashes sessionId) session claim = .ok payment ∧
    session.scanned payment scanToBlock nowMs = session

/-- The host logs nothing about sessions that are settled. -/
theorem quiet_of_settled {ids : List String} (hnodup : ids.Nodup)
    (hsettled : ∀ id ∈ ids, Settled amounts endpoints blockHashes scanToBlock nowMs id u) :
    Quiet u (after (ids.mapM (reconcileSession amounts endpoints blockHashes scanToBlock nowMs))
      u) := by
  refine after_mapM_within (Settled amounts endpoints blockHashes scanToBlock nowMs) Quiet.refl
    Quiet.trans ?_ ?_ hnodup hsettled
  · rintro id s ⟨session, claim, payment, hat, hpoll, hpayment, hsame⟩
    exact quiet_reconcileSession hat hpoll hpayment hsame
  · rintro id other s hne ⟨session, claim, payment, hat, hrest⟩
    have honly : OnlySession id s (after (reconcileSession amounts endpoints blockHashes scanToBlock
        nowMs id) s) := onlySession_reconcileSession s
    exact ⟨session, claim, payment, honly.at_of_ne hne hat, hrest⟩

end Quiet

section Agreement

variable {logs : List BaseDepositLog} {blockHashes : BlockHashes} {scanToBlock nowMs : ℕ}
  {s t : FactoryState} {amounts : DepositAmountsByClaim}

/-- A scan of the host that succeeds is undisturbed. -/
theorem hostUndisturbed_of_ok {claims : List EscrowClaim}
    (h : reconcileEscrowPayments logs blockHashes scanToBlock nowMs s = .ok claims t) :
    HostUndisturbed logs blockHashes scanToBlock nowMs s := by
  rw [← intact_reconcile_iff]
  intro error u hfailed
  rw [h] at hfailed
  cases hfailed

/-- The run of the host ends as its loop does. -/
theorem run_reconcileEscrowPayments_error {error : FactoryError}
    (hamounts : amountsByClaim logs = .ok amounts)
    (hloop : (activeSessionIds s).mapM (reconcileSession amounts s.paymentEndpoints blockHashes
      scanToBlock nowMs) (s.withScanCursor scanToBlock) = .error error t) :
    reconcileEscrowPayments logs blockHashes scanToBlock nowMs s = .error error t := by
  rw [reconcileEscrowPayments, hamounts, run_bind, run_ofExcept_ok]
  dsimp only
  rw [reconcileInState, run_bind, run_modify]
  dsimp only
  rw [run_bind, run_get]
  dsimp only
  rw [run_bind, activeSessionIds_withScanCursor, paymentEndpoints_withScanCursor, hloop]

theorem run_reconcileEscrowPayments_ok {claims : List EscrowClaim}
    (hamounts : amountsByClaim logs = .ok amounts)
    (hloop : (activeSessionIds s).mapM (reconcileSession amounts s.paymentEndpoints blockHashes
      scanToBlock nowMs) (s.withScanCursor scanToBlock) = .ok claims t) :
    reconcileEscrowPayments logs blockHashes scanToBlock nowMs s =
      .ok claims (t.syncPaymentPollJob nowMs) := by
  rw [reconcileEscrowPayments, hamounts, run_bind, run_ofExcept_ok]
  dsimp only
  rw [reconcileInState, run_bind, run_modify]
  dsimp only
  rw [run_bind, run_get]
  dsimp only
  rw [run_bind, activeSessionIds_withScanCursor, paymentEndpoints_withScanCursor, hloop]
  rfl

/-- A plan of the canister that fails has written nothing. -/
theorem run_reconcileInCanister_error {error : FactoryError}
    (hamounts : amountsByClaim logs = .ok amounts)
    (hplan : (polledSessions s).mapM (planUpdate amounts blockHashes nowMs s) = .error error) :
    reconcileInCanister logs blockHashes scanToBlock nowMs s = .error error s := by
  rw [reconcileInCanister, hamounts, run_bind, run_ofExcept_ok]
  dsimp only
  rw [run_bind, run_get]
  dsimp only
  rw [hplan, run_bind, run_ofExcept_error]

/-- A plan that succeeds is applied. -/
theorem run_reconcileInCanister_ok {updates : List (EscrowPaymentScanUpdate nowMs)}
    {claims : List EscrowClaim} (hamounts : amountsByClaim logs = .ok amounts)
    (hplan : (polledSessions s).mapM (planUpdate amounts blockHashes nowMs s) = .ok updates)
    (happly : updates.mapM (applyScanUpdate scanToBlock) (s.withScanCursor scanToBlock) =
      .ok claims t) :
    reconcileInCanister logs blockHashes scanToBlock nowMs s =
      .ok claims (t.syncPaymentPollJob nowMs) := by
  rw [reconcileInCanister, hamounts, run_bind, run_ofExcept_ok]
  dsimp only
  rw [run_bind, run_get]
  dsimp only
  rw [hplan, run_bind, run_ofExcept_ok]
  dsimp only
  rw [applyPaymentScan, run_bind, run_modify]
  dsimp only
  rw [run_bind, happly]
  rfl

/-- A scan that fails undisturbed leaves the whole state as it was. -/
theorem eq_of_undisturbed {before behind : List String} {failing : String}
    {claims : List EscrowClaim} {error : FactoryError}
    (hamounts : amountsByClaim logs = .ok amounts)
    (hundisturbed : HostUndisturbed logs blockHashes scanToBlock nowMs s)
    (hsplit : activeSessionIds s = before ++ failing :: behind)
    (hbefore : before.mapM (reconcileSession amounts s.paymentEndpoints blockHashes scanToBlock
      nowMs) (s.withScanCursor scanToBlock) = .ok claims t)
    (hloop : (activeSessionIds s).mapM (reconcileSession amounts s.paymentEndpoints blockHashes
      scanToBlock nowMs) (s.withScanCursor scanToBlock) = .error error t)
    (hpass : ∀ id ∈ before, ∃ session claim payment, At s id session claim ∧
      observePayment amounts s.paymentEndpoints (blockHashes id) session claim = .ok payment)
    (hfails : ∃ session claim, At s failing session claim ∧
      observePayment amounts s.paymentEndpoints (blockHashes failing) session claim =
        .error error) : t = s := by
  set loop := hostLoop amounts s.paymentEndpoints blockHashes scanToBlock nowMs with hhost
  have hpasses : ∀ item ∈ before, ¬ ScanFails loop s item := by
    intro id hid hnone
    obtain ⟨session, claim, payment, hat, hpayment⟩ := hpass id hid
    have hmissing : (observePayment amounts s.paymentEndpoints (blockHashes id) session
        claim).toOption = none := hnone session claim hat
    rw [hpayment] at hmissing
    cases hmissing
  have hfailing : ScanFails loop s failing := by
    intro session claim hat
    obtain ⟨session', claim', hat', hpayment⟩ := hfails
    obtain rfl := Option.some.inj (hat'.session.symm.trans hat.session)
    obtain rfl := Option.some.inj (hat'.claim.symm.trans hat.claim)
    have hnone : (observePayment amounts s.paymentEndpoints (blockHashes failing) session'
        claim').toOption = none := by
      rw [hpayment]
      rfl
    exact hnone
  have hundisturbed' : Undisturbed loop (activeSessionIds s) s := hundisturbed amounts hamounts
  rcases hundisturbed' with hall | ⟨hstored, hunmoved⟩
  · exact absurd hfailing (hall failing (by simp [hsplit]))
  have hsettled : ∀ id ∈ before, Settled amounts s.paymentEndpoints blockHashes scanToBlock nowMs id
      (s.withScanCursor scanToBlock) := by
    intro id hid
    obtain ⟨session, claim, payment, hat, hpayment⟩ := hpass id hid
    have hactive : id ∈ activeSessionIds s := by simp [hsplit, hid]
    obtain ⟨session', hsession', hpoll⟩ := mem_activeSessionIds.mp hactive
    obtain rfl := Option.some.inj (hat.session.symm.trans hsession')
    have hsame := hunmoved before failing behind hsplit hpasses hfailing id hid session claim payment
      hat (Fallible.toOption_eq_some.mpr hpayment)
    exact ⟨session, claim, payment, ⟨hat.session, hat.claim⟩, hpoll, hpayment, hsame.1⟩
  have hnodup : before.Nodup := by
    have hnodup := nodup_activeSessionIds s
    rw [hsplit] at hnodup
    exact hnodup.of_append_left
  have hquiet := quiet_of_settled hnodup hsettled
  rw [after_of_ok hbefore] at hquiet
  have hrun := run_reconcileEscrowPayments_error hamounts hloop
  obtain ⟨-, hsessions, hclaims⟩ := (intact_reconcile_iff ..).mpr hundisturbed error t hrun
  have hframe : t = { s.withScanCursor scanToBlock with
      sessions := t.sessions
      escrowClaims := t.escrowClaims
      auditLog := t.auditLog
      schedulerJobs := t.schedulerJobs } := by
    rcases reconcileEscrowPayments_cases logs blockHashes scanToBlock nowMs s with
      ⟨error', hgroups, -⟩ | ⟨amounts', -, ⟨claims', t', hok, -⟩ |
        ⟨before', failing', behind', error', t', -, hscanned, -, herror⟩⟩
    · rw [hamounts] at hgroups
      cases hgroups
    · rw [hrun] at hok
      cases hok
    · rw [hrun] at herror
      obtain ⟨-, rfl⟩ := EStateM.Result.error.inj herror
      exact hscanned.frame
  calc t = { s.withScanCursor scanToBlock with
        sessions := t.sessions
        escrowClaims := t.escrowClaims
        auditLog := t.auditLog
        schedulerJobs := t.schedulerJobs } := hframe
    _ = s.withScanCursor scanToBlock := by
        rw [hsessions, hclaims, hquiet.audits, hquiet.jobs]
        rfl
    _ = s := by
        have hcursor : s.paymentLastScannedBlock = some scanToBlock := hstored
        unfold FactoryState.withScanCursor
        rw [← hcursor]

end Agreement

/-- On factories whose polled sessions have claims, the two scans return the same and leave the same
state behind exactly when the scan of the host is undisturbed: the logs cannot be grouped, or every
session passes its checks, or what the host writes before the first failing one is stored already. -/
theorem reconciliations_agree_iff (logs : List BaseDepositLog) (blockHashes : BlockHashes)
    (scanToBlock nowMs : ℕ) (s : FactoryState) (hpolled : PolledWithClaims s) :
    reconcileInCanister logs blockHashes scanToBlock nowMs s =
        reconcileEscrowPayments logs blockHashes scanToBlock nowMs s ↔
      HostUndisturbed logs blockHashes scanToBlock nowMs s := by
  cases hamounts : amountsByClaim logs with
  | error error =>
    have hgroups : HostUndisturbed logs blockHashes scanToBlock nowMs s := by
      intro amounts hgrouped
      rw [hamounts] at hgrouped
      cases hgrouped
    refine iff_of_true ?_ hgroups
    rw [reconcileInCanister, reconcileEscrowPayments, hamounts]
    rfl
  | ok amounts =>
    have hcurrent : ∀ id ∈ activeSessionIds s, ∀ session claim, At s id session claim →
        At (s.withScanCursor scanToBlock) id session claim :=
      fun _ _ _ _ hat => ⟨hat.session, hat.claim⟩
    rcases loops_agree amounts blockHashes scanToBlock nowMs (polledSessions_snapshots hpolled)
      (nodup_activeSessionIds s) hcurrent with ⟨updates, claims, t, hplan, hhost, happly⟩ |
      ⟨before, failing, behind, claims, error, t, hsplit, hplan, hbefore, hhost, hpass, hfails⟩
    · have hok := run_reconcileEscrowPayments_ok hamounts hhost
      refine iff_of_true ?_ (hostUndisturbed_of_ok hok)
      rw [hok]
      exact run_reconcileInCanister_ok hamounts hplan happly
    · rw [run_reconcileInCanister_error hamounts hplan,
        run_reconcileEscrowPayments_error hamounts hhost]
      constructor
      · intro hsame
        obtain ⟨-, rfl⟩ := EStateM.Result.error.inj hsame
        rw [← intact_reconcile_iff]
        intro error' u hfailed
        rw [run_reconcileEscrowPayments_error hamounts hhost] at hfailed
        obtain ⟨-, rfl⟩ := EStateM.Result.error.inj hfailed
        exact ⟨rfl, rfl, rfl⟩
      · intro hundisturbed
        rw [eq_of_undisturbed hamounts hundisturbed hsplit hbefore hhost hpass hfails]

/-- Every block of the sample has the same hash. -/
def sampleOracle : BlockHashes := fun _ _ => .ok "0xb5"

theorem sampleOnline_consistent : Consistent sampleOnline := by
  have hempty : FactoryState.IsEmpty { FactoryState.default with
      baseRpcEndpoint := some "https://mainnet.base.org" } := by
    intro sessionId
    simp [FactoryState.default]
  have hfresh : (Op.createSpawnSession sampleRequest firstId humanOrigin 1).IsFresh
      { FactoryState.default with baseRpcEndpoint := some "https://mainnet.base.org" } :=
    (hempty firstId).1
  have hstep : FactoryStep sampleLibraries _ (.createSpawnSession sampleRequest firstId humanOrigin 1)
      sampleOnline := ⟨hfresh, rfl⟩
  exact (Consistent.of_isEmpty hempty).step hstep

/-- A payment in full is detected alike. -/
theorem fullDeposit_agrees : reconcileInCanister [fullDeposit] sampleOracle 9 2 sampleOnline =
    reconcileEscrowPayments [fullDeposit] sampleOracle 9 2 sampleOnline := by
  obtain ⟨claims, hrun⟩ := run_eq_ok (m := reconcileEscrowPayments [fullDeposit] sampleOracle 9 2)
    (s := sampleOnline) (by decide +kernel)
  exact (reconciliations_agree_iff [fullDeposit] sampleOracle 9 2 sampleOnline
    sampleOnline_consistent.polledWithClaims).mpr (hostUndisturbed_of_ok hrun)

/-- A part of the payment, in a block that has this hash. -/
def partialDeposit (blockHash : String) : BaseDepositLog where
  claimId := sampleExternals.deriveClaimId firstId
  amount := "10000000"
  blockNumber := 5
  blockHash := blockHash

/-- The part has been scanned. -/
def scannedOnce : FactoryState :=
  after (reconcileEscrowPayments [partialDeposit "0xb5"] sampleOracle 5 2) sampleOnline

/-- When the block comes back with another hash both fail, and the host has moved its cursor. -/
theorem changedBlock_disagrees : PolledWithClaims scannedOnce ∧
    reconcileInCanister [partialDeposit "0xc5"] sampleOracle 9 3 scannedOnce ≠
      reconcileEscrowPayments [partialDeposit "0xc5"] sampleOracle 9 3 scannedOnce := by
  have hconsistent : Consistent scannedOnce := by
    have hstep : FactoryStep sampleLibraries sampleOnline
        (.reconcileEscrowPayments [partialDeposit "0xb5"] sampleOracle 5 2) scannedOnce :=
      ⟨trivial, rfl⟩
    exact sampleOnline_consistent.step hstep
  refine ⟨hconsistent.polledWithClaims, fun hsame => ?_⟩
  have hcursors : (after (reconcileInCanister [partialDeposit "0xc5"] sampleOracle 9 3)
        scannedOnce).paymentLastScannedBlock = some 5 ∧
      (after (reconcileEscrowPayments [partialDeposit "0xc5"] sampleOracle 9 3)
        scannedOnce).paymentLastScannedBlock = some 9 := by
    decide +kernel
  obtain ⟨hcanister, hhost⟩ := hcursors
  rw [after_congr hsame, hhost] at hcanister
  cases hcanister

end Automaton.Factory
