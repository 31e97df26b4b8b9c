import Automaton.Factory.Reconciliation

/-!
# Payment scans in the canister

In the canister the payments are established over several messages, from snapshots of the
sessions and their claims. One last closure writes them all, each under a guard that the
session and the claim are still as in the snapshot.
-/

namespace Automaton.Factory

open Persist

/-- `EscrowPaymentScanGuard`. -/
structure EscrowPaymentScanGuard where
  sessionId : String
  sessionState : SpawnSessionState
  sessionPaymentStatus : PaymentStatus
  sessionUpdatedAt : ℕ
  sessionLastScannedBlock : Option ℕ
  sessionExpiresAt : ℕ
  claimPaymentStatus : PaymentStatus
  claimUpdatedAt : ℕ
  claimLastScannedBlock : Option ℕ
  claimPaidAmount : String
  claimPaymentEvidenceBlockNumber : Option ℕ
  claimPaymentEvidenceBlockHash : Option String
  deriving DecidableEq, Repr

/-- `EscrowPaymentScanGuard::new`. -/
def EscrowPaymentScanGuard.new (session : SpawnSession) (claim : EscrowClaim) :
    EscrowPaymentScanGuard where
  sessionId := session.sessionId
  sessionState := session.state
  sessionPaymentStatus := session.paymentStatus
  sessionUpdatedAt := session.updatedAt
  sessionLastScannedBlock := session.lastScannedBlock
  sessionExpiresAt := session.expiresAt
  claimPaymentStatus := claim.paymentStatus
  claimUpdatedAt := claim.updatedAt
  claimLastScannedBlock := claim.lastScannedBlock
  claimPaidAmount := claim.paidAmount
  claimPaymentEvidenceBlockNumber := claim.paymentEvidenceBlockNumber
  claimPaymentEvidenceBlockHash := claim.paymentEvidenceBlockHash

/-- The comparison of `ensure_payment_scan_guard` with the session. -/
def EscrowPaymentScanGuard.matchesSession (guard : EscrowPaymentScanGuard)
    (session : SpawnSession) : Bool :=
  session.state = guard.sessionState && session.paymentStatus = guard.sessionPaymentStatus &&
    session.updatedAt = guard.sessionUpdatedAt &&
    session.lastScannedBlock = guard.sessionLastScannedBlock &&
    session.expiresAt = guard.sessionExpiresAt

/-- The comparison of `ensure_payment_scan_guard` with the claim. -/
def EscrowPaymentScanGuard.matchesClaim (guard : EscrowPaymentScanGuard)
    (claim : EscrowClaim) : Bool :=
  claim.paymentStatus = guard.claimPaymentStatus && claim.updatedAt = guard.claimUpdatedAt &&
    claim.lastScannedBlock = guard.claimLastScannedBlock &&
    claim.paidAmount = guard.claimPaidAmount &&
    claim.paymentEvidenceBlockNumber = guard.claimPaymentEvidenceBlockNumber &&
    claim.paymentEvidenceBlockHash = guard.claimPaymentEvidenceBlockHash

/-- `stale_payment_scan_guard`, as the error it is used in. -/
def stalePaymentScanGuard : FactoryError := .invalidStewardProof "stale payment scan continuation"

/-- `ensure_payment_scan_guard`. -/
def ensurePaymentScanGuard (state : FactoryState) (guard : EscrowPaymentScanGuard) :
    Except FactoryError Unit :=
  match state.sessions[guard.sessionId]? with
  | none => .error (.sessionNotFound guard.sessionId)
  | some session =>
    if ¬ guard.matchesSession session then .error stalePaymentScanGuard
    else
      match state.escrowClaims[guard.sessionId]? with
      | none => .error (.escrowClaimNotFound guard.sessionId)
      | some claim => if ¬ guard.matchesClaim claim then .error stalePaymentScanGuard else .ok ()

/-- `EscrowPaymentScanUpdate`, as it is planned at a time for a session that is polled. The
total and the increment are kept as numbers and printed when they are written. -/
structure EscrowPaymentScanUpdate (nowMs : ℕ) where
  guard : EscrowPaymentScanGuard
  payment : ObservedPayment
  paymentDetected : Bool
  awaiting : guard.sessionState = .awaitingPayment
  unsettled : guard.sessionPaymentStatus ≠ .paid ∧ guard.sessionPaymentStatus ≠ .refunded
  notRefunded : payment.paymentStatus ≠ .refunded
  detected : paymentDetected = true ↔
    payment.paymentStatus = .paid ∧ nowMs ≤ guard.sessionExpiresAt

variable {nowMs : ℕ}

/-- One iteration of the closure of `reconcile_escrow_payments` in the canister. -/
def applyScanUpdate (scanToBlock : ℕ) (update : EscrowPaymentScanUpdate nowMs) :
    Update EscrowClaim := do
  let state ← get
  ofExcept (ensurePaymentScanGuard state update.guard)
  let _ ← recordPayment update.guard.sessionId update.payment scanToBlock nowMs
  let session ← getSession update.guard.sessionId
  advanceAfterPayment update.guard.sessionId update.paymentDetected session.expiresAt nowMs

/-- The closure of `reconcile_escrow_payments` in the canister. -/
def applyPaymentScan (updates : List (EscrowPaymentScanUpdate nowMs)) (scanToBlock : ℕ) :
    Update (List EscrowClaim) := do
  modify (·.withScanCursor scanToBlock)
  let updatedClaims ← updates.mapM (applyScanUpdate scanToBlock)
  modify (·.syncPaymentPollJob nowMs)
  return updatedClaims

section Specs

variable {s : FactoryState} {session : SpawnSession} {claim : EscrowClaim}
  {update : EscrowPaymentScanUpdate nowMs} {scanToBlock : ℕ}

/-- The guard on a session that is there with its claim. -/
theorem ensurePaymentScanGuard_at {guard : EscrowPaymentScanGuard}
    (hat : At s guard.sessionId session claim) :
    ensurePaymentScanGuard s guard =
      if guard.matchesSession session ∧ guard.matchesClaim claim then .ok ()
      else .error stalePaymentScanGuard := by
  rw [ensurePaymentScanGuard, hat.session]
  by_cases hsession : guard.matchesSession session = true
  · simp only [hsession, not_true_eq_false, if_false, hat.claim, true_and]
    by_cases hclaim : guard.matchesClaim claim = true <;> simp [hclaim]
  · simp [hsession]

/-- A session that matches the guard of an update waits for its payment. -/
theorem EscrowPaymentScanUpdate.awaiting_of_matches
    (hmatches : update.guard.matchesSession session = true) :
    session.state = .awaitingPayment ∧ session.expiresAt = update.guard.sessionExpiresAt := by
  simp only [EscrowPaymentScanGuard.matchesSession, Bool.and_eq_true, decide_eq_true_eq] at hmatches
  obtain ⟨⟨⟨⟨hstate, -⟩, -⟩, -⟩, hexpires⟩ := hmatches
  exact ⟨hstate.trans update.awaiting, hexpires⟩

/-- An update under a guard that holds. -/
theorem At.applyScanUpdate (hat : At s update.guard.sessionId session claim)
    (hsession : update.guard.matchesSession session = true)
    (hclaim : update.guard.matchesClaim claim = true) :
    ∃ t, applyScanUpdate scanToBlock update s =
        .ok (claim.scanned session update.payment scanToBlock nowMs) t ∧
      At t update.guard.sessionId (session.scanned update.payment scanToBlock nowMs)
        (claim.scanned session update.payment scanToBlock nowMs) ∧
      OnlySession update.guard.sessionId s t := by
  obtain ⟨hstate, hexpires⟩ := update.awaiting_of_matches hsession
  obtain ⟨t, hrun, hat', honly⟩ := hat.recordPayment update.payment scanToBlock nowMs
  obtain ⟨u, hrun', hat'', honly'⟩ := hat'.advanceAfterPayment update.paymentDetected hstate
    update.notRefunded (hexpires ▸ update.detected)
  refine ⟨u, ?_, hat'', honly.trans honly'⟩
  rw [Factory.applyScanUpdate, run_bind, run_get]
  simp only [run_bind]
  rw [ensurePaymentScanGuard_at hat, if_pos ⟨hsession, hclaim⟩]
  simp only [run_ofExcept_ok]
  rw [hrun]
  simp only
  rw [run_getSession hat'.session]
  exact hrun'

/-- An update whose guard fails writes nothing. -/
theorem applyScanUpdate_error (hstale : ∀ session claim, At s update.guard.sessionId session claim →
      ¬ (update.guard.matchesSession session = true ∧ update.guard.matchesClaim claim = true)) :
    ∃ e, applyScanUpdate scanToBlock update s = .error e s := by
  have hguard : ∃ e, ensurePaymentScanGuard s update.guard = .error e := by
    cases hsession : s.sessions[update.guard.sessionId]? with
    | none => exact ⟨_, by rw [ensurePaymentScanGuard, hsession]⟩
    | some session =>
      cases hclaim : s.escrowClaims[update.guard.sessionId]? with
      | none =>
        rw [ensurePaymentScanGuard, hsession]
        dsimp only
        split
        · exact ⟨_, rfl⟩
        · rw [hclaim]
          exact ⟨_, rfl⟩
      | some claim =>
        have hat : At s update.guard.sessionId session claim := ⟨hsession, hclaim⟩
        exact ⟨_, by rw [ensurePaymentScanGuard_at hat, if_neg (hstale session claim hat)]⟩
  obtain ⟨e, hguard⟩ := hguard
  refine ⟨e, ?_⟩
  rw [Factory.applyScanUpdate, run_bind, run_get]
  simp only [run_bind, hguard, run_ofExcept_error]

/-- The loop of `reconcile_escrow_payments` in the canister. -/
def canisterLoop (nowMs scanToBlock : ℕ) : ScanLoop (EscrowPaymentScanUpdate nowMs) where
  key update := update.guard.sessionId
  waiting _ := True
  payment update session claim :=
    if update.guard.matchesSession session = true ∧ update.guard.matchesClaim claim = true then
      some update.payment
    else none
  scanToBlock := scanToBlock
  nowMs := nowMs
  action := applyScanUpdate scanToBlock
  succeeds := by
    intro update s session claim observed hat _ hpayment
    split_ifs at hpayment with hmatches
    obtain rfl := Option.some.inj hpayment
    exact hat.applyScanUpdate hmatches.1 hmatches.2
  fails := by
    intro update s hnone
    refine applyScanUpdate_error fun session claim hat hmatches => ?_
    have h := hnone session claim hat
    rw [if_pos hmatches] at h
    cases h

/-- The closure of a scan in the canister: every planned update is written, or it stops at
one whose guard fails, with the cursor and the updates before it written. -/
theorem applyPaymentScan_cases {updates : List (EscrowPaymentScanUpdate nowMs)}
    (hnodup : (updates.map (·.guard.sessionId)).Nodup) (s : FactoryState) :
    (∃ claims t, applyPaymentScan updates scanToBlock s = .ok claims t ∧
      Scanned (canisterLoop nowMs scanToBlock) updates (s.withScanCursor scanToBlock) t) ∨
    ∃ before failing behind e t, updates = before ++ failing :: behind ∧
      Scanned (canisterLoop nowMs scanToBlock) before (s.withScanCursor scanToBlock) t ∧
      ScanFails (canisterLoop nowMs scanToBlock) s failing ∧
      applyPaymentScan updates scanToBlock s = .error e t := by
  rw [applyPaymentScan]
  simp only [run_bind, run_modify]
  have hdistinct : (updates.map (canisterLoop nowMs scanToBlock).key).Nodup := hnodup
  rcases (canisterLoop nowMs scanToBlock).run hdistinct (fun _ _ _ _ => trivial) with
    ⟨claims, t, hrun, hscanned⟩ | ⟨before, failing, behind, e, t, hsplit, hscanned, hfails, hrun⟩
  · refine .inl ⟨claims, t.syncPaymentPollJob nowMs, ?_,
      hscanned.of_sameButJobs (sameButJobs_syncPaymentPollJob t nowMs)⟩
    rw [show applyScanUpdate scanToBlock = (canisterLoop nowMs scanToBlock).action from rfl, hrun]
    rfl
  · refine .inr ⟨before, failing, behind, e, t, hsplit, hscanned,
      fun session claim hat => hfails session claim ⟨hat.session, hat.claim⟩, ?_⟩
    rw [show applyScanUpdate scanToBlock = (canisterLoop nowMs scanToBlock).action from rfl, hrun]

end Specs

end Automaton.Factory
