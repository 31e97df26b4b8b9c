import Automaton.Factory.CanisterScan
import Automaton.Factory.Sessions

/-!
# Payment scans that fail

A scan moves the stored cursor before its first check and writes session by session, and an
error keeps what is written. This is when a scan that fails leaves the cursor, the sessions
and the claims as they were.
-/

namespace Automaton.Factory

open Persist

/-- When the update fails, the cursor, the sessions and the claims are as before. -/
def Intact {α : Type} (m : Update α) (s : FactoryState) : Prop :=
  ∀ e t, m s = .error e t → t.paymentLastScannedBlock = s.paymentLastScannedBlock ∧
    t.sessions = s.sessions ∧ t.escrowClaims = s.escrowClaims

section Loops

variable {ι : Type} {loop : ScanLoop ι} {items : List ι} {s : FactoryState}

/-- The scan would store a session and its claim as they are stored already. -/
def Unmoved (loop : ScanLoop ι) (s : FactoryState) (item : ι) : Prop :=
  ∀ session claim observed, At s (loop.key item) session claim →
    loop.payment item session claim = some observed →
    session.scanned observed loop.scanToBlock loop.nowMs = session ∧
      claim.scanned session observed loop.scanToBlock loop.nowMs = claim

/-- No check fails; or the stored cursor is the scan height already, and the scan would move
none of the sessions before the first one whose checks fail. -/
def Undisturbed (loop : ScanLoop ι) (items : List ι) (s : FactoryState) : Prop :=
  (∀ item ∈ items, ¬ ScanFails loop s item) ∨
    (s.paymentLastScannedBlock = some loop.scanToBlock ∧
      ∀ before failing behind, items = before ++ failing :: behind →
        (∀ item ∈ before, ¬ ScanFails loop s item) → ScanFails loop s failing →
        ∀ item ∈ before, Unmoved loop s item)

/-- A list has one first element with a property. -/
theorem eq_of_first_split {P : ι → Prop} {before before' behind behind' : List ι} {item item' : ι}
    (h : before ++ item :: behind = before' ++ item' :: behind') (hbefore : ∀ i ∈ before, ¬ P i)
    (hitem : P item) (hbefore' : ∀ i ∈ before', ¬ P i) (hitem' : P item') : before = before' := by
  induction before generalizing before' with
  | nil =>
    cases before' with
    | nil => rfl
    | cons first rest =>
      obtain rfl : item = first := by simpa using (List.cons.inj h).1
      exact absurd hitem (hbefore' item (by simp))
  | cons first rest ih =>
    cases before' with
    | nil =>
      obtain rfl : first = item' := by simpa using (List.cons.inj h).1
      exact absurd hitem' (hbefore first (by simp))
    | cons first' rest' =>
      simp only [List.cons_append, List.cons.injEq] at h
      obtain ⟨rfl, h⟩ := h
      rw [ih h (fun i hi => hbefore i (by simp [hi])) fun i hi => hbefore' i (by simp [hi])]

/-- A session that was scanned has passed its checks. -/
theorem Scanned.not_fails {t : FactoryState}
    (h : Scanned loop items (s.withScanCursor loop.scanToBlock) t) :
    ∀ item ∈ items, ¬ ScanFails loop s item := by
  intro item hmem hfails
  obtain ⟨session, claim, observed, hat, -, hpayment, -⟩ := h.scanned item hmem
  rw [hfails session claim ⟨hat.session, hat.claim⟩] at hpayment
  cases hpayment

/-- A scan that moves no session keeps sessions and claims. -/
theorem Scanned.eq_of_unmoved {t : FactoryState}
    (h : Scanned loop items (s.withScanCursor loop.scanToBlock) t)
    (hunmoved : ∀ item ∈ items, Unmoved loop s item) :
    t.sessions = s.sessions ∧ t.escrowClaims = s.escrowClaims := by
  have hboth : ∀ other : String, t.sessions[other]? = s.sessions[other]? ∧
      t.escrowClaims[other]? = s.escrowClaims[other]? := by
    intro other
    by_cases hother : other ∈ items.map loop.key
    · obtain ⟨item, hmem, rfl⟩ := List.mem_map.mp hother
      obtain ⟨session, claim, observed, hat, -, hpayment, hat'⟩ := h.scanned item hmem
      obtain ⟨hsession, hclaim⟩ := hunmoved item hmem session claim observed
        ⟨hat.session, hat.claim⟩ hpayment
      rw [hsession, hclaim] at hat'
      exact ⟨hat'.session.trans hat.session.symm, hat'.claim.trans hat.claim.symm⟩
    · exact ⟨h.sessions other hother, h.claims other hother⟩
  exact ⟨Std.ExtTreeMap.ext_getElem? fun other => (hboth other).1,
    Std.ExtTreeMap.ext_getElem? fun other => (hboth other).2⟩

/-- A scan that keeps sessions and claims has moved none. -/
theorem Scanned.unmoved_of_eq {t : FactoryState}
    (h : Scanned loop items (s.withScanCursor loop.scanToBlock) t)
    (hsessions : t.sessions = s.sessions) (hclaims : t.escrowClaims = s.escrowClaims) :
    ∀ item ∈ items, Unmoved loop s item := by
  intro item hmem session claim observed hat hpayment
  obtain ⟨session', claim', observed', hat', -, hpayment', hafter⟩ := h.scanned item hmem
  obtain rfl := Option.some.inj (hat'.session.symm.trans hat.session)
  obtain rfl := Option.some.inj (hat'.claim.symm.trans hat.claim)
  obtain rfl := Option.some.inj (hpayment'.symm.trans hpayment)
  have hsession := hafter.session
  have hclaim := hafter.claim
  rw [hsessions, hat.session] at hsession
  rw [hclaims, hat.claim] at hclaim
  exact ⟨(Option.some.inj hsession).symm, (Option.some.inj hclaim).symm⟩

/-- A loop that stops at the first failing check leaves everything intact exactly when it is
undisturbed. -/
theorem intact_iff_undisturbed {α : Type} {m : Update α}
    (hcases : (∃ a t, m s = .ok a t ∧ Scanned loop items (s.withScanCursor loop.scanToBlock) t) ∨
      ∃ before failing behind e t, items = before ++ failing :: behind ∧
        Scanned loop before (s.withScanCursor loop.scanToBlock) t ∧ ScanFails loop s failing ∧
        m s = .error e t) : Intact m s ↔ Undisturbed loop items s := by
  rcases hcases with ⟨a, t, hrun, hscanned⟩ |
    ⟨before, failing, behind, e, t, rfl, hscanned, hfails, hrun⟩
  · constructor
    · exact fun _ => .inl hscanned.not_fails
    · intro _ e' t' herror
      rw [hrun] at herror
      cases herror
  · have hcursor : t.paymentLastScannedBlock = some loop.scanToBlock := by rw [hscanned.frame]; rfl
    constructor
    · intro hintact
      obtain ⟨hsame, hsessions, hclaims⟩ := hintact e t hrun
      refine .inr ⟨hsame.symm.trans hcursor, ?_⟩
      intro before' failing' behind' hsplit hpass hfails'
      rw [← eq_of_first_split hsplit hscanned.not_fails hfails hpass hfails']
      exact hscanned.unmoved_of_eq hsessions hclaims
    · rintro (hpass | ⟨hstored, hunmoved⟩) e' t' herror
      · exact absurd hfails (hpass failing (by simp))
      · rw [hrun] at herror
        cases herror
        obtain ⟨hsessions, hclaims⟩ := hscanned.eq_of_unmoved
          (hunmoved before failing behind rfl hscanned.not_fails hfails)
        exact ⟨hcursor.trans hstored.symm, hsessions, hclaims⟩

end Loops

/-- The condition on the host: the logs cannot be grouped, or the loop is undisturbed. -/
def HostUndisturbed (logs : List BaseDepositLog) (blockHashes : BlockHashes)
    (scanToBlock nowMs : ℕ) (s : FactoryState) : Prop :=
  ∀ amounts, amountsByClaim logs = .ok amounts →
    Undisturbed (hostLoop amounts s.paymentEndpoints blockHashes scanToBlock nowMs)
      (activeSessionIds s) s

/-- The scan on the host. -/
theorem intact_reconcile_iff (logs : List BaseDepositLog) (blockHashes : BlockHashes)
    (scanToBlock nowMs : ℕ) (s : FactoryState) :
    Intact (reconcileEscrowPayments logs blockHashes scanToBlock nowMs) s ↔
      HostUndisturbed logs blockHashes scanToBlock nowMs s := by
  rcases reconcileEscrowPayments_cases logs blockHashes scanToBlock nowMs s with
    ⟨e, hgroup, hrun⟩ | ⟨amounts, hgroup, hcases⟩
  · constructor
    · intro _ amounts hamounts
      rw [hgroup] at hamounts
      cases hamounts
    · intro _ e' t herror
      rw [hrun] at herror
      cases herror
      exact ⟨rfl, rfl, rfl⟩
  · rw [intact_iff_undisturbed hcases]
    constructor
    · intro h amounts' hamounts
      rw [hgroup] at hamounts
      exact Except.ok.inj hamounts ▸ h
    · exact fun h => h amounts hgroup

/-- On the host and in the canister, a scan that fails leaves the cursor, the sessions and the
claims as they were exactly when the logs cannot be grouped, or no check fails, or the stored
cursor is the scan height already and the sessions before the failing one are stored already
as the scan stores them. -/
theorem failed_scan_intact_iff (scanToBlock nowMs : ℕ) (s : FactoryState) :
    (∀ logs blockHashes,
      Intact (reconcileEscrowPayments logs blockHashes scanToBlock nowMs) s ↔
        HostUndisturbed logs blockHashes scanToBlock nowMs s) ∧
    ∀ updates : List (EscrowPaymentScanUpdate nowMs),
      (updates.map (·.guard.sessionId)).Nodup →
        (Intact (applyPaymentScan updates scanToBlock) s ↔
          Undisturbed (canisterLoop nowMs scanToBlock) updates s) := by
  constructor
  · intro logs blockHashes
    exact intact_reconcile_iff logs blockHashes scanToBlock nowMs s
  · intro updates hnodup
    exact intact_iff_undisturbed (applyPaymentScan_cases hnodup s)

/-- A planned update for the first session, from a snapshot that is not current any more. -/
def staleUpdate : EscrowPaymentScanUpdate 2 where
  guard := {
    sessionId := firstId
    sessionState := .awaitingPayment
    sessionPaymentStatus := .unpaid
    sessionUpdatedAt := 0
    sessionLastScannedBlock := none
    sessionExpiresAt := 1800001
    claimPaymentStatus := .unpaid
    claimUpdatedAt := 0
    claimLastScannedBlock := none
    claimPaidAmount := "0"
    claimPaymentEvidenceBlockNumber := none
    claimPaymentEvidenceBlockHash := none }
  payment := ⟨⟨[], 0, 0, none⟩, .unpaid⟩
  paymentDetected := false
  awaiting := rfl
  unsettled := by decide
  notRefunded := by decide
  detected := by decide

/-- In the canister, a stale update whose scan height is stored already leaves everything
intact. -/
theorem staleUpdate_intact : Intact (applyPaymentScan [staleUpdate] 9)
    (FactoryState.default.withScanCursor 9) := by
  refine ((failed_scan_intact_iff 9 2 _).2 [staleUpdate] (by simp)).mpr (.inr ⟨rfl, ?_⟩)
  intro before failing behind hsplit _ _
  cases before with
  | nil => simp
  | cons first rest =>
    have hlength := congrArg List.length hsplit
    simp at hlength

/-- A factory with an endpoint and one session. -/
def sampleOnline : FactoryState :=
  after (createSample firstId 1) { FactoryState.default with
    baseRpcEndpoint := some "https://mainnet.base.org" }

/-- A deposit that pays the first session in full. -/
def fullDeposit : BaseDepositLog where
  claimId := sampleExternals.deriveClaimId firstId
  amount := "50000000"
  blockNumber := 5
  blockHash := "0xb5"

/-- The block hash cannot be looked up. -/
def unavailable : BlockHashes := fun _ _ =>
  .error (.rpcRequestFailed "eth_getBlockByNumber" "https://mainnet.base.org" .unavailable none "")

/-- A look-up that fails moves the cursor behind the deposit. -/
theorem unavailable_not_intact :
    ¬ ∀ logs blockHashes scanToBlock nowMs s,
      Intact (reconcileEscrowPayments logs blockHashes scanToBlock nowMs) s := by
  intro h
  have hoffline : (outcome (reconcileEscrowPayments [fullDeposit] unavailable 9 2)
      sampleOnline).isOk = false := by decide +kernel
  have hcursor : (after (reconcileEscrowPayments [fullDeposit] unavailable 9 2)
      sampleOnline).paymentLastScannedBlock = some 9 := by decide +kernel
  have hbefore : sampleOnline.paymentLastScannedBlock = none := by decide +kernel
  unfold outcome at hoffline
  unfold after at hcursor
  cases hrun : reconcileEscrowPayments [fullDeposit] unavailable 9 2 sampleOnline with
  | ok claims t =>
    rw [hrun] at hoffline
    cases hoffline
  | error e t =>
    rw [hrun] at hcursor
    have hsame := (h [fullDeposit] unavailable 9 2 sampleOnline e t hrun).1
    rw [hbefore] at hsame
    dsimp only at hcursor
    rw [hsame] at hcursor
    cases hcursor

end Automaton.Factory
