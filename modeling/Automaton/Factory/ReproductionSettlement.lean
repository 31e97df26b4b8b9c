import Automaton.Evm.ReproductionPayout
import Automaton.Factory.Reproduction
import Automaton.Factory.SessionWrites

/-!
# Settlement of reproductions

What the child, the royalties and the creation of a reproduction need is fixed at admission. It fits
the gross amount exactly when fee, cost and endowment fit 128 bits together, and later writes keep
the terms of the session.
-/

namespace Automaton.Factory

open Evm Machine Persist Transition

/-- The amounts that a release passes to the contract. -/
def ReproductionRelease.Splits (release : ReproductionRelease) (split : ReproductionSplit) :
    Prop :=
  split.childAmount = release.childAmount ∧ split.royaltyAmountOne = release.royaltyOneAmount ∧
    split.royaltyAmountTwo = release.royaltyTwoAmount

/-- A deposit of the gross amount, or more, is enough for a release. -/
structure SettlesDeposits (release : ReproductionRelease) (gross : ℕ) : Prop where
  /-- The checks of the amounts pass. -/
  passes : ∀ {d : Deployment} (msgSender : Sender d) permits (s : EscrowState) claimId split,
    release.Splits split → gross ≤ s.claimBalances claimId →
      releaseReproduction msgSender permits s claimId split ≠ .error .invalidAmount ∧
        releaseReproduction msgSender permits s claimId split ≠ .error .arithmeticOverflow
  /-- The platform gets exactly what is left. -/
  pays : ∀ {d : Deployment} (msgSender : Sender d) permits (s s' : EscrowState) claimId split,
    release.Splits split →
      releaseReproduction msgSender permits s claimId split = .ok s' →
        s'.usdc.transfers = s.usdc.transfers ++
          split.payments d (s.claimBalances claimId - split.distributed)
  /-- What nothing else stops is settled. -/
  settles : ∀ {d : Deployment} (msgSender : Sender d) permits (s : EscrowState) claimId split,
    release.Splits split → gross ≤ s.claimBalances claimId → msgSender.address = d.releaser →
      split.child ≠ 0 → split.royaltyRecipientOne ≠ 0 → split.royaltyRecipientTwo ≠ 0 →
        s.releasedClaims claimId = false → (∀ transfer, permits transfer = true) →
          s.claimBalances claimId ≤ s.usdc.balances d.escrow →
            ∃ s', releaseReproduction msgSender permits s claimId split = .ok s'

/-- The release of a session fits its gross amount. -/
def SettlementFits (session : SpawnSession) : Prop :=
  ∃ release gross platformFee creationCost,
    reproductionRelease session = .ok (some release) ∧
      parseAmount session.grossAmount = .ok gross ∧
      parseAmount session.platformFee = .ok platformFee ∧
      parseAmount session.creationCost = .ok creationCost ∧
      reproductionMinEndowmentUsdcRaw ≤ release.childAmount ∧
      release.childAmount + release.royaltyOneAmount + release.royaltyTwoAmount + creationCost ≤
        gross ∧
      100 * (release.royaltyOneAmount + release.royaltyTwoAmount) ≤ 15 * platformFee ∧
      SettlesDeposits release gross

/-- Fee, cost and endowment fit 128 bits together. -/
def EndowmentFits (state : FactoryState) : Prop :=
  ∀ platformFee creationCost, parseAmount state.usdcFee = .ok platformFee →
    parseAmount state.usdcCreationCost = .ok creationCost →
      platformFee + creationCost + reproductionMinEndowmentUsdcRaw ≤ u128Max

section Royalties

variable {fee bps : ℕ}

theorem royaltyValue_le_u128Max : royaltyValue fee bps ≤ u128Max :=
  (Nat.div_le_self _ _).trans (min_le_right _ _)

/-- A royalty is at most its share of the fee. -/
theorem royaltyValue_le : 10000 * royaltyValue fee bps ≤ fee * bps :=
  (Nat.mul_div_le _ _).trans (min_le_left _ _)

/-- Both royalties are at most fifteen percent. -/
theorem royalties_le :
    100 * (royaltyValue fee reproductionParentRoyaltyBps +
      royaltyValue fee reproductionProgenitorRoyaltyBps) ≤ 15 * fee := by
  have hparent : 10000 * royaltyValue fee reproductionParentRoyaltyBps ≤
      fee * reproductionParentRoyaltyBps := royaltyValue_le
  have hprogenitor : 10000 * royaltyValue fee reproductionProgenitorRoyaltyBps ≤
      fee * reproductionProgenitorRoyaltyBps := royaltyValue_le
  unfold reproductionParentRoyaltyBps at hparent ⊢
  unfold reproductionProgenitorRoyaltyBps at hprogenitor ⊢
  omega

end Royalties

/-- A release that fits settles deposits. -/
theorem settlesDeposits_of_le {release : ReproductionRelease} {gross : ℕ}
    (hchild : 0 < release.childAmount)
    (hcovered : release.childAmount + release.royaltyOneAmount + release.royaltyTwoAmount ≤ gross)
    (hgross : gross ≤ u128Max) : SettlesDeposits release gross := by
  have hdistributed : ∀ split, release.Splits split → split.distributed ≤ gross := by
    rintro split ⟨hone, htwo, hthree⟩
    unfold ReproductionSplit.distributed
    omega
  have hfits : u128Max ≤ uint256Max := by decide
  constructor
  · intro d msgSender permits s claimId split hsplit hdeposit
    have hle := hdistributed split hsplit
    exact releaseReproduction_passes (by omega) (by rw [hsplit.1]; exact hchild) (by omega)
  · intro d msgSender permits s s' claimId split hsplit hrun
    exact releaseReproduction_pays hrun
  · intro d msgSender permits s claimId split hsplit hdeposit hsender hzero hone htwo hreleased
      hpermits htokens
    have hle := hdistributed split hsplit
    exact releaseReproduction_accepted hsender hzero hone htwo hreleased hpermits htokens
      (by omega) (by rw [hsplit.1]; exact hchild) (by omega)

section Admission

variable {libraries : Libraries} {state t : FactoryState} {caller sessionId : String}
  {request : CreateReproductionSessionRequest} {nowMs verifiedParentUsdcBalance : ℕ}
  {session : SpawnSession}

/-- The smallest gross amount, as admission computes it. -/
def minimumGross (platformFee creationCost : ℕ) : ℕ :=
  saturatingAdd u128Max (saturatingAdd u128Max platformFee creationCost)
    reproductionMinEndowmentUsdcRaw

/-- The gross amount covers fee, cost and endowment, as admission adds them. -/
theorem minimumGross_le_of_ensureEndowment {source : ReproductionParent} {grossAmount : String}
    (h : ensureEndowment source grossAmount verifiedParentUsdcBalance = .ok ()) :
    ∃ gross, parseAmount grossAmount = .ok gross ∧
      minimumGross source.platformFee source.creationCost ≤ gross := by
  unfold ensureEndowment at h
  obtain ⟨gross, hgross, h⟩ := Fallible.bind_eq_ok.mp h
  refine ⟨gross, hgross, ?_⟩
  by_contra hsmall
  have hlt : gross < minimumGross source.platformFee source.creationCost := by omega
  unfold minimumGross at hlt
  dsimp only at h
  rw [if_pos hlt] at h
  cases h

/-- What admission makes sure of, and what it passes on. -/
theorem admitReproduction_spec {createRequest : CreateSpawnSessionRequest} {origin : SessionOrigin}
    (h : admitReproduction libraries state caller request nowMs verifiedParentUsdcBalance =
      .ok (createRequest, origin)) :
    ∃ source gross, parseAmount state.usdcFee = .ok source.platformFee ∧
      parseAmount state.usdcCreationCost = .ok source.creationCost ∧
      parseAmount request.grossAmount = .ok gross ∧
      minimumGross source.platformFee source.creationCost ≤ gross ∧
      createRequest.grossAmount = request.grossAmount ∧
      origin.origin = .reproductionOf caller ∧
      origin.royaltyAllocations = reproductionRoyalties state source := by
  unfold admitReproduction at h
  obtain ⟨-, -, h⟩ := Fallible.bind_eq_ok.mp h
  obtain ⟨genesis, -, h⟩ := Fallible.bind_eq_ok.mp h
  obtain ⟨source, hsource, h⟩ := Fallible.bind_eq_ok.mp h
  obtain ⟨-, -, h⟩ := Fallible.bind_eq_ok.mp h
  obtain ⟨hash, -, h⟩ := Fallible.bind_eq_ok.mp h
  obtain ⟨_, hendowment, h⟩ := Fallible.bind_eq_ok.mp h
  obtain ⟨rfl, rfl⟩ := Prod.mk.inj (Except.ok.inj h)
  have hamounts : parseAmount state.usdcFee = .ok source.platformFee ∧
      parseAmount state.usdcCreationCost = .ok source.creationCost := by
    unfold readReproductionParent at hsource
    split at hsource
    · cases hsource
    · split at hsource
      · cases hsource
      · split at hsource
        · cases hsource
        · obtain ⟨platformFee, hfee, hsource⟩ := Fallible.bind_eq_ok.mp hsource
          obtain ⟨creationCost, hcost, hsource⟩ := Fallible.bind_eq_ok.mp hsource
          obtain rfl := Except.ok.inj hsource
          exact ⟨hfee, hcost⟩
  obtain ⟨gross, hgross, hminimum⟩ := minimumGross_le_of_ensureEndowment hendowment
  exact ⟨source, gross, hamounts.1, hamounts.2, hgross, hminimum, rfl, rfl, rfl⟩

/-- What passes the checks one by one is admitted. -/
theorem admitReproduction_isOk {source : ReproductionParent} {genesis : String × String}
    {hash : String}
    (hinheritance : SpawnProtocol.validateInheritance request.memoryDowry
      request.inheritedStrategyStats = .ok ())
    (hgenesis : libraries.validateGenesis request.name request.childConstitution = .ok genesis)
    (hparent : readReproductionParent state caller = .ok source)
    (hage : ensureReproductionAge source nowMs = .ok ())
    (hconstitutions : ensureConstitutions libraries source request.parentConstitution genesis.2 =
      .ok hash)
    (hendowment : ensureEndowment source request.grossAmount verifiedParentUsdcBalance = .ok ()) :
    admitReproduction libraries state caller request nowMs verifiedParentUsdcBalance = .ok
      ({ name := some request.name
         constitution := some genesis.2
         stewardAddress := source.parent.evmAddress
         asset := .usdc
         grossAmount := request.grossAmount
         parentId := some caller
         config := source.parentSession.config },
        { origin := .reproductionOf caller
          generation := saturatingAdd u32Max (source.parent.generation.getD 0) 1
          parentConstitutionHash := some hash
          royaltyAllocations := reproductionRoyalties state source }) := by
  unfold admitReproduction
  rw [hinheritance, hgenesis, Fallible.bind_eq_ok]
  refine ⟨(), rfl, ?_⟩
  rw [Fallible.bind_eq_ok]
  refine ⟨genesis, rfl, ?_⟩
  rw [Fallible.bind_eq_ok]
  refine ⟨source, hparent, ?_⟩
  rw [Fallible.bind_eq_ok]
  refine ⟨(), hage, ?_⟩
  rw [Fallible.bind_eq_ok]
  refine ⟨hash, hconstitutions, ?_⟩
  rw [hendowment]
  rfl

theorem grossAmount_of_checkRequest {externals : SessionExternals}
    {createRequest checked : CreateSpawnSessionRequest} {origin : SpawnSessionOrigin}
    (h : checkRequest externals createRequest origin = .ok checked) :
    checked.grossAmount = createRequest.grossAmount := by
  unfold checkRequest at h
  obtain ⟨-, -, h⟩ := Fallible.bind_eq_ok.mp h
  split at h
  · cases h
  · cases h
  · split at h
    · cases h
    · obtain rfl := Except.ok.inj h
      rfl

/-- An admitted session, as it is built and stored. -/
theorem reproductionSession_spec
    (h : createReproductionSessionWithVerifiedBalance libraries caller request nowMs sessionId
      verifiedParentUsdcBalance state = .ok session t) :
    ∃ source gross checked amounts origin,
      parseAmount state.usdcFee = .ok source.platformFee ∧
      parseAmount state.usdcCreationCost = .ok source.creationCost ∧
      parseAmount request.grossAmount = .ok gross ∧
      minimumGross source.platformFee source.creationCost ≤ gross ∧
      checked.grossAmount = request.grossAmount ∧
      quoteAmounts state request.grossAmount = .ok amounts ∧
      origin.origin = .reproductionOf caller ∧
      origin.royaltyAllocations = reproductionRoyalties state source ∧
      session = newSession libraries.toSessionExternals state checked amounts sessionId origin
        nowMs ∧ t.sessions[sessionId]? = some session := by
  unfold createReproductionSessionWithVerifiedBalance at h
  rw [run_bind, run_get] at h
  dsimp only at h
  cases hpermit : admitReproduction libraries state caller request nowMs
      verifiedParentUsdcBalance with
  | error error =>
    rw [hpermit, run_bind, run_ofExcept_error] at h
    cases h
  | ok admitted =>
    obtain ⟨createRequest, origin⟩ := admitted
    rw [hpermit, run_bind, run_ofExcept_ok] at h
    dsimp only at h
    obtain ⟨source, gross, hfee, hcost, hgross, hminimum, hrequest, horigin, hroyalties⟩ :=
      admitReproduction_spec hpermit
    rw [run_bind] at h
    by_cases hpermits : Admitted libraries.toSessionExternals createRequest origin state
    · obtain ⟨checked, amounts, hchecked, hquote⟩ := hpermits
      have hsame := (grossAmount_of_checkRequest hchecked).trans hrequest
      have hquoted := quoteAmounts_of_admitSession hquote
      rw [hsame] at hquoted
      by_cases haudit : state.auditLog[sessionId]?.getD [] = []
      · rw [run_create_of_no_audit hchecked hquote haudit] at h
        obtain ⟨rfl, rfl⟩ := EStateM.Result.ok.inj h
        refine ⟨source, gross, checked, amounts, origin, hfee, hcost, hgross, hminimum, hsame,
          hquoted, horigin, hroyalties, rfl, ?_⟩
        have hstored : (state.created (newSession libraries.toSessionExternals state checked amounts
            sessionId origin nowMs) nowMs).sessions[sessionId]? = some _ :=
          (getElem?_created_sessions sessionId).trans (if_pos rfl)
        exact hstored
      · rw [run_create_of_audit hchecked hquote haudit] at h
        cases h
    · obtain ⟨error, hrun⟩ := run_create_of_not_admitted hpermits
      rw [hrun] at h
      cases h

end Admission

section Amounts

variable {externals : SessionExternals} {state : FactoryState} {source : ReproductionParent}
  {checked : CreateSpawnSessionRequest} {amounts : QuoteAmounts} {sessionId caller : String}
  {origin : SessionOrigin} {nowMs : ℕ}

/-- The release that an admitted session is built with. -/
theorem reproductionRelease_newSession (externals : SessionExternals)
    (checked : CreateSpawnSessionRequest) (sessionId : String) (nowMs : ℕ)
    (horigin : origin.origin = .reproductionOf caller)
    (hroyalties : origin.royaltyAllocations = reproductionRoyalties state source)
    (hnet : amounts.netForward ≤ u128Max) :
    ∃ release, reproductionRelease (newSession externals state checked amounts sessionId origin
        nowMs) = .ok (some release) ∧
      release.childAmount = amounts.netForward ∧
      release.royaltyOneAmount = royaltyValue source.platformFee reproductionParentRoyaltyBps ∧
      release.royaltyTwoAmount =
        royaltyValue source.platformFee reproductionProgenitorRoyaltyBps := by
  unfold reproductionRelease newSession
  dsimp only
  rw [horigin, hroyalties]
  simp only [Option.getD_some, reproductionRoyalties, royaltyAmount]
  rw [parseAmount_amountToString hnet, parseAmount_amountToString royaltyValue_le_u128Max,
    parseAmount_amountToString royaltyValue_le_u128Max]
  exact ⟨_, rfl, rfl, rfl, rfl⟩

/-- The release of an admitted session fits its gross amount exactly when fee, cost and endowment
fit 128 bits together. -/
theorem settlementFits_newSession {gross : ℕ}
    (hfee : parseAmount state.usdcFee = .ok source.platformFee)
    (hcost : parseAmount state.usdcCreationCost = .ok source.creationCost)
    (hgross : parseAmount checked.grossAmount = .ok gross)
    (hminimum : minimumGross source.platformFee source.creationCost ≤ gross)
    (hquote : quoteAmounts state checked.grossAmount = .ok amounts)
    (horigin : origin.origin = .reproductionOf caller)
    (hroyalties : origin.royaltyAllocations = reproductionRoyalties state source) :
    SettlementFits (newSession externals state checked amounts sessionId origin nowMs) ↔
      source.platformFee + source.creationCost + reproductionMinEndowmentUsdcRaw ≤ u128Max := by
  obtain ⟨gross', hgross', hfee', hcost', hcovered, hnet⟩ := quoteAmounts_spec hquote
  obtain rfl := Except.ok.inj (hgross.symm.trans hgross')
  have hsameFee := Except.ok.inj (hfee.symm.trans hfee')
  have hsameCost := Except.ok.inj (hcost.symm.trans hcost')
  have hgrossFits := parseAmount_le hgross
  have hfeeFits := parseAmount_le hfee'
  have hcostFits := parseAmount_le hcost'
  rw [hsameFee, hsameCost] at hminimum ⊢
  have hnetFits : amounts.netForward ≤ u128Max := by omega
  obtain ⟨release, hrelease, hchild, hone, htwo⟩ :=
    reproductionRelease_newSession externals checked sessionId nowMs horigin hroyalties hnetFits
  constructor
  · rintro ⟨release', gross', platformFee, creationCost, hrelease', hgross'', hfee'', hcost'',
      hendowment, hcoveredBy, -, -⟩
    obtain rfl := Option.some.inj (Except.ok.inj (hrelease.symm.trans hrelease'))
    obtain rfl := Except.ok.inj (hgross.symm.trans hgross'')
    obtain rfl := eq_of_parseAmount_amountToString hcost''
    rw [hchild] at hendowment hcoveredBy
    by_contra hover
    have hmax : gross = u128Max := by
      unfold minimumGross saturatingAdd at hminimum
      omega
    -- a sum that fits leaves too little for the child; a sum that wraps leaves more than there is
    by_cases hfits : amounts.platformFee + amounts.creationCost ≤ u128Max
    · have hexact := wrappingAdd_of_le hfits
      omega
    · have hwrapped := wrappingAdd_of_lt hfeeFits hcostFits (Nat.lt_of_not_le hfits)
      omega
  · intro hfits
    have hexact : wrappingAdd u128Max amounts.platformFee amounts.creationCost =
        amounts.platformFee + amounts.creationCost := wrappingAdd_of_le (by omega)
    have hgrossCovers : amounts.platformFee + amounts.creationCost +
        reproductionMinEndowmentUsdcRaw ≤ gross := by
      unfold minimumGross saturatingAdd at hminimum
      omega
    have hroyaltiesFit := @royalties_le amounts.platformFee
    rw [← hsameFee] at hroyaltiesFit
    rw [← hone, ← htwo, hsameFee] at hroyaltiesFit
    have hendowed : reproductionMinEndowmentUsdcRaw ≤ release.childAmount := by omega
    have hpositive : 0 < release.childAmount :=
      lt_of_lt_of_le (by decide : 0 < reproductionMinEndowmentUsdcRaw) hendowed
    exact ⟨release, gross, amounts.platformFee, amounts.creationCost, hrelease, hgross,
      parseAmount_amountToString hfeeFits, parseAmount_amountToString hcostFits, hendowed,
      by omega, hroyaltiesFit, settlesDeposits_of_le hpositive (by omega) hgrossFits⟩

end Amounts

section Runs

variable {libraries : Libraries} {s t : FactoryState} {sessionId other : String}
  {session session' : SpawnSession}

/-- A settlement depends on the terms only. -/
theorem settlementFits_congr (h : SameTerms session session') :
    SettlementFits session' ↔ SettlementFits session := by
  unfold SettlementFits reproductionRelease
  rw [h.origin, h.royaltyAllocations, h.netForwardAmount, h.grossAmount, h.platformFee,
    h.creationCost]

/-- The act creates a session under this id. -/
def FactoryAct.Creates (sessionId : String) (act : FactoryAct) : Prop :=
  ∃ request origin nowMs, act = .write (.createSpawnSession request sessionId origin nowMs)

/-- The steps that create no session under this id. -/
def KeepsId (libraries : Libraries) (sessionId : String) :
    FactoryState → FactoryAct → FactoryState → Prop :=
  Restrict (FactoryAct.Step libraries) fun _ act => ¬ act.Creates sessionId

/-- A creation leaves the other sessions as they are. -/
theorem getElem?_sessions_create {externals : SessionExternals}
    {request : CreateSpawnSessionRequest} {origin : SessionOrigin} {nowMs : ℕ}
    (hother : other ≠ sessionId) :
    (after (createSpawnSessionWithSessionId externals request sessionId origin nowMs)
      s).sessions[other]? = s.sessions[other]? := by
  by_cases hpermits : Admitted externals request origin s
  · obtain ⟨checked, amounts, hrequest, hquote⟩ := hpermits
    by_cases haudit : s.auditLog[sessionId]?.getD [] = []
    · rw [after_of_ok (run_create_of_no_audit hrequest hquote haudit),
        getElem?_created_sessions, if_neg hother]
    · rw [after_of_error (run_create_of_audit hrequest hquote haudit),
        FactoryState.insertSession_sessions, BTreeMap.get?_insert]
      exact if_neg (Ne.symm hother)
  · obtain ⟨error, hrun⟩ := run_create_of_not_admitted hpermits
    rw [after_of_error hrun]

/-- The session keeps its terms. -/
def StoresTerms (sessionId : String) (session : SpawnSession) (state : FactoryState) : Prop :=
  ∃ stored, state.sessions[sessionId]? = some stored ∧ SameTerms session stored

/-- An elementary write that creates nothing keeps the terms. -/
theorem StoresTerms.write {kind : OpKind} (h : StoresTerms sessionId session s)
    (hwrite : Write kind s t) (hkind : kind ≠ .creation) : StoresTerms sessionId session t := by
  obtain ⟨stored, hstored, hterms⟩ := h
  rcases hwrite.writesSession sessionId with hwrites | ⟨hcreation, -⟩
  · rcases hwrites with ⟨hnone, -⟩ | ⟨before, written, hbefore, hwritten, hsession⟩
    · rw [hstored] at hnone
      cases hnone
    · obtain rfl := Option.some.inj (hstored.symm.trans hbefore)
      exact ⟨written, hwritten, hterms.trans hsession.sameTerms⟩
  · exact absurd hcreation hkind

/-- One step keeps the terms, unless it creates a session under this id. -/
theorem StoresTerms.step {act : FactoryAct} (h : StoresTerms sessionId session s)
    (hstep : KeepsId libraries sessionId s act t) : StoresTerms sessionId session t := by
  obtain ⟨hstep, hother⟩ := hstep
  cases act with
  | configure =>
    obtain ⟨stored, hstored, hterms⟩ := h
    exact ⟨stored, by rw [hstep.1]; exact hstored, hterms⟩
  | write op =>
    obtain rfl : t = op.apply libraries s := hstep
    by_cases hkind : op.kind = .creation
    · cases op with
      | createSpawnSession request created origin nowMs =>
        have hne : sessionId ≠ created := by
          rintro rfl
          exact hother ⟨request, origin, nowMs, rfl⟩
        obtain ⟨stored, hstored, hterms⟩ := h
        exact ⟨stored, (getElem?_sessions_create hne).trans hstored, hterms⟩
      | _ => cases hkind
    · exact Writes.within (R := fun s t => StoresTerms sessionId session s →
        StoresTerms sessionId session t) (fun _ => id) (fun h h' => h' ∘ h)
        (fun hwrite hs => hs.write hwrite hkind) (writes_perform libraries op s) h

/-- So do runs. -/
theorem StoresTerms.run {start : FactoryState} (h : StoresTerms sessionId session start)
    (hreach : Reachable (· = start) (KeepsId libraries sessionId) t) :
    StoresTerms sessionId session t := by
  refine hreach.invariant ?_ ?_
  · rintro state rfl
    exact h
  · intro u act v hu hstep
    exact hu.step hstep

end Runs

/-- A reproduction that is admitted, and that the creation of its session accepts, succeeds. -/
theorem exists_created {libraries : Libraries} {state : FactoryState}
    {caller sessionId : String} {request : CreateReproductionSessionRequest}
    {nowMs verifiedParentUsdcBalance : ℕ} {createRequest : CreateSpawnSessionRequest}
    {origin : SessionOrigin}
    (hpermit : admitReproduction libraries state caller request nowMs verifiedParentUsdcBalance =
      .ok (createRequest, origin))
    (hcreation : Admitted libraries.toSessionExternals createRequest origin state)
    (haudit : state.auditLog[sessionId]?.getD [] = []) :
    ∃ session t, createReproductionSessionWithVerifiedBalance libraries caller request nowMs
      sessionId verifiedParentUsdcBalance state = .ok session t := by
  obtain ⟨checked, amounts, hchecked, hquote⟩ := hcreation
  unfold createReproductionSessionWithVerifiedBalance
  rw [run_bind, run_get]
  dsimp only
  rw [hpermit, run_bind, run_ofExcept_ok]
  dsimp only
  rw [run_bind, run_create_of_no_audit hchecked hquote haudit]
  exact ⟨_, _, rfl⟩

/-- An admitted session is stored, and its release fits exactly when fee, cost and endowment fit 128
bits together. -/
theorem settlementFits_of_admitted {libraries : Libraries} {state t : FactoryState}
    {caller sessionId : String} {request : CreateReproductionSessionRequest}
    {nowMs verifiedParentUsdcBalance : ℕ} {session : SpawnSession}
    (h : createReproductionSessionWithVerifiedBalance libraries caller request nowMs sessionId
      verifiedParentUsdcBalance state = .ok session t) :
    t.sessions[sessionId]? = some session ∧ (SettlementFits session ↔ EndowmentFits state) := by
  obtain ⟨source, gross, checked, amounts, origin, hfee, hcost, hgross, hminimum, hsame, hquote,
    horigin, hroyalties, rfl, hstored⟩ := reproductionSession_spec h
  rw [← hsame] at hgross hquote
  refine ⟨hstored, ?_⟩
  rw [settlementFits_newSession hfee hcost hgross hminimum hquote horigin hroyalties]
  constructor
  · intro hfits platformFee creationCost hfee' hcost'
    obtain rfl := Except.ok.inj (hfee.symm.trans hfee')
    obtain rfl := Except.ok.inj (hcost.symm.trans hcost')
    exact hfits
  · intro hfits
    exact hfits _ _ hfee hcost

/-- The constitution of the samples. -/
def sampleConstitution : String := String.ofList (List.replicate 400 'a')

/-- The libraries of the samples, with the hash of the sample constitution. -/
def reproductionLibraries : Libraries :=
  { sampleLibraries with
    sha256Hex := fun text =>
      if text = sampleConstitution then
        "abd5e54be3f59d8ee4943b2380def17f546e604cc51da8b9c93f591f205e75db"
      else "" }

/-- The canister of the sample parent. -/
def founderId : String := "rrkah-fqaaa-aaaaa-aaaaq-cai"

/-- The completed session of the sample parent. -/
def founderSession : SpawnSession :=
  { newSession sampleExternals .default sampleRequest ⟨5000000, 45000000, 0⟩ firstId humanOrigin 1
    with state := .complete, paymentStatus := .paid, automatonCanisterId := some founderId }

/-- The sample parent. -/
def founder : SpawnedAutomatonRecord where
  name := some "Meridian"
  constitutionHash := some "abd5e54be3f59d8ee4943b2380def17f546e604cc51da8b9c93f591f205e75db"
  canisterId := founderId
  stewardAddress := "0x3333333333333333333333333333333333333333"
  evmAddress := "0x4444444444444444444444444444444444444444"
  chain := .base
  sessionId := firstId
  parentId := none
  generation := some 0
  parentConstitutionHash := none
  royaltyAllocations := none
  childIds := []
  createdAt := 1
  versionCommit := "dev-build"
  controllers := none
  controlStatus := none
  controlVerifiedAt := none
  deathCause := none

/-- A factory with the sample parent, at some creation cost. -/
def founderState (usdcCreationCost : String) : FactoryState :=
  { FactoryState.default with
    sessions := (∅ : BTreeMap String SpawnSession).insert firstId founderSession
    registry := (∅ : BTreeMap String SpawnedAutomatonRecord).insert founderId founder
    usdcCreationCost := usdcCreationCost }

/-- The sample parent asks for a child with its own constitution. -/
def childRequest (grossAmount : String) : CreateReproductionSessionRequest where
  name := "Meridian II"
  parentConstitution := sampleConstitution
  childConstitution := sampleConstitution
  grossAmount := grossAmount
  memoryDowry := [⟨"origin", "Meridian"⟩]
  inheritedStrategyStats := []

/-- The time of the sample request. -/
def childRequestedAt : ℕ := 700000000

/-- A text of one letter has no white space around it. -/
theorem trim_replicate {letter : Char} (hletter : Text.isWhitespace letter = false) (n : ℕ) :
    Text.trim (String.ofList (List.replicate n letter)) =
      String.ofList (List.replicate n letter) := by
  apply Text.trim_eq_self
  · intro c hc
    rw [String.toList_ofList] at hc
    rw [List.eq_of_mem_replicate (List.mem_of_mem_head? hc)]
    exact hletter
  · intro c hc
    rw [String.toList_ofList] at hc
    rw [List.eq_of_mem_replicate (List.mem_of_mem_getLast? hc)]
    exact hletter

theorem trim_sampleConstitution : Text.trim sampleConstitution = sampleConstitution :=
  trim_replicate (by decide) 400

theorem length_sampleConstitution : sampleConstitution.toList.length = 400 :=
  (congrArg List.length String.toList_ofList).trans List.length_replicate

/-- What is read for the sample request. -/
theorem founder_read {usdcCreationCost : String} {creationCost : ℕ}
    (hcost : parseAmount usdcCreationCost = .ok creationCost) :
    readReproductionParent (founderState usdcCreationCost) founderId =
      .ok ⟨founder, founderSession, 5000000, creationCost, none⟩ := by
  have hfee : parseAmount "5000000" = .ok 5000000 := by decide +kernel
  have hlast : lastReproductionAt (founderState "0") founderId = none := by decide +kernel
  have hsame : lastReproductionAt (founderState usdcCreationCost) founderId =
      lastReproductionAt (founderState "0") founderId := rfl
  have hregistered : (founderState usdcCreationCost).registry[founderId]? = some founder := by
    simp [founderState]
  have hstored : (founderState usdcCreationCost).sessions[founder.sessionId]? =
      some founderSession := by
    simp [founderState, founder]
  unfold readReproductionParent
  rw [hregistered]
  dsimp only
  rw [if_neg (by decide), hstored]
  dsimp only
  rw [Fallible.bind_eq_ok]
  refine ⟨5000000, hfee, ?_⟩
  rw [Fallible.bind_eq_ok]
  refine ⟨creationCost, hcost, ?_⟩
  rw [hsame, hlast]
  rfl

/-- The sample constitutions are accepted. -/
theorem founder_constitutions (creationCost : ℕ) :
    ensureConstitutions reproductionLibraries
      ⟨founder, founderSession, 5000000, creationCost, none⟩ sampleConstitution
        sampleConstitution =
      .ok "abd5e54be3f59d8ee4943b2380def17f546e604cc51da8b9c93f591f205e75db" := by
  have hlength : sampleConstitution.toList.length ≤ Target.usizeMax .wasm32 := by
    rw [length_sampleConstitution]
    decide
  have hhash : reproductionLibraries.sha256Hex sampleConstitution =
      "abd5e54be3f59d8ee4943b2380def17f546e604cc51da8b9c93f591f205e75db" := by
    simp only [reproductionLibraries, if_true]
  unfold ensureConstitutions
  dsimp only [founder]
  rw [trim_sampleConstitution, if_neg (not_not.mpr hhash),
    SpawnProtocol.validateConstitutionMutation_self hlength]

/-- The sample request is admitted, and the session is created. -/
theorem founder_creates {usdcCreationCost grossAmount : String} {balance creationCost : ℕ}
    {amounts : QuoteAmounts} (hcost : parseAmount usdcCreationCost = .ok creationCost)
    (hendowment : ensureEndowment ⟨founder, founderSession, 5000000, creationCost, none⟩ grossAmount
      balance = .ok ())
    (hquote : quoteAmounts (founderState usdcCreationCost) grossAmount = .ok amounts) :
    ∃ session t, createReproductionSessionWithVerifiedBalance reproductionLibraries founderId
      (childRequest grossAmount) childRequestedAt secondId balance
        (founderState usdcCreationCost) = .ok session t := by
  have hdowry : SpawnProtocol.validateInheritance [⟨"origin", "Meridian"⟩] [] = .ok () := by
    decide +kernel
  have hgenesis : reproductionLibraries.validateGenesis "Meridian II" sampleConstitution =
      .ok (Text.trim "Meridian II", sampleConstitution) :=
    congrArg (fun constitution => Except.ok (Text.trim "Meridian II", constitution))
      trim_sampleConstitution
  have hage : ensureReproductionAge ⟨founder, founderSession, 5000000, creationCost, none⟩
      childRequestedAt = .ok () := rfl
  have hgenesis' : reproductionLibraries.validateGenesis "Meridian II" sampleConstitution =
      .ok ("Meridian II", sampleConstitution) := by
    rw [hgenesis]
    rfl
  refine exists_created (admitReproduction_isOk hdowry hgenesis' (founder_read hcost) hage
    (founder_constitutions creationCost) hendowment) ⟨_, amounts, rfl, hquote⟩ ?_
  simp [founderState, FactoryState.default]

/-- The release of an admitted reproduction fits the deposit, in every state that follows, exactly
when fee, cost and endowment fit 128 bits together at its admission. -/
theorem reproduction_settles_iff (libraries : Libraries) (state t : FactoryState)
    (caller sessionId : String) (request : CreateReproductionSessionRequest)
    (nowMs verifiedParentUsdcBalance : ℕ) (session : SpawnSession)
    (hpermits : createReproductionSessionWithVerifiedBalance libraries caller request nowMs
      sessionId verifiedParentUsdcBalance state = .ok session t) :
    (∀ u, Reachable (· = t) (KeepsId libraries sessionId) u →
        ∃ stored, u.sessions[sessionId]? = some stored ∧ SettlementFits stored) ↔
      EndowmentFits state := by
  obtain ⟨hstored, hfits⟩ := settlementFits_of_admitted hpermits
  rw [← hfits]
  constructor
  · intro hsettles
    obtain ⟨stored, hread, hsettled⟩ := hsettles t (Reachable.self t)
    obtain rfl := Option.some.inj (hstored.symm.trans hread)
    exact hsettled
  · intro hsettled u hreach
    have hstart : StoresTerms sessionId session t := ⟨session, hstored, SameTerms.refl session⟩
    obtain ⟨stored, hread, hterms⟩ := hstart.run hreach
    exact ⟨stored, hread, (settlementFits_congr hterms).mpr hsettled⟩

/-- With the default fees the smallest gross amount settles. -/
theorem founder_settles : ∃ session t,
    createReproductionSessionWithVerifiedBalance reproductionLibraries founderId
        (childRequest "75000000") childRequestedAt secondId 105000000
        (founderState "45000000") = .ok session t ∧
      ∀ u, Reachable (· = t) (KeepsId reproductionLibraries secondId) u →
        ∃ stored, u.sessions[secondId]? = some stored ∧ SettlementFits stored := by
  have hcost : parseAmount "45000000" = .ok 45000000 := by decide +kernel
  have hfee : parseAmount (founderState "45000000").usdcFee = .ok 5000000 := by decide +kernel
  have hendowment : ensureEndowment ⟨founder, founderSession, 5000000, 45000000, none⟩ "75000000"
      105000000 = .ok () := by decide +kernel
  have hquote : quoteAmounts (founderState "45000000") "75000000" =
      .ok ⟨5000000, 45000000, 25000000⟩ := by decide +kernel
  obtain ⟨session, t, hrun⟩ := founder_creates hcost hendowment hquote
  have hfits : EndowmentFits (founderState "45000000") := by
    intro platformFee creationCost hfee' hcost'
    obtain rfl := Except.ok.inj (hfee.symm.trans hfee')
    obtain rfl := Except.ok.inj (hcost.symm.trans hcost')
    decide
  exact ⟨session, t, hrun, (reproduction_settles_iff _ _ _ _ _ _ _ _ _ hrun).mpr hfits⟩

/-- At a creation cost that leaves nothing, the largest amount is admitted all the same. -/
theorem founder_overcharged : ∃ session t,
    createReproductionSessionWithVerifiedBalance reproductionLibraries founderId
        (childRequest "340282366920938463463374607431768211455") childRequestedAt secondId u128Max
        (founderState "340282366920938463463374607431763211455") = .ok session t ∧
      ¬ SettlementFits session := by
  have hcost : parseAmount "340282366920938463463374607431763211455" =
      .ok 340282366920938463463374607431763211455 := by decide +kernel
  have hfee : parseAmount (founderState "340282366920938463463374607431763211455").usdcFee =
      .ok 5000000 := by decide +kernel
  have hendowment : ensureEndowment ⟨founder, founderSession, 5000000,
      340282366920938463463374607431763211455, none⟩ "340282366920938463463374607431768211455"
      u128Max = .ok () := by decide +kernel
  have hquote : quoteAmounts (founderState "340282366920938463463374607431763211455")
      "340282366920938463463374607431768211455" =
        .ok ⟨5000000, 340282366920938463463374607431763211455, 0⟩ := by decide +kernel
  obtain ⟨session, t, hrun⟩ := founder_creates hcost hendowment hquote
  refine ⟨session, t, hrun, ?_⟩
  rw [(settlementFits_of_admitted hrun).2]
  intro hfits
  have hfit := hfits _ _ hfee hcost
  revert hfit
  decide

end Automaton.Factory
