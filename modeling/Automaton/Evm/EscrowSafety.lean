import Automaton.Evm.LocalEscrow
import Automaton.Library.Fallible

/-!
# What the escrow guarantees

Every accepted call is a deposit into one claim or the settlement of one claim, and
each invariant is checked against these two effects. A payer is recorded exactly while
a balance is, the tokens cover the balances, and a claim is settled at most once and
for its whole balance. That a released claim is empty needs more: `deposit` does not
look at the released flag, so it holds exactly as long as no deposit is accepted for a
released claim.
-/

namespace Automaton.Evm

open Machine Fallible

variable {d : Deployment} {s s' : EscrowState} {msgSender : Sender d}
  {permits : Transfer → Bool} {claimId : ClaimId} {amount : ℕ} {action : Action d}

section Token

/-- The escrow paid a total out of its own tokens, and nothing else moved. -/
structure Outflow (d : Deployment) (token token' : Token) (total : ℕ) : Prop where
  balance_le : token.balances d.escrow ≤ token'.balances d.escrow + total
  transfers_eq : ∃ paid : List Transfer, token'.transfers = token.transfers ++ paid ∧
    (∀ transfer ∈ paid, transfer.src = d.escrow) ∧ (paid.map Transfer.amount).sum = total

/-- Paying nothing. -/
theorem Outflow.refl (token : Token) : Outflow d token token 0 :=
  ⟨le_rfl, [], by simp⟩

/-- Payments add up. -/
theorem Outflow.trans {token₁ token₂ token₃ : Token} {a b : ℕ} (h₁ : Outflow d token₁ token₂ a)
    (h₂ : Outflow d token₂ token₃ b) : Outflow d token₁ token₃ (a + b) := by
  obtain ⟨hle₁, paid₁, htransfers₁, hsrc₁, hsum₁⟩ := h₁
  obtain ⟨hle₂, paid₂, htransfers₂, hsrc₂, hsum₂⟩ := h₂
  refine ⟨by omega, paid₁ ++ paid₂, by rw [htransfers₂, htransfers₁, List.append_assoc], ?_, ?_⟩
  · intro transfer hmem
    rcases List.mem_append.mp hmem with hmem | hmem
    · exact hsrc₁ transfer hmem
    · exact hsrc₂ transfer hmem
  · rw [List.map_append, List.sum_append, hsum₁, hsum₂]

/-- A transfer out of the escrow pays its amount. -/
theorem outflow_move {token token' : Token} {dst : Address}
    (h : token.move permits ⟨d.escrow, dst, amount⟩ = .ok token') :
    Outflow d token token' amount := by
  unfold Token.move at h
  split at h
  · cases h
    refine ⟨?_, [⟨d.escrow, dst, amount⟩], rfl, by simp, by simp⟩
    by_cases hdst : d.escrow = dst
    · subst hdst
      simp
      omega
    · simp [Function.update_of_ne hdst]
      omega
  · cases h

/-- A transfer that may be skipped pays its amount. -/
theorem outflow_movePositive {token token' : Token} {dst : Address}
    (h : token.movePositive permits ⟨d.escrow, dst, amount⟩ = .ok token') :
    Outflow d token token' amount := by
  unfold Token.movePositive at h
  split at h
  · exact outflow_move h
  · rename_i hzero
    cases h
    obtain rfl : amount = 0 := by simpa using hzero
    exact Outflow.refl token

/-- A transfer by somebody else does not take tokens from the escrow. -/
theorem balance_le_of_move {token token' : Token} {dst : Address}
    (h : token.move permits ⟨msgSender.address, dst, amount⟩ = .ok token') :
    token.balances d.escrow ≤ token'.balances d.escrow ∧
      (dst = d.escrow → token'.balances d.escrow = token.balances d.escrow + amount) := by
  have hne := msgSender.ne_escrow.symm
  unfold Token.move at h
  split at h
  · cases h
    by_cases hdst : d.escrow = dst
    · subst hdst
      simp [Function.update_of_ne hne]
    · simp [Function.update_of_ne hdst, Function.update_of_ne hne, Ne.symm hdst]
  · cases h

end Token

section Effects

/-- The effect of an accepted deposit. -/
structure Deposits (d : Deployment) (s s' : EscrowState) (claimId : ClaimId) (payer : Address)
    (amount : ℕ) : Prop where
  payer_ne_zero : payer ≠ 0
  amount_pos : 0 < amount
  claimBalances_eq :
    s'.claimBalances = Function.update s.claimBalances claimId (s.claimBalances claimId + amount)
  releasedClaims_eq : s'.releasedClaims = s.releasedClaims
  claimPayers_eq : s'.claimPayers = Function.update s.claimPayers claimId payer
  tokens_eq : s'.usdc.balances d.escrow = s.usdc.balances d.escrow + amount
  events_eq : s'.events = s.events ++ [.deposited claimId payer amount]

/-- The effect of an accepted settlement: the whole balance is paid out. -/
structure Settles (d : Deployment) (s s' : EscrowState) (claimId : ClaimId) : Prop where
  not_released : s.releasedClaims claimId = false
  claimBalances_eq : s'.claimBalances = Function.update s.claimBalances claimId 0
  releasedClaims_eq : s'.releasedClaims = Function.update s.releasedClaims claimId true
  claimPayers_eq : s'.claimPayers = Function.update s.claimPayers claimId 0
  outflow : Outflow d s.usdc s'.usdc (s.claimBalances claimId)
  events_eq : ∃ event : EscrowEvent, s'.events = s.events ++ [event] ∧
    ∀ claim, event.paysOut claim = true ↔ claimId = claim

/-- When `deposit` is accepted, and what it does then. -/
theorem deposit_eq_ok : deposit msgSender permits s claimId amount = .ok s' ↔
    amount ≠ 0 ∧ (s.claimPayers claimId = 0 ∨ s.claimPayers claimId = msgSender.address) ∧
    s.claimBalances claimId + amount ≤ uint256Max ∧
    ∃ usdc, s.usdc.move permits ⟨msgSender.address, d.escrow, amount⟩ = .ok usdc ∧
      s' = { s with
        usdc := usdc
        claimPayers := Function.update s.claimPayers claimId msgSender.address
        claimBalances :=
          Function.update s.claimBalances claimId (s.claimBalances claimId + amount)
        events := s.events ++ [.deposited claimId msgSender.address amount] } := by
  simp only [deposit, throw_bind, ite_error_eq_ok, bind_eq_ok]
  constructor
  · rintro ⟨hamount, hpayer, usdc, hmove, hresult⟩
    split at hresult
    · cases hresult
    · rename_i balance hbalance
      obtain ⟨hfits, rfl⟩ := checkedAdd_eq_some.mp hbalance
      exact ⟨hamount, by tauto, hfits, usdc, hmove, (Except.ok.inj hresult).symm⟩
  · rintro ⟨hamount, hpayer, hfits, usdc, hmove, rfl⟩
    exact ⟨hamount, by tauto, usdc, hmove, by simp [checkedAdd, hfits, pure_eq_ok]⟩

/-- An accepted `deposit` is a deposit. -/
theorem deposits_of_deposit (h : deposit msgSender permits s claimId amount = .ok s') :
    Deposits d s s' claimId msgSender.address amount := by
  obtain ⟨hamount, -, -, usdc, hmove, rfl⟩ := deposit_eq_ok.mp h
  exact ⟨msgSender.ne_zero, Nat.pos_of_ne_zero hamount, rfl, rfl, rfl,
    (balance_le_of_move hmove).2 rfl, rfl⟩

/-- An accepted `depositReproduction` is a deposit into a claim that was never released. -/
theorem deposits_of_depositReproduction
    (h : depositReproduction msgSender permits s claimId amount = .ok s') :
    Deposits d s s' claimId msgSender.address amount ∧ s.releasedClaims claimId = false := by
  simp only [depositReproduction, throw_bind, ite_error_eq_ok, bind_eq_ok, pure_eq_ok] at h
  obtain ⟨hfresh, hamount, usdc, hmove, rfl⟩ := h
  push Not at hfresh
  exact ⟨⟨msgSender.ne_zero, Nat.pos_of_ne_zero hamount, by simp [hfresh.1], rfl, rfl,
    (balance_le_of_move hmove).2 rfl, rfl⟩, by simpa using hfresh.2⟩

/-- An accepted `release` settles its claim. -/
theorem settles_of_release {recipient : Address}
    (h : release msgSender permits s claimId recipient = .ok s') : Settles d s s' claimId := by
  simp only [release, throw_bind, ite_error_eq_ok, bind_eq_ok, pure_eq_ok] at h
  obtain ⟨-, -, hreleased, -, usdc, hmove, rfl⟩ := h
  exact ⟨by simpa using hreleased, rfl, rfl, rfl, outflow_move hmove, _, rfl,
    by simp [EscrowEvent.paysOut]⟩

/-- An accepted `refund` settles its claim. -/
theorem settles_of_refund (h : refund msgSender permits s claimId = .ok s') :
    Settles d s s' claimId := by
  simp only [refund, throw_bind, ite_error_eq_ok, bind_eq_ok, pure_eq_ok] at h
  obtain ⟨-, hreleased, -, -, usdc, hmove, rfl⟩ := h
  exact ⟨by simpa using hreleased, rfl, rfl, rfl, outflow_move hmove, _, rfl,
    by simp [EscrowEvent.paysOut]⟩

/-- An accepted `releaseReproduction` settles its claim: the child, the two royalties and
the platform remainder add up to the balance. -/
theorem settles_of_releaseReproduction {split : ReproductionSplit}
    (h : releaseReproduction msgSender permits s claimId split = .ok s') :
    Settles d s s' claimId := by
  simp only [releaseReproduction, throw_bind, ite_error_eq_ok] at h
  obtain ⟨-, -, hreleased, h⟩ := h
  split at h
  · cases h
  · rename_i distributed hdistributed
    simp only [ite_error_eq_ok, bind_eq_ok, pure_eq_ok] at h
    obtain ⟨-, hbound, usdc₁, hchild, usdc₂, hone, usdc₃, htwo, usdc₄, hplatform, rfl⟩ := h
    have htotal : distributed =
        split.childAmount + split.royaltyAmountOne + split.royaltyAmountTwo := by
      simp only [Option.bind_eq_some_iff, checkedAdd_eq_some] at hdistributed
      obtain ⟨subtotal, ⟨-, rfl⟩, -, rfl⟩ := hdistributed
      rfl
    have hflow := (((outflow_move hchild).trans (outflow_movePositive hone)).trans
      (outflow_movePositive htwo)).trans (outflow_movePositive hplatform)
    have hsum : split.childAmount + split.royaltyAmountOne + split.royaltyAmountTwo +
        (s.claimBalances claimId - distributed) = s.claimBalances claimId := by
      omega
    rw [hsum] at hflow
    exact ⟨by simpa using hreleased, rfl, rfl, rfl, hflow, _, rfl, by simp [EscrowEvent.paysOut]⟩

/-- A `deposit` that the contract accepts although the claim has been released. -/
def DepositsIntoReleased (s : EscrowState) : Action d → Prop
  | .call msgSender permits (.deposit claimId amount) =>
      s.releasedClaims claimId = true ∧ amount ≠ 0 ∧
      (s.claimPayers claimId = 0 ∨ s.claimPayers claimId = msgSender.address) ∧
      s.claimBalances claimId + amount ≤ uint256Max ∧
      permits ⟨msgSender.address, d.escrow, amount⟩ = true ∧
      amount ≤ s.usdc.balances msgSender.address
  | _ => False

/-- The claim that an action settles when it is accepted. -/
def Action.settles : Action d → Option ClaimId
  | .call _ _ entry => entry.settles
  | .moveTokens .. => none

/-- Every accepted action deposits, settles, or moves other tokens. -/
theorem exec_cases (h : exec s action = .ok s') :
    (∃ claimId payer amount, action.settles = none ∧ Deposits d s s' claimId payer amount ∧
      (s.releasedClaims claimId = true → DepositsIntoReleased s action)) ∨
    (∃ claimId, action.settles = some claimId ∧ Settles d s s' claimId) ∨
    (∃ usdc, action.settles = none ∧ s.usdc.balances d.escrow ≤ usdc.balances d.escrow ∧
      s' = { s with usdc := usdc }) := by
  cases action with
  | call msgSender permits call =>
    cases call with
    | deposit claimId amount =>
      refine Or.inl ⟨claimId, _, amount, rfl, deposits_of_deposit h, fun hreleased => ?_⟩
      obtain ⟨hamount, hpayer, hfits, usdc, hmove, -⟩ := deposit_eq_ok.mp h
      have hpermits : permits ⟨msgSender.address, d.escrow, amount⟩ = true ∧
          amount ≤ s.usdc.balances msgSender.address := by
        by_contra hrefused
        simp [Token.move, hrefused] at hmove
      exact ⟨hreleased, hamount, hpayer, hfits, hpermits⟩
    | depositReproduction claimId amount =>
      obtain ⟨hdeposits, hfresh⟩ := deposits_of_depositReproduction h
      exact Or.inl ⟨claimId, _, amount, rfl, hdeposits, fun hreleased => by simp [hfresh] at hreleased⟩
    | release claimId recipient => exact Or.inr (Or.inl ⟨claimId, rfl, settles_of_release h⟩)
    | refund claimId => exact Or.inr (Or.inl ⟨claimId, rfl, settles_of_refund h⟩)
    | releaseReproduction claimId split =>
      exact Or.inr (Or.inl ⟨claimId, rfl, settles_of_releaseReproduction h⟩)
  | moveTokens holder dst amount =>
    simp only [exec, bind_eq_ok, pure_eq_ok] at h
    obtain ⟨usdc, hmove, rfl⟩ := h
    exact Or.inr (Or.inr ⟨usdc, rfl, (balance_le_of_move hmove).1, rfl⟩)

/-- A deposit into a released claim is accepted. -/
theorem exec_of_depositsIntoReleased (h : DepositsIntoReleased s action) :
    ∃ s' claimId, exec s action = .ok s' ∧ s'.releasedClaims claimId = true ∧
      s'.claimBalances claimId ≠ 0 := by
  cases action with
  | moveTokens holder dst amount => exact h.elim
  | call msgSender permits call =>
    cases call with
    | deposit claimId amount =>
      obtain ⟨hreleased, hamount, hpayer, hfits, hpermits, hbalance⟩ := h
      have haccepted := deposit_eq_ok.mpr ⟨hamount, hpayer, hfits, _,
        by rw [Token.move, if_pos ⟨hpermits, hbalance⟩], rfl⟩
      refine ⟨_, claimId, haccepted, hreleased, ?_⟩
      simp only [Function.update_self]
      omega
    | _ => exact h.elim

end Effects

section Invariants

/-- What holds of the contract in every run. -/
structure Sound (d : Deployment) (s : EscrowState) : Prop where
  payer_iff : ∀ claim, s.claimPayers claim ≠ 0 ↔ 0 < s.claimBalances claim
  covered : ∑ claim, s.claimBalances claim ≤ s.usdc.balances d.escrow
  paid_le : ∀ claim, s.events.countP (EscrowEvent.paysOut claim) ≤
    if s.releasedClaims claim then 1 else 0

/-- Changing one summand changes the sum by the difference. -/
theorem sum_update_add (f : ClaimId → ℕ) (claim : ClaimId) (value : ℕ) :
    ∑ x, Function.update f claim value x + f claim = ∑ x, f x + value := by
  rw [Finset.sum_update_of_mem (Finset.mem_univ claim),
    ← Finset.add_sum_erase Finset.univ f (Finset.mem_univ claim), Finset.sdiff_singleton_eq_erase]
  omega

/-- The constructor establishes the invariants. -/
theorem sound_initial (balances : Address → ℕ) : Sound d (initial balances) where
  payer_iff := by simp [initial]
  covered := by simp [initial]
  paid_le := by simp [initial]

/-- A deposit keeps the invariants. -/
theorem Sound.deposits {payer : Address} (hsound : Sound d s)
    (h : Deposits d s s' claimId payer amount) : Sound d s' where
  payer_iff := by
    intro claim
    rw [h.claimPayers_eq, h.claimBalances_eq]
    by_cases hclaim : claim = claimId
    · subst hclaim
      have hpos := h.amount_pos
      simp only [Function.update_self, ne_eq, h.payer_ne_zero, not_false_eq_true, true_iff]
      omega
    · simpa [Function.update_of_ne hclaim] using hsound.payer_iff claim
  covered := by
    have hsum := sum_update_add s.claimBalances claimId (s.claimBalances claimId + amount)
    have hcovered := hsound.covered
    rw [h.claimBalances_eq, h.tokens_eq]
    omega
  paid_le := by
    intro claim
    rw [h.events_eq, h.releasedClaims_eq]
    simpa [List.countP_append, EscrowEvent.paysOut] using hsound.paid_le claim

/-- A settlement keeps the invariants. -/
theorem Sound.settles (hsound : Sound d s) (h : Settles d s s' claimId) : Sound d s' where
  payer_iff := by
    intro claim
    rw [h.claimPayers_eq, h.claimBalances_eq]
    by_cases hclaim : claim = claimId
    · simp [hclaim]
    · simpa [Function.update_of_ne hclaim] using hsound.payer_iff claim
  covered := by
    have hsum := sum_update_add s.claimBalances claimId 0
    have hcovered := hsound.covered
    have hpaid := h.outflow.balance_le
    rw [h.claimBalances_eq]
    omega
  paid_le := by
    intro claim
    obtain ⟨event, hevents, hpays⟩ := h.events_eq
    have hold := hsound.paid_le claim
    rw [hevents, h.releasedClaims_eq, List.countP_append, List.countP_singleton]
    by_cases hclaim : claimId = claim
    · subst hclaim
      rw [h.not_released] at hold
      rw [if_pos ((hpays claimId).mpr rfl)]
      simpa using hold
    · have hother : event.paysOut claim = false := by
        simpa using (hpays claim).not.mpr hclaim
      rw [Function.update_of_ne (Ne.symm hclaim), hother]
      simpa using hold

/-- Every action keeps the invariants. -/
theorem Sound.step (hsound : Sound d s) (action : Action d) : Sound d (step s action) := by
  unfold Evm.step
  cases hexec : exec s action with
  | error e => exact hsound
  | ok s' =>
    rcases exec_cases hexec with ⟨claimId, payer, amount, -, hdeposits, -⟩ | ⟨claimId, -, hsettles⟩ |
      ⟨usdc, -, hle, rfl⟩
    · exact hsound.deposits hdeposits
    · exact hsound.settles hsettles
    · exact ⟨hsound.payer_iff, hsound.covered.trans hle, hsound.paid_le⟩

/-- Every run keeps the invariants. -/
theorem Sound.run (hsound : Sound d s) (actions : List (Action d)) : Sound d (run s actions) := by
  induction actions generalizing s with
  | nil => exact hsound
  | cons action actions ih => exact ih (hsound.step action)

/-- A step without a deposit into a released claim keeps released claims empty. -/
theorem released_empty_step (hempty : ∀ claim, s.releasedClaims claim = true →
      s.claimBalances claim = 0) (hdeposit : ¬ DepositsIntoReleased s action) (claim : ClaimId)
    (hreleased : (step s action).releasedClaims claim = true) :
    (step s action).claimBalances claim = 0 := by
  unfold step at hreleased ⊢
  cases hexec : exec s action with
  | error e =>
    rw [hexec] at hreleased
    exact hempty claim hreleased
  | ok s' =>
    simp only [hexec] at hreleased ⊢
    rcases exec_cases hexec with ⟨claimId, payer, amount, -, hdeposits, hlate⟩ |
      ⟨claimId, -, hsettles⟩ | ⟨usdc, -, -, rfl⟩
    · rw [hdeposits.releasedClaims_eq] at hreleased
      have hclaim : claim ≠ claimId := by
        rintro rfl
        exact hdeposit (hlate hreleased)
      rw [hdeposits.claimBalances_eq, Function.update_of_ne hclaim]
      exact hempty claim hreleased
    · rw [hsettles.releasedClaims_eq] at hreleased
      rw [hsettles.claimBalances_eq]
      by_cases hclaim : claim = claimId
      · simp [hclaim]
      · rw [Function.update_of_ne hclaim] at hreleased ⊢
        exact hempty claim hreleased
    · exact hempty claim hreleased

end Invariants

section Runs

/-- What the escrow should guarantee in every state. -/
structure Secure (d : Deployment) (s : EscrowState) : Prop where
  released_empty : ∀ claim, s.releasedClaims claim = true → s.claimBalances claim = 0
  payer_iff : ∀ claim, s.claimPayers claim ≠ 0 ↔ 0 < s.claimBalances claim
  covered : ∑ claim, s.claimBalances claim ≤ s.usdc.balances d.escrow
  paid_once : ∀ claim, s.events.countP (EscrowEvent.paysOut claim) ≤ 1

/-- What the escrow paid out between two states. -/
def paidBetween (d : Deployment) (s s' : EscrowState) : ℕ :=
  (((s'.usdc.transfers.drop s.usdc.transfers.length).filter fun transfer =>
    transfer.src = d.escrow).map Transfer.amount).sum

/-- An accepted settlement pays out the balance of its claim. -/
theorem paidBetween_of_settles {claim : ClaimId} (h : exec s action = .ok s')
    (hsettles : action.settles = some claim) : paidBetween d s s' = s.claimBalances claim := by
  rcases exec_cases h with ⟨claimId, payer, amount, hnone, -⟩ | ⟨claimId, hsome, heffect⟩ |
    ⟨usdc, hnone, -⟩
  · simp [hsettles] at hnone
  · obtain rfl : claim = claimId := by simpa [hsettles] using hsome
    obtain ⟨paid, htransfers, hsrc, hsum⟩ := heffect.outflow.transfers_eq
    have hfilter : paid.filter (fun transfer => transfer.src = d.escrow) = paid :=
      List.filter_eq_self.mpr (by simpa using hsrc)
    rw [paidBetween, htransfers, List.drop_left, hfilter, hsum]
  · simp [hsettles] at hnone

/-- A run ends with its last action. -/
theorem run_append_singleton (s : EscrowState) (actions : List (Action d)) (action : Action d) :
    run s (actions ++ [action]) = step (run s actions) action := by
  simp [run]

/-- Over a run without deposits into released claims, released claims stay empty. -/
theorem released_empty_run {balances : Address → ℕ} (actions : List (Action d))
    (hdeposits : ∀ before action after, actions = before ++ action :: after →
      ¬ DepositsIntoReleased (run (initial balances) before) action) (claim : ClaimId) :
    (run (initial balances) actions).releasedClaims claim = true →
      (run (initial balances) actions).claimBalances claim = 0 := by
  induction actions using List.reverseRecOn generalizing claim with
  | nil => simp [run, initial]
  | append_singleton actions action ih =>
    rw [run_append_singleton]
    refine released_empty_step (fun claim => ih ?_ claim) (hdeposits actions action [] rfl) claim
    intro before action' after hsplit
    exact hdeposits before action' (after ++ [action]) (by simp [hsplit])

/-- No funds are locked, no claim is paid twice and every settlement pays exactly the
balance, in all states of a run, exactly when the run has no accepted deposit into a
released claim. -/
theorem escrow_secure_iff (d : Deployment) (balances : Address → ℕ) (actions : List (Action d)) :
    ((∀ before after, actions = before ++ after → Secure d (run (initial balances) before)) ∧
      ∀ before action after claim s', actions = before ++ action :: after →
        action.settles = some claim → exec (run (initial balances) before) action = .ok s' →
        paidBetween d (run (initial balances) before) s' =
          (run (initial balances) before).claimBalances claim) ↔
    ∀ before action after, actions = before ++ action :: after →
      ¬ DepositsIntoReleased (run (initial balances) before) action := by
  constructor
  · rintro ⟨hsecure, -⟩ before action after hsplit hdeposit
    obtain ⟨s', claim, hexec, hreleased, hbalance⟩ := exec_of_depositsIntoReleased hdeposit
    have hlast := hsecure (before ++ [action]) after (by simp [hsplit])
    rw [run_append_singleton, step, hexec] at hlast
    exact hbalance (hlast.released_empty claim hreleased)
  · intro hdeposits
    refine ⟨fun before after hsplit => ?_, fun before action after claim s' _ hsettles hexec =>
      paidBetween_of_settles hexec hsettles⟩
    have hsound := (sound_initial (d := d) balances).run before
    refine ⟨released_empty_run before ?_, hsound.payer_iff, hsound.covered, fun claim =>
      (hsound.paid_le claim).trans (by split <;> omega)⟩
    intro before' action after' hsplit'
    exact hdeposits before' action (after' ++ after) (by simp [hsplit, hsplit'])

/-- A deployment with its two parties. -/
def sampleDeployment : Deployment := ⟨100, 7, by decide⟩

/-- A payer deposits, the claim is released, and the payer deposits again. -/
def lateDeposit : List (Action sampleDeployment) :=
  [.call ⟨5, by decide, by decide⟩ (fun _ => true) (.deposit 1 60),
    .call ⟨7, by decide, by decide⟩ (fun _ => true) (.release 1 9),
    .call ⟨5, by decide, by decide⟩ (fun _ => true) (.deposit 1 40)]

/-- The second deposit stays in a claim that can never be settled again. -/
theorem lateDeposit_not_secure :
    ¬ Secure sampleDeployment (run (initial fun account => if account = 5 then 100 else 0)
      lateDeposit) := by
  intro hsecure
  have hempty := hsecure.released_empty 1 (by decide)
  revert hempty
  decide

end Runs

end Automaton.Evm
