import Automaton.Evm.EscrowSafety

/-!
# The settlement of a reproduction

A split that the deposit covers passes the checks of its amounts, and the releaser gets exactly what
the split leaves.
-/

namespace Automaton.Evm

open Fallible Machine

variable {d : Deployment} {msgSender : Sender d} {permits : Transfer → Bool} {s s' : EscrowState}
  {claimId : ClaimId} {split : ReproductionSplit} {token token' : Token} {transfer : Transfer}

/-- What a split distributes. -/
def ReproductionSplit.distributed (split : ReproductionSplit) : ℕ :=
  split.childAmount + split.royaltyAmountOne + split.royaltyAmountTwo

/-- The transfers of a settlement. Those of nothing are left out. -/
def ReproductionSplit.payments (d : Deployment) (split : ReproductionSplit) (remainder : ℕ) :
    List Transfer :=
  ⟨d.escrow, split.child, split.childAmount⟩ ::
    [⟨d.escrow, split.royaltyRecipientOne, split.royaltyAmountOne⟩,
      ⟨d.escrow, split.royaltyRecipientTwo, split.royaltyAmountTwo⟩,
      ⟨d.escrow, d.releaser, remainder⟩].filter (0 < ·.amount)

theorem transfers_move (h : token.move permits transfer = .ok token') :
    token'.transfers = token.transfers ++ [transfer] := by
  unfold Token.move at h
  split at h
  · obtain rfl := Except.ok.inj h
    rfl
  · cases h

theorem transfers_movePositive (h : token.movePositive permits transfer = .ok token') :
    token'.transfers = token.transfers ++ [transfer].filter (0 < ·.amount) := by
  unfold Token.movePositive at h
  split at h
  · rename_i hpositive
    rw [transfers_move h]
    simp [hpositive]
  · rename_i hzero
    obtain rfl := Except.ok.inj h
    simp [Nat.eq_zero_of_not_pos hzero]

/-- A permitted transfer that is covered is made, and the rest stays. -/
theorem move_covered (hpermits : permits transfer = true) {rest : ℕ}
    (hcovered : transfer.amount + rest ≤ token.balances transfer.src) :
    ∃ token', token.move permits transfer = .ok token' ∧
      rest ≤ token'.balances transfer.src := by
  have hle : transfer.amount ≤ token.balances transfer.src := by omega
  unfold Token.move
  rw [if_pos ⟨hpermits, hle⟩]
  refine ⟨_, rfl, ?_⟩
  dsimp only
  by_cases hself : transfer.src = transfer.dst
  · rw [← hself, Function.update_self, Function.update_self]
    omega
  · rw [Function.update_of_ne hself, Function.update_self]
    omega

theorem movePositive_covered (hpermits : permits transfer = true) {rest : ℕ}
    (hcovered : transfer.amount + rest ≤ token.balances transfer.src) :
    ∃ token', token.movePositive permits transfer = .ok token' ∧
      rest ≤ token'.balances transfer.src := by
  unfold Token.movePositive
  split
  · exact move_covered hpermits hcovered
  · exact ⟨token, rfl, by omega⟩

/-- The checked sum of a split is what it distributes. -/
theorem checkedAdd_distributed (h : split.distributed ≤ uint256Max) :
    (checkedAdd uint256Max split.childAmount split.royaltyAmountOne).bind
      (checkedAdd uint256Max · split.royaltyAmountTwo) = some split.distributed := by
  unfold ReproductionSplit.distributed at h ⊢
  rw [Option.bind_eq_some_iff]
  exact ⟨_, checkedAdd_eq_some.mpr ⟨by omega, rfl⟩, checkedAdd_eq_some.mpr ⟨h, rfl⟩⟩

/-- A sequence fails as its parts do. -/
theorem error_bind {ε α β : Type} {P : ε → Prop} {x : Except ε α} {f : α → Except ε β}
    (hx : ∀ e, x = .error e → P e) (hf : ∀ a e, f a = .error e → P e) (e : ε)
    (h : x >>= f = .error e) : P e := by
  cases x with
  | error error =>
    obtain rfl := Except.error.inj h
    exact hx _ rfl
  | ok a => exact hf a e h

theorem error_move (error : EscrowError) (h : token.move permits transfer = .error error) :
    error = .transferFailed := by
  unfold Token.move at h
  split at h
  · cases h
  · exact (Except.error.inj h).symm

theorem error_movePositive (error : EscrowError)
    (h : token.movePositive permits transfer = .error error) : error = .transferFailed := by
  unfold Token.movePositive at h
  split at h
  · exact error_move error h
  · cases h

/-- A split that the balance covers passes the checks of the amounts. -/
theorem releaseReproduction_passes (hfits : split.distributed ≤ uint256Max)
    (hchild : 0 < split.childAmount) (hcovered : split.distributed ≤ s.claimBalances claimId) :
    releaseReproduction msgSender permits s claimId split ≠ .error .invalidAmount ∧
      releaseReproduction msgSender permits s claimId split ≠ .error .arithmeticOverflow := by
  have herror : ∀ error, releaseReproduction msgSender permits s claimId split = .error error →
      error = .unauthorized ∨ error = .invalidRecipient ∨ error = .alreadyReleased ∨
        error = .nothingDeposited ∨ error = .transferFailed := by
    intro error h
    simp only [releaseReproduction, throw_bind, checkedAdd_distributed hfits] at h
    split_ifs at h with hsender hrecipient hreleased hdeposited hamount
    · exact .inl (Except.error.inj h).symm
    · exact .inr (.inl (Except.error.inj h).symm)
    · exact .inr (.inr (.inl (Except.error.inj h).symm))
    · exact .inr (.inr (.inr (.inl (Except.error.inj h).symm)))
    · omega
    · refine .inr (.inr (.inr (.inr ?_)))
      refine error_bind error_move (fun usdc₁ => ?_) error h
      refine error_bind error_movePositive fun usdc₂ => ?_
      refine error_bind error_movePositive fun usdc₃ => ?_
      refine error_bind error_movePositive fun usdc₄ => ?_
      intro error' h'
      cases h'
  constructor
  · intro h
    have := herror _ h
    simp at this
  · intro h
    have := herror _ h
    simp at this

/-- A settlement pays the child, the royalties and, to the releaser, exactly the remainder. -/
theorem releaseReproduction_pays
    (h : releaseReproduction msgSender permits s claimId split = .ok s') :
    s'.usdc.transfers = s.usdc.transfers ++
      split.payments d (s.claimBalances claimId - split.distributed) := by
  simp only [releaseReproduction, throw_bind, ite_error_eq_ok] at h
  obtain ⟨-, -, -, h⟩ := h
  split at h
  · cases h
  · rename_i distributed hdistributed
    simp only [ite_error_eq_ok, bind_eq_ok, pure_eq_ok] at h
    obtain ⟨-, -, usdc₁, hchild, usdc₂, hone, usdc₃, htwo, usdc₄, hplatform, rfl⟩ := h
    obtain rfl : distributed = split.distributed := by
      simp only [Option.bind_eq_some_iff, checkedAdd_eq_some] at hdistributed
      obtain ⟨subtotal, ⟨-, rfl⟩, -, rfl⟩ := hdistributed
      rfl
    dsimp only
    rw [transfers_movePositive hplatform, transfers_movePositive htwo,
      transfers_movePositive hone, transfers_move hchild]
    simp only [ReproductionSplit.payments, List.append_assoc, ← List.filter_append,
      List.cons_append, List.nil_append]

/-- A settlement that nothing else stops is accepted. -/
theorem releaseReproduction_accepted (hsender : msgSender.address = d.releaser)
    (hchildAddress : split.child ≠ 0) (hone : split.royaltyRecipientOne ≠ 0)
    (htwo : split.royaltyRecipientTwo ≠ 0) (hreleased : s.releasedClaims claimId = false)
    (hpermits : ∀ transfer, permits transfer = true)
    (htokens : s.claimBalances claimId ≤ s.usdc.balances d.escrow)
    (hfits : split.distributed ≤ uint256Max) (hchild : 0 < split.childAmount)
    (hcovered : split.distributed ≤ s.claimBalances claimId) :
    ∃ s', releaseReproduction msgSender permits s claimId split = .ok s' := by
  have htotal : split.childAmount + (split.royaltyAmountOne + (split.royaltyAmountTwo +
      ((s.claimBalances claimId - split.distributed) + 0))) ≤ s.usdc.balances d.escrow := by
    unfold ReproductionSplit.distributed at hcovered ⊢
    omega
  obtain ⟨usdc₁, hmove₁, hrest₁⟩ := move_covered (hpermits
    ⟨d.escrow, split.child, split.childAmount⟩) htotal
  obtain ⟨usdc₂, hmove₂, hrest₂⟩ := movePositive_covered (hpermits
    ⟨d.escrow, split.royaltyRecipientOne, split.royaltyAmountOne⟩) hrest₁
  obtain ⟨usdc₃, hmove₃, hrest₃⟩ := movePositive_covered (hpermits
    ⟨d.escrow, split.royaltyRecipientTwo, split.royaltyAmountTwo⟩) hrest₂
  obtain ⟨usdc₄, hmove₄, -⟩ := movePositive_covered (hpermits
    ⟨d.escrow, d.releaser, s.claimBalances claimId - split.distributed⟩) hrest₃
  have hdeposited : s.claimBalances claimId ≠ 0 := by
    unfold ReproductionSplit.distributed at hcovered
    omega
  simp only [releaseReproduction, throw_bind, checkedAdd_distributed hfits, hreleased]
  rw [if_neg (not_not.mpr hsender), if_neg (by tauto), if_neg Bool.false_ne_true,
    if_neg hdeposited, if_neg (by omega), hmove₁]
  exact ⟨_, by
    rw [bind_eq_ok]
    refine ⟨usdc₁, rfl, ?_⟩
    rw [hmove₂, bind_eq_ok]
    refine ⟨usdc₂, rfl, ?_⟩
    rw [hmove₃, bind_eq_ok]
    refine ⟨usdc₃, rfl, ?_⟩
    rw [hmove₄]
    rfl⟩

end Automaton.Evm
