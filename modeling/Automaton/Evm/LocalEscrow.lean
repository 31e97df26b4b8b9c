import Automaton.Library.Machine
import Mathlib

/-!
# The local escrow contract

`LocalEscrow` holds deposits per claim until the releaser settles the claim. A call
that reverts leaves the state unchanged. The token moves exactly the stated amount or
refuses; which transfers it refuses is chosen anew for every call. Other holders move
their tokens between the calls.
-/

namespace Automaton.Evm

open Machine

/-- `bytes32` claim identifiers. -/
abbrev ClaimId := Fin (2 ^ 256)

/-- Account addresses. -/
abbrev Address := Fin (2 ^ 160)

instance neZero_claimIds : NeZero (2 ^ 256) := ⟨by decide⟩

instance neZero_addresses : NeZero (2 ^ 160) := ⟨by decide⟩

/-- `type(uint256).max`. -/
def uint256Max : ℕ := 2 ^ 256 - 1

/-- The errors of the contract, and the panic of checked arithmetic. -/
inductive EscrowError
  | unauthorized
  | invalidRecipient
  | invalidAmount
  | transferFailed
  | nothingDeposited
  | alreadyReleased
  | alreadyDeposited
  | payerMismatch
  | arithmeticOverflow
  deriving DecidableEq

/-- A movement of tokens. -/
structure Transfer where
  src : Address
  dst : Address
  amount : ℕ
  deriving DecidableEq

/-- The token contract: balances and the log of its movements. -/
structure Token where
  balances : Address → ℕ
  transfers : List Transfer

/-- Moves exactly the stated amount, or refuses. -/
def Token.move (permits : Transfer → Bool) (token : Token) (transfer : Transfer) :
    Except EscrowError Token :=
  if permits transfer ∧ transfer.amount ≤ token.balances transfer.src then
    let debited := Function.update token.balances transfer.src
      (token.balances transfer.src - transfer.amount)
    .ok { balances := Function.update debited transfer.dst
            (debited transfer.dst + transfer.amount)
          transfers := token.transfers ++ [transfer] }
  else .error .transferFailed

/-- The events of the contract. -/
inductive EscrowEvent
  | deposited (claimId : ClaimId) (payer : Address) (amount : ℕ)
  | released (claimId : ClaimId) (recipient : Address) (amount : ℕ)
  | refunded (claimId : ClaimId) (payer : Address) (amount : ℕ)
  | reproductionReleased (claimId : ClaimId) (child : Address) (childAmount : ℕ)
      (royaltyRecipientOne : Address) (royaltyAmountOne : ℕ) (royaltyRecipientTwo : Address)
      (royaltyAmountTwo : ℕ) (platformRecipient : Address) (platformAmount : ℕ)
  deriving DecidableEq

/-- The events that pay a claim out. -/
def EscrowEvent.paysOut (claim : ClaimId) : EscrowEvent → Bool
  | .deposited .. => false
  | .released claimId .. => claimId = claim
  | .refunded claimId .. => claimId = claim
  | .reproductionReleased claimId .. => claimId = claim

/-- The storage of the contract, the token it uses and the events so far. -/
structure EscrowState where
  claimBalances : ClaimId → ℕ
  releasedClaims : ClaimId → Bool
  claimPayers : ClaimId → Address
  usdc : Token
  events : List EscrowEvent

/-- A deployed contract: its address and the releaser, which the constructor requires to
be nonzero. -/
structure Deployment where
  escrow : Address
  releaser : Address
  releaser_ne_zero : releaser ≠ 0

/-- The storage after the constructor, with any distribution of tokens. -/
def initial (balances : Address → ℕ) : EscrowState where
  claimBalances := fun _ => 0
  releasedClaims := fun _ => false
  claimPayers := fun _ => 0
  usdc := { balances := balances, transfers := [] }
  events := []

/-- The sender of a call. No account has address zero, and the contract never calls
itself. -/
structure Sender (d : Deployment) where
  address : Address
  ne_zero : address ≠ 0
  ne_escrow : address ≠ d.escrow

variable {d : Deployment}

/-- `deposit`. -/
def deposit (msgSender : Sender d) (permits : Transfer → Bool) (s : EscrowState)
    (claimId : ClaimId) (amount : ℕ) : Except EscrowError EscrowState := do
  if amount = 0 then throw .invalidAmount
  let payer := s.claimPayers claimId
  if payer ≠ 0 ∧ payer ≠ msgSender.address then throw .payerMismatch
  let usdc ← s.usdc.move permits ⟨msgSender.address, d.escrow, amount⟩
  match checkedAdd uint256Max (s.claimBalances claimId) amount with
  | none => throw .arithmeticOverflow
  | some balance =>
    return { s with
      usdc := usdc
      claimPayers := Function.update s.claimPayers claimId msgSender.address
      claimBalances := Function.update s.claimBalances claimId balance
      events := s.events ++ [.deposited claimId msgSender.address amount] }

/-- `depositReproduction`. -/
def depositReproduction (msgSender : Sender d) (permits : Transfer → Bool) (s : EscrowState)
    (claimId : ClaimId) (amount : ℕ) : Except EscrowError EscrowState := do
  if s.claimBalances claimId ≠ 0 ∨ s.releasedClaims claimId then throw .alreadyDeposited
  if amount = 0 then throw .invalidAmount
  let usdc ← s.usdc.move permits ⟨msgSender.address, d.escrow, amount⟩
  return { s with
    usdc := usdc
    claimPayers := Function.update s.claimPayers claimId msgSender.address
    claimBalances := Function.update s.claimBalances claimId amount
    events := s.events ++ [.deposited claimId msgSender.address amount] }

/-- Marks a claim as released and deletes its balance and payer, as all three
settlements do before they pay. -/
def EscrowState.clearClaim (s : EscrowState) (claimId : ClaimId) : EscrowState :=
  { s with
    releasedClaims := Function.update s.releasedClaims claimId true
    claimBalances := Function.update s.claimBalances claimId 0
    claimPayers := Function.update s.claimPayers claimId 0 }

/-- `release`. -/
def release (msgSender : Sender d) (permits : Transfer → Bool) (s : EscrowState)
    (claimId : ClaimId) (recipient : Address) : Except EscrowError EscrowState := do
  if msgSender.address ≠ d.releaser then throw .unauthorized
  if recipient = 0 then throw .invalidRecipient
  if s.releasedClaims claimId then throw .alreadyReleased
  let amount := s.claimBalances claimId
  if amount = 0 then throw .nothingDeposited
  let usdc ← s.usdc.move permits ⟨d.escrow, recipient, amount⟩
  return { s.clearClaim claimId with
    usdc := usdc
    events := s.events ++ [.released claimId recipient amount] }

/-- `refund`. -/
def refund (msgSender : Sender d) (permits : Transfer → Bool) (s : EscrowState)
    (claimId : ClaimId) : Except EscrowError EscrowState := do
  if msgSender.address ≠ d.releaser then throw .unauthorized
  if s.releasedClaims claimId then throw .alreadyReleased
  let amount := s.claimBalances claimId
  let payer := s.claimPayers claimId
  if amount = 0 then throw .nothingDeposited
  if payer = 0 then throw .invalidRecipient
  let usdc ← s.usdc.move permits ⟨d.escrow, payer, amount⟩
  return { s.clearClaim claimId with
    usdc := usdc
    events := s.events ++ [.refunded claimId payer amount] }

/-- The arguments of `releaseReproduction`. -/
structure ReproductionSplit where
  child : Address
  childAmount : ℕ
  royaltyRecipientOne : Address
  royaltyAmountOne : ℕ
  royaltyRecipientTwo : Address
  royaltyAmountTwo : ℕ
  deriving DecidableEq

/-- A transfer that is skipped when there is nothing to pay. -/
def Token.movePositive (permits : Transfer → Bool) (token : Token) (transfer : Transfer) :
    Except EscrowError Token :=
  if transfer.amount > 0 then token.move permits transfer else .ok token

/-- `releaseReproduction`. -/
def releaseReproduction (msgSender : Sender d) (permits : Transfer → Bool) (s : EscrowState)
    (claimId : ClaimId) (split : ReproductionSplit) : Except EscrowError EscrowState := do
  if msgSender.address ≠ d.releaser then throw .unauthorized
  if split.child = 0 ∨ split.royaltyRecipientOne = 0 ∨ split.royaltyRecipientTwo = 0 then
    throw .invalidRecipient
  if s.releasedClaims claimId then throw .alreadyReleased
  let amount := s.claimBalances claimId
  match (checkedAdd uint256Max split.childAmount split.royaltyAmountOne).bind
      (checkedAdd uint256Max · split.royaltyAmountTwo) with
  | none => throw .arithmeticOverflow
  | some distributed =>
    if amount = 0 then throw .nothingDeposited
    if distributed > amount ∨ split.childAmount = 0 then throw .invalidAmount
    let platformAmount := amount - distributed
    let usdc ← s.usdc.move permits ⟨d.escrow, split.child, split.childAmount⟩
    let usdc ← usdc.movePositive permits
      ⟨d.escrow, split.royaltyRecipientOne, split.royaltyAmountOne⟩
    let usdc ← usdc.movePositive permits
      ⟨d.escrow, split.royaltyRecipientTwo, split.royaltyAmountTwo⟩
    let usdc ← usdc.movePositive permits ⟨d.escrow, d.releaser, platformAmount⟩
    return { s.clearClaim claimId with
      usdc := usdc
      events := s.events ++ [.reproductionReleased claimId split.child split.childAmount
        split.royaltyRecipientOne split.royaltyAmountOne split.royaltyRecipientTwo
        split.royaltyAmountTwo d.releaser platformAmount] }

/-- The entry points of the contract. -/
inductive EscrowCall
  | deposit (claimId : ClaimId) (amount : ℕ)
  | depositReproduction (claimId : ClaimId) (amount : ℕ)
  | release (claimId : ClaimId) (recipient : Address)
  | refund (claimId : ClaimId)
  | releaseReproduction (claimId : ClaimId) (split : ReproductionSplit)
  deriving DecidableEq

/-- The claim that a call settles. -/
def EscrowCall.settles : EscrowCall → Option ClaimId
  | .deposit .. => none
  | .depositReproduction .. => none
  | .release claimId _ => some claimId
  | .refund claimId => some claimId
  | .releaseReproduction claimId _ => some claimId

/-- What can happen: a call to the contract, for which the token permits some transfers,
or a movement of tokens by another holder. -/
inductive Action (d : Deployment)
  | call (msgSender : Sender d) (permits : Transfer → Bool) (call : EscrowCall)
  | moveTokens (holder : Sender d) (dst : Address) (amount : ℕ)

/-- The effect of an action, or the error with which it reverts. -/
def exec (s : EscrowState) : Action d → Except EscrowError EscrowState
  | .call msgSender permits (.deposit claimId amount) =>
      deposit msgSender permits s claimId amount
  | .call msgSender permits (.depositReproduction claimId amount) =>
      depositReproduction msgSender permits s claimId amount
  | .call msgSender permits (.release claimId recipient) =>
      release msgSender permits s claimId recipient
  | .call msgSender permits (.refund claimId) => refund msgSender permits s claimId
  | .call msgSender permits (.releaseReproduction claimId split) =>
      releaseReproduction msgSender permits s claimId split
  | .moveTokens holder dst amount => do
      let usdc ← s.usdc.move (fun _ => true) ⟨holder.address, dst, amount⟩
      return { s with usdc := usdc }

/-- One action on the chain: a revert changes nothing. -/
def step (s : EscrowState) (action : Action d) : EscrowState :=
  match exec s action with
  | .ok s' => s'
  | .error _ => s

/-- A sequence of actions. -/
def run (s : EscrowState) (actions : List (Action d)) : EscrowState := actions.foldl step s

end Automaton.Evm
