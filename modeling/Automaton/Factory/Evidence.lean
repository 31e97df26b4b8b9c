import Automaton.Factory.Types
import Automaton.Library.Text

/-!
# Payment evidence

Deposit logs are grouped by claim and block, and the groups of one claim are merged into
the evidence that the claim already holds. A block that is already in the evidence is not
counted again.
-/

namespace Automaton.Factory

open Machine

/-- `BaseDepositLog`. -/
structure BaseDepositLog where
  claimId : String
  amount : String
  blockNumber : ℕ
  blockHash : String
  deriving DecidableEq, Repr

/-- `DepositAmountByBlock`: for each block the sum of the deposits and the block hash. -/
abbrev DepositAmountByBlock := BTreeMap ℕ (ℕ × String)

/-- `DepositAmountsByClaim`. -/
abbrev DepositAmountsByClaim := BTreeMap String DepositAmountByBlock

/-- The error that both steps raise for a block hash that changed. -/
def blockHashError (message : String) : FactoryError :=
  .managementCallFailed "reconcile_escrow_payments" message

/-- One iteration of `amounts_by_claim`. -/
def addDepositLog (amounts : DepositAmountsByClaim) (log : BaseDepositLog) :
    Except FactoryError DepositAmountsByClaim := do
  let amount ← parseAmount log.amount
  let blocks := amounts[log.claimId]?.getD ∅
  let perBlock := blocks[log.blockNumber]?.getD (0, log.blockHash)
  if ¬ Text.eqIgnoreAsciiCase perBlock.2 log.blockHash then
    throw (blockHashError "deposit log block hash is inconsistent for the same block")
  match checkedAdd u128Max perBlock.1 amount with
  | none => throw (.invalidAmount log.amount)
  | some sum =>
    return amounts.insert log.claimId (blocks.insert log.blockNumber (sum, perBlock.2))

/-- `amounts_by_claim`. -/
def amountsByClaim (logs : List BaseDepositLog) : Except FactoryError DepositAmountsByClaim :=
  logs.foldlM addDepositLog ∅

/-- What `merged_claim_evidence_for_session` returns. -/
structure MergedEvidence where
  evidence : List PaymentEvidenceBlock
  totalPaid : ℕ
  incrementalPayment : ℕ
  claimCursor : Option ℕ
  deriving DecidableEq, Repr

/-- A look-up in `evidence_by_block`, where a later entry for a block replaces an earlier one. -/
def evidenceOfBlock (evidence : List PaymentEvidenceBlock) (blockNumber : ℕ) :
    Option PaymentEvidenceBlock :=
  evidence.reverse.find? (·.blockNumber = blockNumber)

/-- `checked_add` on amounts, with the error of `merged_claim_evidence_for_session`. -/
def addAmount (total amount : ℕ) : Except FactoryError ℕ :=
  match checkedAdd u128Max total amount with
  | some sum => .ok sum
  | none => .error (.invalidAmount (amountToString amount))

/-- One iteration of the loop of `merged_claim_evidence_for_session`. -/
def mergeBlock (merged : MergedEvidence) (block : ℕ × ℕ × String) :
    Except FactoryError MergedEvidence := do
  let (blockNumber, amount, blockHash) := block
  match evidenceOfBlock merged.evidence blockNumber with
  | some existing =>
    if ¬ Text.eqIgnoreAsciiCase existing.blockHash blockHash then
      throw (blockHashError "persisted payment evidence block hash changed for the same block")
    return merged
  | none =>
    let totalPaid ← addAmount merged.totalPaid amount
    let incrementalPayment ← addAmount merged.incrementalPayment amount
    return {
      evidence := merged.evidence ++ [⟨blockNumber, blockHash, amountToString amount⟩]
      totalPaid := totalPaid
      incrementalPayment := incrementalPayment
      claimCursor := some (max (merged.claimCursor.getD 0) blockNumber) }

/-- `sort_by_key` on block numbers, which keeps the order of equal keys. -/
def sortByBlock (evidence : List PaymentEvidenceBlock) : List PaymentEvidenceBlock :=
  evidence.insertionSort fun first second => first.blockNumber ≤ second.blockNumber

/-- `merged_claim_evidence_for_session`. -/
def mergedClaimEvidenceForSession (priorClaim : EscrowClaim)
    (blocks : Option DepositAmountByBlock) : Except FactoryError MergedEvidence := do
  let totalPaid ← parseAmount priorClaim.paidAmount
  let start : MergedEvidence :=
    ⟨priorClaim.paymentEvidence, totalPaid, 0, priorClaim.lastScannedBlock⟩
  match blocks with
  | none => return start
  | some blocks =>
    let merged ← blocks.toList.foldlM mergeBlock start
    return { merged with evidence := sortByBlock merged.evidence }

end Automaton.Factory
