import Automaton.Factory.Reconciliation
import Automaton.Factory.Sessions

/-!
# No deposit is lost or counted twice

The deposits of a chain are fixed, with one hash for each block. Scans see windows of the
chain that may overlap or repeat. The evidence of a claim then lists every block of the
scanned windows that holds a deposit to the claim, once, with the sum of its deposits.
-/

namespace Automaton.Factory

open Machine Persist

/-- A deposit on the chain. -/
structure Deposit where
  claimId : String
  amount : ℕ
  blockNumber : ℕ
  deriving DecidableEq, Repr

/-- The log of a deposit, in a chain with the given block hashes. -/
def Deposit.log (hash : ℕ → String) (deposit : Deposit) : BaseDepositLog :=
  ⟨deposit.claimId, amountToString deposit.amount, deposit.blockNumber,
    hash deposit.blockNumber⟩

/-- The deposits to a claim in a block. -/
def blockDeposits (chain : List Deposit) (claimId : String) (blockNumber : ℕ) : List Deposit :=
  chain.filter fun deposit => deposit.claimId = claimId ∧ deposit.blockNumber = blockNumber

/-- The sum of the deposits to a claim in a block. -/
def blockTotal (chain : List Deposit) (claimId : String) (blockNumber : ℕ) : ℕ :=
  ((blockDeposits chain claimId blockNumber).map (·.amount)).sum

section Grouping

variable {hash : ℕ → String} {chain window deposits : List Deposit}
  {amounts amounts' : DepositAmountsByClaim} {claimId : String} {blockNumber : ℕ}

/-- The entry of a block and a claim in the grouped amounts. -/
def groupedAmount (amounts : DepositAmountsByClaim) (claimId : String) (blockNumber : ℕ) :
    Option (ℕ × String) :=
  amounts[claimId]?.bind (·[blockNumber]?)

/-- The grouped amounts are the block totals of the deposits. -/
def Groups (hash : ℕ → String) (deposits : List Deposit) (amounts : DepositAmountsByClaim) :
    Prop :=
  ∀ claimId blockNumber, groupedAmount amounts claimId blockNumber =
    if blockDeposits deposits claimId blockNumber = [] then none
    else some (blockTotal deposits claimId blockNumber, hash blockNumber)

/-- A deposit counts for its own claim and block. -/
theorem blockDeposits_append (deposit : Deposit) :
    blockDeposits (deposits ++ [deposit]) claimId blockNumber =
      blockDeposits deposits claimId blockNumber ++
        if deposit.claimId = claimId ∧ deposit.blockNumber = blockNumber then [deposit] else [] := by
  simp [blockDeposits, List.filter_append, List.filter_singleton]

/-- The entry of a claim and a block, read in two steps. -/
theorem getD_getElem?_eq_groupedAmount :
    (amounts[claimId]?.getD ∅)[blockNumber]? = groupedAmount amounts claimId blockNumber := by
  unfold groupedAmount
  cases amounts[claimId]? <;> simp

/-- The entries after one of them is written. -/
theorem groupedAmount_insert {entry : ℕ × String} {otherClaim : String} {otherBlock : ℕ} :
    groupedAmount (amounts.insert claimId
        ((amounts[claimId]?.getD ∅).insert blockNumber entry)) otherClaim otherBlock =
      if claimId = otherClaim ∧ blockNumber = otherBlock then some entry
      else groupedAmount amounts otherClaim otherBlock := by
  by_cases hclaim : claimId = otherClaim
  · subst hclaim
    rw [groupedAmount, BTreeMap.get?_insert, if_pos rfl, Option.bind_some, BTreeMap.get?_insert,
      getD_getElem?_eq_groupedAmount]
    simp
  · rw [groupedAmount, BTreeMap.get?_insert, if_neg hclaim, groupedAmount]
    simp [hclaim]

/-- What a log that is accepted adds. -/
theorem addDepositLog_ok {log : BaseDepositLog} (hadd : addDepositLog amounts log = .ok amounts') :
    ∃ amount, parseAmount log.amount = .ok amount ∧
      let entry := (groupedAmount amounts log.claimId log.blockNumber).getD (0, log.blockHash)
      amounts' = amounts.insert log.claimId ((amounts[log.claimId]?.getD ∅).insert
        log.blockNumber (entry.1 + amount, entry.2)) := by
  simp only [addDepositLog, Fallible.bind_eq_ok, getD_getElem?_eq_groupedAmount] at hadd
  obtain ⟨amount, hamount, hadd⟩ := hadd
  refine ⟨amount, hamount, ?_⟩
  split_ifs at hadd
  · split at hadd
    · cases hadd
    · rename_i sum hsum
      obtain ⟨-, rfl⟩ := checkedAdd_eq_some.mp hsum
      exact (Except.ok.inj hadd).symm
  · cases hadd

/-- Every grouped block is the block of a log. -/
theorem mem_amountsByClaim {logs : List BaseDepositLog} (h : amountsByClaim logs = .ok amounts)
    {block : ℕ × ℕ × String} (hblock : block ∈ (amounts[claimId]?.getD ∅).toList) :
    ∃ log ∈ logs, log.blockNumber = block.1 := by
  rw [Std.ExtTreeMap.mem_toList_iff_getElem?_eq_some, getD_getElem?_eq_groupedAmount] at hblock
  induction logs using List.reverseRecOn generalizing amounts block with
  | nil =>
    obtain rfl : ∅ = amounts := Except.ok.inj h
    simp [groupedAmount] at hblock
  | append_singleton logs log ih =>
    rw [amountsByClaim, List.foldlM_append, Fallible.bind_eq_ok] at h
    obtain ⟨before, hbefore, hlast⟩ := h
    simp only [List.foldlM_cons, List.foldlM_nil, bind_pure] at hlast
    obtain ⟨amount, -, rfl⟩ := addDepositLog_ok hlast
    rw [groupedAmount_insert] at hblock
    by_cases hhere : log.claimId = claimId ∧ log.blockNumber = block.1
    · exact ⟨log, by simp, hhere.2⟩
    · rw [if_neg hhere] at hblock
      obtain ⟨earlier, hmem, hnumber⟩ := ih hbefore hblock
      exact ⟨earlier, by simp [hmem], hnumber⟩

/-- Grouping one more log. -/
theorem Groups.addDepositLog {deposit : Deposit} (h : Groups hash deposits amounts)
    (hadd : addDepositLog amounts (deposit.log hash) = .ok amounts') :
    Groups hash (deposits ++ [deposit]) amounts' := by
  intro claimId blockNumber
  obtain ⟨amount, hamount, rfl⟩ := addDepositLog_ok hadd
  obtain rfl : amount = deposit.amount := eq_of_parseAmount_amountToString hamount
  simp only [Deposit.log]
  rw [groupedAmount_insert, blockDeposits_append, blockTotal, blockDeposits_append]
  by_cases hhere : deposit.claimId = claimId ∧ deposit.blockNumber = blockNumber
  · obtain ⟨rfl, rfl⟩ := hhere
    rw [h deposit.claimId deposit.blockNumber]
    by_cases hempty : blockDeposits deposits deposit.claimId deposit.blockNumber = []
    · simp [hempty]
    · simp [hempty, blockTotal]
  · rw [if_neg hhere, if_neg hhere, h claimId blockNumber]
    simp [blockTotal]

/-- The result of `amounts_by_claim` on the logs of deposits. -/
theorem groups_amountsByClaim (h : amountsByClaim (deposits.map (Deposit.log hash)) = .ok amounts) :
    Groups hash deposits amounts := by
  induction deposits using List.reverseRecOn generalizing amounts with
  | nil =>
    obtain rfl : ∅ = amounts := Except.ok.inj h
    intro claimId blockNumber
    simp [groupedAmount, blockDeposits]
  | append_singleton deposits deposit ih =>
    rw [amountsByClaim, List.map_append, List.foldlM_append, Fallible.bind_eq_ok] at h
    obtain ⟨before, hbefore, hlast⟩ := h
    simp only [List.map_cons, List.map_nil, List.foldlM_cons, List.foldlM_nil, bind_pure] at hlast
    exact (ih hbefore).addDepositLog hlast

end Grouping

section Merging

variable {merged merged' start : MergedEvidence} {evidence : List PaymentEvidenceBlock}
  {blocks : List (ℕ × ℕ × String)} {block : ℕ × ℕ × String} {claim : EscrowClaim}

/-- The evidence entry of a grouped block. -/
def evidenceEntry (block : ℕ × ℕ × String) : PaymentEvidenceBlock :=
  ⟨block.1, block.2.2, amountToString block.2.1⟩

/-- The blocks that are not in the evidence yet. -/
def newBlocks (evidence : List PaymentEvidenceBlock) (blocks : List (ℕ × ℕ × String)) :
    List (ℕ × ℕ × String) :=
  blocks.filter fun block => block.1 ∉ evidence.map (·.blockNumber)

/-- A look-up fails for the blocks that are not in the evidence. -/
theorem evidenceOfBlock_eq_none {blockNumber : ℕ} :
    evidenceOfBlock evidence blockNumber = none ↔
      blockNumber ∉ evidence.map (·.blockNumber) := by
  simp [evidenceOfBlock]

/-- A checked sum of amounts. -/
theorem addAmount_ok {total amount sum : ℕ} (h : addAmount total amount = .ok sum) :
    sum = total + amount := by
  unfold addAmount at h
  split at h
  · rename_i value hvalue
    obtain ⟨-, rfl⟩ := checkedAdd_eq_some.mp hvalue
    exact (Except.ok.inj h).symm
  · cases h

/-- A block that is merged is already in the evidence or is added at its end. -/
theorem mergeBlock_ok (h : mergeBlock merged block = .ok merged') :
    block.1 ∈ merged.evidence.map (·.blockNumber) ∧ merged' = merged ∨
    block.1 ∉ merged.evidence.map (·.blockNumber) ∧
      merged'.evidence = merged.evidence ++ [evidenceEntry block] ∧
      merged'.totalPaid = merged.totalPaid + block.2.1 ∧
      merged'.claimCursor = some (max (merged.claimCursor.getD 0) block.1) := by
  unfold mergeBlock at h
  cases hexisting : evidenceOfBlock merged.evidence block.1 with
  | some existing =>
    have hmem : block.1 ∈ merged.evidence.map (·.blockNumber) := by
      by_contra hnot
      rw [evidenceOfBlock_eq_none.mpr hnot] at hexisting
      cases hexisting
    simp only [hexisting] at h
    split_ifs at h
    · exact .inl ⟨hmem, (Except.ok.inj h).symm⟩
    · cases h
  | none =>
    simp only [hexisting, Fallible.bind_eq_ok] at h
    obtain ⟨total, htotal, incremental, -, h⟩ := h
    obtain rfl := (Except.ok.inj h).symm
    exact .inr ⟨evidenceOfBlock_eq_none.mp hexisting, rfl, addAmount_ok htotal, rfl⟩

/-- After a block is added, the rest of the blocks is filtered as before. -/
theorem newBlocks_append (hfresh : block.1 ∉ blocks.map (·.1)) :
    newBlocks (evidence ++ [evidenceEntry block]) blocks = newBlocks evidence blocks := by
  apply List.filter_congr
  intro other hother
  have hne : other.1 ≠ block.1 := fun h => hfresh (h ▸ List.mem_map_of_mem hother)
  simp [evidenceEntry, hne]

/-- The loop of `merged_claim_evidence_for_session` adds exactly the new blocks. -/
theorem mergeBlocks_ok (hnodup : (blocks.map (·.1)).Nodup)
    (h : blocks.foldlM mergeBlock start = .ok merged) :
    merged.evidence = start.evidence ++ (newBlocks start.evidence blocks).map evidenceEntry ∧
      merged.totalPaid = start.totalPaid +
        ((newBlocks start.evidence blocks).map (·.2.1)).sum := by
  induction blocks generalizing start with
  | nil =>
    obtain rfl := Except.ok.inj h
    simp [newBlocks]
  | cons block blocks ih =>
    rw [List.foldlM_cons, Fallible.bind_eq_ok] at h
    obtain ⟨next, hnext, hrest⟩ := h
    rw [List.map_cons, List.nodup_cons] at hnodup
    obtain ⟨hevidence, htotal⟩ := ih hnodup.2 hrest
    rcases mergeBlock_ok hnext with ⟨hmem, rfl⟩ | ⟨hmem, hadded, hsum, -⟩
    · have hskip : newBlocks next.evidence (block :: blocks) = newBlocks next.evidence blocks :=
        List.filter_cons_of_neg (by simpa using hmem)
      rw [hskip]
      exact ⟨hevidence, htotal⟩
    · have hkeep : newBlocks start.evidence (block :: blocks) =
          block :: newBlocks start.evidence blocks := List.filter_cons_of_pos (by simpa using hmem)
      rw [hadded, newBlocks_append hnodup.1] at hevidence
      rw [hadded, newBlocks_append hnodup.1, hsum] at htotal
      rw [hkeep]
      constructor
      · rw [hevidence, List.map_cons, List.append_assoc, List.singleton_append]
      · rw [htotal, List.map_cons, List.sum_cons, Nat.add_assoc]

/-- The cursor of a merge stays between the old one and the last block. -/
theorem mergeBlocks_cursor {bound : ℕ} (hbound : ∀ block ∈ blocks, block.1 ≤ bound)
    (h : blocks.foldlM mergeBlock start = .ok merged) :
    start.claimCursor.getD 0 ≤ merged.claimCursor.getD 0 ∧
      merged.claimCursor.getD 0 ≤ max bound (start.claimCursor.getD 0) := by
  induction blocks generalizing start with
  | nil =>
    obtain rfl := Except.ok.inj h
    exact ⟨le_rfl, le_max_right _ _⟩
  | cons block blocks ih =>
    rw [List.foldlM_cons, Fallible.bind_eq_ok] at h
    obtain ⟨next, hnext, hrest⟩ := h
    have hblock := hbound block (by simp)
    have hrest' := ih (fun other hmem => hbound other (by simp [hmem])) hrest
    rcases mergeBlock_ok hnext with ⟨-, rfl⟩ | ⟨-, -, -, hcursor⟩
    · exact hrest'
    · rw [hcursor, Option.getD_some] at hrest'
      omega

/-- Sorting distinct blocks puts them in strictly increasing order. -/
theorem sortByBlock_increasing (hnodup : (evidence.map (·.blockNumber)).Nodup) :
    (sortByBlock evidence).Pairwise (·.blockNumber < ·.blockNumber) := by
  have htotal : Std.Total (α := PaymentEvidenceBlock) (·.blockNumber ≤ ·.blockNumber) :=
    ⟨fun first second => le_total first.blockNumber second.blockNumber⟩
  have htrans : IsTrans PaymentEvidenceBlock (·.blockNumber ≤ ·.blockNumber) :=
    ⟨fun _ _ _ => le_trans⟩
  have hsorted := List.pairwise_insertionSort (α := PaymentEvidenceBlock)
    (·.blockNumber ≤ ·.blockNumber) evidence
  have hdistinct : (sortByBlock evidence).Pairwise (·.blockNumber ≠ ·.blockNumber) := by
    rw [← List.pairwise_map (R := (· ≠ ·))]
    exact ((List.perm_insertionSort _ evidence).map _).nodup_iff.mpr hnodup
  exact hsorted.imp₂ (fun _ _ hle hne => lt_of_le_of_ne hle hne) hdistinct

/-- Old and new blocks are distinct. -/
theorem nodup_append_newBlocks (hevidence : (evidence.map (·.blockNumber)).Nodup)
    (hblocks : (blocks.map (·.1)).Nodup) :
    ((evidence ++ (newBlocks evidence blocks).map evidenceEntry).map (·.blockNumber)).Nodup := by
  have hnew : ((newBlocks evidence blocks).map evidenceEntry).map (·.blockNumber) =
      (newBlocks evidence blocks).map (·.1) := by
    rw [List.map_map]
    rfl
  rw [List.map_append, hnew]
  refine List.Nodup.append hevidence (hblocks.sublist (List.filter_sublist.map _)) ?_
  intro blockNumber hold hadded
  obtain ⟨block, hblock, rfl⟩ := List.mem_map.mp hadded
  exact absurd hold (by simpa [newBlocks] using (List.mem_filter.mp hblock).2)

/-- What `merged_claim_evidence_for_session` returns for a claim with ordered evidence. -/
theorem mergedClaimEvidenceForSession_ok {byBlock : Option DepositAmountByBlock}
    (hincreasing : claim.paymentEvidence.Pairwise (·.blockNumber < ·.blockNumber))
    (h : mergedClaimEvidenceForSession claim byBlock = .ok merged) :
    let new := newBlocks claim.paymentEvidence (byBlock.getD ∅).toList
    merged.evidence.Perm (claim.paymentEvidence ++ new.map evidenceEntry) ∧
      merged.evidence.Pairwise (·.blockNumber < ·.blockNumber) ∧
      ∃ total, parseAmount claim.paidAmount = .ok total ∧
        merged.totalPaid = total + (new.map (·.2.1)).sum := by
  simp only [mergedClaimEvidenceForSession, Fallible.bind_eq_ok] at h
  obtain ⟨total, htotal, h⟩ := h
  cases byBlock with
  | none =>
    obtain rfl := Except.ok.inj h
    refine ⟨?_, hincreasing, total, htotal, ?_⟩ <;> simp [newBlocks]
  | some byBlock =>
    simp only [Fallible.bind_eq_ok] at h
    obtain ⟨unsorted, hloop, h⟩ := h
    obtain rfl := Except.ok.inj h
    have hkeys : (byBlock.toList.map (·.1)).Nodup := by
      rw [Std.ExtTreeMap.map_fst_toList_eq_keys]
      exact Std.ExtTreeMap.nodup_keys
    obtain ⟨hevidence, hsum⟩ := mergeBlocks_ok hkeys hloop
    have hnodup : (unsorted.evidence.map (·.blockNumber)).Nodup := by
      rw [hevidence]
      exact nodup_append_newBlocks (List.pairwise_map.mpr (hincreasing.imp ne_of_lt)) hkeys
    refine ⟨?_, sortByBlock_increasing hnodup, total, htotal, hsum⟩
    exact (List.perm_insertionSort _ unsorted.evidence).trans (.of_eq hevidence)

end Merging

section Windows

variable {hash : ℕ → String} {chain deposits : List Deposit} {claimId : String}
  {claim : EscrowClaim} {covered : ℕ → Prop}

/-- The ledger of a claim: its evidence lists exactly the covered blocks with a deposit to
it, in increasing order and with their totals, and the paid amount is their sum. -/
structure Ledger (hash : ℕ → String) (chain : List Deposit) (claimId : String)
    (covered : ℕ → Prop) (claim : EscrowClaim) : Prop where
  increasing : claim.paymentEvidence.Pairwise (·.blockNumber < ·.blockNumber)
  blocks : ∀ blockNumber, blockNumber ∈ claim.paymentEvidence.map (·.blockNumber) ↔
    covered blockNumber ∧ blockDeposits chain claimId blockNumber ≠ []
  entries : ∀ entry ∈ claim.paymentEvidence, entry.blockHash = hash entry.blockNumber ∧
    entry.amount = amountToString (blockTotal chain claimId entry.blockNumber)
  paid : claim.paidAmount = amountToString
    (claim.paymentEvidence.map fun entry => blockTotal chain claimId entry.blockNumber).sum

/-- Some deposits show exactly the seen blocks of the chain, as far as a claim goes. -/
def Shows (deposits chain : List Deposit) (claimId : String) (seen : ℕ → Prop) : Prop :=
  ∀ blockNumber, (seen blockNumber →
      (blockDeposits deposits claimId blockNumber).Perm
        (blockDeposits chain claimId blockNumber)) ∧
    (¬ seen blockNumber → blockDeposits deposits claimId blockNumber = [])

/-- A grouped block is a seen block with a deposit, with its hash and its total. -/
theorem Groups.mem_toList {amounts : DepositAmountsByClaim} {seen : ℕ → Prop}
    (hgroups : Groups hash deposits amounts) (hshows : Shows deposits chain claimId seen)
    {block : ℕ × ℕ × String} : block ∈ (amounts[claimId]?.getD ∅).toList ↔
      (seen block.1 ∧ blockDeposits chain claimId block.1 ≠ []) ∧
        block.2 = (blockTotal chain claimId block.1, hash block.1) := by
  obtain ⟨blockNumber, entry⟩ := block
  rw [Std.ExtTreeMap.mem_toList_iff_getElem?_eq_some, getD_getElem?_eq_groupedAmount,
    hgroups claimId blockNumber]
  obtain ⟨hseen, hunseen⟩ := hshows blockNumber
  by_cases hcase : seen blockNumber
  · have htotal : blockTotal deposits claimId blockNumber = blockTotal chain claimId blockNumber :=
      ((hseen hcase).map _).sum_eq
    have hempty : blockDeposits deposits claimId blockNumber = [] ↔
        blockDeposits chain claimId blockNumber = [] := by
      rw [← List.length_eq_zero_iff, (hseen hcase).length_eq, List.length_eq_zero_iff]
    by_cases hnone : blockDeposits chain claimId blockNumber = []
    · simp [hempty.mpr hnone, hnone]
    · rw [if_neg (mt hempty.mp hnone), htotal]
      simp [hcase, hnone, eq_comm]
  · simp [hunseen hcase, hcase]

/-- Merging what a window shows extends the ledger by the blocks of the window. -/
theorem Ledger.merge {amounts : DepositAmountsByClaim} {seen : ℕ → Prop}
    {merged : MergedEvidence} {claim' : EscrowClaim}
    (hledger : Ledger hash chain claimId covered claim) (hgroups : Groups hash deposits amounts)
    (hshows : Shows deposits chain claimId seen)
    (hmerge : mergedClaimEvidenceForSession claim amounts[claimId]? = .ok merged)
    (hevidence : claim'.paymentEvidence = merged.evidence)
    (hpaid : claim'.paidAmount = amountToString merged.totalPaid) :
    Ledger hash chain claimId (fun blockNumber => covered blockNumber ∨ seen blockNumber)
      claim' := by
  obtain ⟨hperm, hincreasing, total, htotal, hsum⟩ :=
    mergedClaimEvidenceForSession_ok hledger.increasing hmerge
  obtain rfl : total = _ := eq_of_parseAmount_amountToString (hledger.paid ▸ htotal)
  set new := newBlocks claim.paymentEvidence (amounts[claimId]?.getD ∅).toList with hnew
  have hmem : ∀ block, block ∈ new ↔
      ((seen block.1 ∧ blockDeposits chain claimId block.1 ≠ []) ∧
        block.2 = (blockTotal chain claimId block.1, hash block.1)) ∧
      block.1 ∉ claim.paymentEvidence.map (·.blockNumber) := by
    intro block
    rw [hnew, newBlocks, List.mem_filter, hgroups.mem_toList hshows, decide_eq_true_eq]
  refine ⟨hevidence ▸ hincreasing, ?_, ?_, ?_⟩
  · intro blockNumber
    have hadded : blockNumber ∈ (new.map evidenceEntry).map (·.blockNumber) ↔
        (seen blockNumber ∧ blockDeposits chain claimId blockNumber ≠ []) ∧
          blockNumber ∉ claim.paymentEvidence.map (·.blockNumber) := by
      rw [List.map_map, List.mem_map]
      constructor
      · rintro ⟨block, hblock, rfl⟩
        obtain ⟨⟨hseen, -⟩, hfresh⟩ := (hmem block).mp hblock
        exact ⟨hseen, hfresh⟩
      · rintro ⟨hseen, hfresh⟩
        exact ⟨⟨blockNumber, blockTotal chain claimId blockNumber, hash blockNumber⟩,
          (hmem _).mpr ⟨⟨hseen, rfl⟩, hfresh⟩, rfl⟩
    have hold := hledger.blocks blockNumber
    rw [hevidence, (hperm.map _).mem_iff, List.map_append, List.mem_append, hadded]
    tauto
  · intro entry hentry
    rw [hevidence, hperm.mem_iff, List.mem_append, List.mem_map] at hentry
    rcases hentry with hold | ⟨block, hblock, rfl⟩
    · exact hledger.entries entry hold
    · obtain ⟨⟨-, hentry⟩, -⟩ := (hmem block).mp hblock
      simp [evidenceEntry, hentry]
  · rw [hpaid, hevidence, hsum, (hperm.map _).sum_eq, List.map_append, List.sum_append,
      List.map_map]
    congr 3
    apply List.map_congr_left
    intro block hblock
    obtain ⟨⟨-, hentry⟩, -⟩ := (hmem block).mp hblock
    simp [evidenceEntry, hentry]

end Windows

section Runs

/-- A scan: the window, the deposits that the node delivers in any order, the answers to
block-hash look-ups, and the time. -/
structure Scan where
  fromBlock : ℕ
  toBlock : ℕ
  delivered : List Deposit
  blockHashes : BlockHashes
  nowMs : ℕ

/-- A block is in the window of a scan. -/
def Scan.Covers (scan : Scan) (blockNumber : ℕ) : Prop :=
  scan.fromBlock ≤ blockNumber ∧ blockNumber ≤ scan.toBlock

/-- The deposits of a window to the claims of active sessions. -/
def activeDeposits (state : FactoryState) (chain : List Deposit) (scan : Scan) : List Deposit :=
  chain.filter fun deposit => deposit.claimId ∈ (activeSessions state).map (·.claimId) ∧
    scan.fromBlock ≤ deposit.blockNumber ∧ deposit.blockNumber ≤ scan.toBlock

/-- The update of a scan. -/
def Scan.reconcile (scan : Scan) (hash : ℕ → String) : Update (List EscrowClaim) :=
  reconcileEscrowPayments (scan.delivered.map (Deposit.log hash)) scan.blockHashes scan.toBlock
    scan.nowMs

/-- A run of completed scans during which a session stays awaiting payment. Each scan is
given exactly the logs of its window for the active claims. In between, other messages may
do anything that leaves this session and its claim alone. -/
inductive ScanRun (hash : ℕ → String) (chain : List Deposit) (sessionId : String) :
    FactoryState → List Scan → FactoryState → Prop
  | done (s : FactoryState) : ScanRun hash chain sessionId s [] s
  | other {s t u : FactoryState} {scans : List Scan}
      (hsession : t.sessions[sessionId]? = s.sessions[sessionId]?)
      (hclaim : t.escrowClaims[sessionId]? = s.escrowClaims[sessionId]?)
      (hrest : ScanRun hash chain sessionId t scans u) : ScanRun hash chain sessionId s scans u
  | scan {s t u : FactoryState} {scan : Scan} {scans : List Scan} {claims : List EscrowClaim}
      (hdelivered : scan.delivered.Perm (activeDeposits s chain scan))
      (hreconcile : scan.reconcile hash s = .ok claims t)
      (hawaiting : ∀ session, t.sessions[sessionId]? = some session →
        session.state = .awaitingPayment)
      (hrest : ScanRun hash chain sessionId t scans u) :
      ScanRun hash chain sessionId s (scan :: scans) u

variable {hash : ℕ → String} {chain : List Deposit} {sessionId : String} {s t : FactoryState}
  {scan : Scan} {scans : List Scan} {session : SpawnSession} {claim : EscrowClaim}

/-- The claims of active sessions are scanned. -/
theorem mem_activeSessions (hsession : s.sessions[sessionId]? = some session)
    (hpoll : sessionNeedsPaymentPoll session = true) : session ∈ activeSessions s := by
  simp only [activeSessions, List.mem_filter, List.mem_map]
  exact ⟨⟨(sessionId, session), Std.ExtTreeMap.mem_toList_iff_getElem?_eq_some.mpr hsession, rfl⟩,
    hpoll⟩

/-- What is delivered shows the window to the claim of an active session. -/
theorem shows_delivered (hsession : s.sessions[sessionId]? = some session)
    (hpoll : sessionNeedsPaymentPoll session = true)
    (hdelivered : scan.delivered.Perm (activeDeposits s chain scan)) :
    Shows scan.delivered chain session.claimId scan.Covers := by
  have hactive : session.claimId ∈ (activeSessions s).map (·.claimId) :=
    List.mem_map_of_mem (mem_activeSessions hsession hpoll)
  intro blockNumber
  have hperm := hdelivered.filter
    (fun deposit => deposit.claimId = session.claimId ∧ deposit.blockNumber = blockNumber)
  rw [activeDeposits, List.filter_filter] at hperm
  constructor
  · intro hcovers
    refine hperm.trans (.of_eq (List.filter_congr ?_))
    intro deposit _
    by_cases hhere : deposit.claimId = session.claimId ∧ deposit.blockNumber = blockNumber
    · simp [hhere, hactive, hcovers.1, hcovers.2]
    · simp [hhere]
  · intro hcovers
    refine (hperm.trans (.of_eq (List.filter_eq_nil_iff.mpr ?_))).eq_nil
    intro deposit _ hboth
    simp only [Bool.and_eq_true, decide_eq_true_eq] at hboth
    obtain ⟨⟨-, rfl⟩, -, hrange⟩ := hboth
    exact hcovers hrange

/-- The evidence that a payment is established from. -/
theorem observePayment_merged {amounts : DepositAmountsByClaim} {endpoints : List String}
    {lookup : ℕ → Except FactoryError String} {payment : ObservedPayment}
    (hpayment : observePayment amounts endpoints lookup session claim = .ok payment) :
    mergedClaimEvidenceForSession claim amounts[session.claimId]? =
      .ok payment.toMergedEvidence := by
  simp only [observePayment, Fallible.bind_eq_ok, Fallible.pure_eq_ok] at hpayment
  obtain ⟨merged, hmerged, required, -, canonical, -, rfl⟩ := hpayment
  exact hmerged

/-- The cursor of a claim after a window that ends at a block. -/
theorem cursor_eq {byBlock : Option DepositAmountByBlock} {payment : ObservedPayment}
    {toBlock : ℕ} (hbound : ∀ block ∈ (byBlock.getD ∅).toList, block.1 ≤ toBlock)
    (hmerge : mergedClaimEvidenceForSession claim byBlock = .ok payment.toMergedEvidence) :
    payment.cursor toBlock = max toBlock (claim.lastScannedBlock.getD 0) := by
  simp only [mergedClaimEvidenceForSession, Fallible.bind_eq_ok] at hmerge
  obtain ⟨total, -, hmerge⟩ := hmerge
  cases byBlock with
  | none =>
    have hmerged := Except.ok.inj hmerge
    rw [ObservedPayment.cursor, ← hmerged]
  | some byBlock =>
    simp only [Fallible.bind_eq_ok] at hmerge
    obtain ⟨unsorted, hloop, hmerge⟩ := hmerge
    have hmerged := Except.ok.inj hmerge
    have hcursor := mergeBlocks_cursor hbound hloop
    rw [ObservedPayment.cursor, ← hmerged]
    dsimp only at hcursor ⊢
    omega

/-- A session that still waits after a scan is polled again. -/
theorem needsPaymentPoll_scanned {payment : ObservedPayment} {toBlock nowMs : ℕ}
    (hstill : (session.scanned payment toBlock nowMs).state = .awaitingPayment)
    (hstatus : payment.paymentStatus ≠ .refunded) :
    sessionNeedsPaymentPoll (session.scanned payment toBlock nowMs) = true := by
  have hunpaid : payment.paymentStatus ≠ .paid := by
    intro hpaid
    simp only [SpawnSession.scanned, stateAfterScan, hpaid] at hstill
    split_ifs at hstill <;> simp_all
  simp only [sessionNeedsPaymentPoll, hstill]
  simp [SpawnSession.scanned, hunpaid, hstatus]

/-- One scan extends the ledger of a session that waits for its payment. -/
theorem Ledger.extend {covered : ℕ → Prop} {claims : List EscrowClaim}
    (hat : At s sessionId session claim) (hpoll : sessionNeedsPaymentPoll session = true)
    (hledger : Ledger hash chain session.claimId covered claim)
    (hdelivered : scan.delivered.Perm (activeDeposits s chain scan))
    (hreconcile : scan.reconcile hash s = .ok claims t) :
    ∃ session' claim', At t sessionId session' claim' ∧ session'.claimId = session.claimId ∧
      (session'.state = .awaitingPayment → sessionNeedsPaymentPoll session' = true) ∧
      Ledger hash chain session.claimId
        (fun blockNumber => covered blockNumber ∨ scan.Covers blockNumber) claim' ∧
      claim'.lastScannedBlock = some (max scan.toBlock (claim.lastScannedBlock.getD 0)) := by
  obtain ⟨amounts, hamounts, hscanned⟩ := scanned_of_reconcileEscrowPayments hreconcile
  have hgroups := groups_amountsByClaim hamounts
  have hshows := shows_delivered hat.session hpoll hdelivered
  obtain ⟨payment, hpayment, hat'⟩ := hscanned.host
    (mem_activeSessionIds.mpr ⟨session, hat.session, hpoll⟩) ⟨hat.session, hat.claim⟩
  have hmerge := observePayment_merged hpayment
  refine ⟨_, _, hat', rfl, ?_, hledger.merge hgroups hshows hmerge rfl rfl, ?_⟩
  · intro hstill
    exact needsPaymentPoll_scanned hstill (paymentStatus_ne_refunded hpayment)
  · have hbound : ∀ block ∈ (amounts[session.claimId]?.getD ∅).toList,
        block.1 ≤ scan.toBlock := fun block hblock =>
      ((hgroups.mem_toList hshows).mp hblock).1.1.2
    exact congrArg some (cursor_eq hbound hmerge)

/-- The largest of a cursor and some heights, with the first height folded in. -/
theorem max?_toList_append (cursor : Option ℕ) (height : ℕ) (heights : List ℕ) :
    (cursor.toList ++ height :: heights).max? =
      ((some (max height (cursor.getD 0))).toList ++ heights).max? := by
  cases cursor with
  | none => simp
  | some cursor =>
    simp only [Option.toList_some, List.singleton_append, List.max?_cons', List.foldl_cons,
      Option.getD_some, max_comm]

/-- A run of scans extends the ledger by all their windows. -/
theorem Ledger.run {covered : ℕ → Prop} (hrun : ScanRun hash chain sessionId s scans t)
    (hat : At s sessionId session claim) (hpoll : sessionNeedsPaymentPoll session = true)
    (hledger : Ledger hash chain session.claimId covered claim) :
    ∃ session' claim', At t sessionId session' claim' ∧
      Ledger hash chain session.claimId
        (fun blockNumber => covered blockNumber ∨ ∃ scan ∈ scans, scan.Covers blockNumber) claim' ∧
      claim'.lastScannedBlock =
        (claim.lastScannedBlock.toList ++ scans.map (·.toBlock)).max? := by
  induction hrun generalizing session claim covered with
  | done s =>
    refine ⟨session, claim, hat, by simpa using hledger, ?_⟩
    cases claim.lastScannedBlock <;> simp
  | other hsession hclaim _ ih =>
    exact ih ⟨hsession.trans hat.session, hclaim.trans hat.claim⟩ hpoll hledger
  | @scan s t u scan scans claims hdelivered hreconcile hawaiting _ ih =>
    obtain ⟨session', claim', hat', hclaimId, hstill, hledger', hcursor⟩ :=
      hledger.extend hat hpoll hdelivered hreconcile
    rw [← hclaimId] at hledger'
    obtain ⟨session'', claim'', hat'', hledger'', hcursor''⟩ :=
      ih hat' (hstill (hawaiting session' hat'.session)) hledger'
    refine ⟨session'', claim'', hat'', ?_, ?_⟩
    · rw [hclaimId] at hledger''
      simpa [or_assoc] using hledger''
    · rw [hcursor'', hcursor, List.map_cons, max?_toList_append]

/-- No deposit is lost or counted twice: after any run of scans over any windows, the
evidence of a claim that started empty lists exactly the blocks of the windows that hold a
deposit to it, in increasing order and with their sums, the paid amount is the sum of the
listed amounts, and the cursor is the largest of its old value and the scan heights. -/
theorem deposits_counted_once (hrun : ScanRun hash chain sessionId s scans t)
    (hat : At s sessionId session claim) (hawaiting : session.state = .awaitingPayment)
    (hunpaid : session.paymentStatus = .unpaid) (hempty : claim.paymentEvidence = [])
    (hzero : claim.paidAmount = "0") :
    ∃ session' claim', At t sessionId session' claim' ∧
      Ledger hash chain session.claimId
        (fun blockNumber => ∃ scan ∈ scans, scan.Covers blockNumber) claim' ∧
      claim'.lastScannedBlock =
        (claim.lastScannedBlock.toList ++ scans.map (·.toBlock)).max? := by
  have hpoll : sessionNeedsPaymentPoll session = true := by
    simp [sessionNeedsPaymentPoll, hawaiting, hunpaid]
  have hledger : Ledger hash chain session.claimId (fun _ => False) claim := by
    refine ⟨?_, ?_, ?_, ?_⟩
    · simp [hempty]
    · simp [hempty]
    · simp [hempty]
    · rw [hzero, hempty, List.map_nil, List.sum_nil]
      decide
  obtain ⟨session', claim', hat', hledger', hcursor⟩ := Ledger.run hrun hat hpoll hledger
  exact ⟨session', claim', hat', by simpa using hledger', hcursor⟩

end Runs

/-- Three deposits to the first session, two of them in one block, and one to another claim. -/
def sampleChain : List Deposit :=
  let claimId := sampleExternals.deriveClaimId firstId
  [⟨claimId, 10000000, 7⟩, ⟨"0x00", 1, 7⟩, ⟨claimId, 5000000, 7⟩, ⟨claimId, 20000000, 9⟩]

/-- A hash for each block. -/
def sampleHash (blockNumber : ℕ) : String := "0x" ++ hex16 blockNumber

/-- A scan of a window of the sample chain, in the reverse order of the logs. -/
def sampleScan (state : FactoryState) (fromBlock toBlock : ℕ) : Scan :=
  let window : Scan := ⟨fromBlock, toBlock, [], fun _ blockNumber => .ok (sampleHash blockNumber), 9⟩
  { window with delivered := (activeDeposits state sampleChain window).reverse }

/-- A factory with one session. -/
def sampleStart : FactoryState := after (createSample firstId 1) .default

/-- The factory after a first scan. -/
def sampleMiddle : FactoryState :=
  after ((sampleScan sampleStart 5 8).reconcile sampleHash) sampleStart

/-- The factory after a second scan of an overlapping window. -/
def sampleEnd : FactoryState :=
  after ((sampleScan sampleMiddle 7 9).reconcile sampleHash) sampleMiddle

/-- The sample session waits for its payment all the time. -/
theorem sample_awaiting : ∀ state ∈ [sampleStart, sampleMiddle, sampleEnd],
    state.sessions[firstId]?.map (·.state) = some .awaitingPayment := by
  decide +kernel

/-- The two scans of the sample are a run. -/
theorem sampleStart_run : ScanRun sampleHash sampleChain firstId sampleStart
    [sampleScan sampleStart 5 8, sampleScan sampleMiddle 7 9] sampleEnd := by
  obtain ⟨first, hfirst⟩ := run_eq_ok (m := (sampleScan sampleStart 5 8).reconcile sampleHash)
    (s := sampleStart) (by decide +kernel)
  obtain ⟨second, hsecond⟩ := run_eq_ok (m := (sampleScan sampleMiddle 7 9).reconcile sampleHash)
    (s := sampleMiddle) (by decide +kernel)
  have hawaiting : ∀ state ∈ [sampleStart, sampleMiddle, sampleEnd], ∀ session,
      state.sessions[firstId]? = some session → session.state = .awaitingPayment := by
    intro state hstate session hsession
    have hmap := sample_awaiting state hstate
    rw [hsession] at hmap
    exact Option.some.inj hmap
  exact .scan (by decide +kernel) hfirst (hawaiting sampleMiddle (by simp))
    (.scan (by decide +kernel) hsecond (hawaiting sampleEnd (by simp)) (.done _))

/-- Blocks 7 and 9 are counted once each, though block 7 is scanned twice. -/
theorem sampleEnd_counted_once : ∃ session claim, At sampleEnd firstId session claim ∧
    Ledger sampleHash sampleChain (sampleExternals.deriveClaimId firstId)
      (fun blockNumber => ∃ scan ∈ [sampleScan sampleStart 5 8, sampleScan sampleMiddle 7 9],
        scan.Covers blockNumber) claim ∧
    claim.lastScannedBlock = some 9 := by
  obtain ⟨session, hsession⟩ := Option.isSome_iff_exists.mp
    (show (sampleStart.sessions[firstId]?).isSome = true by decide +kernel)
  obtain ⟨claim, hclaim⟩ := Option.isSome_iff_exists.mp
    (show (sampleStart.escrowClaims[firstId]?).isSome = true by decide +kernel)
  have hstart : sampleStart.sessions[firstId]?.map (fun session =>
      (session.state, session.paymentStatus, session.claimId)) =
      some (.awaitingPayment, .unpaid, sampleExternals.deriveClaimId firstId) := by decide +kernel
  have hfresh : sampleStart.escrowClaims[firstId]?.map (fun claim =>
      (claim.paymentEvidence, claim.paidAmount, claim.lastScannedBlock)) =
      some ([], "0", none) := by decide +kernel
  rw [hsession, Option.map_some, Option.some_inj, Prod.mk.injEq, Prod.mk.injEq] at hstart
  rw [hclaim, Option.map_some, Option.some_inj, Prod.mk.injEq, Prod.mk.injEq] at hfresh
  obtain ⟨session', claim', hat, hledger, hcursor⟩ := deposits_counted_once sampleStart_run
    ⟨hsession, hclaim⟩ hstart.1 hstart.2.1 hfresh.1 hfresh.2.1
  rw [hstart.2.2] at hledger
  rw [hfresh.2.2] at hcursor
  exact ⟨session', claim', hat, hledger, hcursor⟩

end Automaton.Factory
