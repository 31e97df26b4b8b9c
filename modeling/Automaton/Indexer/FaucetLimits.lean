import Automaton.Indexer.Faucet
import Automaton.Library.Transition

/-!
# The limits of the faucet

Claims of any number of callers, interleaved at their awaits. A claim counts what was recorded when
it read the counts, so a limit holds as long as a claim whose funding succeeds has counted the
earlier fundings of its wallet and of its IP address.
-/

namespace Automaton.Indexer

open Transition

/-- A funding that succeeded. -/
structure Funding where
  claimId : ℕ
  walletAddress : String
  ipHash : String
  claimedAt : ℤ
  deriving DecidableEq

/-- Counts that a claim has read, with the fundings that were recorded then. -/
structure CountedStats where
  stats : FaucetClaimWindowStats
  recorded : List Funding

/-- What `claim` throws. -/
inductive ClaimError
  | faucet (error : FaucetError)
  | other (message : String)

/-- Where a claim is. -/
inductive ClaimState
  | reading (claim : FaucetClaim) (wallet ip : Option CountedStats)
  | seeding (claim : FaucetClaim) (wallet ip : CountedStats)
  | recording (claim : FaucetClaim) (seededWallet : SeedLocalWalletSummary)
  | ended (outcome : Except ClaimError FaucetClaimResult)

/-- The table of the claims and the claims that were started. -/
structure FaucetWorld where
  rows : List FaucetClaimRecord
  claims : List ClaimState
  /-- The fundings that succeeded, in their order. -/
  fundings : List Funding
  /-- The fundings that were recorded. -/
  recorded : List Funding
  /-- The claims for which money has moved. -/
  moved : List ℕ

/-- No claim was started yet. -/
def FaucetWorld.start (rows : List FaucetClaimRecord) : FaucetWorld := ⟨rows, [], [], [], []⟩

/-- The steps of the claims. A funding that fails may have moved money. -/
inductive FaucetAct
  | start (input : FaucetClaimInput) (now : ℤ)
  | readWallet (i : ℕ)
  | readIp (i : ℕ)
  | checkLimits (i : ℕ)
  | seed (i : ℕ) (answer : Except String SeedLocalWalletSummary) (moved : Bool)
  | record (i : ℕ) (stored : Except String Unit)

/-- The funding of a claim. -/
def FaucetClaim.funding (claim : FaucetClaim) (i : ℕ) : Funding :=
  ⟨i, claim.walletAddress, claim.ipHash, claim.now⟩

/-- A claim gets to another state. -/
def FaucetWorld.setClaim (world : FaucetWorld) (i : ℕ) (state : ClaimState) : FaucetWorld :=
  { world with claims := world.claims.set i state }

section Steps

variable (service : FaucetService) (hashIpAddress : String → String)

/-- A claim is started. -/
def FaucetWorld.startClaim (world : FaucetWorld) (input : FaucetClaimInput) (now : ℤ) :
    FaucetWorld :=
  let state := match service.begin hashIpAddress input now with
    | .error error => .ended (.error (.faucet error))
    | .ok claim => .reading claim none none
  { world with claims := world.claims ++ [state] }

/-- The counts of the wallet arrive. -/
def FaucetWorld.readWallet (world : FaucetWorld) (i : ℕ) : FaucetWorld :=
  match world.claims[i]? with
  | some (.reading claim none ip) =>
    match getFaucetClaimWindowStats world.rows (some claim.walletAddress) none
      (service.since claim) with
    | .error message => world.setClaim i (.ended (.error (.other message)))
    | .ok stats => world.setClaim i (.reading claim (some ⟨stats, world.recorded⟩) ip)
  | _ => world

/-- The counts of the IP address arrive. -/
def FaucetWorld.readIp (world : FaucetWorld) (i : ℕ) : FaucetWorld :=
  match world.claims[i]? with
  | some (.reading claim wallet none) =>
    match getFaucetClaimWindowStats world.rows none (some claim.ipHash) (service.since claim) with
    | .error message => world.setClaim i (.ended (.error (.other message)))
    | .ok stats => world.setClaim i (.reading claim wallet (some ⟨stats, world.recorded⟩))
  | _ => world

/-- Both counts have arrived. -/
def FaucetWorld.checkLimits (world : FaucetWorld) (i : ℕ) : FaucetWorld :=
  match world.claims[i]? with
  | some (.reading claim (some wallet) (some ip)) =>
    match service.checkLimits claim wallet.stats ip.stats with
    | .error error => world.setClaim i (.ended (.error (.faucet error)))
    | .ok () => world.setClaim i (.seeding claim wallet ip)
  | _ => world

/-- `seedWallet` returns or fails. -/
def FaucetWorld.seed (world : FaucetWorld) (i : ℕ) (answer : Except String SeedLocalWalletSummary)
    (moved : Bool) : FaucetWorld :=
  match world.claims[i]? with
  | some (.seeding claim _ _) =>
    match answer with
    | .ok seededWallet =>
      { world.setClaim i (.recording claim seededWallet) with
        fundings := world.fundings ++ [claim.funding i]
        moved := world.moved ++ [i] }
    | .error _ =>
      { world.setClaim i (.ended (.error (.faucet ⟨502, "Faucet funding failed.", none⟩))) with
        moved := if moved then world.moved ++ [i] else world.moved }
  | _ => world

/-- `recordFaucetClaim` returns or fails. -/
def FaucetWorld.record (world : FaucetWorld) (i : ℕ) (stored : Except String Unit) : FaucetWorld :=
  match world.claims[i]? with
  | some (.recording claim seededWallet) =>
    match stored with
    | .ok () =>
      { world.setClaim i (.ended (.ok (service.result claim seededWallet))) with
        rows := world.rows ++ [service.record claim seededWallet]
        recorded := world.recorded ++ [claim.funding i] }
    | .error message => world.setClaim i (.ended (.error (.other message)))
  | _ => world

/-- The world after a step. -/
def FaucetAct.apply : FaucetAct → FaucetWorld → FaucetWorld
  | start input now, world => world.startClaim service hashIpAddress input now
  | readWallet i, world => world.readWallet service i
  | readIp i, world => world.readIp service i
  | checkLimits i, world => world.checkLimits service i
  | seed i answer moved, world => world.seed i answer moved
  | record i stored, world => world.record service i stored

/-- A claim has counted the fundings of its window that meet a test. -/
def FaucetClaim.counted (claim : FaucetClaim) (fundings : List Funding) (test : Funding → Bool)
    (counts : CountedStats) : Bool :=
  fundings.all fun funding =>
    !(test funding && service.since claim ≤ funding.claimedAt) || counts.recorded.contains funding

/-- A claim whose funding succeeds has counted all earlier fundings of its wallet and of its IP
address in its window, and a funding that fails has moved nothing. -/
def FaucetWorld.countsFundings (world : FaucetWorld) : FaucetAct → Bool
  | .seed i (.ok _) _ =>
    match world.claims[i]? with
    | some (.seeding claim wallet ip) =>
      claim.counted service world.fundings (·.walletAddress = claim.walletAddress) wallet &&
        claim.counted service world.fundings (·.ipHash = claim.ipHash) ip
    | _ => true
  | .seed _ (.error _) moved => !moved
  | _ => true

/-- The number of fundings in a window that starts at a time. -/
def FaucetWorld.fundingsIn (world : FaucetWorld) (test : Funding → Bool) (start : ℤ) : ℕ :=
  world.fundings.countP fun funding =>
    test funding && start ≤ funding.claimedAt && funding.claimedAt < start + service.windowMs

/-- The limits hold in every window, and a claim that throws a `FaucetError` has funded nothing. -/
structure FaucetWorld.KeepsLimits (world : FaucetWorld) : Prop where
  wallet : ∀ walletAddress start,
    world.fundingsIn service (·.walletAddress = walletAddress) start ≤
      service.metadata.claimLimits.maxClaimsPerWallet
  ip : ∀ ipHash start,
    world.fundingsIn service (·.ipHash = ipHash) start ≤
      service.metadata.claimLimits.maxClaimsPerIp
  thrown : ∀ i error, world.claims[i]? = some (.ended (.error (.faucet error))) → i ∉ world.moved

end Steps

section Counting

variable {service : FaucetService} {claim : FaucetClaim} {fundings : List Funding}
  {counts : CountedStats} {test : Funding → Bool} {start window : ℤ} {limit : ℕ}

/-- A window holds one more funding when fewer than the limit came before it in a window's time. -/
theorem countP_window_concat {funding : Funding}
    (hbefore : fundings.countP (fun f =>
      test f && start ≤ f.claimedAt && f.claimedAt < start + window) ≤ limit)
    (hnew : test funding → fundings.countP (fun f =>
      test f && funding.claimedAt - window ≤ f.claimedAt) < limit) :
    (fundings ++ [funding]).countP (fun f =>
      test f && start ≤ f.claimedAt && f.claimedAt < start + window) ≤ limit := by
  rw [List.countP_append, List.countP_singleton]
  split_ifs with hin
  · simp only [Bool.and_eq_true, decide_eq_true_eq] at hin
    obtain ⟨⟨htest, hstart⟩, hend⟩ := hin
    have hmono : fundings.countP (fun f =>
        test f && start ≤ f.claimedAt && f.claimedAt < start + window) ≤
          fundings.countP (fun f => test f && funding.claimedAt - window ≤ f.claimedAt) := by
      apply List.countP_mono_left
      intro f _ hf
      simp only [Bool.and_eq_true, decide_eq_true_eq] at hf ⊢
      exact ⟨hf.1.1, by omega⟩
    have := hnew htest
    omega
  · omega

/-- What a claim has counted is at least the number of the fundings that it has counted. -/
theorem countP_le_of_counted (hnodup : fundings.Nodup)
    (h : claim.counted service fundings test counts = true) :
    fundings.countP (fun f => test f && service.since claim ≤ f.claimedAt) ≤
      counts.recorded.countP (fun f => test f && service.since claim ≤ f.claimedAt) := by
  rw [List.countP_eq_length_filter, List.countP_eq_length_filter]
  apply (List.Nodup.subperm (hnodup.filter _) _).length_le
  intro f hf
  obtain ⟨hmem, htest⟩ := List.mem_filter.mp hf
  have hcounted := List.all_eq_true.mp h f hmem
  rw [htest, Bool.not_true, Bool.false_or, List.contains_iff_mem] at hcounted
  exact List.mem_filter.mpr ⟨hcounted, htest⟩

end Counting

/-- What a funding and its row have in common. -/
def Funding.key (funding : Funding) : String × String × ℤ :=
  (funding.walletAddress, funding.ipHash, funding.claimedAt)

/-- What a row and its funding have in common. -/
def FaucetClaimRecord.key (row : FaucetClaimRecord) : String × String × ℤ :=
  (row.walletAddress, row.ipHash, row.claimedAt)

section Invariant

variable (service : FaucetService)

/-- The counts are at least the number of recorded fundings in the window of a claim. -/
def CountedStats.Covers (counts : CountedStats) (claim : FaucetClaim) (test : Funding → Bool) :
    Prop :=
  counts.recorded.countP (fun f => test f && service.since claim ≤ f.claimedAt) ≤ counts.stats.count

/-- What a claim knows in a state. -/
def ClaimState.Counted : ClaimState → Prop
  | reading claim wallet ip =>
    (∀ counts ∈ wallet, counts.Covers service claim (·.walletAddress = claim.walletAddress)) ∧
      ∀ counts ∈ ip, counts.Covers service claim (·.ipHash = claim.ipHash)
  | seeding claim wallet ip =>
    (wallet.Covers service claim (·.walletAddress = claim.walletAddress) ∧
      wallet.stats.count < service.metadata.claimLimits.maxClaimsPerWallet) ∧
    ip.Covers service claim (·.ipHash = claim.ipHash) ∧
      ip.stats.count < service.metadata.claimLimits.maxClaimsPerIp
  | _ => True

/-- A state after a funding that succeeded. -/
def ClaimState.Funded : ClaimState → Prop
  | recording _ _ => True
  | ended (.ok _) => True
  | ended (.error (.other _)) => True
  | _ => False

/-- The invariant of the claims. -/
structure FaucetInv (world : FaucetWorld) : Prop where
  recorded : (world.recorded.map Funding.key).Sublist (world.rows.map FaucetClaimRecord.key)
  claims : ∀ {i : ℕ} {state : ClaimState}, world.claims[i]? = some state → state.Counted service
  funded : ∀ i ∈ world.fundings.map (·.claimId),
    ∃ state, world.claims[i]? = some state ∧ state.Funded
  distinct : (world.fundings.map (·.claimId)).Nodup
  moved : world.moved = world.fundings.map (·.claimId)
  wallet : ∀ walletAddress start,
    world.fundingsIn service (·.walletAddress = walletAddress) start ≤
      service.metadata.claimLimits.maxClaimsPerWallet
  ip : ∀ ipHash start,
    world.fundingsIn service (·.ipHash = ipHash) start ≤
      service.metadata.claimLimits.maxClaimsPerIp

variable {service} {world : FaucetWorld} {i : ℕ} {old new : ClaimState}

/-- The limits hold under the invariant. -/
theorem FaucetInv.keepsLimits (h : FaucetInv service world) : world.KeepsLimits service := by
  refine ⟨h.wallet, h.ip, ?_⟩
  intro i error hended hmoved
  rw [h.moved] at hmoved
  obtain ⟨state, hstate, hfunded⟩ := h.funded i hmoved
  obtain rfl := Option.some.inj (hended.symm.trans hstate)
  exact hfunded

/-- A claim gets to another state, and its funding is not taken back. -/
theorem FaucetInv.setClaim (h : FaucetInv service world) (hold : world.claims[i]? = some old)
    (hcounted : new.Counted service) (hfunded : old.Funded → new.Funded) :
    FaucetInv service (world.setClaim i new) := by
  refine ⟨h.recorded, ?_, ?_, h.distinct, h.moved, h.wallet, h.ip⟩
  · intro j state hstate
    rw [FaucetWorld.setClaim, List.getElem?_set] at hstate
    split_ifs at hstate with hj
    · obtain rfl := Option.some.inj hstate
      exact hcounted
    · exact h.claims hstate
  · intro j hj
    obtain ⟨state, hstate, hstateFunded⟩ := h.funded j hj
    rw [FaucetWorld.setClaim, List.getElem?_set]
    by_cases hij : i = j
    · subst hij
      obtain rfl := Option.some.inj (hold.symm.trans hstate)
      have hlt := (List.getElem?_eq_some_iff.mp hold).1
      exact ⟨new, by simp [hlt], hfunded hstateFunded⟩
    · exact ⟨state, by simp [hij, hstate], hstateFunded⟩

/-- A new claim has no funding. -/
theorem FaucetInv.startClaim {hashIpAddress : String → String} {input : FaucetClaimInput}
    {now : ℤ} (h : FaucetInv service world) :
    FaucetInv service (world.startClaim service hashIpAddress input now) := by
  refine ⟨h.recorded, ?_, ?_, h.distinct, h.moved, h.wallet, h.ip⟩
  · intro j state hstate
    rw [FaucetWorld.startClaim, List.getElem?_append] at hstate
    split_ifs at hstate with hj
    · exact h.claims hstate
    · rw [List.getElem?_singleton] at hstate
      split_ifs at hstate
      obtain rfl := Option.some.inj hstate
      cases service.begin hashIpAddress input now with
      | error error => trivial
      | ok claim => exact ⟨by simp, by simp⟩
  · intro j hj
    obtain ⟨state, hstate, hfunded⟩ := h.funded j hj
    have hlt := (List.getElem?_eq_some_iff.mp hstate).1
    exact ⟨state, by rw [FaucetWorld.startClaim, List.getElem?_append_left hlt]; exact hstate,
      hfunded⟩

/-- The counts that a claim reads cover the recorded fundings. -/
theorem covers_of_stats {claim : FaucetClaim} {test : Funding → Bool}
    {walletAddress ipHash : Option String} {stats : FaucetClaimWindowStats}
    (h : FaucetInv service world)
    (hstats : getFaucetClaimWindowStats world.rows walletAddress ipHash (service.since claim) =
      .ok stats)
    (htest : ∀ funding, test funding = ((walletAddress.filter (· ≠ "")).all
        (funding.walletAddress = ·) && (ipHash.filter (· ≠ "")).all (funding.ipHash = ·))) :
    CountedStats.Covers service ⟨stats, world.recorded⟩ claim test := by
  simp only [getFaucetClaimWindowStats] at hstats
  split_ifs at hstats
  obtain rfl := Except.ok.inj hstats
  let inWindow (key : String × String × ℤ) : Bool := decide (service.since claim ≤ key.2.2) &&
    ((walletAddress.filter (· ≠ "")).all (key.1 = ·) && (ipHash.filter (· ≠ "")).all (key.2.1 = ·))
  have hrecorded : world.recorded.countP (fun f => test f && service.since claim ≤ f.claimedAt) =
      (world.recorded.map Funding.key).countP inWindow := by
    rw [List.countP_map]
    congr 1
    funext funding
    rw [htest, Bool.and_comm]
    rfl
  have hrows : (world.rows.map FaucetClaimRecord.key).countP inWindow =
      world.rows.countP (inWindow ∘ FaucetClaimRecord.key) := List.countP_map
  rw [CountedStats.Covers, hrecorded]
  refine h.recorded.countP_le.trans (le_of_eq ?_)
  rw [hrows, List.countP_eq_length_filter]
  rfl

/-- The counts of the wallet keep the invariant. -/
theorem FaucetInv.readWallet (h : FaucetInv service world) :
    FaucetInv service (world.readWallet service i) := by
  unfold FaucetWorld.readWallet
  split
  · rename_i claim ip hold
    split
    · exact h.setClaim hold trivial False.elim
    · rename_i stats hstats
      refine h.setClaim hold ⟨?_, (h.claims hold).2⟩ False.elim
      rintro counts ⟨⟩
      apply covers_of_stats h hstats
      intro funding
      have hne : claim.walletAddress ≠ "" := by
        intro hempty
        simp [hempty, getFaucetClaimWindowStats] at hstats
      simp [Option.filter, hne]
  · exact h

/-- The counts of the IP address keep the invariant. -/
theorem FaucetInv.readIp (h : FaucetInv service world) :
    FaucetInv service (world.readIp service i) := by
  unfold FaucetWorld.readIp
  split
  · rename_i claim wallet hold
    split
    · exact h.setClaim hold trivial False.elim
    · rename_i stats hstats
      refine h.setClaim hold ⟨(h.claims hold).1, ?_⟩ False.elim
      rintro counts ⟨⟩
      apply covers_of_stats h hstats
      intro funding
      have hne : claim.ipHash ≠ "" := by
        intro hempty
        simp [hempty, getFaucetClaimWindowStats] at hstats
      simp [Option.filter, hne]
  · exact h

/-- A claim that passes the checks has counted less than the limits. -/
theorem FaucetInv.checkLimits (h : FaucetInv service world) :
    FaucetInv service (world.checkLimits service i) := by
  unfold FaucetWorld.checkLimits
  split
  · rename_i claim wallet ip hold
    obtain ⟨hwallet, hip⟩ := h.claims hold
    split
    · exact h.setClaim hold trivial False.elim
    · rename_i hchecked
      simp only [FaucetService.checkLimits] at hchecked
      split_ifs at hchecked with hwalletLimit hipLimit
      refine h.setClaim hold ⟨⟨hwallet wallet rfl, ?_⟩, hip ip rfl, ?_⟩ False.elim
      · omega
      · omega
  · exact h

/-- A recorded claim has its row. -/
theorem FaucetInv.record {stored : Except String Unit} (h : FaucetInv service world) :
    FaucetInv service (world.record service i stored) := by
  unfold FaucetWorld.record
  split
  · rename_i claim seededWallet hold
    cases stored with
    | error message => exact h.setClaim hold trivial fun _ => trivial
    | ok =>
      have hset : FaucetInv service (world.setClaim i (.ended (.ok (service.result claim
          seededWallet)))) := h.setClaim hold trivial fun _ => trivial
      refine { hset with recorded := ?_ }
      rw [List.map_append, List.map_append]
      exact h.recorded.append (List.Sublist.refl [claim.funding i |>.key])
  · exact h

/-- A funding that succeeds is within the limits, when the claim has counted the earlier ones. -/
theorem FaucetInv.seed {answer : Except String SeedLocalWalletSummary} {moved : Bool}
    (h : FaucetInv service world)
    (hcounts : world.countsFundings service (.seed i answer moved) = true) :
    FaucetInv service (world.seed i answer moved) := by
  unfold FaucetWorld.seed
  split
  · rename_i claim wallet ip hold
    obtain ⟨⟨hwallet, hwalletLimit⟩, hip, hipLimit⟩ := h.claims hold
    cases answer with
    | error message =>
      have hmoved : moved = false := by simpa [FaucetWorld.countsFundings] using hcounts
      subst hmoved
      exact h.setClaim hold trivial False.elim
    | ok seededWallet =>
      have hset : FaucetInv service (world.setClaim i (.recording claim seededWallet)) :=
        h.setClaim hold trivial False.elim
      simp only [FaucetWorld.countsFundings, hold, Bool.and_eq_true] at hcounts
      have hnodup : world.fundings.Nodup := h.distinct.of_map
      have hids : (world.fundings ++ [claim.funding i]).map (·.claimId) =
          world.fundings.map (·.claimId) ++ [i] := by
        rw [List.map_append]
        rfl
      have hfresh : i ∉ world.fundings.map (·.claimId) := by
        intro hmem
        obtain ⟨state, hstate, hfunded⟩ := h.funded i hmem
        obtain rfl := Option.some.inj (hold.symm.trans hstate)
        exact hfunded
      refine ⟨h.recorded, hset.claims, ?_, ?_, ?_, ?_, ?_⟩
      · intro j hj
        rw [hids] at hj
        rcases List.mem_append.mp hj with hj | hj
        · exact hset.funded j hj
        · obtain rfl := List.mem_singleton.mp hj
          have hlt := (List.getElem?_eq_some_iff.mp hold).1
          exact ⟨.recording claim seededWallet, by simp [FaucetWorld.setClaim, hlt], trivial⟩
      · rw [hids]
        rw [← List.concat_eq_append]
        exact List.Nodup.concat hfresh h.distinct
      · rw [hids]
        exact congrArg (· ++ [i]) h.moved
      · intro walletAddress start
        apply countP_window_concat (h.wallet walletAddress start)
        intro htest
        obtain rfl := of_decide_eq_true htest
        exact ((countP_le_of_counted hnodup hcounts.1).trans hwallet).trans_lt hwalletLimit
      · intro ipHash start
        apply countP_window_concat (h.ip ipHash start)
        intro htest
        obtain rfl := of_decide_eq_true htest
        exact ((countP_le_of_counted hnodup hcounts.2).trans hip).trans_lt hipLimit
  · exact h

/-- Every step whose claim has counted the earlier fundings keeps the invariant. -/
theorem FaucetInv.apply {hashIpAddress : String → String} {act : FaucetAct}
    (h : FaucetInv service world) (hcounts : world.countsFundings service act = true) :
    FaucetInv service (act.apply service hashIpAddress world) := by
  cases act with
  | start input now => exact h.startClaim
  | readWallet i => exact h.readWallet
  | readIp i => exact h.readIp
  | checkLimits i => exact h.checkLimits
  | seed i answer moved => exact h.seed hcounts
  | record i stored => exact h.record

/-- The invariant holds before the first claim. -/
theorem FaucetInv.start {rows : List FaucetClaimRecord} : FaucetInv service (.start rows) := by
  refine ⟨List.nil_sublist _, ?_, ?_, List.nodup_nil, rfl, ?_, ?_⟩
  · intro i state hstate
    simp [FaucetWorld.start] at hstate
  · simp [FaucetWorld.start]
  · intro walletAddress start
    exact Nat.zero_le _
  · intro ipHash start
    exact Nat.zero_le _

end Invariant

/-- The limits of the faucet hold in every run in which a claim whose funding succeeds has counted
the earlier fundings of its wallet and of its IP address, and a funding that fails moves nothing. -/
theorem faucet_keepsLimits {service : FaucetService} {hashIpAddress : String → String}
    {rows : List FaucetClaimRecord} {acts : List FaucetAct}
    (h : meets (FaucetAct.apply service hashIpAddress) (fun world => world.countsFundings service)
      acts (.start rows) = true) :
    (run (FaucetAct.apply service hashIpAddress) acts (.start rows)).KeepsLimits service := by
  apply FaucetInv.keepsLimits
  have hreach : Reachable (· = FaucetWorld.start rows) _ _ :=
    Reachable.run_restrict (.start rfl) h
  apply hreach.invariant
  · rintro world rfl
    exact .start
  · rintro world act next hinv ⟨rfl, hcounts⟩
    exact hinv.apply hcounts

section Example

/-- A service that funds every wallet and every IP address once a day. -/
def exampleService : FaucetService where
  metadata := {
    available := true
    claimLimits := ⟨86400, 1, 1⟩
    claimAssetAmounts := [⟨"eth", "0.5", 18⟩, ⟨"usdc", "250", 6⟩] }
  ethAmount := ⟨"eth", "0.5", 18⟩
  usdcAmount := ⟨"usdc", "250", 6⟩
  ethAmountWei := "500000000000000000"
  usdcAmountRaw := "250000000"

/-- The SHA-256 hash of the local address. -/
def exampleHash (_ : String) : String :=
  "12ca17b49af2289436f303e0166030a21e525d266e209267433801a8fd4071a0"

/-- A claim of one wallet from the local address. -/
def exampleInput : FaucetClaimInput :=
  ⟨"127.0.0.1", some "0xCDE2d94d3A757c9d8006258a123D3204E278591b"⟩

/-- What the script returns. -/
def exampleSeed : SeedLocalWalletSummary :=
  ⟨"0xCDE2d94d3A757c9d8006258a123D3204E278591b", "0x01", "0x02", "500000000000000000", "250000000"⟩

/-- A claim that ends, and a later one of the same wallet. -/
def claimsInTurn : List FaucetAct :=
  [.start exampleInput 1000, .readWallet 0, .readIp 0, .checkLimits 0, .seed 0 (.ok exampleSeed) true,
    .record 0 (.ok ()), .start exampleInput 2000, .readWallet 1, .readIp 1, .checkLimits 1]

/-- Two claims of one wallet that both read the counts before one of them is recorded. -/
def claimsAtOnce : List FaucetAct :=
  [.start exampleInput 1000, .start exampleInput 1001, .readWallet 0, .readIp 0, .readWallet 1,
    .readIp 1, .checkLimits 0, .checkLimits 1, .seed 0 (.ok exampleSeed) true,
    .seed 1 (.ok exampleSeed) true]

/-- A claim whose funding fails after it has minted. -/
def claimHalfFunded : List FaucetAct :=
  [.start exampleInput 1000, .readWallet 0, .readIp 0, .checkLimits 0,
    .seed 0 (.error "eth_sendTransaction failed") true]

/-- Claims in turn keep the limits. -/
theorem claimsInTurn_keepsLimits :
    (run (FaucetAct.apply exampleService exampleHash) claimsInTurn (.start [])).KeepsLimits
      exampleService :=
  faucet_keepsLimits (by decide +kernel)

/-- Claims at once are both funded, and a claim whose funding fails may have been funded in part. -/
theorem claimsAtOnce_not_keepsLimits :
    createFaucetService exampleService.metadata = .ok exampleService ∧
      ¬ (run (FaucetAct.apply exampleService exampleHash) claimsAtOnce (.start [])).KeepsLimits
        exampleService ∧
      ¬ (run (FaucetAct.apply exampleService exampleHash) claimHalfFunded (.start [])).KeepsLimits
        exampleService := by
  refine ⟨by rfl, ?_, ?_⟩
  · intro h
    have hwallet := h.wallet "0xcde2d94d3a757c9d8006258a123d3204e278591b" 0
    revert hwallet
    decide +kernel
  · intro h
    have hthrown := h.thrown 0 ⟨502, "Faucet funding failed.", none⟩ rfl
    exact hthrown (by decide +kernel)

end Example

end Automaton.Indexer
