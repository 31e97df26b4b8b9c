import Automaton.Strategy.SpendingPolicy

/-!
# What the spending policy guarantees

Each check of an execution is taken to what it says about the plan's effects, the balances and the
exposures. Together they are the limits of the policy, where the checks are made and all exposures
are listed.
-/

namespace Automaton.Strategy

open Machine Fallible

section Groups

variable {p : AssetGroupKey → Bool} {key : AssetGroupKey} {direction : StrategyAssetDirection}
  {amounts sums : AssetAmounts} {grouped groups : AssetGroups} {amount : ℕ}
  {effects : List StrategyAssetEffect}

/-- The amounts of the groups of some assets in a direction. -/
def AssetGroups.sumOver (p : AssetGroupKey → Bool) (direction : StrategyAssetDirection)
    (groups : AssetGroups) : ℕ :=
  ((groups.filter fun group => p group.1).map (·.2.amount direction)).sum

theorem AssetGroups.sumOver_cons {group : AssetGroupKey × AssetAmounts} :
    AssetGroups.sumOver p direction (group :: groups) =
      (if p group.1 then group.2.amount direction else 0) +
        AssetGroups.sumOver p direction groups := by
  unfold AssetGroups.sumOver
  rw [List.filter_cons]
  by_cases hp : p group.1 = true
  · rw [if_pos hp, if_pos hp, List.map_cons, List.sum_cons]
  · rw [if_neg hp, if_neg hp, Nat.zero_add]

/-- An amount is added in its direction only. -/
theorem AssetAmounts.amount_add {toward : StrategyAssetDirection}
    (h : amounts.add amount toward = .ok sums) :
    sums.amount direction =
      amounts.amount direction + if toward = direction then amount else 0 := by
  cases toward with
  | debit =>
    rw [AssetAmounts.add] at h
    cases hsum : checkedAdd u256Max amounts.debit amount with
    | none =>
      rw [hsum] at h
      cases h
    | some debit =>
      rw [hsum] at h
      obtain rfl := Except.ok.inj h
      obtain ⟨-, rfl⟩ := checkedAdd_eq_some.mp hsum
      cases direction <;> rfl
  | credit =>
    rw [AssetAmounts.add] at h
    cases hsum : checkedAdd u256Max amounts.credit amount with
    | none =>
      rw [hsum] at h
      cases h
    | some credit =>
      rw [hsum] at h
      obtain rfl := Except.ok.inj h
      obtain ⟨-, rfl⟩ := checkedAdd_eq_some.mp hsum
      cases direction <;> rfl

/-- An amount is added to the group of its asset, which stays the only one. -/
theorem AssetGroups.sumOver_add {toward : StrategyAssetDirection}
    (h : AssetGroups.add key toward amount grouped = .ok groups) :
    AssetGroups.sumOver p direction groups = AssetGroups.sumOver p direction grouped +
        (if p key ∧ toward = direction then amount else 0) ∧
      (∀ other, other ∈ groups.map (·.1) ↔ other = key ∨ other ∈ grouped.map (·.1)) ∧
      ((grouped.map (·.1)).Nodup → (groups.map (·.1)).Nodup) := by
  induction grouped generalizing groups with
  | nil =>
    obtain ⟨sums, hsums, rfl⟩ := map_eq_ok.mp h
    have hamount := @AssetAmounts.amount_add direction _ _ _ _ hsums
    refine ⟨?_, by simp, fun _ => List.nodup_singleton _⟩
    rw [sumOver_cons, hamount]
    have hzero : AssetAmounts.amount ⟨0, 0⟩ direction = 0 := by cases direction <;> rfl
    rw [hzero]
    by_cases hp : p key = true <;> by_cases hdirection : toward = direction <;>
      simp [hp, hdirection, sumOver]
  | cons group grouped ih =>
    obtain ⟨other, before⟩ := group
    rw [AssetGroups.add] at h
    split at h
    · rename_i hsame
      subst hsame
      obtain ⟨sums, hsums, rfl⟩ := map_eq_ok.mp h
      have hamount := @AssetAmounts.amount_add direction _ _ _ _ hsums
      refine ⟨?_, fun other => by simp, fun hnodup => hnodup⟩
      rw [sumOver_cons, sumOver_cons, hamount]
      dsimp only
      by_cases hp : p other = true
      · rw [if_pos hp, if_pos hp]
        by_cases hdirection : toward = direction
        · rw [if_pos hdirection, if_pos ⟨hp, hdirection⟩]
          omega
        · rw [if_neg hdirection, if_neg fun h => hdirection h.2]
          omega
      · rw [if_neg hp, if_neg hp, if_neg fun h => hp h.1, Nat.add_zero]
    · rename_i hother
      obtain ⟨rest, hrest, rfl⟩ := map_eq_ok.mp h
      obtain ⟨hsum, hkeys, hnodup⟩ := ih hrest
      refine ⟨?_, fun found => ?_, fun hdistinct => ?_⟩
      · rw [sumOver_cons, sumOver_cons, hsum]
        omega
      · rw [List.map_cons, List.mem_cons, hkeys, List.map_cons, List.mem_cons, or_left_comm]
      · rw [List.map_cons, List.nodup_cons] at hdistinct ⊢
        refine ⟨fun hmem => ?_, hnodup hdistinct.2⟩
        rcases (hkeys other).mp hmem with heq | hold
        · exact hother heq
        · exact hdistinct.1 hold

theorem movedBy_cons {effect : StrategyAssetEffect} :
    movedBy direction (effect :: effects) =
      (if effect.direction = direction then effect.amount else 0) + movedBy direction effects := by
  unfold movedBy
  by_cases hdirection : effect.direction = direction
  · rw [List.filter_cons_of_pos (by simpa using hdirection), if_pos hdirection, List.map_cons,
      List.sum_cons]
  · rw [List.filter_cons_of_neg (by simpa using hdirection), if_neg hdirection, Nat.zero_add]

/-- The groups of effects have what the effects of their assets move, and each asset once. -/
theorem sumOver_groupAssetEffects (h : groupAssetEffects grouped effects = .ok groups) :
    AssetGroups.sumOver p direction groups = AssetGroups.sumOver p direction grouped +
        movedBy direction (effects.filter fun effect => p (assetGroupKey effect)) ∧
      (∀ key, key ∈ groups.map (·.1) ↔
        key ∈ effects.map assetGroupKey ∨ key ∈ grouped.map (·.1)) ∧
      ((grouped.map (·.1)).Nodup → (groups.map (·.1)).Nodup) := by
  induction effects generalizing grouped with
  | nil =>
    obtain rfl := Except.ok.inj h
    exact ⟨rfl, by simp, id⟩
  | cons effect effects ih =>
    obtain ⟨amount, hamount, h⟩ := bind_eq_ok.mp h
    obtain ⟨next, hnext, h⟩ := bind_eq_ok.mp h
    obtain ⟨hsum, hkeys, hnodup⟩ := ih h
    obtain ⟨hsumNext, hkeysNext, hnodupNext⟩ :=
      @AssetGroups.sumOver_add p _ direction _ _ _ _ hnext
    have hvalue : effect.amount = amount := by
      rw [StrategyAssetEffect.amount, hamount]
      rfl
    refine ⟨?_, fun key => ?_, fun h => hnodup (hnodupNext h)⟩
    · rw [hsum, hsumNext]
      rw [List.filter_cons]
      by_cases hp : p (assetGroupKey effect) = true
      · rw [if_pos hp, movedBy_cons, hvalue]
        by_cases hdirection : effect.direction = direction
        · rw [if_pos ⟨hp, hdirection⟩, if_pos hdirection]
          omega
        · rw [if_neg fun h => hdirection h.2, if_neg hdirection]
          omega
      · rw [if_neg fun h => hp h.1, if_neg hp, Nat.add_zero]
    · rw [hkeys, hkeysNext, List.map_cons, List.mem_cons, or_left_comm, or_assoc]

/-- The groups of one asset are its only group. -/
theorem sumOver_of_mem (hnodup : (groups.map (·.1)).Nodup) (hgroup : (key, amounts) ∈ groups) :
    AssetGroups.sumOver (fun other => other = key) direction groups = amounts.amount direction := by
  induction groups with
  | nil => cases hgroup
  | cons group groups ih =>
    rw [List.map_cons, List.nodup_cons] at hnodup
    rw [AssetGroups.sumOver_cons]
    rcases List.mem_cons.mp hgroup with rfl | hgroup
    · have hrest : AssetGroups.sumOver (fun other => other = key) direction groups = 0 := by
        unfold AssetGroups.sumOver
        rw [List.filter_eq_nil_iff.mpr, List.map_nil, List.sum_nil]
        intro other hother heq
        have hkey : other.1 = key := of_decide_eq_true heq
        exact hnodup.1 (List.mem_map.mpr ⟨other, hother, hkey⟩)
      rw [hrest, if_pos (decide_eq_true rfl), Nat.add_zero]
    · have hother : group.1 ≠ key := by
        intro heq
        exact hnodup.1 (List.mem_map.mpr ⟨_, hgroup, heq.symm⟩)
      rw [if_neg fun h => hother (of_decide_eq_true h), Nat.zero_add, ih hnodup.2 hgroup]

/-- A group of a plan has what the plan moves of its asset. -/
theorem amount_groupedAssetEffects (direction : StrategyAssetDirection) {plan : ExecutionPlan}
    (h : groupedAssetEffects plan = .ok groups) (hgroup : (key, amounts) ∈ groups) :
    amounts.amount direction = plan.moved direction key := by
  obtain ⟨hsum, -, hnodup⟩ :=
    @sumOver_groupAssetEffects (fun other => other = key) direction _ _ _ h
  rw [← sumOver_of_mem (hnodup List.nodup_nil) hgroup, hsum]
  exact Nat.zero_add _

/-- Each asset that a plan moves has a group. -/
theorem exists_group {plan : ExecutionPlan} {effect : StrategyAssetEffect}
    (h : groupedAssetEffects plan = .ok groups) (heffect : effect ∈ plan.assetEffects) :
    ∃ amounts, (assetGroupKey effect, amounts) ∈ groups := by
  obtain ⟨-, hkeys, -⟩ :=
    @sumOver_groupAssetEffects (fun _ => true) .debit _ _ _ h
  have hmem := (hkeys (assetGroupKey effect)).mpr (.inl (List.mem_map_of_mem heffect))
  obtain ⟨⟨key, amounts⟩, hgroup, rfl⟩ := List.mem_map.mp hmem
  exact ⟨amounts, hgroup⟩

/-- What groups move of the USDC of a wallet. -/
theorem usdcAmounts_amount {wallet : WalletBalanceSnapshot} {plan : ExecutionPlan}
    {before after : AssetAmounts} (h : usdcAmounts wallet plan before groups = .ok after) :
    after.amount direction = before.amount direction +
      AssetGroups.sumOver (fun key => isUsdc wallet key.assetAddress) direction groups := by
  induction groups generalizing before with
  | nil =>
    obtain rfl := Except.ok.inj h
    rfl
  | cons group groups ih =>
    obtain ⟨key, amounts⟩ := group
    rw [usdcAmounts] at h
    rw [AssetGroups.sumOver_cons]
    dsimp only
    split at h
    · rename_i husdc
      rw [if_pos husdc]
      split at h
      · cases h
      · obtain ⟨first, hfirst, h⟩ := bind_eq_ok.mp h
        obtain ⟨second, hsecond, h⟩ := bind_eq_ok.mp h
        rw [ih h, AssetAmounts.amount_add hsecond, AssetAmounts.amount_add hfirst]
        cases direction
        · simp only [reduceCtorEq, if_true, if_false, AssetAmounts.amount]
          omega
        · simp only [reduceCtorEq, if_true, if_false, AssetAmounts.amount]
          omega
    · rename_i husdc
      rw [if_neg husdc, ih h, Nat.zero_add]

end Groups

section Amounts

variable {exposure deployable limit value : ℕ}

/-- A share that is computed without an overflow of what it is a share of. -/
theorem exposureBps_le (hdeployable : deployable ≤ u128Max) (hlimit : limit < 2 ^ 16)
    (h : exposureBps exposure deployable ≤ limit) :
    0 < deployable ∧ exposure * 10000 / deployable ≤ limit := by
  unfold exposureBps at h
  split at h
  · exact absurd h (by unfold u128Max; omega)
  · rename_i hne
    have hpos : 0 < deployable := Nat.pos_of_ne_zero hne
    refine ⟨hpos, ?_⟩
    have hlarge : limit < u128Max := hlimit.trans (by decide)
    have hquotient : saturatingMul u256Max exposure 10000 / deployable ≤ limit := by
      rcases min_le_iff.mp h with h | h
      · exact h
      · exact absurd h (not_le.mpr hlarge)
    have hunsaturated : exposure * 10000 ≤ u256Max := by
      by_contra hover
      have hsaturated : saturatingMul u256Max exposure 10000 = u256Max := by
        unfold saturatingMul
        exact min_eq_right (not_le.mp hover).le
      have hmuch : u128Max ≤ u256Max / deployable := by
        rw [Nat.le_div_iff_mul_le hpos]
        exact (Nat.mul_le_mul_left _ hdeployable).trans (by decide)
      rw [hsaturated] at hquotient
      omega
    have hsame : saturatingMul u256Max exposure 10000 = exposure * 10000 := by
      unfold saturatingMul
      exact min_eq_left hunsaturated
    rwa [hsame] at hquotient

/-- A value grows with each call. -/
theorem le_totalValueWei {calls : List StrategyExecutionCall} {before after : ℕ}
    (hbefore : before ≤ u256Max) (h : totalValueWei before calls = .ok after) : before ≤ after := by
  induction calls generalizing before with
  | nil => exact (Except.ok.inj h).le
  | cons call calls ih =>
    obtain ⟨value, -, h⟩ := bind_eq_ok.mp h
    have hnext := ih (min_le_right _ _) h
    exact (le_min (Nat.le_add_right _ _) hbefore).trans hnext

/-- A value below the largest one is the sum of the calls' values. -/
theorem totalValueWei_spec {calls : List StrategyExecutionCall} {before after : ℕ}
    (hbefore : before ≤ u256Max) (h : totalValueWei before calls = .ok after)
    (hafter : after < u256Max) :
    before + (calls.map fun call => (parseU256Decimal call.valueWei).toOption.getD 0).sum =
      after := by
  induction calls generalizing before with
  | nil => exact Except.ok.inj h
  | cons call calls ih =>
    obtain ⟨value, hvalue, h⟩ := bind_eq_ok.mp h
    have hparsed : (parseU256Decimal call.valueWei).toOption.getD 0 = value := by
      cases hparse : parseU256Decimal call.valueWei with
      | error error =>
        rw [hparse] at hvalue
        cases hvalue
      | ok parsed =>
        rw [hparse] at hvalue
        exact Except.ok.inj hvalue
    have hnext : saturatingAdd u256Max before value = before + value := by
      have hle := le_totalValueWei (min_le_right _ _) h
      have hsmall : min (before + value) u256Max < u256Max := lt_of_le_of_lt hle hafter
      unfold saturatingAdd
      omega
    rw [hnext] at h
    rw [List.map_cons, List.sum_cons, hparsed, ← Nat.add_assoc]
    refine ih ?_ h
    rw [← hnext]
    exact min_le_right _ _

/-- A balance that is read fits a `u128`. -/
theorem parseOptionalHexU128_le {raw : Option String}
    (h : parseOptionalHexU128 raw = some value) : value ≤ u128Max := by
  obtain ⟨text, -, h⟩ := Option.bind_eq_some_iff.mp h
  dsimp only at h
  split at h
  · cases h
  · split at h
    · unfold u128FromHex at h
      dsimp only at h
      split at h
      · exact Hex.parseUnsigned_le h
      · cases h
    · exact Decimal.parseUnsigned_le h

theorem knownAssetBalance_le {wallet : WalletBalanceSnapshot} {effect : StrategyAssetEffect}
    (h : knownAssetBalance wallet effect = .ok value) : value ≤ u128Max := by
  have hread {raw : Option String} {reason : String}
      (h : (parseOptionalHexU128 raw).elim (blocked reason) .ok = .ok value) : value ≤ u128Max := by
    cases hraw : parseOptionalHexU128 raw with
    | none =>
      rw [hraw] at h
      cases h
    | some balance =>
      rw [hraw] at h
      obtain rfl := Except.ok.inj h
      exact parseOptionalHexU128_le hraw
  unfold knownAssetBalance at h
  split at h
  · split at h
    · exact hread h
    · cases h
  · split at h
    · exact hread h
    · cases h

theorem deployableBalance_le {policy : AutonomyPolicy} {wallet : WalletBalanceSnapshot}
    {effect : StrategyAssetEffect} (h : deployableBalance policy wallet effect = .ok value) :
    value ≤ u128Max := by
  obtain ⟨balance, hbalance, h⟩ := bind_eq_ok.mp h
  split at h
  · cases h
  · rw [← Except.ok.inj h]
    exact (Nat.sub_le _ _).trans (knownAssetBalance_le hbalance)

/-- Effects of one asset have one deployable balance. -/
theorem deployableBalance_eq {policy : AutonomyPolicy} {wallet : WalletBalanceSnapshot}
    {effect other : StrategyAssetEffect} (h : assetGroupKey effect = assetGroupKey other) :
    deployableBalance policy wallet effect = deployableBalance policy wallet other := by
  obtain ⟨-, haddress, hdecimals⟩ := AssetGroupKey.mk.inj h
  have hreserve : assetReserve policy effect = assetReserve policy other := by
    have hnone := congrArg Option.isNone haddress
    rw [Option.isNone_map, Option.isNone_map] at hnone
    rw [assetReserve, assetReserve, hnone]
  have hbalance : knownAssetBalance wallet effect = knownAssetBalance wallet other := by
    unfold knownAssetBalance
    rw [hdecimals]
    cases hfirst : effect.assetAddress with
    | none =>
      rw [hfirst] at haddress
      rw [Option.map_eq_none_iff.mp haddress.symm]
    | some address =>
      rw [hfirst] at haddress
      obtain ⟨address', hsecond, hlower⟩ := Option.map_eq_some_iff.mp haddress.symm
      have hsame (configured : String) : Text.eqIgnoreAsciiCase configured address =
          Text.eqIgnoreAsciiCase configured address' := by
        rw [Text.eqIgnoreAsciiCase, Text.eqIgnoreAsciiCase, hlower]
      rw [hsecond]
      dsimp only
      simp only [hsame]
  rw [deployableBalance, deployableBalance, hreserve, hbalance]

theorem exposureIn_cons {key : AssetGroupKey} {exposure : ActiveExposure}
    {exposures : List ActiveExposure} :
    exposureIn key (exposure :: exposures) = (if exposure.hasAsset key then
      ((exposure.amountRaw.map parseU256Decimal).bind Except.toOption).getD 0 else 0) +
        exposureIn key exposures := by
  unfold exposureIn
  rw [List.filter_cons]
  by_cases hasset : exposure.hasAsset key = true
  · rw [if_pos hasset, if_pos hasset, List.map_cons, List.sum_cons]
  · rw [if_neg hasset, if_neg hasset, Nat.zero_add]

theorem addExposure_eq_ok {first second sum : ℕ} (h : addExposure first second = .ok sum) :
    sum = first + second := by
  unfold addExposure at h
  cases hsum : checkedAdd u256Max first second with
  | none =>
    rw [hsum] at h
    cases h
  | some total =>
    rw [hsum] at h
    rw [← Except.ok.inj h, (checkedAdd_eq_some.mp hsum).2]

/-- The exposures that a loop adds up. -/
theorem sumExposures_spec {key : AssetGroupKey} {protocol : String}
    {exposures : List ActiveExposure} {before after : ExposureSums}
    (h : sumExposures key protocol before exposures = .ok after) :
    after.total = before.total + exposureIn key exposures ∧
      after.protocol = before.protocol +
        exposureIn key (exposures.filter fun exposure => exposure.protocol = protocol) := by
  induction exposures generalizing before with
  | nil =>
    obtain rfl := Except.ok.inj h
    exact ⟨rfl, rfl⟩
  | cons exposure exposures ih =>
    rw [sumExposures] at h
    rw [exposureIn_cons, List.filter_cons]
    split at h
    · rename_i decimals amount hdecimals hamount
      split at h
      · rename_i hasset
        obtain ⟨value, hvalue, h⟩ := bind_eq_ok.mp h
        obtain ⟨total, htotal, h⟩ := bind_eq_ok.mp h
        have hread : ((exposure.amountRaw.map parseU256Decimal).bind Except.toOption).getD 0 =
            value := by
          rw [hamount, Option.map_some, Option.bind_some, hvalue]
          rfl
        rw [if_pos hasset, hread]
        dsimp only at h
        split at h
        · rename_i hsame
          obtain ⟨ofProtocol, hprotocol, h⟩ := bind_eq_ok.mp h
          obtain ⟨hsum, hsumProtocol⟩ := ih h
          rw [if_pos (decide_eq_true hsame), exposureIn_cons, if_pos hasset, hread, hsum,
            hsumProtocol, addExposure_eq_ok htotal, addExposure_eq_ok hprotocol]
          dsimp only
          omega
        · rename_i hother
          obtain ⟨ofProtocol, hprotocol, h⟩ := bind_eq_ok.mp h
          obtain ⟨hsum, hsumProtocol⟩ := ih h
          rw [if_neg fun h => hother (of_decide_eq_true h), hsum, hsumProtocol,
            addExposure_eq_ok htotal, ← Except.ok.inj hprotocol]
          dsimp only
          omega
      · rename_i hasset
        obtain ⟨hsum, hsumProtocol⟩ := ih h
        rw [if_neg hasset, Nat.zero_add]
        refine ⟨hsum, ?_⟩
        rw [hsumProtocol]
        split
        · rw [exposureIn_cons, if_neg hasset, Nat.zero_add]
        · rfl
    · cases h

end Amounts

section Gates

variable {policy : AutonomyPolicy} {state : SpendingState} {plan : ExecutionPlan}
  {reader : SimulationReader} {intent : StrategyExecutionIntent}
  {prior batch : List ToolCallRecord}

/-- The checks that an execution passes when simulations are asked for. -/
structure PassesGates (policy : AutonomyPolicy) (state : SpendingState) (plan : ExecutionPlan) :
    Prop where
  value : ∃ value, planTotalValueWei plan = .ok value ∧
    policy.executionAuthority.perActionValueLimitWei.any (·.val < value) = false
  debits : isEnterOrExitAction plan.actionId = true →
    enforceAssetEffectPolicy policy state.wallet plan = .ok ()
  floors : enforceReserveFloors policy state.cycles state.wallet = .ok ()
  projected : enforceProjectedUsdcFloor policy state.wallet plan = .ok ()
  concentration : isEnterOrExitAction plan.actionId = true →
    enforceConcentrationGate policy state.wallet state.listActiveExposures plan = .ok ()

/-- No check is left out when simulations are asked for. -/
theorem passesGates (hrequired : policy.executionAuthority.requireSimulationFirst = true)
    (h : enforceStrategyExecutionPolicy reader policy state intent plan prior batch = .ok ()) :
    PassesGates policy state plan := by
  unfold enforceStrategyExecutionPolicy at h
  rw [hrequired, Bool.not_true, if_neg Bool.false_ne_true] at h
  split at h
  · cases h
  · obtain ⟨value, hvalue, h⟩ := bind_eq_ok.mp h
    split at h
    · cases h
    · rename_i hlimit
      have hlimit : policy.executionAuthority.perActionValueLimitWei.any (·.val < value) = false :=
        Bool.eq_false_iff.mpr hlimit
      dsimp only at h
      split at h
      · rename_i haction
        obtain ⟨⟨⟩, hdebits, h⟩ := bind_eq_ok.mp h
        obtain ⟨⟨⟩, hfloors, h⟩ := bind_eq_ok.mp h
        obtain ⟨⟨⟩, hprojected, h⟩ := bind_eq_ok.mp h
        exact ⟨⟨value, hvalue, hlimit⟩, fun _ => hdebits, hfloors, hprojected, fun _ => h⟩
      · rename_i haction
        obtain ⟨⟨⟩, -, h⟩ := bind_eq_ok.mp h
        obtain ⟨⟨⟩, hfloors, h⟩ := bind_eq_ok.mp h
        obtain ⟨⟨⟩, hprojected, h⟩ := bind_eq_ok.mp h
        exact ⟨⟨value, hvalue, hlimit⟩, fun h => absurd h haction, hfloors, hprojected,
          fun h => absurd h haction⟩

/-- What the check of a floor says. -/
theorem le_of_enforceFloor {floor balance : Option ℕ} {reason : String}
    (h : enforceFloor floor balance reason = .ok ()) :
    ∀ least ∈ floor, ∀ known ∈ balance, least ≤ known := by
  intro least hleast known hknown
  rw [Option.mem_def.mp hleast, Option.mem_def.mp hknown, enforceFloor] at h
  split at h
  · cases h
  · omega

/-- What the check of the floors says. -/
theorem floors_of_enforce {cycles : CycleTelemetry} {wallet : WalletBalanceSnapshot}
    (h : enforceReserveFloors policy cycles wallet = .ok ()) :
    (∀ floor ∈ policy.reservePolicy.minGasWei,
      ∀ balance ∈ parseOptionalHexU128 wallet.ethBalanceWeiHex, floor.val ≤ balance) ∧
    ∀ floor ∈ policy.reservePolicy.minInferenceUsdc6dp,
      ∀ balance ∈ parseOptionalHexU128 wallet.usdcBalanceRawHex, floor.toNat ≤ balance := by
  unfold enforceReserveFloors at h
  dsimp only at h
  split at h
  · cases h
  · obtain ⟨⟨⟩, hgas, husdc⟩ := bind_eq_ok.mp h
    refine ⟨fun floor hfloor => ?_, fun floor hfloor => ?_⟩
    · exact le_of_enforceFloor hgas floor.val (Option.mem_map_of_mem _ hfloor)
    · exact le_of_enforceFloor husdc floor.toNat (Option.mem_map_of_mem _ hfloor)

/-- The USDC of a wallet is told without the case of letters. -/
theorem isUsdc_lower {wallet : WalletBalanceSnapshot} {address : Option String} :
    isUsdc wallet (address.map Text.toAsciiLowercase) = isUsdc wallet address := by
  have htwice (text : String) :
      Text.toAsciiLowercase (Text.toAsciiLowercase text) = Text.toAsciiLowercase text := by
    rw [Text.toAsciiLowercase, Text.toAsciiLowercase, String.toList_ofList, List.map_map]
    congr 2
    funext c
    exact Char.toLower_toLower_eq_toLower c
  cases address with
  | none => rfl
  | some address => simp only [isUsdc, Option.map_some, Option.any_some, Text.eqIgnoreAsciiCase,
      htwice]

/-- What the check of the projected balance says. -/
theorem projected_of_enforce {wallet : WalletBalanceSnapshot}
    (h : enforceProjectedUsdcFloor policy wallet plan = .ok ()) :
    ∀ floor ∈ policy.reservePolicy.minInferenceUsdc6dp,
      (plan.assetEffects.any fun effect => isUsdc wallet effect.assetAddress) = true →
        ∃ balance ∈ parseOptionalHexU128 wallet.usdcBalanceRawHex,
          plan.movedUsdc wallet .debit + floor.toNat ≤
            balance + plan.movedUsdc wallet .credit ∧
          plan.movedUsdc wallet .debit ≤ balance := by
  intro floor hfloor hmoved
  unfold enforceProjectedUsdcFloor at h
  rw [Option.mem_def.mp hfloor, hmoved] at h
  obtain ⟨current, hcurrent, h⟩ := bind_eq_ok.mp h
  obtain ⟨projected, hprojected, h⟩ := bind_eq_ok.mp h
  have hbalance : parseOptionalHexU128 wallet.usdcBalanceRawHex = some current := by
    cases hraw : parseOptionalHexU128 wallet.usdcBalanceRawHex with
    | none =>
      rw [hraw] at hcurrent
      cases hcurrent
    | some balance =>
      rw [hraw] at hcurrent
      rw [Except.ok.inj hcurrent]
  have hfloor : floor.toNat ≤ projected := by
    split at h
    · cases h
    · omega
  unfold projectedUsdcBalance at hprojected
  split at hprojected
  · cases hprojected
  · obtain ⟨groups, hgroups, hprojected⟩ := bind_eq_ok.mp hprojected
    obtain ⟨sums, hsums, hprojected⟩ := bind_eq_ok.mp hprojected
    have hmovedBy (direction : StrategyAssetDirection) :
        sums.amount direction = plan.movedUsdc wallet direction := by
      have hkeys (effect : StrategyAssetEffect) :
          isUsdc wallet (assetGroupKey effect).assetAddress = isUsdc wallet effect.assetAddress :=
        isUsdc_lower
      have hzero : AssetAmounts.amount ⟨0, 0⟩ direction = 0 := by cases direction <;> rfl
      rw [usdcAmounts_amount hsums, (sumOver_groupAssetEffects hgroups).1, hzero]
      simp only [hkeys]
      change 0 + (0 + _) = _
      rw [Nat.zero_add, Nat.zero_add]
      rfl
    split at hprojected
    · cases hprojected
    · rename_i henough
      split at hprojected
      · cases hprojected
      · rename_i total htotal
        obtain rfl := Except.ok.inj hprojected
        have hsum := (checkedAdd_eq_some.mp htotal).2
        have hdebit : sums.debit = plan.movedUsdc wallet .debit := hmovedBy .debit
        have hcredit : sums.credit = plan.movedUsdc wallet .credit := hmovedBy .credit
        exact ⟨current, hbalance, by omega, by omega⟩

/-- What the check of the value says. -/
theorem value_of_passes (h : PassesGates policy state plan) :
    ∀ limit ∈ policy.executionAuthority.perActionValueLimitWei,
      (plan.calls.map fun call => (parseU256Decimal call.valueWei).toOption.getD 0).sum ≤
        limit.val := by
  intro limit hlimit
  obtain ⟨value, hvalue, hwithin⟩ := h.value
  rw [Option.mem_def.mp hlimit, Option.any_some, decide_eq_false_iff_not] at hwithin
  have hsmall : value < u256Max := by
    have hbound : limit.val < 2 ^ 128 := limit.isLt
    have hlarge : 2 ^ 128 ≤ u256Max := by decide
    omega
  have hsum := totalValueWei_spec (Nat.zero_le _) hvalue hsmall
  omega

/-- The first effect of a group has its asset. -/
theorem assetGroupKey_of_effectForKey {key : AssetGroupKey} {effect : StrategyAssetEffect}
    (h : effectForKey plan key = some effect) : assetGroupKey effect = key :=
  of_decide_eq_true (List.find?_some (p := fun effect => assetGroupKey effect = key) h)

/-- What the check of the debits says. -/
theorem debits_of_enforce {wallet : WalletBalanceSnapshot}
    (h : enforceAssetEffectPolicy policy wallet plan = .ok ()) {effect : StrategyAssetEffect}
    (heffect : effect ∈ plan.assetEffects) (hmoved : 0 < plan.moved .debit (assetGroupKey effect)) :
    ∃ deployable, deployableBalance policy wallet effect = .ok deployable ∧
      plan.moved .debit (assetGroupKey effect) ≤ deployable ∧
      WithinBps policy.riskLimits.maxSingleActionBps (plan.moved .debit (assetGroupKey effect))
        deployable := by
  obtain ⟨groups, hgroups, h⟩ := bind_eq_ok.mp h
  obtain ⟨amounts, hgroup⟩ := exists_group hgroups heffect
  have hamount : amounts.debit = plan.moved .debit (assetGroupKey effect) :=
    amount_groupedAssetEffects .debit hgroups hgroup
  have hcheck := of_forM h _ hgroup
  unfold enforceAssetDebit at hcheck
  rw [if_neg (by dsimp only; omega)] at hcheck
  obtain ⟨first, hfirst, hcheck⟩ := bind_eq_ok.mp hcheck
  obtain ⟨deployable, hdeployable, hcheck⟩ := bind_eq_ok.mp hcheck
  have hsame : assetGroupKey first = assetGroupKey effect := by
    cases hfind : effectForKey plan (assetGroupKey effect) with
    | none =>
      dsimp only at hfirst
      rw [hfind] at hfirst
      cases hfirst
    | some found =>
      dsimp only at hfirst
      rw [hfind] at hfirst
      rw [← Except.ok.inj hfirst]
      exact assetGroupKey_of_effectForKey hfind
  split at hcheck
  · cases hcheck
  · rename_i hwithin
    split at hcheck
    · cases hcheck
    · rename_i hbps
      dsimp only at hwithin hbps
      rw [hamount] at hwithin hbps
      refine ⟨deployable, (deployableBalance_eq hsame).symm.trans hdeployable, by omega, ?_⟩
      exact exposureBps_le (deployableBalance_le hdeployable)
        (UInt16.toNat_lt _) (by omega)

/-- The only group with a positive amount in a direction. -/
theorem soleAssetGroup_spec {direction : StrategyAssetDirection} {ambiguous : String}
    {key : AssetGroupKey} {amount : ℕ} {first : StrategyAssetEffect}
    (h : soleAssetGroup plan direction ambiguous = .ok (key, amount, first)) :
    assetGroupKey first = key ∧ amount = plan.moved direction key ∧
      ∀ effect ∈ plan.assetEffects, 0 < plan.moved direction (assetGroupKey effect) →
        assetGroupKey effect = key := by
  obtain ⟨groups, hgroups, h⟩ := bind_eq_ok.mp h
  split at h
  · rename_i found amounts hfilter
    obtain ⟨effect, heffect, h⟩ := bind_eq_ok.mp h
    obtain ⟨rfl, hrest⟩ := Prod.mk.inj (Except.ok.inj h)
    obtain ⟨rfl, rfl⟩ := Prod.mk.inj hrest
    have hgroup : (found, amounts) ∈ groups :=
      List.mem_of_mem_filter (hfilter ▸ List.mem_singleton_self _)
    have hkey : assetGroupKey effect = found := by
      cases hfind : effectForKey plan found with
      | none =>
        rw [hfind] at heffect
        cases heffect
      | some first =>
        rw [hfind] at heffect
        rw [← Except.ok.inj heffect]
        exact assetGroupKey_of_effectForKey hfind
    refine ⟨hkey, amount_groupedAssetEffects direction hgroups hgroup,
      fun other hother hmoved => ?_⟩
    obtain ⟨moved, hmem⟩ := exists_group hgroups hother
    have hpositive : (assetGroupKey other, moved) ∈
        groups.filter fun group => 0 < group.2.amount direction := by
      refine List.mem_filter.mpr ⟨hmem, decide_eq_true ?_⟩
      rw [amount_groupedAssetEffects direction hgroups hmem]
      exact hmoved
    rw [hfilter] at hpositive
    exact (Prod.mk.inj (List.mem_singleton.mp hpositive)).1
  · cases h

/-- What the check of the concentration says. -/
theorem exposures_of_enforce {wallet : WalletBalanceSnapshot} {exposures : List ActiveExposure}
    (henter : isEnterAction plan.actionId = true)
    (h : enforceConcentrationGate policy wallet exposures plan = .ok ())
    {effect : StrategyAssetEffect} (heffect : effect ∈ plan.assetEffects)
    (hmoved : 0 < plan.moved .debit (assetGroupKey effect)) :
    ∃ deployable, deployableBalance policy wallet effect = .ok deployable ∧
      WithinBps policy.riskLimits.maxTotalExposureBps
        (exposureIn (assetGroupKey effect) exposures + plan.moved .debit (assetGroupKey effect))
        deployable ∧
      WithinBps policy.riskLimits.maxProtocolConcentrationBps
        (exposureIn (assetGroupKey effect) (exposures.filter fun exposure =>
          exposure.protocol = Text.trim plan.key.protocol) +
            plan.moved .debit (assetGroupKey effect)) deployable := by
  unfold enforceConcentrationGate at h
  rw [henter, Bool.not_true, if_neg Bool.false_ne_true] at h
  obtain ⟨⟨key, debit, first⟩, hsole, h⟩ := bind_eq_ok.mp h
  obtain ⟨hfirst, hdebit, honly⟩ := soleAssetGroup_spec hsole
  obtain rfl := honly effect heffect hmoved
  obtain ⟨deployable, hdeployable, h⟩ := bind_eq_ok.mp h
  dsimp only at h
  split at h
  · cases h
  · obtain ⟨sums, hsums, h⟩ := bind_eq_ok.mp h
    obtain ⟨total, htotal, h⟩ := bind_eq_ok.mp h
    obtain ⟨ofProtocol, hprotocol, h⟩ := bind_eq_ok.mp h
    obtain ⟨hsumTotal, hsumProtocol⟩ := sumExposures_spec hsums
    split at h
    · cases h
    · rename_i htotalBps
      split at h
      · cases h
      · rename_i hprotocolBps
        have hle := deployableBalance_le hdeployable
        rw [addExposure_eq_ok htotal, hsumTotal, hdebit, Nat.zero_add] at htotalBps
        rw [addExposure_eq_ok hprotocol, hsumProtocol, hdebit, Nat.zero_add] at hprotocolBps
        refine ⟨deployable, (deployableBalance_eq hfirst).symm.trans hdeployable, ?_, ?_⟩
        · exact exposureBps_le hle (UInt16.toNat_lt _) (not_lt.mp htotalBps)
        · exact exposureBps_le hle (UInt16.toNat_lt _) (not_lt.mp hprotocolBps)

end Gates

section Results

/-- A plan that enters a position with one wei. -/
def enterPlan : ExecutionPlan where
  key := ⟨"morpho", "supply", 8453, "enter"⟩
  actionId := "enter_supply"
  calls := [⟨"pool", "0x1111111111111111111111111111111111111111", "1", "0x"⟩]
  preconditions := []
  postconditions := []
  assetEffects := [⟨8453, none, "ETH", 18, "1", .debit⟩]
  riskChecks := []

/-- A wallet without a balance. -/
def emptyWallet : SpendingState where
  cycles := ⟨0, 0, 0, 0, 0, none, none⟩
  wallet := ⟨some "0x0", none, 6, none⟩
  exposures := .empty

/-- No policy allows a wei to be debited that is not there. -/
theorem not_withinLimits (policy : AutonomyPolicy) :
    ¬ WithinLimits policy emptyWallet enterPlan := by
  intro h
  have hmoved : enterPlan.moved .debit (assetGroupKey ⟨8453, none, "ETH", 18, "1", .debit⟩) =
      1 := by
    with_unfolding_all rfl
  have hbalance : knownAssetBalance emptyWallet.wallet ⟨8453, none, "ETH", 18, "1", .debit⟩ =
      .ok 0 := by
    with_unfolding_all rfl
  obtain ⟨deployable, hdeployable, hle, -⟩ :=
    h.debits (by decide) ⟨8453, none, "ETH", 18, "1", .debit⟩ (List.mem_singleton_self _)
      (by rw [hmoved]; exact Nat.one_pos)
  rw [hmoved] at hle
  unfold deployableBalance at hdeployable
  rw [hbalance] at hdeployable
  obtain ⟨balance, hzero, hdeployable⟩ := bind_eq_ok.mp hdeployable
  obtain rfl := Except.ok.inj hzero
  split at hdeployable
  · cases hdeployable
  · have hnone := Except.ok.inj hdeployable
    omega

/-- All exposures are listed when there are not too many. -/
theorem exposureIn_listActiveExposures {state : SpendingState} {key : AssetGroupKey}
    {p : ActiveExposure → Bool} (h : state.exposures.rows.length ≤ maxActiveExposures) :
    exposureIn key (state.listActiveExposures.filter p) =
      exposureIn key (state.exposures.rows.filter p) := by
  have hperm : state.listActiveExposures.Perm state.exposures.rows := by
    unfold SpendingState.listActiveExposures
    rw [List.take_of_length_le (by rwa [Paging.ordered_perm.length_eq])]
    exact Paging.ordered_perm
  unfold exposureIn
  exact (((hperm.filter _).filter _).map _).sum_eq

/-- A policy that asks for simulations binds when all exposures are listed. -/
theorem withinLimits_of_enforce {policy : AutonomyPolicy} {reader : SimulationReader}
    {state : SpendingState} {intent : StrategyExecutionIntent} {plan : ExecutionPlan}
    {prior batch : List ToolCallRecord}
    (hrequired : policy.executionAuthority.requireSimulationFirst = true)
    (hlisted : state.exposures.rows.length ≤ maxActiveExposures)
    (h : enforceStrategyExecutionPolicy reader policy state intent plan prior batch = .ok ()) :
    WithinLimits policy state plan := by
  have hpasses := passesGates hrequired h
  obtain ⟨hgas, husdc⟩ := floors_of_enforce hpasses.floors
  refine ⟨value_of_passes hpasses, hgas, husdc, projected_of_enforce hpasses.projected,
    fun haction effect heffect hmoved =>
      debits_of_enforce (hpasses.debits haction) heffect hmoved,
    fun henter effect heffect hmoved => ?_⟩
  have haction : isEnterOrExitAction plan.actionId = true := by
    rw [isEnterOrExitAction, henter, Bool.true_or]
  have hall := @exposureIn_listActiveExposures state (assetGroupKey effect) (fun _ => true) hlisted
  rw [List.filter_true, List.filter_true] at hall
  rw [← hall, ← exposureIn_listActiveExposures hlisted]
  exact exposures_of_enforce henter (hpasses.concentration haction) heffect hmoved

/-- An effect that debits the least amount of USDC. -/
def usdcEffect : StrategyAssetEffect := ⟨8453, some "0xusdc", "USDC", 6, "1", .debit⟩

/-- A plan that enters a position with the least amount of USDC. -/
def usdcPlan : ExecutionPlan where
  key := ⟨"morpho", "supply", 8453, "enter"⟩
  actionId := "enter_supply"
  calls := []
  preconditions := []
  postconditions := []
  assetEffects := [usdcEffect]
  riskChecks := []

/-- Exposures without an amount, but for the oldest one. -/
def crowdedExposure (number : ℕ) : ActiveExposure where
  strategyId := toString number
  protocol := "morpho"
  chainId := 8453
  assetSymbol := "USDC"
  notionalWei := none
  assetAddress := some "0xusdc"
  decimals := some 6
  amountRaw := some (if number = 0 then "3402823669209384634633746074317682114550" else "0")
  updatedAtNs := if number = 0 then 0 else 1

/-- So many exposures, and one more. -/
def crowdedExposures (count : ℕ) : Paging.Table ActiveExposure (·.strategyId) where
  rows := (List.range (count + 1)).map crowdedExposure
  keyed := by
    rw [List.map_map]
    exact List.nodup_range.map Decimal.toString_injective

/-- A wallet with as much USDC as can be told, and too many exposures. -/
def crowdedState : SpendingState where
  cycles := ⟨0, 0, 0, 0, 0, none, none⟩
  wallet := ⟨none, some "0xffffffffffffffffffffffffffffffff", 6, some "0xusdc"⟩
  exposures := crowdedExposures maxActiveExposures

/-- A simulation of any plan is taken for one of the plan of USDC. -/
def anySimulation : SimulationReader where
  parseStrategyIntentArgs _ := .ok ⟨usdcPlan.key, usdcPlan.actionId, "{}"⟩
  canonicalTypedParamsDigest _ := .ok "digest"
  executionPlanDigest _ := .ok "digest"
  simulatedExecutionPlanDigestFromOutput _ := .ok "digest"

/-- An exposure is not before the oldest one. -/
theorem not_before_oldest (number : ℕ) :
    ¬ exposureOrder (crowdedExposure 0) < exposureOrder (crowdedExposure number) := by
  intro h
  rcases Prod.Lex.lt_iff.mp h with hlater | ⟨hsame, hid⟩
  · have htimes : (crowdedExposure number).updatedAtNs < 0 := hlater
    exact Nat.not_lt_zero _ htimes
  · by_cases hnumber : number = 0
    · subst hnumber
      exact absurd hid (lt_irrefl _)
    · have htimes : (crowdedExposure 0).updatedAtNs = (crowdedExposure number).updatedAtNs := hsame
      have hone : (crowdedExposure number).updatedAtNs = 1 := if_neg hnumber
      rw [hone] at htimes
      cases htimes

/-- The oldest exposure is not listed. -/
theorem amountRaw_of_listed {count : ℕ} {exposure : ActiveExposure}
    (h : exposure ∈ (Paging.ordered exposureOrder (crowdedExposures count).rows).take count) :
    exposure.decimals = some 6 ∧ exposure.amountRaw = some "0" := by
  have hrow {row : ActiveExposure}
      (hrow : row ∈ Paging.ordered exposureOrder (crowdedExposures count).rows) :
      ∃ number, crowdedExposure number = row := by
    obtain ⟨number, -, hnumber⟩ := List.mem_map.mp (Paging.ordered_perm.mem_iff.mp hrow)
    exact ⟨number, hnumber⟩
  have hkeys : ((crowdedExposures count).rows.map exposureOrder).Nodup := by
    refine List.Nodup.of_map (fun key => (ofLex key).2) ?_
    rw [List.map_map]
    exact (crowdedExposures count).keyed
  have hlength : (Paging.ordered exposureOrder (crowdedExposures count).rows).length =
      count + 1 := by
    rw [Paging.ordered_perm.length_eq, crowdedExposures, List.length_map, List.length_range]
  obtain ⟨number, rfl⟩ := hrow (List.mem_of_mem_take h)
  have hnumber : number ≠ 0 := by
    rintro rfl
    -- one row is behind the listed ones, and it would be older
    have hbehind : 0 < ((Paging.ordered exposureOrder (crowdedExposures count).rows).drop
        count).length := by
      rw [List.length_drop, hlength]
      omega
    obtain ⟨last, hlast⟩ := List.exists_mem_of_length_pos hbehind
    have hpairwise := Paging.ordered_pairwise hkeys
    rw [← List.take_append_drop count
      (Paging.ordered exposureOrder (crowdedExposures count).rows)] at hpairwise
    have hbefore := (List.pairwise_append.mp hpairwise).2.2 _ h last hlast
    obtain ⟨other, rfl⟩ := hrow (List.mem_of_mem_drop hlast)
    exact not_before_oldest other hbefore
  exact ⟨rfl, congrArg some (if_neg hnumber)⟩

/-- The listed exposures come to nothing. -/
theorem sumExposures_of_zero {key : AssetGroupKey} {protocol : String}
    {exposures : List ActiveExposure} (h : ∀ exposure ∈ exposures,
      exposure.decimals = some 6 ∧ exposure.amountRaw = some "0") :
    sumExposures key protocol ⟨0, 0⟩ exposures = .ok ⟨0, 0⟩ := by
  have hzero : parseU256Decimal "0" = .ok 0 := by with_unfolding_all rfl
  have hadd : addExposure 0 0 = .ok 0 := by with_unfolding_all rfl
  induction exposures with
  | nil => rfl
  | cons exposure exposures ih =>
    rw [List.forall_mem_cons] at h
    rw [sumExposures, h.1.1, h.1.2]
    dsimp only
    split
    · rw [hzero]
      change addExposure 0 0 >>= _ = _
      rw [hadd]
      change (if exposure.protocol = protocol then addExposure 0 0 >>= fun value =>
        sumExposures key protocol ⟨0, value⟩ exposures
        else sumExposures key protocol ⟨0, 0⟩ exposures) = _
      split
      · rw [hadd]
        exact ih h.2
      · exact ih h.2
    · exact ih h.2

/-- The deployable USDC of the wallet. -/
theorem deployableBalance_crowded (policy : AutonomyPolicy) :
    ∃ deployable, deployableBalance policy crowdedState.wallet usdcEffect = .ok deployable ∧
      10000 < deployable ∧ deployable ≤ u128Max := by
  have hbalance : knownAssetBalance crowdedState.wallet usdcEffect = .ok u128Max := by
    with_unfolding_all rfl
  have hreserve : assetReserve policy usdcEffect < 2 ^ 64 := by
    change (policy.reservePolicy.minInferenceUsdc6dp.map UInt64.toNat).getD 0 < 2 ^ 64
    cases policy.reservePolicy.minInferenceUsdc6dp with
    | none => decide
    | some floor => exact UInt64.toNat_lt floor
  have hlarge : u128Max = 2 ^ 128 - 1 := rfl
  refine ⟨u128Max - assetReserve policy usdcEffect, ?_, by omega, Nat.sub_le _ _⟩
  unfold deployableBalance
  rw [hbalance]
  exact if_neg (by omega)

/-- A small share of what is deployable is no whole basis point. -/
theorem exposureBps_one {deployable : ℕ} (h : 10000 < deployable) :
    exposureBps 1 deployable = 0 := by
  unfold exposureBps
  rw [if_neg (by omega)]
  have hsmall : saturatingMul u256Max 1 10000 = 10000 := by decide
  rw [hsmall, Nat.div_eq_of_lt h]
  rfl

/-- The plan of USDC passes all gates, whatever the limits are. -/
theorem enforce_crowded {policy : AutonomyPolicy}
    (hrequired : policy.executionAuthority.requireSimulationFirst = true) :
    enforceStrategyExecutionPolicy anySimulation policy crowdedState
      ⟨usdcPlan.key, usdcPlan.actionId, "{}"⟩ usdcPlan
      [⟨"simulate_strategy_action", "{}", "{}", true⟩] [] = .ok () := by
  obtain ⟨deployable, hdeployable, hlarge, -⟩ := deployableBalance_crowded policy
  have hgroups : groupedAssetEffects usdcPlan =
      .ok [(assetGroupKey usdcEffect, ⟨1, 0⟩)] := by
    with_unfolding_all rfl
  have hfirst : effectForKey usdcPlan (assetGroupKey usdcEffect) = some usdcEffect := by
    with_unfolding_all rfl
  have hsimulated : strategySimulationSucceeded anySimulation
      [⟨"simulate_strategy_action", "{}", "{}", true⟩] []
      ⟨usdcPlan.key, usdcPlan.actionId, "{}"⟩ usdcPlan = true := by
    with_unfolding_all rfl
  have hvalue : planTotalValueWei usdcPlan = .ok 0 := rfl
  have haction : isEnterOrExitAction usdcPlan.actionId = true := by decide
  have hlimit : ¬ policy.executionAuthority.perActionValueLimitWei.any (·.val < 0) = true := by
    cases policy.executionAuthority.perActionValueLimitWei with
    | none => decide
    | some limit => simp
  have hdebits : enforceAssetEffectPolicy policy crowdedState.wallet usdcPlan = .ok () := by
    have hdebit : enforceAssetDebit policy crowdedState.wallet usdcPlan
        (assetGroupKey usdcEffect, ⟨1, 0⟩) = .ok () := by
      unfold enforceAssetDebit
      rw [if_neg (by decide)]
      dsimp only
      rw [hfirst]
      change deployableBalance policy crowdedState.wallet usdcEffect >>= _ = _
      rw [hdeployable]
      change (if deployable < 1 then _ else _) = _
      rw [if_neg (by omega), exposureBps_one hlarge, if_neg (Nat.not_lt_zero _)]
    unfold enforceAssetEffectPolicy
    rw [hgroups]
    change enforceAssetDebit policy crowdedState.wallet usdcPlan
      (assetGroupKey usdcEffect, ⟨1, 0⟩) >>= _ = _
    rw [hdebit]
    rfl
  have hbalance : parseOptionalHexU128 crowdedState.wallet.usdcBalanceRawHex = some u128Max := by
    with_unfolding_all rfl
  have hfloor (floor : UInt64) : floor.toNat < u128Max :=
    (UInt64.toNat_lt floor).trans (by decide)
  have hfloors : enforceReserveFloors policy crowdedState.cycles crowdedState.wallet = .ok () := by
    have hgas : enforceFloor (policy.reservePolicy.minGasWei.map Fin.val)
        (parseOptionalHexU128 crowdedState.wallet.ethBalanceWeiHex)
        "reserve_gas_floor_below_min:" = .ok () := by
      cases policy.reservePolicy.minGasWei <;> rfl
    have husdc : enforceFloor (policy.reservePolicy.minInferenceUsdc6dp.map UInt64.toNat)
        (parseOptionalHexU128 crowdedState.wallet.usdcBalanceRawHex)
        "reserve_usdc_floor_below_min:" = .ok () := by
      rw [hbalance]
      cases policy.reservePolicy.minInferenceUsdc6dp with
      | none => rfl
      | some floor => exact if_neg (hfloor floor).le.not_gt
    have hcycles : crowdedState.cycles.estimatedSeconds = none := rfl
    unfold enforceReserveFloors
    dsimp only
    rw [hcycles, Option.any_none, if_neg Bool.false_ne_true, hgas]
    exact husdc
  have hprojected : enforceProjectedUsdcFloor policy crowdedState.wallet usdcPlan = .ok () := by
    have hleft : projectedUsdcBalance crowdedState.wallet usdcPlan u128Max =
        .ok (u128Max - 1) := by
      with_unfolding_all rfl
    have hmoved : (usdcPlan.assetEffects.any fun effect =>
        isUsdc crowdedState.wallet effect.assetAddress) = true := by
      with_unfolding_all rfl
    unfold enforceProjectedUsdcFloor
    cases policy.reservePolicy.minInferenceUsdc6dp with
    | none => rfl
    | some floor =>
      have hless := hfloor floor
      dsimp only
      rw [hmoved, hbalance, Bool.not_true, if_neg Bool.false_ne_true]
      exact bind_eq_ok.mpr ⟨u128Max, rfl, bind_eq_ok.mpr ⟨_, hleft, if_neg (by omega)⟩⟩
  have hconcentration : enforceConcentrationGate policy crowdedState.wallet
      crowdedState.listActiveExposures usdcPlan = .ok () := by
    have hsole : soleAssetGroup usdcPlan .debit
        "execute_strategy_action blocked: multiple_debit_asset_groups_not_representable" =
          .ok (assetGroupKey usdcEffect, 1, usdcEffect) := by
      with_unfolding_all rfl
    have hsums : sumExposures (assetGroupKey usdcEffect) (Text.trim usdcPlan.key.protocol) ⟨0, 0⟩
        crowdedState.listActiveExposures = .ok ⟨0, 0⟩ :=
      sumExposures_of_zero fun exposure hlisted => amountRaw_of_listed hlisted
    have hadd : addExposure 0 1 = .ok 1 := by with_unfolding_all rfl
    unfold enforceConcentrationGate
    rw [if_neg (by decide), hsole]
    change deployableBalance policy crowdedState.wallet usdcEffect >>= _ = _
    rw [hdeployable]
    change (if deployable = 0 then _ else _) = _
    rw [if_neg (by omega)]
    refine bind_eq_ok.mpr ⟨_, hsums, bind_eq_ok.mpr ⟨1, hadd, bind_eq_ok.mpr ⟨1, hadd, ?_⟩⟩⟩
    dsimp only
    rw [exposureBps_one hlarge, if_neg (Nat.not_lt_zero _), if_neg (Nat.not_lt_zero _)]
  unfold enforceStrategyExecutionPolicy
  rw [hrequired, hsimulated, hvalue]
  change (if policy.executionAuthority.perActionValueLimitWei.any (·.val < 0) = true then _
    else _) = _
  rw [if_neg hlimit]
  dsimp only
  rw [haction, if_pos rfl, hdebits]
  change enforceReserveFloors policy crowdedState.cycles crowdedState.wallet >>= _ = _
  rw [hfloors]
  change enforceProjectedUsdcFloor policy crowdedState.wallet usdcPlan >>= _ = _
  rw [hprojected]
  exact hconcentration

/-- The exposures of the state are beyond any share of the wallet. -/
theorem not_withinLimits_crowded (policy : AutonomyPolicy) :
    ¬ WithinLimits policy crowdedState usdcPlan := by
  intro h
  have hmoved : usdcPlan.moved .debit (assetGroupKey usdcEffect) = 1 := by
    with_unfolding_all rfl
  obtain ⟨deployable, hdeployable, hlarge, hle⟩ := deployableBalance_crowded policy
  obtain ⟨balance, hbalance, ⟨hpos, hshare⟩, -⟩ :=
    h.exposures (by decide) usdcEffect (List.mem_singleton_self _)
      (by rw [hmoved]; exact Nat.one_pos)
  obtain rfl := Except.ok.inj (hdeployable.symm.trans hbalance)
  have hmuch : 10 * u128Max ≤
      exposureIn (assetGroupKey usdcEffect) crowdedState.exposures.rows := by
    have hasset : (crowdedExposure 0).hasAsset (assetGroupKey usdcEffect) = true := by
      with_unfolding_all rfl
    have hamount : (((crowdedExposure 0).amountRaw.map parseU256Decimal).bind
        Except.toOption).getD 0 = 10 * u128Max := by
      with_unfolding_all rfl
    have hrows (count : ℕ) : (crowdedExposures count).rows =
        crowdedExposure 0 :: ((List.range count).map Nat.succ).map crowdedExposure := by
      change (List.range (count + 1)).map crowdedExposure = _
      rw [List.range_succ_eq_map, List.map_cons]
    change _ ≤ exposureIn _ (crowdedExposures maxActiveExposures).rows
    rw [hrows, exposureIn_cons, if_pos hasset, hamount]
    exact Nat.le_add_right _ _
  have hlimit := UInt16.toNat_lt policy.riskLimits.maxTotalExposureBps
  have hquotient : 100000 ≤ (exposureIn (assetGroupKey usdcEffect) crowdedState.exposures.rows +
      usdcPlan.moved .debit (assetGroupKey usdcEffect)) * 10000 / deployable := by
    rw [Nat.le_div_iff_mul_le hpos]
    omega
  omega

/-- The limits of a policy bind, however many exposures there are up to a number, exactly when the
policy asks for simulations and that many exposures are listed. -/
theorem limits_bind_iff (policy : AutonomyPolicy) (count : ℕ) :
    (∀ reader state intent plan prior batch, state.exposures.rows.length ≤ count →
      enforceStrategyExecutionPolicy reader policy state intent plan prior batch = .ok () →
        WithinLimits policy state plan) ↔
      policy.executionAuthority.requireSimulationFirst = true ∧ count ≤ maxActiveExposures := by
  constructor
  · intro hbind
    have hrequired : policy.executionAuthority.requireSimulationFirst = true := by
      by_contra hskipped
      refine not_withinLimits policy (hbind ⟨fun _ => .error "", fun _ => .error "",
        fun _ => .error "", fun _ => .error ""⟩ emptyWallet ⟨enterPlan.key, "enter_supply", "{}"⟩
        enterPlan [] [] (Nat.zero_le _) ?_)
      unfold enforceStrategyExecutionPolicy
      rw [if_pos (by rw [Bool.eq_false_iff.mpr hskipped]; rfl)]
    refine ⟨hrequired, ?_⟩
    by_contra hmany
    have hfew : crowdedState.exposures.rows.length ≤ count := by
      have hlength : crowdedState.exposures.rows.length = maxActiveExposures + 1 := by
        rw [crowdedState, crowdedExposures, List.length_map, List.length_range]
      omega
    exact not_withinLimits_crowded policy
      (hbind _ crowdedState _ usdcPlan _ _ hfew (enforce_crowded hrequired))
  · rintro ⟨hrequired, hcount⟩ reader state intent plan prior batch hfew h
    exact withinLimits_of_enforce hrequired (hfew.trans hcount) h

/-- A policy with a limit for each action, which does not ask for simulations. -/
def unsimulatedPolicy : AutonomyPolicy where
  reservePolicy := ⟨24, none, some 0⟩
  riskLimits := ⟨5000, 1000, 2500⟩
  executionAuthority := ⟨false, some 0⟩

/-- Without simulations a plan is executed that debits more than there is. -/
theorem unsimulatedPolicy_unbounded :
    ¬ ∀ reader policy state intent plan prior batch,
      enforceStrategyExecutionPolicy reader policy state intent plan prior batch = .ok () →
        WithinLimits policy state plan := by
  intro hbind
  exact not_withinLimits unsimulatedPolicy (hbind ⟨fun _ => .error "", fun _ => .error "",
    fun _ => .error "", fun _ => .error ""⟩ unsimulatedPolicy emptyWallet
    ⟨enterPlan.key, "enter_supply", "{}"⟩ enterPlan [] [] rfl)

end Results

end Automaton.Strategy
