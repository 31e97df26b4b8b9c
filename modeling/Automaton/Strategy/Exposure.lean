import Automaton.Strategy.Types

/-!
# Exposures

What an execution that enters or exits a position changes about the exposure of its strategy. The
effects of a plan are grouped by asset, and exactly one asset may be entered or exited.
-/

namespace Automaton.Strategy

open Machine

/-- `AssetGroupKey`. -/
structure AssetGroupKey where
  chainId : ℕ
  assetAddress : Option String
  decimals : ℕ
  deriving DecidableEq, Repr

/-- `asset_group_key`. -/
def assetGroupKey (effect : StrategyAssetEffect) : AssetGroupKey where
  chainId := effect.chainId
  assetAddress := effect.assetAddress.map Text.toAsciiLowercase
  decimals := effect.decimals

/-- The amounts of an asset that a plan debits and credits. -/
structure AssetAmounts where
  debit : ℕ
  credit : ℕ
  deriving DecidableEq, Repr

/-- The amount in a direction. -/
def AssetAmounts.amount (amounts : AssetAmounts) : StrategyAssetDirection → ℕ
  | .debit => amounts.debit
  | .credit => amounts.credit

/-- An amount is added in a direction. -/
def AssetAmounts.add (amounts : AssetAmounts) (amount : ℕ) :
    StrategyAssetDirection → Except String AssetAmounts
  | .debit => (checkedAdd u256Max amounts.debit amount).elim
    (.error "asset debit aggregate overflow") fun debit => .ok { amounts with debit := debit }
  | .credit => (checkedAdd u256Max amounts.credit amount).elim
    (.error "asset credit aggregate overflow") fun credit => .ok { amounts with credit := credit }

/-- The amounts of the assets, each asset once. -/
abbrev AssetGroups := List (AssetGroupKey × AssetAmounts)

/-- An amount is added to the entry of an asset, which is made when it is missing. -/
def AssetGroups.add (key : AssetGroupKey) (direction : StrategyAssetDirection) (amount : ℕ) :
    AssetGroups → Except String AssetGroups
  | [] => (AssetAmounts.add ⟨0, 0⟩ amount direction).map fun amounts => [(key, amounts)]
  | (other, amounts) :: rest =>
    if other = key then (amounts.add amount direction).map fun amounts => (other, amounts) :: rest
    else (AssetGroups.add key direction amount rest).map fun rest => (other, amounts) :: rest

/-- The loop of `grouped_asset_effects`. -/
def groupAssetEffects : AssetGroups → List StrategyAssetEffect → Except String AssetGroups
  | grouped, [] => .ok grouped
  | grouped, effect :: effects => do
    let amount ← parseU256Decimal effect.amountRaw
    let grouped ← grouped.add (assetGroupKey effect) effect.direction amount
    groupAssetEffects grouped effects

/-- `grouped_asset_effects`. -/
def groupedAssetEffects (plan : ExecutionPlan) : Except String AssetGroups :=
  groupAssetEffects [] plan.assetEffects

/-- `effect_for_key`. -/
def effectForKey (plan : ExecutionPlan) (key : AssetGroupKey) : Option StrategyAssetEffect :=
  plan.assetEffects.find? fun effect => assetGroupKey effect = key

/-- An exposure is in an asset. -/
def ActiveExposure.hasAsset (exposure : ActiveExposure) (key : AssetGroupKey) : Bool :=
  exposure.chainId = key.chainId &&
    exposure.assetAddress.map Text.toAsciiLowercase = key.assetAddress &&
    exposure.decimals = some key.decimals

/-- What fits a `u128`. -/
def u128OfU256 (value : ℕ) : Option ℕ := if value ≤ u128Max then some value else none

/-- `notional_wei` of an exposure in the asset of an effect. -/
def effectNotionalWei (effect : StrategyAssetEffect) (amount : ℕ) : Option ℕ :=
  if effect.assetAddress.isNone && effect.decimals = 18 then u128OfU256 amount else none

/-- The only asset with a positive amount in a direction, its amount, and its first effect. -/
def soleAssetGroup (plan : ExecutionPlan) (direction : StrategyAssetDirection)
    (ambiguous : String) : Except String (AssetGroupKey × ℕ × StrategyAssetEffect) := do
  let groups ← groupedAssetEffects plan
  match groups.filter fun group => 0 < group.2.amount direction with
  | [(key, amounts)] =>
    let effect ← (effectForKey plan key).elim (.error "missing grouped effect") .ok
    .ok (key, amounts.amount direction, effect)
  | _ => .error ambiguous

/-- `update_exposure_after_enter`; `existing` is the stored exposure of the strategy. -/
def updateExposureAfterEnter (existing : Option ActiveExposure) (strategyId : String)
    (plan : ExecutionPlan) (nowNs : ℕ) : Except String (Option ActiveExposure) := do
  let (key, amount, effect) ← soleAssetGroup plan .debit
    "strategy exposure cannot represent multiple debit asset groups"
  if existing.any fun prior => !prior.hasAsset key then
    .error "strategy exposure asset identity mismatch"
  else
    let prior ← ((existing.bind (·.amountRaw)).map parseU256Decimal).getD (.ok 0)
    let next ← (checkedAdd u256Max prior amount).elim
      (.error "strategy exposure amount overflow") .ok
    .ok (some {
      strategyId := strategyId
      protocol := plan.key.protocol
      chainId := effect.chainId
      assetSymbol := effect.assetSymbol
      notionalWei := effectNotionalWei effect next
      assetAddress := effect.assetAddress
      decimals := some effect.decimals
      amountRaw := some (toString next)
      updatedAtNs := nowNs })

/-- `update_exposure_after_exit`; `existing` is the stored exposure of the strategy. -/
def updateExposureAfterExit (existing : Option ActiveExposure) (strategyId : String)
    (plan : ExecutionPlan) (nowNs : ℕ) : Except String (Option ActiveExposure) := do
  let existing ← existing.elim (.error "strategy exposure missing for exit") .ok
  let (key, amount, effect) ← soleAssetGroup plan .credit
    "strategy exposure cannot represent multiple credit asset groups"
  if !existing.hasAsset key then .error "strategy exposure asset identity mismatch"
  else
    let amountRaw ← existing.amountRaw.elim (.error "legacy exposure amount is ambiguous") .ok
    let prior ← parseU256Decimal amountRaw
    if prior < amount then .error "strategy exit exceeds exposure"
    else
      let value := prior - amount
      if value = 0 then .ok none
      else .ok (some {
        strategyId := strategyId
        protocol := plan.key.protocol
        chainId := plan.key.chainId
        assetSymbol := effect.assetSymbol
        notionalWei := effectNotionalWei effect value
        assetAddress := existing.assetAddress
        decimals := some effect.decimals
        amountRaw := some (toString value)
        updatedAtNs := nowNs })

/-- An action enters a position. -/
def isEnterAction (actionId : String) : Bool := "enter_".toList.isPrefixOf actionId.toList

/-- An action exits a position. -/
def isExitAction (actionId : String) : Bool := "exit_".toList.isPrefixOf actionId.toList

/-- `is_enter_or_exit_action`. -/
def isEnterOrExitAction (actionId : String) : Bool :=
  isEnterAction actionId || isExitAction actionId

end Automaton.Strategy
