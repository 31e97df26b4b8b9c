import Automaton.Library.Fallible
import Automaton.Library.Paging
import Automaton.Strategy.Compiler
import Automaton.Strategy.Exposure

/-!
# The spending policy of executions

Before an execution is broadcast its plan is held against the autonomy policy: a limit on its value,
floors of balances, and shares of the balance that it may debit and expose. A plan must also have
been simulated, unless the policy does not ask for it.
-/

namespace Automaton.Strategy

open Machine Fallible

section Source

/-- A `u128`. -/
abbrev U128 := Fin (2 ^ 128)

/-- `ReservePolicy`. -/
structure ReservePolicy where
  minCyclesRunwayHours : UInt64
  minInferenceUsdc6dp : Option UInt64
  minGasWei : Option U128

/-- `RiskLimits`. -/
structure RiskLimits where
  maxTotalExposureBps : UInt16
  maxSingleActionBps : UInt16
  maxProtocolConcentrationBps : UInt16

/-- `ExecutionAuthority`, as far as the execution policy uses it. -/
structure ExecutionAuthority where
  requireSimulationFirst : Bool
  perActionValueLimitWei : Option U128

/-- `AutonomyPolicy`, as far as the execution policy uses it. -/
structure AutonomyPolicy where
  reservePolicy : ReservePolicy
  riskLimits : RiskLimits
  executionAuthority : ExecutionAuthority

/-- `CycleTelemetry`, as far as the execution policy uses it. -/
structure CycleTelemetry where
  totalCycles : ℕ
  liquidCycles : ℕ
  movingWindowSeconds : ℕ
  windowDurationSeconds : ℕ
  windowSampleCount : ℕ
  burnRateCyclesPerHour : Option ℕ
  estimatedSecondsUntilFreezingThreshold : Option ℕ

/-- `WalletBalanceSnapshot`, as far as the execution policy uses it. -/
structure WalletBalanceSnapshot where
  ethBalanceWeiHex : Option String
  usdcBalanceRawHex : Option String
  usdcDecimals : ℕ
  usdcContractAddress : Option String

/-- `ToolCallRecord`, as far as the execution policy uses it. -/
structure ToolCallRecord where
  tool : String
  argsJson : String
  output : String
  success : Bool

/-- What the execution policy reads: the telemetry of cycles, the wallet and the table of the
exposures. -/
structure SpendingState where
  cycles : CycleTelemetry
  wallet : WalletBalanceSnapshot
  exposures : Paging.Table ActiveExposure (·.strategyId)

/-- The order of `list_active_exposures`: the latest exposures come first. -/
def exposureOrder (exposure : ActiveExposure) : ℕᵒᵈ ×ₗ String :=
  toLex (OrderDual.toDual exposure.updatedAtNs, exposure.strategyId)

/-- How many exposures are listed at most. -/
def maxActiveExposures : ℕ := 1000

/-- `list_active_exposures`. -/
def SpendingState.listActiveExposures (state : SpendingState) : List ActiveExposure :=
  (Paging.ordered exposureOrder state.exposures.rows).take maxActiveExposures

/-- How the records of simulations are read: the intent of their arguments and the digest of the
plan in their output, with the digests of parameters and of plans. -/
structure SimulationReader where
  parseStrategyIntentArgs : String → Except String StrategyExecutionIntent
  canonicalTypedParamsDigest : String → Except String String
  executionPlanDigest : ExecutionPlan → Except String String
  simulatedExecutionPlanDigestFromOutput : String → Except String String

/-- `strategy_simulation_succeeded`. -/
def strategySimulationSucceeded (reader : SimulationReader)
    (priorSameTurnHistory currentBatchHistory : List ToolCallRecord)
    (intent : StrategyExecutionIntent) (plan : ExecutionPlan) : Bool :=
  let currentTypedParamsDigest :=
    (reader.canonicalTypedParamsDigest intent.typedParamsJson).toOption
  let currentPlanDigest := (reader.executionPlanDigest plan).toOption
  (priorSameTurnHistory ++ currentBatchHistory).any fun record =>
    if !record.success || record.tool ≠ "simulate_strategy_action" then false
    else
      match reader.parseStrategyIntentArgs record.argsJson with
      | .error _ => false
      | .ok simulatedIntent =>
        if simulatedIntent.key ≠ plan.key || Text.trim simulatedIntent.actionId ≠ plan.actionId then
          false
        else
          let priorTypedParamsDigest :=
            (reader.canonicalTypedParamsDigest simulatedIntent.typedParamsJson).toOption
          let priorPlanDigest :=
            (reader.simulatedExecutionPlanDigestFromOutput record.output).toOption
          (currentTypedParamsDigest.isSome && currentTypedParamsDigest = priorTypedParamsDigest) &&
            (currentPlanDigest.isSome && currentPlanDigest = priorPlanDigest)

/-- `u128::from_str_radix` for hexadecimal digits. -/
def u128FromHex (text : String) : Option ℕ :=
  let digits := Decimal.unsignedBody text
  if digits ≠ [] ∧ digits.all Text.isHexDigit then Hex.parseUnsigned u128Max digits else none

/-- `parse_optional_hex_u128`. -/
def parseOptionalHexU128 (raw : Option String) : Option ℕ :=
  raw.bind fun raw =>
    let raw := Text.trim raw
    if raw = "" then none
    else
      match Text.stripPrefix? "0x" raw with
      | some hex => u128FromHex hex
      | none => Decimal.parseUnsigned u128Max raw

/-- The error of a blocked execution. -/
def blocked {α : Type} (reason : String) : Except String α :=
  .error ("execute_strategy_action blocked: " ++ reason)

/-- `plan_total_value_wei` of the calls, from a value on. -/
def totalValueWei : ℕ → List StrategyExecutionCall → Except String ℕ
  | acc, [] => .ok acc
  | acc, call :: calls => do
    let value ← (parseU256Decimal call.valueWei).mapError ("invalid plan value_wei: " ++ ·)
    totalValueWei (saturatingAdd u256Max acc value) calls

/-- `plan_total_value_wei`. -/
def planTotalValueWei (plan : ExecutionPlan) : Except String ℕ := totalValueWei 0 plan.calls

/-- `exposure_bps`. -/
def exposureBps (exposure deployable : ℕ) : ℕ :=
  if deployable = 0 then u128Max
  else min (saturatingMul u256Max exposure 10000 / deployable) u128Max

/-- `known_asset_balance`. -/
def knownAssetBalance (wallet : WalletBalanceSnapshot) (effect : StrategyAssetEffect) :
    Except String ℕ :=
  match effect.assetAddress with
  | none =>
    if effect.decimals = 18 then
      (parseOptionalHexU128 wallet.ethBalanceWeiHex).elim (blocked "missing_native_balance_source")
        .ok
    else blocked "unsupported_native_asset_decimals"
  | some address =>
    if effect.decimals = wallet.usdcDecimals ∧
        (wallet.usdcContractAddress.any fun configured =>
          Text.eqIgnoreAsciiCase configured address) then
      (parseOptionalHexU128 wallet.usdcBalanceRawHex).elim (blocked "missing_usdc_balance_source")
        .ok
    else blocked "unsupported_asset_balance_source"

/-- `asset_reserve`. -/
def assetReserve (policy : AutonomyPolicy) (effect : StrategyAssetEffect) : ℕ :=
  if effect.assetAddress.isNone then (policy.reservePolicy.minGasWei.map Fin.val).getD 0
  else (policy.reservePolicy.minInferenceUsdc6dp.map UInt64.toNat).getD 0

/-- The balance of an effect's asset above its reserve. -/
def deployableBalance (policy : AutonomyPolicy) (wallet : WalletBalanceSnapshot)
    (effect : StrategyAssetEffect) : Except String ℕ := do
  let balance ← knownAssetBalance wallet effect
  if balance < assetReserve policy effect then blocked "asset_balance_below_reserve"
  else .ok (balance - assetReserve policy effect)

/-- The loop body of `enforce_asset_effect_policy`. -/
def enforceAssetDebit (policy : AutonomyPolicy) (wallet : WalletBalanceSnapshot)
    (plan : ExecutionPlan) (group : AssetGroupKey × AssetAmounts) : Except String Unit :=
  if group.2.debit = 0 then .ok ()
  else do
    let effect ← (effectForKey plan group.1).elim (.error "missing grouped effect") .ok
    let deployable ← deployableBalance policy wallet effect
    if deployable < group.2.debit then blocked "asset_debit_exceeds_deployable_balance"
    else if policy.riskLimits.maxSingleActionBps.toNat < exposureBps group.2.debit deployable then
      blocked "max_single_action_bps_exceeded"
    else .ok ()

/-- `enforce_asset_effect_policy`. -/
def enforceAssetEffectPolicy (policy : AutonomyPolicy) (wallet : WalletBalanceSnapshot)
    (plan : ExecutionPlan) : Except String Unit := do
  let groups ← groupedAssetEffects plan
  groups.forM (enforceAssetDebit policy wallet plan)

/-- `format_cycles_runway_below_floor`. -/
def formatCyclesRunwayBelowFloor (cycles : CycleTelemetry)
    (minCyclesRunwaySecs estimatedSeconds : ℕ) : String :=
  "reserve_cycles_runway_below_floor:min_required_seconds=" ++ toString minCyclesRunwaySecs ++
    ",estimated_seconds=" ++ toString estimatedSeconds ++ ",liquid_cycles=" ++
    toString cycles.liquidCycles ++ ",burn_rate_cycles_per_hour=" ++
    toString (cycles.burnRateCyclesPerHour.getD 0) ++ ",window_duration_seconds=" ++
    toString cycles.windowDurationSeconds ++ ",window_sample_count=" ++
    toString cycles.windowSampleCount ++ ",moving_window_seconds=" ++
    toString cycles.movingWindowSeconds

/-- The seconds that the cycles last, as far as they are known to `enforce_reserve_floors`. -/
def CycleTelemetry.estimatedSeconds (cycles : CycleTelemetry) : Option ℕ :=
  if cycles.totalCycles = 0 ∨ cycles.liquidCycles = 0 then none
  else
    match cycles.estimatedSecondsUntilFreezingThreshold, cycles.burnRateCyclesPerHour with
    | some seconds, _ => some seconds
    | none, some burnRate =>
      if burnRate = 0 then none
      else some (saturatingMul u128Max cycles.liquidCycles 3600 / burnRate)
    | none, none => none

/-- A balance that is known is at a floor that is set. -/
def enforceFloor (floor balance : Option ℕ) (reason : String) : Except String Unit :=
  match floor, balance with
  | some floor, some balance =>
    if balance < floor then blocked (reason ++ toString floor) else .ok ()
  | _, _ => .ok ()

/-- `enforce_reserve_floors`. -/
def enforceReserveFloors (policy : AutonomyPolicy) (cycles : CycleTelemetry)
    (wallet : WalletBalanceSnapshot) : Except String Unit := do
  let minCyclesRunwaySecs :=
    saturatingMul u128Max policy.reservePolicy.minCyclesRunwayHours.toNat 3600
  if cycles.estimatedSeconds.any (· < minCyclesRunwaySecs) then
    blocked (formatCyclesRunwayBelowFloor cycles minCyclesRunwaySecs
      (cycles.estimatedSeconds.getD 0))
  else
    enforceFloor (policy.reservePolicy.minGasWei.map Fin.val)
      (parseOptionalHexU128 wallet.ethBalanceWeiHex) "reserve_gas_floor_below_min:"
    enforceFloor (policy.reservePolicy.minInferenceUsdc6dp.map UInt64.toNat)
      (parseOptionalHexU128 wallet.usdcBalanceRawHex) "reserve_usdc_floor_below_min:"

/-- An asset is the USDC of the wallet. -/
def isUsdc (wallet : WalletBalanceSnapshot) (assetAddress : Option String) : Bool :=
  assetAddress.any fun address => wallet.usdcContractAddress.any fun configured =>
    Text.eqIgnoreAsciiCase configured address

/-- The loop of `projected_usdc_balance`: the debits and the credits of USDC. -/
def usdcAmounts (wallet : WalletBalanceSnapshot) (plan : ExecutionPlan) :
    AssetAmounts → AssetGroups → Except String AssetAmounts
  | sums, [] => .ok sums
  | sums, (key, amounts) :: groups =>
    if isUsdc wallet key.assetAddress then
      if plan.key.chainId ≠ 8453 ∨ key.chainId ≠ plan.key.chainId ∨
          key.decimals ≠ wallet.usdcDecimals then
        blocked "invalid_base_usdc_asset_identity"
      else do
        let sums ← sums.add amounts.debit .debit
        let sums ← sums.add amounts.credit .credit
        usdcAmounts wallet plan sums groups
    else usdcAmounts wallet plan sums groups

/-- `projected_usdc_balance`. -/
def projectedUsdcBalance (wallet : WalletBalanceSnapshot) (plan : ExecutionPlan) (current : ℕ) :
    Except String ℕ := do
  if wallet.usdcContractAddress.isNone then blocked "missing_usdc_balance_source"
  else
    let groups ← groupedAssetEffects plan
    let sums ← usdcAmounts wallet plan ⟨0, 0⟩ groups
    if current < sums.debit then blocked "asset_debit_exceeds_balance"
    else
      match checkedAdd u256Max (current - sums.debit) sums.credit with
      | none => blocked "asset_balance_overflow"
      | some projected => .ok projected

/-- `enforce_projected_usdc_floor`. -/
def enforceProjectedUsdcFloor (policy : AutonomyPolicy) (wallet : WalletBalanceSnapshot)
    (plan : ExecutionPlan) : Except String Unit :=
  match policy.reservePolicy.minInferenceUsdc6dp with
  | none => .ok ()
  | some floor =>
    if !plan.assetEffects.any fun effect => isUsdc wallet effect.assetAddress then .ok ()
    else do
      let current ← (parseOptionalHexU128 wallet.usdcBalanceRawHex).elim
        (blocked "missing_usdc_balance_source") .ok
      let projected ← projectedUsdcBalance wallet plan current
      if projected < floor.toNat then
        blocked ("reserve_usdc_floor_below_min:" ++ toString floor.toNat)
      else .ok ()

/-- The exposures in an asset, and those of them in a protocol. -/
structure ExposureSums where
  total : ℕ
  protocol : ℕ

/-- `checked_add` of exposures. -/
def addExposure (first second : ℕ) : Except String ℕ :=
  (checkedAdd u256Max first second).elim (.error "exposure arithmetic overflow") .ok

/-- The loop of `enforce_concentration_gate` over the exposures. -/
def sumExposures (key : AssetGroupKey) (protocol : String) :
    ExposureSums → List ActiveExposure → Except String ExposureSums
  | sums, [] => .ok sums
  | sums, exposure :: exposures =>
    match exposure.decimals, exposure.amountRaw with
    | some _, some amount =>
      if exposure.hasAsset key then do
        let value ← parseU256Decimal amount
        let total ← addExposure sums.total value
        let ofProtocol ←
          if exposure.protocol = protocol then addExposure sums.protocol value
          else .ok sums.protocol
        sumExposures key protocol ⟨total, ofProtocol⟩ exposures
      else sumExposures key protocol sums exposures
    | _, _ => blocked "legacy_exposure_asset_ambiguous"

/-- `enforce_concentration_gate`. -/
def enforceConcentrationGate (policy : AutonomyPolicy) (wallet : WalletBalanceSnapshot)
    (exposures : List ActiveExposure) (plan : ExecutionPlan) : Except String Unit :=
  if !isEnterAction plan.actionId then .ok ()
  else do
    let (key, debit, effect) ← soleAssetGroup plan .debit
      "execute_strategy_action blocked: multiple_debit_asset_groups_not_representable"
    let deployable ← deployableBalance policy wallet effect
    if deployable = 0 then blocked "deployable_capital_zero"
    else
      let sums ← sumExposures key (Text.trim plan.key.protocol) ⟨0, 0⟩ exposures
      let total ← addExposure sums.total debit
      let ofProtocol ← addExposure sums.protocol debit
      let totalBps := exposureBps total deployable
      if policy.riskLimits.maxTotalExposureBps.toNat < totalBps then
        blocked ("total_exposure_bps_exceeded:" ++ toString totalBps)
      else
        let protocolBps := exposureBps ofProtocol deployable
        if policy.riskLimits.maxProtocolConcentrationBps.toNat < protocolBps then
          blocked ("protocol_concentration_bps_exceeded:" ++ toString protocolBps)
        else .ok ()

/-- `enforce_strategy_execution_policy`. -/
def enforceStrategyExecutionPolicy (reader : SimulationReader) (policy : AutonomyPolicy)
    (state : SpendingState) (intent : StrategyExecutionIntent) (plan : ExecutionPlan)
    (priorSameTurnHistory currentBatchHistory : List ToolCallRecord) : Except String Unit :=
  if !policy.executionAuthority.requireSimulationFirst then .ok ()
  else if !strategySimulationSucceeded reader priorSameTurnHistory currentBatchHistory intent
      plan then
    blocked "simulation_first_required"
  else do
    let currentValueWei ← planTotalValueWei plan
    if policy.executionAuthority.perActionValueLimitWei.any (·.val < currentValueWei) then
      blocked ("per_action_value_limit_exceeded:" ++ toString currentValueWei)
    else
      if isEnterOrExitAction plan.actionId then enforceAssetEffectPolicy policy state.wallet plan
      else .ok ()
      enforceReserveFloors policy state.cycles state.wallet
      enforceProjectedUsdcFloor policy state.wallet plan
      if isEnterOrExitAction plan.actionId then
        enforceConcentrationGate policy state.wallet state.listActiveExposures plan
      else .ok ()

end Source

section Limits

/-- The amount of an effect. -/
def StrategyAssetEffect.amount (effect : StrategyAssetEffect) : ℕ :=
  (parseU256Decimal effect.amountRaw).toOption.getD 0

/-- What effects move in a direction. -/
def movedBy (direction : StrategyAssetDirection) (effects : List StrategyAssetEffect) : ℕ :=
  ((effects.filter fun effect => effect.direction = direction).map (·.amount)).sum

/-- What a plan moves of an asset in a direction. -/
def ExecutionPlan.moved (plan : ExecutionPlan) (direction : StrategyAssetDirection)
    (key : AssetGroupKey) : ℕ :=
  movedBy direction (plan.assetEffects.filter fun effect => assetGroupKey effect = key)

/-- What a plan moves of the USDC of a wallet in a direction. -/
def ExecutionPlan.movedUsdc (plan : ExecutionPlan) (wallet : WalletBalanceSnapshot)
    (direction : StrategyAssetDirection) : ℕ :=
  movedBy direction (plan.assetEffects.filter fun effect => isUsdc wallet effect.assetAddress)

/-- The exposures in an asset. -/
def exposureIn (key : AssetGroupKey) (exposures : List ActiveExposure) : ℕ :=
  ((exposures.filter (·.hasAsset key)).map fun exposure =>
    ((exposure.amountRaw.map parseU256Decimal).bind Except.toOption).getD 0).sum

/-- An amount is within a share of a balance, in whole basis points. -/
def WithinBps (limit : UInt16) (amount balance : ℕ) : Prop :=
  0 < balance ∧ amount * 10000 / balance ≤ limit.toNat

/-- The limits of a policy, for a plan in a state. -/
structure WithinLimits (policy : AutonomyPolicy) (state : SpendingState) (plan : ExecutionPlan) :
    Prop where
  /-- The value of all calls is at most the limit. -/
  value : ∀ limit ∈ policy.executionAuthority.perActionValueLimitWei,
    (plan.calls.map fun call => (parseU256Decimal call.valueWei).toOption.getD 0).sum ≤ limit.val
  /-- A known balance of gas is at its floor. -/
  gas : ∀ floor ∈ policy.reservePolicy.minGasWei,
    ∀ balance ∈ parseOptionalHexU128 state.wallet.ethBalanceWeiHex, floor.val ≤ balance
  /-- A known balance of USDC is at its floor. -/
  usdc : ∀ floor ∈ policy.reservePolicy.minInferenceUsdc6dp,
    ∀ balance ∈ parseOptionalHexU128 state.wallet.usdcBalanceRawHex, floor.toNat ≤ balance
  /-- So is what the effects leave of the balance of USDC, which is known when they move it. -/
  projected : ∀ floor ∈ policy.reservePolicy.minInferenceUsdc6dp,
    (plan.assetEffects.any fun effect => isUsdc state.wallet effect.assetAddress) = true →
      ∃ balance ∈ parseOptionalHexU128 state.wallet.usdcBalanceRawHex,
        plan.movedUsdc state.wallet .debit + floor.toNat ≤
          balance + plan.movedUsdc state.wallet .credit ∧
        plan.movedUsdc state.wallet .debit ≤ balance
  /-- What is debited of an asset is at most its deployable balance, and within the share for one
  action. -/
  debits : isEnterOrExitAction plan.actionId = true → ∀ effect ∈ plan.assetEffects,
    0 < plan.moved .debit (assetGroupKey effect) →
      ∃ deployable, deployableBalance policy state.wallet effect = .ok deployable ∧
        plan.moved .debit (assetGroupKey effect) ≤ deployable ∧
        WithinBps policy.riskLimits.maxSingleActionBps (plan.moved .debit (assetGroupKey effect))
          deployable
  /-- With the debit the exposures in its asset are within their share, and so are those of the
  plan's protocol. -/
  exposures : isEnterAction plan.actionId = true → ∀ effect ∈ plan.assetEffects,
    0 < plan.moved .debit (assetGroupKey effect) →
      ∃ deployable, deployableBalance policy state.wallet effect = .ok deployable ∧
        WithinBps policy.riskLimits.maxTotalExposureBps
          (exposureIn (assetGroupKey effect) state.exposures.rows +
            plan.moved .debit (assetGroupKey effect)) deployable ∧
        WithinBps policy.riskLimits.maxProtocolConcentrationBps
          (exposureIn (assetGroupKey effect) (state.exposures.rows.filter fun exposure =>
            exposure.protocol = Text.trim plan.key.protocol) +
              plan.moved .debit (assetGroupKey effect)) deployable

end Limits

end Automaton.Strategy
