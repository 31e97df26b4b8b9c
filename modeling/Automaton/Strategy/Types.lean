import Automaton.Library.BTreeMap
import Automaton.Library.Decimal
import Automaton.Library.Machine
import Automaton.Library.Text

/-!
# Strategies

The records of strategy templates and of their executions, with the tables in which an automaton
stores them. Statistics and budgets are stored under a digest of the template's key, in which white
space at the ends and the case of ASCII letters do not count.
-/

namespace Automaton.Strategy

open Machine

/-- `StrategyTemplateKey`. -/
structure StrategyTemplateKey where
  protocol : String
  primitive : String
  chainId : ℕ
  templateId : String
  deriving DecidableEq, Repr

/-- `StrategyAssetDirection`. -/
inductive StrategyAssetDirection
  | debit
  | credit
  deriving DecidableEq, Repr

/-- `StrategyAssetEffect`. -/
structure StrategyAssetEffect where
  chainId : ℕ
  assetAddress : Option String
  assetSymbol : String
  decimals : ℕ
  amountRaw : String
  direction : StrategyAssetDirection
  deriving DecidableEq, Repr

/-- `StrategyExecutionCall`. -/
structure StrategyExecutionCall where
  role : String
  toAddress : String
  valueWei : String
  data : String
  deriving DecidableEq, Repr

/-- `ExecutionPlan`. -/
structure ExecutionPlan where
  key : StrategyTemplateKey
  actionId : String
  calls : List StrategyExecutionCall
  preconditions : List String
  postconditions : List String
  assetEffects : List StrategyAssetEffect
  riskChecks : List String
  deriving DecidableEq, Repr

/-- `StrategyExecutionCallState`. -/
inductive StrategyExecutionCallState
  | unattempted
  | submitted
  | confirmed
  | reverted
  | dropped
  deriving DecidableEq, Repr

/-- `PendingStrategyExecutionCall`. -/
structure PendingStrategyExecutionCall where
  index : ℕ
  call : StrategyExecutionCall
  txHash : Option String
  state : StrategyExecutionCallState
  receiptBlockNumber : Option ℕ
  receiptBlockHash : Option String
  submittedAtNs : Option ℕ
  lastCheckedAtNs : Option ℕ
  error : Option String
  deriving DecidableEq, Repr

/-- `PendingStrategyExecutionState`. -/
inductive PendingStrategyExecutionState
  | pending
  | confirmed
  | partialFailure
  | reverted
  | dropped
  deriving DecidableEq, Repr

/-- `PendingStrategyExecution`. -/
structure PendingStrategyExecution where
  executionId : String
  turnId : String
  key : StrategyTemplateKey
  actionId : String
  planDigest : String
  assetEffects : List StrategyAssetEffect
  calls : List PendingStrategyExecutionCall
  state : PendingStrategyExecutionState
  createdAtNs : ℕ
  updatedAtNs : ℕ
  nextCheckAtNs : ℕ
  consecutiveRpcFailures : ℕ
  bookkeepingApplied : Bool
  terminalBookkeepingApplied : Bool
  deriving DecidableEq, Repr

/-- `StrategyOutcomeKind`. -/
inductive StrategyOutcomeKind
  | success
  | deterministicFailure
  | nondeterministicFailure
  deriving DecidableEq, Repr

/-- `StrategyOutcomeStats`. -/
structure StrategyOutcomeStats where
  key : StrategyTemplateKey
  totalRuns : ℕ
  successRuns : ℕ
  deterministicFailures : ℕ
  nondeterministicFailures : ℕ
  deterministicFailureStreak : ℕ
  lastError : Option String
  lastTxHash : Option String
  lastObservedAtNs : Option ℕ
  deriving DecidableEq, Repr

/-- `ActiveExposure`. -/
structure ActiveExposure where
  strategyId : String
  protocol : String
  chainId : ℕ
  assetSymbol : String
  notionalWei : Option ℕ
  assetAddress : Option String
  decimals : Option ℕ
  amountRaw : Option String
  updatedAtNs : ℕ
  deriving DecidableEq, Repr

/-- `StrategyQuarantine`. -/
structure StrategyQuarantine where
  strategyId : String
  reason : String
  failureCount : ℕ
  quarantinedAtNs : ℕ
  releaseAfterNs : Option ℕ
  deriving DecidableEq, Repr

/-- `TemplateActivationState`. -/
structure TemplateActivationState where
  key : StrategyTemplateKey
  enabled : Bool
  updatedAtNs : ℕ
  reason : Option String
  deriving DecidableEq, Repr

/-- The tables of the executions: `pending_strategy_executions`, `active_exposures`,
`strategy_outcome_stats`, `strategy_budgets`, `strategy_quarantines` and `strategy_activations`. -/
structure StrategyRows where
  executions : BTreeMap String PendingStrategyExecution
  exposures : BTreeMap String ActiveExposure
  outcomeStats : BTreeMap String StrategyOutcomeStats
  budgets : BTreeMap String String
  quarantines : BTreeMap String StrategyQuarantine
  activations : BTreeMap String TemplateActivationState

/-- No execution was ever stored. -/
def StrategyRows.empty : StrategyRows := ⟨∅, ∅, ∅, ∅, ∅, ∅⟩

/-- `strategy_id_from_key`. -/
def strategyIdFromKey (key : StrategyTemplateKey) : String :=
  key.protocol ++ ":" ++ key.primitive ++ ":" ++ toString key.chainId ++ ":" ++ key.templateId

/-- `strategy_template_pk`, under which templates are stored. -/
def strategyTemplatePk (key : StrategyTemplateKey) : String :=
  key.protocol ++ ":" ++ key.primitive ++ ":" ++ toString key.chainId ++ ":" ++ key.templateId

section Keys

variable (keccakHex : String → String)

/-- `lookup_digest`. -/
def lookupDigest (label payload : String) : String := label ++ ":" ++ keccakHex payload

/-- `strategy_template_lookup_key`. -/
def strategyTemplateLookupKey (key : StrategyTemplateKey) : String :=
  lookupDigest keccakHex "strategy:template"
    (Text.toAsciiLowercase (Text.trim key.protocol) ++ "|" ++
      Text.toAsciiLowercase (Text.trim key.primitive) ++ "|" ++ toString key.chainId ++ "|" ++
      Text.toAsciiLowercase (Text.trim key.templateId))

/-- `template_state_record_key`. -/
def templateStateRecordKey (kind : String) (key : StrategyTemplateKey) : String :=
  "strategy:" ++ kind ++ ":" ++ strategyTemplateLookupKey keccakHex key

/-- `strategy_kill_switch_record_key`. -/
def strategyKillSwitchRecordKey (key : StrategyTemplateKey) : String :=
  "strategy:kill_switch:" ++ strategyTemplateLookupKey keccakHex key

/-- `strategy_outcome_stats_record_key`. -/
def strategyOutcomeStatsRecordKey (key : StrategyTemplateKey) : String :=
  "strategy:outcome:" ++ strategyTemplateLookupKey keccakHex key

/-- `strategy_budget_record_key`. -/
def strategyBudgetRecordKey (key : StrategyTemplateKey) : String :=
  "strategy:budget:" ++ strategyTemplateLookupKey keccakHex key

end Keys

/-- `validate_strategy_template_key`. -/
def validateStrategyTemplateKey (key : StrategyTemplateKey) : Except String Unit :=
  if Text.trim key.protocol = "" then .error "strategy protocol must be non-empty"
  else if Text.trim key.primitive = "" then .error "strategy primitive must be non-empty"
  else if key.chainId = 0 then .error "strategy chain_id must be greater than zero"
  else if Text.trim key.templateId = "" then .error "strategy template_id must be non-empty"
  else .ok ()

/-- What `U256::from_str` says about a number that does not fit. -/
def u256TooLarge : String := "the value is too large to fit the target type"

/-- `parse_u256_decimal` of `tools.rs`. -/
def parseU256Decimal (raw : String) : Except String ℕ :=
  let trimmed := Text.trim raw
  if trimmed = "" then .error "value cannot be empty"
  else if !trimmed.toList.all Char.isDigit then .error "value must be a decimal string"
  else (Decimal.parseUnsigned u256Max trimmed).elim
    (.error ("failed to parse decimal quantity: " ++ u256TooLarge)) .ok

section Decimals

/-- A digit is no white space. -/
theorem isWhitespace_of_isDigit {c : Char} (h : c.isDigit = true) :
    Text.isWhitespace c = false := by
  have hbounds : 48 ≤ c.toNat ∧ c.toNat ≤ 57 := by
    simp only [Char.isDigit, Bool.and_eq_true, decide_eq_true_eq, ge_iff_le,
      UInt32.le_iff_toNat_le] at h
    exact h
  unfold Text.isWhitespace
  dsimp only
  grind

/-- A printed number is parsed back. -/
theorem parseU256Decimal_toString {value : ℕ} (h : value ≤ u256Max) :
    parseU256Decimal (toString value) = .ok value := by
  have hchars : (toString value).toList = Nat.toDigits 10 value := by
    rw [Nat.toString_eq_ofList_toDigits, String.toList_ofList]
  have hdigits : ∀ c ∈ (toString value).toList, c.isDigit = true := by
    intro c hc
    rw [hchars] at hc
    exact Nat.isDigit_of_mem_toDigits (by omega) (by omega) hc
  have htrim : Text.trim (toString value) = toString value := by
    apply Text.trim_eq_self
    · exact fun c hc => isWhitespace_of_isDigit (hdigits c (List.mem_of_mem_head? hc))
    · exact fun c hc => isWhitespace_of_isDigit (hdigits c (List.mem_of_mem_getLast? hc))
  have hnonempty : toString value ≠ "" := by
    intro h
    have hnil := congrArg String.toList h
    rw [hchars] at hnil
    exact Nat.toDigits_ne_nil hnil
  unfold parseU256Decimal
  simp only [htrim, if_neg hnonempty, List.all_eq_true.mpr hdigits, Decimal.parseUnsigned_toString,
    if_pos h]
  rfl

/-- A parsed value fits. -/
theorem parseU256Decimal_le {raw : String} {value : ℕ} (h : parseU256Decimal raw = .ok value) :
    value ≤ u256Max := by
  unfold parseU256Decimal at h
  dsimp only at h
  split at h
  · cases h
  · split at h
    · cases h
    · cases hparse : Decimal.parseUnsigned u256Max (Text.trim raw) with
      | none =>
        rw [hparse] at h
        cases h
      | some parsed =>
        rw [hparse] at h
        obtain rfl := Except.ok.inj h
        exact Decimal.parseUnsigned_le hparse

end Decimals

end Automaton.Strategy
