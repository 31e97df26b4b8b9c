import Automaton.Library.Hex
import Automaton.Library.Utf8
import Automaton.Strategy.Validator

/-!
# Static risk checks

Before a plan is simulated its risk checks are decided. The checks of addresses read a word of the
calldata of the first call and compare its last bytes with an address that the template or the
runtime may have. They agree as well when neither is there.
-/

namespace Automaton.Strategy

open Machine

/-- `calldata_word`: the text of 32 bytes behind the selector. -/
def calldataWord (call : StrategyExecutionCall) (index : ℕ) : Option String :=
  (Text.stripPrefix? "0x" call.data).bind fun data =>
    let start := 8 + index * 64
    (Utf8.slice? data.toList start (start + 64)).map String.ofList

/-- The address in a word: its last 20 bytes. -/
def wordAddress (word : String) : Option String :=
  (Utf8.from? word.toList 24).map fun digits =>
    "0x" ++ Text.toAsciiLowercase (String.ofList digits)

/-- `calldata_address_word`. -/
def calldataAddressWord (call : StrategyExecutionCall) (index : ℕ) : Option String :=
  (calldataWord call index).bind wordAddress

/-- `U256::from_str_radix` for hexadecimal numbers, in which underscores are ignored. -/
def parseU256Hex (word : String) : Option ℕ :=
  let digits := word.toList.filter (· ≠ '_')
  if digits.all Text.isHexDigit then Hex.parseUnsigned u256Max digits else none

/-- `calldata_u256_word`. -/
def calldataU256Word (call : StrategyExecutionCall) (index : ℕ) : Option ℕ :=
  (calldataWord call index).bind parseU256Hex

/-- What the checks read of the runtime: the address of the automaton, and the USDC contract with
its decimals in the snapshot of the wallet's balances. -/
structure RiskRuntime where
  evmAddress : Option String
  usdcContractAddress : Option String
  usdcDecimals : ℕ

section Checks

variable (template : Option StrategyTemplate) (runtime : RiskRuntime) (plan : ExecutionPlan)

/-- The address that the template has for a role. -/
def roleAddress (role : String) : Option String :=
  (template.bind fun template =>
    template.contractRoles.find? fun binding => binding.role = role).map fun binding =>
      Text.toAsciiLowercase binding.address

/-- The address of the automaton. -/
def RiskRuntime.automaton : Option String := runtime.evmAddress.map Text.toAsciiLowercase

/-- A word of the first call. -/
def ExecutionPlan.firstWord (index : ℕ) : Option String :=
  plan.calls.head?.bind fun call => calldataWord call index

/-- The address in a word of the first call. -/
def ExecutionPlan.firstAddress (index : ℕ) : Option String :=
  plan.calls.head?.bind fun call => calldataAddressWord call index

/-- The number in a word of the first call. -/
def ExecutionPlan.firstNumber (index : ℕ) : Option ℕ :=
  plan.calls.head?.bind fun call => calldataU256Word call index

/-- The checks of an address: the word that each looks at, and the address that it expects. -/
def addressCheck (check : String) : Option (ℕ × Option String) :=
  match check with
  | "spender_equals_aave_pool" => some (0, roleAddress template "aave_pool")
  | "spender_equals_moonwell_usdc_market" => some (0, roleAddress template "m_usdc")
  | "on_behalf_of_equals_automaton_wallet" => some (2, runtime.automaton)
  | "withdraw_receiver_equals_automaton_wallet" => some (2, runtime.automaton)
  | "oracle_address_matches_template" => some (2, roleAddress template "oracle")
  | _ => none

/-- `risk_check_evaluated`; `template` is the one that is stored under the key of the plan. -/
def riskCheckEvaluated (check : String) : Bool :=
  match addressCheck template runtime check with
  | some (index, expected) => plan.firstAddress index = expected
  | none =>
    match check with
    | "asset_equals_base_usdc" =>
      runtime.usdcContractAddress.any fun configured =>
        (plan.calls.any fun call =>
          call.role = "usdc" && Text.eqIgnoreAsciiCase call.toAddress configured) ||
        plan.assetEffects.any fun effect =>
          effect.decimals = runtime.usdcDecimals &&
            effect.assetAddress.any fun address => Text.eqIgnoreAsciiCase address configured
    | "referral_code_zero" => (plan.firstNumber 3).any (· = 0)
    | "market_equals_moonwell_usdc" => plan.calls.head?.any (·.role = "m_usdc")
    | "lltv_equals_0.86e18" => (plan.firstNumber 4).any (· = 860000000000000000)
    | _ => false

/-- `evaluate_static_risk_checks`: the checks that were evaluated, and the others. -/
def evaluateStaticRiskChecks : List String × List String :=
  plan.riskChecks.partition (riskCheckEvaluated template runtime plan)

/-- `simulate_strategy_action_tool` between the validation of a plan and its simulation. -/
def simulationChecks : Except String (List String) :=
  let (evaluated, unevaluated) := evaluateStaticRiskChecks template runtime plan
  if unevaluated.isEmpty then .ok evaluated
  else .error ("strategy simulation blocked: unevaluated_risk_checks:" ++
    ",".intercalate unevaluated)

end Checks

/-- A word is an address: its 32 bytes are 12 that are zero and the 20 of the address. -/
structure IsAddressWord (word address : String) : Prop where
  digits : ∀ c ∈ word.toList, Text.isHexDigit c = true
  upper : word.toList.take 24 = List.replicate 24 '0'
  lower : "0x" ++ Text.toAsciiLowercase (String.ofList (word.toList.drop 24)) = address
  length : word.toList.length = 64

/-- The first call exists and has the word, the address is there, and the word is the address. -/
def ExecutionPlan.SendsAddress (plan : ExecutionPlan) (index : ℕ) (expected : Option String) :
    Prop :=
  ∃ call word address, plan.calls.head? = some call ∧ calldataWord call index = some word ∧
    expected = some address ∧ IsAddressWord word address

/-- The word or the address is there, and a word that ends with the address is of hexadecimal
digits, of which those before the address are zero. -/
structure ExecutionPlan.Comparable (plan : ExecutionPlan) (index : ℕ) (expected : Option String) :
    Prop where
  present : plan.firstAddress index ≠ none ∨ expected ≠ none
  clean : ∀ word address, plan.firstWord index = some word → expected = some address →
    wordAddress word = some address →
      (∀ c ∈ word.toList, Text.isHexDigit c = true) ∧
        word.toList.take 24 = List.replicate 24 '0'

section Words

variable {call : StrategyExecutionCall} {word address : String} {index : ℕ}

/-- Hexadecimal digits are one byte each. -/
theorem byteLen_of_isHexDigit {digits : List Char}
    (h : ∀ c ∈ digits, Text.isHexDigit c = true) : Utf8.byteLen digits = digits.length := by
  induction digits with
  | nil => rfl
  | cons c digits ih =>
    have hc : c.utf8Size = 1 := by
      have hle := (Text.toNat_of_isHexDigit (h c List.mem_cons_self)).2
      rw [Char.utf8Size_eq_one_iff, UInt32.le_iff_toNat_le]
      exact hle.trans (by decide)
    have hrest := ih fun d hd => h d (List.mem_cons_of_mem c hd)
    rw [Utf8.byteLen_cons, hc, hrest, List.length_cons, Nat.add_comm]

/-- A word of calldata is 64 bytes of text. -/
theorem byteLen_calldataWord (h : calldataWord call index = some word) :
    Utf8.byteLen word.toList = 64 := by
  obtain ⟨data, -, h⟩ := Option.bind_eq_some_iff.mp h
  obtain ⟨chars, hslice, rfl⟩ := Option.map_eq_some_iff.mp h
  unfold Utf8.slice? at hslice
  rw [if_pos (Nat.le_add_right _ _)] at hslice
  obtain ⟨rest, -, hslice⟩ := Option.bind_eq_some_iff.mp hslice
  obtain ⟨⟨front, back⟩, hsplit, rfl⟩ := Option.map_eq_some_iff.mp hslice
  obtain ⟨-, hlength⟩ := Utf8.splitAt?_eq_some_iff.mp hsplit
  rw [String.toList_ofList, hlength]
  omega

/-- A word of hexadecimal digits that ends with an address, after zeros, is the address. -/
theorem isAddressWord_of_wordAddress (hword : calldataWord call index = some word)
    (haddress : wordAddress word = some address)
    (hdigits : ∀ c ∈ word.toList, Text.isHexDigit c = true)
    (hupper : word.toList.take 24 = List.replicate 24 '0') : IsAddressWord word address := by
  obtain ⟨digits, hfrom, hlower⟩ := Option.map_eq_some_iff.mp haddress
  obtain ⟨front, hsplit, hfront⟩ := Utf8.from?_eq_some_iff.mp hfrom
  have hlength : front.length = 24 := by
    rw [← byteLen_of_isHexDigit fun c hc => hdigits c (hsplit ▸ List.mem_append_left digits hc)]
    exact hfront
  constructor
  · exact hdigits
  · exact hupper
  · rw [hsplit, List.drop_append_of_le_length hlength.ge, List.drop_of_length_le hlength.le,
      List.nil_append]
    exact hlower
  · rw [← byteLen_of_isHexDigit hdigits]
    exact byteLen_calldataWord hword

end Words

section Truth

variable {template : Option StrategyTemplate} {runtime : RiskRuntime} {plan : ExecutionPlan}
  {check : String} {index : ℕ} {expected : Option String}

/-- A check of an address is evaluated when the word and the expected address agree. -/
theorem riskCheckEvaluated_iff (h : addressCheck template runtime check = some (index, expected)) :
    riskCheckEvaluated template runtime plan check = true ↔ plan.firstAddress index = expected := by
  unfold riskCheckEvaluated
  rw [h]
  exact decide_eq_true_iff

/-- The address of the first call is the one in its word. -/
theorem firstAddress_eq : plan.firstAddress index = (plan.firstWord index).bind wordAddress := by
  rw [ExecutionPlan.firstWord, Option.bind_assoc]
  rfl

/-- Agreement means that the address is sent exactly when the word and the address can be
compared. -/
theorem sendsAddress_iff :
    (plan.firstAddress index = expected → plan.SendsAddress index expected) ↔
      plan.Comparable index expected := by
  constructor
  · intro h
    constructor
    · by_contra hneither
      obtain ⟨hword, hexpected⟩ := not_or.mp hneither
      have hagree : plan.firstAddress index = expected :=
        (not_not.mp hword).trans (not_not.mp hexpected).symm
      obtain ⟨_, _, address, -, -, haddress, -⟩ := h hagree
      exact hexpected (by simp [haddress])
    · intro word address hword hexpected haddress
      have hagree : plan.firstAddress index = expected := by
        rw [firstAddress_eq, hword, Option.bind_some, haddress, hexpected]
      obtain ⟨call, sent, other, hcall, hsent, -, hsends⟩ := h hagree
      have hsame : plan.firstWord index = some sent := by
        rw [ExecutionPlan.firstWord, hcall, Option.bind_some, hsent]
      obtain rfl := Option.some.inj (hword.symm.trans hsame)
      exact ⟨hsends.digits, hsends.upper⟩
  · rintro ⟨hpresent, hclean⟩ hagree
    cases hexpected : expected with
    | none =>
      rw [hexpected] at hagree hpresent
      rcases hpresent with hword | hnone
      · exact absurd hagree hword
      · exact absurd rfl hnone
    | some address =>
      rw [hexpected, firstAddress_eq] at hagree
      obtain ⟨word, hword, haddress⟩ := Option.bind_eq_some_iff.mp hagree
      obtain ⟨hdigits, hupper⟩ := hclean word address hword hexpected haddress
      obtain ⟨call, hcall, hcalldata⟩ := Option.bind_eq_some_iff.mp hword
      exact ⟨call, word, address, hcall, hcalldata, rfl,
        isAddressWord_of_wordAddress hcalldata haddress hdigits hupper⟩

/-- A plan that is simulated has passed all its checks. -/
theorem evaluated_of_simulationChecks {evaluated : List String}
    (h : simulationChecks template runtime plan = .ok evaluated) :
    ∀ check ∈ plan.riskChecks, riskCheckEvaluated template runtime plan check = true := by
  unfold simulationChecks evaluateStaticRiskChecks at h
  rw [List.partition_eq_filter_filter] at h
  dsimp only at h
  split at h
  · rename_i hempty
    intro check hcheck
    by_contra hnot
    have hmem : check ∈ plan.riskChecks.filter
        (not ∘ riskCheckEvaluated template runtime plan) := by
      simpa [hcheck] using hnot
    rw [List.isEmpty_iff] at hempty
    rw [hempty] at hmem
    cases hmem
  · cases h

end Truth

/-- The checks of addresses that a plan passes are decided on what it sends if and only if, for each
of its checks of an address, the word or the address is there, and a word that ends with the address
has nothing before it. -/
theorem address_checks_sound_iff (template : Option StrategyTemplate) (runtime : RiskRuntime)
    (plan : ExecutionPlan) :
    (∀ check ∈ (evaluateStaticRiskChecks template runtime plan).1, ∀ index expected,
        addressCheck template runtime check = some (index, expected) →
          plan.SendsAddress index expected) ↔
      ∀ check ∈ plan.riskChecks, ∀ index expected,
        addressCheck template runtime check = some (index, expected) →
          plan.Comparable index expected := by
  have hmem (check : String) : check ∈ (evaluateStaticRiskChecks template runtime plan).1 ↔
      check ∈ plan.riskChecks ∧ riskCheckEvaluated template runtime plan check = true := by
    rw [evaluateStaticRiskChecks, List.partition_eq_filter_filter, List.mem_filter]
  constructor
  · intro h check hcheck index expected haddress
    apply sendsAddress_iff.mp
    intro hagree
    exact h check ((hmem check).mpr ⟨hcheck, (riskCheckEvaluated_iff haddress).mpr hagree⟩) index
      expected haddress
  · intro h check hcheck index expected haddress
    obtain ⟨hplan, hevaluated⟩ := (hmem check).mp hcheck
    exact sendsAddress_iff.mpr (h check hplan index expected haddress)
      ((riskCheckEvaluated_iff haddress).mp hevaluated)

section Absence

/-- An approval whose calldata is only a selector. -/
def shortApproval : ExecutionPlan where
  key := ⟨"aave-v3", "lend", 8453, "usdc"⟩
  actionId := "approve"
  calls := [⟨"usdc", "0x2222222222222222222222222222222222222222", "0", "0x095ea7b3"⟩]
  preconditions := []
  postconditions := ["allowance_set"]
  assetEffects := []
  riskChecks := ["spender_equals_aave_pool"]

/-- A template that has no address for the pool. -/
def poollessTemplate : StrategyTemplate where
  key := ⟨"aave-v3", "lend", 8453, "usdc"⟩
  status := .active
  contractRoles := [⟨"usdc", "0x2222222222222222222222222222222222222222", "source", none⟩]
  constraintsJson := ""

/-- The check of the spender passes although there is neither a spender nor a pool. -/
theorem shortApproval_passes :
    ¬ ∀ check ∈ (evaluateStaticRiskChecks (some poollessTemplate) ⟨none, none, 6⟩ shortApproval).1,
      ∀ index expected, addressCheck (some poollessTemplate) ⟨none, none, 6⟩ check =
        some (index, expected) → shortApproval.SendsAddress index expected := by
  intro h
  obtain ⟨_, _, address, -, -, haddress, -⟩ :=
    h "spender_equals_aave_pool" (by decide +kernel) 0 none (by decide +kernel)
  cases haddress

end Absence

end Automaton.Strategy
