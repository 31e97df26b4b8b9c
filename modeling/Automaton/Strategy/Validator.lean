import Automaton.Strategy.Executions
import Automaton.Util

/-!
# Validation of execution plans

A plan is checked in four layers, each of which adds findings: the schema of the plan, its addresses,
the policy of its template and its postconditions. A plan passes when there are no findings.
-/

namespace Automaton.Strategy

open Machine

/-- `TemplateStatus`. -/
inductive TemplateStatus
  | draft
  | active
  | deprecated
  | revoked
  deriving DecidableEq, Repr

/-- `ContractRoleBinding`. -/
structure ContractRoleBinding where
  role : String
  address : String
  sourceRef : String
  codehash : Option String
  deriving DecidableEq, Repr

/-- The fields of `StrategyTemplate` that validation reads. -/
structure StrategyTemplate where
  key : StrategyTemplateKey
  status : TemplateStatus
  contractRoles : List ContractRoleBinding
  constraintsJson : String
  deriving DecidableEq, Repr

/-- `ConstraintPolicy`. -/
structure ConstraintPolicy where
  maxCalls : Option ℕ
  maxTotalValueWei : Option String
  maxValueWeiPerCall : Option String
  templateBudgetWei : Option String
  requiredPostconditions : List String

/-- The constraints of a template without any. -/
def ConstraintPolicy.default : ConstraintPolicy := ⟨none, none, none, none, []⟩

/-- The tables of templates, revocations and kill switches, and the chain of the runtime. -/
structure StrategyRegistry where
  templates : BTreeMap String StrategyTemplate
  revocations : BTreeMap String Bool
  killSwitches : BTreeMap String Bool
  chainId : ℕ

/-- `ValidationLayer`, without the one that is no longer used. -/
inductive ValidationLayer
  | schema
  | address
  | policy
  | postcondition
  deriving DecidableEq, Repr

/-- `ValidationFinding`. -/
structure ValidationFinding where
  layer : ValidationLayer
  code : String
  message : String
  deterministic : Bool
  deriving DecidableEq, Repr

/-- `ValidationReport`. -/
structure ValidationReport where
  passed : Bool
  findings : List ValidationFinding
  checkedAtNs : ℕ

/-- A finding is made when a check fails. -/
def findingWhen (layer : ValidationLayer) (failed : Bool) (code message : String) :
    List ValidationFinding :=
  if failed then [⟨layer, code, message, true⟩] else []

/-- `parse_u256_decimal` of `validator.rs`. -/
def parseU256Field (raw field : String) : Except String ℕ :=
  let trimmed := Text.trim raw
  if trimmed = "" then .error (field ++ " cannot be empty")
  else if !trimmed.toList.all Char.isDigit then .error (field ++ " must be a decimal string")
  else (Decimal.parseUnsigned u256Max trimmed).elim
    (.error ("failed to parse " ++ field ++ ": " ++ u256TooLarge)) .ok

/-- The findings of `validate_schema_layer` about a call. -/
def callSchemaFindings (index : ℕ) (call : StrategyExecutionCall) : List ValidationFinding :=
  let name := "call[" ++ toString index ++ "]"
  findingWhen .schema (Text.trim call.role = "") "missing_call_role"
      (name ++ " role must be non-empty") ++
    findingWhen .schema (parseU256Field call.valueWei "value_wei").toOption.isNone
      "invalid_value_wei" (name ++ " value_wei must be a decimal string") ++
    match normalizeHexBlob call.data "data" with
    | .error error => [⟨.schema, "invalid_calldata", name ++ " invalid calldata: " ++ error, true⟩]
    | .ok _ => findingWhen .schema ((Text.trim call.data).utf8ByteSize < 10) "missing_selector"
      (name ++ " calldata must include at least a 4-byte selector")

/-- `validate_schema_layer`. -/
def validateSchemaLayer (plan : ExecutionPlan) : List ValidationFinding :=
  findingWhen .schema (Text.trim plan.key.protocol = "") "missing_protocol"
      "strategy protocol must be non-empty" ++
    findingWhen .schema (Text.trim plan.key.primitive = "") "missing_primitive"
      "strategy primitive must be non-empty" ++
    findingWhen .schema (Text.trim plan.key.templateId = "") "missing_template_id"
      "strategy template_id must be non-empty" ++
    findingWhen .schema (plan.key.chainId = 0) "invalid_chain_id"
      "strategy chain_id must be greater than zero" ++
    findingWhen .schema (Text.trim plan.actionId = "") "missing_action_id"
      "strategy action_id must be non-empty" ++
    findingWhen .schema plan.calls.isEmpty "missing_calls"
      "execution plan must include at least one call" ++
    (plan.calls.mapIdx callSchemaFindings).flatten

/-- The findings of `validate_address_layer` about the form of the address of a call. -/
def callAddressFindings (index : ℕ) (call : StrategyExecutionCall) : List ValidationFinding :=
  match normalizeEvmAddress call.toAddress with
  | .error error => [⟨.address, "invalid_to_address",
      "call[" ++ toString index ++ "] invalid to address: " ++ error, true⟩]
  | .ok _ => []

/-- The findings of `validate_address_layer` about the role of a call. -/
def callRoleFindings (template : StrategyTemplate) (index : ℕ) (call : StrategyExecutionCall) :
    List ValidationFinding :=
  let name := "call[" ++ toString index ++ "]"
  let role := Text.trim call.role
  match template.contractRoles.find? fun binding => binding.role = role with
  | none => [⟨.address, "missing_role_binding",
      name ++ " missing role binding for role=" ++ role, true⟩]
  | some binding =>
    if Text.trim binding.sourceRef = "" then
      [⟨.address, "missing_source_ref", "role binding " ++ role ++ " is missing source_ref", true⟩]
    else
      match normalizeEvmAddress binding.address, normalizeEvmAddress call.toAddress with
      | .ok expected, .ok actual =>
        findingWhen .address (expected ≠ actual) "binding_address_mismatch"
          (name ++ " to address does not match role binding " ++ role)
      | _, _ => []

/-- `validate_address_layer`. -/
def validateAddressLayer (plan : ExecutionPlan) (template : Option StrategyTemplate)
    (chainId : ℕ) : List ValidationFinding :=
  findingWhen .address (chainId ≠ plan.key.chainId) "chain_id_mismatch"
      ("runtime chain_id " ++ toString chainId ++ " does not match plan chain_id " ++
        toString plan.key.chainId) ++
    (plan.calls.mapIdx callAddressFindings).flatten ++
    template.elim [⟨.address, "template_not_found",
        "strategy template not found for execution plan key", true⟩] fun template =>
      (plan.calls.mapIdx (callRoleFindings template)).flatten

/-- `parse_constraints_policy`; `parseConstraints` is the JSON parser. -/
def parseConstraintsPolicy (parseConstraints : String → Except String ConstraintPolicy)
    (raw : String) : ConstraintPolicy × List ValidationFinding :=
  let trimmed := Text.trim raw
  if trimmed = "" then (.default, [])
  else
    match parseConstraints trimmed with
    | .ok policy => (policy, [])
    | .error error => (.default, [⟨.policy, "invalid_constraints_json",
        "template constraints_json is invalid: " ++ error, true⟩])

/-- The total value of the calls, as `validate_policy_layer` adds it up. -/
def totalCallValue (calls : List StrategyExecutionCall) : ℕ :=
  calls.foldl (fun total call =>
    (parseU256Field call.valueWei "value_wei").toOption.elim total (saturatingAdd u256Max total)) 0

/-- The finding of `validate_policy_layer` about the value of a call. -/
def callValueFindings (constraints : ConstraintPolicy) (index : ℕ) (call : StrategyExecutionCall) :
    List ValidationFinding :=
  (parseU256Field call.valueWei "value_wei").toOption.elim [] fun valueWei =>
    constraints.maxValueWeiPerCall.elim [] fun rawLimit =>
      (parseU256Field rawLimit "max_value_wei_per_call").toOption.elim [] fun limit =>
        findingWhen .policy (limit < valueWei) "value_per_call_exceeded"
          ("call[" ++ toString index ++ "] value_wei=" ++ call.valueWei ++
            " exceeds max_value_wei_per_call=" ++ rawLimit)

/-- The findings of `validate_policy_layer` about the total value. -/
def totalValueFindings (constraints : ConstraintPolicy) (totalValue : ℕ) :
    List ValidationFinding :=
  constraints.maxTotalValueWei.elim [] fun rawLimit =>
    (parseU256Field rawLimit "max_total_value_wei").toOption.elim
      [⟨.policy, "invalid_max_total_value_wei",
        "constraints max_total_value_wei is invalid: " ++ rawLimit, true⟩] fun limit =>
      findingWhen .policy (limit < totalValue) "max_total_value_exceeded"
        ("plan total value " ++ toString totalValue ++ " exceeds max_total_value_wei=" ++ rawLimit)

/-- The findings of `validate_policy_layer` about the budget of the template. -/
def templateBudgetFindings (constraints : ConstraintPolicy) (spentRaw : String) (totalValue : ℕ) :
    List ValidationFinding :=
  constraints.templateBudgetWei.elim [] fun rawLimit =>
    (parseU256Field rawLimit "template_budget_wei").toOption.elim
      [⟨.policy, "invalid_template_budget_wei",
        "constraints template_budget_wei is invalid: " ++ rawLimit, true⟩] fun limit =>
      (parseU256Field spentRaw "strategy budget spent_wei").toOption.elim
        [⟨.policy, "invalid_template_budget_state",
          "stored template budget spent_wei is invalid: " ++ spentRaw, true⟩] fun spent =>
        let projected := saturatingAdd u256Max spent totalValue
        findingWhen .policy (limit < projected) "template_budget_exceeded"
          ("projected template spend " ++ toString projected ++ " exceeds template_budget_wei=" ++
            rawLimit ++ " (current_spent=" ++ spentRaw ++ ")")

section Layers

variable (keccakHex : String → String)
  (parseConstraints : String → Except String ConstraintPolicy) (registry : StrategyRegistry)
  (rows : StrategyRows)

/-- The findings of `validate_policy_layer` about activation, revocation and kill switch. -/
def activationFindings (key : StrategyTemplateKey) : List ValidationFinding :=
  let activation := rows.activations[templateStateRecordKey keccakHex "activation" key]?
  let revoked := registry.revocations[templateStateRecordKey keccakHex "revocation" key]?
  let killed := registry.killSwitches[strategyKillSwitchRecordKey keccakHex key]?
  activation.elim [⟨.policy, "activation_missing",
      "strategy template activation record is missing", true⟩] (fun state =>
      findingWhen .policy (!state.enabled) "activation_disabled"
        "strategy template activation is disabled") ++
    findingWhen .policy (revoked.getD false) "template_revoked" "strategy template is revoked" ++
    findingWhen .policy (killed.getD false) "kill_switch_enabled"
      "strategy kill switch is enabled"

/-- `validate_policy_layer`. -/
def validatePolicyLayer (plan : ExecutionPlan) (template : Option StrategyTemplate) :
    List ValidationFinding :=
  template.elim [] fun template =>
    let (constraints, parseFindings) :=
      parseConstraintsPolicy parseConstraints template.constraintsJson
    let totalValue := totalCallValue plan.calls
    findingWhen .policy (template.status ≠ .active) "template_not_active"
        "strategy template status is not Active" ++
      activationFindings keccakHex registry rows plan.key ++
      parseFindings ++
      constraints.maxCalls.elim [] (fun maxCalls =>
        findingWhen .policy (maxCalls < plan.calls.length) "max_calls_exceeded"
          ("execution plan has " ++ toString plan.calls.length ++ " calls but max_calls is " ++
            toString maxCalls)) ++
      (plan.calls.mapIdx (callValueFindings constraints)).flatten ++
      totalValueFindings constraints totalValue ++
      templateBudgetFindings constraints (rows.budgetSpentWei keccakHex plan.key) totalValue ++
      constraints.requiredPostconditions.flatMap fun required =>
        findingWhen .policy (!plan.postconditions.contains required)
          "required_postcondition_missing" ("missing required postcondition: " ++ required)

/-- `validate_postcondition_layer`. -/
def validatePostconditionLayer (plan : ExecutionPlan) : List ValidationFinding :=
  if plan.postconditions.isEmpty then
    [⟨.postcondition, "missing_postconditions", "execution plan must include postconditions", true⟩]
  else
    (plan.postconditions.mapIdx fun index postcondition =>
      findingWhen .postcondition (Text.trim postcondition = "") "empty_postcondition"
        ("postconditions[" ++ toString index ++ "] must be non-empty")).flatten

/-- `validate_execution_plan`. -/
def validateExecutionPlan (plan : ExecutionPlan) (nowNs : ℕ) : ValidationReport :=
  let template := registry.templates[strategyTemplatePk plan.key]?
  let findings :=
    validateSchemaLayer plan ++ validateAddressLayer plan template registry.chainId ++
      validatePolicyLayer keccakHex parseConstraints registry rows plan template ++
      validatePostconditionLayer plan
  ⟨findings.isEmpty, findings, nowNs⟩

end Layers

end Automaton.Strategy
