import Automaton.Strategy.Budget

/-!
# What a passed validation means

A plan passes when no layer has a finding. Which plans pass is stated here in terms of the plan and
of what is stored, and compared with what the checks are for: an active template, calls to bound
addresses, and limits that the exact sums keep.
-/

namespace Automaton.Strategy

open Machine

/-- A text is a well-formed amount. -/
def ReadsAs (raw : String) (value : ℕ) : Prop := (parseU256Decimal raw).toOption = some value

/-- What is stored about a template permits executions. -/
structure Permitted (keccakHex : String → String) (registry : StrategyRegistry)
    (rows : StrategyRows) (key : StrategyTemplateKey) (template : StrategyTemplate) : Prop where
  active : template.status = .active
  activated : ∃ state, rows.activations[templateStateRecordKey keccakHex "activation" key]? =
    some state ∧ state.enabled = true
  not_revoked : registry.revocations[templateStateRecordKey keccakHex "revocation" key]? ≠ some true
  not_killed : registry.killSwitches[strategyKillSwitchRecordKey keccakHex key]? ≠ some true

/-- The constraints of a template are well-formed, and these are they. -/
def StrategyTemplate.Declares (parseConstraints : String → Except String ConstraintPolicy)
    (template : StrategyTemplate) (constraints : ConstraintPolicy) : Prop :=
  parseConstraintsPolicy parseConstraints template.constraintsJson = (constraints, [])

/-- The binding of the role of a call. -/
def StrategyTemplate.bindingOf (template : StrategyTemplate) (call : StrategyExecutionCall) :
    Option ContractRoleBinding :=
  template.contractRoles.find? fun binding => binding.role = Text.trim call.role

/-- A call goes to the address that its role is bound to. -/
def StrategyTemplate.BindsCall (template : StrategyTemplate) (call : StrategyExecutionCall) :
    Prop :=
  ∃ binding, template.bindingOf call = some binding ∧
    ∃ address, normalizeEvmAddress binding.address = .ok address ∧
      normalizeEvmAddress call.toAddress = .ok address

/-- Every declared limit is a well-formed number, and the plan respects it. -/
structure KeepsLimits (constraints : ConstraintPolicy) (plan : ExecutionPlan) (spentRaw : String) :
    Prop where
  amounts : ∀ call ∈ plan.calls, ∃ value, ReadsAs call.valueWei value
  number : ∀ maxCalls, constraints.maxCalls = some maxCalls → plan.calls.length ≤ maxCalls
  each : ∀ raw, constraints.maxValueWeiPerCall = some raw →
    ∃ limit, ReadsAs raw limit ∧ ∀ call ∈ plan.calls, call.wei ≤ limit
  total : ∀ raw, constraints.maxTotalValueWei = some raw →
    ∃ limit, ReadsAs raw limit ∧ plan.wei ≤ limit
  budget : ∀ raw, constraints.templateBudgetWei = some raw →
    ∃ limit, ReadsAs raw limit ∧ ∃ spent, ReadsAs spentRaw spent ∧ spent + plan.wei ≤ limit

/-- The checks of a call, as the code makes them: a binding whose address is malformed and a
malformed limit are not compared. -/
structure CallPasses (template : StrategyTemplate) (constraints : ConstraintPolicy)
    (call : StrategyExecutionCall) : Prop where
  role : Text.trim call.role ≠ ""
  amount : ∃ value, ReadsAs call.valueWei value
  calldata : ∃ blob, normalizeHexBlob call.data "data" = .ok blob
  selector : 10 ≤ (Text.trim call.data).utf8ByteSize
  address : ∃ address, normalizeEvmAddress call.toAddress = .ok address
  bound : ∃ binding, template.bindingOf call = some binding ∧ Text.trim binding.sourceRef ≠ "" ∧
    ∀ address, normalizeEvmAddress binding.address = .ok address →
      normalizeEvmAddress call.toAddress = .ok address
  limit : ∀ raw, constraints.maxValueWeiPerCall = some raw → ∀ limit, ReadsAs raw limit →
    call.wei ≤ limit

/-- The checks of a plan, as the code makes them: sums stop at the largest 256-bit value. -/
structure PlanPasses (keccakHex : String → String) (registry : StrategyRegistry)
    (rows : StrategyRows) (plan : ExecutionPlan) (template : StrategyTemplate)
    (constraints : ConstraintPolicy) : Prop where
  protocol : Text.trim plan.key.protocol ≠ ""
  primitive : Text.trim plan.key.primitive ≠ ""
  template_id : Text.trim plan.key.templateId ≠ ""
  chain : plan.key.chainId ≠ 0
  action : Text.trim plan.actionId ≠ ""
  calls_nonempty : plan.calls ≠ []
  calls : ∀ call ∈ plan.calls, CallPasses template constraints call
  runtime_chain : registry.chainId = plan.key.chainId
  permitted : Permitted keccakHex registry rows plan.key template
  number : ∀ maxCalls, constraints.maxCalls = some maxCalls → plan.calls.length ≤ maxCalls
  total : ∀ raw, constraints.maxTotalValueWei = some raw →
    ∃ limit, ReadsAs raw limit ∧ min plan.wei u256Max ≤ limit
  budget : ∀ raw, constraints.templateBudgetWei = some raw →
    ∃ limit, ReadsAs raw limit ∧ ∃ spent, ReadsAs (rows.budgetSpentWei keccakHex plan.key) spent ∧
      min (spent + plan.wei) u256Max ≤ limit
  required : ∀ required ∈ constraints.requiredPostconditions, required ∈ plan.postconditions
  postconditions_nonempty : plan.postconditions ≠ []
  postconditions : ∀ postcondition ∈ plan.postconditions, Text.trim postcondition ≠ ""

/-- What the checks rely on without a check: bound addresses and the limit of a call are
well-formed, and the sums that are compared fit in 256 bits. -/
structure ReadsEveryLimit (template : StrategyTemplate) (constraints : ConstraintPolicy)
    (plan : ExecutionPlan) (spentRaw : String) : Prop where
  bindings : ∀ call ∈ plan.calls, ∀ binding, template.bindingOf call = some binding →
    ∃ address, normalizeEvmAddress binding.address = .ok address
  each : ∀ raw, constraints.maxValueWeiPerCall = some raw → ∃ limit, ReadsAs raw limit
  total : constraints.maxTotalValueWei.isSome = true → plan.wei ≤ u256Max
  budget : constraints.templateBudgetWei.isSome = true →
    ∀ spent, ReadsAs spentRaw spent → spent + plan.wei ≤ u256Max

section Findings

theorem findingWhen_eq_nil {layer : ValidationLayer} {failed : Bool} {code message : String} :
    findingWhen layer failed code message = [] ↔ failed = false := by
  cases failed <;> simp [findingWhen]

/-- There are no findings about the elements of a list when every element passes. -/
theorem flatten_mapIdx_eq_nil {α : Type} {check : ℕ → α → List ValidationFinding}
    {Passes : α → Prop}
    {xs : List α} (hcheck : ∀ index, ∀ x ∈ xs, check index x = [] ↔ Passes x) :
    (xs.mapIdx check).flatten = [] ↔ ∀ x ∈ xs, Passes x := by
  rw [List.flatten_eq_nil_iff]
  constructor
  · intro hall x hx
    obtain ⟨index, hindex, rfl⟩ := List.getElem_of_mem hx
    exact (hcheck index _ hx).mp (hall _ (List.mem_mapIdx.mpr ⟨index, hindex, rfl⟩))
  · intro hall findings hfindings
    obtain ⟨index, hindex, rfl⟩ := List.mem_mapIdx.mp hfindings
    have hmem := List.getElem_mem hindex
    exact (hcheck index _ hmem).mpr (hall _ hmem)

theorem readsAs_field {raw field : String} {value : ℕ} :
    (parseU256Field raw field).toOption = some value ↔ ReadsAs raw value := by
  rw [toOption_parseU256Field, ReadsAs]

theorem isNone_parseU256Field {raw field : String} :
    (parseU256Field raw field).toOption.isNone = false ↔ ∃ value, ReadsAs raw value := by
  rw [toOption_parseU256Field]
  cases h : (parseU256Decimal raw).toOption <;> simp [ReadsAs, h]

theorem ReadsAs.wei_eq {call : StrategyExecutionCall} {value : ℕ}
    (h : ReadsAs call.valueWei value) :
    call.wei = value := by
  rw [StrategyExecutionCall.wei, h, Option.getD_some]

theorem ReadsAs.le {raw : String} {value : ℕ} (h : ReadsAs raw value) : value ≤ u256Max := by
  rw [ReadsAs] at h
  cases hparse : parseU256Decimal raw with
  | error error =>
    rw [hparse] at h
    cases h
  | ok parsed =>
    rw [hparse] at h
    obtain rfl := Option.some.inj h
    exact parseU256Decimal_le hparse

theorem ReadsAs.unique {raw : String} {value other : ℕ} (h : ReadsAs raw value)
    (hother : ReadsAs raw other) : value = other :=
  Option.some.inj (h.symm.trans hother)

end Findings

section Layers

variable {template : StrategyTemplate} {constraints : ConstraintPolicy} {plan : ExecutionPlan}

theorem callSchemaFindings_eq_nil (index : ℕ) (call : StrategyExecutionCall) :
    callSchemaFindings index call = [] ↔
      Text.trim call.role ≠ "" ∧ (∃ value, ReadsAs call.valueWei value) ∧
        (∃ blob, normalizeHexBlob call.data "data" = .ok blob) ∧
          10 ≤ (Text.trim call.data).utf8ByteSize := by
  unfold callSchemaFindings
  dsimp only
  rw [List.append_eq_nil_iff, List.append_eq_nil_iff, findingWhen_eq_nil, findingWhen_eq_nil,
    isNone_parseU256Field, decide_eq_false_iff_not, and_assoc]
  cases hdata : normalizeHexBlob call.data "data" with
  | error error => simp
  | ok blob => simp [findingWhen_eq_nil]

theorem callAddressFindings_eq_nil (index : ℕ) (call : StrategyExecutionCall) :
    callAddressFindings index call = [] ↔
      ∃ address, normalizeEvmAddress call.toAddress = .ok address := by
  unfold callAddressFindings
  cases normalizeEvmAddress call.toAddress <;> simp

/-- The address of a call is compared when both addresses are well-formed. -/
theorem callRoleFindings_eq_nil (index : ℕ) (call : StrategyExecutionCall)
    (haddress : ∃ address, normalizeEvmAddress call.toAddress = .ok address) :
    callRoleFindings template index call = [] ↔
      ∃ binding, template.bindingOf call = some binding ∧ Text.trim binding.sourceRef ≠ "" ∧
        ∀ address, normalizeEvmAddress binding.address = .ok address →
          normalizeEvmAddress call.toAddress = .ok address := by
  obtain ⟨actual, hactual⟩ := haddress
  unfold callRoleFindings
  dsimp only
  rw [← StrategyTemplate.bindingOf, hactual]
  cases template.bindingOf call with
  | none => simp
  | some binding =>
    by_cases hsource : Text.trim binding.sourceRef = ""
    · simp [hsource]
    · cases hexpected : normalizeEvmAddress binding.address with
      | error error => simp [hsource, hexpected]
      | ok expected =>
        dsimp only
        rw [if_neg hsource, hexpected]
        dsimp only
        rw [findingWhen_eq_nil, decide_eq_false_iff_not, not_not]
        constructor
        · rintro rfl
          exact ⟨binding, rfl, hsource, fun address h => hexpected.symm.trans h⟩
        · rintro ⟨_, h, -, hbound⟩
          obtain rfl := Option.some.inj h
          exact (Except.ok.inj (hbound _ hexpected)).symm

theorem callValueFindings_eq_nil (index : ℕ) (call : StrategyExecutionCall)
    (hamount : ∃ value, ReadsAs call.valueWei value) :
    callValueFindings constraints index call = [] ↔
      ∀ raw, constraints.maxValueWeiPerCall = some raw → ∀ limit, ReadsAs raw limit →
        call.wei ≤ limit := by
  obtain ⟨value, hvalue⟩ := hamount
  unfold callValueFindings
  rw [readsAs_field.mpr hvalue, Option.elim_some, hvalue.wei_eq]
  cases constraints.maxValueWeiPerCall with
  | none => simp
  | some raw =>
    rw [Option.elim_some, toOption_parseU256Field]
    cases hlimit : (parseU256Decimal raw).toOption with
    | none => simp [ReadsAs, hlimit]
    | some limit => simp [ReadsAs, hlimit, findingWhen_eq_nil]

theorem totalValueFindings_eq_nil {totalValue : ℕ} :
    totalValueFindings constraints totalValue = [] ↔
      ∀ raw, constraints.maxTotalValueWei = some raw →
        ∃ limit, ReadsAs raw limit ∧ totalValue ≤ limit := by
  unfold totalValueFindings
  cases constraints.maxTotalValueWei with
  | none => simp
  | some raw =>
    rw [Option.elim_some, toOption_parseU256Field]
    cases hlimit : (parseU256Decimal raw).toOption with
    | none => simp [ReadsAs, hlimit]
    | some limit => simp [ReadsAs, hlimit, findingWhen_eq_nil]

theorem templateBudgetFindings_eq_nil {spentRaw : String} {totalValue : ℕ} :
    templateBudgetFindings constraints spentRaw totalValue = [] ↔
      ∀ raw, constraints.templateBudgetWei = some raw →
        ∃ limit, ReadsAs raw limit ∧ ∃ spent, ReadsAs spentRaw spent ∧
          saturatingAdd u256Max spent totalValue ≤ limit := by
  unfold templateBudgetFindings
  cases constraints.templateBudgetWei with
  | none => simp
  | some raw =>
    rw [Option.elim_some, toOption_parseU256Field]
    cases hlimit : (parseU256Decimal raw).toOption with
    | none => simp [ReadsAs, hlimit]
    | some limit =>
      rw [Option.elim_some, toOption_parseU256Field]
      cases hspent : (parseU256Decimal spentRaw).toOption with
      | none => simp [ReadsAs, hspent]
      | some spent => simp [ReadsAs, hlimit, hspent, findingWhen_eq_nil]

theorem validatePostconditionLayer_eq_nil :
    validatePostconditionLayer plan = [] ↔
      plan.postconditions ≠ [] ∧ ∀ postcondition ∈ plan.postconditions,
        Text.trim postcondition ≠ "" := by
  have heach : (plan.postconditions.mapIdx fun index postcondition =>
      findingWhen .postcondition (Text.trim postcondition = "") "empty_postcondition"
        ("postconditions[" ++ toString index ++ "] must be non-empty")).flatten = [] ↔
      ∀ postcondition ∈ plan.postconditions, Text.trim postcondition ≠ "" := by
    apply flatten_mapIdx_eq_nil
    intro index postcondition _
    rw [findingWhen_eq_nil, decide_eq_false_iff_not]
  unfold validatePostconditionLayer
  cases hpost : plan.postconditions with
  | nil => simp
  | cons postcondition postconditions =>
    rw [hpost] at heach
    simpa using heach

theorem validateSchemaLayer_eq_nil :
    validateSchemaLayer plan = [] ↔
      Text.trim plan.key.protocol ≠ "" ∧ Text.trim plan.key.primitive ≠ "" ∧
        Text.trim plan.key.templateId ≠ "" ∧ plan.key.chainId ≠ 0 ∧ Text.trim plan.actionId ≠ "" ∧
        plan.calls ≠ [] ∧ ∀ call ∈ plan.calls,
          Text.trim call.role ≠ "" ∧ (∃ value, ReadsAs call.valueWei value) ∧
            (∃ blob, normalizeHexBlob call.data "data" = .ok blob) ∧
              10 ≤ (Text.trim call.data).utf8ByteSize := by
  unfold validateSchemaLayer
  simp only [List.append_eq_nil_iff, findingWhen_eq_nil, decide_eq_false_iff_not, and_assoc,
    flatten_mapIdx_eq_nil fun index call _ => callSchemaFindings_eq_nil index call,
    List.isEmpty_eq_false_iff]

/-- When all calls go to well-formed addresses, what is left to check is their bindings. -/
theorem validateAddressLayer_eq_nil {found : Option StrategyTemplate} {chainId : ℕ} :
    validateAddressLayer plan found chainId = [] ↔
      chainId = plan.key.chainId ∧
        (∀ call ∈ plan.calls, ∃ address, normalizeEvmAddress call.toAddress = .ok address) ∧
          ∃ template, found = some template ∧ ∀ call ∈ plan.calls,
            ∃ binding, template.bindingOf call = some binding ∧ Text.trim binding.sourceRef ≠ "" ∧
              ∀ address, normalizeEvmAddress binding.address = .ok address →
                normalizeEvmAddress call.toAddress = .ok address := by
  unfold validateAddressLayer
  rw [List.append_eq_nil_iff, List.append_eq_nil_iff, findingWhen_eq_nil, decide_eq_false_iff_not,
    not_not, flatten_mapIdx_eq_nil fun index call _ => callAddressFindings_eq_nil index call,
    and_assoc]
  refine and_congr_right fun _ => and_congr_right fun haddresses => ?_
  cases found with
  | none => simp
  | some template =>
    rw [Option.elim_some, flatten_mapIdx_eq_nil fun index call hcall =>
      callRoleFindings_eq_nil index call (haddresses call hcall)]
    simp

end Layers

section Passing

variable {keccakHex : String → String} {parseConstraints : String → Except String ConstraintPolicy}
  {registry : StrategyRegistry} {rows : StrategyRows} {plan : ExecutionPlan}
  {template : StrategyTemplate}

theorem activationFindings_eq_nil {key : StrategyTemplateKey} :
    findingWhen .policy (template.status ≠ .active) "template_not_active"
        "strategy template status is not Active" = [] ∧
      activationFindings keccakHex registry rows key = [] ↔
      Permitted keccakHex registry rows key template := by
  have hgetD (flag : Option Bool) : flag.getD false = false ↔ flag ≠ some true := by
    cases flag with
    | none => simp
    | some value => cases value <;> simp
  unfold activationFindings
  dsimp only
  rw [findingWhen_eq_nil, decide_eq_false_iff_not, not_not, List.append_eq_nil_iff,
    List.append_eq_nil_iff, findingWhen_eq_nil, findingWhen_eq_nil, hgetD, hgetD]
  constructor
  · rintro ⟨hactive, ⟨hactivation, hrevoked⟩, hkilled⟩
    refine ⟨hactive, ?_, hrevoked, hkilled⟩
    cases hstate : rows.activations[templateStateRecordKey keccakHex "activation" key]? with
    | none =>
      rw [hstate] at hactivation
      cases hactivation
    | some state =>
      rw [hstate, Option.elim_some, findingWhen_eq_nil, Bool.not_eq_false'] at hactivation
      exact ⟨state, rfl, hactivation⟩
  · rintro ⟨hactive, ⟨state, hstate, henabled⟩, hrevoked, hkilled⟩
    refine ⟨hactive, ⟨?_, hrevoked⟩, hkilled⟩
    rw [hstate, Option.elim_some, findingWhen_eq_nil, henabled, Bool.not_true]

theorem validatePolicyLayer_eq_nil
    (hamounts : ∀ call ∈ plan.calls, ∃ value, ReadsAs call.valueWei value) :
    validatePolicyLayer keccakHex parseConstraints registry rows plan (some template) = [] ↔
      ∃ constraints, template.Declares parseConstraints constraints ∧
        Permitted keccakHex registry rows plan.key template ∧
        (∀ maxCalls, constraints.maxCalls = some maxCalls → plan.calls.length ≤ maxCalls) ∧
        (∀ call ∈ plan.calls, ∀ raw, constraints.maxValueWeiPerCall = some raw →
          ∀ limit, ReadsAs raw limit → call.wei ≤ limit) ∧
        (∀ raw, constraints.maxTotalValueWei = some raw →
          ∃ limit, ReadsAs raw limit ∧ min plan.wei u256Max ≤ limit) ∧
        (∀ raw, constraints.templateBudgetWei = some raw →
          ∃ limit, ReadsAs raw limit ∧
            ∃ spent, ReadsAs (rows.budgetSpentWei keccakHex plan.key) spent ∧
              min (spent + plan.wei) u256Max ≤ limit) ∧
        ∀ required ∈ constraints.requiredPostconditions, required ∈ plan.postconditions := by
  have hprojected (spent : ℕ) :
      saturatingAdd u256Max spent (min plan.wei u256Max) = min (spent + plan.wei) u256Max := by
    unfold saturatingAdd
    omega
  unfold validatePolicyLayer StrategyTemplate.Declares
  rw [Option.elim_some]
  obtain ⟨constraints, findings⟩ := parseConstraintsPolicy parseConstraints template.constraintsJson
  have hnumber : constraints.maxCalls.elim [] (fun maxCalls =>
      findingWhen .policy (maxCalls < plan.calls.length) "max_calls_exceeded"
        ("execution plan has " ++ toString plan.calls.length ++ " calls but max_calls is " ++
          toString maxCalls)) = [] ↔
      ∀ maxCalls, constraints.maxCalls = some maxCalls → plan.calls.length ≤ maxCalls := by
    cases constraints.maxCalls <;> simp [findingWhen_eq_nil]
  have hrequired : (constraints.requiredPostconditions.flatMap fun required =>
      findingWhen .policy (!plan.postconditions.contains required) "required_postcondition_missing"
        ("missing required postcondition: " ++ required)) = [] ↔
      ∀ required ∈ constraints.requiredPostconditions, required ∈ plan.postconditions := by
    simp [findingWhen_eq_nil]
  dsimp only
  simp only [List.append_eq_nil_iff, and_assoc]
  rw [← and_assoc, activationFindings_eq_nil, hnumber, hrequired, totalCallValue_eq,
    flatten_mapIdx_eq_nil fun index call hcall =>
      callValueFindings_eq_nil index call (hamounts call hcall),
    totalValueFindings_eq_nil, templateBudgetFindings_eq_nil]
  simp only [hprojected]
  constructor
  · rintro ⟨hpermitted, rfl, hrest⟩
    exact ⟨constraints, rfl, hpermitted, hrest⟩
  · rintro ⟨_, hdeclares, hpermitted, hrest⟩
    obtain ⟨rfl, rfl⟩ := Prod.mk.inj hdeclares
    exact ⟨hpermitted, rfl, hrest⟩

/-- A plan passes exactly when every check passes. -/
theorem validateExecutionPlan_passed_iff {nowNs : ℕ} :
    (validateExecutionPlan keccakHex parseConstraints registry rows plan nowNs).passed = true ↔
      ∃ template, registry.templates[strategyTemplatePk plan.key]? = some template ∧
        ∃ constraints, template.Declares parseConstraints constraints ∧
          PlanPasses keccakHex registry rows plan template constraints := by
  unfold validateExecutionPlan
  simp only [List.isEmpty_iff, List.append_eq_nil_iff, and_assoc, validateSchemaLayer_eq_nil,
    validateAddressLayer_eq_nil, validatePostconditionLayer_eq_nil]
  constructor
  · rintro ⟨hprotocol, hprimitive, htemplateId, hchain, haction, hnonempty, hschema, hruntime,
      haddresses, ⟨template, htemplate, hbound⟩, hpolicy, hpost, hposts⟩
    have hamounts : ∀ call ∈ plan.calls, ∃ value, ReadsAs call.valueWei value :=
      fun call hcall => (hschema call hcall).2.1
    rw [htemplate, validatePolicyLayer_eq_nil hamounts] at hpolicy
    obtain ⟨constraints, hdeclares, hpermitted, hnumber, heach, htotal, hbudget, hrequired⟩ :=
      hpolicy
    refine ⟨template, htemplate, constraints, hdeclares, ?_⟩
    refine ⟨hprotocol, hprimitive, htemplateId, hchain, haction, hnonempty, ?_, hruntime,
      hpermitted, hnumber, htotal, hbudget, hrequired, hpost, hposts⟩
    intro call hcall
    obtain ⟨hrole, hamount, hcalldata, hselector⟩ := hschema call hcall
    exact ⟨hrole, hamount, hcalldata, hselector, haddresses call hcall, hbound call hcall,
      heach call hcall⟩
  · rintro ⟨template, htemplate, constraints, hdeclares, h⟩
    have hamounts : ∀ call ∈ plan.calls, ∃ value, ReadsAs call.valueWei value :=
      fun call hcall => (h.calls call hcall).amount
    refine ⟨h.protocol, h.primitive, h.template_id, h.chain, h.action, h.calls_nonempty, ?_,
      h.runtime_chain, ?_, ⟨template, htemplate, ?_⟩, ?_, h.postconditions_nonempty,
      h.postconditions⟩
    · intro call hcall
      have hpasses := h.calls call hcall
      exact ⟨hpasses.role, hpasses.amount, hpasses.calldata, hpasses.selector⟩
    · exact fun call hcall => (h.calls call hcall).address
    · exact fun call hcall => (h.calls call hcall).bound
    · rw [htemplate, validatePolicyLayer_eq_nil hamounts]
      exact ⟨constraints, hdeclares, h.permitted, h.number,
        fun call hcall => (h.calls call hcall).limit, h.total, h.budget, h.required⟩

/-- A plan that passes keeps its limits and goes to the bound addresses exactly when everything that
the checks rely on is well-formed. -/
theorem PlanPasses.safe_iff {constraints : ConstraintPolicy}
    (h : PlanPasses keccakHex registry rows plan template constraints) :
    (∀ call ∈ plan.calls, template.BindsCall call) ∧
      KeepsLimits constraints plan (rows.budgetSpentWei keccakHex plan.key) ↔
    ReadsEveryLimit template constraints plan (rows.budgetSpentWei keccakHex plan.key) := by
  constructor
  · rintro ⟨hbinds, hkeeps⟩
    constructor
    · intro call hcall binding hbinding
      obtain ⟨bound, hbound, address, haddress, -⟩ := hbinds call hcall
      obtain rfl := Option.some.inj (hbinding.symm.trans hbound)
      exact ⟨address, haddress⟩
    · intro raw hraw
      obtain ⟨limit, hlimit, -⟩ := hkeeps.each raw hraw
      exact ⟨limit, hlimit⟩
    · intro hsome
      obtain ⟨raw, hraw⟩ := Option.isSome_iff_exists.mp hsome
      obtain ⟨limit, hlimit, hle⟩ := hkeeps.total raw hraw
      exact hle.trans hlimit.le
    · intro hsome spent hspent
      obtain ⟨raw, hraw⟩ := Option.isSome_iff_exists.mp hsome
      obtain ⟨limit, hlimit, other, hother, hle⟩ := hkeeps.budget raw hraw
      obtain rfl := hspent.unique hother
      exact hle.trans hlimit.le
  · intro hreads
    refine ⟨?_, ?_⟩
    · intro call hcall
      obtain ⟨binding, hbinding, -, hsame⟩ := (h.calls call hcall).bound
      obtain ⟨address, haddress⟩ := hreads.bindings call hcall binding hbinding
      exact ⟨binding, hbinding, address, haddress, hsame address haddress⟩
    · constructor
      · exact fun call hcall => (h.calls call hcall).amount
      · exact h.number
      · intro raw hraw
        obtain ⟨limit, hlimit⟩ := hreads.each raw hraw
        exact ⟨limit, hlimit, fun call hcall => (h.calls call hcall).limit raw hraw limit hlimit⟩
      · intro raw hraw
        obtain ⟨limit, hlimit, hle⟩ := h.total raw hraw
        have hfits := hreads.total (Option.isSome_iff_exists.mpr ⟨raw, hraw⟩)
        refine ⟨limit, hlimit, ?_⟩
        rwa [Nat.min_eq_left hfits] at hle
      · intro raw hraw
        obtain ⟨limit, hlimit, spent, hspent, hle⟩ := h.budget raw hraw
        have hfits := hreads.budget (Option.isSome_iff_exists.mpr ⟨raw, hraw⟩) spent hspent
        refine ⟨limit, hlimit, spent, hspent, ?_⟩
        rwa [Nat.min_eq_left hfits] at hle

end Passing

/-- When validation passes, the template exists and permits executions, every call goes to the
address of its role, and every declared limit is a number that the plan respects. -/
def FailsClosed (keccakHex : String → String)
    (parseConstraints : String → Except String ConstraintPolicy) (registry : StrategyRegistry)
    (rows : StrategyRows) (plan : ExecutionPlan) (nowNs : ℕ) : Prop :=
  (validateExecutionPlan keccakHex parseConstraints registry rows plan nowNs).passed = true →
    ∃ template, registry.templates[strategyTemplatePk plan.key]? = some template ∧
      Permitted keccakHex registry rows plan.key template ∧
        (∀ call ∈ plan.calls, template.BindsCall call) ∧
          ∃ constraints, template.Declares parseConstraints constraints ∧
            KeepsLimits constraints plan (rows.budgetSpentWei keccakHex plan.key)

/-- Validation fails closed for a plan exactly when, unless a check refuses the plan, bound
addresses and the limit of a call are well-formed and the compared sums fit in 256 bits. -/
theorem validateExecutionPlan_failsClosed_iff (keccakHex : String → String)
    (parseConstraints : String → Except String ConstraintPolicy) (registry : StrategyRegistry)
    (rows : StrategyRows) (plan : ExecutionPlan) (nowNs : ℕ) :
    FailsClosed keccakHex parseConstraints registry rows plan nowNs ↔
      ∀ template constraints, registry.templates[strategyTemplatePk plan.key]? = some template →
        template.Declares parseConstraints constraints →
          PlanPasses keccakHex registry rows plan template constraints →
            ReadsEveryLimit template constraints plan (rows.budgetSpentWei keccakHex plan.key) := by
  unfold FailsClosed
  rw [validateExecutionPlan_passed_iff]
  constructor
  · intro hclosed template constraints htemplate hdeclares hpasses
    obtain ⟨_, hfound, -, hbinds, _, hdeclared, hkeeps⟩ :=
      hclosed ⟨template, htemplate, constraints, hdeclares, hpasses⟩
    obtain rfl := Option.some.inj (htemplate.symm.trans hfound)
    obtain ⟨rfl, -⟩ := Prod.mk.inj (hdeclares.symm.trans hdeclared)
    exact hpasses.safe_iff.mp ⟨hbinds, hkeeps⟩
  · rintro hreads ⟨template, htemplate, constraints, hdeclares, hpasses⟩
    obtain ⟨hbinds, hkeeps⟩ :=
      hpasses.safe_iff.mpr (hreads template constraints htemplate hdeclares hpasses)
    exact ⟨template, htemplate, hpasses.permitted, hbinds, constraints, hdeclares, hkeeps⟩

section MalformedLimit

/-- The constraints of a template whose limit for a call is not a number of wei. -/
def etherLimitJson : String := "\x7b\"max_value_wei_per_call\":\"1 ether\"\x7d"

/-- What these constraints are read as. -/
def parseEtherLimit (raw : String) : Except String ConstraintPolicy :=
  if raw = etherLimitJson then
    .ok { ConstraintPolicy.default with maxValueWeiPerCall := some "1 ether" }
  else .error "expected value"

/-- The registry with a template with this limit. -/
def etherLimitRegistry : StrategyRegistry where
  templates := (∅ : BTreeMap String StrategyTemplate).insert (strategyTemplatePk vaultKey)
    { vaultTemplate with constraintsJson := etherLimitJson }
  revocations := ∅
  killSwitches := ∅
  chainId := 8453

/-- A call of two ether passes, since the limit of one ether is not read. -/
theorem etherLimit_not_failsClosed :
    ¬ FailsClosed id parseEtherLimit etherLimitRegistry vaultRows
      (vaultPlan "2000000000000000000") 1 := by
  intro hclosed
  obtain ⟨template, htemplate, -, -, constraints, hdeclares, hkeeps⟩ :=
    hclosed (by decide +kernel)
  have hfound : etherLimitRegistry.templates[strategyTemplatePk vaultKey]? =
      some { vaultTemplate with constraintsJson := etherLimitJson } := by decide +kernel
  obtain rfl := Option.some.inj (hfound.symm.trans htemplate)
  have hlimit : (parseConstraintsPolicy parseEtherLimit etherLimitJson).1.maxValueWeiPerCall =
      some "1 ether" := by decide +kernel
  rw [StrategyTemplate.Declares] at hdeclares
  rw [hdeclares] at hlimit
  obtain ⟨limit, hreads, -⟩ := hkeeps.each "1 ether" hlimit
  have hnone : (parseU256Decimal "1 ether").toOption = none := by decide +kernel
  rw [ReadsAs, hnone] at hreads
  cases hreads

end MalformedLimit

end Automaton.Strategy
