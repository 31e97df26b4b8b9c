import Automaton.Strategy.Compiler

/-!
# The strategy registry

A strategy is registered from a recipe: the artifacts of its contracts are stored one by one, then a
draft of its template, and when the compiler accepts the draft it is made active and enabled. A
template that is stored is activated in the same way.
-/

namespace Automaton.Strategy

open Machine Fallible

/-- The tables of the registry. A template is stored under its own key. -/
structure RegistryTables where
  templates : BTreeMap String StoredTemplate
  artifacts : BTreeMap String AbiArtifact
  activations : BTreeMap String TemplateActivationState
  revocations : BTreeMap String Bool
  killSwitches : BTreeMap String Bool
  budgets : BTreeMap String String
  keyed : ∀ pk template, templates[pk]? = some template → strategyTemplatePk template.key = pk

/-- What the compiler reads of the tables. -/
def RegistryTables.compiler (tables : RegistryTables) : CompilerTables :=
  ⟨tables.templates, tables.artifacts⟩

/-- `sqlite::upsert_strategy_template`. -/
def RegistryTables.putTemplate (tables : RegistryTables) (template : StoredTemplate) :
    RegistryTables where
  templates := tables.templates.insert (strategyTemplatePk template.key) template
  artifacts := tables.artifacts
  activations := tables.activations
  revocations := tables.revocations
  killSwitches := tables.killSwitches
  budgets := tables.budgets
  keyed pk stored h := by
    rw [BTreeMap.get?_insert] at h
    split at h
    · rename_i hpk
      exact Option.some.inj h ▸ hpk
    · exact tables.keyed pk stored h

/-- `stable::upsert_strategy_template`. -/
def RegistryTables.upsertTemplate (tables : RegistryTables) (template : StoredTemplate) :
    Except String RegistryTables :=
  if Text.trim template.key.protocol = "" then
    .error "strategy template protocol cannot be empty"
  else if Text.trim template.key.templateId = "" then
    .error "strategy template template_id cannot be empty"
  else .ok (tables.putTemplate template)

/-- `stable::set_strategy_template_activation`. -/
def RegistryTables.setActivation (keccakHex : String → String) (tables : RegistryTables)
    (state : TemplateActivationState) : Except String RegistryTables := do
  validateStrategyTemplateKey state.key
  .ok { tables with
    activations :=
      tables.activations.insert (templateStateRecordKey keccakHex "activation" state.key) state }

/-- `StrategyRecipeContract`. -/
structure StrategyRecipeContract where
  role : String
  address : String
  abiJson : String
  sourceRef : String
  codehash : Option String

/-- `StrategyRecipeActionCall`. -/
structure StrategyRecipeActionCall where
  role : String
  functionName : String

/-- `StrategyRecipeAction`. -/
structure StrategyRecipeAction where
  actionId : String
  calls : List StrategyRecipeActionCall
  preconditions : List String
  postconditions : List String
  riskChecks : List String
  assetEffects : List StrategyAssetEffectDeclaration

/-- `StrategyRecipe`. -/
structure StrategyRecipe where
  protocol : String
  primitive : String
  chainId : ℕ
  templateId : String
  contracts : List StrategyRecipeContract
  actions : List StrategyRecipeAction
  maxValueWeiPerCall : Option String
  templateBudgetWei : Option String

/-- `ResolvedRecipeContract`, with the functions in the order of the artifact. -/
structure ResolvedRecipeContract where
  binding : ContractRoleBinding
  functions : List AbiFunctionSpec

/-- `RegisteredStrategy`. -/
structure RegisteredStrategy where
  template : StoredTemplate
  activation : TemplateActivationState

/-- `RECIPE_DEFAULT_MAX_CALLS`. -/
def recipeDefaultMaxCalls : ℕ := 5

/-- `RECIPE_DEFAULT_MAX_VALUE_WEI_PER_CALL`. -/
def recipeDefaultMaxValueWeiPerCall : String := "100000000000000000"

/-- `RECIPE_DEFAULT_TEMPLATE_BUDGET_WEI`. -/
def recipeDefaultTemplateBudgetWei : String := "1000000000000000000"

section Fields

/-- `normalize_required_field`. -/
def normalizeRequiredField (raw field : String) : Except String String :=
  normalizeNonEmpty raw field

/-- `normalize_optional_check_list`. -/
def normalizeOptionalCheckList (values : List String) : List String :=
  (values.map Text.trim).filter (· ≠ "")

/-- `normalize_required_check_list`. -/
def normalizeRequiredCheckList (values : List String) (field : String) :
    Except String (List String) :=
  if (normalizeOptionalCheckList values).isEmpty then
    .error (field ++ " must contain at least one non-empty entry")
  else .ok (normalizeOptionalCheckList values)

/-- `normalize_recipe_decimal`. -/
def normalizeRecipeDecimal (raw field : String) : Except String String :=
  let trimmed := Text.trim raw
  if trimmed = "" then .error (field ++ " value cannot be empty")
  else if !trimmed.toList.all Char.isDigit then .error (field ++ " must be a decimal string")
  else
    match Decimal.parseUnsigned u256Max trimmed with
    | none => .error (field ++ " failed to parse decimal quantity: " ++ u256TooLarge)
    | some _ => .ok trimmed

/-- The key of a recipe, after the checks of `register_from_recipe` in front of its loops. -/
def recipeKey (recipe : StrategyRecipe) : Except String StrategyTemplateKey := do
  let protocol ← normalizeRequiredField recipe.protocol "protocol"
  let primitive ← normalizeRequiredField recipe.primitive "primitive"
  let templateId ← normalizeRequiredField recipe.templateId "template_id"
  if recipe.chainId = 0 then .error "chain_id must be greater than zero"
  else if recipe.contracts.isEmpty then .error "contracts must contain at least one entry"
  else if recipe.actions.isEmpty then .error "actions must contain at least one entry"
  else .ok ⟨protocol, primitive, recipe.chainId, templateId⟩

end Fields

section Registration

variable (env : CompilerEnv) (reader : AbiReader)

/-- The body of the loop of `register_from_recipe` over the contracts up to the store: the role and
the address of a contract, and its artifact. -/
def resolveContract (key : StrategyTemplateKey) (nowNs : ℕ)
    (resolved : BTreeMap String ResolvedRecipeContract) (contract : StrategyRecipeContract) :
    Except String (ContractRoleBinding × AbiArtifact) := do
  let role ← normalizeRequiredField contract.role "contracts.role"
  if resolved[role]?.isSome then .error ("duplicate contract role in recipe: " ++ role)
  else do
    let address ← normalizeEvmAddress contract.address
    let sourceRef ← normalizeRequiredField contract.sourceRef "contracts.source_ref"
    let artifact ← normalizeAbiArtifact env.endsWord env.keccak256 reader
      ⟨key.protocol, key.chainId, role⟩ contract.abiJson sourceRef contract.codehash [] nowNs
    .ok (⟨role, address, sourceRef, contract.codehash⟩, artifact)

/-- The loop of `register_from_recipe` over the contracts: what it resolves, and the artifacts. -/
def storeContracts (key : StrategyTemplateKey) (nowNs : ℕ) :
    List StrategyRecipeContract → BTreeMap String ResolvedRecipeContract →
    BTreeMap String AbiArtifact →
    Except String (BTreeMap String ResolvedRecipeContract) × BTreeMap String AbiArtifact
  | [], resolved, artifacts => (.ok resolved, artifacts)
  | contract :: contracts, resolved, artifacts =>
    match resolveContract env reader key nowNs resolved contract with
    | .error error => (.error error, artifacts)
    | .ok (binding, artifact) =>
      match upsertAbiArtifact artifacts artifact with
      | .error error => (.error error, artifacts)
      | .ok (artifact, stored) =>
        storeContracts key nowNs contracts
          (resolved.insert binding.role ⟨binding, artifact.functions⟩) stored

/-- The body of the loop of `register_from_recipe` over the calls of an action. -/
def resolveRecipeCall (resolved : BTreeMap String ResolvedRecipeContract) (actionId : String)
    (call : StrategyRecipeActionCall) : Except String AbiFunctionSpec := do
  let role ← normalizeRequiredField call.role "actions.calls.role"
  let functionName ← normalizeRequiredField call.functionName "actions.calls.function"
  match resolved[role]? with
  | none => .error ("action `" ++ actionId ++ "` references unknown role `" ++ role ++ "`")
  | some contract =>
    match contract.functions.filter (·.name = functionName) with
    | [] => .error ("action `" ++ actionId ++ "` function `" ++ functionName ++
        "` not found in ABI for role `" ++ role ++ "`")
    | [function] => do
      let _ ← (verifyFunctionSelector env function).mapError fun error =>
        "invalid selector for action `" ++ actionId ++ "` role `" ++ role ++ "` function `" ++
          functionName ++ "`: " ++ error
      .ok function
    | _ => .error ("action `" ++ actionId ++ "` function `" ++ functionName ++
        "` is overloaded in role `" ++ role ++ "` ABI; provide a non-overloaded function")

/-- The body of the loop of `register_from_recipe` over the actions. -/
def resolveRecipeAction (resolved : BTreeMap String ResolvedRecipeContract)
    (action : StrategyRecipeAction) : Except String ActionSpec := do
  let actionId ← normalizeRequiredField action.actionId "actions.action_id"
  if action.calls.isEmpty then
    .error ("action `" ++ actionId ++ "` must contain at least one call")
  else do
    let callSequence ← action.calls.mapM (resolveRecipeCall env resolved actionId)
    let postconditions ← normalizeRequiredCheckList action.postconditions "actions.postconditions"
    .ok {
      actionId, callSequence, postconditions
      preconditions := normalizeOptionalCheckList action.preconditions
      riskChecks := normalizeOptionalCheckList action.riskChecks }

/-- `StrategyAssetDirection` as JSON. -/
def StrategyAssetDirection.toJson : StrategyAssetDirection → JsonValue
  | .debit => .string "Debit"
  | .credit => .string "Credit"

/-- `StrategyAssetEffectDeclaration` as JSON. -/
def StrategyAssetEffectDeclaration.toJson (declaration : StrategyAssetEffectDeclaration) :
    JsonValue :=
  .object [
    ("asset_role", declaration.assetRole.elim .null .string),
    ("asset_symbol", .string declaration.assetSymbol),
    ("decimals", .posInt (UInt64.ofNat declaration.decimals)),
    ("direction", declaration.direction.toJson),
    ("amount_path", .string declaration.amountPath)]

/-- The constraints of a registered template. -/
def recipeConstraints (maxValueWeiPerCall templateBudgetWei : String)
    (actions : List (ActionSpec × StrategyRecipeAction)) : JsonValue :=
  .object [
    ("max_calls", .posInt (UInt64.ofNat recipeDefaultMaxCalls)),
    ("max_value_wei_per_call", .string maxValueWeiPerCall),
    ("max_total_value_wei", .string maxValueWeiPerCall),
    ("template_budget_wei", .string templateBudgetWei),
    ("asset_effects", .object (actions.map fun action =>
      (action.1.actionId, .array (action.2.assetEffects.map (·.toJson)))))]

/-- `register_from_recipe` between its loop over the contracts and its first write of the template:
the draft. -/
def recipeDraft (key : StrategyTemplateKey) (nowNs : ℕ) (recipe : StrategyRecipe)
    (resolved : BTreeMap String ResolvedRecipeContract) : Except String StoredTemplate := do
  let actions ← recipe.actions.mapM (resolveRecipeAction env resolved)
  let maxValueWeiPerCall ← normalizeRecipeDecimal
    (recipe.maxValueWeiPerCall.getD recipeDefaultMaxValueWeiPerCall) "max_value_wei_per_call"
  let templateBudgetWei ← normalizeRecipeDecimal
    (recipe.templateBudgetWei.getD recipeDefaultTemplateBudgetWei) "template_budget_wei"
  .ok {
    key, actions
    status := .draft
    contractRoles := resolved.toList.map (·.2.binding)
    constraintsJson := env.renderJson
      (recipeConstraints maxValueWeiPerCall templateBudgetWei (actions.zip recipe.actions))
    createdAtNs := nowNs
    updatedAtNs := nowNs }

variable (keccakHex : String → String)

/-- The end of `register_from_recipe`: a draft that the compiler accepts is made active and
enabled. -/
def promoteDraft (nowNs : ℕ) (draft : StoredTemplate) (tables : RegistryTables) :
    Except String RegisteredStrategy × RegistryTables :=
  match dryRunCompile env tables.compiler draft.key with
  | .error error => (.error error, tables)
  | .ok () =>
    let template := { draft with status := .active, updatedAtNs := nowNs }
    match tables.upsertTemplate template with
    | .error error => (.error error, tables)
    | .ok activated =>
      let activation :=
        ⟨draft.key, true, nowNs, some "auto-activated after dry-run compile"⟩
      match activated.setActivation keccakHex activation with
      | .error error => (.error error, activated)
      | .ok enabled => (.ok ⟨template, activation⟩, enabled)

/-- `register_from_recipe`. -/
def registerFromRecipe (nowNs : ℕ) (recipe : StrategyRecipe) (tables : RegistryTables) :
    Except String RegisteredStrategy × RegistryTables :=
  match recipeKey recipe with
  | .error error => (.error error, tables)
  | .ok key =>
    let contracts := storeContracts env reader key nowNs recipe.contracts ∅ tables.artifacts
    let tables := { tables with artifacts := contracts.2 }
    match contracts.1 with
    | .error error => (.error error, tables)
    | .ok resolved =>
      match recipeDraft env key nowNs recipe resolved with
      | .error error => (.error error, tables)
      | .ok draft =>
        match tables.upsertTemplate draft with
        | .error error => (.error error, tables)
        | .ok drafted => promoteDraft env keccakHex nowNs draft drafted

/-- `upsert_template_status`. -/
def upsertTemplateStatus (nowNs : ℕ) (key : StrategyTemplateKey) (status : TemplateStatus)
    (tables : RegistryTables) : Except String RegistryTables := do
  let template ← loadTemplate tables.compiler key
  tables.upsertTemplate { template with status, updatedAtNs := nowNs }

/-- `dispatch_steward_command` of `ActivateStrategyTemplate`. -/
def activateStrategyTemplate (nowNs : ℕ) (key : StrategyTemplateKey) (reason : Option String)
    (tables : RegistryTables) : Except String String × RegistryTables :=
  match upsertTemplateStatus nowNs key .active tables with
  | .error error => (.error error, tables)
  | .ok activated =>
    match dryRunCompile env activated.compiler key with
    | .error error => (.error error, activated)
    | .ok () =>
      match activated.setActivation keccakHex ⟨key, true, nowNs,
          reason <|> some "controller activation after dry-run compile"⟩ with
      | .error error => (.error error, activated)
      | .ok enabled => (.ok "strategy_template_activated", enabled)

end Registration

section Commands

/-- The commands of the steward that register a strategy and that activate a template. -/
inductive RegistryCommand
  | register (recipe : StrategyRecipe)
  | activate (key : StrategyTemplateKey) (reason : Option String)

/-- What is answered about a strategy that was registered. -/
def registeredAnswer (key : StrategyTemplateKey) : String :=
  "strategy_registered protocol=" ++ key.protocol ++ " primitive=" ++ key.primitive ++
    " template_id=" ++ key.templateId ++ " chain_id=" ++ toString key.chainId

variable (env : CompilerEnv) (reader : AbiReader) (keccakHex : String → String)

/-- `dispatch_steward_command`: the answer, and the tables that it leaves. -/
def RegistryCommand.run (nowNs : ℕ) (tables : RegistryTables) :
    RegistryCommand → Except String String × RegistryTables
  | .register recipe =>
    let registered := registerFromRecipe env reader keccakHex nowNs recipe tables
    (registered.1.map fun strategy => registeredAnswer strategy.template.key, registered.2)
  | .activate key reason => activateStrategyTemplate env keccakHex nowNs key reason tables

/-- The contracts of a recipe resolved one after the other: all of them, or the error of the first
that is rejected, with the artifacts of those in front of it. -/
def resolveContracts (key : StrategyTemplateKey) (nowNs : ℕ) :
    List StrategyRecipeContract → BTreeMap String ResolvedRecipeContract →
    Except String (BTreeMap String ResolvedRecipeContract) × List AbiArtifact
  | [], resolved => (.ok resolved, [])
  | contract :: contracts, resolved =>
    match resolveContract env reader key nowNs resolved contract with
    | .error error => (.error error, [])
    | .ok (binding, artifact) =>
      let rest := resolveContracts key nowNs contracts
        (resolved.insert binding.role ⟨binding, artifact.functions⟩)
      (rest.1, artifact :: rest.2)

/-- The artifacts of the contracts in front of the first that is rejected. -/
def StrategyRecipe.artifacts (recipe : StrategyRecipe) (nowNs : ℕ) : List AbiArtifact :=
  (recipeKey recipe).toOption.elim [] fun key =>
    (resolveContracts env reader key nowNs recipe.contracts ∅).2

/-- The draft of a recipe that passes all checks in front of the dry run. -/
def StrategyRecipe.draft (recipe : StrategyRecipe) (nowNs : ℕ) : Except String StoredTemplate := do
  let key ← recipeKey recipe
  let resolved ← (resolveContracts env reader key nowNs recipe.contracts ∅).1
  recipeDraft env key nowNs recipe resolved

/-- Tables with artifacts. -/
def putArtifacts (stored : BTreeMap String AbiArtifact) (artifacts : List AbiArtifact) :
    BTreeMap String AbiArtifact :=
  artifacts.foldl (fun stored artifact => stored.insert (abiArtifactPk artifact.key) artifact)
    stored

/-- A template up to its status and the time of its last change. -/
def StoredTemplate.withoutStatus (template : StoredTemplate) : StoredTemplate :=
  { template with status := .draft, updatedAtNs := 0 }

/-- What a command that fails may leave in the tables of templates and artifacts. -/
def RegistryCommand.Leaves (nowNs : ℕ) (tables after : RegistryTables) : RegistryCommand → Prop
  | .register recipe =>
    after.artifacts = putArtifacts tables.artifacts (recipe.artifacts env reader nowNs) ∧
      after.templates = (recipe.draft env reader nowNs).toOption.elim tables.templates
        fun draft => tables.templates.insert (strategyTemplatePk draft.key) draft
  | .activate key _ =>
    after.artifacts = tables.artifacts ∧
      (∀ pk, pk ≠ strategyTemplatePk key → after.templates[pk]? = tables.templates[pk]?) ∧
      after.templates[strategyTemplatePk key]?.map (·.withoutStatus) =
        tables.templates[strategyTemplatePk key]?.map (·.withoutStatus)

end Commands

section Failures

variable {env : CompilerEnv} {reader : AbiReader} {keccakHex : String → String} {nowNs : ℕ}
  {key : StrategyTemplateKey} {recipe : StrategyRecipe} {tables after : RegistryTables}
  {draft : StoredTemplate} {error : String}

/-- The artifact of a contract is about its role, and passes the checks of the store. -/
theorem upsertAbiArtifact_resolved {resolved : BTreeMap String ResolvedRecipeContract}
    {contract : StrategyRecipeContract} {binding : ContractRoleBinding} {artifact : AbiArtifact}
    (h : resolveContract env reader key nowNs resolved contract = .ok (binding, artifact))
    (artifacts : BTreeMap String AbiArtifact) : upsertAbiArtifact artifacts artifact =
      .ok (artifact, artifacts.insert (abiArtifactPk artifact.key) artifact) := by
  obtain ⟨role, -, h⟩ := bind_eq_ok.mp h
  obtain ⟨-, h⟩ := ite_error_eq_ok.mp h
  obtain ⟨address, -, h⟩ := bind_eq_ok.mp h
  obtain ⟨sourceRef, -, h⟩ := bind_eq_ok.mp h
  obtain ⟨normalized, hnormalized, heq⟩ := bind_eq_ok.mp h
  obtain ⟨-, rfl⟩ := Prod.mk.inj (Except.ok.inj heq)
  obtain ⟨_, hkey, hchecked⟩ := bind_eq_ok.mp hnormalized
  obtain ⟨-, hread⟩ := ite_error_eq_ok.mp hchecked
  obtain ⟨entries, -, hfunctions⟩ := bind_eq_ok.mp hread
  obtain ⟨functions, -, heq⟩ := bind_eq_ok.mp hfunctions
  obtain rfl := Except.ok.inj heq
  obtain ⟨hprotocol, hkey⟩ := ite_error_eq_ok.mp hkey
  obtain ⟨-, hkey⟩ := ite_error_eq_ok.mp hkey
  obtain ⟨hrole, -⟩ := ite_error_eq_ok.mp hkey
  rw [upsertAbiArtifact, if_neg hprotocol, if_neg hrole]

/-- The loop over the contracts stores what they are resolved to. -/
theorem storeContracts_eq (contracts : List StrategyRecipeContract)
    (resolved : BTreeMap String ResolvedRecipeContract) (artifacts : BTreeMap String AbiArtifact) :
    storeContracts env reader key nowNs contracts resolved artifacts =
      ((resolveContracts env reader key nowNs contracts resolved).1,
        putArtifacts artifacts (resolveContracts env reader key nowNs contracts resolved).2) := by
  induction contracts generalizing resolved artifacts with
  | nil => rfl
  | cons contract contracts ih =>
    rw [storeContracts, resolveContracts]
    cases hresolve : resolveContract env reader key nowNs resolved contract with
    | error error => rfl
    | ok found =>
      obtain ⟨binding, artifact⟩ := found
      dsimp only
      rw [upsertAbiArtifact_resolved hresolve]
      dsimp only
      rw [ih]
      rfl

theorem normalizeRequiredField_eq_ok {raw field text : String} :
    normalizeRequiredField raw field = .ok text ↔ Text.trim raw ≠ "" ∧ Text.trim raw = text := by
  rw [normalizeRequiredField, normalizeNonEmpty, ite_error_eq_ok, Except.ok.injEq]

/-- A key of a recipe passes the checks of all tables. -/
theorem recipeKey_valid (h : recipeKey recipe = .ok key) :
    Text.trim key.protocol ≠ "" ∧ Text.trim key.templateId ≠ "" ∧
      validateStrategyTemplateKey key = .ok () := by
  obtain ⟨protocol, hprotocol, h⟩ := bind_eq_ok.mp h
  obtain ⟨primitive, hprimitive, h⟩ := bind_eq_ok.mp h
  obtain ⟨templateId, htemplateId, h⟩ := bind_eq_ok.mp h
  obtain ⟨hchain, h⟩ := ite_error_eq_ok.mp h
  obtain ⟨-, h⟩ := ite_error_eq_ok.mp h
  obtain ⟨-, h⟩ := ite_error_eq_ok.mp h
  obtain rfl := Except.ok.inj h
  obtain ⟨hprotocolText, rfl⟩ := normalizeRequiredField_eq_ok.mp hprotocol
  obtain ⟨hprimitiveText, rfl⟩ := normalizeRequiredField_eq_ok.mp hprimitive
  obtain ⟨htemplateIdText, rfl⟩ := normalizeRequiredField_eq_ok.mp htemplateId
  refine ⟨by rwa [Text.trim_trim], by rwa [Text.trim_trim], ?_⟩
  rw [validateStrategyTemplateKey, Text.trim_trim, Text.trim_trim, Text.trim_trim,
    if_neg hprotocolText, if_neg hprimitiveText, if_neg hchain, if_neg htemplateIdText]

theorem recipeDraft_key {resolved : BTreeMap String ResolvedRecipeContract}
    (h : recipeDraft env key nowNs recipe resolved = .ok draft) :
    draft.key = key ∧ draft.status = .draft := by
  obtain ⟨actions, -, h⟩ := bind_eq_ok.mp h
  obtain ⟨maxValueWeiPerCall, -, h⟩ := bind_eq_ok.mp h
  obtain ⟨templateBudgetWei, -, h⟩ := bind_eq_ok.mp h
  obtain rfl := Except.ok.inj h
  exact ⟨rfl, rfl⟩

theorem upsertTemplate_of_valid (hprotocol : Text.trim draft.key.protocol ≠ "")
    (htemplateId : Text.trim draft.key.templateId ≠ "") :
    tables.upsertTemplate draft = .ok (tables.putTemplate draft) := by
  rw [RegistryTables.upsertTemplate, if_neg hprotocol, if_neg htemplateId]

/-- Only the dry run can keep a draft from being promoted, and then nothing is written. -/
theorem promoteDraft_error (hprotocol : Text.trim draft.key.protocol ≠ "")
    (htemplateId : Text.trim draft.key.templateId ≠ "")
    (hkey : validateStrategyTemplateKey draft.key = .ok ())
    (h : (promoteDraft env keccakHex nowNs draft tables).1 = .error error) :
    (promoteDraft env keccakHex nowNs draft tables).2 = tables := by
  unfold promoteDraft at h ⊢
  cases hdry : dryRunCompile env tables.compiler draft.key with
  | error failure => rfl
  | ok done =>
    let template : StoredTemplate := { draft with status := .active, updatedAtNs := nowNs }
    have hput : tables.upsertTemplate template = .ok (tables.putTemplate template) :=
      upsertTemplate_of_valid hprotocol htemplateId
    simp only [hdry, template] at h hput
    simp only [hput, RegistryTables.setActivation, hkey, bind, Except.bind] at h
    cases h

/-- A registration that fails leaves the artifacts of the contracts that it accepted, and the draft
when only the dry run rejects it. -/
theorem registerFromRecipe_error
    (h : (registerFromRecipe env reader keccakHex nowNs recipe tables).1 = .error error) :
    (registerFromRecipe env reader keccakHex nowNs recipe tables).2 =
      let stored := { tables with
        artifacts := putArtifacts tables.artifacts (recipe.artifacts env reader nowNs) }
      (recipe.draft env reader nowNs).toOption.elim stored stored.putTemplate := by
  unfold registerFromRecipe at h ⊢
  unfold StrategyRecipe.draft StrategyRecipe.artifacts
  cases hkey : recipeKey recipe with
  | error failure => rfl
  | ok key =>
    simp only [hkey, storeContracts_eq, bind, Except.bind] at h ⊢
    cases hresolved : (resolveContracts env reader key nowNs recipe.contracts ∅).1 with
    | error failure => rfl
    | ok resolved =>
      simp only [hresolved] at h ⊢
      cases hdraft : recipeDraft env key nowNs recipe resolved with
      | error failure => rfl
      | ok draft =>
        obtain ⟨hprotocol, htemplateId, hvalid⟩ := recipeKey_valid hkey
        obtain ⟨rfl, -⟩ := recipeDraft_key hdraft
        simp only [hdraft, upsertTemplate_of_valid hprotocol htemplateId] at h ⊢
        exact promoteDraft_error hprotocol htemplateId hvalid h

/-- An activation that fails leaves the template as it was, up to its status and the time of its
last change. -/
theorem activateStrategyTemplate_error {reason : Option String}
    (h : (activateStrategyTemplate env keccakHex nowNs key reason tables).1 = .error error) :
    (activateStrategyTemplate env keccakHex nowNs key reason tables).2 = tables ∨
      ∃ template, tables.templates[strategyTemplatePk key]? = some template ∧
        (activateStrategyTemplate env keccakHex nowNs key reason tables).2 =
          tables.putTemplate { template with status := .active, updatedAtNs := nowNs } := by
  unfold activateStrategyTemplate at h ⊢
  cases hupsert : upsertTemplateStatus nowNs key .active tables with
  | error failure => exact .inl rfl
  | ok activated =>
    obtain ⟨template, hload, hput⟩ := bind_eq_ok.mp hupsert
    have hstored : tables.templates[strategyTemplatePk key]? = some template := by
      unfold loadTemplate at hload
      split at hload
      · rename_i hget
        exact Except.ok.inj hload ▸ hget
      · cases hload
    obtain ⟨-, hput⟩ := ite_error_eq_ok.mp hput
    obtain ⟨-, hput⟩ := ite_error_eq_ok.mp hput
    obtain rfl := Except.ok.inj hput
    refine .inr ⟨template, hstored, ?_⟩
    simp only [hupsert] at h ⊢
    cases hdry : dryRunCompile env (tables.putTemplate
      { template with status := .active, updatedAtNs := nowNs }).compiler key with
    | error failure => rfl
    | ok done =>
      simp only [hdry] at h ⊢
      split
      · rfl
      · rename_i henabled
        rw [henabled] at h
        cases h

end Failures

/-- A command that fails writes no activation, revocation, kill switch or budget. A registration
leaves the artifacts of the contracts in front of the first that it rejects, and its draft if only
the dry run rejects it; an activation leaves the artifacts and the templates as they were, up to the
status of its own template and the time of its last change. -/
theorem failed_command_leaves (env : CompilerEnv) (reader : AbiReader) (keccakHex : String → String)
    (nowNs : ℕ) (tables : RegistryTables) (command : RegistryCommand) (error : String)
    (h : (command.run env reader keccakHex nowNs tables).1 = .error error) :
    (command.run env reader keccakHex nowNs tables).2.activations = tables.activations ∧
      (command.run env reader keccakHex nowNs tables).2.revocations = tables.revocations ∧
      (command.run env reader keccakHex nowNs tables).2.killSwitches = tables.killSwitches ∧
      (command.run env reader keccakHex nowNs tables).2.budgets = tables.budgets ∧
      command.Leaves env reader nowNs tables
        (command.run env reader keccakHex nowNs tables).2 := by
  cases command with
  | register recipe =>
    have hfailed : ∃ failure,
        (registerFromRecipe env reader keccakHex nowNs recipe tables).1 = .error failure := by
      cases hresult : (registerFromRecipe env reader keccakHex nowNs recipe tables).1 with
      | error failure => exact ⟨failure, rfl⟩
      | ok strategy =>
        rw [RegistryCommand.run, hresult] at h
        cases h
    obtain ⟨failure, hfailed⟩ := hfailed
    have hafter := registerFromRecipe_error hfailed
    dsimp only [RegistryCommand.run, RegistryCommand.Leaves]
    rw [hafter]
    cases hdraft : recipe.draft env reader nowNs with
    | error failure =>
      dsimp only [Except.toOption, Option.elim]
      exact ⟨rfl, rfl, rfl, rfl, rfl, rfl⟩
    | ok draft =>
      dsimp only [Except.toOption, Option.elim, RegistryTables.putTemplate]
      exact ⟨rfl, rfl, rfl, rfl, rfl, rfl⟩
  | activate key reason =>
    dsimp only [RegistryCommand.run, RegistryCommand.Leaves] at h ⊢
    rcases activateStrategyTemplate_error h with hafter | ⟨template, hstored, hafter⟩
    · rw [hafter]
      exact ⟨rfl, rfl, rfl, rfl, rfl, fun _ _ => rfl, rfl⟩
    · have hpk := tables.keyed _ _ hstored
      rw [hafter]
      refine ⟨rfl, rfl, rfl, rfl, rfl, fun pk hother => ?_, ?_⟩
      · dsimp only [RegistryTables.putTemplate]
        rw [BTreeMap.get?_insert, hpk, if_neg (Ne.symm hother)]
      · dsimp only [RegistryTables.putTemplate]
        rw [BTreeMap.get?_insert, hpk, if_pos rfl, hstored]
        rfl

section Ingested

/-- Tables without rows. -/
def RegistryTables.empty : RegistryTables where
  templates := ∅
  artifacts := ∅
  activations := ∅
  revocations := ∅
  killSwitches := ∅
  budgets := ∅
  keyed _ _ h := by simp at h

/-- A platform on which the digest is that of the transfer, and no text is JSON. -/
def transferEnv : CompilerEnv where
  target := .wasm32
  endsWord _ _ := true
  keccak256 := transferDigest
  parseJson _ := .error "expected value at line 1 column 1"
  renderJson _ := ""
  invalidParams _ := "expected value at line 1 column 1"
  invalidDeclarations _ := "invalid type"

def ingestedKey : StrategyTemplateKey := ⟨"erc20", "transfer", 8453, "payout"⟩

/-- A template that was ingested without actions. -/
def ingestedTemplate : StoredTemplate where
  key := ingestedKey
  status := .draft
  contractRoles := []
  constraintsJson := ""
  actions := []
  createdAtNs := 1
  updatedAtNs := 1

/-- Tables with it. -/
def ingestedTables : RegistryTables := RegistryTables.empty.putTemplate ingestedTemplate

/-- A recipe with the artifact of a token, and an action on another contract. -/
def vaultRecipe : StrategyRecipe where
  protocol := "erc20"
  primitive := "transfer"
  chainId := 8453
  templateId := "payout"
  contracts := [⟨"token", "0x4200000000000000000000000000000000000006", transferJson,
    "https://example.com", none⟩]
  actions := [⟨"pay", [⟨"vault", "deposit"⟩], [], ["paid"], [], []⟩]
  maxValueWeiPerCall := none
  templateBudgetWei := none

/-- The recipe is rejected after its artifact was stored, and the template is active after its
activation failed. -/
theorem rejected_commands_write :
    ((RegistryCommand.register vaultRecipe).run transferEnv transferReader id 2 .empty).1 =
        .error "action `pay` references unknown role `vault`" ∧
      RegistryTables.empty.artifacts["erc20:8453:token"]?.isNone ∧
      (((RegistryCommand.register vaultRecipe).run transferEnv transferReader id 2
        .empty).2.artifacts["erc20:8453:token"]?).isSome ∧
      ((RegistryCommand.activate ingestedKey none).run transferEnv transferReader id 2
        ingestedTables).1 = .error "template has no actions" ∧
      ingestedTables.templates["erc20:transfer:8453:payout"]?.map (·.status) = some .draft ∧
      ((RegistryCommand.activate ingestedKey none).run transferEnv transferReader id 2
        ingestedTables).2.templates["erc20:transfer:8453:payout"]?.map (·.status) =
          some .active := by
  refine ⟨?_, ?_, ?_, ?_, ?_, ?_⟩
  · with_unfolding_all rfl
  · decide
  · with_unfolding_all rfl
  · with_unfolding_all rfl
  · decide
  · with_unfolding_all rfl

/-- The activation enables nothing. -/
theorem ingested_stays_disabled :
    ((RegistryCommand.activate ingestedKey none).run transferEnv transferReader id 2
      ingestedTables).2.activations = ingestedTables.activations := by
  have hfailed : ((RegistryCommand.activate ingestedKey none).run transferEnv transferReader id 2
      ingestedTables).1 = .error "template has no actions" := by
    with_unfolding_all rfl
  exact (failed_command_leaves _ _ _ _ _ _ _ hfailed).1

end Ingested

end Automaton.Strategy
