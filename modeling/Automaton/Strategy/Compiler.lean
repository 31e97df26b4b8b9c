import Automaton.Strategy.NamedArguments
import Automaton.Strategy.RiskChecks

/-!
# Compilation of intents

An intent names a template, one of its actions and the arguments of the calls of the action. It is
compiled to a plan: calls with their calldata, and the asset effects that the template declares.
Compilation only reads the templates and the artifacts.
-/

namespace Automaton.Strategy

open Machine

/-- `ActionSpec`. -/
structure ActionSpec where
  actionId : String
  callSequence : List AbiFunctionSpec
  preconditions : List String
  postconditions : List String
  riskChecks : List String

/-- `StrategyTemplate` with all of its fields. -/
structure StoredTemplate extends StrategyTemplate where
  actions : List ActionSpec
  createdAtNs : ℕ
  updatedAtNs : ℕ

/-- The tables that the compiler reads. -/
structure CompilerTables where
  templates : BTreeMap String StoredTemplate
  artifacts : BTreeMap String AbiArtifact

/-- What the compiler uses of its platform: the size of a word, the position of a final sigma, the
hash, the JSON parser and printer, and the texts of the errors that say why JSON is not of the
expected form. -/
structure CompilerEnv where
  target : Target
  endsWord : List Char → List Char → Bool
  keccak256 : List UInt8 → List UInt8
  parseJson : String → Except String JsonValue
  renderJson : JsonValue → String
  invalidParams : String → String
  invalidDeclarations : JsonValue → String

/-- `StrategyExecutionIntent`. -/
structure StrategyExecutionIntent where
  key : StrategyTemplateKey
  actionId : String
  typedParamsJson : String

/-- `IntentTypedCall`. -/
structure IntentTypedCall where
  args : JsonValue
  valueWei : Option String

/-- `StrategyActionCallSchema`. -/
structure StrategyActionCallSchema where
  role : String
  functionName : String
  signature : String
  valueAllowed : Bool
  args : List AbiTypeSpec

/-- `StrategyAssetEffectDeclaration`. -/
structure StrategyAssetEffectDeclaration where
  assetRole : Option String
  assetSymbol : String
  decimals : ℕ
  direction : StrategyAssetDirection
  amountPath : String

section Deserialization

/-- A text, in a field that may be null. -/
def optionalText : JsonValue → Option (Option String)
  | .null => some none
  | .string text => some (some text)
  | _ => none

/-- The member of a struct that is read from a text, or its default; a field is not given twice. -/
def structMember {α : Type} (members : List (String × JsonValue)) (name : String) (missing : α)
    (read : JsonValue → Option α) : Option α :=
  match members.filter (·.1 = name) with
  | [] => some missing
  | [member] => read member.2
  | _ => none

/-- The deserializer of `IntentTypedCall`: the fields by name or in order. -/
def IntentTypedCall.read : JsonValue → Option IntentTypedCall
  | .object members => do
    let args ← structMember members "args" (.array []) some
    let valueWei ← structMember members "value_wei" none optionalText
    some ⟨args, valueWei⟩
  | .array [] => some ⟨.array [], none⟩
  | .array [args] => some ⟨args, none⟩
  | .array [args, valueWei] => (optionalText valueWei).map fun valueWei => ⟨args, valueWei⟩
  | _ => none

/-- The calls of `IntentTypedParams`. -/
def readTypedCalls : JsonValue → Option (List IntentTypedCall)
  | .array calls => calls.mapM IntentTypedCall.read
  | _ => none

/-- The deserializer of `IntentTypedParams`. -/
def readTypedParams : JsonValue → Option (List IntentTypedCall)
  | .object members => structMember members "calls" [] readTypedCalls
  | .array [] => some []
  | .array [calls] => readTypedCalls calls
  | _ => none

/-- The deserializer of `StrategyAssetDirection`: the name of a variant, alone or with null. -/
def StrategyAssetDirection.read : JsonValue → Option StrategyAssetDirection
  | .string "Debit" => some .debit
  | .string "Credit" => some .credit
  | .object members =>
    match (JsonValue.fields members).toList with
    | [("Debit", .null)] => some .debit
    | [("Credit", .null)] => some .credit
    | _ => none
  | _ => none

/-- A text. -/
def readText : JsonValue → Option String
  | .string text => some text
  | _ => none

/-- A number of one byte. -/
def readByte : JsonValue → Option ℕ
  | .posInt n => if n.toNat < 256 then some n.toNat else none
  | _ => none

/-- The deserializer of `StrategyAssetEffectDeclaration` from the values of its fields. -/
def StrategyAssetEffectDeclaration.ofParts
    (assetRole assetSymbol decimals direction amountPath : JsonValue) :
    Option StrategyAssetEffectDeclaration := do
  let assetRole ← optionalText assetRole
  let assetSymbol ← readText assetSymbol
  let decimals ← readByte decimals
  let direction ← StrategyAssetDirection.read direction
  let amountPath ← readText amountPath
  some { assetRole, assetSymbol, decimals, direction, amountPath }

/-- The deserializer of `StrategyAssetEffectDeclaration`: the fields by name or in order. -/
def StrategyAssetEffectDeclaration.read : JsonValue → Option StrategyAssetEffectDeclaration
  | .object members => do
    let fields := JsonValue.fields members
    let assetSymbol ← fields["asset_symbol"]?
    let decimals ← fields["decimals"]?
    let direction ← fields["direction"]?
    let amountPath ← fields["amount_path"]?
    ofParts (fields["asset_role"]?.getD .null) assetSymbol decimals direction amountPath
  | .array [assetRole, assetSymbol, decimals, direction, amountPath] =>
    ofParts assetRole assetSymbol decimals direction amountPath
  | _ => none

/-- The deserializer of the declarations of an action. -/
def readDeclarations : JsonValue → Option (List StrategyAssetEffectDeclaration)
  | .array declarations => declarations.mapM StrategyAssetEffectDeclaration.read
  | _ => none

end Deserialization

/-- `normalize_non_empty`. -/
def normalizeNonEmpty (raw field : String) : Except String String :=
  if Text.trim raw = "" then .error (field ++ " must be non-empty") else .ok (Text.trim raw)

/-- `resolve_action`. -/
def resolveAction (actions : List ActionSpec) (actionId : String) : Except String ActionSpec :=
  match actions.find? fun candidate => candidate.actionId = actionId with
  | some action => .ok action
  | none => .error ("strategy action not found: " ++ actionId)

section Compilation

variable (env : CompilerEnv)

/-- `verify_function_selector`. -/
def verifyFunctionSelector (spec : AbiFunctionSpec) : Except String String := do
  let signature ← canonicalSignature env.endsWord spec.name spec.inputs
  let recomputed := recomputeSelectorHex env.keccak256 signature
  let normalized ← normalizeSelectorHex spec.selectorHex
  if recomputed ≠ normalized then
    .error ("selector mismatch for " ++ signature ++ ": declared=" ++ normalized ++
      " recomputed=" ++ recomputed)
  else .ok signature

/-- The body of the loop of `derive_action_argument_schema_from_functions`. -/
def deriveCallSchema (function : AbiFunctionSpec) : Except String StrategyActionCallSchema := do
  let role ← normalizeNonEmpty function.role "call role"
  let functionName ← normalizeNonEmpty function.name "function name"
  let signature ← verifyFunctionSelector env function
  .ok {
    role, functionName, signature
    valueAllowed := Text.eqIgnoreAsciiCase function.stateMutability "payable"
    args := normalizeNamedSpecs function.inputs }

/-- `derive_action_argument_schema_from_action`: the calls of the schema. -/
def deriveActionArgumentSchema (action : ActionSpec) :
    Except String (List StrategyActionCallSchema) := do
  let calls ← action.callSequence.mapM (deriveCallSchema env)
  let _ ← normalizeNonEmpty action.actionId "action_id"
  .ok calls

/-- The bindings by their roles. -/
def roleBindings (contractRoles : List ContractRoleBinding) :
    Except String (BTreeMap String ContractRoleBinding) := do
  let named ← contractRoles.mapM fun binding => do
    let role ← normalizeNonEmpty binding.role "contract role"
    .ok (role, binding)
  .ok (named.foldl (fun bindings entry => bindings.insert entry.1 entry.2) ∅)

/-- The artifact of a call has its function. -/
def checkArtifact (tables : CompilerTables) (key : StrategyTemplateKey)
    (role signature normalizedSelector : String) : Except String Unit :=
  match tables.artifacts[abiArtifactPk ⟨key.protocol, key.chainId, role⟩]? with
  | none => .error ("abi artifact missing for protocol=" ++ key.protocol ++ " role=" ++ role ++
      " chain_id=" ++ toString key.chainId)
  | some artifact =>
    if Text.trim artifact.sourceRef = "" then
      .error ("abi artifact source_ref missing for role=" ++ role)
    else if !artifact.functions.any fun candidate => candidate.selectorHex = normalizedSelector then
      .error ("abi artifact for role=" ++ role ++ " missing function signature " ++ signature)
    else .ok ()

/-- The body of the loop of `compile_intent` over the calls. -/
def compileCall (tables : CompilerTables) (key : StrategyTemplateKey)
    (bindings : BTreeMap String ContractRoleBinding) (index : ℕ) (function : AbiFunctionSpec)
    (schema : StrategyActionCallSchema) (typedCall : IntentTypedCall) :
    Except String StrategyExecutionCall := do
  let normalizedSelector ← normalizeSelectorHex function.selectorHex
  let role ← normalizeNonEmpty function.role "call role"
  match bindings[role]? with
  | none => .error ("contract role binding not found for role: " ++ role)
  | some binding =>
    if Text.trim binding.sourceRef = "" then
      .error ("missing source_ref for role binding: " ++ role)
    else do
      let toAddress ← normalizeEvmAddress binding.address
      checkArtifact tables key role schema.signature normalizedSelector
      let valueWei ← parseU256FromDecimalOrHex (typedCall.valueWei.getD "0") "value_wei"
      let data ← callData env.target normalizedSelector schema.args typedCall.args
        ("calls[" ++ toString index ++ "].args")
      .ok { role, toAddress, valueWei := toString valueWei, data }

/-- The loop of `compile_intent` over the calls. -/
def compileCalls (tables : CompilerTables) (key : StrategyTemplateKey)
    (bindings : BTreeMap String ContractRoleBinding) :
    ℕ → List AbiFunctionSpec → List StrategyActionCallSchema → List IntentTypedCall →
    Except String (List StrategyExecutionCall)
  | index, function :: functions, schema :: schemas, typedCall :: typedCalls => do
    let call ← compileCall env tables key bindings index function schema typedCall
    let calls ← compileCalls tables key bindings (index + 1) functions schemas typedCalls
    .ok (call :: calls)
  | _, _, _, _ => .ok []

/-- `resolve_effect_amount`. -/
def resolveEffectAmount (value : JsonValue) (path : String)
    (schemas : List StrategyActionCallSchema) : Option JsonValue :=
  value.pointer env.target.usizeMax path <|> do
    let rest ← Text.stripPrefix? "/calls/" path
    match (rest.toList.splitOn '/').map String.ofList with
    | [callIndex, "args", argIndex] => do
      let callIndex ← Decimal.parseUnsigned env.target.usizeMax callIndex
      let argIndex ← Decimal.parseUnsigned env.target.usizeMax argIndex
      let schema ← schemas[callIndex]?
      let spec ← schema.args[argIndex]?
      let calls ← value.get? "calls"
      let call ← calls.at? callIndex
      let args ← call.get? "args"
      args.get? spec.name
    | _ => none

/-- The amount of an effect as its text: digits, or a number that is not negative. -/
def effectAmountRaw : JsonValue → Option String
  | .string text => if text ≠ "" ∧ text.toList.all Char.isDigit then some text else none
  | .posInt n => some (toString n.toNat)
  | _ => none

/-- The effect of a declaration. -/
def declaredEffect (chainId : ℕ) (actionId : String) (typedValue : JsonValue)
    (schemas : List StrategyActionCallSchema) (bindings : BTreeMap String ContractRoleBinding)
    (declaration : StrategyAssetEffectDeclaration) : Except String StrategyAssetEffect :=
  if 36 < declaration.decimals then
    .error ("strategy action " ++ actionId ++ " has unsupported asset_effects.decimals " ++
      toString declaration.decimals)
  else
    match resolveEffectAmount env typedValue declaration.amountPath schemas with
    | none => .error ("strategy action " ++ actionId ++ " asset effect amount path `" ++
        declaration.amountPath ++ "` is missing")
    | some amount =>
      match effectAmountRaw amount with
      | none => .error ("strategy action " ++ actionId ++ " asset effect amount path `" ++
          declaration.amountPath ++ "` must be an unsigned integer")
      | some amountRaw => do
        let assetAddress ← declaration.assetRole.mapM fun role =>
          match bindings[role]? with
          | none => .error ("strategy action " ++ actionId ++
              " asset effect references unknown role `" ++ role ++ "`")
          | some binding => normalizeEvmAddress binding.address
        .ok {
          chainId, assetAddress, amountRaw
          assetSymbol := declaration.assetSymbol
          decimals := declaration.decimals
          direction := declaration.direction }

/-- Two effects move the same amount of one asset both ways. -/
def contradicts (prior effect : StrategyAssetEffect) : Bool :=
  prior.chainId = effect.chainId && prior.assetAddress = effect.assetAddress &&
    prior.amountRaw = effect.amountRaw && prior.direction ≠ effect.direction

/-- The loop of `compile_intent` over the declarations, after the effects of earlier ones. -/
def declaredEffects (chainId : ℕ) (actionId : String) (typedValue : JsonValue)
    (schemas : List StrategyActionCallSchema) (bindings : BTreeMap String ContractRoleBinding) :
    List StrategyAssetEffectDeclaration → List StrategyAssetEffect →
    Except String (List StrategyAssetEffect)
  | [], effects => .ok effects
  | declaration :: declarations, effects => do
    let effect ← declaredEffect env chainId actionId typedValue schemas bindings declaration
    if effects.any fun prior => contradicts prior effect then
      .error ("strategy action " ++ actionId ++ " has contradictory asset effects")
    else
      declaredEffects chainId actionId typedValue schemas bindings declarations
        (effects ++ [effect])

/-- The native debit of a call that sends value. -/
def nativeEffect (chainId : ℕ) (call : StrategyExecutionCall) : Option StrategyAssetEffect :=
  if call.valueWei = "0" then none
  else some {
    chainId
    assetAddress := none
    assetSymbol := "ETH"
    decimals := 18
    amountRaw := call.valueWei
    direction := .debit }

/-- The asset of an effect is the one that the first call is about. -/
def effectIsBound (template : StrategyTemplate) (call : StrategyExecutionCall)
    (expected : String) : Bool :=
  if template.key.protocol = "aave-v3" ∨ template.key.protocol = "morpho-v1" then
    (calldataAddressWord call 0).any fun value => Text.eqIgnoreAsciiCase value expected
  else if template.key.protocol = "moonwell-v2" then
    call.role = "m_usdc" && template.contractRoles.any fun binding =>
      binding.role = "usdc" && Text.eqIgnoreAsciiCase binding.address expected
  else false

/-- `validate_asset_effect_bindings`. -/
def validateAssetEffectBindings (template : StrategyTemplate) (actionId : String)
    (calls : List StrategyExecutionCall) (effects : List StrategyAssetEffect) :
    Except String Unit :=
  match calls.head? with
  | none => .ok ()
  | some call =>
    match (effects.filterMap (·.assetAddress)).find? fun expected =>
      !effectIsBound template call expected with
    | some expected => .error ("strategy action " ++ actionId ++
        " asset effect is not bound to calldata/target asset " ++ expected)
    | none => .ok ()

/-- `load_template`. -/
def loadTemplate (tables : CompilerTables) (key : StrategyTemplateKey) :
    Except String StoredTemplate :=
  match tables.templates[strategyTemplatePk key]? with
  | some template => .ok template
  | none => .error ("strategy template not found for " ++ key.protocol ++ ":" ++ key.primitive ++
      ":" ++ toString key.chainId ++ ":" ++ key.templateId)

/-- The typed parameters of an intent: what the deserializer reads, and the value itself. -/
def typedParams (typedParamsJson : String) : Except String (List IntentTypedCall × JsonValue) :=
  match env.parseJson typedParamsJson with
  | .error _ => .error ("invalid typed_params_json: " ++ env.invalidParams typedParamsJson)
  | .ok value =>
    match readTypedParams value with
    | none => .error ("invalid typed_params_json: " ++ env.invalidParams typedParamsJson)
    | some calls => .ok (calls, value)

/-- The declarations of an action in the constraints of a template. -/
def actionDeclarations (constraintsJson actionId : String) :
    Except String (List StrategyAssetEffectDeclaration) := do
  let constraints ← (env.parseJson constraintsJson).mapError
    ("invalid template constraints_json: " ++ ·)
  match (constraints.get? "asset_effects").bind (·.get? actionId) with
  | none => .ok []
  | some value =>
    match readDeclarations value with
    | none => .error ("strategy action " ++ actionId ++ " has invalid asset_effects: " ++
        env.invalidDeclarations value)
    | some declarations => .ok declarations

/-- An action that moves capital declares an effect. -/
def checkCapitalMoving (actionId : String) (effects : List StrategyAssetEffect) :
    Except String Unit :=
  if (startsWith "enter_" actionId || startsWith "exit_" actionId) && effects.isEmpty then
    .error ("strategy action " ++ actionId ++
      " is capital-moving but has no asset effect declaration")
  else .ok ()

/-- `compile_intent`. -/
def compileIntent (tables : CompilerTables) (intent : StrategyExecutionIntent) :
    Except String ExecutionPlan := do
  let actionId ← normalizeNonEmpty intent.actionId "action_id"
  let template ← loadTemplate tables intent.key
  let action ← resolveAction template.actions actionId
  let schemas ← deriveActionArgumentSchema env action
  if action.callSequence.isEmpty then
    .error ("strategy action " ++ actionId ++ " has an empty call_sequence")
  else do
    let (typedCalls, typedValue) ← typedParams env intent.typedParamsJson
    if typedCalls.length ≠ schemas.length then
      .error ("call count mismatch for action " ++ actionId ++ ": expected " ++
        toString schemas.length ++ " got " ++ toString typedCalls.length)
    else do
      let bindings ← roleBindings template.contractRoles
      let calls ← compileCalls env tables intent.key bindings 0 action.callSequence schemas
        typedCalls
      let declarations ← actionDeclarations env template.constraintsJson actionId
      let declared ← declaredEffects env intent.key.chainId actionId typedValue schemas bindings
        declarations []
      let assetEffects := declared ++ calls.filterMap (nativeEffect intent.key.chainId)
      checkCapitalMoving actionId assetEffects
      validateAssetEffectBindings template.toStrategyTemplate actionId calls assetEffects
      .ok {
        key := intent.key
        actionId, calls, assetEffects
        preconditions := action.preconditions
        postconditions := action.postconditions
        riskChecks := action.riskChecks }

end Compilation

section DryRun

variable (env : CompilerEnv)

/-- The zero of a type without components. -/
def primitiveZero (kind rawKind : String) : Except String JsonValue :=
  if kind = "address" then .ok (.string "0x0000000000000000000000000000000000000000")
  else if kind = "bool" then .ok (.bool false)
  else if kind = "string" then .ok (.string "")
  else if kind = "bytes" then .ok (.string "0x")
  else if startsWith "uint" kind then .ok (.string "0")
  else if startsWith "int" kind then .ok (.string "0")
  else if startsWith "bytes" kind then .ok (.string "0x")
  else .error ("unsupported abi type for synthetic dry-run arg: " ++ rawKind)

/-- `synthetic_zero_value` of a kind whose components have `tuple` as their zero. Every step takes
an array suffix off. -/
def zeroOfKind (tuple : Except String JsonValue) : ℕ → String → Except String JsonValue
  | 0, _ => tuple
  | steps + 1, kind =>
    match splitArrayType env.target (Text.trim kind) with
    | some (elementKind, maybeLen) =>
      if maybeLen.getD 0 = 0 then .ok (.array [])
      else (zeroOfKind tuple steps elementKind).map fun zero =>
        .array (List.replicate (maybeLen.getD 0) zero)
    | none =>
      let lowered := Text.toAsciiLowercase (Text.trim kind)
      if lowered = "tuple" then tuple else primitiveZero lowered kind

mutual

/-- `synthetic_zero_value`. -/
def syntheticZeroValue : AbiTypeSpec → Except String JsonValue
  | ⟨_, kind, components⟩ =>
    zeroOfKind env ((syntheticZeroMembers components).map .object) (kind.length + 1) kind

/-- The loops over `synthetic_zero_value`: the members of an object. -/
def syntheticZeroMembers : List AbiTypeSpec → Except String (List (String × JsonValue))
  | [] => .ok []
  | spec :: specs => do
    let zero ← syntheticZeroValue spec
    let members ← syntheticZeroMembers specs
    .ok ((spec.name, zero) :: members)

end

/-- An object with one more member. -/
def JsonValue.insertMember (value : JsonValue) (key : String) (member : JsonValue) : JsonValue :=
  match value with
  | .object members => .object (members ++ [(key, member)])
  | value => value

/-- The arguments of the first call with the asset that `dry_run_compile` puts in. -/
def withUsdc (template : StrategyTemplate) (members : List (String × JsonValue)) :
    List (String × JsonValue) :=
  match template.contractRoles.find? fun binding => binding.role = "usdc" with
  | none => members
  | some usdc =>
    if template.key.protocol = "aave-v3" then members ++ [("asset", .string usdc.address)]
    else if template.key.protocol = "morpho-v1" then
      members.map fun member =>
        if member.1 = "marketParams" then
          (member.1, JsonValue.insertMember member.2 "loanToken" (.string usdc.address))
        else member
    else members

/-- The call of a synthetic intent. -/
def syntheticCall (members : List (String × JsonValue)) : JsonValue :=
  .object [("args", .object members), ("value_wei", .string "0")]

/-- The typed parameters of a synthetic intent. -/
def syntheticParams (template : StrategyTemplate) (args : List (List (String × JsonValue))) :
    JsonValue :=
  .object [("calls", .array ((args.modifyHead (withUsdc template)).map syntheticCall))]

/-- `dry_run_compile`. -/
def dryRunCompile (tables : CompilerTables) (key : StrategyTemplateKey) : Except String Unit := do
  let template ← loadTemplate tables key
  match template.actions.head? with
  | none => .error "template has no actions"
  | some firstAction => do
    let schemas ← deriveActionArgumentSchema env firstAction
    if firstAction.callSequence.isEmpty then
      .error ("template action " ++ firstAction.actionId ++ " has an empty call_sequence")
    else do
      let args ← schemas.mapM fun schema => syntheticZeroMembers env schema.args
      let intent : StrategyExecutionIntent := {
        key
        actionId := firstAction.actionId
        typedParamsJson := env.renderJson (syntheticParams template.toStrategyTemplate args) }
      match compileIntent env tables intent with
      | .ok _ => .ok ()
      | .error error => .error ("dry-run compile failed for " ++ key.protocol ++ ":" ++
          key.primitive ++ ":" ++ toString key.chainId ++ ":" ++ key.templateId ++ " action=" ++
          firstAction.actionId ++ ": " ++ error)

end DryRun

end Automaton.Strategy
