import Automaton.Library.Sql
import Automaton.Library.Transition
import Automaton.Strategy.Broadcast
import Automaton.Strategy.PlanSafety
import Automaton.Strategy.Registry

/-!
# The life of a template

Commands of the steward, outcomes of executions and the reconcile job write whether a template is
enabled. A template that its failures or an operator have deactivated is to stay disabled until a
command activates or registers it.
-/

namespace Automaton.Strategy

open Machine Fallible Transition

/-- `STRATEGY_RECONCILE_MAX_TEMPLATES`. -/
def strategyReconcileMaxTemplates : ℕ := 200

/-- `STRATEGY_TEMPLATE_FRESHNESS_WINDOW_SECS`. -/
def strategyTemplateFreshnessWindowSecs : ℕ := 14 * 24 * 60 * 60

/-- The order in which templates are listed: those that were changed last come first. -/
abbrev UpdatedTemplates := Sql.RowOrder StoredTemplate fun first second =>
  Sql.columnOf second.updatedAtNs ≤ Sql.columnOf first.updatedAtNs

/-- `list_all_templates`. -/
def RegistryTables.listAllTemplates (order : UpdatedTemplates) (tables : RegistryTables)
    (limit : ℕ) : List StoredTemplate :=
  (order.sort (tables.templates.toList.map (·.2))).take limit

/-- The age of a template in seconds. -/
def StoredTemplate.ageSecs (template : StoredTemplate) (nowNs : ℕ) : ℕ :=
  (nowNs - template.updatedAtNs) / 1000000000

/-- What validation reads of the tables. -/
def RegistryTables.registry (tables : RegistryTables) (chainId : ℕ) : StrategyRegistry where
  templates := tables.templates.map fun _ template => template.toStrategyTemplate
  revocations := tables.revocations
  killSwitches := tables.killSwitches
  chainId := chainId

/-- The template of an activation record is enabled. -/
def RegistryTables.enabled (tables : RegistryTables) (recordKey : String) : Bool :=
  tables.activations[recordKey]?.any (·.enabled)

section Commands

variable (env : CompilerEnv) (reader : AbiReader) (keccakHex : String → String)

/-- `stable::set_strategy_template_revocation`. -/
def RegistryTables.setRevocation (tables : RegistryTables) (key : StrategyTemplateKey) :
    Except String RegistryTables := do
  validateStrategyTemplateKey key
  .ok { tables with
    revocations := tables.revocations.insert
      (templateStateRecordKey keccakHex "revocation" key) true }

/-- `stable::set_strategy_kill_switch`. -/
def RegistryTables.setKillSwitch (tables : RegistryTables) (key : StrategyTemplateKey)
    (enabled : Bool) : Except String RegistryTables := do
  validateStrategyTemplateKey key
  .ok { tables with
    killSwitches := tables.killSwitches.insert (strategyKillSwitchRecordKey keccakHex key) enabled }

/-- An activation record is written if its key is valid. -/
def RegistryTables.trySetActivation (tables : RegistryTables) (state : TemplateActivationState) :
    RegistryTables :=
  (tables.setActivation keccakHex state).toOption.getD tables

/-- The commands of the steward about strategies. -/
inductive TemplateCommand
  | registry (command : RegistryCommand)
  | ingestTemplate (template : StoredTemplate)
  | ingestArtifact (key : AbiArtifactKey) (abiJson sourceRef : String) (codehash : Option String)
      (assertions : List AbiSelectorAssertion)
  | deprecateTemplate (key : StrategyTemplateKey) (reason : Option String)
  | revokeTemplate (key : StrategyTemplateKey) (reason : Option String)
  | setKillSwitch (key : StrategyTemplateKey) (enabled : Bool)

/-- `dispatch_steward_command` of `IngestStrategyTemplate`. -/
def ingestStrategyTemplate (nowNs : ℕ) (template : StoredTemplate) (tables : RegistryTables) :
    Except String RegistryTables :=
  tables.upsertTemplate { template with
    createdAtNs := if template.createdAtNs = 0 then nowNs else template.createdAtNs
    updatedAtNs := nowNs }

/-- `dispatch_steward_command` of `IngestStrategyAbiArtifact`. -/
def ingestStrategyAbiArtifact (nowNs : ℕ) (key : AbiArtifactKey) (abiJson sourceRef : String)
    (codehash : Option String) (assertions : List AbiSelectorAssertion) (tables : RegistryTables) :
    Except String RegistryTables :=
  (normalizeAndStoreAbiArtifact env.endsWord env.keccak256 reader tables.artifacts key abiJson
    sourceRef codehash assertions nowNs).map fun stored => { tables with artifacts := stored.2 }

/-- `dispatch_steward_command` of `DeprecateStrategyTemplate`. -/
def deprecateStrategyTemplate (nowNs : ℕ) (key : StrategyTemplateKey) (reason : Option String)
    (tables : RegistryTables) : Except String RegistryTables :=
  (upsertTemplateStatus nowNs key .deprecated tables).map fun tables =>
    tables.trySetActivation keccakHex ⟨key, false, nowNs, reason⟩

/-- `dispatch_steward_command` of `RevokeStrategyTemplate`: the template is revoked before its key
is checked. -/
def revokeStrategyTemplate (nowNs : ℕ) (key : StrategyTemplateKey) (reason : Option String)
    (tables : RegistryTables) : Except String String × RegistryTables :=
  match upsertTemplateStatus nowNs key .revoked tables with
  | .error error => (.error error, tables)
  | .ok marked =>
    match marked.setRevocation keccakHex key with
    | .error error => (.error error, marked)
    | .ok revoked => (.ok "strategy_template_revoked", revoked.trySetActivation keccakHex
        ⟨key, false, nowNs, reason <|> some "revoked"⟩)

/-- A command that writes nothing when it fails. -/
def answerWith (answer : String) (tables : RegistryTables) (result : Except String RegistryTables) :
    Except String String × RegistryTables :=
  (result.map fun _ => answer, result.toOption.getD tables)

/-- `dispatch_steward_command`: the answer, and the tables that it leaves. -/
def TemplateCommand.run (nowNs : ℕ) (tables : RegistryTables) :
    TemplateCommand → Except String String × RegistryTables
  | .registry command => command.run env reader keccakHex nowNs tables
  | .ingestTemplate template => answerWith "strategy_template_ingested" tables
      (ingestStrategyTemplate nowNs template tables)
  | .ingestArtifact key abiJson sourceRef codehash assertions =>
    answerWith "strategy_abi_artifact_ingested" tables
      (ingestStrategyAbiArtifact env reader nowNs key abiJson sourceRef codehash assertions tables)
  | .deprecateTemplate key reason => answerWith "strategy_template_deprecated" tables
      (deprecateStrategyTemplate keccakHex nowNs key reason tables)
  | .revokeTemplate key reason => revokeStrategyTemplate keccakHex nowNs key reason tables
  | .setKillSwitch key enabled =>
    answerWith ("strategy_kill_switch_enabled=" ++ toString enabled) tables
      (tables.setKillSwitch keccakHex key enabled)

/-- The template that a command activates or registers. -/
def TemplateCommand.activates : TemplateCommand → Option StrategyTemplateKey
  | .registry (.register recipe) => (recipeKey recipe).toOption
  | .registry (.activate key _) => some key
  | _ => none

/-- The template that a command deactivates. -/
def TemplateCommand.deactivates : TemplateCommand → Option StrategyTemplateKey
  | .deprecateTemplate key _ => some key
  | .revokeTemplate key _ => some key
  | _ => none

end Commands

section Reconciliation

variable (env : CompilerEnv) (keccakHex : String → String) (nowNs : ℕ)

/-- The body of the loop of `run_reconcile_job` over the templates. -/
def reconcileTemplate (template : StoredTemplate) (tables : RegistryTables) :
    Except String RegistryTables :=
  let key := template.key
  let ageSecs := template.ageSecs nowNs
  if strategyTemplateFreshnessWindowSecs < ageSecs then
    .ok (tables.trySetActivation keccakHex ⟨key, false, nowNs, some ("stale_template age_secs=" ++
      toString ageSecs ++ " freshness_window_secs=" ++
      toString strategyTemplateFreshnessWindowSecs)⟩)
  else
    match dryRunCompile env tables.compiler key with
    | .error error => .ok (tables.trySetActivation keccakHex
        ⟨key, false, nowNs, some ("provenance_or_dry_run_failed: " ++ error)⟩)
    | .ok () =>
      if template.status ≠ .active then .ok tables
      else if tables.enabled (templateStateRecordKey keccakHex "activation" key) then .ok tables
      else tables.setActivation keccakHex
        ⟨key, true, nowNs, some "scheduler dry-run compile passed"⟩

/-- The loop of `run_reconcile_job` over the templates, which an error ends. -/
def reconcileTemplates : List StoredTemplate → RegistryTables → RegistryTables
  | [], tables => tables
  | template :: templates, tables =>
    match reconcileTemplate env keccakHex nowNs template tables with
    | .error _ => tables
    | .ok next => reconcileTemplates templates next

/-- A template is fresh and active, and its dry run passes. -/
def StoredTemplate.passesDryRun (template : StoredTemplate) (tables : RegistryTables) : Bool :=
  template.ageSecs nowNs ≤ strategyTemplateFreshnessWindowSecs && template.status = .active &&
    (dryRunCompile env tables.compiler template.key).isOk

end Reconciliation

/-- The tables of the registry and of the executions, two of which are the same. -/
structure StrategyStore where
  tables : RegistryTables
  rows : StrategyRows
  activations_eq : rows.activations = tables.activations
  budgets_eq : rows.budgets = tables.budgets

/-- The store after the registry was written. -/
def StrategyStore.withTables (store : StrategyStore) (tables : RegistryTables) :
    StrategyStore where
  tables := tables
  rows := { store.rows with activations := tables.activations, budgets := tables.budgets }
  activations_eq := rfl
  budgets_eq := rfl

/-- The store after the tables of the executions were written. -/
def StrategyStore.withRows (store : StrategyStore) (rows : StrategyRows) : StrategyStore where
  tables := { store.tables with activations := rows.activations, budgets := rows.budgets }
  rows := rows
  activations_eq := rfl
  budgets_eq := rfl

/-- What is written about an outcome: an execution was confirmed or failed, or a plan that has no
execution failed. -/
inductive ExecutionOutcome
  | confirmed (execution : PendingStrategyExecution)
  | failed (execution : PendingStrategyExecution) (kind : StrategyOutcomeKind) (reason : String)
  | rejected (env : BroadcastEnv) (plan : ExecutionPlan) (kind : StrategyOutcomeKind)
      (error : String)

/-- The template that an outcome is about. -/
def ExecutionOutcome.key : ExecutionOutcome → StrategyTemplateKey
  | .confirmed execution => execution.key
  | .failed execution _ _ => execution.key
  | .rejected _ plan _ _ => plan.key

/-- What happens to the templates and the executions. -/
inductive LifecycleAct
  | command (command : TemplateCommand)
  | begin (execution : PendingStrategyExecution)
  | progress (expected desired : PendingStrategyExecution)
  | outcome (outcome : ExecutionOutcome)
  | reconcile

/-- The store with its history: the activation records of the templates that their failures or an
operator have deactivated, and that no command has activated or registered since. -/
structure Lifecycle where
  store : StrategyStore
  deactivated : List String

section Runs

variable (env : CompilerEnv) (reader : AbiReader) (keccakHex : String → String)
  (policy : QuarantinePolicy) (order : UpdatedTemplates)

/-- `apply_confirmed_strategy_execution`, `apply_terminal_strategy_failure` and
`persist_strategy_outcome`. -/
def ExecutionOutcome.apply (nowNs : ℕ) (rows : StrategyRows) :
    ExecutionOutcome → Except String StrategyRows
  | .confirmed execution =>
    (rows.applyConfirmedStrategyExecution keccakHex execution nowNs).map (·.2)
  | .failed execution kind reason =>
    (rows.applyTerminalStrategyFailure keccakHex policy execution kind reason nowNs).map (·.2)
  | .rejected env plan kind error => rows.persistStrategyFailure keccakHex env plan kind error

/-- An act changes the store. -/
def LifecycleAct.apply (nowNs : ℕ) (store : StrategyStore) : LifecycleAct → StrategyStore
  | .command issued =>
    store.withTables (issued.run env reader keccakHex nowNs store.tables).2
  | .begin execution =>
    (store.rows.insertPendingStrategyExecution execution).toOption.elim store fun stored =>
      store.withRows stored.2
  | .progress expected desired => store.withRows (store.rows.compareAndUpdate expected desired).2
  | .outcome result =>
    (result.apply keccakHex policy nowNs store.rows).toOption.elim store store.withRows
  | .reconcile => store.withTables (reconcileTemplates env keccakHex nowNs
      (store.tables.listAllTemplates order strategyReconcileMaxTemplates) store.tables)

/-- The activation record of a template. -/
abbrev activationKey (key : StrategyTemplateKey) : String :=
  templateStateRecordKey keccakHex "activation" key

/-- The history after a command that has succeeded. -/
def TemplateCommand.recordIn (command : TemplateCommand) (after : RegistryTables)
    (deactivated : List String) : List String :=
  let closed := (command.deactivates.map (activationKey keccakHex)).toList.filter
    fun recordKey => !after.enabled recordKey
  let opened := (command.activates.map (activationKey keccakHex)).toList
  closed ++ deactivated.filter fun recordKey => !opened.contains recordKey

/-- The history after an act. -/
def LifecycleAct.recordIn (nowNs : ℕ) (before after : StrategyStore) (deactivated : List String) :
    LifecycleAct → List String
  | .command issued =>
    if (issued.run env reader keccakHex nowNs before.tables).1.isOk then
      issued.recordIn keccakHex after.tables deactivated
    else deactivated
  | .outcome result =>
    let recordKey := activationKey keccakHex result.key
    if before.tables.enabled recordKey && !after.tables.enabled recordKey then
      recordKey :: deactivated
    else deactivated
  | _ => deactivated

/-- An act at a time. -/
def Lifecycle.act (act : ℕ × LifecycleAct) (life : Lifecycle) : Lifecycle :=
  let after := act.2.apply env reader keccakHex policy order act.1 life.store
  ⟨after, act.2.recordIn env reader keccakHex act.1 life.store after life.deactivated⟩

/-- A reconcile job scans no deactivated template that is active, fresh and compiles. -/
def Lifecycle.reconcilesSafely (life : Lifecycle) : ℕ × LifecycleAct → Bool
  | (nowNs, .reconcile) =>
    (life.store.tables.listAllTemplates order strategyReconcileMaxTemplates).all fun template =>
      !(template.passesDryRun env nowNs life.store.tables) ||
        !life.deactivated.contains (activationKey keccakHex template.key)
  | _ => true

/-- The deactivated templates are disabled. -/
def Lifecycle.StaysDisabled (life : Lifecycle) : Prop :=
  ∀ recordKey ∈ life.deactivated, life.store.tables.enabled recordKey = false

/-- A plan for a template that is revoked or whose kill switch is set does not pass. -/
def StrategyStore.Bars (store : StrategyStore) : Prop :=
  ∀ (parseConstraints : String → Except String ConstraintPolicy) (plan : ExecutionPlan)
    (chainId nowNs : ℕ),
    store.tables.revocations[templateStateRecordKey keccakHex "revocation" plan.key]? = some true ∨
      store.tables.killSwitches[strategyKillSwitchRecordKey keccakHex plan.key]? = some true →
    (validateExecutionPlan keccakHex parseConstraints (store.tables.registry chainId) store.rows
      plan nowNs).passed = false

end Runs

/-- A write enables at most the given templates, and keeps what is revoked. -/
structure Opens (tables after : RegistryTables) (opened : Set String) : Prop where
  enabled : ∀ recordKey : String, after.enabled recordKey = true →
    tables.enabled recordKey = true ∨ recordKey ∈ opened
  revoked : ∀ recordKey : String, tables.revocations[recordKey]? = some true →
    after.revocations[recordKey]? = some true

section Writes

variable {env : CompilerEnv} {reader : AbiReader} {keccakHex : String → String} {nowNs : ℕ}
  {policy : QuarantinePolicy} {tables next after : RegistryTables} {opened : Set String}
  {key : StrategyTemplateKey} {state : TemplateActivationState}

theorem Opens.refl : Opens tables tables opened := ⟨fun _ => .inl, fun _ h => h⟩

theorem Opens.trans (hfirst : Opens tables next opened) (hsecond : Opens next after opened) :
    Opens tables after opened := by
  constructor
  · intro recordKey h
    rcases hsecond.enabled recordKey h with h | h
    · exact hfirst.enabled recordKey h
    · exact .inr h
  · exact fun recordKey h => hsecond.revoked recordKey (hfirst.revoked recordKey h)

theorem opens_putTemplate {template : StoredTemplate} :
    Opens tables (tables.putTemplate template) opened := ⟨fun _ => .inl, fun _ h => h⟩

/-- A template is enabled that was, or whose record is written so. -/
theorem enabled_insert {activations : BTreeMap String TemplateActivationState}
    {written recordKey : String}
    (h : (activations.insert written state)[recordKey]?.any (·.enabled) = true) :
    activations[recordKey]?.any (·.enabled) = true ∨
      written = recordKey ∧ state.enabled = true := by
  rw [BTreeMap.get?_insert] at h
  split at h
  · exact .inr ⟨‹_›, h⟩
  · exact .inl h

theorem opens_setActivation (h : tables.setActivation keccakHex state = .ok next)
    (hopened : state.enabled = true → activationKey keccakHex state.key ∈ opened) :
    Opens tables next opened := by
  obtain ⟨_, -, h⟩ := bind_eq_ok.mp h
  obtain rfl := Except.ok.inj h
  constructor
  · intro recordKey h
    rcases enabled_insert h with h | ⟨rfl, henabled⟩
    · exact .inl h
    · exact .inr (hopened henabled)
  · exact fun _ h => h

/-- A record that is written as disabled enables nothing. -/
theorem opens_trySetActivation (hstate : state.enabled = false) :
    Opens tables (tables.trySetActivation keccakHex state) opened := by
  unfold RegistryTables.trySetActivation
  cases hset : tables.setActivation keccakHex state with
  | error error => exact .refl
  | ok next =>
    refine opens_setActivation hset fun henabled => ?_
    rw [hstate] at henabled
    cases henabled

theorem opens_setRevocation (h : tables.setRevocation keccakHex key = .ok next) :
    Opens tables next opened := by
  obtain ⟨_, -, h⟩ := bind_eq_ok.mp h
  obtain rfl := Except.ok.inj h
  refine ⟨fun _ => .inl, fun recordKey h => ?_⟩
  dsimp only
  rw [BTreeMap.get?_insert]
  split
  · rfl
  · exact h

theorem opens_upsertTemplate {template : StoredTemplate}
    (h : tables.upsertTemplate template = .ok next) : Opens tables next opened := by
  obtain ⟨-, h⟩ := ite_error_eq_ok.mp h
  obtain ⟨-, h⟩ := ite_error_eq_ok.mp h
  obtain rfl := Except.ok.inj h
  exact opens_putTemplate

/-- The status of a template is changed in the table of templates only. -/
theorem opens_upsertTemplateStatus {status : TemplateStatus}
    (h : upsertTemplateStatus nowNs key status tables = .ok next) : Opens tables next opened := by
  obtain ⟨template, -, h⟩ := bind_eq_ok.mp h
  exact opens_upsertTemplate h

/-- A draft that is promoted is enabled, and nothing else. -/
theorem opens_promoteDraft {draft : StoredTemplate}
    (hopened : (promoteDraft env keccakHex nowNs draft tables).1.isOk = true →
      activationKey keccakHex draft.key ∈ opened) :
    Opens tables (promoteDraft env keccakHex nowNs draft tables).2 opened := by
  unfold promoteDraft at hopened ⊢
  cases hdry : dryRunCompile env tables.compiler draft.key with
  | error error => exact .refl
  | ok done =>
    simp only [hdry] at hopened ⊢
    cases hput : tables.upsertTemplate { draft with status := .active, updatedAtNs := nowNs } with
    | error error => exact .refl
    | ok activated =>
      simp only [hput] at hopened ⊢
      refine (opens_upsertTemplate hput).trans ?_
      cases hset : activated.setActivation keccakHex
        ⟨draft.key, true, nowNs, some "auto-activated after dry-run compile"⟩ with
      | error error => exact .refl
      | ok enabled =>
        simp only [hset] at hopened
        exact opens_setActivation hset fun _ => hopened rfl

/-- A registration enables the template of its recipe, and nothing else. -/
theorem opens_registerFromRecipe {recipe : StrategyRecipe}
    (hopened : ∀ key, recipeKey recipe = .ok key →
      (registerFromRecipe env reader keccakHex nowNs recipe tables).1.isOk = true →
        activationKey keccakHex key ∈ opened) :
    Opens tables (registerFromRecipe env reader keccakHex nowNs recipe tables).2 opened := by
  unfold registerFromRecipe at hopened ⊢
  cases hkey : recipeKey recipe with
  | error error => exact .refl
  | ok key =>
    simp only [hkey] at hopened ⊢
    have hstored : Opens tables { tables with
        artifacts := (storeContracts env reader key nowNs recipe.contracts ∅ tables.artifacts).2 }
        opened := ⟨fun _ => .inl, fun _ h => h⟩
    refine hstored.trans ?_
    cases hresolved :
      (storeContracts env reader key nowNs recipe.contracts ∅ tables.artifacts).1 with
    | error error => exact .refl
    | ok resolved =>
      simp only [hresolved] at hopened ⊢
      cases hdraft : recipeDraft env key nowNs recipe resolved with
      | error error => exact .refl
      | ok draft =>
        simp only [hdraft] at hopened ⊢
        obtain ⟨hdraftKey, -⟩ := recipeDraft_key hdraft
        split
        · exact .refl
        · rename_i drafted hput
          refine (opens_upsertTemplate hput).trans (opens_promoteDraft fun hok => ?_)
          rw [hdraftKey]
          refine hopened key rfl ?_
          rw [hput]
          exact hok

/-- An activation enables its template, and nothing else. -/
theorem opens_activateStrategyTemplate {reason : Option String}
    (hopened : (activateStrategyTemplate env keccakHex nowNs key reason tables).1.isOk = true →
      activationKey keccakHex key ∈ opened) :
    Opens tables (activateStrategyTemplate env keccakHex nowNs key reason tables).2 opened := by
  unfold activateStrategyTemplate at hopened ⊢
  cases hstatus : upsertTemplateStatus nowNs key .active tables with
  | error error => exact .refl
  | ok activated =>
    simp only [hstatus] at hopened ⊢
    refine (opens_upsertTemplateStatus hstatus).trans ?_
    cases hdry : dryRunCompile env activated.compiler key with
    | error error => exact .refl
    | ok done =>
      simp only [hdry] at hopened ⊢
      cases hset : activated.setActivation keccakHex ⟨key, true, nowNs,
        reason <|> some "controller activation after dry-run compile"⟩ with
      | error error => exact .refl
      | ok enabled =>
        simp only [hset] at hopened
        exact opens_setActivation hset fun _ => hopened rfl

theorem opens_answerWith {answer : String} {result : Except String RegistryTables}
    (h : ∀ next, result = .ok next → Opens tables next opened) :
    Opens tables (answerWith answer tables result).2 opened := by
  cases result with
  | error error => exact .refl
  | ok next => exact h next rfl

/-- A command enables the template that it activates or registers, and nothing else. -/
theorem opens_command {command : TemplateCommand}
    (hopened : ∀ key, command.activates = some key →
      (command.run env reader keccakHex nowNs tables).1.isOk = true →
        activationKey keccakHex key ∈ opened) :
    Opens tables (command.run env reader keccakHex nowNs tables).2 opened := by
  unfold TemplateCommand.run at hopened ⊢
  cases command with
  | registry command =>
    unfold RegistryCommand.run at hopened ⊢
    cases command with
    | register recipe =>
      dsimp only at hopened ⊢
      rw [isOk_map] at hopened
      exact opens_registerFromRecipe fun key hkey => hopened key (toOption_eq_some.mpr hkey)
    | activate key reason =>
      dsimp only at hopened ⊢
      exact opens_activateStrategyTemplate (hopened key rfl)
  | ingestTemplate template =>
    dsimp only
    exact opens_answerWith fun next h => opens_upsertTemplate h
  | ingestArtifact key abiJson sourceRef codehash assertions =>
    dsimp only
    refine opens_answerWith fun next h => ?_
    obtain ⟨stored, -, rfl⟩ := map_eq_ok.mp h
    exact ⟨fun _ => .inl, fun _ h => h⟩
  | deprecateTemplate key reason =>
    dsimp only
    refine opens_answerWith fun next h => ?_
    obtain ⟨marked, hstatus, rfl⟩ := map_eq_ok.mp h
    exact (opens_upsertTemplateStatus hstatus).trans (opens_trySetActivation rfl)
  | revokeTemplate key reason =>
    dsimp only
    unfold revokeStrategyTemplate
    cases hstatus : upsertTemplateStatus nowNs key .revoked tables with
    | error error => exact .refl
    | ok marked =>
      dsimp only
      refine (opens_upsertTemplateStatus hstatus).trans ?_
      cases hrevoked : marked.setRevocation keccakHex key with
      | error error => exact .refl
      | ok revoked =>
        dsimp only
        refine (opens_setRevocation hrevoked).trans ?_
        exact opens_trySetActivation rfl
  | setKillSwitch key enabled =>
    dsimp only
    refine opens_answerWith fun next h => ?_
    obtain ⟨_, -, h⟩ := bind_eq_ok.mp h
    obtain rfl := Except.ok.inj h
    exact ⟨fun _ => .inl, fun _ h => h⟩

theorem compiler_trySetActivation :
    (tables.trySetActivation keccakHex state).compiler = tables.compiler := by
  unfold RegistryTables.trySetActivation
  cases hset : tables.setActivation keccakHex state with
  | error error => rfl
  | ok next =>
    obtain ⟨_, -, hset⟩ := bind_eq_ok.mp hset
    obtain rfl := Except.ok.inj hset
    rfl

/-- A template that the reconcile job comes to is enabled only if it is fresh, active and
compiles. -/
theorem opens_reconcileTemplate {template : StoredTemplate}
    (h : reconcileTemplate env keccakHex nowNs template tables = .ok next)
    (hopened : template.passesDryRun env nowNs tables = true →
      activationKey keccakHex template.key ∈ opened) :
    next.compiler = tables.compiler ∧ Opens tables next opened := by
  unfold reconcileTemplate at h
  dsimp only at h
  split at h
  · obtain rfl := Except.ok.inj h
    exact ⟨compiler_trySetActivation, opens_trySetActivation rfl⟩
  · rename_i hfresh
    cases hdry : dryRunCompile env tables.compiler template.key with
    | error error =>
      rw [hdry] at h
      obtain rfl := Except.ok.inj h
      exact ⟨compiler_trySetActivation, opens_trySetActivation rfl⟩
    | ok done =>
      rw [hdry] at h
      dsimp only at h
      split at h
      · obtain rfl := Except.ok.inj h
        exact ⟨rfl, .refl⟩
      · rename_i hactive
        split at h
        · obtain rfl := Except.ok.inj h
          exact ⟨rfl, .refl⟩
        · have hpasses : template.passesDryRun env nowNs tables = true := by
            unfold StoredTemplate.passesDryRun
            rw [hdry, decide_eq_true (not_lt.mp hfresh), decide_eq_true (not_not.mp hactive)]
            rfl
          refine ⟨?_, opens_setActivation h fun _ => hopened hpasses⟩
          obtain ⟨_, -, h⟩ := bind_eq_ok.mp h
          obtain rfl := Except.ok.inj h
          rfl

/-- The reconcile job enables only templates that it scans, and that are fresh, active and
compile. -/
theorem opens_reconcileTemplates {templates : List StoredTemplate}
    (hopened : ∀ template ∈ templates, template.passesDryRun env nowNs tables = true →
      activationKey keccakHex template.key ∈ opened) :
    Opens tables (reconcileTemplates env keccakHex nowNs templates tables) opened := by
  induction templates generalizing tables with
  | nil => exact .refl
  | cons template templates ih =>
    rw [List.forall_mem_cons] at hopened
    unfold reconcileTemplates
    cases hstep : reconcileTemplate env keccakHex nowNs template tables with
    | error error => exact .refl
    | ok next =>
      obtain ⟨hcompiler, hopens⟩ := opens_reconcileTemplate hstep hopened.1
      refine hopens.trans (ih fun later hlater hpasses => hopened.2 later hlater ?_)
      unfold StoredTemplate.passesDryRun at hpasses ⊢
      rwa [hcompiler] at hpasses

end Writes

section Outcomes

variable {keccakHex : String → String} {nowNs : ℕ} {policy : QuarantinePolicy}
  {rows after : StrategyRows} {state : TemplateActivationState}
  {execution : PendingStrategyExecution} {kind : StrategyOutcomeKind}

/-- The record that a streak of failures writes is disabled. -/
theorem autoDeactivationForStats_disabled {stats : StrategyOutcomeStats}
    (h : rows.autoDeactivationForStats keccakHex stats nowNs = some state) :
    state.enabled = false := by
  unfold StrategyRows.autoDeactivationForStats at h
  dsimp only at h
  split at h
  · cases h
  · obtain rfl := Option.some.inj h
    rfl

theorem activations_applyConfirmed {changed : Bool}
    (h : rows.applyConfirmedStrategyExecution keccakHex execution nowNs = .ok (changed, after)) :
    after.activations = rows.activations := by
  unfold StrategyRows.applyConfirmedStrategyExecution at h
  split at h
  · obtain ⟨-, rfl⟩ := Prod.mk.inj (Except.ok.inj h)
    rfl
  · dsimp only at h
    obtain ⟨change, -, h⟩ := bind_eq_ok.mp h
    obtain ⟨spent, -, h⟩ := bind_eq_ok.mp h
    obtain ⟨budget, -, h⟩ := bind_eq_ok.mp h
    rcases whenOpen_spec h with ⟨-, rfl⟩ | ⟨-, rfl, -⟩
    · rfl
    · rfl

theorem activations_applyTerminal {changed : Bool} {reason : String}
    (h : rows.applyTerminalStrategyFailure keccakHex policy execution kind reason nowNs =
      .ok (changed, after)) :
    after.activations = rows.activations ∨ ∃ written state, state.enabled = false ∧
      after.activations = rows.activations.insert written state := by
  unfold StrategyRows.applyTerminalStrategyFailure at h
  split at h
  · obtain ⟨-, rfl⟩ := Prod.mk.inj (Except.ok.inj h)
    exact .inl rfl
  · obtain ⟨-, h⟩ := ite_error_eq_ok.mp h
    obtain ⟨stats, -, h⟩ := bind_eq_ok.mp h
    rcases whenOpen_spec h with ⟨-, rfl⟩ | ⟨-, rfl, -⟩
    · exact .inl rfl
    · cases hauto : rows.autoDeactivationForStats keccakHex stats nowNs with
      | none => exact .inl rfl
      | some state => exact .inr ⟨_, state, autoDeactivationForStats_disabled hauto, rfl⟩

theorem activations_persistStrategyFailure {env : BroadcastEnv} {plan : ExecutionPlan}
    {error : String}
    (h : rows.persistStrategyFailure keccakHex env plan kind error = .ok after) :
    after.activations = rows.activations ∨ ∃ written state, state.enabled = false ∧
      after.activations = rows.activations.insert written state := by
  obtain ⟨_, -, h⟩ := bind_eq_ok.mp h
  obtain ⟨-, h⟩ := ite_error_eq_ok.mp h
  obtain ⟨stats, -, h⟩ := bind_eq_ok.mp h
  dsimp only at h
  split at h
  · obtain rfl := Except.ok.inj h
    exact .inl rfl
  · rename_i activation hauto
    obtain rfl := Except.ok.inj h
    exact .inr ⟨_, activation, autoDeactivationForStats_disabled hauto, rfl⟩

/-- No outcome enables a template. -/
theorem enabled_outcome {outcome : ExecutionOutcome} {recordKey : String}
    (happly : outcome.apply keccakHex policy nowNs rows = .ok after)
    (h : after.activations[recordKey]?.any (·.enabled) = true) :
    rows.activations[recordKey]?.any (·.enabled) = true := by
  cases outcome with
  | confirmed execution =>
    obtain ⟨⟨changed, _⟩, hconfirmed, rfl⟩ := map_eq_ok.mp happly
    rwa [activations_applyConfirmed hconfirmed] at h
  | failed execution kind reason =>
    obtain ⟨⟨changed, _⟩, hfailed, rfl⟩ := map_eq_ok.mp happly
    rcases activations_applyTerminal hfailed with hsame | ⟨written, state, hstate, hsame⟩
    · rwa [hsame] at h
    · rw [hsame] at h
      exact (enabled_insert h).resolve_right fun ⟨_, henabled⟩ => by simp [hstate] at henabled
  | rejected env plan kind error =>
    rcases activations_persistStrategyFailure happly with hsame | ⟨written, state, hstate, hsame⟩
    · rwa [hsame] at h
    · rw [hsame] at h
      exact (enabled_insert h).resolve_right fun ⟨_, henabled⟩ => by simp [hstate] at henabled

end Outcomes

section Invariant

variable {env : CompilerEnv} {reader : AbiReader} {keccakHex : String → String}
  {policy : QuarantinePolicy} {order : UpdatedTemplates} {store : StrategyStore} {nowNs : ℕ}

theorem opens_withRows {opened : Set String} {rows : StrategyRows}
    (h : ∀ recordKey : String, rows.activations[recordKey]?.any (·.enabled) = true →
      store.rows.activations[recordKey]?.any (·.enabled) = true) :
    Opens store.tables (store.withRows rows).tables opened := by
  refine ⟨fun recordKey henabled => .inl ?_, fun _ h => h⟩
  have hbefore := h recordKey henabled
  rwa [store.activations_eq] at hbefore

/-- An act enables the template of a command that succeeds, or one that the reconcile job scans and
whose dry run passes. -/
theorem opens_apply {opened : Set String} {act : LifecycleAct}
    (hcommand : ∀ command key, act = .command command → command.activates = some key →
      (command.run env reader keccakHex nowNs store.tables).1.isOk = true →
        activationKey keccakHex key ∈ opened)
    (hreconcile : act = .reconcile →
      ∀ template ∈ store.tables.listAllTemplates order strategyReconcileMaxTemplates,
        template.passesDryRun env nowNs store.tables = true →
          activationKey keccakHex template.key ∈ opened) :
    Opens store.tables (act.apply env reader keccakHex policy order nowNs store).tables opened := by
  cases act with
  | command command => exact opens_command (hcommand command · rfl)
  | begin execution =>
    dsimp only [LifecycleAct.apply]
    cases hinsert : store.rows.insertPendingStrategyExecution execution with
    | error error => exact .refl
    | ok stored =>
      refine opens_withRows fun recordKey h => ?_
      obtain ⟨-, hinsert⟩ := ite_error_eq_ok.mp hinsert
      obtain ⟨_, -, hinsert⟩ := bind_eq_ok.mp hinsert
      split at hinsert
      · obtain rfl := Except.ok.inj hinsert
        exact h
      · obtain ⟨-, hinsert⟩ := ite_error_eq_ok.mp hinsert
        obtain rfl := Except.ok.inj hinsert
        exact h
  | progress expected desired =>
    refine opens_withRows fun recordKey h => ?_
    unfold StrategyRows.compareAndUpdate at h
    split at h
    · exact h
    · split at h
      · exact h
      · exact h
  | outcome outcome =>
    dsimp only [LifecycleAct.apply]
    cases happly : outcome.apply keccakHex policy nowNs store.rows with
    | error error => exact .refl
    | ok rows => exact opens_withRows fun recordKey h => enabled_outcome happly h
  | reconcile => exact opens_reconcileTemplates (hreconcile rfl)

/-- What is in the history after an act is disabled, or it was in the history before it and no
command has opened it. -/
theorem mem_recordIn {after : StrategyStore} {deactivated : List String} {act : LifecycleAct}
    {recordKey : String}
    (h : recordKey ∈ act.recordIn env reader keccakHex nowNs store after deactivated) :
    after.tables.enabled recordKey = false ∨ recordKey ∈ deactivated ∧
      ∀ command key, act = .command command → command.activates = some key →
        (command.run env reader keccakHex nowNs store.tables).1.isOk = true →
          activationKey keccakHex key ≠ recordKey := by
  cases act with
  | command command =>
    dsimp only [LifecycleAct.recordIn] at h
    split at h
    · rcases List.mem_append.mp h with hclosed | hkept
      · have hdisabled := (List.mem_filter.mp hclosed).2
        exact .inl (by simpa using hdisabled)
      · obtain ⟨hmem, hnot⟩ := List.mem_filter.mp hkept
        refine .inr ⟨hmem, ?_⟩
        rintro issued key hissued hkey - rfl
        obtain rfl := LifecycleAct.command.inj hissued
        simp [hkey] at hnot
    · rename_i hfailed
      refine .inr ⟨h, ?_⟩
      rintro issued key hissued - hok
      obtain rfl := LifecycleAct.command.inj hissued
      exact absurd hok hfailed
  | outcome outcome =>
    dsimp only [LifecycleAct.recordIn] at h
    split at h
    · rename_i hstreak
      rcases List.mem_cons.mp h with rfl | hmem
      · simp only [Bool.and_eq_true, Bool.not_eq_true'] at hstreak
        exact .inl hstreak.2
      · exact .inr ⟨hmem, fun _ _ hcommand => LifecycleAct.noConfusion hcommand⟩
    · exact .inr ⟨h, fun _ _ hcommand => LifecycleAct.noConfusion hcommand⟩
  | begin execution => exact .inr ⟨h, fun _ _ hcommand => LifecycleAct.noConfusion hcommand⟩
  | progress expected desired => exact .inr ⟨h, fun _ _ hcommand => LifecycleAct.noConfusion hcommand⟩
  | reconcile => exact .inr ⟨h, fun _ _ hcommand => LifecycleAct.noConfusion hcommand⟩

/-- An act keeps the deactivated templates disabled, unless it is a reconcile job that scans one of
them that is active, fresh and compiles. -/
theorem Lifecycle.StaysDisabled.act {life : Lifecycle} {act : ℕ × LifecycleAct}
    (h : life.StaysDisabled) (hsafe : life.reconcilesSafely env keccakHex order act = true) :
    (life.act env reader keccakHex policy order act).StaysDisabled := by
  intro recordKey hmem
  rcases mem_recordIn hmem with hdisabled | ⟨hold, hcommands⟩
  · exact hdisabled
  · by_contra henabled
    rw [Bool.not_eq_false] at henabled
    have hopens : Opens life.store.tables
        (life.act env reader keccakHex policy order act).store.tables
          {other | other ≠ recordKey} := by
      refine opens_apply hcommands fun hreconcile template htemplate hpasses => ?_
      obtain ⟨time, act⟩ := act
      obtain rfl : act = .reconcile := hreconcile
      have hscanned := List.all_eq_true.mp hsafe template htemplate
      rw [hpasses, Bool.not_true, Bool.false_or, Bool.not_eq_true'] at hscanned
      rintro rfl
      rw [List.contains_iff_mem.mpr hold] at hscanned
      cases hscanned
    rcases hopens.enabled recordKey henabled with hbefore | hother
    · rw [h recordKey hold] at hbefore
      cases hbefore
    · exact hother rfl

/-- Validation bars a template that is revoked or killed. -/
theorem StrategyStore.bars (store : StrategyStore) : store.Bars keccakHex := by
  intro parseConstraints plan chainId checkedAtNs hbarred
  by_contra hpassed
  rw [Bool.not_eq_false, validateExecutionPlan_passed_iff] at hpassed
  obtain ⟨template, -, constraints, -, hpasses⟩ := hpassed
  rcases hbarred with hrevoked | hkilled
  · exact hpasses.permitted.not_revoked hrevoked
  · exact hpasses.permitted.not_killed hkilled

end Invariant

/-- In a run whose reconcile jobs scan no deactivated template that is active, fresh and compiles,
a template that its failures or an operator have deactivated stays disabled until a command
activates or registers it. What is revoked stays revoked, and no plan for a template that is revoked
or killed passes. -/
theorem deactivated_stays_disabled (env : CompilerEnv) (reader : AbiReader)
    (keccakHex : String → String) (policy : QuarantinePolicy) (order : UpdatedTemplates)
    (start life : Lifecycle) (hstart : start.StaysDisabled)
    (hreach : Reachable (· = start)
      (Restrict (StepOf (Lifecycle.act env reader keccakHex policy order)) fun life act =>
        life.reconcilesSafely env keccakHex order act = true) life) :
    life.StaysDisabled ∧ life.store.Bars keccakHex ∧
      ∀ recordKey : String, start.store.tables.revocations[recordKey]? = some true →
        life.store.tables.revocations[recordKey]? = some true := by
  have hkeeps : life.StaysDisabled ∧ ∀ recordKey : String,
      start.store.tables.revocations[recordKey]? = some true →
        life.store.tables.revocations[recordKey]? = some true := by
    apply hreach.invariant
    · rintro _ rfl
      exact ⟨hstart, fun _ h => h⟩
    · rintro before act _ ⟨hdisabled, hrevoked⟩ ⟨rfl, hsafe⟩
      refine ⟨hdisabled.act hsafe, fun recordKey h => ?_⟩
      have hopens : Opens before.store.tables
          (before.act env reader keccakHex policy order act).store.tables Set.univ :=
        opens_apply (fun _ _ _ _ _ => trivial) fun _ _ _ _ => trivial
      exact hopens.revoked recordKey (hrevoked recordKey h)
  exact ⟨hkeeps.1, life.store.bars, hkeeps.2⟩

section Steps

variable {env : CompilerEnv} {reader : AbiReader} {keccakHex : String → String} {nowNs : ℕ}
  {policy : QuarantinePolicy} {order : UpdatedTemplates} {rows : StrategyRows} {life : Lifecycle}
  {execution current : PendingStrategyExecution} {kind : StrategyOutcomeKind} {reason : String}
  {stats : StrategyOutcomeStats}

/-- A template that is stored is loaded. -/
theorem loadTemplate_putTemplate {tables : RegistryTables} {template : StoredTemplate} :
    loadTemplate (tables.putTemplate template).compiler template.key = .ok template := by
  rw [loadTemplate, RegistryTables.compiler, RegistryTables.putTemplate, BTreeMap.get?_insert,
    if_pos rfl]

/-- A template is activated. -/
theorem run_activate_ok {tables activated enabled : RegistryTables} {key : StrategyTemplateKey}
    {note : Option String} (hstatus : upsertTemplateStatus nowNs key .active tables = .ok activated)
    (hdry : dryRunCompile env activated.compiler key = .ok ())
    (henabled : activated.setActivation keccakHex ⟨key, true, nowNs,
      note <|> some "controller activation after dry-run compile"⟩ = .ok enabled) :
    (TemplateCommand.registry (.activate key note)).run env reader keccakHex nowNs tables =
      (.ok "strategy_template_activated", enabled) := by
  unfold TemplateCommand.run RegistryCommand.run activateStrategyTemplate
  dsimp only
  rw [hstatus]
  dsimp only
  rw [hdry]
  dsimp only
  rw [henabled]

/-- A command succeeds. -/
theorem act_command {command : TemplateCommand} {answer : String} {tables : RegistryTables}
    (h : command.run env reader keccakHex nowNs life.store.tables = (.ok answer, tables)) :
    life.act env reader keccakHex policy order (nowNs, .command command) =
      ⟨life.store.withTables tables, command.recordIn keccakHex tables life.deactivated⟩ := by
  unfold Lifecycle.act LifecycleAct.apply LifecycleAct.recordIn
  dsimp only
  rw [h]
  rfl

/-- An execution is stored. -/
theorem act_begin (h : life.store.rows.insertPendingStrategyExecution execution =
    .ok (current, rows)) :
    life.act env reader keccakHex policy order (nowNs, .begin execution) =
      ⟨life.store.withRows rows, life.deactivated⟩ := by
  unfold Lifecycle.act LifecycleAct.apply LifecycleAct.recordIn
  dsimp only
  rw [h]
  rfl

/-- An execution fails. -/
theorem act_failed {applied : Bool}
    (h : life.store.rows.applyTerminalStrategyFailure keccakHex policy execution kind reason nowNs =
      .ok (applied, rows)) :
    life.act env reader keccakHex policy order
        (nowNs, .outcome (.failed execution kind reason)) =
      ⟨life.store.withRows rows,
        if life.store.tables.enabled (activationKey keccakHex execution.key) &&
            !(life.store.withRows rows).tables.enabled (activationKey keccakHex execution.key) then
          activationKey keccakHex execution.key :: life.deactivated
        else life.deactivated⟩ := by
  unfold Lifecycle.act LifecycleAct.apply LifecycleAct.recordIn ExecutionOutcome.apply
    ExecutionOutcome.key
  dsimp only
  rw [h]
  rfl

/-- An execution is stored under an id that is free. -/
theorem insertPendingStrategyExecution_new (hid : Text.trim execution.executionId ≠ "")
    (hdigest : Text.trim execution.planDigest ≠ "")
    (hkey : validateStrategyTemplateKey execution.key = .ok ())
    (hnew : rows.executions[execution.executionId]? = none) :
    rows.insertPendingStrategyExecution execution = .ok (execution,
      { rows with executions := rows.executions.insert execution.executionId execution }) := by
  rw [StrategyRows.insertPendingStrategyExecution, if_neg (not_or.mpr ⟨hid, hdigest⟩), hkey,
    hnew]
  rfl

/-- A terminal failure of an open execution is written. -/
theorem failAtomically_open {quarantine : StrategyQuarantine}
    {activation : Option TemplateActivationState}
    (hstored : rows.executions[execution.executionId]? = some current)
    (hopen : current.isOpen = true) :
    rows.failAtomically keccakHex execution stats quarantine activation = .ok (true, { rows with
      executions := rows.executions.insert execution.executionId execution
      outcomeStats := rows.outcomeStats.insert
        (strategyOutcomeStatsRecordKey keccakHex execution.key) stats
      quarantines := rows.quarantines.insert quarantine.strategyId quarantine
      activations := activation.elim rows.activations fun activation => rows.activations.insert
        (templateStateRecordKey keccakHex "activation" execution.key) activation }) := by
  rw [StrategyRows.failAtomically, StrategyRows.whenOpen, hstored]
  exact if_pos hopen

/-- What is written when an open execution fails. -/
theorem applyTerminalStrategyFailure_open (rows : StrategyRows) (policy : QuarantinePolicy)
    (hbook : execution.bookkeepingApplied = false)
    (hterminal : execution.terminalBookkeepingApplied = false) (hstate : execution.state ≠ .pending)
    (hstored : rows.executions[execution.executionId]? = some current)
    (hopen : current.isOpen = true)
    (hstats : (rows.strategyOutcomeStats keccakHex execution.key).failWith kind reason
      execution.lastTxHash nowNs = .ok stats) :
    ∃ next : StrategyRows,
      rows.applyTerminalStrategyFailure keccakHex policy execution kind reason nowNs =
        .ok (true, next) ∧
      next.executions =
        rows.executions.insert execution.executionId (execution.terminate nowNs) ∧
      next.outcomeStats = rows.outcomeStats.insert
        (strategyOutcomeStatsRecordKey keccakHex execution.key) stats ∧
      next.activations = (rows.autoDeactivationForStats keccakHex stats nowNs).elim
        rows.activations fun activation => rows.activations.insert
          (templateStateRecordKey keccakHex "activation" execution.key) activation := by
  rw [StrategyRows.applyTerminalStrategyFailure, if_neg (by simp [hbook, hterminal]),
    if_neg hstate, hstats]
  exact ⟨_, failAtomically_open (by exact hstored) hopen, rfl, rfl, rfl⟩

end Steps

section Payout

/-- A platform that renders and parses the parameters of the dry run of a transfer, and parses the
constraints without any. -/
def payoutEnv : CompilerEnv where
  target := .wasm32
  endsWord _ _ := true
  keccak256 := transferDigest
  parseJson text :=
    if text = "\x7b\x7d" then .ok (.object [])
    else .ok (.object [("calls", .array [.object [
      ("args", .object [("to", .string "0x0000000000000000000000000000000000000000"),
        ("amount", .string "0")]),
      ("value_wei", .string "0")]])])
  renderJson _ :=
    "\x7b\"calls\":[\x7b\"args\":\x7b\"to\":" ++
      "\"0x0000000000000000000000000000000000000000\",\"amount\":\"0\"\x7d," ++
      "\"value_wei\":\"0\"\x7d]\x7d"
  invalidParams _ := "expected value at line 1 column 1"
  invalidDeclarations _ := "invalid type"

/-- A template that transfers tokens. -/
def payoutTemplate : StoredTemplate where
  key := ingestedKey
  status := .draft
  contractRoles := [⟨"token", "0x4200000000000000000000000000000000000006", "https://example.com",
    none⟩]
  constraintsJson := "\x7b\x7d"
  actions := [⟨"pay", [transferFunction], [], ["paid"], []⟩]
  createdAtNs := 0
  updatedAtNs := 0

/-- Templates that were changed at one time are listed in the order of their keys. -/
def updatedOrder : UpdatedTemplates where
  sort templates := (Sql.RowOrder.byColumn fun template : StoredTemplate =>
    -Sql.columnOf template.updatedAtNs).sort templates
  perm templates := Sql.RowOrder.perm _ templates
  sorted templates := (Sql.RowOrder.sorted _ templates).imp fun h => by omega

/-- Nothing was stored, and nothing has happened. -/
def Lifecycle.empty : Lifecycle := ⟨⟨.empty, .empty, rfl, rfl⟩, []⟩

/-- The execution of a payout. -/
def payoutExecution (turnId : String) : PendingStrategyExecution :=
  newPendingExecution turnId "digest" ⟨ingestedKey, "pay", [⟨"token",
    "0x4200000000000000000000000000000000000006", "0", "0xa9059cbb"⟩], [], ["paid"], [], []⟩ 3

/-- A payout is stored and reverts. -/
def revertedPayout (turnId : String) : List (ℕ × LifecycleAct) :=
  [(3, .begin (payoutExecution turnId)),
    (4, .outcome (.failed { payoutExecution turnId with state := .reverted }
      .deterministicFailure "strategy transaction reverted"))]

/-- A template is ingested and activated. -/
def activatedPayout : List (ℕ × LifecycleAct) :=
  [(1, .command (.ingestArtifact ⟨"erc20", 8453, "token"⟩ transferJson "https://example.com" none
      [])),
    (1, .command (.ingestTemplate payoutTemplate)),
    (2, .command (.registry (.activate ingestedKey none)))]

/-- The life of a template. -/
def payoutLife (acts : List (ℕ × LifecycleAct)) : Lifecycle :=
  run (Lifecycle.act payoutEnv transferReader id ⟨3, 60⟩ updatedOrder) acts .empty

/-- Three payouts of a template revert. -/
def failedPayout : List (ℕ × LifecycleAct) :=
  activatedPayout ++ revertedPayout "1" ++ revertedPayout "2" ++ revertedPayout "3"

/-- The store after executions of a template were stored under ids and have failed. -/
private structure HasFailed (keccakHex : String → String) (key : StrategyTemplateKey)
    (tables : RegistryTables) (executionIds : List String) (life : Lifecycle) : Prop where
  templates : life.store.tables.templates = tables.templates
  artifacts : life.store.tables.artifacts = tables.artifacts
  executions : ∀ executionId, executionId ∉ executionIds →
    life.store.rows.executions[executionId]? = none
  statsKey : (life.store.rows.strategyOutcomeStats keccakHex key).key = key
  streak : (life.store.rows.strategyOutcomeStats keccakHex key).deterministicFailureStreak =
    executionIds.length
  enabled : life.store.tables.enabled (activationKey keccakHex key) =
    decide (executionIds.length < autoDeactivateDeterministicStreak)
  deactivated : life.deactivated =
    if executionIds.length < autoDeactivateDeterministicStreak then []
    else [activationKey keccakHex key]

section Failures

variable {env : CompilerEnv} {reader : AbiReader} {keccakHex : String → String}
  {tables : RegistryTables} {policy : QuarantinePolicy} {order : UpdatedTemplates}
  {executionIds : List String} {life : Lifecycle} {nowNs laterNs : ℕ}

private theorem HasFailed.fail {execution failed : PendingStrategyExecution} {reason : String}
    (h : HasFailed keccakHex execution.key tables executionIds life)
    (hfew : executionIds.length < autoDeactivateDeterministicStreak)
    (hid : Text.trim execution.executionId ≠ "") (hdigest : Text.trim execution.planDigest ≠ "")
    (hkey : validateStrategyTemplateKey execution.key = .ok ())
    (hnew : execution.executionId ∉ executionIds) (hopen : execution.isOpen = true)
    (hfailed : failed = { execution with state := .reverted }) :
    HasFailed keccakHex execution.key tables (execution.executionId :: executionIds)
      (run (Lifecycle.act env reader keccakHex policy order)
        [(nowNs, .begin execution),
          (laterNs, .outcome (.failed failed .deterministicFailure reason))] life) := by
  have hinsert := insertPendingStrategyExecution_new hid hdigest hkey (h.executions _ hnew)
  rw [run_cons, act_begin hinsert, run_cons, run_nil]
  have hclosed : execution.bookkeepingApplied = false ∧
      execution.terminalBookkeepingApplied = false := by
    simp only [PendingStrategyExecution.isOpen, Bool.and_eq_true, Bool.not_eq_true'] at hopen
    exact ⟨hopen.1.2, hopen.2⟩
  have hfailedKey : failed.key = execution.key := by rw [hfailed]
  have hfailedId : failed.executionId = execution.executionId := by rw [hfailed]
  obtain ⟨stats, hstats, hstatsKey, hstreak⟩ : ∃ stats : StrategyOutcomeStats,
      (life.store.rows.strategyOutcomeStats keccakHex execution.key).failWith
        .deterministicFailure reason failed.lastTxHash laterNs = .ok stats ∧
      stats.key = execution.key ∧
      stats.deterministicFailureStreak = executionIds.length + 1 := by
    refine ⟨_, rfl, h.statsKey, ?_⟩
    dsimp only
    rw [h.streak]
    unfold autoDeactivateDeterministicStreak at hfew
    unfold saturatingAdd u32Max
    omega
  rw [← hfailedKey] at hstats
  have hwritten := applyTerminalStrategyFailure_open
    { life.store.rows with
      executions := life.store.rows.executions.insert execution.executionId execution } policy
    (by rw [hfailed]; exact hclosed.1) (by rw [hfailed]; exact hclosed.2)
    (by rw [hfailed]; intro h; cases h)
    (by rw [hfailed]; exact BTreeMap.get?_insert.trans (if_pos rfl)) hopen hstats
  obtain ⟨next, hnext, hexecutions, hnextStats, hactivations⟩ := hwritten
  rw [hfailedKey] at hnextStats hactivations
  rw [hfailedId] at hexecutions
  have hlive : life.store.rows.activations[activationKey keccakHex execution.key]?.any
      (·.enabled) = true := by
    rw [life.store.activations_eq]
    exact h.enabled.trans (decide_eq_true hfew)
  have henabled : next.activations[activationKey keccakHex execution.key]?.any (·.enabled) =
      decide (executionIds.length + 1 < autoDeactivateDeterministicStreak) := by
    rw [hactivations, StrategyRows.autoDeactivationForStats, hstatsKey, hstreak]
    by_cases hstill : executionIds.length + 1 < autoDeactivateDeterministicStreak
    · rw [decide_eq_true hstill, Bool.true_or, if_pos rfl]
      exact hlive
    · rw [decide_eq_false hstill, Bool.false_or, if_neg (by rw [hlive]; exact Bool.false_ne_true)]
      exact congrArg (Option.any TemplateActivationState.enabled)
        (BTreeMap.get?_insert.trans (if_pos rfl))
  have hnowStats : next.strategyOutcomeStats keccakHex execution.key = stats := by
    rw [StrategyRows.strategyOutcomeStats, hnextStats, BTreeMap.get?_insert, if_pos rfl]
    rfl
  have hbefore : (life.store.withRows { life.store.rows with
      executions := life.store.rows.executions.insert execution.executionId
        execution }).tables.enabled (activationKey keccakHex execution.key) = true := hlive
  have hafter : ((life.store.withRows { life.store.rows with
      executions := life.store.rows.executions.insert execution.executionId
        execution }).withRows next).tables.enabled (activationKey keccakHex execution.key) =
      decide (executionIds.length + 1 < autoDeactivateDeterministicStreak) := henabled
  rw [act_failed hnext, hfailedKey]
  constructor
  · exact h.templates
  · exact h.artifacts
  · intro executionId hother
    rw [List.mem_cons, not_or] at hother
    show next.executions[executionId]? = none
    rw [hexecutions, BTreeMap.get?_insert, if_neg (Ne.symm hother.1), BTreeMap.get?_insert,
      if_neg (Ne.symm hother.1)]
    exact h.executions executionId hother.2
  · exact (congrArg (·.key) hnowStats).trans hstatsKey
  · exact (congrArg (·.deterministicFailureStreak) hnowStats).trans hstreak
  · exact henabled
  · dsimp only
    rw [hbefore, hafter, h.deactivated, if_pos hfew, Bool.true_and, List.length_cons]
    by_cases hstill : executionIds.length + 1 < autoDeactivateDeterministicStreak
    · rw [decide_eq_true hstill, if_pos hstill, Bool.not_true, if_neg Bool.false_ne_true]
    · rw [decide_eq_false hstill, if_neg hstill, Bool.not_false, if_pos rfl]

/-- A template that was deactivated and that compiles is enabled again. -/
private theorem HasFailed.reconcile {template : StoredTemplate}
    (h : HasFailed keccakHex template.key tables executionIds life)
    (hmany : ¬ executionIds.length < autoDeactivateDeterministicStreak)
    (hkey : validateStrategyTemplateKey template.key = .ok ())
    (hlisted : tables.listAllTemplates order strategyReconcileMaxTemplates = [template])
    (hpasses : template.passesDryRun env nowNs tables = true) :
    ¬ (life.act env reader keccakHex policy order (nowNs, .reconcile)).StaysDisabled := by
  intro hstays
  have hscanned : life.store.tables.listAllTemplates order strategyReconcileMaxTemplates =
      [template] := by
    rw [RegistryTables.listAllTemplates, h.templates]
    exact hlisted
  have hcompiler : life.store.tables.compiler = tables.compiler := by
    rw [RegistryTables.compiler, h.templates, h.artifacts, RegistryTables.compiler]
  have hdisabled : life.store.tables.enabled (activationKey keccakHex template.key) = false :=
    h.enabled.trans (decide_eq_false hmany)
  simp only [StoredTemplate.passesDryRun, Bool.and_eq_true, decide_eq_true_eq] at hpasses
  obtain ⟨⟨hfresh, hactive⟩, hdry⟩ := hpasses
  obtain ⟨done, hdry⟩ : ∃ done, dryRunCompile env tables.compiler template.key = .ok done := by
    cases hrun : dryRunCompile env tables.compiler template.key with
    | error error =>
      rw [hrun] at hdry
      cases hdry
    | ok done => exact ⟨done, rfl⟩
  have hreconciled : reconcileTemplate env keccakHex nowNs template life.store.tables =
      .ok { life.store.tables with
        activations := life.store.tables.activations.insert (activationKey keccakHex template.key)
          ⟨template.key, true, nowNs, some "scheduler dry-run compile passed"⟩ } := by
    rw [reconcileTemplate, if_neg (by omega), hcompiler, hdry]
    dsimp only
    rw [if_neg (not_not.mpr hactive), if_neg (by rw [hdisabled]; exact Bool.false_ne_true),
      RegistryTables.setActivation, hkey]
    rfl
  have henabled := hstays (activationKey keccakHex template.key) (by
    show _ ∈ life.deactivated
    rw [h.deactivated, if_neg hmany]
    exact List.mem_singleton_self _)
  unfold Lifecycle.act LifecycleAct.apply at henabled
  dsimp only at henabled
  rw [hscanned, reconcileTemplates, hreconciled] at henabled
  have hopened : (life.store.tables.activations.insert (activationKey keccakHex template.key)
      ⟨template.key, true, nowNs, some "scheduler dry-run compile passed"⟩)[activationKey keccakHex
        template.key]?.any (·.enabled) = true :=
    congrArg (Option.any TemplateActivationState.enabled)
      (BTreeMap.get?_insert.trans (if_pos rfl))
  exact Bool.false_ne_true (henabled.symm.trans hopened)

end Failures

/-- The artifact of the token. -/
private def payoutArtifact : AbiArtifact :=
  { transferArtifact with createdAtNs := 1, updatedAtNs := 1 }

private theorem normalizeAbiArtifact_payout :
    normalizeAbiArtifact payoutEnv.endsWord payoutEnv.keccak256 transferReader
      ⟨"erc20", 8453, "token"⟩ transferJson "https://example.com" none [] 1 =
      .ok payoutArtifact := by
  with_unfolding_all rfl

/-- The tables with the artifact. -/
private def artifactTables : RegistryTables :=
  { RegistryTables.empty with
    artifacts := RegistryTables.empty.artifacts.insert (abiArtifactPk payoutArtifact.key)
      payoutArtifact }

/-- The template after its activation. -/
private def activeTemplate : StoredTemplate :=
  { payoutTemplate with status := .active, createdAtNs := 1, updatedAtNs := 2 }

/-- The tables with the artifact and the template. -/
private def payoutTables : RegistryTables :=
  (artifactTables.putTemplate
    { payoutTemplate with createdAtNs := 1, updatedAtNs := 1 }).putTemplate activeTemplate

private theorem ingestedKey_valid : Text.trim ingestedKey.protocol ≠ "" ∧
    Text.trim ingestedKey.templateId ≠ "" ∧ validateStrategyTemplateKey ingestedKey = .ok () :=
  ⟨by decide, by decide, rfl⟩

private theorem run_ingestArtifact :
    (TemplateCommand.ingestArtifact ⟨"erc20", 8453, "token"⟩ transferJson "https://example.com"
      none []).run payoutEnv transferReader id 1 .empty =
        (.ok "strategy_abi_artifact_ingested", artifactTables) := by
  have hstored : upsertAbiArtifact RegistryTables.empty.artifacts payoutArtifact =
      .ok (payoutArtifact, artifactTables.artifacts) := by
    rw [upsertAbiArtifact, if_neg (by decide), if_neg (by decide), artifactTables]
  rw [TemplateCommand.run, answerWith, ingestStrategyAbiArtifact, normalizeAndStoreAbiArtifact,
    bind_eq_ok.mpr ⟨_, normalizeAbiArtifact_payout, hstored⟩]
  rfl

private theorem upsertTemplate_payout {tables : RegistryTables} {template : StoredTemplate}
    (h : template.key = ingestedKey) :
    tables.upsertTemplate template = .ok (tables.putTemplate template) := by
  rw [RegistryTables.upsertTemplate, h, if_neg ingestedKey_valid.1, if_neg ingestedKey_valid.2.1]

private theorem run_ingestTemplate :
    (TemplateCommand.ingestTemplate payoutTemplate).run payoutEnv transferReader id 1
      artifactTables = (.ok "strategy_template_ingested", artifactTables.putTemplate
        { payoutTemplate with createdAtNs := 1, updatedAtNs := 1 }) := by
  rw [TemplateCommand.run, answerWith, ingestStrategyTemplate, upsertTemplate_payout rfl]
  rfl

private theorem dryRun_payoutTables :
    dryRunCompile payoutEnv payoutTables.compiler ingestedKey = .ok () := by
  have hok : (dryRunCompile payoutEnv payoutTables.compiler ingestedKey).isOk = true := by
    decide +kernel
  cases hrun : dryRunCompile payoutEnv payoutTables.compiler ingestedKey with
  | error error =>
    rw [hrun] at hok
    cases hok
  | ok done => rfl

/-- The tables in which the template is enabled. -/
private def enabledTables : RegistryTables :=
  { payoutTables with
    activations := payoutTables.activations.insert (activationKey id ingestedKey)
      ⟨ingestedKey, true, 2, some "controller activation after dry-run compile"⟩ }

private theorem run_activate :
    (TemplateCommand.registry (.activate ingestedKey none)).run payoutEnv transferReader id 2
      (artifactTables.putTemplate { payoutTemplate with createdAtNs := 1, updatedAtNs := 1 }) =
        (.ok "strategy_template_activated", enabledTables) := by
  refine run_activate_ok ?_ dryRun_payoutTables ?_
  · exact bind_eq_ok.mpr ⟨{ payoutTemplate with createdAtNs := 1, updatedAtNs := 1 },
      loadTemplate_putTemplate, upsertTemplate_payout rfl⟩
  · exact bind_eq_ok.mpr ⟨(), ingestedKey_valid.2.2, rfl⟩

private theorem listed_payoutTables : payoutTables.listAllTemplates updatedOrder
    strategyReconcileMaxTemplates = [activeTemplate] := by
  with_unfolding_all rfl

/-- The store after the activation. -/
private def activatedStore : StrategyStore :=
  ((Lifecycle.empty.store.withTables artifactTables).withTables (artifactTables.putTemplate
    { payoutTemplate with createdAtNs := 1, updatedAtNs := 1 })).withTables enabledTables

private theorem act_ingestArtifact : Lifecycle.empty.act payoutEnv transferReader id ⟨3, 60⟩
    updatedOrder (1, .command (.ingestArtifact ⟨"erc20", 8453, "token"⟩ transferJson
      "https://example.com" none [])) = ⟨Lifecycle.empty.store.withTables artifactTables, []⟩ :=
  act_command run_ingestArtifact

private theorem act_ingestTemplate : Lifecycle.act payoutEnv transferReader id ⟨3, 60⟩ updatedOrder
    (1, .command (.ingestTemplate payoutTemplate))
    ⟨Lifecycle.empty.store.withTables artifactTables, []⟩ =
      ⟨(Lifecycle.empty.store.withTables artifactTables).withTables (artifactTables.putTemplate
        { payoutTemplate with createdAtNs := 1, updatedAtNs := 1 }), []⟩ :=
  act_command run_ingestTemplate

private theorem act_activatePayout : Lifecycle.act payoutEnv transferReader id ⟨3, 60⟩ updatedOrder
    (2, .command (.registry (.activate ingestedKey none)))
    ⟨(Lifecycle.empty.store.withTables artifactTables).withTables (artifactTables.putTemplate
      { payoutTemplate with createdAtNs := 1, updatedAtNs := 1 }), []⟩ = ⟨activatedStore, []⟩ :=
  act_command run_activate

/-- A template without failures. -/
private theorem hasFailed_activatedPayout :
    HasFailed id ingestedKey payoutTables [] (payoutLife activatedPayout) := by
  unfold payoutLife activatedPayout
  rw [run_cons, run_cons, run_cons, run_nil, act_ingestArtifact, act_ingestTemplate,
    act_activatePayout]
  constructor
  · rfl
  · rfl
  · exact fun executionId _ => Std.ExtTreeMap.getElem?_empty
  · exact congrArg (fun stats => (Option.getD stats (newOutcomeStats ingestedKey)).key)
      Std.ExtTreeMap.getElem?_empty
  · exact congrArg (fun stats =>
        (Option.getD stats (newOutcomeStats ingestedKey)).deterministicFailureStreak)
      Std.ExtTreeMap.getElem?_empty
  · exact congrArg (Option.any TemplateActivationState.enabled)
      (BTreeMap.get?_insert.trans (if_pos rfl))
  · rfl

/-- One more payout reverts. -/
private theorem HasFailed.revert {executionIds : List String} {life : Lifecycle}
    (h : HasFailed id ingestedKey payoutTables executionIds life) (turnId : String)
    (hfew : executionIds.length < autoDeactivateDeterministicStreak)
    (hid : Text.trim (payoutExecution turnId).executionId ≠ "")
    (hnew : (payoutExecution turnId).executionId ∉ executionIds) :
    HasFailed id ingestedKey payoutTables ((payoutExecution turnId).executionId :: executionIds)
      (run (Lifecycle.act payoutEnv transferReader id ⟨3, 60⟩ updatedOrder) (revertedPayout turnId)
        life) := by
  have hdigest : Text.trim "digest" ≠ "" := by decide
  exact h.fail hfew hid hdigest ingestedKey_valid.2.2 hnew rfl rfl

/-- The template after its payouts have reverted. -/
private theorem hasFailed_failedPayout :
    HasFailed id ingestedKey payoutTables (["3", "2", "1"].map (payoutExecution · |>.executionId))
      (payoutLife failedPayout) := by
  have hrun : payoutLife failedPayout = run (Lifecycle.act payoutEnv transferReader id ⟨3, 60⟩
      updatedOrder) (revertedPayout "3") (run (Lifecycle.act payoutEnv transferReader id ⟨3, 60⟩
        updatedOrder) (revertedPayout "2") (run (Lifecycle.act payoutEnv transferReader id ⟨3, 60⟩
          updatedOrder) (revertedPayout "1") (payoutLife activatedPayout))) := by
    unfold payoutLife failedPayout
    rw [run_append, run_append, run_append]
  rw [hrun]
  have hfirst := hasFailed_activatedPayout.revert "1" (by decide) (by decide)
    (by decide)
  have hsecond := hfirst.revert "2" (by decide) (by decide) (by decide)
  exact hsecond.revert "3" (by decide) (by decide) (by decide)

/-- Its failures deactivate the template, and the next reconcile job enables it again. -/
theorem failed_template_returns :
    (payoutLife failedPayout).deactivated = [activationKey id ingestedKey] ∧
      (payoutLife failedPayout).store.tables.enabled (activationKey id ingestedKey) = false ∧
      ¬ (payoutLife (failedPayout ++ [(5, .reconcile)])).StaysDisabled := by
  refine ⟨hasFailed_failedPayout.deactivated, hasFailed_failedPayout.enabled, ?_⟩
  have hpasses : activeTemplate.passesDryRun payoutEnv 5 payoutTables = true := by
    rw [StoredTemplate.passesDryRun, show activeTemplate.key = ingestedKey from rfl,
      dryRun_payoutTables]
    decide
  have hrun : payoutLife (failedPayout ++ [(5, .reconcile)]) = Lifecycle.act payoutEnv
      transferReader id ⟨3, 60⟩ updatedOrder (5, .reconcile) (payoutLife failedPayout) := by
    unfold payoutLife
    rw [run_append, run_cons, run_nil]
  rw [hrun]
  have hfailed : HasFailed id activeTemplate.key payoutTables
      (["3", "2", "1"].map (payoutExecution · |>.executionId)) (payoutLife failedPayout) :=
    hasFailed_failedPayout
  exact hfailed.reconcile (by decide) ingestedKey_valid.2.2 listed_payoutTables hpasses

/-- A template is deprecated, and a reconcile job follows. -/
def deprecatedPayout : List (ℕ × LifecycleAct) :=
  activatedPayout ++ [(3, .command (.deprecateTemplate ingestedKey none)), (4, .reconcile)]

/-- A deprecated template stays disabled. -/
theorem deprecated_template_stays : (payoutLife deprecatedPayout).StaysDisabled := by
  have hreconcile : Lifecycle.reconcilesSafely payoutEnv id updatedOrder (Lifecycle.act payoutEnv
      transferReader id ⟨3, 60⟩ updatedOrder (3, .command (.deprecateTemplate ingestedKey none))
      ⟨activatedStore, []⟩) (4, .reconcile) = true := by
    decide +kernel
  have hmeets : meets (Lifecycle.act payoutEnv transferReader id ⟨3, 60⟩ updatedOrder)
      (fun life act => life.reconcilesSafely payoutEnv id updatedOrder act) deprecatedPayout
      .empty = true := by
    unfold deprecatedPayout activatedPayout
    rw [List.cons_append, List.cons_append, List.cons_append, List.nil_append, meets, meets, meets,
      meets, meets, act_ingestArtifact, act_ingestTemplate, act_activatePayout, hreconcile]
    rfl
  have hempty : Lifecycle.empty.StaysDisabled := by
    intro recordKey hmember
    cases hmember
  exact (deactivated_stays_disabled payoutEnv transferReader id ⟨3, 60⟩ updatedOrder .empty _ hempty
    ((Reachable.self _).run_restrict hmeets)).1

end Payout

end Automaton.Strategy
