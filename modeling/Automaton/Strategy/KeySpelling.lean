import Automaton.Strategy.Budget
import Automaton.Strategy.SpendingPolicy
import Automaton.Strategy.TemplateLifecycle

/-!
# Spellings of strategy keys

Activations, kill switches, statistics and budgets are stored under a digest of the trimmed key in
lower case. Templates, quarantines and exposures are stored under the key as it is spelled, and the
protocols of exposures are compared as they are spelled. So two spellings of a key are treated alike
only when they are the same, and two keys share records when their joined fields are the same text.
-/

namespace Automaton.Strategy

open Machine

/-- A key, trimmed and in lower case. -/
def StrategyTemplateKey.normalized (key : StrategyTemplateKey) : StrategyTemplateKey where
  protocol := Text.toAsciiLowercase (Text.trim key.protocol)
  primitive := Text.toAsciiLowercase (Text.trim key.primitive)
  chainId := key.chainId
  templateId := Text.toAsciiLowercase (Text.trim key.templateId)

/-- The characters of the fields of a key, joined with a separator. -/
def StrategyTemplateKey.joined (key : StrategyTemplateKey) (separator : Char) : List Char :=
  key.protocol.toList ++ separator :: (key.primitive.toList ++
    separator :: ((toString key.chainId).toList ++ separator :: key.templateId.toList))

/-- The text whose digest `strategy_template_lookup_key` takes. -/
def StrategyTemplateKey.lookupText (key : StrategyTemplateKey) : String :=
  key.normalized.protocol ++ "|" ++ key.normalized.primitive ++ "|" ++
    toString key.normalized.chainId ++ "|" ++ key.normalized.templateId

/-- What `execute_strategy_action` is called with and reads, besides the key. -/
structure Situation where
  env : CompilerEnv
  parseConstraints : String → Except String ConstraintPolicy
  reader : SimulationReader
  tables : RegistryTables
  chainId : ℕ
  rows : StrategyRows
  spending : SpendingState
  policy : AutonomyPolicy
  quarantinePolicy : QuarantinePolicy
  autonomousExecutionEnabled : Bool
  actionId : String
  typedParamsJson : String
  turnId : String
  priorSameTurnHistory : List ToolCallRecord
  currentBatchHistory : List ToolCallRecord
  nowNs : ℕ

namespace Situation

variable (situation : Situation) (key : StrategyTemplateKey)

/-- The intent with a key. -/
def intent : StrategyExecutionIntent := ⟨key, situation.actionId, situation.typedParamsJson⟩

/-- What `compile_intent` makes of it. -/
def compiled : Except String ExecutionPlan :=
  compileIntent situation.env situation.tables.compiler (situation.intent key)

/-- The call with a key. -/
def request : ExecuteRequest where
  key := key
  compiled := situation.compiled key
  turnId := situation.turnId
  autonomousExecutionEnabled := situation.autonomousExecutionEnabled
  quarantinePolicy := situation.quarantinePolicy
  policyCheck := (situation.compiled key).bind fun plan =>
    enforceStrategyExecutionPolicy situation.reader situation.policy situation.spending
      (situation.intent key) plan situation.priorSameTurnHistory situation.currentBatchHistory
  nowNs := situation.nowNs

/-- The plan of the intent is admitted. -/
def admits (keccakHex : String → String) : Bool :=
  (situation.rows.admitPlan keccakHex situation.parseConstraints
    (situation.tables.registry situation.chainId) (situation.request key)).1.isOk

end Situation

/-- The same is recorded in both: failures, outcomes, exposures and budgets. -/
structure SameBooks (rows next : StrategyRows) : Prop where
  quarantines : ∀ strategyId : String,
    rows.quarantines[strategyId]?.map (·.failureCount) =
      next.quarantines[strategyId]?.map (·.failureCount)
  counters : ∀ recordKey : String,
    rows.outcomeStats[recordKey]?.map (fun stats =>
        (stats.totalRuns, stats.deterministicFailures, stats.deterministicFailureStreak)) =
      next.outcomeStats[recordKey]?.map (fun stats =>
        (stats.totalRuns, stats.deterministicFailures, stats.deterministicFailureStreak))
  exposures : ∀ strategyId : String,
    rows.exposures[strategyId]?.map (·.amountRaw) = next.exposures[strategyId]?.map (·.amountRaw)
  budgets : ∀ recordKey : String, rows.budgets[recordKey]? = next.budgets[recordKey]?

protected theorem SameBooks.refl (rows : StrategyRows) : SameBooks rows rows :=
  ⟨fun _ => rfl, fun _ => rfl, fun _ => rfl, fun _ => rfl⟩

section Spellings

variable (keccakHex : String → String) (first second : StrategyTemplateKey)

/-- In every state the same is decided under both keys, and executions of both keys update the same
records. -/
structure TreatedAlike : Prop where
  quarantined : ∀ (rows : StrategyRows) policy nowNs,
    (rows.activeStrategyQuarantine policy (strategyIdFromKey first) nowNs).isSome =
      (rows.activeStrategyQuarantine policy (strategyIdFromKey second) nowNs).isSome
  validated : ∀ parseConstraints registry rows (plan : ExecutionPlan) nowNs,
    (validateExecutionPlan keccakHex parseConstraints registry rows { plan with key := first }
        nowNs).passed =
      (validateExecutionPlan keccakHex parseConstraints registry rows { plan with key := second }
        nowNs).passed
  concentrated : ∀ policy wallet exposures (plan : ExecutionPlan),
    (enforceConcentrationGate policy wallet exposures { plan with key := first }).isOk =
      (enforceConcentrationGate policy wallet exposures { plan with key := second }).isOk
  admitted : ∀ situation : Situation,
    situation.admits first keccakHex = situation.admits second keccakHex
  confirmed : ∀ (rows : StrategyRows) (execution : PendingStrategyExecution) nowNs,
    SameBooks
      (rows.after (rows.applyConfirmedStrategyExecution keccakHex
        { execution with key := first } nowNs))
      (rows.after (rows.applyConfirmedStrategyExecution keccakHex
        { execution with key := second } nowNs))
  failed : ∀ (rows : StrategyRows) policy (execution : PendingStrategyExecution) kind reason nowNs,
    SameBooks
      (rows.after (rows.applyTerminalStrategyFailure keccakHex policy
        { execution with key := first } kind reason nowNs))
      (rows.after (rows.applyTerminalStrategyFailure keccakHex policy
        { execution with key := second } kind reason nowNs))

/-- What is stored for a key. -/
inductive RecordKind
  | template
  | activation
  | revocation
  | killSwitch
  | outcomeStats
  | budget
  | quarantine
  | exposure
  deriving DecidableEq, Repr

/-- The key of a record in its table. -/
def RecordKind.recordKey (kind : RecordKind) (key : StrategyTemplateKey) : String :=
  match kind with
  | .template => strategyTemplatePk key
  | .activation => templateStateRecordKey keccakHex "activation" key
  | .revocation => templateStateRecordKey keccakHex "revocation" key
  | .killSwitch => strategyKillSwitchRecordKey keccakHex key
  | .outcomeStats => strategyOutcomeStatsRecordKey keccakHex key
  | .budget => strategyBudgetRecordKey keccakHex key
  | .quarantine => strategyIdFromKey key
  | .exposure => strategyIdFromKey key

/-- Two keys share no record. -/
def KeptApart : Prop :=
  ∀ kind : RecordKind, kind.recordKey keccakHex first ≠ kind.recordKey keccakHex second

/-- A key passes its validation. -/
def StrategyTemplateKey.IsValid (key : StrategyTemplateKey) : Prop :=
  validateStrategyTemplateKey key = .ok ()

/-- The spelling of a key does not matter: keys that are normalized to the same one are treated
alike, and valid keys that are not are kept apart. -/
structure SpellingIsIrrelevant : Prop where
  alike : first.normalized = second.normalized → TreatedAlike keccakHex first second
  apart : first.IsValid → second.IsValid → first.normalized ≠ second.normalized →
    KeptApart keccakHex first second

end Spellings

section Texts

variable {text other : String}

/-- Lower case is white space where the text is. -/
theorem isWhitespace_toLower (c : Char) : Text.isWhitespace c.toLower = Text.isWhitespace c := by
  by_cases hupper : c.val ≥ 'A'.val ∧ c.val ≤ 'Z'.val
  · obtain ⟨hmin, hmax⟩ := Utf8.toNat_of_isUpper hupper
    have hlower : c.toLower.toNat = c.toNat + 32 := by
      unfold Char.toLower
      rw [dif_pos hupper]
      show (c.val + 32).toNat = c.toNat + 32
      simp [UInt32.toNat_add]
      omega
    have hletter : ∀ d : Char, 65 ≤ d.toNat → d.toNat ≤ 122 → Text.isWhitespace d = false := by
      intro d hd hd'
      simp [Text.isWhitespace]
      omega
    rw [hletter c hmin (by omega), hletter c.toLower (by omega) (by omega)]
  · unfold Char.toLower
    rw [dif_neg hupper]

/-- How many characters of a text are no white space. -/
def solidLength (text : String) : ℕ := text.toList.countP fun c => !Text.isWhitespace c

/-- A trimmed text in lower case has as many of them. -/
theorem solidLength_normalized (text : String) :
    solidLength (Text.toAsciiLowercase (Text.trim text)) = solidLength text := by
  have hlower : ∀ text, solidLength (Text.toAsciiLowercase text) = solidLength text := by
    intro text
    unfold solidLength Text.toAsciiLowercase
    rw [String.toList_ofList, List.countP_map]
    exact List.countP_congr fun c _ => by simp [isWhitespace_toLower]
  obtain ⟨lead, trail, hsplit, hlead, htrail⟩ := Text.exists_trim text
  have hnone : ∀ spaces : List Char, (∀ c ∈ spaces, Text.isWhitespace c = true) →
      spaces.countP (fun c => !Text.isWhitespace c) = 0 := by
    intro spaces hspaces
    rw [List.countP_eq_zero]
    exact fun c hc => by simp [hspaces c hc]
  rw [hlower, solidLength, solidLength, hsplit, List.countP_append, List.countP_append,
    hnone lead hlead, hnone trail htrail, Nat.zero_add, Nat.add_zero]

/-- Texts before a separator are the same when neither is the other one with a separator behind
it. -/
theorem eq_of_append_cons {separator : Char} {front front' rest rest' : List Char}
    (hfront : ∀ more, front' ≠ front ++ separator :: more)
    (hfront' : ∀ more, front ≠ front' ++ separator :: more)
    (h : front ++ separator :: rest = front' ++ separator :: rest') :
    front = front' ∧ rest = rest' := by
  rcases List.append_eq_append_iff.mp h with ⟨more, hmore, hrest⟩ | ⟨more, hmore, hrest⟩
  · cases more with
    | nil =>
      rw [List.append_nil] at hmore
      exact ⟨hmore.symm, (List.cons.inj hrest).2⟩
    | cons c more =>
      obtain ⟨rfl, -⟩ := List.cons.inj hrest
      exact absurd hmore (hfront more)
  · cases more with
    | nil =>
      rw [List.append_nil] at hmore
      exact ⟨hmore, (List.cons.inj hrest).2.symm⟩
    | cons c more =>
      obtain ⟨rfl, -⟩ := List.cons.inj hrest
      exact absurd hmore (hfront' more)

/-- Fields before a colon with as many characters that are no white space are the same field. -/
theorem eq_of_append_colon {rest rest' : List Char} (hsolid : solidLength text = solidLength other)
    (h : text.toList ++ ':' :: rest = other.toList ++ ':' :: rest') :
    text = other ∧ rest = rest' := by
  have hcolon : Text.isWhitespace ':' = false := by decide
  have hlonger : ∀ {text other : String}, solidLength text = solidLength other →
      ∀ more, other.toList ≠ text.toList ++ ':' :: more := by
    intro text other hsolid more hmore
    rw [solidLength, solidLength, hmore] at hsolid
    simp [hcolon] at hsolid
  obtain ⟨hfront, hrest⟩ := eq_of_append_cons (hlonger hsolid) (hlonger hsolid.symm) h
  exact ⟨String.toList_injective hfront, hrest⟩

/-- Fields without a separator before it are the same field. -/
theorem eq_of_append_separator {separator : Char} {rest rest' : List Char}
    (htext : separator ∉ text.toList) (hother : separator ∉ other.toList)
    (h : text.toList ++ separator :: rest = other.toList ++ separator :: rest') :
    text = other ∧ rest = rest' := by
  have hlonger : ∀ {front other : List Char}, separator ∉ other →
      ∀ more, other ≠ front ++ separator :: more := by
    intro front other hother more hmore
    rw [hmore] at hother
    simp at hother
  obtain ⟨hfront, hrest⟩ := eq_of_append_cons (hlonger hother) (hlonger htext) h
  exact ⟨String.toList_injective hfront, hrest⟩

/-- A text that is normalized contains no character that the text does not contain, but for small
letters. -/
theorem notMem_normalized {c : Char} (hc : ¬ ('a' ≤ c ∧ c ≤ 'z')) (h : c ∉ text.toList) :
    c ∉ (Text.toAsciiLowercase (Text.trim text)).toList := by
  intro hmem
  rw [Text.toAsciiLowercase, String.toList_ofList] at hmem
  obtain ⟨d, hd, hlower⟩ := List.mem_map.mp hmem
  obtain rfl := Utf8.eq_of_toLower hlower hc
  obtain ⟨lead, trail, hsplit, -, -⟩ := Text.exists_trim text
  rw [hsplit] at h
  exact h (List.mem_append_right _ (List.mem_append_left _ hd))

/-- A number contains digits only. -/
theorem notMem_toString {c : Char} (hc : c.isDigit = false) (n : ℕ) : c ∉ (toString n).toList := by
  intro hmem
  rw [Nat.toString_eq_ofList_toDigits, String.toList_ofList] at hmem
  have hdigit := Nat.isDigit_of_mem_toDigits (by decide) (by decide) hmem
  rw [hc] at hdigit
  cases hdigit

end Texts

section Keys

variable {keccakHex : String → String} {first second key : StrategyTemplateKey}

/-- Keys that are normalized to the same one are spelled alike when their joined fields are the
same text. -/
theorem eq_of_strategyIdFromKey (hnormalized : first.normalized = second.normalized)
    (hid : strategyIdFromKey first = strategyIdFromKey second) : first = second := by
  obtain ⟨hprotocol, hprimitive, hchain, -⟩ := StrategyTemplateKey.mk.inj hnormalized
  have hsolid {text other : String} (h : Text.toAsciiLowercase (Text.trim text) =
      Text.toAsciiLowercase (Text.trim other)) : solidLength text = solidLength other := by
    rw [← solidLength_normalized text, h, solidLength_normalized]
  have hchars := congrArg String.toList hid
  simp only [strategyIdFromKey, String.toList_append, List.append_assoc] at hchars
  obtain ⟨hprotocol, hafter⟩ := eq_of_append_colon (hsolid hprotocol) hchars
  obtain ⟨hprimitive, hafter⟩ := eq_of_append_colon (hsolid hprimitive) hafter
  have hsame : first.chainId = second.chainId := hchain
  rw [hsame] at hafter
  have htemplate : first.templateId = second.templateId :=
    String.toList_injective (List.append_cancel_left (List.append_cancel_left hafter))
  cases first
  cases second
  simp_all

theorem strategyTemplateLookupKey_eq (key : StrategyTemplateKey) :
    strategyTemplateLookupKey keccakHex key =
      "strategy:template" ++ ":" ++ keccakHex key.lookupText := by
  unfold strategyTemplateLookupKey lookupDigest StrategyTemplateKey.lookupText
    StrategyTemplateKey.normalized
  rfl

/-- Keys share no record exactly when the texts differ that their records are stored under. -/
theorem keptApart_iff (hcollision : keccakHex first.lookupText = keccakHex second.lookupText →
      first.lookupText = second.lookupText) :
    KeptApart keccakHex first second ↔
      strategyIdFromKey first ≠ strategyIdFromKey second ∧
        first.lookupText ≠ second.lookupText := by
  constructor
  · intro hapart
    refine ⟨hapart .quarantine, fun htext => hapart .budget ?_⟩
    simp only [RecordKind.recordKey, strategyBudgetRecordKey, strategyTemplateLookupKey_eq, htext]
  · rintro ⟨hid, htext⟩ kind
    have hlookup : strategyTemplateLookupKey keccakHex first ≠
        strategyTemplateLookupKey keccakHex second := by
      rw [strategyTemplateLookupKey_eq, strategyTemplateLookupKey_eq]
      intro hsame
      exact htext (hcollision (String.append_right_inj _ |>.mp hsame))
    cases kind with
    | template => exact hid
    | quarantine => exact hid
    | exposure => exact hid
    | _ =>
      intro hsame
      exact hlookup ((String.append_right_inj _).mp hsame)

/-- A key is treated like itself. -/
protected theorem TreatedAlike.refl (keccakHex : String → String) (key : StrategyTemplateKey) :
    TreatedAlike keccakHex key key where
  quarantined _ _ _ := rfl
  validated _ _ _ _ _ := rfl
  concentrated _ _ _ _ := rfl
  admitted _ := rfl
  confirmed _ _ _ := .refl _
  failed _ _ _ _ _ _ := .refl _

/-- The check for a quarantine alone tells two spellings apart. -/
theorem TreatedAlike.strategyId (h : TreatedAlike keccakHex first second) :
    strategyIdFromKey first = strategyIdFromKey second := by
  by_contra hdiffer
  let rows : StrategyRows := { StrategyRows.empty with
    quarantines := (∅ : BTreeMap String StrategyQuarantine).insert (strategyIdFromKey first)
      ⟨strategyIdFromKey first, "failed", 1, 1, none⟩ }
  have hfirst : rows.activeStrategyQuarantine ⟨1, 0⟩ (strategyIdFromKey first) 2 =
      some ⟨strategyIdFromKey first, "failed", 1, 1, none⟩ := by
    simp [rows, StrategyRows.activeStrategyQuarantine]
  have hsecond : rows.activeStrategyQuarantine ⟨1, 0⟩ (strategyIdFromKey second) 2 = none := by
    simp [rows, StrategyRows.activeStrategyQuarantine, hdiffer]
  have hsame := h.quarantined rows ⟨1, 0⟩ 2
  rw [hfirst, hsecond] at hsame
  cases hsame

/-- Joined fields without the separator are the same when the texts are. -/
theorem eq_of_joined (separator : Char) (hdigit : separator.isDigit = false)
    (hfirst : ∀ field ∈ [first.protocol, first.primitive], separator ∉ field.toList)
    (hsecond : ∀ field ∈ [second.protocol, second.primitive], separator ∉ field.toList)
    (h : first.joined separator = second.joined separator) : first = second := by
  obtain ⟨hprotocol, hafter⟩ :=
    eq_of_append_separator (hfirst _ (by simp)) (hsecond _ (by simp)) h
  obtain ⟨hprimitive, hafter⟩ :=
    eq_of_append_separator (hfirst _ (by simp)) (hsecond _ (by simp)) hafter
  obtain ⟨hchain, htemplate⟩ :=
    eq_of_append_separator (notMem_toString hdigit _) (notMem_toString hdigit _) hafter
  have htemplateId := String.toList_injective htemplate
  have hchainId : first.chainId = second.chainId :=
    Decimal.toString_injective hchain
  cases first
  cases second
  simp_all

theorem toList_strategyIdFromKey (key : StrategyTemplateKey) :
    (strategyIdFromKey key).toList = key.joined ':' := by
  simp [strategyIdFromKey, StrategyTemplateKey.joined]

theorem toList_lookupText (key : StrategyTemplateKey) :
    key.lookupText.toList = key.normalized.joined '|' := by
  simp [StrategyTemplateKey.lookupText, StrategyTemplateKey.joined]

/-- Neither protocol nor primitive contains a separator. -/
def StrategyTemplateKey.IsPlain (key : StrategyTemplateKey) : Prop :=
  ∀ field ∈ [key.protocol, key.primitive], ':' ∉ field.toList ∧ '|' ∉ field.toList

/-- Keys whose protocols and primitives contain no separator share no record, unless they are normalized to the same
one. -/
theorem keptApart_of_isPlain (hcollision : keccakHex first.lookupText = keccakHex second.lookupText →
      first.lookupText = second.lookupText) (hfirst : first.IsPlain) (hsecond : second.IsPlain)
    (hdiffer : first.normalized ≠ second.normalized) : KeptApart keccakHex first second := by
  rw [keptApart_iff hcollision]
  refine ⟨fun hid => hdiffer ?_, fun htext => hdiffer ?_⟩
  · have hjoined := congrArg String.toList hid
    rw [toList_strategyIdFromKey, toList_strategyIdFromKey] at hjoined
    exact congrArg StrategyTemplateKey.normalized (eq_of_joined ':' (by decide)
      (fun field hfield => (hfirst field hfield).1) (fun field hfield => (hsecond field hfield).1)
      hjoined)
  · have hjoined := congrArg String.toList htext
    rw [toList_lookupText, toList_lookupText] at hjoined
    have hplain : ∀ {key : StrategyTemplateKey}, key.IsPlain →
        ∀ field ∈ [key.normalized.protocol, key.normalized.primitive], '|' ∉ field.toList := by
      intro key hkey field hfield
      rcases List.mem_pair.mp hfield with rfl | rfl
      · exact notMem_normalized (by decide) (hkey _ List.mem_cons_self).2
      · exact notMem_normalized (by decide) (hkey _ (by simp)).2
    exact eq_of_joined '|' (by decide) (hplain hfirst) (hplain hsecond) hjoined

end Keys

/-- For every two keys whose digests do not collide: their spelling is irrelevant exactly when they
are spelled alike if they are normalized to the same one, and when their joined fields, as they are
spelled and normalized, are different texts if they are not. -/
theorem spelling_irrelevant_iff (keccakHex : String → String) (first second : StrategyTemplateKey)
    (hcollision : keccakHex first.lookupText = keccakHex second.lookupText →
      first.lookupText = second.lookupText) :
    SpellingIsIrrelevant keccakHex first second ↔
      (first.normalized = second.normalized → first = second) ∧
        (first.IsValid → second.IsValid → first.normalized ≠ second.normalized →
          strategyIdFromKey first ≠ strategyIdFromKey second ∧
            first.lookupText ≠ second.lookupText) := by
  constructor
  · rintro ⟨halike, hapart⟩
    refine ⟨fun hsame => ?_, fun hfirst hsecond hdiffer => ?_⟩
    · exact eq_of_strategyIdFromKey hsame (halike hsame).strategyId
    · exact (keptApart_iff hcollision).mp (hapart hfirst hsecond hdiffer)
  · rintro ⟨halike, hapart⟩
    refine ⟨fun hsame => ?_, fun hfirst hsecond hdiffer => ?_⟩
    · obtain rfl := halike hsame
      exact .refl keccakHex first
    · exact (keptApart_iff hcollision).mpr (hapart hfirst hsecond hdiffer)

/-- A key of the vault for another token. -/
def vaultUsdcKey : StrategyTemplateKey := ⟨"vault", "lend", 8453, "usdc"⟩

/-- The digests of the two keys of the vault. -/
def vaultKeccakHex (text : String) : String :=
  if text = "vault|lend|8453|eth" then
    "4be2ab84716d6d57a2cf244b2f814d1183bf9cc67f019ef642b6cf8c3e5da5d2"
  else if text = "vault|lend|8453|usdc" then
    "a5dd8e15df8047fea52e066fe3502a84cbf3220164d5c9f9fc08b76c008d9372"
  else ""

/-- The two keys of the vault are kept apart. -/
theorem vault_keys_apart : SpellingIsIrrelevant vaultKeccakHex vaultKey vaultUsdcKey := by
  have htexts : vaultKey.lookupText = "vault|lend|8453|eth" ∧
      vaultUsdcKey.lookupText = "vault|lend|8453|usdc" := by
    decide +kernel
  have hdigests : vaultKeccakHex "vault|lend|8453|eth" ≠ vaultKeccakHex "vault|lend|8453|usdc" := by
    decide +kernel
  refine (spelling_irrelevant_iff vaultKeccakHex vaultKey vaultUsdcKey ?_).mpr ⟨?_, ?_⟩
  · rw [htexts.1, htexts.2]
    exact fun hsame => absurd hsame hdigests
  · intro hsame
    exact absurd hsame (by decide +kernel)
  · intro _ _ _
    rw [htexts.1, htexts.2]
    exact ⟨by decide +kernel, by decide⟩

/-- A capital letter escapes the quarantine, and a colon in a field makes two keys one. -/
theorem spellings_matter :
    ¬ SpellingIsIrrelevant vaultKeccakHex vaultKey ⟨"Vault", "lend", 8453, "eth"⟩ ∧
      ¬ SpellingIsIrrelevant vaultKeccakHex ⟨"vault:lend", "pool", 8453, "eth"⟩
        ⟨"vault", "lend:pool", 8453, "eth"⟩ := by
  constructor
  · intro hirrelevant
    have hid := (hirrelevant.alike (by decide +kernel)).strategyId
    revert hid
    decide +kernel
  · intro hirrelevant
    refine hirrelevant.apart ?_ ?_ (by decide +kernel) .quarantine (by decide +kernel)
    · unfold StrategyTemplateKey.IsValid
      decide +kernel
    · unfold StrategyTemplateKey.IsValid
      decide +kernel

end Automaton.Strategy
