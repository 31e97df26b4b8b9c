import Mathlib.Tactic

/-!
# The tool sequence validator

The validator remembers whether the last call has read untrusted content, and refuses a sensitive
tool then. It asks first whether a tool is a source of untrusted content, and a refusal makes it
forget.
-/

namespace Automaton.Agent

/-- `SENSITIVE_TOOLS`. -/
def sensitiveTools : List String := [
  "send_eth",
  "sign_message",
  "broadcast_transaction",
  "update_prompt_layer",
  "register_strategy",
  "canister_call"]

/-- `UNTRUSTED_OUTPUT_TOOLS`. -/
def untrustedOutputTools : List String := ["http_fetch", "web_search", "canister_call"]

/-- `ToolSequenceValidator`. -/
structure ToolSequenceValidator where
  lastUntrustedSource : Option String

namespace ToolSequenceValidator

/-- `ToolSequenceValidator::new`. -/
def new : ToolSequenceValidator := ⟨none⟩

/-- `ToolSequenceValidator::mark_untrusted_source`. -/
def markUntrustedSource (_ : ToolSequenceValidator) (source : String) : ToolSequenceValidator :=
  ⟨some source⟩

/-- The error of a refused call. -/
def blocked (toolName previous : String) : String :=
  "blocked: sensitive tool `" ++ toolName ++
    "` called immediately after untrusted-content source `" ++ previous ++
    "`; possible prompt injection"

/-- `ToolSequenceValidator::validate_next`. -/
def validateNext (validator : ToolSequenceValidator) (toolName : String) :
    Except String Unit × ToolSequenceValidator :=
  if toolName ∈ untrustedOutputTools then (.ok (), ⟨some toolName⟩)
  else
    match validator.lastUntrustedSource with
    | none => (.ok (), validator)
    | some previous =>
      if toolName ∈ sensitiveTools then (.error (blocked toolName previous), ⟨none⟩)
      else (.ok (), ⟨none⟩)

/-- The calls that are accepted when tools are passed one after another. -/
def accepted (validator : ToolSequenceValidator) : List String → List String
  | [] => []
  | toolName :: rest =>
    let (result, next) := validator.validateNext toolName
    if result.isOk then toolName :: next.accepted rest else next.accepted rest

end ToolSequenceValidator

/-- No source of untrusted content has a sensitive tool directly after it. -/
def SensitiveSeparated : List String → Prop :=
  List.IsChain fun previous next => ¬ (previous ∈ untrustedOutputTools ∧ next ∈ sensitiveTools)

/-- A sensitive tool directly after a source of untrusted content is not such a source itself, and
no sensitive tool is directly after it. -/
def TriedOnce (tools : List String) : Prop :=
  ∀ (i : ℕ) (source tool : String), tools[i]? = some source → source ∈ untrustedOutputTools →
    tools[i + 1]? = some tool → tool ∈ sensitiveTools →
    tool ∉ untrustedOutputTools ∧ ∀ again, tools[i + 2]? = some again → again ∉ sensitiveTools

section Validator

variable {validator : ToolSequenceValidator} {tool source previous : String} {rest : List String}

open ToolSequenceValidator

theorem triedOnce_nil : TriedOnce [] := by
  intro i source tool hsource
  simp at hsource

/-- The condition looks at the first three calls and at the calls after the first. -/
theorem triedOnce_cons : TriedOnce (source :: rest) ↔
    (source ∈ untrustedOutputTools → ∀ tool, rest[0]? = some tool → tool ∈ sensitiveTools →
      tool ∉ untrustedOutputTools ∧ ∀ again, rest[1]? = some again → again ∉ sensitiveTools) ∧
    TriedOnce rest := by
  constructor
  · intro h
    constructor
    · intro hsource tool htool hsensitive
      exact h 0 source tool rfl hsource htool hsensitive
    · intro i first second hfirst hsource hsecond hsensitive
      exact h (i + 1) first second hfirst hsource hsecond hsensitive
  · rintro ⟨hhead, hrest⟩ i first second hfirst hsource hsecond hsensitive
    cases i with
    | zero =>
      obtain rfl := Option.some.inj hfirst
      exact hhead hsource second hsecond hsensitive
    | succ i => exact hrest i first second hfirst hsource hsecond hsensitive

theorem triedOnce_cons_trusted (htrusted : source ∉ untrustedOutputTools) :
    TriedOnce (source :: rest) ↔ TriedOnce rest := by
  rw [triedOnce_cons]
  exact ⟨And.right, fun h => ⟨fun hsource => absurd hsource htrusted, h⟩⟩

theorem separated_cons_trusted (htrusted : source ∉ untrustedOutputTools) :
    SensitiveSeparated (source :: rest) ↔ SensitiveSeparated rest := by
  unfold SensitiveSeparated
  rw [List.isChain_cons]
  exact ⟨And.right, fun h => ⟨fun next _ hboth => htrusted hboth.1, h⟩⟩

theorem separated_cons_cons (hsource : source ∈ untrustedOutputTools) :
    SensitiveSeparated (source :: tool :: rest) ↔
      tool ∉ sensitiveTools ∧ SensitiveSeparated (tool :: rest) := by
  unfold SensitiveSeparated
  rw [List.isChain_cons_cons]
  simp [hsource]

/-- A source of untrusted content is accepted. -/
theorem accepted_untrusted (htool : tool ∈ untrustedOutputTools) :
    validator.accepted (tool :: rest) = tool :: accepted ⟨some tool⟩ rest := by
  simp [accepted, validateNext, htool, Except.isOk, Except.toBool]

/-- After untrusted content a sensitive tool that is no source of it is refused. -/
theorem accepted_blocked (htrusted : tool ∉ untrustedOutputTools)
    (hsensitive : tool ∈ sensitiveTools) :
    accepted ⟨some previous⟩ (tool :: rest) = accepted ⟨none⟩ rest := by
  simp [accepted, validateNext, htrusted, hsensitive, Except.isOk, Except.toBool]

/-- Every other tool is accepted and makes the validator forget. -/
theorem accepted_trusted (htrusted : tool ∉ untrustedOutputTools)
    (hok : validator.lastUntrustedSource = none ∨ tool ∉ sensitiveTools) :
    validator.accepted (tool :: rest) = tool :: accepted ⟨none⟩ rest := by
  obtain ⟨_ | previous⟩ := validator
  · simp [accepted, validateNext, htrusted, Except.isOk, Except.toBool]
  · have hplain : tool ∉ sensitiveTools := hok.resolve_left (by simp)
    simp [accepted, validateNext, htrusted, hplain, Except.isOk, Except.toBool]

/-- A validator that has forgotten a source lets the next call pass. -/
theorem separated_forgotten (hsource : source ∈ untrustedOutputTools) {tools : List String} :
    SensitiveSeparated (source :: accepted ⟨none⟩ tools) ↔
      (∀ tool, tools[0]? = some tool → tool ∉ sensitiveTools) ∧
        SensitiveSeparated (accepted ⟨none⟩ tools) := by
  cases tools with
  | nil => simp [accepted, SensitiveSeparated]
  | cons tool rest =>
    have hpasses : ∃ next, accepted ⟨none⟩ (tool :: rest) = tool :: next := by
      by_cases htool : tool ∈ untrustedOutputTools
      · exact ⟨_, accepted_untrusted htool⟩
      · exact ⟨_, accepted_trusted htool (.inl rfl)⟩
    obtain ⟨next, hnext⟩ := hpasses
    rw [hnext, separated_cons_cons hsource]
    simp

/-- The calls accepted by a validator, also after a source that it remembers. -/
theorem separated_accepted (tools : List String) :
    (∀ validator : ToolSequenceValidator,
      SensitiveSeparated (validator.accepted tools) ↔ TriedOnce tools) ∧
    ∀ source ∈ untrustedOutputTools, ∀ previous,
      SensitiveSeparated (source :: accepted ⟨some previous⟩ tools) ↔
        TriedOnce (source :: tools) := by
  induction tools with
  | nil =>
    constructor
    · intro validator
      simp [accepted, SensitiveSeparated, triedOnce_nil]
    · intro source hsource previous
      simp [accepted, SensitiveSeparated, triedOnce_cons, triedOnce_nil]
  | cons tool rest ih =>
    obtain ⟨ihfree, ihafter⟩ := ih
    constructor
    · intro validator
      by_cases htool : tool ∈ untrustedOutputTools
      · rw [accepted_untrusted htool]
        exact ihafter tool htool tool
      · rw [triedOnce_cons_trusted htool]
        by_cases hok : validator.lastUntrustedSource = none ∨ tool ∉ sensitiveTools
        · rw [accepted_trusted htool hok, separated_cons_trusted htool]
          exact ihfree ⟨none⟩
        · obtain ⟨_ | previous⟩ := validator
          · exact absurd (.inl rfl) hok
          · have hsensitive : tool ∈ sensitiveTools := by
              by_contra hplain
              exact hok (.inr hplain)
            rw [accepted_blocked htool hsensitive]
            exact ihfree ⟨none⟩
    · intro source hsource previous
      rw [triedOnce_cons]
      by_cases htool : tool ∈ untrustedOutputTools
      · rw [accepted_untrusted htool, separated_cons_cons hsource, ihafter tool htool tool]
        simp [hsource, htool]
      · by_cases hsensitive : tool ∈ sensitiveTools
        · -- The refusal makes the validator forget, so a second try passes.
          rw [accepted_blocked htool hsensitive, separated_forgotten hsource, ihfree ⟨none⟩,
            triedOnce_cons_trusted htool]
          simp [hsource, htool, hsensitive]
        · rw [accepted_trusted htool (.inr hsensitive), separated_cons_cons hsource,
            separated_cons_trusted htool, ihfree ⟨none⟩, triedOnce_cons_trusted htool]
          simp [hsource, hsensitive]

end Validator

/-- No accepted source of untrusted content has an accepted sensitive tool directly after it,
exactly when the sensitive tools that follow such sources are tried once and are none
themselves. -/
theorem sensitive_separated_iff (validator : ToolSequenceValidator) (tools : List String) :
    SensitiveSeparated (validator.accepted tools) ↔ TriedOnce tools :=
  (separated_accepted tools).1 validator

theorem fetchThenCall_not_separated : ¬ SensitiveSeparated
    (ToolSequenceValidator.new.accepted ["http_fetch", "canister_call"]) := by
  rw [(by decide : ToolSequenceValidator.new.accepted ["http_fetch", "canister_call"] =
    ["http_fetch", "canister_call"])]
  simp [SensitiveSeparated, untrustedOutputTools, sensitiveTools]

end Automaton.Agent
