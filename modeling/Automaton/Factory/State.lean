import Automaton.Factory.Types
import Automaton.Library.Persist
import Automaton.Library.Text

/-!
# State of the factory

The part of `FactoryState` that sessions, payments, refunds and spawns read and write.
`write_state` stores what its closure wrote even when the closure returns an error, so an
update keeps its writes when it fails.
-/

namespace Automaton.Factory

open Persist

/-- `RefundCommandLease`. -/
structure RefundCommandLease where
  generation : ℕ
  expiresAtMs : ℕ
  deriving DecidableEq, Repr

/-- `AutomatonChildRuntimeConfig`, as far as the factory reads it itself. -/
structure AutomatonChildRuntimeConfig where
  ecdsaKeyName : Option String
  evmChainId : Option ℕ
  evmRpcUrl : Option String
  inferenceProxyTrustedCallbackPrincipal : Option String
  deriving DecidableEq, Repr

/-- `FactoryState`. -/
structure FactoryState where
  sessions : BTreeMap String SpawnSession
  escrowClaims : BTreeMap String EscrowClaim
  registry : BTreeMap String SpawnedAutomatonRecord
  runtimes : BTreeMap String AutomatonRuntimeState
  auditLog : BTreeMap String (List SessionAuditEntry)
  schedulerJobs : BTreeMap String SchedulerJob
  usdcFee : String
  usdcCreationCost : String
  releaseBroadcastConfig : ReleaseBroadcastConfig
  childRuntime : AutomatonChildRuntimeConfig
  pause : Bool
  nextSessionNonce : ℕ
  nextReleaseNonce : Option ℕ
  stewardCommandNonces : BTreeMap String ℕ
  stewardRefundsInFlight : BTreeMap String Unit
  stewardRefundLeases : BTreeMap String RefundCommandLease
  paymentAddress : String
  escrowContractAddress : String
  paymentLastScannedBlock : Option ℕ
  factoryEvmAddress : Option String
  factoryEvmAddressDerivedAt : Option ℕ
  baseRpcEndpoint : Option String
  baseRpcFallbackEndpoint : Option String
  cyclesPerSpawn : ℕ
  evmConfirmationDepth : ℕ
  wasmLoaded : Bool
  adminPrincipals : List String
  sessionTtlMs : ℕ
  versionCommit : String

/-- `FactoryState::default`. -/
def FactoryState.default : FactoryState where
  sessions := ∅
  escrowClaims := ∅
  registry := ∅
  runtimes := ∅
  auditLog := ∅
  schedulerJobs := ∅
  usdcFee := "5000000"
  usdcCreationCost := "45000000"
  releaseBroadcastConfig := .default
  childRuntime := ⟨none, none, none, none⟩
  pause := false
  nextSessionNonce := 0
  nextReleaseNonce := none
  stewardCommandNonces := ∅
  stewardRefundsInFlight := ∅
  stewardRefundLeases := ∅
  paymentAddress := "0x1111111111111111111111111111111111111111"
  escrowContractAddress := "0x2222222222222222222222222222222222222222"
  paymentLastScannedBlock := none
  factoryEvmAddress := none
  factoryEvmAddressDerivedAt := none
  baseRpcEndpoint := none
  baseRpcFallbackEndpoint := none
  cyclesPerSpawn := 0
  evmConfirmationDepth := 12
  wasmLoaded := false
  adminPrincipals := ["admin"]
  sessionTtlMs := 30 * 60 * 1000
  versionCommit := "dev-build"

/-- A closure of `write_state`. -/
abbrev Update := EStateM FactoryError FactoryState

/-- `sessions.get_mut` on a session that may be absent. -/
@[simps]
def FactoryState.updateSession (state : FactoryState) (sessionId : String)
    (f : SpawnSession → SpawnSession) : FactoryState :=
  { state with sessions := state.sessions.modify sessionId f }

/-- `escrow_claims.get_mut` on a claim that may be absent. -/
@[simps]
def FactoryState.updateClaim (state : FactoryState) (sessionId : String)
    (f : EscrowClaim → EscrowClaim) : FactoryState :=
  { state with escrowClaims := state.escrowClaims.modify sessionId f }

/-- Two updates of one session are one update. -/
theorem FactoryState.updateSession_updateSession (state : FactoryState) (sessionId : String)
    (f g : SpawnSession → SpawnSession) :
    (state.updateSession sessionId f).updateSession sessionId g =
      state.updateSession sessionId (g ∘ f) := by
  simp only [updateSession, BTreeMap.modify_modify]

/-- The session, or the error that it is not there. -/
def getSession (sessionId : String) : Update SpawnSession := do
  match (← get).sessions[sessionId]? with
  | some session => return session
  | none => throw (.sessionNotFound sessionId)

/-- The escrow claim, or the error that it is not there. -/
def getClaim (sessionId : String) : Update EscrowClaim := do
  match (← get).escrowClaims[sessionId]? with
  | some claim => return claim
  | none => throw (.escrowClaimNotFound sessionId)

/-- `MAX_AUDIT_ENTRIES_PER_SESSION`. -/
def maxAuditEntriesPerSession : ℕ := 100

/-- `record_session_audit`: appends and keeps the newest entries. -/
@[simps]
def FactoryState.recordSessionAudit (state : FactoryState) (entry : SessionAuditEntry) :
    FactoryState :=
  let entries := state.auditLog[entry.sessionId]?.getD [] ++ [entry]
  let kept := entries.drop (entries.length - maxAuditEntriesPerSession)
  { state with auditLog := state.auditLog.insert entry.sessionId kept }

/-- `configured_rpc_endpoints`: the endpoints that are set and not blank, each once. -/
def configuredRpcEndpoints (primary fallback : Option String) : List String :=
  (primary.toList ++ fallback.toList).foldl
    (fun endpoints candidate =>
      let endpoint := Text.trim candidate
      if endpoint = "" ∨ endpoint ∈ endpoints then endpoints else endpoints ++ [endpoint]) []

section Runs

variable {state : FactoryState} {sessionId : String} {session : SpawnSession}
  {claim : EscrowClaim}

/-- Reading a session that is there. -/
theorem run_getSession (h : state.sessions[sessionId]? = some session) :
    getSession sessionId state = .ok session state := by
  rw [getSession, run_bind, run_get]
  simp only [h]
  rfl

/-- Reading a session that is not there. -/
theorem run_getSession_none (h : state.sessions[sessionId]? = none) :
    getSession sessionId state = .error (.sessionNotFound sessionId) state := by
  rw [getSession, run_bind, run_get]
  simp only [h]
  rfl

/-- Reading a claim that is there. -/
theorem run_getClaim (h : state.escrowClaims[sessionId]? = some claim) :
    getClaim sessionId state = .ok claim state := by
  rw [getClaim, run_bind, run_get]
  simp only [h]
  rfl

/-- Reading a claim that is not there. -/
theorem run_getClaim_none (h : state.escrowClaims[sessionId]? = none) :
    getClaim sessionId state = .error (.escrowClaimNotFound sessionId) state := by
  rw [getClaim, run_bind, run_get]
  simp only [h]
  rfl

/-- Reading a session changes nothing. -/
@[simp] theorem after_getSession : after (getSession sessionId) state = state := by
  cases h : state.sessions[sessionId]? with
  | none => exact after_of_error (run_getSession_none h)
  | some session => exact after_of_ok (run_getSession h)

/-- Reading a claim changes nothing. -/
@[simp] theorem after_getClaim : after (getClaim sessionId) state = state := by
  cases h : state.escrowClaims[sessionId]? with
  | none => exact after_of_error (run_getClaim_none h)
  | some claim => exact after_of_ok (run_getClaim h)

/-- Reading a session stays within a reflexive relation. -/
theorem within_getSession {R : FactoryState → FactoryState → Prop} (hrefl : ∀ s, R s s) :
    Within R (getSession sessionId) := by
  intro s
  rw [after_getSession]
  exact hrefl s

/-- Reading a claim stays within a reflexive relation. -/
theorem within_getClaim {R : FactoryState → FactoryState → Prop} (hrefl : ∀ s, R s s) :
    Within R (getClaim sessionId) := by
  intro s
  rw [after_getClaim]
  exact hrefl s

end Runs

end Automaton.Factory
