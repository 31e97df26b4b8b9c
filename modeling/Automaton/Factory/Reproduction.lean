import Automaton.Factory.Creation
import Automaton.SpawnProtocol.ConstitutionMutation
import Automaton.SpawnProtocol.Inheritance

/-!
# Reproduction sessions

An automaton that is old enough and rich enough asks for a child. The amounts of the settlement are
fixed when the session is admitted: what the child gets in the quote, the royalties in the
allocations.
-/

namespace Automaton.Factory

open Machine Persist SpawnProtocol

/-- `REPRODUCTION_MIN_AGE_MS`. -/
def reproductionMinAgeMs : ℕ := 7 * 24 * 60 * 60 * 1000

/-- `REPRODUCTION_COOLDOWN_MS`. -/
def reproductionCooldownMs : ℕ := 3 * 24 * 60 * 60 * 1000

/-- `REPRODUCTION_TERMINAL_RESERVE_USDC_RAW`. -/
def reproductionTerminalReserveUsdcRaw : ℕ := 10000000

/-- `REPRODUCTION_INFERENCE_RESERVE_USDC_RAW`. -/
def reproductionInferenceReserveUsdcRaw : ℕ := 10000000

/-- `REPRODUCTION_TOPUP_RESERVE_USDC_RAW`. -/
def reproductionTopupReserveUsdcRaw : ℕ := 10000000

/-- `REPRODUCTION_MIN_ENDOWMENT_USDC_RAW`. -/
def reproductionMinEndowmentUsdcRaw : ℕ := 25000000

/-- `REPRODUCTION_PARENT_ROYALTY_BPS`. -/
def reproductionParentRoyaltyBps : ℕ := 1000

/-- `REPRODUCTION_PROGENITOR_ROYALTY_BPS`. -/
def reproductionProgenitorRoyaltyBps : ℕ := 500

/-- `CreateReproductionSessionRequest`, without the balance that the child observed, which
admission ignores. -/
structure CreateReproductionSessionRequest where
  name : String
  parentConstitution : String
  childConstitution : String
  grossAmount : String
  memoryDowry : List MemoryDowryFact
  inheritedStrategyStats : List InheritedStrategyStat
  deriving DecidableEq, Repr

/-- The value of `royalty_amount`. -/
def royaltyValue (fee bps : ℕ) : ℕ := saturatingMul u128Max fee bps / 10000

/-- `royalty_amount`. -/
def royaltyAmount (fee bps : ℕ) : String := amountToString (royaltyValue fee bps)

/-- When the caller reproduced last. Sessions that expired do not count. -/
def lastReproductionAt (state : FactoryState) (caller : String) : Option ℕ :=
  ((state.sessions.toList.filter fun entry =>
    entry.2.origin = some (.reproductionOf caller) ∧ entry.2.state ≠ .expired).map
      (·.2.createdAt)).max?

/-- What admission reads of the state. -/
structure ReproductionParent where
  parent : SpawnedAutomatonRecord
  parentSession : SpawnSession
  platformFee : ℕ
  creationCost : ℕ
  lastReproductionAt : Option ℕ

/-- The first closure of `create_reproduction_session_with_verified_balance`. -/
def readReproductionParent (state : FactoryState) (caller : String) :
    Except FactoryError ReproductionParent :=
  match state.registry[caller]? with
  | none => .error (.unauthorizedReproduction caller)
  | some parent =>
    if parent.deathCause.isSome then .error (.unauthorizedReproduction caller)
    else
      match state.sessions[parent.sessionId]? with
      | none => .error (.sessionNotFound parent.sessionId)
      | some parentSession => do
        let platformFee ← parseAmount state.usdcFee
        let creationCost ← parseAmount state.usdcCreationCost
        return ⟨parent, parentSession, platformFee, creationCost, lastReproductionAt state caller⟩

/-- Age and cooldown. -/
def ensureReproductionAge (source : ReproductionParent) (nowMs : ℕ) : Except FactoryError Unit := do
  let age := nowMs - source.parent.createdAt
  if age < reproductionMinAgeMs then
    throw (.reproductionIneligible ("minimum age is " ++ toString reproductionMinAgeMs ++
      "ms; observed " ++ toString age ++ "ms"))
  match source.lastReproductionAt with
  | none => return ()
  | some last =>
    if nowMs - last < reproductionCooldownMs then
      throw (.reproductionIneligible "reproduction cooldown has not elapsed")

/-- The constitutions of parent and child. The hash of the parent's one is returned. -/
def ensureConstitutions (libraries : Libraries) (source : ReproductionParent)
    (parentConstitution childConstitution : String) : Except FactoryError String :=
  match source.parent.constitutionHash with
  | none => .error (.invalidReproduction "parent has no verified constitution hash")
  | some expectedParentHash =>
    if libraries.sha256Hex (Text.trim parentConstitution) ≠ expectedParentHash then
      .error (.invalidReproduction
        "parent constitution does not match the factory registry hash")
    else
      match validateConstitutionMutation .wasm32 (Text.trim parentConstitution)
          childConstitution with
      | .error reason => .error (.invalidReproduction reason)
      | .ok _ => .ok expectedParentHash

/-- The gross amount and the balance of the parent. -/
def ensureEndowment (source : ReproductionParent) (grossAmount : String)
    (verifiedParentUsdcBalance : ℕ) : Except FactoryError Unit := do
  let gross ← parseAmount grossAmount
  let minimumGross := saturatingAdd u128Max
    (saturatingAdd u128Max source.platformFee source.creationCost) reproductionMinEndowmentUsdcRaw
  if gross < minimumGross then
    throw (.reproductionIneligible
      ("gross payment must cover fee, creation, and child endowment: " ++
        amountToString minimumGross))
  let requiredSurplus := saturatingAdd u128Max (saturatingAdd u128Max
    (saturatingAdd u128Max gross reproductionTerminalReserveUsdcRaw)
      reproductionInferenceReserveUsdcRaw) reproductionTopupReserveUsdcRaw
  if verifiedParentUsdcBalance < requiredSurplus then
    throw (.reproductionIneligible ("factory-verified parent balance must retain terminal, " ++
      "inference, and top-up reserves after payment: required " ++
        amountToString requiredSurplus ++ ", observed " ++
          amountToString verifiedParentUsdcBalance))

/-- The royalties: one for the parent, one for its own parent, if there is one that is registered,
or for its steward. -/
def reproductionRoyalties (state : FactoryState) (source : ReproductionParent) :
    List RoyaltyAllocation :=
  let progenitor := source.parent.parentId.bind fun id => state.registry[id]?.map (·.evmAddress)
  [⟨source.parent.evmAddress, royaltyAmount source.platformFee reproductionParentRoyaltyBps, 1,
      "reproduction_fee"⟩,
    ⟨progenitor.getD source.parent.stewardAddress,
      royaltyAmount source.platformFee reproductionProgenitorRoyaltyBps, 2, "reproduction_fee"⟩]

/-- The checks of `create_reproduction_session_with_verified_balance`, with the request and the
origin that it passes on. -/
def admitReproduction (libraries : Libraries) (state : FactoryState) (caller : String)
    (request : CreateReproductionSessionRequest) (nowMs verifiedParentUsdcBalance : ℕ) :
    Except FactoryError (CreateSpawnSessionRequest × SessionOrigin) := do
  (validateInheritance request.memoryDowry request.inheritedStrategyStats).mapError
    .invalidReproduction
  let (_, childConstitution) ←
    (libraries.validateGenesis request.name request.childConstitution).mapError
      fun message => .invalidReproduction ("invalid child genesis: " ++ message)
  let source ← readReproductionParent state caller
  ensureReproductionAge source nowMs
  let expectedParentHash ←
    ensureConstitutions libraries source request.parentConstitution childConstitution
  ensureEndowment source request.grossAmount verifiedParentUsdcBalance
  let createRequest : CreateSpawnSessionRequest := {
    name := some request.name
    constitution := some childConstitution
    stewardAddress := source.parent.evmAddress
    asset := .usdc
    grossAmount := request.grossAmount
    parentId := some caller
    config := source.parentSession.config }
  return (createRequest, {
    origin := .reproductionOf caller
    generation := saturatingAdd u32Max (source.parent.generation.getD 0) 1
    parentConstitutionHash := some expectedParentHash
    royaltyAllocations := reproductionRoyalties state source })

/-- The last closure of `create_reproduction_session_with_verified_balance`. -/
def FactoryState.retainChildIds (state : FactoryState) (caller : String) : FactoryState :=
  { state with registry := state.registry.modify caller fun parent =>
      { parent with childIds := parent.childIds.filter (· ≠ "") } }

/-- `create_reproduction_session_with_verified_balance`. -/
def createReproductionSessionWithVerifiedBalance (libraries : Libraries) (caller : String)
    (request : CreateReproductionSessionRequest) (nowMs : ℕ) (sessionId : String)
    (verifiedParentUsdcBalance : ℕ) : Update SpawnSession := do
  let (createRequest, origin) ← ofExcept (admitReproduction libraries (← get) caller request nowMs
    verifiedParentUsdcBalance)
  let session ← createSpawnSessionWithSessionId libraries.toSessionExternals createRequest
    sessionId origin nowMs
  modify (·.retainChildIds caller)
  return session

end Automaton.Factory
