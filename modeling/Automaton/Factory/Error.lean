/-!
# Errors of the factory

The variants of `FactoryError` that the modelled functions return, and the
enumerations that occur in them.
-/

namespace Automaton.Factory

/-- `SpawnSessionState`. -/
inductive SpawnSessionState
  | awaitingPayment
  | paymentDetected
  | spawning
  | broadcastingRelease
  | complete
  | failed
  | expired
  deriving DecidableEq, Repr

/-- `PaymentStatus`. The second one is `Partial` in the source. -/
inductive PaymentStatus
  | unpaid
  | partiallyPaid
  | paid
  | refunded
  deriving DecidableEq, Repr

/-- `RpcFailureCategory`. -/
inductive RpcFailureCategory
  | transport
  | malformedResponse
  | responseTooLarge
  | rateLimited
  | unavailable
  | upstream
  deriving DecidableEq, Repr

/-- `FactoryError`, with the fields of each variant in the order of the source. -/
inductive FactoryError
  | factoryPaused (pause : Bool)
  | invalidAmount (value : String)
  | grossBelowRequiredMinimum (provided required : String)
  | sessionNotFound (sessionId : String)
  | escrowClaimNotFound (sessionId : String)
  | registryRecordNotFound (canisterId : String)
  | invalidReproduction (reason : String)
  | unauthorizedReproduction (caller : String)
  | reproductionIneligible (reason : String)
  | unauthorizedAdmin (caller : String)
  | unauthorizedSteward (caller sessionId : String)
  | invalidStewardProof (reason : String)
  | paymentNotSettled (sessionId : String) (status : PaymentStatus)
  | sessionExpired (sessionId : String) (expiresAt : Nat)
  | illegalSessionTransition (sessionId : String) (fromState : SpawnSessionState) (event : String)
  | sessionNotRetryable (sessionId : String) (state : SpawnSessionState)
  | sessionNotRefundable (sessionId : String) (state : SpawnSessionState)
      (paymentStatus : PaymentStatus)
  | sessionNotReadyForSpawn (sessionId : String) (state : SpawnSessionState)
  | controllerInvariantViolation (canisterId : String)
  | automatonBootstrapVerificationFailed (canisterId : String) (failures : List String)
  | automatonRuntimeNotFound (canisterId : String)
  | missingChildRuntimeConfig (field : String)
  | invalidChildRuntimeConfig (field message : String)
  | managementCallFailed (method message : String)
  | rpcRequestFailed (operation endpoint : String) (category : RpcFailureCategory)
      (code : Option Int) (message : String)
  | insufficientCyclesPool (available required : Nat)
  | insufficientCyclesForOperation (operation : String) (available required : Nat)
  deriving DecidableEq, Repr

end Automaton.Factory
