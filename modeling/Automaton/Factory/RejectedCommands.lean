import Automaton.Factory.StewardReplay

/-!
# Rejected commands of the steward

A command that is rejected leaves the factory as it was, but for an expiry that is due: a refund
command lets its session expire before it is checked further, and that stays.
-/

namespace Automaton.Factory

open Machine Persist

/-- Nonces, refunds in flight, their leases and the jobs are the same. -/
structure SameBookkeeping (s t : FactoryState) : Prop where
  nonces : t.stewardCommandNonces = s.stewardCommandNonces
  inFlight : t.stewardRefundsInFlight = s.stewardRefundsInFlight
  leases : t.stewardRefundLeases = s.stewardRefundLeases
  jobs : t.schedulerJobs = s.schedulerJobs

/-- The session is past its expiry, and expires. -/
def ExpiresOnRefund (sessionId : String) (nowMs : ℕ) (s t : FactoryState) : Prop :=
  ∃ session, s.sessions[sessionId]? = some session ∧ session.state ≠ .complete ∧
    session.state ≠ .expired ∧ session.paymentStatus ≠ .refunded ∧ session.expiresAt < nowMs ∧
    t = s.entered sessionId session ⟨some session.state, .expired, false⟩ .user nowMs
      "refund requested by verified EVM steward"

section Commands

variable {s t : FactoryState} {sessionId : String} {nowMs : ℕ} {error : FactoryError}
  {actor : SessionAuditActor} {event : SpawnSessionEvent} {reason : String}

/-- An event that is refused changes nothing. -/
theorem eq_of_event_rejected
    (h : applySessionEventInState sessionId actor nowMs event reason s = .error error t) :
    t = s := by
  rcases applySessionEventInState_cases sessionId actor nowMs event reason s with
    ⟨e, hrun⟩ | ⟨session, hrun, -⟩ | ⟨session, transition, -, -, hrun⟩
  · rw [hrun] at h
    exact (EStateM.Result.error.inj h).2.symm
  · rw [hrun] at h
    cases h
  · rw [hrun] at h
    cases h

/-- A retry that is refused changes nothing. -/
theorem eq_of_retry_rejected
    (h : retrySpawnSessionInState sessionId actor nowMs reason s = .error error t) : t = s := by
  rcases run_bind_eq_error.mp h with hevent | ⟨session, u, -, hrest⟩
  · exact eq_of_event_rejected hevent
  · cases hrest

/-- A nonce that is not the last one can be consumed. -/
theorem consumeNonce_not_rejected (hnonce : s.stewardNonce sessionId < u64Max) :
    consumeNonce sessionId s ≠ .error error t := by
  intro h
  have hnext : checkedAdd u64Max (s.stewardNonce sessionId) 1 =
      some (s.stewardNonce sessionId + 1) := checkedAdd_eq_some.mpr ⟨hnonce, rfl⟩
  rw [consumeNonce, run_bind, run_get] at h
  dsimp only at h
  rw [hnext] at h
  cases h

/-- A rejected retry command changes nothing. -/
theorem eq_of_authorizeRetry_rejected (hnonce : s.stewardNonce sessionId < u64Max)
    (h : authorizeRetry sessionId nowMs s = .error error t) : t = s := by
  rcases run_bind_eq_error.mp h with hretry | ⟨session, u, hretry, hrest⟩
  · exact eq_of_retry_rejected hretry
  · have hsame : SameCommands s u := by
      rw [← after_of_ok hretry]
      exact SameCommands.of_onlySession (onlySession_retrySpawnSessionInState s)
    rw [← hsame.stewardNonce_eq sessionId] at hnonce
    rcases run_bind_eq_error.mp hrest with hconsume | ⟨_, v, -, hreturn⟩
    · exact absurd hconsume (consumeNonce_not_rejected hnonce)
    · cases hreturn

/-- The expiry before a refund: nothing, or an expiry that is due. -/
theorem expireForRefund_cases (sessionId : String) (nowMs : ℕ) (s : FactoryState) :
    (∃ error, expireForRefund sessionId nowMs s = .error error s) ∨
    expireForRefund sessionId nowMs s = .ok () s ∨
    sessionId ∉ s.stewardRefundsInFlight ∧ ∃ t, expireForRefund sessionId nowMs s = .ok () t ∧
      ExpiresOnRefund sessionId nowMs s t := by
  by_cases hflight : sessionId ∈ s.stewardRefundsInFlight
  · right
    left
    rw [expireForRefund, run_bind, run_get]
    exact run_when_neg (not_not.mpr hflight)
  · have hrun : expireForRefund sessionId nowMs s = (discard (expireSessionInState sessionId .user
        nowMs "refund requested by verified EVM steward") : Update PUnit) s := by
      rw [expireForRefund, run_bind, run_get]
      exact run_when_pos hflight
    rw [hrun, run_discard]
    unfold expireSessionInState
    rcases applySessionEventInState_cases sessionId .user nowMs .sessionExpired
        "refund requested by verified EVM steward" s with
      ⟨e, hevent⟩ | ⟨session, hevent, -⟩ | ⟨session, transition, hsession, htransition, hevent⟩
    · rw [hevent]
      exact .inl ⟨e, rfl⟩
    · rw [hevent]
      exact .inr (.inl rfl)
    · rw [hevent]
      refine .inr (.inr ⟨hflight, _, rfl, session, hsession, ?_⟩)
      simp only [eventTransition] at htransition
      split at htransition
      · cases htransition
      · rename_i hdue
        obtain rfl := Option.some.inj (Except.ok.inj htransition)
        simp only [not_or, not_le] at hdue
        exact ⟨hdue.1, hdue.2.1, hdue.2.2.1, hdue.2.2.2, rfl⟩

/-- The checks of a refund fail where they start. -/
theorem eq_of_ensureRefundable_rejected (h : ensureRefundable sessionId s = .error error t) :
    t = s := by
  have hchecks : Within (fun s t => t = s) (ensureRefundable sessionId) :=
    within_ensureRefundable (fun _ => rfl) fun h h' => h'.trans h
  have hsame := hchecks s
  rwa [after_of_error h] at hsame

theorem eq_of_ensureRefundable (h : ensureRefundable sessionId s = .ok () t) : t = s := by
  have hchecks : Within (fun s t => t = s) (ensureRefundable sessionId) :=
    within_ensureRefundable (fun _ => rfl) fun h h' => h'.trans h
  have hsame := hchecks s
  rwa [after_of_ok h] at hsame

/-- Nothing fails any more once a refund has passed its checks. -/
theorem acceptRefund_not_rejected (hnonce : s.stewardNonce sessionId < u64Max) :
    acceptRefund sessionId s ≠ .error error t := by
  intro h
  rw [acceptRefund, run_bind, run_get] at h
  dsimp only at h
  by_cases hflight : sessionId ∈ s.stewardRefundsInFlight
  · rw [run_when_neg (not_not.mpr hflight)] at h
    cases h
  · rw [run_when_pos hflight] at h
    rcases run_bind_eq_error.mp h with hconsume | ⟨_, u, -, hmark⟩
    · exact consumeNonce_not_rejected hnonce hconsume
    · cases hmark

/-- After the expiry a refund command fails with what the expiry has left. -/
theorem authorizeRefund_rejected_after {u : FactoryState} (generation : ℕ)
    (hnonce : u.stewardNonce sessionId < u64Max)
    (h : (do
        ensureRefundable sessionId
        acceptRefund sessionId
        modify (·.grantRefundLease sessionId generation nowMs)
        return generation : Update ℕ) u = .error error t) : t = u := by
  rcases run_bind_eq_error.mp h with hchecks | ⟨_, v, hchecks, hrest⟩
  · exact eq_of_ensureRefundable_rejected hchecks
  · obtain rfl := eq_of_ensureRefundable hchecks
    rcases run_bind_eq_error.mp hrest with haccept | ⟨_, w, -, hgrant⟩
    · exact absurd haccept (acceptRefund_not_rejected hnonce)
    · cases hgrant

/-- A rejected refund command leaves nothing, or an expiry that is due. -/
theorem authorizeRefund_rejected (hnonce : s.stewardNonce sessionId < u64Max)
    (h : authorizeRefund sessionId nowMs s = .error error t) :
    t = s ∨ sessionId ∉ s.stewardRefundsInFlight ∧ ExpiresOnRefund sessionId nowMs s t := by
  rw [authorizeRefund, run_bind, run_get] at h
  rcases run_bind_eq_error.mp h with hgeneration | ⟨generation, u, hgeneration, hrest⟩
  · exact .inl (run_ofExcept_eq_error.mp hgeneration).2.symm
  · have hsame : u = s := by
      cases hlease : refundGeneration s sessionId nowMs with
      | error e =>
        rw [hlease] at hgeneration
        cases hgeneration
      | ok generation' =>
        rw [hlease] at hgeneration
        exact (EStateM.Result.ok.inj hgeneration).2.symm
    subst hsame
    rcases expireForRefund_cases sessionId nowMs u with
      ⟨e, hexpiry⟩ | hexpiry | ⟨hflight, v, hexpiry, hdue⟩
    · rw [run_bind, hexpiry] at hrest
      exact .inl (EStateM.Result.error.inj hrest).2.symm
    · rw [run_bind, hexpiry] at hrest
      exact .inl (authorizeRefund_rejected_after generation hnonce hrest)
    · rw [run_bind, hexpiry] at hrest
      have hcommands : SameCommands u v := by
        have honly : OnlySession sessionId u (after (expireForRefund sessionId nowMs) u) :=
          onlySession_expireForRefund u
        rw [after_of_ok hexpiry] at honly
        exact SameCommands.of_onlySession honly
      have hnonce' : v.stewardNonce sessionId < u64Max := by
        rw [hcommands.stewardNonce_eq]
        exact hnonce
      obtain rfl : t = v := authorizeRefund_rejected_after generation hnonce' hrest
      exact .inr ⟨hflight, hdue⟩

end Commands

/-- A rejected command changes nothing, or it is a refund command whose proof is valid and whose
session expires, with its flags, the flag of its claim and an audit entry. Nonces, refunds in
flight, leases and jobs stay in either case, as does every other session. -/
theorem rejected_command_changes (externals : Externals) (command : FactoryStewardCommand)
    (proof : FactoryStewardProof) (canisterId : String) (nowNs nowMs : ℕ) (s t : FactoryState)
    (error : FactoryError) (hnonce : s.stewardNonce command.sessionId < u64Max)
    (h : authorizeAndConsume externals command proof canisterId nowNs nowMs s = .error error t) :
    (t = s ∨ command.isRefund = true ∧
      verifyStewardProof externals s command proof canisterId nowNs = .ok () ∧
      command.sessionId ∉ s.stewardRefundsInFlight ∧
      ExpiresOnRefund command.sessionId nowMs s t) ∧
    SameBookkeeping s t ∧ OnlySession command.sessionId s t := by
  have hchanges : t = s ∨ command.isRefund = true ∧
      verifyStewardProof externals s command proof canisterId nowNs = .ok () ∧
      command.sessionId ∉ s.stewardRefundsInFlight ∧
      ExpiresOnRefund command.sessionId nowMs s t := by
    unfold authorizeAndConsume at h
    rw [run_bind, run_get] at h
    dsimp only at h
    cases hproof : verifyStewardProof externals s command proof canisterId nowNs with
    | error e =>
      rw [hproof, run_bind, run_ofExcept_error] at h
      exact .inl (EStateM.Result.error.inj h).2.symm
    | ok _ =>
      rw [hproof, run_bind, run_ofExcept_ok] at h
      dsimp only at h
      cases command with
      | retrySpawnSession sessionId =>
        left
        rcases run_bind_eq_error.mp h with hretry | ⟨_, u, -, hreturn⟩
        · exact eq_of_authorizeRetry_rejected hnonce hretry
        · cases hreturn
      | claimSpawnRefund sessionId =>
        rcases run_bind_eq_error.mp h with hrefund | ⟨_, u, -, hreturn⟩
        · rcases authorizeRefund_rejected hnonce hrefund with hsame | ⟨hflight, hdue⟩
          · exact .inl hsame
          · exact .inr ⟨rfl, rfl, hflight, hdue⟩
        · cases hreturn
  refine ⟨hchanges, ?_⟩
  rcases hchanges with rfl | ⟨-, -, -, session, -, -, -, -, -, rfl⟩
  · exact ⟨⟨rfl, rfl, rfl, rfl⟩, OnlySession.refl _⟩
  · exact ⟨⟨rfl, rfl, rfl, rfl⟩, onlySession_entered _ _ _ _ _ _ _⟩

/-- A factory whose only session was never paid for. -/
def unpaidSample : FactoryState := after (createSample firstId 1) .default

/-- The proof of a refund command of its steward, just after the expiry. -/
def refundProof : FactoryStewardProof where
  chainId := 8453
  address := "0x3333333333333333333333333333333333333333"
  commandHash := factoryStewardCommandHash sampleLibraries.toExternals (.claimSpawnRefund firstId)
  nonce := 0
  expiresAtNs := 1860002000000
  signature := "0x"

/-- The refund command, at some time. -/
def refundUnpaid (nowMs : ℕ) : Update (SpawnSession ⊕ ℕ) :=
  authorizeAndConsume sampleLibraries.toExternals (.claimSpawnRefund firstId) refundProof "factory"
    (nowMs * 1000000) nowMs

/-- At its expiry the session is not due yet: the refund is rejected and changes nothing. -/
theorem refundUnpaid_early :
    ∃ error, refundUnpaid 1800001 unpaidSample = .error error unpaidSample := by
  have hnonce : unpaidSample.stewardNonce firstId < u64Max := by decide +kernel
  have hrejected : (outcome (refundUnpaid 1800001) unpaidSample).isOk = false := by decide +kernel
  have hexpiry : unpaidSample.sessions[firstId]?.map (·.expiresAt) = some 1800001 := by
    decide +kernel
  cases hresult : refundUnpaid 1800001 unpaidSample with
  | ok result t =>
    rw [outcome, hresult] at hrejected
    cases hrejected
  | error error t =>
    refine ⟨error, ?_⟩
    rcases (rejected_command_changes _ (.claimSpawnRefund firstId) _ _ _ _ _ t error hnonce
      hresult).1 with hsame | ⟨-, -, -, session, hsession, -, -, -, hdue, -⟩
    · rw [hsame]
    · have hstored : unpaidSample.sessions[firstId]? = some session := hsession
      rw [hstored, Option.map_some, Option.some_inj] at hexpiry
      omega

/-- After its expiry the refund is rejected, and the session has expired. -/
theorem refundUnpaid_expires : ¬ ∀ (s t : FactoryState) (error : FactoryError),
    refundUnpaid 1800002 s = .error error t → t = s := by
  intro hclaim
  obtain ⟨hrejected, hafter⟩ : (outcome (refundUnpaid 1800002) unpaidSample).isOk = false ∧
      (after (refundUnpaid 1800002) unpaidSample).sessions[firstId]?.map (·.state) =
        some .expired := by
    decide +kernel
  have hbefore : unpaidSample.sessions[firstId]?.map (·.state) = some .awaitingPayment := by
    decide +kernel
  cases hresult : refundUnpaid 1800002 unpaidSample with
  | ok result t =>
    rw [outcome, hresult] at hrejected
    cases hrejected
  | error error t =>
    have hsame : t = unpaidSample := hclaim unpaidSample t error hresult
    rw [after_of_error hresult, hsame, hbefore] at hafter
    cases hafter

end Automaton.Factory
