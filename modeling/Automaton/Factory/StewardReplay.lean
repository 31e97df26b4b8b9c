import Automaton.Factory.SessionEvolution
import Automaton.Factory.Writes

/-!
# Steward commands are not replayed

What a whole run of the factory keeps of the nonces of the stewards. A nonce is written only
where a command is accepted, by one more than it was, and a proof names the nonce that it
finds. So the proof of a retry, which consumes its nonce, is not accepted again, however many
other writes come between.
-/

namespace Automaton.Factory

open Machine Persist

/-- What a command may change outside its own session: no session, no claim, no nonce. -/
structure OthersUntouched (sessionId : String) (s t : FactoryState) : Prop where
  sessions : ∀ other, other ≠ sessionId → t.sessions[other]? = s.sessions[other]?
  claims : ∀ other, other ≠ sessionId → t.escrowClaims[other]? = s.escrowClaims[other]?
  nonces : ∀ other, other ≠ sessionId →
    t.stewardCommandNonces[other]? = s.stewardCommandNonces[other]?

namespace OthersUntouched

variable {s t u : FactoryState} {sessionId : String}

protected theorem refl (s : FactoryState) : OthersUntouched sessionId s s :=
  ⟨fun _ _ => rfl, fun _ _ => rfl, fun _ _ => rfl⟩

protected theorem trans (h : OthersUntouched sessionId s t) (h' : OthersUntouched sessionId t u) :
    OthersUntouched sessionId s u where
  sessions other hother := (h'.sessions other hother).trans (h.sessions other hother)
  claims other hother := (h'.claims other hother).trans (h.claims other hother)
  nonces other hother := (h'.nonces other hother).trans (h.nonces other hother)

/-- Writes to other parts of the state. -/
theorem of_eq (hsessions : t.sessions = s.sessions) (hclaims : t.escrowClaims = s.escrowClaims)
    (hnonces : t.stewardCommandNonces = s.stewardCommandNonces) :
    OthersUntouched sessionId s t := by
  refine ⟨fun _ _ => ?_, fun _ _ => ?_, fun _ _ => ?_⟩
  · rw [hsessions]
  · rw [hclaims]
  · rw [hnonces]

/-- An operation on the session. -/
theorem of_onlySession (h : OnlySession sessionId s t) : OthersUntouched sessionId s t where
  sessions := h.sessions
  claims := h.claims
  nonces _ _ := by rw [h.frame]

end OthersUntouched

/-- Neither nonces nor the commands in flight differ. -/
structure SameCommands (s t : FactoryState) : Prop where
  nonces : t.stewardCommandNonces = s.stewardCommandNonces
  inFlight : t.stewardRefundsInFlight = s.stewardRefundsInFlight

namespace SameCommands

variable {s t u : FactoryState}

protected theorem refl (s : FactoryState) : SameCommands s s := ⟨rfl, rfl⟩

protected theorem trans (h : SameCommands s t) (h' : SameCommands t u) : SameCommands s u :=
  ⟨h'.nonces.trans h.nonces, h'.inFlight.trans h.inFlight⟩

theorem of_onlySession {sessionId : String} (h : OnlySession sessionId s t) : SameCommands s t := by
  constructor
  · rw [h.frame]
  · rw [h.frame]

theorem of_sameButJobs (h : SameButJobs s t) : SameCommands s t := by
  obtain ⟨jobs, rfl⟩ := h
  exact ⟨rfl, rfl⟩

theorem stewardNonce_eq (h : SameCommands s t) (sessionId : String) :
    t.stewardNonce sessionId = s.stewardNonce sessionId := by
  rw [FactoryState.stewardNonce, h.nonces, FactoryState.stewardNonce]

end SameCommands

section Commands

variable {s t : FactoryState} {sessionId : String} {nowMs nowNs : ℕ} {reason : String}
  {actor : SessionAuditActor} {externals : Externals}

/-- The expiry before a refund is an operation on its session. -/
theorem onlySession_expireForRefund :
    Within (OnlySession sessionId) (expireForRefund sessionId nowMs) := by
  refine Within.bind OnlySession.trans (Within.get OnlySession.refl) fun state => ?_
  exact Within.when OnlySession.refl
    (Within.discard OnlySession.refl OnlySession.trans within_applySessionEventInState)

/-- The checks of a refund change nothing. -/
theorem within_ensureRefundable {R : FactoryState → FactoryState → Prop} (hrefl : ∀ s, R s s)
    (htrans : ∀ {s t u}, R s t → R t u → R s u) : Within R (ensureRefundable sessionId) := by
  refine Within.bind htrans (within_getSession hrefl) fun session => ?_
  refine Within.bind htrans (within_getClaim hrefl) fun claim => ?_
  split
  · exact Within.throw hrefl _
  · exact Within.pure hrefl _

/-- A nonce that is consumed is followed by the next one. -/
theorem stewardNonce_consumeNonce (h : outcome (consumeNonce sessionId) s = .ok ()) :
    (after (consumeNonce sessionId) s).stewardNonce sessionId = s.stewardNonce sessionId + 1 := by
  rw [consumeNonce, outcome_bind_of_ok outcome_get, after_get] at h
  rw [consumeNonce, after_bind_of_ok outcome_get, after_get]
  cases hnext : checkedAdd u64Max (s.stewardNonce sessionId) 1 with
  | none =>
    rw [hnext] at h
    cases h
  | some next =>
    simp only [after_modify, FactoryState.stewardNonce, BTreeMap.get?_insert, if_true,
      Option.getD_some]
    exact (checkedAdd_eq_some.mp hnext).2.symm

/-- Consuming a nonce touches nothing of another session. -/
theorem othersUntouched_consumeNonce :
    Within (OthersUntouched sessionId) (consumeNonce sessionId) := by
  refine Within.bind OthersUntouched.trans (Within.get OthersUntouched.refl) fun state => ?_
  split
  · exact Within.throw OthersUntouched.refl _
  · refine Within.modify fun s => ⟨fun _ _ => rfl, fun _ _ => rfl, fun other hother => ?_⟩
    simp [BTreeMap.get?_insert, hother.symm]

/-- No command touches anything of another session. -/
theorem othersUntouched_authorizeAndConsume {command : FactoryStewardCommand}
    {proof : FactoryStewardProof} {canisterId : String} :
    Within (OthersUntouched command.sessionId)
      (authorizeAndConsume externals command proof canisterId nowNs nowMs) := by
  have honly : ∀ {α : Type} {sessionId : String} {m : Update α},
      Within (OnlySession sessionId) m → Within (OthersUntouched sessionId) m :=
    fun h s => OthersUntouched.of_onlySession (h s)
  refine Within.bind OthersUntouched.trans (Within.get OthersUntouched.refl) fun state => ?_
  refine Within.bind OthersUntouched.trans (Within.ofExcept OthersUntouched.refl _) fun _ => ?_
  cases command with
  | retrySpawnSession sessionId =>
    refine Within.map OthersUntouched.trans OthersUntouched.refl ?_
    refine Within.bind OthersUntouched.trans (honly onlySession_retrySpawnSessionInState)
      fun _ => ?_
    exact Within.bind OthersUntouched.trans othersUntouched_consumeNonce fun _ =>
      Within.pure OthersUntouched.refl _
  | claimSpawnRefund sessionId =>
    refine Within.map OthersUntouched.trans OthersUntouched.refl ?_
    refine Within.bind OthersUntouched.trans (Within.get OthersUntouched.refl) fun state => ?_
    refine Within.bind OthersUntouched.trans (Within.ofExcept OthersUntouched.refl _) fun _ => ?_
    refine Within.bind OthersUntouched.trans (honly onlySession_expireForRefund) fun _ => ?_
    refine Within.bind OthersUntouched.trans
      (within_ensureRefundable OthersUntouched.refl OthersUntouched.trans) fun _ => ?_
    refine Within.bind OthersUntouched.trans ?_ fun _ => ?_
    · refine Within.bind OthersUntouched.trans (Within.get OthersUntouched.refl) fun _ => ?_
      refine Within.when OthersUntouched.refl ?_
      exact Within.bind OthersUntouched.trans othersUntouched_consumeNonce fun _ =>
        Within.modify fun s => OthersUntouched.of_eq rfl rfl rfl
    · exact Within.bind OthersUntouched.trans
        (Within.modify fun s => OthersUntouched.of_eq rfl rfl rfl) fun _ =>
          Within.pure OthersUntouched.refl _

end Commands


section Acceptance

variable {s t : FactoryState} {sessionId : String} {nowMs nowNs : ℕ} {externals : Externals}
  {command : FactoryStewardCommand} {proof : FactoryStewardProof} {canisterId : String}

/-- The command takes up a refund that has been accepted before. -/
def FactoryStewardCommand.Resumes (command : FactoryStewardCommand) (state : FactoryState) : Prop :=
  command.isRefund = true ∧ command.sessionId ∈ state.stewardRefundsInFlight

/-- A successful step of known outcome. -/
theorem ofExcept_eq_ok {α : Type} {result : Except FactoryError α} {a : α}
    (h : outcome (ofExcept result : Update α) s = .ok a) : result = .ok a := by
  cases result with
  | ok b => exact h
  | error e => cases h

/-- An accepted command has passed the checks of its proof, and the closure of its kind. -/
theorem authorizeAndConsume_eq_ok {result : SpawnSession ⊕ ℕ}
    (h : outcome (authorizeAndConsume externals command proof canisterId nowNs nowMs) s =
      .ok result) :
    verifyStewardProof externals s command proof canisterId nowNs = .ok () ∧
    ((∃ sessionId session, command = .retrySpawnSession sessionId ∧
      outcome (authorizeRetry sessionId nowMs) s = .ok session ∧
      after (authorizeAndConsume externals command proof canisterId nowNs nowMs) s =
        after (authorizeRetry sessionId nowMs) s) ∨
    ∃ sessionId generation, command = .claimSpawnRefund sessionId ∧
      outcome (authorizeRefund sessionId nowMs) s = .ok generation ∧
      after (authorizeAndConsume externals command proof canisterId nowNs nowMs) s =
        after (authorizeRefund sessionId nowMs) s) := by
  unfold authorizeAndConsume at h ⊢
  rw [outcome_bind_of_ok outcome_get, after_get, outcome_bind_eq_ok] at h
  obtain ⟨_, hcheck, h⟩ := h
  refine ⟨ofExcept_eq_ok hcheck, ?_⟩
  rw [after_bind_of_ok outcome_get, after_get, after_bind_of_ok hcheck]
  rw [ofExcept_eq_ok hcheck] at h ⊢
  cases command with
  | retrySpawnSession sessionId =>
    left
    obtain ⟨session, hretry, -⟩ := outcome_bind_eq_ok.mp h
    exact ⟨sessionId, session, rfl, hretry, after_bind_of_ok hretry⟩
  | claimSpawnRefund sessionId =>
    right
    obtain ⟨generation, hrefund, -⟩ := outcome_bind_eq_ok.mp h
    exact ⟨sessionId, generation, rfl, hrefund, after_bind_of_ok hrefund⟩

/-- An accepted retry consumes the nonce. -/
theorem stewardNonce_authorizeRetry {session : SpawnSession}
    (h : outcome (authorizeRetry sessionId nowMs) s = .ok session) :
    (after (authorizeRetry sessionId nowMs) s).stewardNonce sessionId =
      s.stewardNonce sessionId + 1 := by
  rw [authorizeRetry, outcome_bind_eq_ok] at h
  obtain ⟨retried, hretry, h⟩ := h
  rw [outcome_bind_eq_ok] at h
  obtain ⟨_, hconsume, -⟩ := h
  have hsame : SameCommands s (after (retrySpawnSessionInState sessionId .user nowMs
      "retry requested by verified EVM steward") s) :=
    SameCommands.of_onlySession (onlySession_retrySpawnSessionInState s)
  rw [authorizeRetry, after_bind_of_ok hretry, after_bind_of_ok hconsume, after_pure,
    stewardNonce_consumeNonce hconsume, hsame.stewardNonce_eq]

/-- The first command in flight consumes the nonce. -/
theorem stewardNonce_acceptRefund (h : outcome (acceptRefund sessionId) s = .ok ())
    (hfirst : sessionId ∉ s.stewardRefundsInFlight) :
    (after (acceptRefund sessionId) s).stewardNonce sessionId = s.stewardNonce sessionId + 1 := by
  have hrun : acceptRefund sessionId s =
      (consumeNonce sessionId >>= fun _ => modify (·.markRefundInFlight sessionId)) s := by
    rw [acceptRefund, run_bind, run_get]
    exact run_when_pos hfirst
  rw [outcome_congr hrun, outcome_bind_eq_ok] at h
  obtain ⟨_, hconsume, -⟩ := h
  rw [after_congr hrun, after_bind_of_ok hconsume, ← stewardNonce_consumeNonce hconsume]
  rfl

/-- An accepted refund that takes up no other consumes the nonce. -/
theorem stewardNonce_authorizeRefund {generation : ℕ}
    (h : outcome (authorizeRefund sessionId nowMs) s = .ok generation)
    (hfirst : sessionId ∉ s.stewardRefundsInFlight) :
    (after (authorizeRefund sessionId nowMs) s).stewardNonce sessionId =
      s.stewardNonce sessionId + 1 := by
  unfold authorizeRefund at h ⊢
  rw [outcome_bind_of_ok outcome_get, after_get, outcome_bind_eq_ok] at h
  obtain ⟨_, hgeneration, h⟩ := h
  rw [ofExcept_eq_ok hgeneration, show after (ofExcept (.ok _)) s = s from rfl,
    outcome_bind_eq_ok] at h
  obtain ⟨_, hexpire, h⟩ := h
  rw [outcome_bind_eq_ok] at h
  obtain ⟨_, hensure, h⟩ := h
  rw [outcome_bind_eq_ok] at h
  obtain ⟨_, haccept, -⟩ := h
  rw [after_bind_of_ok outcome_get, after_get, after_bind_of_ok hgeneration,
    ofExcept_eq_ok hgeneration, show after (ofExcept (.ok _)) s = s from rfl,
    after_bind_of_ok hexpire, after_bind_of_ok hensure, after_bind_of_ok haccept]
  -- Neither the expiry nor the checks touch the nonce or the commands in flight.
  have hsame : SameCommands s (after (ensureRefundable sessionId)
      (after (expireForRefund sessionId nowMs) s)) :=
    (SameCommands.of_onlySession (onlySession_expireForRefund s)).trans
      (within_ensureRefundable SameCommands.refl SameCommands.trans _)
  have hnext := stewardNonce_acceptRefund haccept (hsame.inFlight ▸ hfirst)
  rw [hsame.stewardNonce_eq] at hnext
  exact hnext

/-- An accepted command that takes up no other consumes the nonce. -/
theorem stewardNonce_authorizeAndConsume {result : SpawnSession ⊕ ℕ}
    (h : outcome (authorizeAndConsume externals command proof canisterId nowNs nowMs) s =
      .ok result) (hfirst : ¬ command.Resumes s) :
    (after (authorizeAndConsume externals command proof canisterId nowNs nowMs) s).stewardNonce
      command.sessionId = s.stewardNonce command.sessionId + 1 := by
  obtain ⟨-, ⟨sessionId, session, rfl, hretry, hafter⟩ |
    ⟨sessionId, generation, rfl, hrefund, hafter⟩⟩ := authorizeAndConsume_eq_ok h
  · rw [hafter]
    exact stewardNonce_authorizeRetry hretry
  · rw [hafter]
    exact stewardNonce_authorizeRefund hrefund fun hmem => hfirst ⟨rfl, hmem⟩

/-- What an accepted proof shows: the steward of the session signed the command for this
canister and chain, with the nonce that is due and an expiry of at most five minutes. -/
structure SignedBySteward (signed : String → String → String → Prop) (externals : Externals)
    (state : FactoryState) (command : FactoryStewardCommand) (proof : FactoryStewardProof)
    (canisterId : String) (nowNs : ℕ) : Prop where
  steward : ∃ session address chainId, state.sessions[command.sessionId]? = some session ∧
    normalizeAddress session.stewardAddress = .ok address ∧
    canonicalDeploymentChainId state.childRuntime state.releaseBroadcastConfig = .ok chainId ∧
    signed address (signingPayload canisterId chainId address
      (factoryStewardCommandHash externals command) (state.stewardNonce command.sessionId)
      proof.expiresAtNs) proof.signature
  nonce : proof.nonce = state.stewardNonce command.sessionId
  unexpired : nowNs ≤ proof.expiresAtNs
  soon : proof.expiresAtNs ≤ nowNs + factoryStewardProofTtlNs

/-- The checks of a proof, when recovery returns who signed a payload. -/
theorem signedBySteward_of_verify {signed : String → String → String → Prop}
    (hrecover : ∀ payload signature address,
      externals.recoverSigner payload signature = .ok address → signed address payload signature)
    (h : verifyStewardProof externals s command proof canisterId nowNs = .ok ()) :
    SignedBySteward signed externals s command proof canisterId nowNs := by
  simp only [verifyStewardProof, Fallible.throw_bind, Fallible.bind_eq_ok] at h
  obtain ⟨address, -, h⟩ := h
  split at h
  · cases h
  · rename_i session hsession
    simp only [Fallible.ite_error_eq_ok, Fallible.bind_eq_ok, ne_eq, not_not] at h
    obtain ⟨chainId, hchain, expected, hexpected, rfl, rfl, hnonce, -, hexpired, hsoon, signer,
      hsigner, h⟩ := h
    have hrecovered : signer = address := by
      by_contra hne
      rw [if_pos hne] at h
      cases h
    subst hrecovered
    refine ⟨⟨session, signer, proof.chainId, hsession, hexpected, hchain, ?_⟩, hnonce, ?_, ?_⟩
    · rw [← hnonce]
      exact hrecover _ _ _ hsigner
    · omega
    · omega

end Acceptance

section Runs

variable (libraries : Libraries)

/-- The states of a run: the `n`th one is found by the `n`th operation. -/
def stateAt (s : FactoryState) (ops : ℕ → Op) : ℕ → FactoryState
  | 0 => s
  | n + 1 => (ops n).apply libraries (stateAt s ops n)

/-- The operation is accepted in a state. -/
def Op.Accepted (op : Op) (state : FactoryState) : Prop :=
  (outcome (op.perform libraries) state).isOk = true

instance (op : Op) (state : FactoryState) : Decidable (op.Accepted libraries state) :=
  inferInstanceAs (Decidable (_ = _))

/-- The operation is a write of an accepted refund command of a session. A record that is
looked up by a claim id belongs to the command where no other session has a claim of this
id. -/
def Op.ContinuesRefund (state : FactoryState) (sessionId : String) : Op → Prop
  | .clearRefundInFlight id _ => id = sessionId
  | .persistRefundBroadcastRecord id _ _ => id = sessionId
  | .persistRefundTransactionRecord claimId _ id _ => id = sessionId ∧
      ∀ (other : String) claim, state.escrowClaims[other]? = some claim → claim.claimId = claimId →
        other = sessionId
  | .draftRefund id _ _ _ _ _ => id = sessionId
  | .finalizeEscrowRefund id _ _ _ => id = sessionId
  | .setFactoryEvmAddress _ _ => True
  | _ => False

variable {libraries} {s : FactoryState} {ops : ℕ → Op} {sessionId : String}

/-- No elementary write lowers a nonce. -/
theorem stewardNonce_le_of_write {kind : OpKind} {t : FactoryState} (h : Write kind s t) :
    s.stewardNonce sessionId ≤ t.stewardNonce sessionId := by
  have honly : ∀ {id : String} {t : FactoryState}, OnlySession id s t →
      s.stewardNonce sessionId ≤ t.stewardNonce sessionId :=
    fun h => ((SameCommands.of_onlySession h).stewardNonce_eq sessionId).ge
  have hjobs : ∀ {t : FactoryState}, SameButJobs s t →
      s.stewardNonce sessionId ≤ t.stewardNonce sessionId :=
    fun h => ((SameCommands.of_sameButJobs h).stewardNonce_eq sessionId).ge
  cases h with
  | event id actor nowMs reason hevent => exact honly (within_applySessionEventInState s)
  | created id actor nowMs reason hkind => exact honly (within_applySessionEventInState s)
  | retry id actor nowMs reason => exact honly (onlySession_retrySpawnSessionInState s)
  | detect id nowMs hkind => exact honly (onlySession_detectPayment s)
  | flags id nowMs hnow => exact honly (onlySession_syncSessionDerivedFlagsInState s)
  | enqueue id nowMs => exact hjobs (sameButJobs_enqueueSpawnExecution s id nowMs)
  | pollJob nowMs => exact hjobs (sameButJobs_syncPaymentPollJob s nowMs)
  | stewardNonce id =>
    by_cases hid : id = sessionId
    · subst hid
      simp [FactoryState.stewardNonce]
    · simp [FactoryState.stewardNonce, BTreeMap.get?_insert, hid]
  | _ => exact le_rfl

/-- No operation lowers a nonce. -/
theorem stewardNonce_le_apply (op : Op) (s : FactoryState) (sessionId : String) :
    s.stewardNonce sessionId ≤ (op.apply libraries s).stewardNonce sessionId :=
  Writes.within (R := fun s t => s.stewardNonce sessionId ≤ t.stewardNonce sessionId)
    (fun _ => le_rfl) le_trans stewardNonce_le_of_write (writes_perform libraries op s)

/-- No run lowers a nonce. -/
theorem stewardNonce_le_stateAt {m n : ℕ} (h : m ≤ n) :
    (stateAt libraries s ops m).stewardNonce sessionId ≤
      (stateAt libraries s ops n).stewardNonce sessionId := by
  induction n, h using Nat.le_induction with
  | base => exact le_rfl
  | succ n _ ih => exact ih.trans (stewardNonce_le_apply (ops n) _ sessionId)

/-- The last write of a refund touches nothing of another session. -/
theorem othersUntouched_finalizeEscrowRefundInState {nowMs : ℕ} {refundTxHash : String} :
    Within (OthersUntouched sessionId)
      (finalizeEscrowRefundInState sessionId nowMs refundTxHash) := by
  intro s
  unfold after
  rw [finalizeEscrowRefundInState, run_bind, run_get]
  simp only [run_bind]
  cases hvalid : validateEscrowRefundInState s sessionId nowMs with
  | error e => exact OthersUntouched.refl s
  | ok response =>
    cases response with
    | some response => exact OthersUntouched.refl s
    | none =>
      obtain ⟨session, claim, hat, -⟩ := state_of_validateEscrowRefund hvalid
      simp only [run_ofExcept_ok]
      rcases run_recordRefund hat.session with ⟨response, runtimes, hrun⟩ | ⟨e, hrun⟩
      · rw [hrun]
        have hruntimes : OthersUntouched sessionId s { s with runtimes := runtimes } :=
          OthersUntouched.of_eq rfl rfl rfl
        exact hruntimes.trans (OthersUntouched.of_onlySession (onlySession_refunded _ session))
      · rw [hrun]
        exact OthersUntouched.refl s

/-- A record of a refund touches nothing of another session. -/
theorem othersUntouched_withRefundBroadcast (record : ReleaseBroadcastRecord) (s : FactoryState) :
    OthersUntouched sessionId s (s.persistRefundBroadcastRecord sessionId record) :=
  OthersUntouched.of_onlySession (OnlySession.updateClaim s _)

/-- A guarded write touches what the write touches. -/
theorem othersUntouched_writeRefundGuarded {α : Type} {generation : ℕ} {mutation : Update α}
    (h : OthersUntouched sessionId s (after mutation s)) :
    OthersUntouched sessionId s (after (writeRefundGuarded sessionId generation mutation) s) := by
  rw [writeRefundGuarded, after_bind_of_ok outcome_get, after_get]
  cases ensureRefundGeneration s sessionId generation with
  | ok _ => exact h
  | error e => exact OthersUntouched.refl s

/-- A record that is looked up by the id of a claim of no other session. -/
theorem othersUntouched_persistRefundTransactionRecordGuarded {claimId : String}
    {record : ReleaseBroadcastRecord} {generation : ℕ}
    (hown : ∀ (other : String) claim, s.escrowClaims[other]? = some claim →
      claim.claimId = claimId → other = sessionId) :
    OthersUntouched sessionId s
      (after (persistRefundTransactionRecordGuarded claimId record sessionId generation) s) := by
  refine othersUntouched_writeRefundGuarded ?_
  rw [after_bind_of_ok outcome_get, after_get]
  cases hfind : s.escrowClaims.toList.find? (·.2.claimId = claimId) with
  | none => exact OthersUntouched.refl s
  | some entry =>
    have hentry : s.escrowClaims[entry.1]? = some entry.2 :=
      Std.ExtTreeMap.mem_toList_iff_getElem?_eq_some.mp (List.mem_of_find?_eq_some hfind)
    have hid : entry.2.claimId = claimId := by simpa using List.find?_some hfind
    have hkey : entry.1 = sessionId := hown _ _ hentry hid
    simp only [hkey]
    exact othersUntouched_withRefundBroadcast record s

/-- The draft of a refund touches nothing of another session. -/
theorem othersUntouched_draftRefundInState {externals : Externals} {session : SpawnSession}
    {escrow : String} {config : ReleaseBroadcastConfig} {pendingNonce : ℕ} :
    Within (OthersUntouched sessionId)
      (draftRefundInState externals sessionId session escrow config pendingNonce) := by
  refine Within.bind OthersUntouched.trans (Within.get OthersUntouched.refl) fun state => ?_
  split
  · exact Within.bind OthersUntouched.trans (Within.ofExcept OthersUntouched.refl _) fun _ =>
      Within.pure OthersUntouched.refl _
  · refine Within.bind OthersUntouched.trans (Within.ofExcept OthersUntouched.refl _) fun _ => ?_
    refine Within.bind OthersUntouched.trans
      (Within.modify fun s => OthersUntouched.of_eq rfl rfl rfl) fun _ => ?_
    exact Within.bind OthersUntouched.trans
      (Within.modify (othersUntouched_withRefundBroadcast _)) fun _ =>
        Within.pure OthersUntouched.refl _

/-- The writes of a refund command touch nothing of another session. -/
theorem othersUntouched_of_continuesRefund {op : Op} (h : op.ContinuesRefund s sessionId) :
    OthersUntouched sessionId s (op.apply libraries s) := by
  cases op with
  | clearRefundInFlight id generation =>
    change OthersUntouched sessionId s (s.clearRefundInFlight id generation)
    unfold FactoryState.clearRefundInFlight
    split
    · exact OthersUntouched.of_eq rfl rfl rfl
    · exact OthersUntouched.refl s
  | persistRefundBroadcastRecord id generation record =>
    obtain rfl : id = sessionId := h
    exact othersUntouched_writeRefundGuarded (othersUntouched_withRefundBroadcast record s)
  | persistRefundTransactionRecord claimId record id generation =>
    obtain ⟨rfl, hown⟩ : id = sessionId ∧ _ := h
    exact othersUntouched_persistRefundTransactionRecordGuarded hown
  | draftRefund id generation session escrow config pendingNonce =>
    obtain rfl : id = sessionId := h
    exact othersUntouched_writeRefundGuarded (othersUntouched_draftRefundInState s)
  | finalizeEscrowRefund id generation nowMs refundTxHash =>
    obtain rfl : id = sessionId := h
    exact othersUntouched_writeRefundGuarded (othersUntouched_finalizeEscrowRefundInState s)
  | setFactoryEvmAddress address nowMs => exact OthersUntouched.of_eq rfl rfl rfl
  | _ => cases h

/-- The outcome of an accepted command. -/
theorem Op.Accepted.outcome_eq {command : FactoryStewardCommand} {proof : FactoryStewardProof}
    {canisterId : String} {nowNs nowMs : ℕ}
    (h : Op.Accepted libraries (.authorizeAndConsume command proof canisterId nowNs nowMs) s) :
    ∃ result, outcome (Factory.authorizeAndConsume libraries.toExternals command proof canisterId
      nowNs nowMs) s = .ok result := by
  have hok : (outcome (Factory.authorizeAndConsume libraries.toExternals command proof canisterId
      nowNs nowMs) s).isOk = true := h
  exact outcome_of_isOk hok

/-- The proof of an accepted command names the nonce that is due. -/
theorem Op.Accepted.nonce_eq {command : FactoryStewardCommand} {proof : FactoryStewardProof}
    {canisterId : String} {nowNs nowMs : ℕ}
    (h : Op.Accepted libraries (.authorizeAndConsume command proof canisterId nowNs nowMs) s) :
    proof.nonce = s.stewardNonce command.sessionId := by
  obtain ⟨result, hresult⟩ := h.outcome_eq
  have hverify := (authorizeAndConsume_eq_ok hresult).1
  have hsigned : SignedBySteward (fun _ _ _ => True) libraries.toExternals s command proof
      canisterId nowNs :=
    signedBySteward_of_verify (fun _ _ _ _ => trivial) hverify
  exact hsigned.nonce

/-- An accepted command that takes up no other consumes the nonce. -/
theorem Op.Accepted.stewardNonce_apply {command : FactoryStewardCommand}
    {proof : FactoryStewardProof} {canisterId : String} {nowNs nowMs : ℕ}
    (h : Op.Accepted libraries (.authorizeAndConsume command proof canisterId nowNs nowMs) s)
    (hfirst : ¬ command.Resumes s) :
    (Op.apply libraries (.authorizeAndConsume command proof canisterId nowNs nowMs)
      s).stewardNonce command.sessionId = s.stewardNonce command.sessionId + 1 := by
  obtain ⟨result, hresult⟩ := h.outcome_eq
  exact stewardNonce_authorizeAndConsume hresult hfirst

/-- After an accepted retry the nonce of its proof is past. -/
theorem nonce_lt_of_accepted_retry {n : ℕ} {proof : FactoryStewardProof} {canisterId : String}
    {nowNs nowMs : ℕ}
    (hop : ops n =
      .authorizeAndConsume (.retrySpawnSession sessionId) proof canisterId nowNs nowMs)
    (haccepted : (ops n).Accepted libraries (stateAt libraries s ops n)) :
    proof.nonce < (stateAt libraries s ops (n + 1)).stewardNonce sessionId := by
  rw [hop] at haccepted
  have hdue : proof.nonce = (stateAt libraries s ops n).stewardNonce sessionId :=
    haccepted.nonce_eq
  have hnext : (stateAt libraries s ops (n + 1)).stewardNonce sessionId =
      (stateAt libraries s ops n).stewardNonce sessionId + 1 := by
    rw [stateAt, hop]
    exact haccepted.stewardNonce_apply fun hresumes => by cases hresumes.1
  omega

/-- For every run of the factory: nonces never decrease; an accepted command was signed by the
steward of its session, consumes the nonce by one unless it takes up an accepted refund, and
touches nothing of another session, nor do the writes that a refund makes later; and the
proof of an accepted retry is accepted for it at no other time of the run. -/
theorem steward_commands_not_replayable (libraries : Libraries)
    (signed : String → String → String → Prop)
    (hrecover : ∀ payload signature address,
      libraries.recoverSigner payload signature = .ok address → signed address payload signature)
    (s : FactoryState) (ops : ℕ → Op) :
    (∀ (sessionId : String) m n, m ≤ n → (stateAt libraries s ops m).stewardNonce sessionId ≤
      (stateAt libraries s ops n).stewardNonce sessionId) ∧
    (∀ n command proof canisterId nowNs nowMs,
      ops n = .authorizeAndConsume command proof canisterId nowNs nowMs →
      (ops n).Accepted libraries (stateAt libraries s ops n) →
      SignedBySteward signed libraries.toExternals (stateAt libraries s ops n) command proof
        canisterId nowNs ∧
      (¬ command.Resumes (stateAt libraries s ops n) →
        (stateAt libraries s ops (n + 1)).stewardNonce command.sessionId =
          (stateAt libraries s ops n).stewardNonce command.sessionId + 1) ∧
      OthersUntouched command.sessionId (stateAt libraries s ops n)
        (stateAt libraries s ops (n + 1))) ∧
    (∀ n sessionId, (ops n).ContinuesRefund (stateAt libraries s ops n) sessionId →
      OthersUntouched sessionId (stateAt libraries s ops n) (stateAt libraries s ops (n + 1))) ∧
    ∀ m n sessionId proof canisterId canisterId' nowNs nowNs' nowMs nowMs',
      ops m = .authorizeAndConsume (.retrySpawnSession sessionId) proof canisterId nowNs nowMs →
      (ops m).Accepted libraries (stateAt libraries s ops m) →
      ops n = .authorizeAndConsume (.retrySpawnSession sessionId) proof canisterId' nowNs' nowMs' →
      (ops n).Accepted libraries (stateAt libraries s ops n) → m = n := by
  refine ⟨fun sessionId m n h => stewardNonce_le_stateAt h, ?_, ?_, ?_⟩
  · intro n command proof canisterId nowNs nowMs hop haccepted
    rw [stateAt, hop]
    rw [hop] at haccepted
    obtain ⟨result, hresult⟩ := haccepted.outcome_eq
    refine ⟨signedBySteward_of_verify hrecover (authorizeAndConsume_eq_ok hresult).1,
      haccepted.stewardNonce_apply, ?_⟩
    exact othersUntouched_authorizeAndConsume (stateAt libraries s ops n)
  · intro n sessionId hcontinues
    exact othersUntouched_of_continuesRefund hcontinues
  · intro m n sessionId proof canisterId canisterId' nowNs nowNs' nowMs nowMs' hopm hacceptedm
      hopn hacceptedn
    have hpastm := nonce_lt_of_accepted_retry hopm hacceptedm
    have hpastn := nonce_lt_of_accepted_retry hopn hacceptedn
    rw [hopm] at hacceptedm
    rw [hopn] at hacceptedn
    have hduem : proof.nonce = (stateAt libraries s ops m).stewardNonce sessionId :=
      hacceptedm.nonce_eq
    have hduen : proof.nonce = (stateAt libraries s ops n).stewardNonce sessionId :=
      hacceptedn.nonce_eq
    -- An earlier acceptance leaves a nonce that the later one would have to find.
    rcases Nat.lt_trichotomy m n with hlt | heq | hgt
    · have hle : (stateAt libraries s ops (m + 1)).stewardNonce sessionId ≤ _ :=
        stewardNonce_le_stateAt hlt
      omega
    · exact heq
    · have hle : (stateAt libraries s ops (n + 1)).stewardNonce sessionId ≤ _ :=
        stewardNonce_le_stateAt hgt
      omega

end Runs

/-- A factory whose only session is paid for and has failed. -/
def failedSample : FactoryState :=
  (Op.apply sampleLibraries (.createSpawnSession sampleRequest firstId humanOrigin 1)
    .default).updateSession firstId fun session =>
      { session with state := .failed, paymentStatus := .paid, retryable := true }

/-- The proof of a retry of its steward. -/
def retryProof : FactoryStewardProof where
  chainId := 8453
  address := "0x3333333333333333333333333333333333333333"
  commandHash := factoryStewardCommandHash sampleLibraries.toExternals (.retrySpawnSession firstId)
  nonce := 0
  expiresAtNs := 5000000
  signature := "0x"

/-- The command, sent again and again. -/
def retryAgain (_ : ℕ) : Op :=
  .authorizeAndConsume (.retrySpawnSession firstId) retryProof "factory" 2000000 2

/-- The first retry is accepted and signed by the steward, and no later one is accepted. -/
theorem retryAgain_accepted_once :
    (∃ session, failedSample.sessions[firstId]? = some session) ∧
    SignedBySteward (fun address _ _ => address = retryProof.address) sampleLibraries.toExternals
      failedSample (.retrySpawnSession firstId) retryProof "factory" 2000000 ∧
    ∀ n, (retryAgain n).Accepted sampleLibraries
      (stateAt sampleLibraries failedSample retryAgain n) → n = 0 := by
  have hrecover : ∀ payload signature address,
      sampleLibraries.recoverSigner payload signature = .ok address →
        address = retryProof.address := by
    intro payload signature address h
    exact (Except.ok.inj h).symm
  obtain ⟨-, haccepted, -, honce⟩ := steward_commands_not_replayable sampleLibraries
    (fun address _ _ => address = retryProof.address) hrecover failedSample retryAgain
  have hfirst : (retryAgain 0).Accepted sampleLibraries failedSample := by decide +kernel
  refine ⟨Option.isSome_iff_exists.mp (by decide +kernel), ?_, ?_⟩
  · exact (haccepted 0 _ _ _ _ _ rfl hfirst).1
  · intro n hn
    exact honce n 0 _ _ _ _ _ _ _ _ rfl hn rfl hfirst

end Automaton.Factory
