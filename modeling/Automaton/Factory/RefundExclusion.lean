import Automaton.Factory.RefundFencing
import Automaton.Factory.ReleaseNonces
import Automaton.Factory.SessionStages
import Automaton.Factory.StewardReplay
import Automaton.Library.Transition

/-!
# Refunds exclude releases

Once the refund transaction of a session has been signed, the session must not go back on its way
to the release. It does not as long as it is not retried, its refund is not signed on the way, and
its workers draft a release only where the session waits for one.
-/

namespace Automaton.Factory

open Machine Persist Transition

/-- A retry takes a session back that can be retried. -/
def SpawnSession.canRetry (session : SpawnSession) : Bool :=
  session.state = .failed && session.retryable && session.paymentStatus = .paid

section Retries

variable (libraries : Libraries)

/-- The proof of an operation passes its checks, if it has one. -/
def Op.IsVerified (state : FactoryState) : Op → Prop
  | .authorizeAndConsume command proof canisterId nowNs _ =>
    verifyStewardProof libraries.toExternals state command proof canisterId nowNs = .ok ()
  | _ => True

/-- An operation takes a session back. -/
def Op.TakesBack (state : FactoryState) (sessionId : String) (op : Op) : Prop :=
  op.retries = some sessionId ∧ op.IsVerified libraries state ∧
    ∃ session, state.sessions[sessionId]? = some session ∧ session.canRetry = true

variable {libraries} {s : FactoryState} {op : Op} {sessionId : String} {session : SpawnSession}

/-- A retry of a session that cannot be retried is rejected. -/
theorem movesOn_retry {actor : SessionAuditActor} {nowMs : ℕ} {reason : String}
    (h : ∀ session, s.sessions[sessionId]? = some session → session.canRetry ≠ true) :
    MovesOn s (after (retrySpawnSessionInState sessionId actor nowMs reason) s) := by
  refine after_bind_within MovesOn.trans ?_ fun _ =>
    MovesOn.bind MovesOn.enqueue (fun _ => MovesOn.pure _) _
  rcases applySessionEventInState_cases sessionId actor nowMs .retryRequested reason s with
    ⟨e, hrun⟩ | ⟨session, hrun, -⟩ | ⟨session, transition, hsession, htransition, -⟩
  · rw [after_of_error hrun]
    exact MovesOn.refl s
  · rw [after_of_ok hrun]
    exact MovesOn.refl s
  · have hretry : session.canRetry = true := by
      rcases eventTransition_cases htransition with
        ⟨h, -⟩ | ⟨h, -⟩ | ⟨h, -⟩ | ⟨h, -⟩ | ⟨h, -⟩ | ⟨h, -⟩ | ⟨-, hfailed, hretryable, hpaid, -⟩ | ⟨h, -⟩
      case inr.inr.inr.inr.inr.inr.inl =>
        simp [SpawnSession.canRetry, hfailed, hretryable, hpaid]
      all_goals cases h
    exact absurd hretry (h session hsession)

/-- Neither does a steward's retry of it, or one with an invalid proof. -/
theorem movesOn_authorizeRetry {externals : Externals} {proof : FactoryStewardProof}
    {canisterId : String} {nowNs nowMs : ℕ}
    (h : verifyStewardProof externals s (.retrySpawnSession sessionId) proof canisterId nowNs =
      .ok () → ∀ session, s.sessions[sessionId]? = some session → session.canRetry ≠ true) :
    MovesOn s (after (authorizeAndConsume externals (.retrySpawnSession sessionId) proof canisterId
      nowNs nowMs) s) := by
  unfold authorizeAndConsume
  rw [after_bind_of_ok outcome_get, after_get]
  cases hverify : verifyStewardProof externals s (.retrySpawnSession sessionId) proof canisterId
    nowNs with
  | error error =>
    rw [after_bind_of_error rfl, after_ofExcept]
    exact MovesOn.refl s
  | ok _ =>
    rw [after_bind_of_ok rfl, after_ofExcept]
    refine after_bind_within MovesOn.trans ?_ fun _ => MovesOn.pure _ _
    exact after_bind_within MovesOn.trans (movesOn_retry (h hverify)) fun _ =>
      MovesOn.bind movesOn_consumeNonce (fun _ => MovesOn.pure _) _

/-- A session that no operation takes back moves on. -/
theorem onward_of_not_takesBack (hfresh : op.IsFresh s) (hnot : ¬ op.TakesBack libraries s sessionId)
    (hsession : s.sessions[sessionId]? = some session) :
    ∃ session', (op.apply libraries s).sessions[sessionId]? = some session' ∧
      session.state.Onward session'.state := by
  have hmoves {t : FactoryState} (h : MovesOn s t) :
      ∃ session', t.sessions[sessionId]? = some session' ∧
        session.state.Onward session'.state := by
    obtain ⟨session', hsession', -, honward⟩ := h.kept sessionId session hsession
    exact ⟨session', hsession', honward⟩
  have hsame {t : FactoryState} (h : t.sessions[sessionId]? = s.sessions[sessionId]?) :
      ∃ session', t.sessions[sessionId]? = some session' ∧
        session.state.Onward session'.state :=
    ⟨session, h.trans hsession, .inl rfl⟩
  cases op with
  | authorizeAndConsume command proof canisterId nowNs nowMs =>
    cases command with
    | claimSpawnRefund => exact hmoves (movesOn_apply libraries hfresh rfl)
    | retrySpawnSession id =>
      by_cases hother : sessionId = id
      · subst hother
        refine hmoves (movesOn_authorizeRetry fun hverify stored hstored hretry => ?_)
        exact hnot ⟨rfl, hverify, stored, hstored, hretry⟩
      · exact hsame ((othersUntouched_authorizeAndConsume s).sessions sessionId hother)
  | retryFailedSession id actor nowMs reason =>
    by_cases hother : sessionId = id
    · subst hother
      refine hmoves (movesOn_retry fun stored hstored hretry => ?_)
      exact hnot ⟨rfl, trivial, stored, hstored, hretry⟩
    · exact hsame ((onlySession_retrySpawnSessionInState s).sessions sessionId hother)
  | _ => exact hmoves (movesOn_apply libraries hfresh rfl)

end Retries

/-- The record of the refund transaction has a signed transaction. -/
def EscrowClaim.hasSignedRefund (claim : EscrowClaim) : Bool :=
  claim.refundBroadcast.any (·.rawTransactionHash.isSome)

/-- The sessions whose refund transaction is signed. -/
def FactoryState.signedRefunds (state : FactoryState) : List String :=
  (state.escrowClaims.toList.filter (·.2.hasSignedRefund)).map (·.1)

/-- An operation stores a signed refund transaction for a session. -/
def Op.Signs (state : FactoryState) (sessionId : String) : Op → Prop
  | .persistRefundBroadcastRecord id generation record =>
    holdsRefundLease state id generation = true ∧ record.rawTransactionHash.isSome ∧ id = sessionId
  | .persistRefundTransactionRecord claimId record id generation =>
    holdsRefundLease state id generation = true ∧ record.rawTransactionHash.isSome ∧
      ∃ claim, state.escrowClaims.toList.find? (·.2.claimId = claimId) = some (sessionId, claim)
  | _ => False

section Signatures

variable {libraries : Libraries} {s t : FactoryState} {op : Op} {sessionId : String}

theorem mem_signedRefunds : sessionId ∈ s.signedRefunds ↔
    ∃ claim, s.escrowClaims[sessionId]? = some claim ∧ claim.hasSignedRefund = true := by
  simp only [FactoryState.signedRefunds, List.mem_map, List.mem_filter, Prod.exists,
    exists_and_right, exists_eq_right, Std.ExtTreeMap.mem_toList_iff_getElem?_eq_some]

/-- What is recorded as signed was recorded before. -/
theorem KeepsDrafts.signed (h : KeepsDrafts s t) (hsigned : sessionId ∈ t.signedRefunds) :
    sessionId ∈ s.signedRefunds := by
  obtain ⟨claim, hclaim, hrecord⟩ := mem_signedRefunds.mp hsigned
  cases hbroadcast : claim.refundBroadcast with
  | none =>
    rw [EscrowClaim.hasSignedRefund, hbroadcast] at hrecord
    cases hrecord
  | some record =>
    obtain ⟨earlier, hearlier, hsame⟩ := h.drafts sessionId claim record hclaim hbroadcast
    refine mem_signedRefunds.mpr ⟨earlier, hearlier, ?_⟩
    rw [EscrowClaim.hasSignedRefund, hsame, ← hbroadcast]
    exact hrecord

/-- A record is written to the claim of one session. -/
theorem signed_withRefundBroadcast {id : String} {record : ReleaseBroadcastRecord}
    (h : sessionId ∈ (s.updateClaim id (·.withRefundBroadcast record)).signedRefunds) :
    sessionId ∈ s.signedRefunds ∨ record.rawTransactionHash.isSome ∧ id = sessionId := by
  obtain ⟨claim, hclaim, hsigned⟩ := mem_signedRefunds.mp h
  rw [FactoryState.updateClaim_escrowClaims, BTreeMap.get?_modify] at hclaim
  split at hclaim
  · rename_i hid
    obtain ⟨earlier, -, rfl⟩ := Option.map_eq_some_iff.mp hclaim
    exact .inr ⟨hsigned, hid⟩
  · exact .inl (mem_signedRefunds.mpr ⟨claim, hclaim, hsigned⟩)

/-- The draft of a refund transaction is not signed. -/
theorem unsigned_buildRefundTransactionDraft {externals : Externals} {claimId recipient : String}
    {escrow : String} {nonce : ℕ} {config : ReleaseBroadcastConfig}
    {record : ReleaseBroadcastRecord}
    (h : buildRefundTransactionDraft externals claimId recipient escrow nonce config =
      .ok record) : record.rawTransactionHash = none := by
  obtain ⟨plan, -, hrest⟩ := Fallible.bind_eq_ok.mp h
  obtain ⟨unsigned, -, hrecord⟩ := Fallible.bind_eq_ok.mp hrest
  obtain rfl := Except.ok.inj hrecord
  rfl

/-- A draft signs nothing. -/
theorem signed_draftRefundInState {externals : Externals} {session : SpawnSession} {id : String}
    {escrow : String} {config : ReleaseBroadcastConfig} {pendingNonce : ℕ}
    (h : sessionId ∈ (after (draftRefundInState externals id session escrow config pendingNonce)
      s).signedRefunds) : sessionId ∈ s.signedRefunds := by
  unfold draftRefundInState at h
  rw [after_bind_of_ok outcome_get, after_get] at h
  split at h
  · rename_i record hrecord
    cases hvalid : validateRefundTransactionDraft externals record session.claimId
        session.stewardAddress config.ecdsaKeyName with
    | error error =>
      rw [hvalid] at h
      exact h
    | ok draftConfig =>
      rw [hvalid] at h
      exact h
  · dsimp only at h
    cases hbuild : buildRefundTransactionDraft externals session.claimId session.stewardAddress
        escrow (reservedNonce s.nextReleaseNonce pendingNonce) config with
    | error error =>
      rw [hbuild] at h
      exact h
    | ok record =>
      rw [hbuild] at h
      have hstored : sessionId ∈ ((s.reserveNonce (reservedNonce s.nextReleaseNonce
          pendingNonce)).updateClaim id (·.withRefundBroadcast record)).signedRefunds := h
      rcases signed_withRefundBroadcast hstored with hsigned | ⟨hraw, -⟩
      · exact hsigned
      · rw [unsigned_buildRefundTransactionDraft hbuild] at hraw
        cases hraw

/-- Which sessions an operation adds to those whose refund transaction is signed. -/
theorem signed_apply (h : sessionId ∈ (op.apply libraries s).signedRefunds) :
    sessionId ∈ s.signedRefunds ∨ op.Signs s sessionId := by
  cases hdrafts : op.draftsTransactions with
  | false => exact .inl ((keepsDrafts_apply libraries hdrafts s).signed h)
  | true =>
    cases op with
    | persistRefundBroadcastRecord id generation record =>
      have hafter : sessionId ∈ (after (writeRefundGuarded id generation
          (modify (·.persistRefundBroadcastRecord id record))) s).signedRefunds := h
      rw [after_writeRefundGuarded] at hafter
      split at hafter
      · rename_i hlease
        rcases signed_withRefundBroadcast hafter with hsigned | hsigned
        · exact .inl hsigned
        · exact .inr ⟨hlease, hsigned⟩
      · exact .inl hafter
    | persistRefundTransactionRecord claimId record id generation =>
      have hafter : sessionId ∈ (after (persistRefundTransactionRecordGuarded claimId record id
          generation) s).signedRefunds := h
      rw [persistRefundTransactionRecordGuarded, after_writeRefundGuarded] at hafter
      split at hafter
      · rename_i hlease
        rw [after_bind_of_ok outcome_get, after_get] at hafter
        split at hafter
        · rename_i entry hentry
          rcases signed_withRefundBroadcast hafter with hsigned | ⟨hraw, rfl⟩
          · exact .inl hsigned
          · exact .inr ⟨hlease, hraw, entry.2, hentry⟩
        · exact .inl hafter
      · exact .inl hafter
    | draftRefund id generation session escrow config pendingNonce =>
      have hafter : sessionId ∈ (after (writeRefundGuarded id generation
          (draftRefundInState libraries.toExternals id session escrow config pendingNonce))
            s).signedRefunds := h
      rw [after_writeRefundGuarded] at hafter
      split at hafter
      · exact .inl (signed_draftRefundInState hafter)
      · exact .inl hafter
    | reserveReleaseNonce => exact .inl h
    | _ => cases hdrafts

/-- An operation that signs a refund transaction is no retry. -/
theorem Op.Signs.retries (h : op.Signs s sessionId) : op.retries = none := by
  cases op with
  | persistRefundBroadcastRecord => rfl
  | persistRefundTransactionRecord => rfl
  | _ => cases h

end Signatures

/-- A factory with the sessions whose refund transaction has ever been signed. -/
structure RefundHistory where
  factory : FactoryState
  signed : List String

/-- No refund transaction has been signed. -/
def RefundHistory.fresh (factory : FactoryState) : RefundHistory := ⟨factory, []⟩

section Runs

variable (libraries : Libraries)

/-- What an operation does. -/
def RefundHistory.apply (op : Op) (history : RefundHistory) : RefundHistory where
  factory := op.apply libraries history.factory
  signed := (op.apply libraries history.factory).signedRefunds ++ history.signed

/-- A session is on its way to the release. -/
def SpawnSession.releases (session : SpawnSession) : Bool :=
  session.state = .paymentDetected || session.state = .spawning ||
    session.state = .broadcastingRelease

/-- A session gets on its way to the release, or further on it. -/
def EntersRelease (s t : FactoryState) (sessionId : String) : Prop :=
  ∃ session', t.sessions[sessionId]? = some session' ∧ session'.releases = true ∧
    ∀ session, s.sessions[sessionId]? = some session → session.state ≠ session'.state

/-- A worker stores the first record of the release transaction of a session. -/
def Op.DraftsRelease (state : FactoryState) (sessionId : String) (op : Op) : Prop :=
  (∃ guard record, op = .persistReleaseBroadcastRecord sessionId guard record) ∧
    op.Accepted libraries state ∧
    ∃ session, state.sessions[sessionId]? = some session ∧ session.releaseBroadcast = none

/-- No session whose refund transaction was signed gets on its way to the release, and no release
is drafted for it. -/
def RefundHistory.Excludes (history : RefundHistory) (op : Op) : Prop :=
  ∀ sessionId ∈ history.signed,
    ¬ EntersRelease history.factory (op.apply libraries history.factory) sessionId ∧
      ¬ op.DraftsRelease libraries history.factory sessionId

/-- No session is retried whose refund transaction was signed, a refund transaction is signed only
for a session that is complete, failed or expired, and a release is drafted for a session whose
refund transaction was signed only while it waits for the release. -/
structure RefundHistory.KeepsApart (history : RefundHistory) (op : Op) : Prop where
  retry : ∀ sessionId ∈ history.signed, ¬ op.TakesBack libraries history.factory sessionId
  sign : ∀ sessionId, op.Signs history.factory sessionId →
    ∃ session, history.factory.sessions[sessionId]? = some session ∧
      (session.state = .complete ∨ session.state = .failed ∨ session.state = .expired)
  draft : ∀ sessionId ∈ history.signed, op.DraftsRelease libraries history.factory sessionId →
    ∃ session, history.factory.sessions[sessionId]? = some session ∧
      session.state = .broadcastingRelease

/-- The sessions whose refund transaction was signed have left the way to the release. -/
def RefundHistory.Settled (history : RefundHistory) : Prop :=
  (∀ sessionId ∈ history.factory.signedRefunds, sessionId ∈ history.signed) ∧
    ∀ sessionId ∈ history.signed, ∃ session,
      history.factory.sessions[sessionId]? = some session ∧
        SpawnSessionState.stage .complete ≤ session.state.stage

variable {libraries} {history : RefundHistory} {op : Op}

/-- One operation keeps refunds and releases apart. -/
theorem RefundHistory.Settled.apply (h : history.Settled)
    (hfresh : op.IsFresh history.factory) (hkeeps : history.KeepsApart libraries op) :
    history.Excludes libraries op ∧ (history.apply libraries op).Settled := by
  obtain ⟨hlisted, hsettled⟩ := h
  -- A session whose refund transaction was signed is not taken back, so it stays settled.
  have hold : ∀ sessionId ∈ history.signed, ∃ session,
      (op.apply libraries history.factory).sessions[sessionId]? = some session ∧
        SpawnSessionState.stage .complete ≤ session.state.stage := by
    intro sessionId hsigned
    obtain ⟨session, hsession, hstage⟩ := hsettled sessionId hsigned
    obtain ⟨session', hsession', honward⟩ :=
      onward_of_not_takesBack hfresh (hkeeps.retry sessionId hsigned) hsession
    exact ⟨session', hsession', hstage.trans honward.stage_le⟩
  refine ⟨fun sessionId hsigned => ⟨?_, fun hdraft => ?_⟩, ?_, fun sessionId hsigned => ?_⟩
  · rintro ⟨session', hsession', hreleases, -⟩
    obtain ⟨stored, hstored, hstage⟩ := hold sessionId hsigned
    obtain rfl := Option.some.inj (hsession'.symm.trans hstored)
    revert hreleases hstage
    unfold SpawnSession.releases
    cases session'.state <;> decide
  · obtain ⟨session, hsession, hstate⟩ := hkeeps.draft sessionId hsigned hdraft
    obtain ⟨stored, hstored, hstage⟩ := hsettled sessionId hsigned
    obtain rfl := Option.some.inj (hsession.symm.trans hstored)
    rw [hstate] at hstage
    revert hstage
    decide
  · exact fun sessionId hsigned => List.mem_append_left _ hsigned
  · rcases List.mem_append.mp hsigned with hnow | hbefore
    · rcases signed_apply hnow with hearlier | hsigns
      · exact hold sessionId (hlisted sessionId hearlier)
      · obtain ⟨session, hsession, hstate⟩ := hkeeps.sign sessionId hsigns
        obtain ⟨session', hsession', -, honward⟩ :=
          (movesOn_apply libraries hfresh hsigns.retries).kept sessionId session hsession
        refine ⟨session', hsession', le_trans ?_ honward.stage_le⟩
        rcases hstate with hstate | hstate | hstate
        all_goals simp [hstate, SpawnSessionState.stage]
    · exact hold sessionId hbefore

end Runs

/-- For every run of a factory in which no refund transaction is signed at first: as long as each
operation keeps refunds and releases apart, no session whose refund transaction was signed gets on
its way to the release, and no release is drafted for it. -/
theorem refunds_exclude_releases (libraries : Libraries) (factory : FactoryState) (ops : List Op)
    (hunsigned : factory.signedRefunds = [])
    (hkeeps : Along (RefundHistory.apply libraries)
      (fun history op => op.IsFresh history.factory ∧ history.KeepsApart libraries op) ops
      (.fresh factory)) :
    Along (RefundHistory.apply libraries) (fun history op => history.Excludes libraries op) ops
      (.fresh factory) := by
  refine Along.of_invariant (fun history op (h : history.Settled) hop => h.apply hop.1 hop.2)
    ⟨fun sessionId hsigned => ?_, fun sessionId hsigned => ?_⟩ hkeeps
  · have hnone : sessionId ∈ factory.signedRefunds := hsigned
    rw [hunsigned] at hnone
    exact hnone
  · cases hsigned

/-- The refund command of the steward of the sample session. -/
def stewardRefund : Op :=
  .authorizeAndConsume (.claimSpawnRefund firstId)
    { retryProof with
      commandHash :=
        factoryStewardCommandHash sampleLibraries.toExternals (.claimSpawnRefund firstId) }
    "factory" 2000000 2

/-- The refund up to the signature of its transaction. -/
def signingOps : List Op :=
  [stewardRefund,
    .persistRefundBroadcastRecord firstId 1
      { blankRecord "claim" "0x" "0x" 0 FactoryState.default.releaseBroadcastConfig "0x" with
        rawTransactionHash := some "0x01" },
    .clearRefundInFlight firstId 1]

/-- The history of the factory in which the transaction is signed. -/
def signedHistory : RefundHistory :=
  run (RefundHistory.apply sampleLibraries) signingOps (.fresh refundableSample)

/-- The retry of the session by its steward. -/
def stewardRetry : Op :=
  .authorizeAndConsume (.retrySpawnSession firstId) { retryProof with nonce := 1 } "factory" 2000000 2

/-- The refund meets the condition. -/
theorem signing_excludes_releases :
    Along (RefundHistory.apply sampleLibraries)
      (fun history op => history.Excludes sampleLibraries op) signingOps
      (.fresh refundableSample) := by
  refine refunds_exclude_releases sampleLibraries refundableSample signingOps (by decide +kernel)
    ⟨⟨trivial, ?accepted⟩, ⟨trivial, ?signed⟩, ⟨trivial, ?ended⟩, trivial⟩
  case accepted =>
    refine ⟨fun _ hsigned => ?_, fun _ hsigns => hsigns.elim, fun _ hsigned => ?_⟩
    all_goals cases hsigned
  case signed =>
    refine ⟨fun _ _ hback => ?_, fun sessionId hsigns => ?_, fun _ _ hdraft => ?_⟩
    · cases hback.1
    · obtain ⟨-, -, rfl⟩ := hsigns
      have hfailed : ((RefundHistory.apply sampleLibraries stewardRefund (.fresh
          refundableSample)).factory.sessions[firstId]?.map (·.state)) = some .failed := by
        decide +kernel
      obtain ⟨session, hsession, hstate⟩ := Option.map_eq_some_iff.mp hfailed
      exact ⟨session, hsession, .inr (.inl hstate)⟩
    · obtain ⟨⟨_, _, hop⟩, -⟩ := hdraft
      cases hop
  case ended =>
    refine ⟨fun _ _ hback => ?_, fun _ hsigns => hsigns.elim, fun _ _ hdraft => ?_⟩
    · cases hback.1
    · obtain ⟨⟨_, _, hop⟩, -⟩ := hdraft
      cases hop

/-- The steward's retry takes the session back although its refund transaction is signed. -/
theorem retry_after_signed_refund : ¬ signedHistory.Excludes sampleLibraries stewardRetry := by
  have hend : firstId ∈ signedHistory.signed ∧
      (signedHistory.factory.sessions[firstId]?.map (·.state)) = some .failed ∧
      ((stewardRetry.apply sampleLibraries signedHistory.factory).sessions[firstId]?.map (·.state)) =
        some .paymentDetected := by
    decide +kernel
  obtain ⟨hsigned, hbefore, hafter⟩ := hend
  obtain ⟨session', hsession', hstate'⟩ := Option.map_eq_some_iff.mp hafter
  intro hexcludes
  refine (hexcludes firstId hsigned).1 ⟨session', hsession', ?_, fun session hsession => ?_⟩
  · rw [SpawnSession.releases, hstate']
    rfl
  · rw [hsession, Option.map_some] at hbefore
    rw [hstate', Option.some.inj hbefore]
    decide

end Automaton.Factory
