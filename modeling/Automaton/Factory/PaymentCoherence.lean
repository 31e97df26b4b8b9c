import Automaton.Factory.SessionEvolution
import Automaton.Library.Transition

/-!
# Session states and payment statuses

In every state that the writes of the factory reach from an empty one, session states, payment
statuses and refund flags agree, and a refunded session never changes again.
-/

namespace Automaton.Factory

open Persist Transition

/-- A factory without sessions. -/
def FactoryState.IsEmpty (state : FactoryState) : Prop :=
  ∀ sessionId : String, state.sessions[sessionId]? = none ∧ state.auditLog[sessionId]? = none

/-- A session is created under an id that no session has. -/
def Op.IsFresh (op : Op) (state : FactoryState) : Prop :=
  match op with
  | .createSpawnSession _ sessionId _ _ => state.sessions[sessionId]? = none
  | _ => True

/-- One write, whether it succeeds or fails. -/
def FactoryStep (libraries : Libraries) (s : FactoryState) (op : Op) (t : FactoryState) : Prop :=
  op.IsFresh s ∧ t = op.apply libraries s

/-- Session state, payment status and refund flags, as they belong together. -/
structure PaymentCoherent (session : SpawnSession) (claim : EscrowClaim) : Prop where
  awaiting : session.state = .awaitingPayment →
    session.paymentStatus = .unpaid ∨ session.paymentStatus = .partiallyPaid
  active : session.state = .paymentDetected ∨ session.state = .spawning ∨
    session.state = .broadcastingRelease ∨ session.state = .complete →
    session.paymentStatus = .paid
  failed : session.state = .failed →
    session.paymentStatus = .paid ∨ session.paymentStatus = .refunded
  refunded : session.paymentStatus = .refunded →
    session.state = .failed ∨ session.state = .expired
  flags : session.refundable = claim.refundable
  refundable : session.refundable = true ↔ (session.state = .failed ∨ session.state = .expired) ∧
    (session.paymentStatus = .partiallyPaid ∨ session.paymentStatus = .paid)

/-- What the writes keep: every session is stored under its id, with a claim that it agrees
with, and nothing is logged about ids that are not in use. -/
structure Consistent (state : FactoryState) : Prop where
  stored : ∀ {sessionId : String} {session}, state.sessions[sessionId]? = some session →
    session.sessionId = sessionId ∧
      ∃ claim, state.escrowClaims[sessionId]? = some claim ∧ Coherent session claim
  silent : ∀ {sessionId : String}, state.sessions[sessionId]? = none →
    state.auditLog[sessionId]? = none

variable {libraries : Libraries} {s t : FactoryState}

/-- The derived flag says what it should. -/
theorem Coherent.paymentCoherent {session : SpawnSession} {claim : EscrowClaim}
    (h : Coherent session claim) : PaymentCoherent session claim where
  awaiting := h.awaiting
  active := h.active
  failed := h.failed
  refunded := h.refunded
  flags := h.sessionFlag.trans h.claimFlag.symm
  refundable := by
    rw [h.sessionFlag]
    simp only [deriveRefundable, Bool.and_eq_true, Bool.or_eq_true, decide_eq_true_eq]
    tauto

theorem Consistent.of_isEmpty (h : s.IsEmpty) : Consistent s where
  stored hsession := by
    rw [(h _).1] at hsession
    cases hsession
  silent _ := (h _).2

/-- Every write but a creation keeps the factory consistent. -/
theorem Consistent.evolves (hs : Consistent s) (h : Evolves s t) : Consistent t where
  stored := by
    intro sessionId session' hsession'
    cases hsession : s.sessions[sessionId]? with
    | none =>
      rw [h.absent hsession] at hsession'
      cases hsession'
    | some session =>
      obtain ⟨hid, claim, hclaim, hcoherent⟩ := hs.stored hsession
      obtain ⟨session'', claim', hat', hpair⟩ := h.kept ⟨hsession, hclaim⟩
      obtain rfl := Option.some.inj (hat'.session.symm.trans hsession')
      exact ⟨hpair.sessionId.trans hid, claim', hat'.claim, hpair.coherent hcoherent⟩
  silent := by
    intro sessionId hnone
    cases hsession : s.sessions[sessionId]? with
    | none => exact (h.silent hsession).trans (hs.silent hsession)
    | some session =>
      obtain ⟨-, claim, hclaim, -⟩ := hs.stored hsession
      obtain ⟨session', claim', hat', -⟩ := h.kept ⟨hsession, hclaim⟩
      rw [hat'.session] at hnone
      cases hnone

/-- A new session is coherent with its claim. -/
theorem coherent_newSession (externals : SessionExternals) (request : CreateSpawnSessionRequest)
    (amounts : QuoteAmounts) (sessionId : String) (origin : SessionOrigin) (nowMs : ℕ) :
    Coherent (newSession externals s request amounts sessionId origin nowMs)
      (newEscrowClaim s (newSession externals s request amounts sessionId origin nowMs) nowMs) := by
  constructor <;> simp [newSession, newEscrowClaim, deriveRefundable]

/-- A creation keeps the factory consistent. -/
theorem Consistent.created {externals : SessionExternals} {sessionId : String}
    {origin : SessionOrigin} {nowMs : ℕ} {session : SpawnSession} (hs : Consistent s)
    (h : Created externals sessionId origin nowMs s session t) : Consistent t where
  stored := by
    intro other session' hsession'
    by_cases hother : other = sessionId
    · subst hother
      obtain rfl := Option.some.inj (h.stored.session.symm.trans hsession')
      obtain ⟨request, amounts, rfl⟩ := h.built
      exact ⟨rfl, _, h.stored.claim, coherent_newSession ..⟩
    · rw [h.only.sessions other hother] at hsession'
      obtain ⟨hid, claim, hclaim, hcoherent⟩ := hs.stored hsession'
      exact ⟨hid, claim, (h.only.claims other hother).trans hclaim, hcoherent⟩
  silent := by
    intro other hnone
    have hother : other ≠ sessionId := by
      rintro rfl
      rw [h.stored.session] at hnone
      cases hnone
    rw [h.only.sessions other hother] at hnone
    rw [h.only.audits other hother]
    exact hs.silent hnone

/-- What one write does: the sessions evolve, or one is created under a new id, or a creation
is refused. -/
theorem factoryStep_cases {op : Op} (hs : Consistent s) (h : FactoryStep libraries s op t) :
    Evolves s t ∨ ∃ sessionId origin nowMs session, s.sessions[sessionId]? = none ∧
      Created libraries.toSessionExternals sessionId origin nowMs s session t := by
  obtain ⟨hfresh, rfl⟩ := h
  by_cases hcreate : ∃ request sessionId origin nowMs,
      op = .createSpawnSession request sessionId origin nowMs
  · obtain ⟨request, sessionId, origin, nowMs, rfl⟩ := hcreate
    have hunused : Unused s sessionId := ⟨hfresh, hs.silent hfresh⟩
    rcases createSpawnSessionWithSessionId_cases libraries.toSessionExternals request origin nowMs
      hunused with ⟨e, hrun⟩ | ⟨session, t, hrun, hcreated⟩
    · left
      have happly : Op.apply libraries (.createSpawnSession request sessionId origin nowMs) s = s :=
        after_of_error hrun
      rw [happly]
      exact Evolves.refl s
    · right
      have happly : Op.apply libraries (.createSpawnSession request sessionId origin nowMs) s = t :=
        after_of_ok hrun
      rw [happly]
      exact ⟨sessionId, origin, nowMs, session, hfresh, hcreated⟩
  · left
    exact evolves_perform libraries
      (fun request sessionId origin nowMs heq => hcreate ⟨request, sessionId, origin, nowMs, heq⟩) s

/-- One write keeps the factory consistent. -/
theorem Consistent.step {op : Op} (hs : Consistent s) (h : FactoryStep libraries s op t) :
    Consistent t := by
  rcases factoryStep_cases hs h with hevolves | ⟨_, _, _, _, _, hcreated⟩
  · exact hs.evolves hevolves
  · exact hs.created hcreated

/-- One write leaves a refunded session as it is. -/
theorem refunded_step {op : Op} {sessionId : String} {session : SpawnSession} (hs : Consistent s)
    (h : FactoryStep libraries s op t) (hsession : s.sessions[sessionId]? = some session)
    (hrefunded : session.paymentStatus = .refunded) :
    ∃ session', t.sessions[sessionId]? = some session' ∧ session'.state = session.state ∧
      session'.paymentStatus = .refunded := by
  obtain ⟨-, claim, hclaim, hcoherent⟩ := hs.stored hsession
  rcases factoryStep_cases hs h with hevolves | ⟨created, _, _, _, hnone, hcreated⟩
  · obtain ⟨session', claim', hat', hpair⟩ := hevolves.kept ⟨hsession, hclaim⟩
    exact ⟨session', hat'.session, hpair.frozen hcoherent hrefunded⟩
  · have hother : sessionId ≠ created := by
      rintro rfl
      rw [hnone] at hsession
      cases hsession
    exact ⟨session, (hcreated.only.sessions sessionId hother).trans hsession, rfl, hrefunded⟩

/-- Every run keeps the factory consistent. -/
theorem consistent_of_reachable
    (h : Reachable FactoryState.IsEmpty (FactoryStep libraries) s) : Consistent s :=
  h.invariant (fun _ => Consistent.of_isEmpty) fun _ _ _ hs hstep => hs.step hstep

/-- In every state that is reached from an empty factory, every session has a claim that it
is coherent with; and a session that is refunded there has the same state and is refunded in
every state reached later. -/
theorem sessions_payment_coherent
    (hreach : Reachable FactoryState.IsEmpty (FactoryStep libraries) s) :
    (∀ (sessionId : String) session, s.sessions[sessionId]? = some session →
      ∃ claim, s.escrowClaims[sessionId]? = some claim ∧ PaymentCoherent session claim) ∧
    ∀ t, Reachable (· = s) (FactoryStep libraries) t →
      ∀ (sessionId : String) session, s.sessions[sessionId]? = some session →
        session.paymentStatus = .refunded →
        ∃ session', t.sessions[sessionId]? = some session' ∧ session'.state = session.state ∧
          session'.paymentStatus = .refunded := by
  have hs := consistent_of_reachable hreach
  constructor
  · intro sessionId session hsession
    obtain ⟨-, claim, hclaim, hcoherent⟩ := hs.stored hsession
    exact ⟨claim, hclaim, hcoherent.paymentCoherent⟩
  · intro t hlater sessionId session hsession hrefunded
    let Kept (u : FactoryState) : Prop := Consistent u ∧ ∃ session',
      u.sessions[sessionId]? = some session' ∧ session'.state = session.state ∧
        session'.paymentStatus = .refunded
    have hkept : Kept t := by
      refine hlater.invariant ?_ ?_
      · rintro _ rfl
        exact ⟨hs, session, hsession, rfl, hrefunded⟩
      · rintro u op v ⟨hu, session', hsession', hstate, hstatus⟩ hstep
        obtain ⟨session'', hsession'', hstate', hstatus'⟩ :=
          refunded_step hu hstep hsession' hstatus
        exact ⟨hu.step hstep, session'', hsession'', hstate'.trans hstate, hstatus'⟩
    exact hkept.2

/-- A factory whose only session has expired unpaid. -/
def expiredSample : FactoryState :=
  Op.apply sampleLibraries (.expireSpawnSession firstId 1800002)
    (Op.apply sampleLibraries (.createSpawnSession sampleRequest firstId humanOrigin 1) .default)

/-- The session that has expired is coherent with its claim. -/
theorem expiredSample_coherent : ∃ session claim,
    expiredSample.sessions[firstId]? = some session ∧ session.state = .expired ∧
      PaymentCoherent session claim := by
  have hstart : Reachable FactoryState.IsEmpty (FactoryStep sampleLibraries) .default :=
    .start fun _ => ⟨by simp [FactoryState.default], by simp [FactoryState.default]⟩
  have hcreated := hstart.step (a := Op.createSpawnSession sampleRequest firstId humanOrigin 1)
    ⟨by simp [Op.IsFresh, FactoryState.default], rfl⟩
  have hexpired : Reachable FactoryState.IsEmpty (FactoryStep sampleLibraries) expiredSample :=
    hcreated.step (a := Op.expireSpawnSession firstId 1800002) ⟨trivial, rfl⟩
  have hstate : expiredSample.sessions[firstId]?.map (·.state) = some .expired := by
    decide +kernel
  obtain ⟨session, hsession, hexpiredState⟩ := Option.map_eq_some_iff.mp hstate
  obtain ⟨claim, -, hcoherent⟩ := (sessions_payment_coherent hexpired).1 firstId session hsession
  exact ⟨session, claim, hsession, hexpiredState, hcoherent⟩

end Automaton.Factory
