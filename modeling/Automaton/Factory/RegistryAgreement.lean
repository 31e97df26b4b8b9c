import Automaton.Factory.EntryFrame
import Automaton.Factory.PaymentCoherence
import Automaton.Factory.RefundFencing
import Automaton.Factory.SpawnSchedule

/-!
# Registry and sessions agree

The last write of a release enters the automaton into the registry before it applies the event that
completes the session, and what it has written stays when the event is rejected. The event is not
rejected as long as the session still waits for its release.
-/

namespace Automaton.Factory

open Machine Persist Transition

/-- The registry is the same. -/
def SameRegistry (s t : FactoryState) : Prop := t.registry = s.registry

namespace SameRegistry

variable {s t u : FactoryState} {α β : Type} {m : Update α} {f : α → Update β}

protected theorem refl (s : FactoryState) : SameRegistry s s := rfl

protected theorem trans (h : SameRegistry s t) (h' : SameRegistry t u) : SameRegistry s u :=
  Eq.trans h' h

theorem bind (hm : Within SameRegistry m) (hf : ∀ a, Within SameRegistry (f a)) :
    Within SameRegistry (m >>= f) :=
  Within.bind SameRegistry.trans hm hf

/-- Updates that make no entries at all. -/
theorem of_entries (h : Within SameEntries m) : Within SameRegistry m := fun s => (h s).registry

end SameRegistry

section Frame

variable {externals : Externals} {command : FactoryStewardCommand} {proof : FactoryStewardProof}
  {canisterId sessionId : String} {nowNs nowMs : ℕ}

theorem sameRegistry_authorizeRefund :
    Within SameRegistry (authorizeRefund sessionId nowMs) := by
  refine SameRegistry.bind (Within.get SameRegistry.refl) fun state => ?_
  refine SameRegistry.bind (Within.ofExcept SameRegistry.refl _) fun generation => ?_
  refine SameRegistry.bind (.of_entries (SameEntries.session onlySession_expireForRefund))
    fun _ => ?_
  refine SameRegistry.bind (within_ensureRefundable SameRegistry.refl SameRegistry.trans)
    fun _ => ?_
  refine SameRegistry.bind (.of_entries sameEntries_acceptRefund) fun _ => ?_
  exact SameRegistry.bind (Within.modify fun s => .refl _) fun _ => Within.pure SameRegistry.refl _

theorem sameRegistry_authorizeAndConsume :
    Within SameRegistry (authorizeAndConsume externals command proof canisterId nowNs nowMs) := by
  refine SameRegistry.bind (Within.get SameRegistry.refl) fun _ => ?_
  refine SameRegistry.bind (Within.ofExcept SameRegistry.refl _) fun _ => ?_
  cases command with
  | claimSpawnRefund sessionId =>
    exact Within.map SameRegistry.trans SameRegistry.refl sameRegistry_authorizeRefund
  | retrySpawnSession sessionId =>
    exact Within.map SameRegistry.trans SameRegistry.refl (.of_entries sameEntries_authorizeRetry)

/-- Only the last write of a release writes the registry. -/
theorem sameRegistry_apply (libraries : Libraries) {op : Op}
    (hop : ∀ sessionId guard release, op ≠ .finalizeConfirmedRelease sessionId guard release)
    (s : FactoryState) : SameRegistry s (op.apply libraries s) := by
  cases hentries : op.makesEntries with
  | false => exact (sameEntries_apply libraries hentries s).registry
  | true =>
    cases op with
    | authorizeAndConsume => exact sameRegistry_authorizeAndConsume s
    | clearRefundInFlight sessionId generation =>
      have hclear : SameRegistry s (s.clearRefundInFlight sessionId generation) := by
        unfold FactoryState.clearRefundInFlight
        split <;> exact .refl s
      exact hclear
    | finalizeConfirmedRelease sessionId guard release => exact absurd rfl (hop _ _ _)
    | _ => cases hentries

end Frame

/-- Every record of the registry is about a session that is complete. -/
def RegistryAgrees (state : FactoryState) : Prop :=
  ∀ (canisterId : String) record, state.registry[canisterId]? = some record →
    ∃ session, state.sessions[record.sessionId]? = some session ∧ session.state = .complete

/-- Registry, with the children of the parent, runtimes and constitution are the same. -/
structure Unreleased (sessionId : String) (s t : FactoryState) : Prop where
  registry : t.registry = s.registry
  runtimes : t.runtimes = s.runtimes
  constitution : t.sessions[sessionId]?.map (·.constitution) =
    s.sessions[sessionId]?.map (·.constitution)

section Agreement

variable (libraries : Libraries)

/-- After an operation registry and sessions agree, and a release that was rejected left
everything as it was. -/
structure Op.KeepsAgreement (op : Op) (state : FactoryState) : Prop where
  agrees : RegistryAgrees (op.apply libraries state)
  undone : ∀ sessionId guard release, op = .finalizeConfirmedRelease sessionId guard release →
    ¬ op.Accepted libraries state → Unreleased sessionId state (op.apply libraries state)

/-- A release that passes its draft guard is finalized only while its session waits for it. -/
def Op.FinalizesInTime (op : Op) (state : FactoryState) : Prop :=
  ∀ sessionId guard release session, op = .finalizeConfirmedRelease sessionId guard release →
    state.sessions[sessionId]? = some session → spawnReleaseDraftGuard session = guard →
      session.state = .broadcastingRelease

variable {libraries} {s t : FactoryState} {op : Op} {sessionId : String} {session : SpawnSession}
  {guard : SpawnReleaseDraftGuard}

/-- A complete session stays complete. -/
theorem complete_step (hs : Consistent s) (h : FactoryStep libraries s op t)
    (hsession : s.sessions[sessionId]? = some session) (hcomplete : session.state = .complete) :
    ∃ session', t.sessions[sessionId]? = some session' ∧ session'.state = .complete := by
  obtain ⟨-, claim, hclaim, -⟩ := hs.stored hsession
  rcases factoryStep_cases hs h with hevolves | ⟨created, _, _, _, hnone, hcreated⟩
  · obtain ⟨session', claim', hat', hpair⟩ := hevolves.kept ⟨hsession, hclaim⟩
    exact ⟨session', hat'.session, hpair.complete hcomplete⟩
  · have hother : sessionId ≠ created := by
      rintro rfl
      rw [hnone] at hsession
      cases hsession
    exact ⟨session, (hcreated.only.sessions sessionId hother).trans hsession, hcomplete⟩

variable (externals : Externals) (release : ConfirmedRelease)

/-- A release that does not pass its draft guard is rejected at once. -/
theorem run_finalizeConfirmedRelease_stale
    (h : ∀ session, s.sessions[sessionId]? = some session → spawnReleaseDraftGuard session ≠ guard) :
    ∃ error, finalizeConfirmedRelease externals sessionId guard release s = .error error s := by
  have hguard : ∃ error, ensureSpawnReleaseDraftGuard s sessionId guard = .error error := by
    unfold ensureSpawnReleaseDraftGuard
    cases hsession : s.sessions[sessionId]? with
    | none => exact ⟨_, rfl⟩
    | some session => exact ⟨staleSpawn, if_pos (h session hsession)⟩
  obtain ⟨error, herror⟩ := hguard
  refine ⟨error, ?_⟩
  rw [finalizeConfirmedRelease, writeReleaseGuarded, run_bind, run_get]
  dsimp only
  rw [herror]
  rfl

/-- A release that passes its guard enters the automaton and applies its event. -/
theorem run_finalizeConfirmedRelease (hsession : s.sessions[sessionId]? = some session)
    (hguard : spawnReleaseDraftGuard session = guard) :
    finalizeConfirmedRelease externals sessionId guard release s =
      applySessionEventInState sessionId .system release.currentTime .releaseBroadcast
        "spawn completed after receipt-confirmed release and controller handoff"
        (s.enterRegistry externals sessionId session release) := by
  have hok : ensureSpawnReleaseDraftGuard s sessionId guard = .ok () := by
    unfold ensureSpawnReleaseDraftGuard
    rw [hsession]
    exact if_neg (not_not.mpr hguard)
  rw [finalizeConfirmedRelease, writeReleaseGuarded, run_bind, run_get]
  dsimp only
  rw [hok, completeRelease]
  rw [run_bind, run_ofExcept_ok]
  dsimp only
  rw [run_bind, run_getSession hsession]
  rfl

/-- A release whose session waits for it completes the session. -/
theorem finalizeConfirmedRelease_completes (hsession : s.sessions[sessionId]? = some session)
    (hguard : spawnReleaseDraftGuard session = guard)
    (hstate : session.state = .broadcastingRelease) :
    ∃ completed t, finalizeConfirmedRelease externals sessionId guard release s =
        .ok completed t ∧
      t.sessions[sessionId]? = some completed ∧ completed.state = .complete ∧
      t.registry = (s.enterRegistry externals sessionId session release).registry := by
  have hreleased : (s.enterRegistry externals sessionId session release).sessions[sessionId]? =
      some (session.release release) := by
    have hsessions : (s.enterRegistry externals sessionId session release).sessions =
        s.sessions.modify sessionId (·.release release) := rfl
    rw [hsessions, BTreeMap.get?_modify, if_pos rfl, hsession]
    rfl
  have hrun := run_finalizeConfirmedRelease externals release hsession hguard
  have htransition : ∀ hasAudit, eventTransition (session.release release) hasAudit sessionId
      release.currentTime .releaseBroadcast =
        .ok (some ⟨some .broadcastingRelease, .complete, false⟩) := by
    intro hasAudit
    have hbroadcasting : (session.release release).state = .broadcastingRelease := hstate
    simp only [eventTransition, hbroadcasting, ne_eq, not_true_eq_false, if_false]
  rw [run_applySessionEventInState hreleased, htransition] at hrun
  exact ⟨_, _, hrun, getElem?_entered hreleased, rfl, rfl⟩

/-- A child that is linked to its parent changes no session id. -/
@[simp]
theorem SpawnedAutomatonRecord.withChild_sessionId (parent : SpawnedAutomatonRecord)
    (childId : String) : (parent.withChild childId).sessionId = parent.sessionId := by
  unfold withChild
  split <;> rfl

/-- A record is stored besides those that were there. -/
theorem registry_insertRegistryRecord {record stored : SpawnedAutomatonRecord}
    {canisterId : String} (h : (s.insertRegistryRecord record).registry[canisterId]? = some stored) :
    stored = record ∨
      ∃ earlier, s.registry[canisterId]? = some earlier ∧ stored.sessionId = earlier.sessionId := by
  unfold FactoryState.insertRegistryRecord at h
  rw [BTreeMap.get?_insert] at h
  split at h
  · exact .inl (Option.some.inj h).symm
  · right
    cases hparent : record.parentId with
    | none =>
      rw [hparent] at h
      exact ⟨stored, h, rfl⟩
    | some parentId =>
      rw [hparent, Option.elim_some, BTreeMap.get?_modify] at h
      split at h
      · obtain ⟨earlier, hearlier, rfl⟩ := Option.map_eq_some_iff.mp h
        exact ⟨earlier, hearlier, earlier.withChild_sessionId _⟩
      · exact ⟨stored, h, rfl⟩

/-- One operation keeps registry and sessions in agreement when it finalizes in time. -/
theorem Op.keepsAgreement (hs : Consistent s) (hagrees : RegistryAgrees s) (hfresh : op.IsFresh s)
    (hintime : op.FinalizesInTime s) : op.KeepsAgreement libraries s := by
  have hstep : FactoryStep libraries s op (op.apply libraries s) := ⟨hfresh, rfl⟩
  -- The records that were there before are about sessions that stay complete.
  have hearlier : ∀ (canisterId : String) (record earlier : SpawnedAutomatonRecord),
      s.registry[canisterId]? = some earlier → record.sessionId = earlier.sessionId →
      ∃ session, (op.apply libraries s).sessions[record.sessionId]? = some session ∧
        session.state = .complete := by
    intro canisterId record earlier hstored hsame
    obtain ⟨session, hsession, hcomplete⟩ := hagrees canisterId earlier hstored
    rw [hsame]
    exact complete_step hs hstep hsession hcomplete
  by_cases hop : ∃ sessionId guard release, op = .finalizeConfirmedRelease sessionId guard release
  · obtain ⟨sessionId, guard, release, rfl⟩ := hop
    by_cases hguard : ∃ session, s.sessions[sessionId]? = some session ∧
        spawnReleaseDraftGuard session = guard
    · obtain ⟨session, hsession, hguard⟩ := hguard
      obtain ⟨completed, t, hrun, hcompleted, hcomplete, hregistry⟩ :=
        finalizeConfirmedRelease_completes libraries.toExternals release hsession hguard
          (hintime _ _ _ session rfl hsession hguard)
      have happly : Op.apply libraries (.finalizeConfirmedRelease sessionId guard release) s = t :=
        after_of_ok hrun
      refine ⟨fun canisterId record hrecord => ?_, fun _ _ _ _ hrejected => ?_⟩
      · rw [happly, hregistry] at hrecord
        rcases registry_insertRegistryRecord hrecord with hentered | ⟨earlier, hstored, hsame⟩
        · have hid : record.sessionId = sessionId :=
            (congrArg SpawnedAutomatonRecord.sessionId hentered).trans (hs.stored hsession).1
          rw [happly, hid]
          exact ⟨completed, hcompleted, hcomplete⟩
        · exact hearlier canisterId record earlier hstored hsame
      · have haccepted : outcome (Factory.finalizeConfirmedRelease libraries.toExternals sessionId
            guard release) s = .ok completed := by
          unfold outcome
          rw [hrun]
        exact absurd (congrArg Except.isOk haccepted) hrejected
    · obtain ⟨error, hrun⟩ := run_finalizeConfirmedRelease_stale libraries.toExternals release
        fun session hsession hpasses => hguard ⟨session, hsession, hpasses⟩
      have happly : Op.apply libraries (.finalizeConfirmedRelease sessionId guard release) s = s :=
        after_of_error hrun
      constructor
      · rw [happly]
        exact hagrees
      · intro _ _ _ _ _
        rw [happly]
        exact ⟨rfl, rfl, rfl⟩
  · have hother : ∀ sessionId guard release,
        op ≠ .finalizeConfirmedRelease sessionId guard release :=
      fun sessionId guard release hsame => hop ⟨sessionId, guard, release, hsame⟩
    refine ⟨fun canisterId record hrecord => ?_, fun sessionId guard release hsame _ =>
      absurd hsame (hother sessionId guard release)⟩
    rw [sameRegistry_apply libraries hother s] at hrecord
    exact hearlier canisterId record record hrecord rfl

end Agreement

/-- For every run of a factory that starts empty: as long as every release that passes its guard is
finalized while its session waits for it, every record of the registry is about a session that is
complete, and a release that is rejected leaves everything as it was. -/
theorem registry_agrees_with_sessions (libraries : Libraries) (factory : FactoryState)
    (ops : List Op) (hempty : factory.IsEmpty)
    (hregistry : ∀ canisterId : String, factory.registry[canisterId]? = none)
    (hops : Along (Op.apply libraries) (fun state op => op.IsFresh state ∧
      op.FinalizesInTime state) ops factory) :
    Along (Op.apply libraries) (fun state op => op.KeepsAgreement libraries state) ops factory := by
  refine Along.of_invariant
    (fun state op (hstate : Consistent state ∧ RegistryAgrees state) hop => ?_) ⟨.of_isEmpty hempty, fun canisterId record hrecord => ?_⟩ hops
  · have hkeeps : op.KeepsAgreement libraries state :=
      Op.keepsAgreement hstate.1 hstate.2 hop.1 hop.2
    exact ⟨hkeeps, hstate.1.step ⟨hop.1, rfl⟩, hkeeps.agrees⟩
  · rw [hregistry] at hrecord
    cases hrecord

/-- The first session is paid for, and the worker of its spawn has sent the release transaction. -/
def releasingOps : List Op :=
  [.createSpawnSession sampleRequest firstId humanOrigin 1,
    .applyPaymentScan 2 [fullPayment] 9,
    .startSpawn firstId 3,
    .installSucceeded firstId (some "child") (some "0x4444444444444444444444444444444444444444")
      (some childRuntime) 4 "installed",
    .persistReleaseBroadcastRecord firstId ⟨0, none⟩ releaseRecord]

/-- The worker has found the release confirmed. -/
def confirmedRelease : Op :=
  .finalizeConfirmedRelease firstId ⟨0, some (releaseBroadcastDraftIdentity releaseRecord)⟩
    ⟨"child", childRuntime, "0x02", 5, releaseRecord, "dev-build", ["factory"], 1800003⟩

/-- The refund command of the steward after the session's time. -/
def lateRefund : Op :=
  .authorizeAndConsume (.claimSpawnRefund firstId)
    { retryProof with
      commandHash :=
        factoryStewardCommandHash sampleLibraries.toExternals (.claimSpawnRefund firstId)
      expiresAtNs := 1800002000000 }
    "factory" 1800002000000 1800002

/-- The release is confirmed before the session expires. -/
theorem confirmed_release_agrees :
    Along (Op.apply sampleLibraries) (fun state op => op.KeepsAgreement sampleLibraries state)
      (releasingOps ++ [confirmedRelease]) spawningFactory := by
  have hwaits : (run (Op.apply sampleLibraries) releasingOps spawningFactory).sessions[firstId]?.map
      (·.state) = some .broadcastingRelease := by
    decide +kernel
  refine registry_agrees_with_sessions sampleLibraries spawningFactory _
    spawningFactory_isIdle.1.1 (fun canisterId => ?empty) ⟨⟨?fresh, ?created⟩, ⟨trivial, ?paid⟩,
      ⟨trivial, ?started⟩, ⟨trivial, ?installed⟩, ⟨trivial, ?drafted⟩, ⟨trivial, ?confirmed⟩,
      trivial⟩
  case empty => simp [spawningFactory, FactoryState.default]
  case fresh => simp [Op.IsFresh, spawningFactory, FactoryState.default]
  case confirmed =>
    intro sessionId guard release session hop hsession _
    cases hop
    have hstate : (some session).map (·.state) = some .broadcastingRelease :=
      (congrArg (Option.map (·.state)) hsession).symm.trans hwaits
    exact Option.some.inj hstate
  all_goals
    intro sessionId guard release session hop
    cases hop

/-- The refund command expires the session while the worker awaits the receipt. The release is
rejected then, and its record stays. -/
theorem rejected_release_registered :
    ¬ confirmedRelease.Accepted sampleLibraries
        (run (Op.apply sampleLibraries) (releasingOps ++ [lateRefund]) spawningFactory) ∧
      ¬ RegistryAgrees (run (Op.apply sampleLibraries)
        (releasingOps ++ [lateRefund, confirmedRelease]) spawningFactory) := by
  have hend : ¬ confirmedRelease.Accepted sampleLibraries
        (run (Op.apply sampleLibraries) (releasingOps ++ [lateRefund]) spawningFactory) ∧
      (run (Op.apply sampleLibraries) (releasingOps ++ [lateRefund, confirmedRelease])
        spawningFactory).registry["child"]?.map (·.sessionId) = some firstId ∧
      (run (Op.apply sampleLibraries) (releasingOps ++ [lateRefund, confirmedRelease])
        spawningFactory).sessions[firstId]?.map (·.state) = some .expired := by
    decide +kernel
  obtain ⟨hrejected, hrecord, hexpired⟩ := hend
  refine ⟨hrejected, fun hagrees => ?_⟩
  obtain ⟨record, hstored, hid⟩ := Option.map_eq_some_iff.mp hrecord
  obtain ⟨session, hsession, hcomplete⟩ := hagrees "child" record hstored
  rw [hid] at hsession
  rw [hsession, Option.map_some, hcomplete] at hexpired
  cases hexpired

end Automaton.Factory
