import Automaton.Factory.EntryFrame
import Automaton.Factory.StewardReplay
import Automaton.Library.Transition

/-!
# Refund commands are fenced

A refund command that is accepted goes on in later messages, with the generation that it was
accepted with, and writes only while the lease of its session has this generation. A command that
is accepted later gets another generation, which fences the earlier one off, as long as no
generation is issued twice.
-/

namespace Automaton.Factory

open Machine Persist Transition

/-- The leases of the refund commands are the same. -/
def SameLeases (s t : FactoryState) : Prop := t.stewardRefundLeases = s.stewardRefundLeases

namespace SameLeases

variable {s t u : FactoryState}

protected theorem refl (s : FactoryState) : SameLeases s s := rfl

protected theorem trans (h : SameLeases s t) (h' : SameLeases t u) : SameLeases s u :=
  Eq.trans h' h

end SameLeases

/-- A command, or the end of one. -/
def Op.isOfCommand : Op → Bool
  | .authorizeAndConsume .. => true
  | .clearRefundInFlight .. => true
  | _ => false

/-- Only commands and their ends write leases. -/
theorem sameLeases_apply (libraries : Libraries) {op : Op} (hop : op.isOfCommand = false)
    (state : FactoryState) : SameLeases state (op.apply libraries state) := by
  cases hentries : op.makesEntries with
  | false => exact (sameEntries_apply libraries hentries state).leases
  | true =>
    cases op with
    | finalizeConfirmedRelease sessionId guard release =>
      have hrelease : Within SameLeases
          (finalizeConfirmedRelease libraries.toExternals sessionId guard release) := by
        refine Within.bind SameLeases.trans (Within.get SameLeases.refl) fun _ => ?_
        refine Within.bind SameLeases.trans (Within.ofExcept SameLeases.refl _) fun _ => ?_
        refine Within.bind SameLeases.trans (within_getSession SameLeases.refl) fun _ => ?_
        exact Within.bind SameLeases.trans (Within.modify fun s => .refl _) fun _ s =>
          (sameEntries_applySessionEventInState s).leases
      exact hrelease state
    | authorizeAndConsume => cases hop
    | clearRefundInFlight => cases hop
    | _ => cases hentries

section Grants

variable {s : FactoryState} {sessionId : String} {generation nowMs nowNs : ℕ}
  {externals : Externals} {proof : FactoryStewardProof} {canisterId : String}

/-- The generation after a lease, and the first one where no lease is stored. -/
def nextGeneration (lease : Option RefundCommandLease) : ℕ := lease.elim 1 (·.generation + 1)

/-- The generation that a refund command gets. -/
theorem eq_nextGeneration (h : refundGeneration s sessionId nowMs = .ok generation) :
    generation = nextGeneration s.stewardRefundLeases[sessionId]? := by
  unfold refundGeneration at h
  cases hlease : s.stewardRefundLeases[sessionId]? with
  | none =>
    rw [hlease] at h
    exact (Except.ok.inj h).symm
  | some lease =>
    rw [hlease] at h
    dsimp only at h
    split at h
    · cases h
    · split at h
      · rename_i next hnext
        obtain rfl := Except.ok.inj h
        exact (checkedAdd_eq_some.mp hnext).2.symm
      · cases h

/-- An update grants a lease, or it fails and leaves the leases as they are. -/
def GrantsOrFails (sessionId : String) (generation nowMs : ℕ) (m : Update ℕ) (s : FactoryState) :
    Prop :=
  (outcome m s = .ok generation ∧
    (after m s).stewardRefundLeases = (s.grantRefundLease sessionId generation
      nowMs).stewardRefundLeases) ∨
  (∃ error, outcome m s = .error error) ∧ SameLeases s (after m s)

/-- A first step that leaves the leases as they are. -/
theorem GrantsOrFails.bind {α : Type} {m : Update α} {f : α → Update ℕ}
    (hm : SameLeases s (after m s)) (hf : ∀ a, outcome m s = .ok a →
      GrantsOrFails sessionId generation nowMs (f a) (after m s)) :
    GrantsOrFails sessionId generation nowMs (m >>= f) s := by
  cases hfirst : outcome m s with
  | error error =>
    refine .inr ⟨⟨error, outcome_bind_of_error hfirst⟩, ?_⟩
    rw [after_bind_of_error hfirst]
    exact hm
  | ok a =>
    unfold GrantsOrFails
    rw [outcome_bind_of_ok hfirst, after_bind_of_ok hfirst]
    rcases hf a hfirst with ⟨hok, hleases⟩ | ⟨herror, hleases⟩
    · refine .inl ⟨hok, hleases.trans ?_⟩
      dsimp only [FactoryState.grantRefundLease]
      rw [hm]
    · exact .inr ⟨herror, hm.trans hleases⟩

/-- A refund command is granted a lease of the next generation, or it is rejected. -/
theorem authorizeRefund_grants (sessionId : String) (nowMs : ℕ) (s : FactoryState) :
    GrantsOrFails sessionId (nextGeneration s.stewardRefundLeases[sessionId]?) nowMs
      (authorizeRefund sessionId nowMs) s := by
  refine .bind (.refl s) fun state hstate => ?_
  obtain rfl : s = state := Except.ok.inj hstate
  refine .bind (Within.ofExcept SameLeases.refl _ _) fun generation hgeneration => ?_
  obtain rfl := eq_nextGeneration (ofExcept_eq_ok hgeneration)
  refine .bind (SameEntries.session onlySession_expireForRefund _).leases fun _ _ => ?_
  refine .bind (within_ensureRefundable SameLeases.refl SameLeases.trans _) fun _ _ => ?_
  exact .bind (sameEntries_acceptRefund _).leases fun _ _ => .inl ⟨rfl, rfl⟩

/-- A command that is accepted as a refund is granted the next generation of its session, and every
other command leaves the leases as they are. -/
theorem authorizeAndConsume_cases (externals : Externals) (command : FactoryStewardCommand)
    (proof : FactoryStewardProof) (canisterId : String) (nowNs nowMs : ℕ) (s : FactoryState) :
    (∃ sessionId, command = .claimSpawnRefund sessionId ∧
      outcome (authorizeAndConsume externals command proof canisterId nowNs nowMs) s =
        .ok (.inr (nextGeneration s.stewardRefundLeases[sessionId]?)) ∧
      (after (authorizeAndConsume externals command proof canisterId nowNs nowMs)
        s).stewardRefundLeases = (s.grantRefundLease sessionId
          (nextGeneration s.stewardRefundLeases[sessionId]?) nowMs).stewardRefundLeases) ∨
    (∀ sessionId, command = .claimSpawnRefund sessionId →
      ∀ result, outcome (authorizeAndConsume externals command proof canisterId nowNs nowMs) s ≠
        .ok result) ∧
      (∀ generation, outcome (authorizeAndConsume externals command proof canisterId nowNs
        nowMs) s ≠ .ok (.inr generation)) ∧
      SameLeases s (after (authorizeAndConsume externals command proof canisterId nowNs nowMs)
        s) := by
  unfold authorizeAndConsume
  rw [outcome_bind_of_ok outcome_get, after_bind_of_ok outcome_get, after_get]
  cases hverify : verifyStewardProof externals s command proof canisterId nowNs with
  | error error => exact .inr ⟨fun _ _ _ => nofun, fun _ => nofun, rfl⟩
  | ok _ =>
    rw [outcome_bind_of_ok rfl, after_bind_of_ok rfl, after_ofExcept]
    cases command with
    | retrySpawnSession sessionId =>
      have hretry : Within SameLeases
          (Sum.inl <$> authorizeRetry sessionId nowMs : Update (SpawnSession ⊕ ℕ)) :=
        Within.map SameLeases.trans SameLeases.refl fun s => (sameEntries_authorizeRetry s).leases
      refine .inr ⟨nofun, fun generation hok => ?_, hretry s⟩
      obtain ⟨session, -, hsession⟩ := outcome_bind_eq_ok.mp hok
      cases hsession
    | claimSpawnRefund sessionId =>
      rcases authorizeRefund_grants sessionId nowMs s with
        ⟨hok, hleases⟩ | ⟨⟨error, hfailed⟩, hleases⟩
      · refine .inl ⟨sessionId, rfl, ?_, ?_⟩
        · exact outcome_bind_of_ok hok
        · exact (congrArg _ (after_bind_of_ok hok)).trans hleases
      · have hafter : after (Sum.inr <$> authorizeRefund sessionId nowMs :
            Update (SpawnSession ⊕ ℕ)) s = after (authorizeRefund sessionId nowMs) s :=
          after_bind_of_error hfailed
        refine .inr ⟨fun _ _ result hok => ?_, fun generation hok => ?_, hleases.trans ?_⟩
        · cases (outcome_bind_of_error hfailed).symm.trans hok
        · cases (outcome_bind_of_error hfailed).symm.trans hok
        · exact congrArg FactoryState.stewardRefundLeases hafter

end Grants

/-- A refund command that was accepted: its number, its session and its generation. -/
structure Continuation where
  command : ℕ
  sessionId : String
  generation : ℕ
  deriving DecidableEq, Repr

/-- A factory with the refund commands that it has accepted, the last one first, and the numbers of
those that are finished. -/
structure RefundWorld where
  factory : FactoryState
  accepted : List Continuation
  finished : List ℕ

namespace RefundWorld

/-- No refund command has been accepted yet. -/
def fresh (factory : FactoryState) : RefundWorld := ⟨factory, [], []⟩

/-- A command has been accepted and is not finished. -/
def IsRunning (world : RefundWorld) (continuation : Continuation) : Prop :=
  continuation ∈ world.accepted ∧ continuation.command ∉ world.finished

instance (world : RefundWorld) (continuation : Continuation) :
    Decidable (world.IsRunning continuation) :=
  inferInstanceAs (Decidable (_ ∧ _))

/-- The last command that was accepted for a session. -/
def last (world : RefundWorld) (sessionId : String) : Option Continuation :=
  world.accepted.find? (·.sessionId = sessionId)

end RefundWorld

/-- The guarded writes of a refund command. -/
inductive RefundWrite
  | persistRefundBroadcastRecord (record : ReleaseBroadcastRecord)
  | persistRefundTransactionRecord (claimId : String) (record : ReleaseBroadcastRecord)
  | draftRefund (session : SpawnSession) (escrow : String) (config : ReleaseBroadcastConfig)
      (pendingNonce : ℕ)
  | finalizeEscrowRefund (nowMs : ℕ) (refundTxHash : String)

/-- A write of a command, with its session and generation. -/
def RefundWrite.op (continuation : Continuation) : RefundWrite → Op
  | .persistRefundBroadcastRecord record =>
    .persistRefundBroadcastRecord continuation.sessionId continuation.generation record
  | .persistRefundTransactionRecord claimId record =>
    .persistRefundTransactionRecord claimId record continuation.sessionId continuation.generation
  | .draftRefund session escrow config pendingNonce =>
    .draftRefund continuation.sessionId continuation.generation session escrow config pendingNonce
  | .finalizeEscrowRefund nowMs refundTxHash =>
    .finalizeEscrowRefund continuation.sessionId continuation.generation nowMs refundTxHash

/-- What happens between two awaits: a command arrives, a running command writes or ends with
`clear_refund_in_flight`, or something else writes. -/
inductive RefundAct
  | authorize (command : FactoryStewardCommand) (proof : FactoryStewardProof) (canisterId : String)
      (nowNs nowMs : ℕ)
  | perform (continuation : Continuation) (write : RefundWrite)
  | finish (continuation : Continuation)
  | other (op : Op) (hop : op.isOfCommand = false)

section Runs

variable (libraries : Libraries)

/-- The world after a command with its answer: a refund that is accepted goes on. -/
def RefundWorld.answer (world : RefundWorld) (sessionId : String) (factory : FactoryState) :
    Except FactoryError (SpawnSession ⊕ ℕ) → RefundWorld
  | .ok (.inr generation) => { world with
      factory := factory
      accepted := ⟨world.accepted.length, sessionId, generation⟩ :: world.accepted }
  | _ => { world with factory := factory }

/-- What an act does. -/
def RefundAct.apply : RefundAct → RefundWorld → RefundWorld
  | .authorize command proof canisterId nowNs nowMs, world =>
    let update := authorizeAndConsume libraries.toExternals command proof canisterId nowNs nowMs
    world.answer command.sessionId (after update world.factory) (outcome update world.factory)
  | .perform continuation write, world =>
    if world.IsRunning continuation then
      { world with factory := (write.op continuation).apply libraries world.factory }
    else world
  | .finish continuation, world =>
    if world.IsRunning continuation then { world with
      factory :=
        world.factory.clearRefundInFlight continuation.sessionId continuation.generation
      finished := continuation.command :: world.finished }
    else world
  | .other op _, world => { world with factory := op.apply libraries world.factory }

/-- A command that is running does not write any more once a later command has been accepted for
its session, and no two commands that are running hold the lease of a session. -/
structure RefundWorld.Fenced (world : RefundWorld) : Prop where
  superseded : ∀ continuation, world.IsRunning continuation →
    world.last continuation.sessionId ≠ some continuation → ∀ write : RefundWrite,
      ¬ (write.op continuation).Accepted libraries world.factory ∧
        (write.op continuation).apply libraries world.factory = world.factory
  alone : ∀ continuation other, world.IsRunning continuation → world.IsRunning other →
    continuation.sessionId = other.sessionId →
    holdsRefundLease world.factory continuation.sessionId continuation.generation = true →
    holdsRefundLease world.factory other.sessionId other.generation = true → continuation = other

/-- A refund command is accepted only while no running command of its session has the generation
that it is granted. -/
def RefundAct.IssuesAnew (world : RefundWorld) : RefundAct → Prop
  | .authorize (.claimSpawnRefund sessionId) proof canisterId nowNs nowMs =>
    Op.Accepted libraries
      (.authorizeAndConsume (.claimSpawnRefund sessionId) proof canisterId nowNs nowMs)
      world.factory →
    ∀ continuation, world.IsRunning continuation → continuation.sessionId = sessionId →
      continuation.generation ≠ nextGeneration world.factory.stewardRefundLeases[sessionId]?
  | _ => True

variable {libraries}

/-- A write of a command that does not hold the lease fails. -/
theorem perform_of_not_holds {state : FactoryState} {continuation : Continuation}
    (h : holdsRefundLease state continuation.sessionId continuation.generation = false)
    (write : RefundWrite) :
    (write.op continuation).perform libraries state = .error staleRefundCommand state := by
  have hguard {α : Type} (mutation : Update α) :
      writeRefundGuarded continuation.sessionId continuation.generation mutation state =
        .error staleRefundCommand state := by
    rw [writeRefundGuarded, run_bind, run_get]
    dsimp only
    rw [ensureRefundGeneration, h, run_bind]
    rfl
  cases write <;> exact hguard _

/-- A command that holds the lease records its transaction. -/
theorem accepted_of_holds {state : FactoryState} {continuation : Continuation}
    (h : holdsRefundLease state continuation.sessionId continuation.generation = true)
    (record : ReleaseBroadcastRecord) :
    ((RefundWrite.persistRefundBroadcastRecord record).op continuation).Accepted libraries
      state := by
  change (outcome (writeRefundGuarded continuation.sessionId continuation.generation
    (modify (·.persistRefundBroadcastRecord continuation.sessionId record))) state).isOk = true
  rw [writeRefundGuarded, outcome_bind_of_ok outcome_get, after_get, ensureRefundGeneration,
    if_pos h]
  rfl

namespace RefundWorld

variable {world next : RefundWorld} {sessionId : String} {factory : FactoryState}
  {continuation : Continuation}

/-- What holds between the acts: the commands are numbered as they were accepted, a lease has the
generation of the last command of its session, and no running command that a later one follows has
the generation of the last one. -/
structure Separates (world : RefundWorld) : Prop where
  accepted : ∀ continuation ∈ world.accepted, continuation.command < world.accepted.length
  finished : ∀ number ∈ world.finished, number < world.accepted.length
  lease : ∀ (sessionId : String) last lease, world.last sessionId = some last →
    world.factory.stewardRefundLeases[sessionId]? = some lease →
      lease.generation = last.generation
  apart : ∀ continuation last, world.IsRunning continuation →
    world.last continuation.sessionId = some last → last ≠ continuation →
      last.generation ≠ continuation.generation

/-- At first there is no command to be fenced off. -/
theorem separates_fresh (factory : FactoryState) : (fresh factory).Separates where
  accepted _ h := absurd h List.not_mem_nil
  finished _ h := absurd h List.not_mem_nil
  lease _ _ _ h := by cases h
  apart _ _ h := absurd h.1 List.not_mem_nil

/-- A session with a command has a last one. -/
theorem exists_last (h : continuation ∈ world.accepted) :
    ∃ last, world.last continuation.sessionId = some last := by
  apply Option.isSome_iff_exists.mp
  rw [last, List.find?_isSome]
  exact ⟨continuation, h, decide_eq_true rfl⟩

/-- A running command that a later one follows does not hold the lease. -/
theorem Separates.not_holds (h : world.Separates) (hrunning : world.IsRunning continuation)
    (hlast : world.last continuation.sessionId ≠ some continuation) :
    holdsRefundLease world.factory continuation.sessionId continuation.generation = false := by
  obtain ⟨last, hsome⟩ := exists_last hrunning.1
  have hne : last ≠ continuation := by
    rintro rfl
    exact hlast hsome
  unfold holdsRefundLease
  cases hlease : world.factory.stewardRefundLeases[continuation.sessionId]? with
  | none => rfl
  | some lease =>
    rw [Option.any_some, h.lease _ last lease hsome hlease]
    exact decide_eq_false (h.apart continuation last hrunning hsome hne)

theorem Separates.fenced (h : world.Separates) : world.Fenced libraries where
  superseded continuation hrunning hlast write := by
    have hstale : (write.op continuation).perform libraries world.factory =
        .error staleRefundCommand world.factory :=
      perform_of_not_holds (h.not_holds hrunning hlast) write
    refine ⟨?_, after_of_error hstale⟩
    unfold Op.Accepted outcome
    rw [hstale]
    exact Bool.false_ne_true
  alone continuation other hrunning hother hsession hholds hholds' := by
    have hlast {c : Continuation} (hc : world.IsRunning c)
        (hc' : holdsRefundLease world.factory c.sessionId c.generation = true) :
        world.last c.sessionId = some c := by
      by_contra hne
      rw [h.not_holds hc hne] at hc'
      cases hc'
    have hsame := hlast hrunning hholds
    rw [hsession, hlast hother hholds'] at hsame
    exact (Option.some.inj hsame).symm

/-- The world after a refund command is accepted. -/
def accept (world : RefundWorld) (sessionId : String) (factory : FactoryState) : RefundWorld where
  factory := factory
  accepted := ⟨world.accepted.length, sessionId,
    nextGeneration world.factory.stewardRefundLeases[sessionId]?⟩ :: world.accepted
  finished := world.finished

theorem answer_accepted : world.answer sessionId factory
    (.ok (.inr (nextGeneration world.factory.stewardRefundLeases[sessionId]?))) =
      world.accept sessionId factory := rfl

/-- The last command of a session after a command is accepted for it. -/
theorem last_accept_self : (world.accept sessionId factory).last sessionId =
    some ⟨world.accepted.length, sessionId,
      nextGeneration world.factory.stewardRefundLeases[sessionId]?⟩ := by
  exact List.find?_cons_of_pos (decide_eq_true rfl)

theorem last_accept_of_ne {other : String} (h : sessionId ≠ other) :
    (world.accept sessionId factory).last other = world.last other := by
  exact List.find?_cons_of_neg (by simpa using h)

/-- The world goes on without a new command: none is taken back, and no lease is granted. -/
structure Continues (world next : RefundWorld) : Prop where
  accepted : next.accepted = world.accepted
  finished : ∀ number ∈ next.finished,
    number ∈ world.finished ∨ ∃ continuation ∈ world.accepted, continuation.command = number
  stays : ∀ number ∈ world.finished, number ∈ next.finished
  lease : ∀ (sessionId : String) lease, next.factory.stewardRefundLeases[sessionId]? = some lease →
    world.factory.stewardRefundLeases[sessionId]? = some lease

/-- A write that leaves the leases as they are. -/
theorem Continues.of_sameLeases (h : SameLeases world.factory factory) :
    world.Continues { world with factory := factory } where
  accepted := rfl
  finished _ hfinished := .inl hfinished
  stays _ hfinished := hfinished
  lease _ _ hlease := h ▸ hlease

/-- A command that is no refund, or not accepted. -/
theorem Continues.of_answer {result : Except FactoryError (SpawnSession ⊕ ℕ)}
    (h : SameLeases world.factory factory) (hresult : ∀ generation, result ≠ .ok (.inr generation)) :
    world.Continues (world.answer sessionId factory result) := by
  unfold answer
  split
  · rename_i generation
    exact absurd rfl (hresult generation)
  · exact .of_sameLeases h

/-- The end of a command. -/
theorem Continues.of_finish (h : world.IsRunning continuation) :
    world.Continues { world with
      factory :=
        world.factory.clearRefundInFlight continuation.sessionId continuation.generation
      finished := continuation.command :: world.finished } where
  accepted := rfl
  finished number hfinished := by
    rcases List.mem_cons.mp hfinished with rfl | hfinished
    · exact .inr ⟨continuation, h.1, rfl⟩
    · exact .inl hfinished
  stays _ hfinished := List.mem_cons_of_mem _ hfinished
  lease sessionId lease hlease := by
    unfold FactoryState.clearRefundInFlight at hlease
    split at hlease
    · dsimp only at hlease
      rw [BTreeMap.get?_erase] at hlease
      split at hlease
      · cases hlease
      · exact hlease
    · exact hlease

theorem Continues.separates (h : world.Continues next) (hworld : world.Separates) :
    next.Separates where
  accepted := by
    rw [h.accepted]
    exact hworld.accepted
  finished number hnumber := by
    rw [h.accepted]
    rcases h.finished number hnumber with hfinished | ⟨continuation, hmem, rfl⟩
    · exact hworld.finished number hfinished
    · exact hworld.accepted continuation hmem
  lease sessionId last lease hlast hlease := by
    rw [RefundWorld.last, h.accepted] at hlast
    exact hworld.lease sessionId last lease hlast (h.lease sessionId lease hlease)
  apart continuation last hrunning hlast := by
    rw [RefundWorld.last, h.accepted] at hlast
    have hmem : continuation ∈ world.accepted := h.accepted ▸ hrunning.1
    exact hworld.apart continuation last
      ⟨hmem, fun hfinished => hrunning.2 (h.stays _ hfinished)⟩ hlast

/-- A command that is granted a generation which no running command of its session has. -/
theorem Separates.accept (h : world.Separates)
    (hfactory : factory.stewardRefundLeases = (world.factory.grantRefundLease sessionId
      (nextGeneration world.factory.stewardRefundLeases[sessionId]?) nowMs).stewardRefundLeases)
    (hanew : ∀ continuation, world.IsRunning continuation → continuation.sessionId = sessionId →
      continuation.generation ≠ nextGeneration world.factory.stewardRefundLeases[sessionId]?) :
    (world.accept sessionId factory).Separates where
  accepted continuation hmem := by
    rcases List.mem_cons.mp hmem with rfl | hmem
    · exact Nat.lt_succ_self _
    · exact (h.accepted continuation hmem).trans (Nat.lt_succ_self _)
  finished number hnumber := (h.finished number hnumber).trans (Nat.lt_succ_self _)
  lease other last lease hlast hlease := by
    have hlease' : factory.stewardRefundLeases[other]? = some lease := hlease
    rw [hfactory, FactoryState.grantRefundLease_stewardRefundLeases, BTreeMap.get?_insert]
      at hlease'
    by_cases hsession : sessionId = other
    · subst hsession
      rw [if_pos rfl] at hlease'
      rw [last_accept_self] at hlast
      rw [← Option.some.inj hlease', ← Option.some.inj hlast]
    · rw [if_neg hsession] at hlease'
      rw [last_accept_of_ne hsession] at hlast
      exact h.lease other last lease hlast hlease'
  apart continuation last hrunning hlast hne := by
    obtain ⟨hmem, hfinished⟩ := hrunning
    by_cases hsession : sessionId = continuation.sessionId
    · subst hsession
      rw [last_accept_self] at hlast
      obtain rfl := Option.some.inj hlast
      rcases List.mem_cons.mp hmem with hsame | hmem
      · exact absurd hsame.symm hne
      · exact (hanew continuation ⟨hmem, hfinished⟩ rfl).symm
    · rw [last_accept_of_ne hsession] at hlast
      rcases List.mem_cons.mp hmem with rfl | hmem
      · exact absurd rfl hsession
      · exact h.apart continuation last ⟨hmem, hfinished⟩ hlast hne

/-- A command that is granted the generation of a running command of its session lets that one
write. -/
theorem Fenced.issuesAnew (h : (world.accept sessionId factory).Fenced libraries)
    (hworld : world.Separates)
    (hfactory : factory.stewardRefundLeases = (world.factory.grantRefundLease sessionId
      (nextGeneration world.factory.stewardRefundLeases[sessionId]?) nowMs).stewardRefundLeases)
    (hrunning : world.IsRunning continuation) (hsession : continuation.sessionId = sessionId) :
    continuation.generation ≠ nextGeneration world.factory.stewardRefundLeases[sessionId]? := by
  intro hgeneration
  subst hsession
  have hafter : (world.accept continuation.sessionId factory).IsRunning continuation :=
    ⟨List.mem_cons_of_mem _ hrunning.1, hrunning.2⟩
  have hlast : (world.accept continuation.sessionId factory).last continuation.sessionId ≠
      some continuation := by
    rw [last_accept_self]
    intro hsame
    have hnumber : world.accepted.length = continuation.command :=
      congrArg Continuation.command (Option.some.inj hsame)
    have hlt := hworld.accepted continuation hrunning.1
    omega
  have hholds : holdsRefundLease factory continuation.sessionId continuation.generation = true := by
    unfold holdsRefundLease
    rw [hfactory, FactoryState.grantRefundLease_stewardRefundLeases, BTreeMap.get?_insert,
      if_pos rfl, Option.any_some, hgeneration]
    exact decide_eq_true rfl
  obtain ⟨hstale, -⟩ := h.superseded continuation hafter hlast (.persistRefundBroadcastRecord
    (blankRecord "" "" "" 0 factory.releaseBroadcastConfig ""))
  exact hstale (accepted_of_holds hholds _)

end RefundWorld

theorem RefundAct.apply_authorize {command : FactoryStewardCommand} {proof : FactoryStewardProof}
    {canisterId : String} {nowNs nowMs : ℕ} {world : RefundWorld} :
    RefundAct.apply libraries (.authorize command proof canisterId nowNs nowMs) world =
      world.answer command.sessionId
        (after (authorizeAndConsume libraries.toExternals command proof canisterId nowNs nowMs)
          world.factory)
        (outcome (authorizeAndConsume libraries.toExternals command proof canisterId nowNs nowMs)
          world.factory) := rfl

/-- An act accepts a refund command, which is granted the next generation, or the world goes on
without a new command. -/
theorem RefundAct.apply_cases (libraries : Libraries) (act : RefundAct) (world : RefundWorld) :
    (∃ sessionId proof canisterId nowNs nowMs factory,
      act = .authorize (.claimSpawnRefund sessionId) proof canisterId nowNs nowMs ∧
      Op.Accepted libraries (.authorizeAndConsume (.claimSpawnRefund sessionId) proof canisterId
        nowNs nowMs) world.factory ∧
      factory.stewardRefundLeases = (world.factory.grantRefundLease sessionId
        (nextGeneration world.factory.stewardRefundLeases[sessionId]?) nowMs).stewardRefundLeases ∧
      act.apply libraries world = world.accept sessionId factory) ∨
    act.IssuesAnew libraries world ∧ world.Continues (act.apply libraries world) := by
  cases act with
  | authorize command proof canisterId nowNs nowMs =>
    rcases authorizeAndConsume_cases libraries.toExternals command proof canisterId nowNs nowMs
      world.factory with ⟨sessionId, rfl, hok, hleases⟩ | ⟨hrefund, hnot, hsame⟩
    · refine .inl ⟨sessionId, proof, canisterId, nowNs, nowMs, _, rfl, ?_, hleases, ?_⟩
      · exact congrArg Except.isOk hok
      · rw [RefundAct.apply_authorize, hok]
        exact RefundWorld.answer_accepted
    · right
      rw [RefundAct.apply_authorize]
      refine ⟨?_, .of_answer hsame hnot⟩
      cases command with
      | retrySpawnSession sessionId => trivial
      | claimSpawnRefund sessionId =>
        intro haccepted
        obtain ⟨result, hresult⟩ := haccepted.outcome_eq
        exact absurd hresult (hrefund sessionId rfl result)
  | perform continuation write =>
    refine .inr ⟨trivial, ?_⟩
    rw [RefundAct.apply]
    split
    · refine .of_sameLeases (sameLeases_apply libraries ?_ _)
      cases write <;> rfl
    · exact .of_sameLeases (.refl _)
  | finish continuation =>
    refine .inr ⟨trivial, ?_⟩
    rw [RefundAct.apply]
    split
    · rename_i hrunning
      exact .of_finish hrunning
    · exact .of_sameLeases (.refl _)
  | other op hop => exact .inr ⟨trivial, .of_sameLeases (sameLeases_apply libraries hop _)⟩

/-- One act fences off every command that a later one follows exactly when it grants no generation
that a running command of the session has. -/
theorem RefundAct.fenced_iff {world : RefundWorld} (h : world.Separates) (act : RefundAct) :
    (act.apply libraries world).Fenced libraries ↔ act.IssuesAnew libraries world := by
  rcases act.apply_cases libraries world with
    ⟨sessionId, proof, canisterId, nowNs, nowMs, factory, rfl, haccepted, hfactory, happly⟩ |
    ⟨hanew, hcontinues⟩
  · rw [happly]
    constructor
    · intro hfenced _ continuation hrunning hsession
      exact hfenced.issuesAnew h hfactory hrunning hsession
    · intro hanew
      exact (h.accept hfactory (hanew haccepted)).fenced
  · exact iff_of_true (hcontinues.separates h).fenced hanew

/-- One act keeps what holds between the acts when it fences off the earlier commands. -/
theorem RefundAct.separates {world : RefundWorld} (h : world.Separates) (act : RefundAct)
    (hfenced : (act.apply libraries world).Fenced libraries) :
    (act.apply libraries world).Separates := by
  have hanew := (act.fenced_iff h).mp hfenced
  rcases act.apply_cases libraries world with
    ⟨sessionId, proof, canisterId, nowNs, nowMs, factory, rfl, haccepted, hfactory, happly⟩ |
    ⟨-, hcontinues⟩
  · rw [happly]
    exact h.accept hfactory (hanew haccepted)
  · exact hcontinues.separates h

end Runs

/-- For every run of a factory: after each act, no running refund command writes that a later one
follows, and no two running ones hold the lease of a session, exactly when no act grants a
generation that a running command of the session has. -/
theorem refunds_fenced_iff (libraries : Libraries) (factory : FactoryState)
    (acts : List RefundAct) :
    Along (RefundAct.apply libraries)
        (fun world act => (act.apply libraries world).Fenced libraries) acts (.fresh factory) ↔
      Along (RefundAct.apply libraries) (fun world act => act.IssuesAnew libraries world) acts
        (.fresh factory) := by
  refine along_iff (fun world act (h : world.Separates) => ?_) ?_
    (RefundWorld.separates_fresh factory)
  · exact act.fenced_iff h
  · intro world act h hfenced
    exact act.separates h hfenced

/-- A factory whose only session is paid for, has failed and can be refunded. -/
def refundableSample : FactoryState :=
  (failedSample.updateSession firstId fun session =>
    { session with refundable := true }).updateClaim firstId fun claim =>
      { claim with refundable := true }

/-- A refund command of its steward. -/
def claimRefund (nonce nowMs : ℕ) : RefundAct :=
  .authorize (.claimSpawnRefund firstId)
    { retryProof with
      commandHash :=
        factoryStewardCommandHash sampleLibraries.toExternals (.claimSpawnRefund firstId)
      nonce := nonce
      expiresAtNs := nowMs * 1000000 }
    "factory" (nowMs * 1000000) nowMs

/-- The first command stalls until its lease expires, a second one takes over and ends, and a third
one is accepted. -/
def reissuingActs : List RefundAct :=
  [claimRefund 0 2, claimRefund 1 60003, .finish ⟨1, firstId, 2⟩, claimRefund 1 60004]

/-- The third command is granted the generation of the first one, which writes again. -/
theorem reissued_generation_passes :
    (run (RefundAct.apply sampleLibraries) reissuingActs (.fresh refundableSample)).accepted =
        [⟨2, firstId, 1⟩, ⟨1, firstId, 2⟩, ⟨0, firstId, 1⟩] ∧
      ¬ (run (RefundAct.apply sampleLibraries) reissuingActs
        (.fresh refundableSample)).Fenced sampleLibraries := by
  generalize hworld :
    run (RefundAct.apply sampleLibraries) reissuingActs (.fresh refundableSample) = world
  have hend : world.accepted = [⟨2, firstId, 1⟩, ⟨1, firstId, 2⟩, ⟨0, firstId, 1⟩] ∧
      world.finished = [1] ∧ holdsRefundLease world.factory firstId 1 = true := by
    subst hworld
    decide +kernel
  obtain ⟨haccepted, hfinished, hholds⟩ := hend
  have hrunning {number : ℕ} (hnumber : number ≠ 1)
      (hmem : (⟨number, firstId, 1⟩ : Continuation) ∈ world.accepted) :
      world.IsRunning ⟨number, firstId, 1⟩ := by
    refine ⟨hmem, ?_⟩
    rw [hfinished, List.mem_singleton]
    exact hnumber
  refine ⟨haccepted, fun hfenced => ?_⟩
  have hsame : (⟨0, firstId, 1⟩ : Continuation) = ⟨2, firstId, 1⟩ := by
    refine hfenced.alone _ _ (hrunning (by decide) ?_) (hrunning (by decide) ?_) rfl hholds hholds
    · rw [haccepted]
      simp
    · rw [haccepted]
      simp
  cases hsame

end Automaton.Factory
