import Automaton.Agent.QueueSteps
import Automaton.Library.Transition

/-!
# Death

A dead automaton stays dead. A tick that begins in a dead automaton does nothing, but a tick
that began before does not look again: its loop goes on with the next pending job.
-/

namespace Automaton.Agent

open Transition

/-- The turns that were accepted so far, for the phase of mortality. -/
def AgentWorld.TurnsAccepted (w : AgentWorld) : Prop :=
  match w.state.snapshot.mortality.phase with
  | .alive | .terminalPending => w.begun = [] ∧ w.completed = []
  | .terminalInProgress => ∃ turnId, w.begun = [turnId] ∧ w.completed = [] ∧
      w.state.snapshot.mortality.terminalTurnId = some turnId
  | .dead => ∃ turnId, w.begun = [turnId] ∧ w.completed = [turnId]

/-- The queue starts no job and gives no lease. -/
def Store.StartsNothing (s t : Store) : Prop :=
  (t.lease = s.lease ∨ t.lease = none) ∧
    ∀ jobId, t.HasStatus jobId .inFlight → s.HasStatus jobId .inFlight

/-- The automaton stays dead, and no job is popped, leased or dispatched. -/
structure AgentWorld.StaysDead (w w' : AgentWorld) : Prop where
  dead : w'.state.mortalityIsDead = true
  events : w'.events = w.events
  queue : w.state.store.StartsNothing w'.state.store

/-- The effects that start no job. -/
def QueueEffect.Ends : QueueEffect → Prop
  | .start _ | .lease _ => False
  | _ => True

section Queue

variable {s t u : Store} {nowNs : ℕ}

theorem Store.StartsNothing.refl (s : Store) : s.StartsNothing s :=
  ⟨.inl rfl, fun _ h => h⟩

theorem Store.StartsNothing.trans (hst : s.StartsNothing t) (htu : t.StartsNothing u) :
    s.StartsNothing u := by
  refine ⟨?_, fun jobId h => hst.2 jobId (htu.2 jobId h)⟩
  rcases htu.1 with hsame | hnone
  · rw [hsame]
    exact hst.1
  · exact .inr hnone

end Queue

section Phases

variable {classifier : Classifier} {w : AgentWorld} {act : AgentAct}

/-- The acts that look at mortality. -/
def AgentAct.IsMortal : AgentAct → Prop
  | .observe _ _ | .beginTerminalTurn _ | .completeTerminalTurn _ _ => True
  | _ => False

/-- The mortality and the turns that were accepted stay as they are. -/
structure AgentWorld.KeepsMortality (w w' : AgentWorld) : Prop where
  mortality : w'.state.snapshot.mortality = w.state.snapshot.mortality
  begun : w'.begun = w.begun
  completed : w'.completed = w.completed

theorem runOnePendingMutatingJob_snapshot (state : AgentState) (nowNs : ℕ) :
    (state.runOnePendingMutatingJob nowNs).state.snapshot = state.snapshot := by
  unfold AgentState.runOnePendingMutatingJob
  split
  · rfl
  · split
    · rfl
    · split
      · rfl
      · unfold AgentState.dispatchLeased
        split <;> rfl

theorem reportJob_mortality (state : AgentState) (job : ScheduledJob)
    (result : Except String JobDispatchOutcome) (nowNs : ℕ) :
    (state.reportJob classifier job result nowNs).snapshot.mortality =
      state.snapshot.mortality := by
  unfold AgentState.reportJob
  split <;> rfl

theorem startTick_mortality : w.KeepsMortality w.startTick := by
  unfold AgentWorld.startTick
  split
  · exact ⟨rfl, rfl, rfl⟩
  · dsimp only
    split
    · exact ⟨recoverOrphanedTurnLock_mortality, rfl, rfl⟩
    · exact ⟨recoverOrphanedTurnLock_mortality, rfl, rfl⟩

theorem iterate_mortality (tick : ℕ) : w.KeepsMortality (w.iterate tick) := by
  unfold AgentWorld.iterate
  split
  · split
    · exact ⟨congrArg Snapshot.mortality (runOnePendingMutatingJob_snapshot ..), rfl, rfl⟩
    · exact ⟨rfl, rfl, rfl⟩
  · exact ⟨rfl, rfl, rfl⟩

theorem report_mortality (tick : ℕ) (result : Except String JobDispatchOutcome) :
    w.KeepsMortality (w.report classifier tick result) := by
  unfold AgentWorld.report
  split
  · exact ⟨reportJob_mortality .., rfl, rfl⟩
  · exact ⟨rfl, rfl, rfl⟩

/-- The other acts keep the mortality. -/
theorem apply_mortality (h : ¬ act.IsMortal) : w.KeepsMortality (act.apply classifier w) := by
  cases act with
  | observe | beginTerminalTurn | completeTerminalTurn => exact (h trivial).elim
  | startTick => exact startTick_mortality
  | iterate tick => exact iterate_mortality tick
  | report tick result => exact report_mortality tick result
  | _ => exact ⟨rfl, rfl, rfl⟩

theorem observeTier_phase (runtime : MortalityRuntime) (observed : MortalityTier) :
    (runtime.observeTier observed).phase = runtime.phase ∧
      (runtime.observeTier observed).terminalTurnId = runtime.terminalTurnId := by
  unfold MortalityRuntime.observeTier
  dsimp only
  repeat' split
  all_goals exact ⟨rfl, rfl⟩

theorem markTerminal_phase (runtime : MortalityRuntime) (nowNs : ℕ) :
    (runtime.markTerminal nowNs).terminalTurnId = runtime.terminalTurnId ∧
      ((runtime.markTerminal nowNs).phase = runtime.phase ∨
        runtime.phase = .alive ∧ (runtime.markTerminal nowNs).phase = .terminalPending) := by
  unfold MortalityRuntime.markTerminal
  split
  · rename_i h
    exact ⟨rfl, .inr ⟨h.2, rfl⟩⟩
  · exact ⟨rfl, .inl rfl⟩

/-- An observation keeps the phase, except that a living automaton may become terminal. -/
theorem observeMortalityResources_phase (state : AgentState) (liquidCycles : ℕ)
    (runwaySeconds : Option ℕ) (nowNs : ℕ) :
    let observed := state.observeMortalityResources liquidCycles runwaySeconds nowNs
    observed.snapshot.mortality.terminalTurnId = state.snapshot.mortality.terminalTurnId ∧
      (observed.snapshot.mortality.phase = state.snapshot.mortality.phase ∨
        state.snapshot.mortality.phase = .alive ∧
          observed.snapshot.mortality.phase = .terminalPending) := by
  dsimp only
  unfold AgentState.observeMortalityResources
  split
  · exact ⟨rfl, .inl rfl⟩
  · obtain ⟨hphase, hturn⟩ := observeTier_phase
      { state.snapshot.mortality with runwaySeconds := runwaySeconds }
      (tierForResources liquidCycles runwaySeconds)
    obtain ⟨hmarked, hcases⟩ := markTerminal_phase (MortalityRuntime.observeTier
      { state.snapshot.mortality with runwaySeconds := runwaySeconds }
      (tierForResources liquidCycles runwaySeconds)) nowNs
    rw [hturn] at hmarked
    rw [hphase] at hcases
    exact ⟨hmarked, hcases⟩

theorem AgentWorld.TurnsAccepted.congr {w' : AgentWorld} (h : w.TurnsAccepted)
    (hkeeps : w.KeepsMortality w') : w'.TurnsAccepted := by
  unfold AgentWorld.TurnsAccepted at h ⊢
  rw [hkeeps.mortality, hkeeps.begun, hkeeps.completed]
  exact h

/-- At most one turn is accepted as the terminal one, and only that one is completed. -/
theorem AgentWorld.TurnsAccepted.apply (h : w.TurnsAccepted) :
    (act.apply classifier w).TurnsAccepted := by
  by_cases hmortal : act.IsMortal
  · cases act with
    | observe liquidCycles runwaySeconds =>
      obtain ⟨hturn, hcases⟩ := observeMortalityResources_phase w.state liquidCycles runwaySeconds
        w.nowNs
      unfold AgentWorld.TurnsAccepted at h ⊢
      simp only [AgentAct.apply, hturn]
      rcases hcases with hsame | ⟨halive, hpending⟩
      · rw [hsame]
        exact h
      · rw [halive] at h
        rw [hpending]
        exact h
    | beginTerminalTurn turnId =>
      rcases beginTerminalTurn_cases w turnId with heq | ⟨state, heq, hbefore, hafter, hturn, -⟩
      · rw [AgentAct.apply, heq]
        exact h
      · rw [AgentAct.apply, heq]
        unfold AgentWorld.TurnsAccepted at h ⊢
        rw [hbefore] at h
        simp only [hafter]
        exact ⟨turnId, by rw [h.1, List.nil_append], h.2, hturn⟩
    | completeTerminalTurn turnId bequestCount =>
      rcases completeTerminalTurn_cases w turnId bequestCount with
        heq | ⟨state, heq, hbefore, hturn, hafter, -⟩
      · rw [AgentAct.apply, heq]
        exact h
      · rw [AgentAct.apply, heq]
        unfold AgentWorld.TurnsAccepted at h ⊢
        rw [hbefore] at h
        simp only [hafter]
        obtain ⟨begunId, hbegun, hcompleted, hid⟩ := h
        obtain rfl := Option.some.inj (hid.symm.trans hturn)
        exact ⟨begunId, hbegun, by rw [hcompleted, List.nil_append]⟩
    | _ => exact hmortal.elim
  · exact h.congr (apply_mortality hmortal)

end Phases

section Rest

variable {classifier : Classifier} {w w' : AgentWorld} {act : AgentAct}

theorem AgentWorld.StaysDead.refl (h : w.state.mortalityIsDead = true) : w.StaysDead w :=
  ⟨h, rfl, .refl _⟩

theorem AgentWorld.StaysDead.trans {w'' : AgentWorld} (h : w.StaysDead w')
    (h' : w'.StaysDead w'') : w.StaysDead w'' :=
  ⟨h'.dead, h'.events.trans h.events, h.queue.trans h'.queue⟩

end Rest

/-- The next tick runs the terminal turn. -/
def terminalTurn : List AgentAct := [
  .wait (nanos 1200), .startTick, .iterate 1, .beginTerminalTurn "turn-1",
  .completeTerminalTurn "turn-1" 0]

end Automaton.Agent
