import Automaton.Agent.Mortality

/-!
# Hysteresis of mortality

A tier gets worse at once and better only after the same better tier was observed three times in a
row. The law is stated over the history of observations, in which the newest is first.
-/

namespace Automaton.Agent

open Machine

section History

variable (first : MortalityTier)

/-- The runtime after the observations of a history, from a tier that is not in question. -/
def runtimeAfter : List MortalityTier → MortalityRuntime
  | [] => MortalityRuntime.default.settle first
  | observed :: past => (runtimeAfter past).observeTier observed

/-- The effective tier after the observations of a history. -/
def tierAfter (history : List MortalityTier) : MortalityTier := (runtimeAfter first history).tier

/-- The number of the last observations in a row that were of a healthier tier and left the
effective tier as it was. -/
def waitingChecks (healthier : MortalityTier) : List MortalityTier → ℕ
  | [] => 0
  | observed :: past =>
    if observed = healthier ∧ healthier.severity < (tierAfter first past).severity ∧
        tierAfter first (observed :: past) = tierAfter first past then
      waitingChecks healthier past + 1
    else 0

end History

section Steps

variable {runtime : MortalityRuntime} {first observed healthier : MortalityTier}
  {past : List MortalityTier}

theorem severity_injective : Function.Injective MortalityTier.severity := by
  intro tier other h
  cases tier <;> cases other <;> first | rfl | cases h

/-- The checks of an observation of a healthier tier. -/
def MortalityRuntime.checksOf (runtime : MortalityRuntime) (observed : MortalityTier) : ℕ :=
  if runtime.recoveryCandidate = some observed then runtime.recoveryChecks else 0

/-- An observation raises the tier, confirms it, lowers it or waits. -/
theorem observeTier_cases (halive : runtime.phase = .alive) (hdead : runtime.tier ≠ .dead)
    (hchecks : runtime.recoveryChecks ≤ 2) :
    runtime.tier.severity < observed.severity ∧
        runtime.observeTier observed = runtime.settle observed ∨
      observed = runtime.tier ∧ runtime.observeTier observed = runtime.settle runtime.tier ∨
      observed.severity < runtime.tier.severity ∧
        (runtime.checksOf observed = 2 ∧ runtime.observeTier observed = runtime.settle observed ∨
          runtime.checksOf observed < 2 ∧ runtime.observeTier observed = { runtime with
            recoveryCandidate := some observed
            recoveryChecks := runtime.checksOf observed + 1 }) := by
  have hcount : (if runtime.recoveryCandidate = some observed then
      saturatingAdd u32Max runtime.recoveryChecks 1 else 1) = runtime.checksOf observed + 1 := by
    unfold MortalityRuntime.checksOf
    split
    · unfold saturatingAdd u32Max
      omega
    · rfl
  have hbound : runtime.checksOf observed ≤ 2 := by
    unfold MortalityRuntime.checksOf
    split <;> omega
  unfold MortalityRuntime.observeTier
  rw [if_neg (by simp [halive, hdead]), hcount]
  by_cases hworse : runtime.tier.severity < observed.severity
  · exact .inl ⟨hworse, by rw [if_pos hworse]⟩
  · rw [if_neg hworse]
    by_cases hsame : observed = runtime.tier
    · exact .inr (.inl ⟨hsame, by rw [if_pos hsame]⟩)
    · have hbetter : observed.severity < runtime.tier.severity := by
        have hne := mt (fun h => severity_injective h) hsame
        omega
      rw [if_neg hsame]
      refine .inr (.inr ⟨hbetter, ?_⟩)
      unfold mortalityRecoveryChecksRequired
      by_cases hthird : runtime.checksOf observed = 2
      · exact .inl ⟨hthird, by rw [if_pos (by omega)]⟩
      · exact .inr ⟨by omega, by rw [if_neg (by omega)]⟩

/-- A dead tier stays. -/
theorem observeTier_dead (hdead : runtime.tier = .dead) :
    runtime.observeTier observed = runtime := by
  unfold MortalityRuntime.observeTier
  exact if_pos (.inr hdead)

/-- The runtime after a history: it lives, and counts the observations that wait. -/
structure Counts (first : MortalityTier) (past : List MortalityTier) : Prop where
  alive : (runtimeAfter first past).phase = .alive
  checks : (runtimeAfter first past).recoveryChecks ≤ 2
  waiting : tierAfter first past ≠ .dead →
    ∀ healthier, healthier.severity < (tierAfter first past).severity →
      waitingChecks first healthier past = (runtimeAfter first past).checksOf healthier

theorem counts_nil : Counts first [] where
  alive := rfl
  checks := Nat.zero_le 2
  waiting _ _ _ := rfl

/-- An observation after which no tier is in question leaves no check. -/
theorem waitingChecks_of_ne (h : observed ≠ healthier ∨
    ¬ healthier.severity < (tierAfter first past).severity ∨
      tierAfter first (observed :: past) ≠ tierAfter first past) :
    waitingChecks first healthier (observed :: past) = 0 := by
  rw [waitingChecks, if_neg]
  rintro ⟨hobserved, hbetter, hkept⟩
  rcases h with h | h | h
  · exact h hobserved
  · exact h hbetter
  · exact h hkept

/-- After a change of the tier no observation waits. -/
theorem Counts.settle (h : Counts first past)
    (hafter : runtimeAfter first (observed :: past) = (runtimeAfter first past).settle observed)
    (hchanged : observed.severity ≠ (runtimeAfter first past).tier.severity) :
    Counts first (observed :: past) := by
  refine ⟨by rw [hafter]; exact h.alive, by rw [hafter]; exact Nat.zero_le 2, ?_⟩
  intro _ healthier _
  rw [hafter]
  apply waitingChecks_of_ne
  right; right
  intro hkept
  rw [tierAfter, hafter] at hkept
  exact hchanged (congrArg MortalityTier.severity hkept)

theorem Counts.cons (h : Counts first past) (observed : MortalityTier) :
    Counts first (observed :: past) := by
  by_cases hdead : tierAfter first past = .dead
  · have hsame : runtimeAfter first (observed :: past) = runtimeAfter first past :=
      observeTier_dead hdead
    refine ⟨by rw [hsame]; exact h.alive, by rw [hsame]; exact h.checks, fun hne => ?_⟩
    exact absurd (by rw [tierAfter, hsame]; exact hdead) hne
  · rcases @observeTier_cases _ observed h.alive hdead h.checks with
      ⟨hworse, hafter⟩ | ⟨hsame, hafter⟩ | ⟨hbetter, ⟨-, hafter⟩ | ⟨hfew, hafter⟩⟩
    · exact h.settle hafter hworse.ne'
    · have hruntime : runtimeAfter first (observed :: past) =
          (runtimeAfter first past).settle (runtimeAfter first past).tier := hafter
      refine ⟨by rw [hruntime]; exact h.alive, by rw [hruntime]; exact Nat.zero_le 2, ?_⟩
      intro _ healthier hbetter
      rw [tierAfter, hruntime] at hbetter
      change healthier.severity < (runtimeAfter first past).tier.severity at hbetter
      rw [hruntime]
      apply waitingChecks_of_ne
      left
      rintro rfl
      rw [hsame] at hbetter
      exact lt_irrefl _ hbetter
    · exact h.settle hafter hbetter.ne
    · have hruntime : runtimeAfter first (observed :: past) = { runtimeAfter first past with
          recoveryCandidate := some observed
          recoveryChecks := (runtimeAfter first past).checksOf observed + 1 } := hafter
      have htier : tierAfter first (observed :: past) = tierAfter first past := by
        rw [tierAfter, hruntime]
        rfl
      refine ⟨by rw [hruntime]; exact h.alive, by rw [hruntime]; dsimp only; omega, ?_⟩
      intro _ healthier hhealthier
      rw [htier] at hhealthier
      by_cases hobserved : observed = healthier
      · subst hobserved
        have hwaiting := h.waiting hdead observed hhealthier
        rw [waitingChecks, if_pos ⟨rfl, hhealthier, htier⟩, hwaiting, hruntime]
        exact (if_pos rfl).symm
      · rw [waitingChecks_of_ne (.inl hobserved), hruntime]
        exact (if_neg (by simpa using hobserved)).symm

theorem counts (first : MortalityTier) (past : List MortalityTier) : Counts first past := by
  induction past with
  | nil => exact counts_nil
  | cons observed past ih => exact ih.cons observed

/-- An observation raises the tier exactly when it is more severe, and it is never more severe than
the tier after it. -/
theorem raised_iff (h : Counts first past) (observed : MortalityTier) :
    observed.severity ≤ (tierAfter first (observed :: past)).severity ∧
      ((tierAfter first past).severity < (tierAfter first (observed :: past)).severity ↔
        (tierAfter first past).severity < observed.severity) ∧
      ((tierAfter first past).severity < observed.severity →
        tierAfter first (observed :: past) = observed) := by
  have hafter : tierAfter first (observed :: past) =
      ((runtimeAfter first past).observeTier observed).tier := rfl
  have hbefore : tierAfter first past = (runtimeAfter first past).tier := rfl
  rw [hafter, hbefore]
  by_cases hdead : (runtimeAfter first past).tier = .dead
  · have hmost : observed.severity ≤ MortalityTier.dead.severity := by
      cases observed <;> decide
    rw [observeTier_dead hdead, hdead]
    exact ⟨hmost, ⟨fun hlt => absurd hlt (lt_irrefl _), fun hlt => absurd hlt (not_lt.mpr hmost)⟩,
      fun hlt => absurd hlt (not_lt.mpr hmost)⟩
  · rcases @observeTier_cases _ observed h.alive hdead h.checks with
      ⟨hworse, hresult⟩ | ⟨hsame, hresult⟩ | ⟨hbetter, ⟨-, hresult⟩ | ⟨-, hresult⟩⟩
    · rw [hresult]
      exact ⟨le_refl _, Iff.rfl, fun _ => rfl⟩
    · rw [hresult, hsame]
      exact ⟨le_refl _, Iff.rfl, fun _ => rfl⟩
    · rw [hresult]
      exact ⟨le_refl _, Iff.rfl, fun _ => rfl⟩
    · rw [hresult]
      dsimp only
      refine ⟨hbetter.le, ⟨fun hlt => absurd hlt (lt_irrefl _), fun hlt => ?_⟩, fun hlt => ?_⟩
      · omega
      · omega

/-- An observation lowers the tier exactly when two of the same tier were waiting for it. -/
theorem lowered_iff (h : Counts first past) (observed healthier : MortalityTier) :
    tierAfter first (observed :: past) = healthier ∧
        healthier.severity < (tierAfter first past).severity ↔
      tierAfter first past ≠ .dead ∧ observed = healthier ∧
        healthier.severity < (tierAfter first past).severity ∧
        waitingChecks first healthier past = 2 := by
  have hafter : tierAfter first (observed :: past) =
      ((runtimeAfter first past).observeTier observed).tier := rfl
  by_cases hdead : tierAfter first past = .dead
  · rw [hafter, observeTier_dead hdead]
    refine ⟨fun ⟨hsame, hlt⟩ => ?_, fun ⟨hne, _⟩ => absurd hdead hne⟩
    rw [← hsame] at hlt
    exact absurd hlt (lt_irrefl _)
  · have hwaiting := h.waiting hdead healthier
    rw [hafter]
    change _ = healthier ∧ healthier.severity < (runtimeAfter first past).tier.severity ↔ _
    change healthier.severity < (runtimeAfter first past).tier.severity → _ at hwaiting
    rcases @observeTier_cases _ observed h.alive hdead h.checks with
      ⟨hworse, hresult⟩ | ⟨hsame, hresult⟩ | ⟨hbetter, ⟨hthird, hresult⟩ | ⟨hfew, hresult⟩⟩
    · rw [hresult]
      constructor
      · rintro ⟨rfl, hlt⟩
        exact absurd hlt (not_lt.mpr hworse.le)
      · rintro ⟨-, rfl, hlt, -⟩
        exact absurd hlt (not_lt.mpr hworse.le)
    · rw [hresult]
      constructor
      · rintro ⟨rfl, hlt⟩
        exact absurd hlt (lt_irrefl _)
      · rintro ⟨-, rfl, hlt, -⟩
        rw [hsame] at hlt
        exact absurd hlt (lt_irrefl _)
    · rw [hresult]
      constructor
      · rintro ⟨rfl, hlt⟩
        exact ⟨hdead, rfl, hlt, (hwaiting hlt).trans hthird⟩
      · rintro ⟨-, rfl, hlt, -⟩
        exact ⟨rfl, hlt⟩
    · rw [hresult]
      constructor
      · rintro ⟨rfl, hlt⟩
        exact absurd hlt (lt_irrefl _)
      · rintro ⟨-, rfl, hlt, htwo⟩
        rw [hwaiting hlt] at htwo
        omega

end Steps

/-- One observation of resources: the liquid cycles, the runway and the time. -/
structure ResourceObservation where
  liquidCycles : ℕ
  runwaySeconds : Option ℕ
  nowNs : ℕ

/-- `observe_mortality_resources` for every observation of a list. -/
def AgentState.observeAll (state : AgentState) (observations : List ResourceObservation) :
    AgentState :=
  observations.foldl (fun state observation => state.observeMortalityResources
    observation.liquidCycles observation.runwaySeconds observation.nowNs) state

section Left

variable {state : AgentState}

/-- An observation of resources keeps the tier and the phase of what is no longer alive. -/
theorem observeMortalityResources_left (h : state.snapshot.mortality.phase ≠ .alive)
    (liquidCycles : ℕ) (runwaySeconds : Option ℕ) (nowNs : ℕ) :
    let after := state.observeMortalityResources liquidCycles runwaySeconds nowNs
    after.snapshot.mortality.tier = state.snapshot.mortality.tier ∧
      after.snapshot.mortality.phase = state.snapshot.mortality.phase := by
  intro after
  unfold after AgentState.observeMortalityResources
  split
  · exact ⟨rfl, rfl⟩
  · let seen := { state.snapshot.mortality with runwaySeconds := runwaySeconds }
    have hkept : seen.observeTier (tierForResources liquidCycles runwaySeconds) = seen :=
      if_pos (.inl h)
    have hunmarked : seen.markTerminal nowNs = seen := if_neg fun hpending => h hpending.2
    dsimp only [seen] at hkept hunmarked ⊢
    rw [hkept, hunmarked]
    exact ⟨rfl, rfl⟩


/-- So do all observations of a list. -/
theorem observeAll_left (h : state.snapshot.mortality.phase ≠ .alive)
    (observations : List ResourceObservation) :
    (state.observeAll observations).snapshot.mortality.tier = state.snapshot.mortality.tier ∧
      (state.observeAll observations).snapshot.mortality.phase =
        state.snapshot.mortality.phase := by
  induction observations generalizing state with
  | nil => exact ⟨rfl, rfl⟩
  | cons observation observations ih =>
    obtain ⟨htier, hphase⟩ := observeMortalityResources_left h observation.liquidCycles
      observation.runwaySeconds observation.nowNs
    obtain ⟨htiers, hphases⟩ := @ih (state.observeMortalityResources
      observation.liquidCycles observation.runwaySeconds observation.nowNs) (by rwa [hphase])
    exact ⟨htiers.trans htier, hphases.trans hphase⟩

end Left

/-- The law of hysteresis. Whatever was observed, the effective tier after an observation is at
least as severe as the observation; it is lowered to a tier exactly by the third observation of that
tier in a row that finds a more severe one, unless it is dead; it is raised exactly by a more severe
observation, to what is observed. And nothing that is no longer alive changes its tier or phase by
observations. -/
theorem mortality_hysteresis (first observed : MortalityTier) (past : List MortalityTier) :
    observed.severity ≤ (tierAfter first (observed :: past)).severity ∧
      (∀ healthier, tierAfter first (observed :: past) = healthier ∧
          healthier.severity < (tierAfter first past).severity ↔
        tierAfter first past ≠ .dead ∧ observed = healthier ∧
          healthier.severity < (tierAfter first past).severity ∧
          waitingChecks first healthier past = 2) ∧
      ((tierAfter first past).severity < (tierAfter first (observed :: past)).severity ↔
        (tierAfter first past).severity < observed.severity) ∧
      ((tierAfter first past).severity < observed.severity →
        tierAfter first (observed :: past) = observed) ∧
      ∀ (state : AgentState) (observations : List ResourceObservation),
        state.snapshot.mortality.phase ≠ .alive →
        (state.observeAll observations).snapshot.mortality.tier =
            state.snapshot.mortality.tier ∧
          (state.observeAll observations).snapshot.mortality.phase =
            state.snapshot.mortality.phase := by
  have hcounts := counts first past
  have hlowered := lowered_iff hcounts observed
  obtain ⟨hsevere, hraised, hobserved⟩ := raised_iff hcounts observed
  exact ⟨hsevere, hlowered, hraised, hobserved, fun state observations hleft =>
    observeAll_left hleft observations⟩

/-- A tier of death that is observed is final, although the automaton lives: the third observation
of a healthier tier in a row does not lower it. -/
theorem dead_tier_stays :
    (runtimeAfter .active [.active, .active, .active, .dead]).phase = .alive ∧
      waitingChecks .active .active [.active, .active, .dead] = 2 ∧
      tierAfter .active [.active, .active, .active, .dead] = .dead := by
  decide

end Automaton.Agent
