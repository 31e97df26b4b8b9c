import Automaton.Strategy.Budget

/-!
# Quarantine of strategies

A strategy that has failed often enough since it was last confirmed is quarantined for a cooldown.
The count of its failures stays when the cooldown is over, and a strategy whose count has reached
the threshold is not released.
-/

namespace Automaton.Strategy

open Machine Transition

/-- A policy, whose threshold is a `u32`. -/
structure FailurePolicy extends QuarantinePolicy where
  fits : failureQuarantineThreshold ≤ u32Max

/-- A reason of a failure. The callers of `record_strategy_failure` give one that is not blank. -/
structure FailureReason where
  text : String
  notBlank : Text.trim text ≠ ""

/-- A failure that was counted, with the policy at that time. -/
structure CountedFailure where
  policy : FailurePolicy
  nowNs : ℕ

/-- What happens to the executions and the quarantines. The copies of executions are arbitrary. -/
inductive QuarantineAct
  | insert (turnId planDigest : String) (plan : ExecutionPlan) (nowNs : ℕ)
  | progress (expected desired : PendingStrategyExecution)
  | record (policy : FailurePolicy) (key : StrategyTemplateKey) (reason : FailureReason)
      (nowNs : ℕ)
  | fail (policy : FailurePolicy) (copy : PendingStrategyExecution) (failure : StrategyFailure)
      (kind : StrategyOutcomeKind) (reason : String) (nowNs : ℕ)
  | confirm (copy : PendingStrategyExecution) (nowNs : ℕ)

/-- The tables, and the failures of every strategy since it was last confirmed, the latest one
first. -/
structure QuarantineWorld where
  rows : StrategyRows
  failures : String → List CountedFailure

/-- Nothing has happened. -/
def QuarantineWorld.fresh : QuarantineWorld := ⟨.empty, fun _ => []⟩

/-- The world with other tables, and other failures of a strategy. -/
def QuarantineWorld.write (world : QuarantineWorld) (rows : StrategyRows) (strategyId : String)
    (failures : List CountedFailure) : QuarantineWorld :=
  ⟨rows, Function.update world.failures strategyId failures⟩

/-- The world after a transaction that writes the failures of a strategy when it does something. -/
def QuarantineWorld.after (world : QuarantineWorld) (result : Except String (Bool × StrategyRows))
    (strategyId : String) (failures : List CountedFailure) : QuarantineWorld :=
  result.toOption.elim world fun (changed, rows) =>
    if changed then world.write rows strategyId failures else { world with rows := rows }

/-- The release time that was set by the latest failure at which the threshold was reached. -/
def releaseOf : List CountedFailure → Option ℕ
  | [] => none
  | failure :: earlier =>
    if failure.policy.failureQuarantineThreshold ≤ earlier.length + 1 then
      some (failure.policy.releaseAfterNs failure.nowNs)
    else releaseOf earlier

section Runs

variable (keccakHex : String → String)

/-- The world after an act. -/
def QuarantineAct.apply (act : QuarantineAct) (world : QuarantineWorld) : QuarantineWorld :=
  match act with
  | .insert turnId planDigest plan nowNs =>
    (world.rows.insertPendingStrategyExecution
      (newPendingExecution turnId planDigest plan nowNs)).toOption.elim world fun (_, rows) =>
        { world with rows := rows }
  | .progress expected desired =>
    { world with rows := (world.rows.compareAndUpdate expected desired).2 }
  | .record policy key reason nowNs =>
    world.write
      (world.rows.recordStrategyFailure policy.toQuarantinePolicy key reason.text nowNs)
      (strategyIdFromKey key) (⟨policy, nowNs⟩ :: world.failures (strategyIdFromKey key))
  | .fail policy copy failure kind reason nowNs =>
    world.after
      (world.rows.applyTerminalStrategyFailure keccakHex policy.toQuarantinePolicy
        { copy with state := failure.state } kind reason nowNs)
      (strategyIdFromKey copy.key)
      (⟨policy, nowNs⟩ :: world.failures (strategyIdFromKey copy.key))
  | .confirm copy nowNs =>
    world.after (world.rows.applyConfirmedStrategyExecution keccakHex copy nowNs)
      (strategyIdFromKey copy.key) []

/-- The worlds that are reached. -/
def QuarantineReachable : QuarantineWorld → Prop :=
  Reachable (· = QuarantineWorld.fresh) (StepOf (QuarantineAct.apply keccakHex))

end Runs

/-- The phases of a quarantine at a time: below the threshold there is none, unless it was reached
before; until the release time there is one, and from then on there is none. -/
structure QuarantineEnds (rows : StrategyRows) (policy : FailurePolicy) (strategyId : String)
    (failures : List CountedFailure) (nowNs : ℕ) : Prop where
  below : failures.length < policy.failureQuarantineThreshold →
    (∀ release, releaseOf failures = some release → release ≤ nowNs) →
      rows.activeStrategyQuarantine policy.toQuarantinePolicy strategyId nowNs = none
  during : ∀ release, releaseOf failures = some release → nowNs < release →
    rows.activeStrategyQuarantine policy.toQuarantinePolicy strategyId nowNs ≠ none
  released : ∀ release, releaseOf failures = some release → release ≤ nowNs →
    rows.activeStrategyQuarantine policy.toQuarantinePolicy strategyId nowNs = none

/-- What the record of a strategy says after its failures: how many there were, and the release
time. -/
def quarantineOf : List CountedFailure → Option (ℕ × Option ℕ)
  | [] => none
  | failures => some (min failures.length u32Max, releaseOf failures)

/-- The records are those of the strategies under whose names they are stored, and say what the
failures are. -/
structure CountsFailures (world : QuarantineWorld) : Prop where
  named : ∀ (strategyId : String) (quarantine : StrategyQuarantine),
    world.rows.quarantines[strategyId]? = some quarantine → quarantine.strategyId = strategyId
  counted : ∀ strategyId, (world.rows.quarantines[strategyId]?).map (fun quarantine =>
    (quarantine.failureCount, quarantine.releaseAfterNs)) =
      quarantineOf (world.failures strategyId)

section Counting

variable {keccakHex : String → String} {rows next : StrategyRows} {world : QuarantineWorld}
  {strategyId reason : String} {failures : List CountedFailure} {policy : FailurePolicy} {nowNs : ℕ}
  {changed : Bool} {execution : PendingStrategyExecution}

/-- A strategy is named by something. -/
theorem trim_strategyIdFromKey_ne (key : StrategyTemplateKey) :
    Text.trim (strategyIdFromKey key) ≠ "" := by
  have hcolon : ':' ∈ (strategyIdFromKey key).toList := by
    simp [strategyIdFromKey]
  exact Text.trim_ne_empty hcolon (by decide)

/-- The record that a failure is counted in. -/
def StrategyRows.quarantineBefore (rows : StrategyRows) (strategyId reason : String) (nowNs : ℕ) :
    StrategyQuarantine :=
  (rows.quarantines[strategyId]?).getD (newQuarantine strategyId reason nowNs)

/-- A failure that is recorded is counted for its strategy. -/
theorem recordStrategyFailure_quarantines (rows : StrategyRows) (policy : FailurePolicy)
    (key : StrategyTemplateKey) (reason : FailureReason) (nowNs : ℕ) :
    ∃ quarantine, (rows.recordStrategyFailure policy.toQuarantinePolicy key reason.text
        nowNs).quarantines = rows.quarantines.insert (strategyIdFromKey key) quarantine ∧
      let counted := (rows.quarantineBefore (strategyIdFromKey key) reason.text nowNs).countFailure
        policy.toQuarantinePolicy reason.text nowNs
      quarantine.strategyId = counted.strategyId ∧
        quarantine.failureCount = counted.failureCount ∧
          quarantine.releaseAfterNs = counted.releaseAfterNs := by
  have hnamed : ¬ (Text.trim (strategyIdFromKey key) = "" ∨ Text.trim reason.text = "") := by
    rintro (hid | hreason)
    · exact trim_strategyIdFromKey_ne key hid
    · exact reason.notBlank hreason
  unfold StrategyRows.recordStrategyFailure
  dsimp only
  rw [if_neg hnamed]
  refine ⟨_, rfl, ?_⟩
  split
  · exact ⟨rfl, rfl, rfl⟩
  · exact ⟨rfl, rfl, rfl⟩

/-- A terminal failure that is done is counted for the strategy of the execution. -/
theorem applyTerminalStrategyFailure_quarantines {kind : StrategyOutcomeKind}
    (h : rows.applyTerminalStrategyFailure keccakHex policy.toQuarantinePolicy execution kind reason
      nowNs = .ok (changed, next)) :
    changed = false ∧ next = rows ∨ changed = true ∧
      let counted := (rows.quarantineBefore (strategyIdFromKey execution.key) reason
        nowNs).countFailure policy.toQuarantinePolicy reason nowNs
      next.quarantines = rows.quarantines.insert counted.strategyId counted := by
  unfold StrategyRows.applyTerminalStrategyFailure at h
  split at h
  · obtain ⟨rfl, rfl⟩ := Prod.mk.inj (Except.ok.inj h)
    exact .inl ⟨rfl, rfl⟩
  · split at h
    · cases h
    · dsimp only at h
      obtain ⟨stats, -, h⟩ := Fallible.bind_eq_ok.mp h
      rcases whenOpen_spec h with ⟨rfl, rfl⟩ | ⟨rfl, rfl, -⟩
      · exact .inl ⟨rfl, rfl⟩
      · exact .inr ⟨rfl, rfl⟩

/-- A confirmation that is done forgets the failures of the strategy of the execution. -/
theorem applyConfirmedStrategyExecution_quarantines
    (h : rows.applyConfirmedStrategyExecution keccakHex execution nowNs = .ok (changed, next)) :
    changed = false ∧ next = rows ∨ changed = true ∧
      next.quarantines = rows.quarantines.erase (strategyIdFromKey execution.key) := by
  unfold StrategyRows.applyConfirmedStrategyExecution at h
  split at h
  · obtain ⟨rfl, rfl⟩ := Prod.mk.inj (Except.ok.inj h)
    exact .inl ⟨rfl, rfl⟩
  · dsimp only at h
    obtain ⟨change, -, h⟩ := Fallible.bind_eq_ok.mp h
    obtain ⟨spent, -, h⟩ := Fallible.bind_eq_ok.mp h
    obtain ⟨budget, -, h⟩ := Fallible.bind_eq_ok.mp h
    rcases whenOpen_spec h with ⟨rfl, rfl⟩ | ⟨rfl, rfl, -⟩
    · exact .inl ⟨rfl, rfl⟩
    · exact .inr ⟨rfl, rfl⟩

/-- The record that a failure is counted in is that of the strategy, and says what the failures are;
after the failure it says so again. -/
theorem CountsFailures.countFailure (h : CountsFailures world) (policy : FailurePolicy)
    (strategyId reason : String) (nowNs : ℕ) :
    let counted := (world.rows.quarantineBefore strategyId reason nowNs).countFailure
      policy.toQuarantinePolicy reason nowNs
    counted.strategyId = strategyId ∧ some (counted.failureCount, counted.releaseAfterNs) =
      quarantineOf (⟨policy, nowNs⟩ :: world.failures strategyId) := by
  intro counted
  let before := world.rows.quarantineBefore strategyId reason nowNs
  have hcounted := h.counted strategyId
  have hbefore : before.strategyId = strategyId ∧
      before.failureCount = min (world.failures strategyId).length u32Max ∧
        before.releaseAfterNs = releaseOf (world.failures strategyId) := by
    cases hstored : world.rows.quarantines[strategyId]? with
    | none =>
      have hnew : before = newQuarantine strategyId reason nowNs := by
        simp only [before, StrategyRows.quarantineBefore, hstored, Option.getD_none]
      rw [hstored] at hcounted
      cases hfailures : world.failures strategyId with
      | nil => exact hnew ▸ ⟨rfl, rfl, rfl⟩
      | cons failure earlier =>
        rw [hfailures] at hcounted
        cases hcounted
    | some stored =>
      have hsame : before = stored := by
        simp only [before, StrategyRows.quarantineBefore, hstored, Option.getD_some]
      rw [hstored] at hcounted
      cases hfailures : world.failures strategyId with
      | nil =>
        rw [hfailures] at hcounted
        cases hcounted
      | cons failure earlier =>
        rw [hfailures] at hcounted
        obtain ⟨hcount, hrelease⟩ := Prod.mk.inj (Option.some.inj hcounted)
        exact hsame ▸ ⟨h.named strategyId stored hstored, hcount, hrelease⟩
  obtain ⟨hid, hcount, hrelease⟩ := hbefore
  have hadd : counted.failureCount = min ((world.failures strategyId).length + 1) u32Max := by
    have hsum : counted.failureCount = saturatingAdd u32Max before.failureCount 1 := rfl
    rw [hsum, hcount, saturatingAdd]
    omega
  have hset : counted.releaseAfterNs =
      releaseOf (⟨policy, nowNs⟩ :: world.failures strategyId) := by
    have hwritten : counted.releaseAfterNs =
        if policy.failureQuarantineThreshold ≤ counted.failureCount then
          some (policy.releaseAfterNs nowNs) else before.releaseAfterNs := rfl
    have hfits := policy.fits
    have hreached : policy.failureQuarantineThreshold ≤ counted.failureCount ↔
        policy.failureQuarantineThreshold ≤ (world.failures strategyId).length + 1 := by
      rw [hadd]
      omega
    rw [hwritten, releaseOf, hrelease]
    simp only [hreached]
  refine ⟨hid, ?_⟩
  rw [hadd, hset]
  rfl

/-- Tables with the same quarantines say the same. -/
theorem CountsFailures.same (h : CountsFailures world)
    (hsame : rows.quarantines = world.rows.quarantines) :
    CountsFailures { world with rows := rows } := by
  constructor
  · intro strategyId quarantine hstored
    exact h.named strategyId quarantine (hsame ▸ hstored)
  · intro strategyId
    have hcounted := h.counted strategyId
    rw [← hsame] at hcounted
    exact hcounted

/-- The record of one strategy is replaced by one that says what its failures are. -/
theorem CountsFailures.write (h : CountsFailures world) (quarantine : Option StrategyQuarantine)
    (hwritten : ∀ other, rows.quarantines[other]? =
      if strategyId = other then quarantine else world.rows.quarantines[other]?)
    (hnamed : ∀ stored ∈ quarantine, stored.strategyId = strategyId)
    (hcounted : quarantine.map (fun quarantine =>
      (quarantine.failureCount, quarantine.releaseAfterNs)) = quarantineOf failures) :
    CountsFailures (world.write rows strategyId failures) := by
  constructor
  · intro other stored hstored
    have hother : rows.quarantines[other]? = some stored := hstored
    rw [hwritten] at hother
    split at hother
    · rename_i hid
      rw [← hid]
      exact hnamed stored hother
    · exact h.named other stored hother
  · intro other
    have hother : (world.write rows strategyId failures).rows.quarantines[other]? =
        rows.quarantines[other]? := rfl
    rw [hother, hwritten]
    dsimp only [QuarantineWorld.write]
    by_cases hid : strategyId = other
    · subst hid
      rw [if_pos rfl, hcounted, Function.update_self]
    · rw [if_neg hid, Function.update_of_ne (Ne.symm hid)]
      exact h.counted other

/-- The record of a strategy is replaced by one that counts one more failure. -/
theorem CountsFailures.fail {quarantine : StrategyQuarantine} (h : CountsFailures world)
    (hwritten : rows.quarantines = world.rows.quarantines.insert strategyId quarantine)
    (hid : quarantine.strategyId = strategyId)
    (hcounted : some (quarantine.failureCount, quarantine.releaseAfterNs) =
      quarantineOf failures) :
    CountsFailures (world.write rows strategyId failures) := by
  apply h.write (some quarantine)
  · intro other
    rw [hwritten, BTreeMap.get?_insert]
  · rintro stored hstored
    obtain rfl := Option.some.inj hstored
    exact hid
  · exact hcounted

theorem CountsFailures.after {result : Except String (Bool × StrategyRows)}
    (h : CountsFailures world)
    (hresult : ∀ changed next, result = .ok (changed, next) →
      changed = false ∧ next = world.rows ∨ changed = true ∧
        CountsFailures (world.write next strategyId failures)) :
    CountsFailures (world.after result strategyId failures) := by
  cases hcase : result with
  | error message => exact h
  | ok pair =>
    obtain ⟨changed, next⟩ := pair
    rcases hresult changed next hcase with ⟨rfl, rfl⟩ | ⟨rfl, hwrite⟩
    · exact h
    · exact hwrite

/-- Every act keeps the records true. -/
theorem CountsFailures.step {act : QuarantineAct} (h : CountsFailures world) :
    CountsFailures (act.apply keccakHex world) := by
  cases act with
  | insert turnId planDigest plan nowNs =>
    dsimp only [QuarantineAct.apply]
    cases hinsert : world.rows.insertPendingStrategyExecution
        (newPendingExecution turnId planDigest plan nowNs) with
    | error message => exact h
    | ok pair =>
      obtain ⟨stored, next⟩ := pair
      rcases insertPendingStrategyExecution_spec hinsert with ⟨-, rfl⟩ | ⟨-, rfl⟩
      · exact h
      · exact h.same rfl
  | progress expected desired =>
    have hsame : (world.rows.compareAndUpdate expected desired).2.quarantines =
        world.rows.quarantines := by
      rcases compareAndUpdate_spec (rfl : (world.rows.compareAndUpdate expected desired).2 = _) with
        hrows | ⟨-, -, -, hrows⟩
      · rw [hrows]
      · rw [hrows]
    exact h.same hsame
  | record policy key reason nowNs =>
    obtain ⟨quarantine, hwritten, hid, hcount, hrelease⟩ :=
      recordStrategyFailure_quarantines world.rows policy key reason nowNs
    have hcounted := h.countFailure policy (strategyIdFromKey key) reason.text nowNs
    refine h.fail hwritten (hid.trans hcounted.1) ?_
    rw [hcount, hrelease]
    exact hcounted.2
  | fail policy copy failure kind reason nowNs =>
    have hcounted := h.countFailure policy (strategyIdFromKey copy.key) reason nowNs
    apply h.after
    intro changed next hresult
    rcases applyTerminalStrategyFailure_quarantines hresult with hsame | ⟨hchanged, hwritten⟩
    · exact .inl hsame
    · refine .inr ⟨hchanged, h.fail ?_ hcounted.1 hcounted.2⟩
      rw [hwritten, hcounted.1]
  | confirm copy nowNs =>
    apply h.after
    intro changed next hresult
    rcases applyConfirmedStrategyExecution_quarantines hresult with hsame | ⟨hchanged, hwritten⟩
    · exact .inl hsame
    · refine .inr ⟨hchanged, h.write none ?_ (fun _ hstored => by cases hstored) rfl⟩
      intro other
      rw [hwritten, BTreeMap.get?_erase]

theorem CountsFailures.reachable (h : QuarantineReachable keccakHex world) :
    CountsFailures world := by
  apply h.invariant
  · rintro _ rfl
    constructor
    · intro strategyId quarantine hstored
      simp [QuarantineWorld.fresh, StrategyRows.empty] at hstored
    · intro strategyId
      simp [QuarantineWorld.fresh, StrategyRows.empty, quarantineOf]
  · rintro world act _ hcounts rfl
    exact hcounts.step

/-- A strategy is not quarantined when it has not failed, or when its failures are below the
threshold and its release time is over. -/
theorem CountsFailures.active_eq_none_iff (h : CountsFailures world) :
    world.rows.activeStrategyQuarantine policy.toQuarantinePolicy strategyId nowNs = none ↔
      world.failures strategyId = [] ∨
        (world.failures strategyId).length < policy.failureQuarantineThreshold ∧
          ∀ release, releaseOf (world.failures strategyId) = some release → release ≤ nowNs := by
  have hcounted := h.counted strategyId
  have hfits := policy.fits
  unfold StrategyRows.activeStrategyQuarantine
  cases hstored : world.rows.quarantines[strategyId]? with
  | none =>
    rw [hstored] at hcounted
    cases hfailures : world.failures strategyId with
    | nil => simp
    | cons failure earlier =>
      rw [hfailures] at hcounted
      cases hcounted
  | some stored =>
    rw [hstored] at hcounted
    cases hfailures : world.failures strategyId with
    | nil =>
      rw [hfailures] at hcounted
      cases hcounted
    | cons failure earlier =>
      rw [hfailures] at hcounted
      obtain ⟨hcount, hrelease⟩ := Prod.mk.inj (Option.some.inj hcounted)
      have hbelow : stored.failureCount < policy.failureQuarantineThreshold ↔
          (failure :: earlier).length < policy.failureQuarantineThreshold := by
        rw [hcount]
        omega
      have hpast : stored.releaseAfterNs.all (· ≤ nowNs) = true ↔
          ∀ release, releaseOf (failure :: earlier) = some release → release ≤ nowNs := by
        rw [hrelease, Option.all_eq_true]
        simp
      rw [Option.filter_some, ← hbelow, ← hpast]
      simp

end Counting

/-- At any time in any run a quarantine has begun and ended as its threshold and its release time
say if and only if the strategy is not past its release time with as many failures as the
threshold. -/
theorem quarantine_ends_iff (keccakHex : String → String) (world : QuarantineWorld)
    (hreach : QuarantineReachable keccakHex world) (policy : FailurePolicy) (strategyId : String)
    (nowNs : ℕ) :
    QuarantineEnds world.rows policy strategyId (world.failures strategyId) nowNs ↔
      ∀ release, releaseOf (world.failures strategyId) = some release → release ≤ nowNs →
        (world.failures strategyId).length < policy.failureQuarantineThreshold := by
  have hcounts := CountsFailures.reachable hreach
  have hnever (release : ℕ) (hrelease : releaseOf (world.failures strategyId) = some release) :
      world.failures strategyId ≠ [] := by
    intro hnil
    rw [hnil] at hrelease
    cases hrelease
  constructor
  · intro hends release hrelease hle
    rcases hcounts.active_eq_none_iff.mp (hends.released release hrelease hle) with hnil | ⟨hbelow, -⟩
    · exact absurd hnil (hnever release hrelease)
    · exact hbelow
  · intro hbelow
    constructor
    · intro hfew hpast
      exact hcounts.active_eq_none_iff.mpr (.inr ⟨hfew, hpast⟩)
    · intro release hrelease hlt hnone
      rcases hcounts.active_eq_none_iff.mp hnone with hnil | ⟨-, hpast⟩
      · exact hnever release hrelease hnil
      · have hle := hpast release hrelease
        omega
    · intro release hrelease hle
      refine hcounts.active_eq_none_iff.mpr (.inr ⟨hbelow release hrelease hle, ?_⟩)
      intro other hother
      obtain rfl := Option.some.inj (hrelease.symm.trans hother)
      exact hle

section Unreleased

/-- Three failures are too many, for a minute. -/
def minutePolicy : FailurePolicy := ⟨⟨3, 60⟩, by decide⟩

/-- A plan did not compile. -/
def compileFailure (nowNs : ℕ) : QuarantineAct :=
  .record minutePolicy vaultKey ⟨"unknown strategy template", by decide +kernel⟩ nowNs

/-- The strategy has failed at some times. -/
def failedAt (times : List ℕ) : QuarantineWorld :=
  run (QuarantineAct.apply id) (times.map compileFailure) .fresh

theorem failedAt_reachable (times : List ℕ) : QuarantineReachable id (failedAt times) :=
  (Reachable.self QuarantineWorld.fresh).run _

theorem failedTwice_quarantine_ends_iff :
    QuarantineEnds (failedAt [1, 2]).rows minutePolicy (strategyIdFromKey vaultKey)
        ((failedAt [1, 2]).failures (strategyIdFromKey vaultKey)) 3 ↔
      ∀ release, releaseOf ((failedAt [1, 2]).failures (strategyIdFromKey vaultKey)) =
        some release → release ≤ 3 →
          ((failedAt [1, 2]).failures (strategyIdFromKey vaultKey)).length <
            minutePolicy.failureQuarantineThreshold :=
  quarantine_ends_iff id (failedAt [1, 2]) (failedAt_reachable _) minutePolicy
    (strategyIdFromKey vaultKey) 3

/-- A minute after its third failure the strategy is still quarantined. -/
theorem failedThrice_not_released : QuarantineReachable id (failedAt [1, 2, 3]) ∧
    ¬ QuarantineEnds (failedAt [1, 2, 3]).rows minutePolicy (strategyIdFromKey vaultKey)
      ((failedAt [1, 2, 3]).failures (strategyIdFromKey vaultKey)) 60000000003 := by
  refine ⟨failedAt_reachable _, ?_⟩
  intro hends
  have hrelease : releaseOf ((failedAt [1, 2, 3]).failures (strategyIdFromKey vaultKey)) =
      some 60000000003 := by decide +kernel
  have hnone := hends.released _ hrelease le_rfl
  revert hnone
  decide +kernel

end Unreleased

end Automaton.Strategy
