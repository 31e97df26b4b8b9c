import Automaton.Agent.TopUpWorld

/-!
# Safety of cycle top-ups

When no run of `advance` acts on a stage that another run has left behind, and no top-up is started
again while a lock is open, no money is locked, swapped or transferred twice.
-/

namespace Automaton.Agent

open Machine Transition

/-- The locks whose hash was obtained and whose amount has neither been carried to the end nor
reported as failed. -/
def openLocks (log : List TopUpEvent) : List ℕ :=
  log.filterMap fun event =>
    match event with
    | .lockObtained lock => if .lockClosed lock ∈ log then none else some lock
    | _ => none

/-- No lock is broadcast while one is open, and no bridged amount is swapped twice and no swapped
amount is transferred twice. -/
structure FundsSafe (log : List TopUpEvent) : Prop where
  oneLock : ∀ before lock after, log = before ++ .lockBroadcast lock :: after →
    openLocks before = []
  oneSwap : ∀ lock, log.count (.swapIssued lock) ≤ 1
  oneTransfer : ∀ swap, log.count (.transferIssued swap) ≤ 1

/-- The stored stage is in the phase that a run works on. -/
def TopUpWorld.inPhase (world : TopUpWorld) (run : TopUpRun) : Bool :=
  world.stored.any run.tracked.samePhase

/-- A run issues something only in the stored phase, when no other run has issued something
unanswered, and saves a stage only over one of the phase it worked on. A failed top-up is started
again only when no lock is open. -/
def TopUpAct.isOrderly (act : TopUpAct) (world : TopUpWorld) : Bool :=
  match act with
  | .advance _ | .start => true
  | .perform i answers => world.runs[i]?.all fun run =>
      (run.issue answers world.issued).isNone ||
        (world.inPhase run && world.runs.all fun other => !other.inFlight)
  | .arrive i _ => world.runs[i]?.all fun run => !run.saves || world.inPhase run
  | .reset => (topUpReset world.stage).toOption.isNone || openLocks world.log = []
  | .checkCycles check => (check.startsTopUp world.stage).isNone || openLocks world.log = []

/-- The worlds that runs of orderly acts reach from the first one. -/
def OrderlyReachable (world : TopUpWorld) : Prop :=
  Reachable (· = TopUpWorld.fresh)
    (Restrict (StepOf TopUpAct.apply) fun world act => act.isOrderly world = true) world

/-- A run in the stored phase works on the money of the stored stage. -/
theorem inPhase_iff {world : TopUpWorld} {run : TopUpRun} :
    world.inPhase run = true ↔ ∃ stored, world.stored = some stored ∧
      run.tracked.stage.phase = stored.stage.phase ∧ run.tracked.lock = stored.lock ∧
        run.tracked.swap = stored.swap := by
  unfold TopUpWorld.inPhase
  cases world.stored with
  | none => simp
  | some stored => simp [TrackedStage.samePhase, and_assoc]

section Logs

variable {log events : List TopUpEvent} {lock : ℕ}

theorem mem_openLocks :
    lock ∈ openLocks log ↔ .lockObtained lock ∈ log ∧ .lockClosed lock ∉ log := by
  simp only [openLocks, List.mem_filterMap]
  constructor
  · rintro ⟨event, hevent, hopen⟩
    cases event with
    | lockObtained other =>
      dsimp only at hopen
      split at hopen
      · cases hopen
      · rename_i hclosed
        obtain rfl := Option.some.inj hopen
        exact ⟨hevent, hclosed⟩
    | lockBroadcast other => cases hopen
    | lockClosed other => cases hopen
    | swapIssued other => cases hopen
    | transferIssued other => cases hopen
  · rintro ⟨hobtained, hclosed⟩
    exact ⟨_, hobtained, by simp [hclosed]⟩

/-- A lock that is open after more events was obtained by them or was open before. -/
theorem mem_openLocks_append (h : lock ∈ openLocks (log ++ events)) :
    .lockClosed lock ∉ events ∧ (.lockObtained lock ∈ events ∨ lock ∈ openLocks log) := by
  rw [mem_openLocks, List.mem_append, List.mem_append, not_or] at h
  obtain ⟨hobtained, hbefore, hafter⟩ := h
  refine ⟨hafter, ?_⟩
  rcases hobtained with hobtained | hobtained
  · exact .inr (mem_openLocks.mpr ⟨hobtained, hbefore⟩)
  · exact .inl hobtained

/-- Events that issue nothing are safe. -/
theorem FundsSafe.append_quiet (h : FundsSafe log)
    (hquiet : ∀ event ∈ events, ∃ lock, event = .lockObtained lock ∨ event = .lockClosed lock) :
    FundsSafe (log ++ events) := by
  have habsent : ∀ event, (∀ lock, event ≠ .lockObtained lock ∧ event ≠ .lockClosed lock) →
      event ∉ events := by
    intro event hother hevent
    obtain ⟨lock, heq | heq⟩ := hquiet event hevent
    · exact (hother lock).1 heq
    · exact (hother lock).2 heq
  constructor
  · intro before lock after hsplit
    have hnot : TopUpEvent.lockBroadcast lock ∉ events := habsent _ (by simp)
    rcases List.append_eq_append_iff.mp hsplit with ⟨mid, -, hevents⟩ | ⟨mid, hlog, hafter⟩
    · exact absurd (hevents ▸ by simp) hnot
    · cases mid with
      | nil =>
        rw [List.nil_append] at hafter
        exact absurd (hafter ▸ List.mem_cons_self) hnot
      | cons event rest =>
        obtain ⟨rfl, -⟩ := List.cons_eq_cons.mp hafter
        exact h.oneLock before lock rest hlog
  · intro lock
    rw [List.count_append, List.count_eq_zero.mpr (habsent _ (by simp)), Nat.add_zero]
    exact h.oneSwap lock
  · intro swap
    rw [List.count_append, List.count_eq_zero.mpr (habsent _ (by simp)), Nat.add_zero]
    exact h.oneTransfer swap

/-- A lock is safe when none is open, and a swap and a transfer are safe when they are new. -/
theorem FundsSafe.append_event {event : TopUpEvent} (h : FundsSafe log)
    (hlock : ∀ lock, event = .lockBroadcast lock → openLocks log = [])
    (hswap : ∀ lock, event = .swapIssued lock → event ∉ log)
    (htransfer : ∀ swap, event = .transferIssued swap → event ∉ log) :
    FundsSafe (log ++ [event]) := by
  constructor
  · intro before lock after hsplit
    rcases List.append_eq_append_iff.mp hsplit with ⟨mid, hbefore, hevent⟩ | ⟨mid, hlog, hafter⟩
    · cases mid with
      | nil =>
        rw [List.append_nil] at hbefore
        obtain ⟨rfl, -⟩ := List.cons_eq_cons.mp hevent
        rw [hbefore]
        exact hlock lock rfl
      | cons other rest => simp at hevent
    · cases mid with
      | nil =>
        rw [List.append_nil] at hlog
        obtain ⟨rfl, -⟩ := List.cons_eq_cons.mp hafter
        rw [← hlog]
        exact hlock lock rfl
      | cons other rest =>
        obtain ⟨rfl, -⟩ := List.cons_eq_cons.mp hafter
        exact h.oneLock before lock rest hlog
  · intro lock
    by_cases heq : event = .swapIssued lock
    · rw [heq, List.count_append, List.count_eq_zero.mpr (heq ▸ hswap lock heq)]
      simp
    · rw [List.count_append, List.count_singleton, if_neg (by simpa using heq)]
      exact h.oneSwap lock
  · intro swap
    by_cases heq : event = .transferIssued swap
    · rw [heq, List.count_append, List.count_eq_zero.mpr (heq ▸ htransfer swap heq)]
      simp
    · rw [List.count_append, List.count_singleton, if_neg (by simpa using heq)]
      exact h.oneTransfer swap

end Logs

/-- The run at an index has issued something and has not been told so yet. -/
def flightAt (runs : List TopUpRun) (i : ℕ) : Bool := runs[i]?.any (·.inFlight)

/-- What orderly acts preserve. -/
structure TopUpInv (world : TopUpWorld) : Prop where
  opens : ∀ lock ∈ openLocks world.log, ∃ tracked, world.stored = some tracked ∧
    tracked.lock = some lock ∧ tracked.stage.phase.carries = true
  storedBelow : ∀ tracked, world.stored = some tracked →
    (∀ lock, tracked.lock = some lock → lock < world.issued) ∧
      ∀ swap, tracked.swap = some swap → swap < world.issued
  logBelow : ∀ number, world.issued ≤ number →
    .swapIssued (some number) ∉ world.log ∧ .transferIssued (some number) ∉ world.log
  answers : ∀ run ∈ world.runs, ∀ answers issued, run.call = .answered answers issued →
    issued.isSome = run.tracked.stage.spends answers ∧
      ∀ number, issued = some number → number < world.issued ∧
        .swapIssued (some number) ∉ world.log ∧ .transferIssued (some number) ∉ world.log
  oneFlight : ∀ i j, flightAt world.runs i = true → flightAt world.runs j = true → i = j
  swaps : ∀ tracked, world.stored = some tracked →
    tracked.stage.phase = .locked ∨ tracked.stage.phase = .swapping →
      .swapIssued tracked.lock ∈ world.log → ∃ i, flightAt world.runs i = true
  transfers : ∀ tracked, world.stored = some tracked → tracked.stage.phase = .transferring →
    .transferIssued tracked.swap ∈ world.log → ∃ i, flightAt world.runs i = true
  safe : FundsSafe world.log

section Steps

variable {world : TopUpWorld} {run : TopUpRun} {i j : ℕ}

theorem flightAt_append (hquiet : run.inFlight = false) :
    flightAt (world.runs ++ [run]) j = flightAt world.runs j := by
  unfold flightAt
  rcases Nat.lt_trichotomy j world.runs.length with hlt | rfl | hgt
  · rw [List.getElem?_append_left hlt]
  · rw [List.getElem?_concat_length, List.getElem?_eq_none le_rfl, Option.any_some, hquiet]
    rfl
  · rw [List.getElem?_eq_none (by simp; omega), List.getElem?_eq_none (by omega)]

theorem flightAt_set {old : TopUpRun} (hrun : world.runs[i]? = some old) :
    flightAt (world.runs.set i run) j =
      if i = j then run.inFlight else flightAt world.runs j := by
  have hlt := (List.getElem?_eq_some_iff.mp hrun).1
  unfold flightAt
  by_cases hsame : i = j
  · subst hsame
    rw [List.getElem?_set_self hlt, if_pos rfl, Option.any_some]
  · rw [List.getElem?_set_ne hsame, if_neg hsame]

/-- A phase that carries no amount leaves no lock open. -/
theorem TopUpInv.none_open (h : TopUpInv world)
    (hphase : ∀ tracked, world.stored = some tracked → tracked.stage.phase.carries = false) :
    openLocks world.log = [] := by
  rw [List.eq_nil_iff_forall_not_mem]
  intro lock hlock
  obtain ⟨tracked, hstored, -, hcarries⟩ := h.opens lock hlock
  rw [hphase tracked hstored] at hcarries
  cases hcarries

/-- Runs change without anything new in flight. -/
theorem TopUpInv.setRuns {runs : List TopUpRun} (h : TopUpInv world)
    (hanswers : ∀ run ∈ runs, run ∈ world.runs ∨ ∀ answers issued,
      run.call = .answered answers issued →
        issued = none ∧ run.tracked.stage.spends answers = false)
    (hflight : ∀ j, flightAt runs j = flightAt world.runs j) :
    TopUpInv { world with runs := runs } := by
  constructor
  · exact h.opens
  · exact h.storedBelow
  · exact h.logBelow
  · intro run hrun answers issued hcall
    rcases hanswers run hrun with hold | hnew
    · exact h.answers run hold answers issued hcall
    · obtain ⟨rfl, hspends⟩ := hnew answers issued hcall
      exact ⟨hspends.symm, fun number hnumber => (by cases hnumber)⟩
  · intro i j hi hj
    rw [hflight] at hi hj
    exact h.oneFlight i j hi hj
  · intro tracked hstored hphase hissued
    obtain ⟨i, hi⟩ := h.swaps tracked hstored hphase hissued
    exact ⟨i, by rwa [hflight]⟩
  · intro tracked hstored hphase hissued
    obtain ⟨i, hi⟩ := h.transfers tracked hstored hphase hissued
    exact ⟨i, by rwa [hflight]⟩
  · exact h.safe

theorem TopUpInv.advance {config : TopUpConfig} (h : TopUpInv world) :
    TopUpInv (world.advance config) := by
  unfold TopUpWorld.advance
  split
  · exact h
  · split
    · exact h
    · apply h.setRuns
      · intro run hrun
        rcases List.mem_append.mp hrun with hrun | hrun
        · exact .inl hrun
        · rw [List.mem_singleton.mp hrun]
          exact .inr fun answers issued hcall => (by cases hcall)
      · exact fun j => flightAt_append rfl

/-- Another stage is stored when no lock is open. -/
theorem TopUpInv.restart (h : TopUpInv world) (hopen : openLocks world.log = [])
    {stored : Option TrackedStage}
    (hstart : ∀ tracked, stored = some tracked → tracked = .start .preflight) :
    TopUpInv { world with stored := stored } := by
  constructor
  · intro lock hlock
    rw [hopen] at hlock
    cases hlock
  · intro tracked hstored
    rw [hstart tracked hstored]
    exact ⟨fun lock hlock => (by cases hlock), fun swap hswap => (by cases hswap)⟩
  · exact h.logBelow
  · exact h.answers
  · exact h.oneFlight
  · intro tracked hstored hphase
    rw [hstart tracked hstored] at hphase
    rcases hphase with hphase | hphase
    · cases hphase
    · cases hphase
  · intro tracked hstored hphase
    rw [hstart tracked hstored] at hphase
    cases hphase
  · exact h.safe

theorem TopUpInv.store {stage : Option TopUpStage} (h : TopUpInv world)
    (hstage : ∀ next, stage = some next → next = .preflight ∧ openLocks world.log = []) :
    TopUpInv (world.store stage) := by
  cases stage with
  | none => exact h
  | some next =>
    obtain ⟨rfl, hopen⟩ := hstage next rfl
    exact h.restart hopen fun tracked hstored => (Option.some.inj hstored).symm

/-- A run issues something in the stored phase, while nothing is in flight. -/
theorem TopUpInv.issue {answers : TopUpAnswers} {event : TopUpEvent} (h : TopUpInv world)
    (hrun : world.runs[i]? = some run)
    (hevent : run.tracked.issue answers world.issued = some event)
    (hinPhase : world.inPhase run = true)
    (hnoFlight : ∀ other ∈ world.runs, other.inFlight = false) :
    TopUpInv { world with
      runs := world.runs.set i { run with call := .answered answers (some world.issued) }
      issued := world.issued + 1
      log := world.log ++ [event] } := by
  obtain ⟨stored, hstored, hphase, hlock, hswap⟩ := inPhase_iff.mp hinPhase
  obtain ⟨hspends, hcases⟩ := issue_cases hevent
  have hbelow := h.storedBelow stored hstored
  have hnoFlightAt : ∀ j, ¬ flightAt world.runs j = true := by
    intro j hj
    obtain ⟨other, hother, hflight⟩ := (Option.any_eq_true _ _).mp hj
    rw [hnoFlight other (List.mem_of_getElem? hother)] at hflight
    cases hflight
  have hflight : flightAt
      (world.runs.set i { run with call := .answered answers (some world.issued) }) i = true := by
    rw [flightAt_set hrun, if_pos rfl]
    rfl
  -- the event is about numbers below the one that is drawn
  have hfresh : ∀ number, world.issued ≤ number →
      event ≠ .swapIssued (some number) ∧ event ≠ .transferIssued (some number) := by
    intro number hle
    rcases hcases with ⟨-, rfl⟩ | ⟨-, rfl⟩ | ⟨-, rfl⟩
    · simp
    · refine ⟨fun heq => ?_, by simp⟩
      have := hbelow.1 number (hlock ▸ TopUpEvent.swapIssued.inj heq)
      omega
    · refine ⟨by simp, fun heq => ?_⟩
      have := hbelow.2 number (hswap ▸ TopUpEvent.transferIssued.inj heq)
      omega
  have hlogBelow : ∀ number, world.issued ≤ number →
      .swapIssued (some number) ∉ world.log ++ [event] ∧
        .transferIssued (some number) ∉ world.log ++ [event] := by
    intro number hle
    have hold := h.logBelow number hle
    have hnew := hfresh number hle
    simp [hold.1, hold.2, hnew.1.symm, hnew.2.symm]
  constructor
  · intro lock hlock
    obtain ⟨-, hobtained | hopen⟩ := mem_openLocks_append hlock
    · rw [List.mem_singleton] at hobtained
      rcases hcases with ⟨-, rfl⟩ | ⟨-, rfl⟩ | ⟨-, rfl⟩ <;> cases hobtained
    · exact h.opens lock hopen
  · intro tracked hsame
    obtain ⟨hlocks, hswaps⟩ := h.storedBelow tracked hsame
    exact ⟨fun lock hlock => Nat.lt_succ_of_lt (hlocks lock hlock),
      fun swap hswap => Nat.lt_succ_of_lt (hswaps swap hswap)⟩
  · intro number hle
    exact hlogBelow number (Nat.le_of_succ_le hle)
  · intro other hother answers' issued hcall
    rcases List.mem_or_eq_of_mem_set hother with hother | rfl
    · have hold := h.answers other hother answers' issued hcall
      have hnone : issued = none := by
        have hquiet := hnoFlight other hother
        rw [TopUpRun.inFlight, hcall] at hquiet
        simpa using hquiet
      rw [hnone] at hold ⊢
      exact ⟨hold.1, fun number hnumber => (by cases hnumber)⟩
    · obtain ⟨rfl, rfl⟩ := TopUpCall.answered.inj hcall
      refine ⟨hspends.symm, fun number hnumber => ?_⟩
      obtain rfl := Option.some.inj hnumber
      exact ⟨Nat.lt_succ_self _, hlogBelow _ le_rfl⟩
  · intro first second hfirst hsecond
    have hat : ∀ j, flightAt
        (world.runs.set i { run with call := .answered answers (some world.issued) }) j = true →
          j = i := by
      intro j hj
      rw [flightAt_set hrun] at hj
      split at hj
      · rename_i hsame
        exact hsame.symm
      · exact absurd hj (hnoFlightAt j)
    rw [hat first hfirst, hat second hsecond]
  · exact fun _ _ _ _ => ⟨i, hflight⟩
  · exact fun _ _ _ _ => ⟨i, hflight⟩
  · apply h.safe.append_event
    · intro lock heq
      rcases hcases with ⟨hlocking, -⟩ | ⟨-, rfl⟩ | ⟨-, rfl⟩
      · apply h.none_open
        intro tracked hsame
        obtain rfl := Option.some.inj (hstored.symm.trans hsame)
        rw [← hphase, hlocking]
        rfl
      · cases heq
      · cases heq
    · intro lock heq hmem
      rcases hcases with ⟨-, rfl⟩ | ⟨hswapping, rfl⟩ | ⟨-, rfl⟩
      · cases heq
      · obtain ⟨j, hj⟩ := h.swaps stored hstored (.inr (hphase ▸ hswapping)) (hlock ▸ hmem)
        exact hnoFlightAt j hj
      · cases heq
    · intro swap heq hmem
      rcases hcases with ⟨-, rfl⟩ | ⟨-, rfl⟩ | ⟨htransferring, rfl⟩
      · cases heq
      · cases heq
      · obtain ⟨j, hj⟩ := h.transfers stored hstored (hphase ▸ htransferring) (hswap ▸ hmem)
        exact hnoFlightAt j hj

theorem TopUpInv.perform {answers : TopUpAnswers} (h : TopUpInv world)
    (hrun : world.runs[i]? = some run)
    (horderly : (run.issue answers world.issued).isNone = true ∨
      world.inPhase run = true ∧ ∀ other ∈ world.runs, other.inFlight = false) :
    TopUpInv (world.perform i run answers) := by
  unfold TopUpWorld.perform
  cases hcall : run.call with
  | calling =>
    have hquiet : run.inFlight = false := by rw [TopUpRun.inFlight, hcall]
    have hissue : run.issue answers world.issued = run.tracked.issue answers world.issued := by
      rw [TopUpRun.issue, hcall]
    rw [hissue] at horderly
    cases hevent : run.tracked.issue answers world.issued with
    | none =>
      apply h.setRuns
      · intro other hother
        rcases List.mem_or_eq_of_mem_set hother with hother | rfl
        · exact .inl hother
        · refine .inr fun answers issued hcall => ?_
          obtain ⟨rfl, rfl⟩ := TopUpCall.answered.inj hcall
          exact ⟨rfl, spends_of_issue_none hevent⟩
      · intro j
        rw [flightAt_set hrun]
        split
        · rename_i hsame
          rw [← hsame, flightAt, hrun, Option.any_some, hquiet]
          rfl
        · rfl
    | some event =>
      rw [hevent] at horderly
      rcases horderly with hnone | ⟨hinPhase, hnoFlight⟩
      · cases hnone
      · exact h.issue hrun hevent hinPhase hnoFlight
  | answered => exact h
  | finished => exact h

/-- Until it is minted, what a phase carries is carried on. -/
theorem carries_of_follows {phase next : TopUpPhase} (hcarries : phase.carries = true)
    (hminting : phase ≠ .minting) (hfollows : next ∈ phase.followers) : next.carries = true := by
  cases phase <;> simp_all [TopUpPhase.carries, TopUpPhase.followers]
  rcases hfollows with rfl | rfl <;> rfl

/-- A lock is carried from its broadcast on. -/
theorem locked_followers {phase next : TopUpPhase} (hfollows : next ∈ phase.followers)
    (hnext : next = .locked ∨ next = .swapping) : phase = .locking ∨ phase = .locked := by
  rcases hnext with rfl | rfl <;> cases phase <;> simp_all [TopUpPhase.followers]

/-- A transfer comes after a swap. -/
theorem transferring_followers {phase next : TopUpPhase} (hfollows : next ∈ phase.followers)
    (hnext : next = .transferring) : phase = .swapping := by
  subst hnext
  cases phase <;> simp_all [TopUpPhase.followers]

/-- What the answers say about a lock issues nothing. -/
theorem learn_quiet {tracked : TrackedStage} {config : TopUpConfig} {answers : TopUpAnswers}
    {issued : Option ℕ} {nowNs : ℕ} :
    ∀ event ∈ (tracked.learn config answers issued nowNs).toList,
      ∃ lock, event = .lockObtained lock ∨ event = .lockClosed lock := by
  intro event hevent
  rw [Option.mem_toList] at hevent
  unfold TrackedStage.learn at hevent
  split at hevent
  · split at hevent
    · obtain ⟨lock, -, rfl⟩ := Option.map_eq_some_iff.mp hevent
      exact ⟨lock, .inl rfl⟩
    · split at hevent
      · obtain ⟨lock, -, rfl⟩ := Option.map_eq_some_iff.mp hevent
        exact ⟨lock, .inr rfl⟩
      · cases hevent
  · split at hevent
    · obtain ⟨lock, -, rfl⟩ := Option.map_eq_some_iff.mp hevent
      exact ⟨lock, .inr rfl⟩
    · cases hevent

/-- The locks that are open after the answers: the one that was obtained, or one that was open and
is kept by the saved stage. -/
theorem TopUpInv.opens_save {answers : TopUpAnswers} {issued : Option ℕ} {nowNs lock : ℕ}
    {stored : TrackedStage} (h : TopUpInv world) (hstored : world.stored = some stored)
    (hphase : run.tracked.stage.phase = stored.stage.phase)
    (hlock : run.tracked.lock = stored.lock)
    (hopen : lock ∈ openLocks
      (world.log ++ (run.tracked.learn run.config answers issued nowNs).toList)) :
    (run.tracked.save run.config answers issued nowNs).lock = some lock ∧
      (run.tracked.save run.config answers issued nowNs).stage.phase.carries = true := by
  obtain ⟨hclosed, hcases⟩ := mem_openLocks_append hopen
  rw [Option.mem_toList] at hclosed hcases
  -- what was open belongs to the stored stage
  have hold : lock ∈ openLocks world.log →
      run.tracked.lock = some lock ∧ run.tracked.stage.phase.carries = true := by
    intro hmem
    obtain ⟨tracked, hsame, htracked, hcarries⟩ := h.opens lock hmem
    obtain rfl := Option.some.inj (hstored.symm.trans hsame)
    exact ⟨hlock.trans htracked, hphase ▸ hcarries⟩
  unfold TrackedStage.save
  dsimp only
  rcases save_phase run.config answers run.tracked.stage nowNs with
    ⟨hsome, hfollows, -⟩ | ⟨hnone, hfailed⟩
  · rw [TrackedStage.learn, if_pos hsome] at hclosed hcases
    by_cases hlocking : run.tracked.stage.phase = .locking
    · rw [if_pos hlocking] at hcases ⊢
      rcases hcases with hobtained | hmem
      · obtain ⟨number, hissued, hnumber⟩ := Option.map_eq_some_iff.mp hobtained
        obtain rfl := TopUpEvent.lockObtained.inj hnumber
        refine ⟨hissued, ?_⟩
        rw [hlocking] at hfollows
        rw [List.mem_singleton.mp hfollows]
        rfl
      · have hcarries := (hold hmem).2
        rw [hlocking] at hcarries
        cases hcarries
    · rw [if_neg hlocking] at hclosed hcases ⊢
      by_cases hminting : run.tracked.stage.phase = .minting
      · rw [if_pos hminting] at hclosed hcases
        rcases hcases with hobtained | hmem
        · obtain ⟨number, -, hnumber⟩ := Option.map_eq_some_iff.mp hobtained
          cases hnumber
        · rw [(hold hmem).1] at hclosed
          exact absurd rfl hclosed
      · rw [if_neg hminting] at hcases
        rcases hcases with hobtained | hmem
        · cases hobtained
        · obtain ⟨hsame, hcarries⟩ := hold hmem
          exact ⟨hsame, carries_of_follows hcarries hminting hfollows⟩
  · rw [TrackedStage.learn, hnone, if_neg (by simp)] at hcases
    have hmem : lock ∈ openLocks world.log := by
      rcases hcases with hobtained | hmem
      · split at hobtained
        · obtain ⟨number, -, hnumber⟩ := Option.map_eq_some_iff.mp hobtained
          cases hnumber
        · cases hobtained
      · exact hmem
    obtain ⟨hsame, hcarries⟩ := hold hmem
    rw [if_neg fun hlocking => (by rw [hlocking] at hcarries; cases hcarries), hfailed]
    exact ⟨hsame, rfl⟩

/-- A stage is saved over one of the phase that its run worked on. -/
theorem TopUpInv.save {answers : TopUpAnswers} {issued : Option ℕ} {nowNs : ℕ}
    (h : TopUpInv world) (hrun : world.runs[i]? = some run)
    (hcall : run.call = .answered answers issued) (hinPhase : world.inPhase run = true) :
    TopUpInv { world with
      stored := some (run.tracked.save run.config answers issued nowNs)
      runs := world.runs.set i (run.resume (run.tracked.save run.config answers issued nowNs))
      log := world.log ++ (run.tracked.learn run.config answers issued nowNs).toList } := by
  obtain ⟨stored, hstored, hphase, hlock, hswap⟩ := inPhase_iff.mp hinPhase
  obtain ⟨hspends, hissued⟩ := h.answers run (List.mem_of_getElem? hrun) answers issued hcall
  have hbelow := h.storedBelow stored hstored
  set next := run.tracked.save run.config answers issued nowNs with hnext
  have hquiet : (run.resume next).inFlight = false := by
    unfold TopUpRun.resume TopUpRun.inFlight
    dsimp only
    split
    · rename_i hresumed
      split at hresumed <;> cases hresumed
    · rfl
  have hlog : ∀ event, (∀ lock, event ≠ .lockObtained lock ∧ event ≠ .lockClosed lock) →
      event ∈ world.log ++ (run.tracked.learn run.config answers issued nowNs).toList →
        event ∈ world.log := by
    intro event hother hevent
    rcases List.mem_append.mp hevent with hevent | hevent
    · exact hevent
    · obtain ⟨lock, heq | heq⟩ := learn_quiet event hevent
      · exact absurd heq (hother lock).1
      · exact absurd heq (hother lock).2
  constructor
  · intro lock hopen
    exact ⟨next, rfl, h.opens_save hstored hphase hlock hopen⟩
  · intro tracked hsame
    obtain rfl := Option.some.inj hsame
    rw [hnext, TrackedStage.save]
    dsimp only
    constructor
    · intro lock hsome
      split at hsome
      · exact (hissued lock hsome).1
      · exact hbelow.1 lock (hlock ▸ hsome)
    · intro swap hsome
      split at hsome
      · exact (hissued swap hsome).1
      · exact hbelow.2 swap (hswap ▸ hsome)
  · intro number hle
    obtain ⟨hswaps, htransfers⟩ := h.logBelow number hle
    exact ⟨fun hmem => hswaps (hlog _ (by simp) hmem),
      fun hmem => htransfers (hlog _ (by simp) hmem)⟩
  · intro other hother answers' issued' hcall'
    rcases List.mem_or_eq_of_mem_set hother with hother | rfl
    · obtain ⟨hsome, hfresh⟩ := h.answers other hother answers' issued' hcall'
      refine ⟨hsome, fun number hnumber => ?_⟩
      obtain ⟨hlt, hswaps, htransfers⟩ := hfresh number hnumber
      exact ⟨hlt, fun hmem => hswaps (hlog _ (by simp) hmem),
        fun hmem => htransfers (hlog _ (by simp) hmem)⟩
    · unfold TopUpRun.resume at hcall'
      dsimp only at hcall'
      split at hcall' <;> cases hcall'
  · intro first second hfirst hsecond
    have hat : ∀ j, flightAt (world.runs.set i (run.resume next)) j = true →
        flightAt world.runs j = true := by
      intro j hj
      rw [flightAt_set hrun] at hj
      split at hj
      · rw [hquiet] at hj
        cases hj
      · exact hj
    exact h.oneFlight first second (hat first hfirst) (hat second hsecond)
  · intro tracked hsame hnext' hmem
    obtain rfl := Option.some.inj hsame
    have hmem := hlog _ (by simp) hmem
    rcases save_phase run.config answers run.tracked.stage nowNs with
      ⟨-, hfollows, hspent⟩ | ⟨-, hfailed⟩
    · rcases locked_followers hfollows hnext' with hlocking | hlocked
      · -- a new lock has a new number
        obtain ⟨number, hnumber⟩ := Option.isSome_iff_exists.mp
          (hspends.trans (hspent (by simp [hlocking])))
        have hnew : next.lock = some number := by
          rw [hnext, TrackedStage.save, if_pos hlocking, hnumber]
        rw [hnew] at hmem
        exact absurd hmem (hissued number hnumber).2.1
      · have hsameLock : next.lock = stored.lock := by
          rw [hnext, TrackedStage.save, if_neg (by simp [hlocked]), hlock]
        rw [hsameLock] at hmem
        obtain ⟨j, hj⟩ := h.swaps stored hstored (.inl (hphase ▸ hlocked)) hmem
        refine ⟨j, ?_⟩
        rw [flightAt_set hrun, if_neg, hj]
        rintro rfl
        -- a locked stage issues nothing
        rw [flightAt, hrun, Option.any_some, TopUpRun.inFlight, hcall] at hj
        rcases phase_of_spends (hspends.symm.trans hj) with hcase | hcase | hcase
        all_goals
          rw [hlocked] at hcase
          cases hcase
    · rw [hnext, TrackedStage.save, hfailed] at hnext'
      rcases hnext' with hcase | hcase <;> cases hcase
  · intro tracked hsame hnext' hmem
    obtain rfl := Option.some.inj hsame
    have hmem := hlog _ (by simp) hmem
    rcases save_phase run.config answers run.tracked.stage nowNs with
      ⟨-, hfollows, hspent⟩ | ⟨-, hfailed⟩
    · have hswapping := transferring_followers hfollows hnext'
      -- a new swap has a new number
      obtain ⟨number, hnumber⟩ := Option.isSome_iff_exists.mp
        (hspends.trans (hspent (by simp [hswapping])))
      have hnew : next.swap = some number := by
        rw [hnext, TrackedStage.save, if_pos hswapping, hnumber]
      rw [hnew] at hmem
      exact absurd hmem (hissued number hnumber).2.2
    · rw [hnext, TrackedStage.save, hfailed] at hnext'
      cases hnext'
  · exact h.safe.append_quiet learn_quiet

theorem TopUpInv.arrive {nowNs : ℕ} (h : TopUpInv world) (hrun : world.runs[i]? = some run)
    (horderly : run.saves = false ∨ world.inPhase run = true) :
    TopUpInv (world.arrive i run nowNs) := by
  unfold TopUpWorld.arrive
  cases hcall : run.call with
  | answered answers issued =>
    rw [TopUpRun.saves, hcall] at horderly
    rcases horderly with hnot | hinPhase
    · cases hnot
    · exact h.save hrun hcall hinPhase
  | calling => exact h
  | finished => exact h

/-- What a top-up starts with. -/
theorem topUpStart_eq_some {stage : Option TopUpStage} {next : TopUpStage}
    (h : (topUpStart stage).toOption = some next) :
    next = .preflight ∧ ∀ old, stage = some old → old.phase = .completed := by
  unfold topUpStart at h
  split at h
  · exact ⟨(Option.some.inj h).symm, fun old hold => (by cases hold)⟩
  · refine ⟨(Option.some.inj h).symm, fun old hold => ?_⟩
    obtain rfl := Option.some.inj hold
    rfl
  · cases h
  · cases h

/-- What the scheduler starts with. -/
theorem startsTopUp_eq_some {check : TopUpCheck} {stage : Option TopUpStage} {next : TopUpStage}
    (h : check.startsTopUp stage = some next) : next = .preflight := by
  unfold TopUpCheck.startsTopUp at h
  dsimp only at h
  split at h
  · rename_i recovered hrecovered
    obtain rfl := Option.some.inj h
    split at hrecovered
    · unfold TopUpCheck.maybeRecoverFailedTopup at hrecovered
      split at hrecovered
      · cases hrecovered
      · split at hrecovered
        · exact (topUpStart_eq_some hrecovered).1
        · cases hrecovered
    · cases hrecovered
  · split at h
    · exact (topUpStart_eq_some h).1
    · cases h

theorem TopUpInv.step {act : TopUpAct} (h : TopUpInv world)
    (horderly : act.isOrderly world = true) : TopUpInv (act.apply world) := by
  cases act with
  | advance config => exact h.advance
  | perform i answers =>
    unfold TopUpAct.apply
    unfold TopUpAct.isOrderly at horderly
    dsimp only at horderly ⊢
    cases hrun : world.runs[i]? with
    | none => exact h
    | some run =>
      rw [hrun, Option.all_some, Bool.or_eq_true, Bool.and_eq_true, List.all_eq_true] at horderly
      apply h.perform hrun
      refine horderly.imp_right fun hinPhase => ⟨hinPhase.1, fun other hother => ?_⟩
      simpa using hinPhase.2 other hother
  | arrive i nowNs =>
    unfold TopUpAct.apply
    unfold TopUpAct.isOrderly at horderly
    dsimp only at horderly ⊢
    cases hrun : world.runs[i]? with
    | none => exact h
    | some run =>
      rw [hrun, Option.all_some, Bool.or_eq_true] at horderly
      apply h.arrive hrun
      exact horderly.imp_left fun hquiet => by simpa using hquiet
  | start =>
    apply h.store
    intro next hnext
    obtain ⟨rfl, hcompleted⟩ := topUpStart_eq_some hnext
    refine ⟨rfl, h.none_open fun tracked hstored => ?_⟩
    rw [hcompleted tracked.stage (by rw [TopUpWorld.stage, hstored]; rfl)]
    rfl
  | reset =>
    unfold TopUpAct.apply
    unfold TopUpAct.isOrderly at horderly
    dsimp only at horderly ⊢
    cases hreset : (topUpReset world.stage).toOption with
    | none => exact h
    | some _ =>
      rw [hreset] at horderly
      exact h.restart (by simpa using horderly) fun tracked hstored => (by cases hstored)
  | checkCycles check =>
    unfold TopUpAct.isOrderly at horderly
    dsimp only at horderly
    apply h.store
    intro next hnext
    rw [hnext] at horderly
    exact ⟨startsTopUp_eq_some hnext, by simpa using horderly⟩

theorem topUpInv_fresh : TopUpInv .fresh := by
  constructor
  · simp [TopUpWorld.fresh, openLocks]
  · simp [TopUpWorld.fresh]
  · simp [TopUpWorld.fresh]
  · simp [TopUpWorld.fresh]
  · simp [TopUpWorld.fresh, flightAt]
  · simp [TopUpWorld.fresh]
  · simp [TopUpWorld.fresh]
  · constructor <;> simp [TopUpWorld.fresh]

end Steps

/-- In every run of orderly acts, no lock is broadcast while one is open, and every bridged amount
is swapped and every swapped amount transferred at most once. -/
theorem locked_funds_safe (world : TopUpWorld) (hreach : OrderlyReachable world) :
    FundsSafe world.log := by
  have hinv : TopUpInv world := by
    refine Reachable.invariant hreach ?_ ?_
    · rintro world rfl
      exact topUpInv_fresh
    · rintro world act next hinv ⟨rfl, horderly⟩
      exact hinv.step horderly
  exact hinv.safe

/-- Every call succeeds. -/
def successAnswers : TopUpAnswers where
  cycleBalance := 1000000000000
  usdcBalance := .ok "0x3938700"
  transferFees := .ok [⟨.usdc, .base, 1, 100000000⟩]
  signedTransaction := .ok ()
  sentTransaction := .ok "0xaa"
  receipt := .ok (.object (some "0x1") (some "0x10"))
  blockNumber := .ok "0x20"
  transferEvmToIcp := .ok (.accepted 7)
  getTransfer := .ok (.succeeded 49000000)
  icrc2Approve := .ok (.ok 1)
  swap := .ok (.ok ⟨"Success", 500000000⟩)
  icrc1Transfer := .ok (.ok 9)
  notifyTopUp := .ok (.ok 10000000000000)

/-- A run of `advance` goes through some stages. -/
def advanceThrough (i stages : ℕ) (answers : TopUpAnswers) : List TopUpAct :=
  .advance .default :: (List.replicate stages [.perform i answers, .arrive i 0]).flatten

/-- A top-up is carried to its end, and the next one is started. -/
def completedTopUpActs : List TopUpAct :=
  [.start] ++ advanceThrough 0 2 successAnswers ++ advanceThrough 1 2 successAnswers ++
    advanceThrough 2 2 successAnswers ++ advanceThrough 3 5 successAnswers ++ [.start]

/-- The world after them. -/
def completedTopUp : TopUpWorld := run TopUpAct.apply completedTopUpActs .fresh

example : completedTopUp.log =
    [.lockBroadcast 0, .lockObtained 0, .swapIssued (some 0), .transferIssued (some 1),
      .lockClosed 0] := by
  decide +kernel

theorem completedTopUp_safe : FundsSafe completedTopUp.log := by
  apply locked_funds_safe
  have hfresh : OrderlyReachable .fresh := .start rfl
  apply hfresh.run_restrict
  decide +kernel

/-- One poll of the lock's receipt fails, the scheduler recovers the top-up after the backoff, and
another lock is broadcast. -/
def doubledTopUpActs : List TopUpAct :=
  [.start] ++ advanceThrough 0 2 successAnswers ++ advanceThrough 1 2 successAnswers ++
    advanceThrough 2 1 { successAnswers with receipt := .error "timeout" } ++
    [.checkCycles ⟨true, 0, 0, .ok .default, 0, none, nanos topupFailedRecoveryBackoffSecs⟩] ++
    advanceThrough 3 2 successAnswers ++ advanceThrough 4 2 successAnswers

/-- The failed poll leaves the first lock behind. -/
theorem doubledTopUp_not_safe : ¬ ∀ world : TopUpWorld,
    Reachable (· = TopUpWorld.fresh) (StepOf TopUpAct.apply) world → FundsSafe world.log := by
  intro hclaim
  have hsafe := hclaim (run TopUpAct.apply doubledTopUpActs .fresh) ((Reachable.self _).run _)
  have hlog : (run TopUpAct.apply doubledTopUpActs .fresh).log =
      [.lockBroadcast 0, .lockObtained 0] ++ .lockBroadcast 1 :: [.lockObtained 1] := by
    decide +kernel
  have hopen := hsafe.oneLock _ _ _ hlog
  cases hopen

end Automaton.Agent
