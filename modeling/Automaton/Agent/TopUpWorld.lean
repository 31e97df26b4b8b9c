import Automaton.Agent.CycleTopUp
import Automaton.Library.Fallible
import Automaton.Library.Transition

/-!
# Runs of cycle top-ups

Runs of `advance` overlap, and a failed top-up is started again. Every lock, swap and transfer has
a number, and a log says what was issued and what became of the locks.
-/

namespace Automaton.Agent

open Machine Transition Fallible

/-- What a stage has done with the money. -/
inductive TopUpPhase
  | unlocked | locking | locked | swapping | transferring | minting | completed | failed
  deriving DecidableEq, Repr

/-- The phase of a stage. -/
def TopUpStage.phase : TopUpStage → TopUpPhase
  | preflight | approvingLocker _ | waitingApprovalConfirmation _ _ => .unlocked
  | lockingUsdc _ => .locking
  | waitingLockConfirmation _ _ _ | validatingOnOnesec _ _ | waitingForBridgedUsdc _ _ _
  | approvingKongSwap _ _ => .locked
  | swappingToIcp _ _ => .swapping
  | transferringToCmc _ _ => .transferring
  | mintingCycles _ _ => .minting
  | completed _ _ _ => .completed
  | failed _ _ _ _ => .failed

/-- The phases that a stage may lead to, unless it fails. -/
def TopUpPhase.followers : TopUpPhase → List TopUpPhase
  | unlocked => [.unlocked, .locking]
  | locking => [.locked]
  | locked => [.locked, .swapping]
  | swapping => [.transferring]
  | transferring => [.minting]
  | minting => [.completed]
  | completed => [.completed]
  | failed => [.failed]

/-- The amount of a lock is on its way in a phase, or was lost. -/
def TopUpPhase.carries : TopUpPhase → Bool
  | locked | swapping | transferring | minting | failed => true
  | unlocked | locking | completed => false

/-- The swap was answered by a success. -/
def TopUpAnswers.swapped (answers : TopUpAnswers) : Bool :=
  match answers.swap with
  | .ok (.ok reply) => Text.eqIgnoreAsciiCase reply.status "success"
  | _ => false

/-- The transfer to the CMC was answered by a success. -/
def TopUpAnswers.transferred (answers : TopUpAnswers) : Bool :=
  match answers.icrc1Transfer with
  | .ok (.ok _) => true
  | _ => false

/-- The answers of a stage say that it has locked, swapped or transferred an amount. -/
def TopUpStage.spends (answers : TopUpAnswers) : TopUpStage → Bool
  | lockingUsdc _ =>
    answers.signedTransaction.toOption.isSome && answers.sentTransaction.toOption.isSome
  | swappingToIcp _ _ => answers.swapped
  | transferringToCmc _ _ => answers.transferred
  | _ => false

/-- The answers report that the lock transaction or the bridge transfer has failed. -/
def TopUpStage.lockFails (config : TopUpConfig) (answers : TopUpAnswers) : TopUpStage → Bool
  | waitingLockConfirmation _ _ _ =>
    match answers.receipt with
    | .ok (.object (some status) _) => (parseHexU64 status "receipt status").toOption = some 0
    | _ => false
  | validatingOnOnesec _ _ =>
    match answers.transferEvmToIcp with
    | .ok (.failed _) => true
    | _ => false
  | waitingForBridgedUsdc _ _ polls =>
    match answers.getTransfer with
    | .ok (.failed _) => polls < config.maxBridgePolls
    | _ => false
  | _ => false

/-- What happens to money. Locks and swaps are given by their numbers. -/
inductive TopUpEvent
  | lockBroadcast (lock : ℕ)
  | lockObtained (lock : ℕ)
  | lockClosed (lock : ℕ)
  | swapIssued (lock : Option ℕ)
  | transferIssued (swap : Option ℕ)
  deriving DecidableEq, Repr

/-- A stage with the numbers of the lock and the swap that its amounts come from. -/
structure TrackedStage where
  stage : TopUpStage
  lock : Option ℕ
  swap : Option ℕ
  deriving DecidableEq, Repr

/-- A stage without a lock. -/
def TrackedStage.start (stage : TopUpStage) : TrackedStage := ⟨stage, none, none⟩

/-- Two stages have done the same with the same money. -/
def TrackedStage.samePhase (first second : TrackedStage) : Bool :=
  first.stage.phase = second.stage.phase && first.lock = second.lock && first.swap = second.swap

/-- What the calls of a stage issue. -/
def TrackedStage.issue (tracked : TrackedStage) (answers : TopUpAnswers) (number : ℕ) :
    Option TopUpEvent :=
  if tracked.stage.spends answers then
    if tracked.stage.phase = .locking then some (.lockBroadcast number)
    else if tracked.stage.phase = .swapping then some (.swapIssued tracked.lock)
    else some (.transferIssued tracked.swap)
  else none

/-- The stage that is saved after the answers; `issued` is the number of what was issued. -/
def TrackedStage.save (tracked : TrackedStage) (config : TopUpConfig) (answers : TopUpAnswers)
    (issued : Option ℕ) (nowNs : ℕ) : TrackedStage where
  stage := tracked.stage.save config answers nowNs
  lock := if tracked.stage.phase = .locking then issued else tracked.lock
  swap := if tracked.stage.phase = .swapping then issued else tracked.swap

/-- What the answers say about the lock. -/
def TrackedStage.learn (tracked : TrackedStage) (config : TopUpConfig) (answers : TopUpAnswers)
    (issued : Option ℕ) (nowNs : ℕ) : Option TopUpEvent :=
  if (tracked.stage.next config answers nowNs).toOption.isSome then
    if tracked.stage.phase = .locking then issued.map .lockObtained
    else if tracked.stage.phase = .minting then tracked.lock.map .lockClosed
    else none
  else if tracked.stage.lockFails config answers then tracked.lock.map .lockClosed
  else none

/-- Where a run of `advance` is. -/
inductive TopUpCall
  | calling
  | answered (answers : TopUpAnswers) (issued : Option ℕ)
  | finished

/-- A run of `advance`, with the stage it works on. -/
structure TopUpRun where
  config : TopUpConfig
  tracked : TrackedStage
  call : TopUpCall

/-- What the calls of a run issue. -/
def TopUpRun.issue (run : TopUpRun) (answers : TopUpAnswers) (number : ℕ) : Option TopUpEvent :=
  match run.call with
  | .calling => run.tracked.issue answers number
  | _ => none

/-- A run has issued something and has not been told so yet. -/
def TopUpRun.inFlight (run : TopUpRun) : Bool :=
  match run.call with
  | .answered _ issued => issued.isSome
  | _ => false

/-- A run that has been answered saves a stage next. -/
def TopUpRun.saves (run : TopUpRun) : Bool :=
  match run.call with
  | .answered _ _ => true
  | _ => false

/-- The stored stage, the runs of `advance`, and what was issued. -/
structure TopUpWorld where
  stored : Option TrackedStage
  runs : List TopUpRun
  issued : ℕ
  log : List TopUpEvent

/-- No top-up was ever started. -/
def TopUpWorld.fresh : TopUpWorld := ⟨none, [], 0, []⟩

/-- The stored stage. -/
def TopUpWorld.stage (world : TopUpWorld) : Option TopUpStage := world.stored.map (·.stage)

/-- What happens to a top-up: a run of `advance` loads the stored stage, the calls of its stage
are answered, the answers arrive, and the top-up is started, reset or checked by the scheduler. -/
inductive TopUpAct
  | advance (config : TopUpConfig)
  | perform (i : ℕ) (answers : TopUpAnswers)
  | arrive (i : ℕ) (nowNs : ℕ)
  | start
  | reset
  | checkCycles (check : TopUpCheck)

/-- A run of `advance` loads the stored stage. -/
def TopUpWorld.advance (world : TopUpWorld) (config : TopUpConfig) : TopUpWorld :=
  match world.stored with
  | none => world
  | some tracked =>
    if tracked.stage.isTerminal then world
    else { world with runs := world.runs ++ [⟨config, tracked, .calling⟩] }

/-- The calls of a run's stage are answered. -/
def TopUpWorld.perform (world : TopUpWorld) (i : ℕ) (run : TopUpRun) (answers : TopUpAnswers) :
    TopUpWorld :=
  match run.call with
  | .calling =>
    match run.tracked.issue answers world.issued with
    | none => { world with runs := world.runs.set i { run with call := .answered answers none } }
    | some event =>
      { world with
        runs := world.runs.set i { run with call := .answered answers (some world.issued) }
        issued := world.issued + 1
        log := world.log ++ [event] }
  | _ => world

/-- A run goes on with a stage that it has saved, unless it is waiting or at its end. -/
def TopUpRun.resume (run : TopUpRun) (next : TrackedStage) : TopUpRun where
  config := run.config
  tracked := next
  call := if next.stage.isTerminal || next.stage.isWaiting then .finished else .calling

/-- The answers arrive at a run, which saves the next stage. -/
def TopUpWorld.arrive (world : TopUpWorld) (i : ℕ) (run : TopUpRun) (nowNs : ℕ) : TopUpWorld :=
  match run.call with
  | .answered answers issued =>
    let next := run.tracked.save run.config answers issued nowNs
    { world with
      stored := some next
      runs := world.runs.set i (run.resume next)
      log := world.log ++ (run.tracked.learn run.config answers issued nowNs).toList }
  | _ => world

/-- A stage is stored for a new top-up. -/
def TopUpWorld.store (world : TopUpWorld) (stage : Option TopUpStage) : TopUpWorld :=
  stage.elim world fun stage => { world with stored := some (.start stage) }

/-- The world after an act. -/
def TopUpAct.apply (act : TopUpAct) (world : TopUpWorld) : TopUpWorld :=
  match act with
  | .advance config => world.advance config
  | .perform i answers => world.runs[i]?.elim world fun run => world.perform i run answers
  | .arrive i nowNs => world.runs[i]?.elim world fun run => world.arrive i run nowNs
  | .start => world.store (topUpStart world.stage).toOption
  | .reset =>
    (topUpReset world.stage).toOption.elim world fun () => { world with stored := none }
  | .checkCycles check => world.store (check.startsTopUp world.stage)

section Stages

variable {config : TopUpConfig} {answers : TopUpAnswers} {next : TopUpStage}

theorem preflight_phase (h : preflight config answers = .ok next) : next.phase = .unlocked := by
  simp only [preflight, throw_bind, ite_error_eq_ok, bind_eq_ok, pure_eq_ok] at h
  obtain ⟨-, raw, -, balance, -, -, -, fees, -, fee, -, minAmount, -, maxAmount, -, -, rfl⟩ := h
  rfl

theorem approveLocker_phase {usdcAmount : ℕ} (h : approveLocker answers usdcAmount = .ok next) :
    next.phase = .unlocked := by
  simp only [approveLocker, bind_eq_ok, pure_eq_ok] at h
  obtain ⟨hash, -, rfl⟩ := h
  rfl

theorem pollApproval_phase {usdcAmount : ℕ} {txHash : String}
    (h : pollApproval answers usdcAmount txHash = .ok next) :
    next.phase = .unlocked ∨ next.phase = .locking := by
  simp only [pollApproval, bind_eq_ok] at h
  obtain ⟨_ | confirmations, -, h⟩ := h
  · obtain rfl := pure_eq_ok.mp h
    exact .inl rfl
  · dsimp only at h
    split at h
    · obtain rfl := pure_eq_ok.mp h
      exact .inl rfl
    · obtain rfl := pure_eq_ok.mp h
      exact .inr rfl

/-- A lock that succeeds was sent. -/
theorem lockUsdc_phase {usdcAmount : ℕ} (h : lockUsdc answers usdcAmount = .ok next) :
    next.phase = .locked ∧ (TopUpStage.lockingUsdc usdcAmount).spends answers = true := by
  simp only [lockUsdc, TopUpAnswers.sendTransaction, bind_eq_ok, pure_eq_ok] at h
  obtain ⟨hash, ⟨_, hsigned, sent, hsent, -⟩, rfl⟩ := h
  refine ⟨rfl, ?_⟩
  rw [TopUpStage.spends, hsigned, hsent]
  rfl

theorem pollLock_phase {usdcAmount known : ℕ} {txHash : String}
    (h : pollLock config answers usdcAmount txHash known = .ok next) : next.phase = .locked := by
  simp only [pollLock, bind_eq_ok] at h
  obtain ⟨_ | confirmations, -, h⟩ := h
  · obtain rfl := pure_eq_ok.mp h
    rfl
  · dsimp only at h
    split at h
    · obtain rfl := pure_eq_ok.mp h
      rfl
    · obtain rfl := pure_eq_ok.mp h
      rfl

theorem validateOnOnesec_phase {usdcAmount : ℕ} {txHash : String}
    (h : validateOnOnesec answers usdcAmount txHash = .ok next) : next.phase = .locked := by
  simp only [validateOnOnesec, bind_eq_ok] at h
  obtain ⟨_, -, transferId | error | blockHeight, -, h⟩ := h
  · obtain rfl := pure_eq_ok.mp h
    rfl
  · cases h
  · obtain rfl := pure_eq_ok.mp h
    rfl

theorem pollBridge_phase {usdcAmount transferId polls : ℕ}
    (h : pollBridge config answers usdcAmount transferId polls = .ok next) :
    next.phase = .locked := by
  simp only [pollBridge, throw_bind, ite_error_eq_ok, bind_eq_ok] at h
  obtain ⟨-, _ | _ | amount | error, -, h⟩ := h
  · obtain rfl := pure_eq_ok.mp h
    rfl
  · obtain rfl := pure_eq_ok.mp h
    rfl
  · simp only [bind_eq_ok, pure_eq_ok] at h
    obtain ⟨_, -, rfl⟩ := h
    rfl
  · cases h

theorem approveKongSwap_phase {bridgedUsdcAmount usdcSpent : ℕ}
    (h : approveKongSwap answers bridgedUsdcAmount usdcSpent = .ok next) :
    next.phase = .swapping := by
  simp only [approveKongSwap, bind_eq_ok] at h
  obtain ⟨error | block, -, h⟩ := h
  · cases h
  · obtain rfl := pure_eq_ok.mp h
    rfl

/-- A swap that succeeds was issued. -/
theorem swapToIcp_phase {usdcSpent : ℕ} (h : swapToIcp answers usdcSpent = .ok next) :
    next.phase = .transferring ∧ answers.swapped = true := by
  simp only [swapToIcp, bind_eq_ok] at h
  obtain ⟨error | reply, hswap, h⟩ := h
  · cases h
  · simp only [throw_bind, ite_error_eq_ok, bind_eq_ok, pure_eq_ok] at h
    obtain ⟨hstatus, _, -, rfl⟩ := h
    refine ⟨rfl, ?_⟩
    rw [TopUpAnswers.swapped, hswap]
    simpa using hstatus

/-- A transfer that succeeds was issued. -/
theorem transferToCmc_phase {usdcSpent : ℕ} (h : transferToCmc answers usdcSpent = .ok next) :
    next.phase = .minting ∧ answers.transferred = true := by
  simp only [transferToCmc, bind_eq_ok] at h
  obtain ⟨error | blockIndex, htransfer, h⟩ := h
  · cases h
  · simp only [bind_eq_ok, pure_eq_ok] at h
    obtain ⟨_, -, rfl⟩ := h
    refine ⟨rfl, ?_⟩
    rw [TopUpAnswers.transferred, htransfer]

theorem mintCycles_phase {usdcSpent nowNs : ℕ}
    (h : mintCycles answers usdcSpent nowNs = .ok next) : next.phase = .completed := by
  simp only [mintCycles, bind_eq_ok] at h
  obtain ⟨error | cyclesMinted, -, h⟩ := h
  · cases h
  · simp only [bind_eq_ok, pure_eq_ok] at h
    obtain ⟨_, -, rfl⟩ := h
    rfl

/-- What a stage leads to, unless it fails: a phase that follows its own, after it has spent what
the phase spends. -/
theorem next_phase {stage : TopUpStage} {nowNs : ℕ}
    (h : stage.next config answers nowNs = .ok next) :
    next.phase ∈ stage.phase.followers ∧
      (stage.phase ∈ [TopUpPhase.locking, .swapping, .transferring] →
        stage.spends answers = true) := by
  cases stage with
  | preflight =>
    rw [preflight_phase h]
    simp [TopUpStage.phase, TopUpPhase.followers]
  | approvingLocker usdcAmount =>
    rw [approveLocker_phase h]
    simp [TopUpStage.phase, TopUpPhase.followers]
  | waitingApprovalConfirmation usdcAmount txHash =>
    rcases pollApproval_phase h with hphase | hphase
    · rw [hphase]
      simp [TopUpStage.phase, TopUpPhase.followers]
    · rw [hphase]
      simp [TopUpStage.phase, TopUpPhase.followers]
  | lockingUsdc usdcAmount =>
    obtain ⟨hphase, hspends⟩ := lockUsdc_phase h
    rw [hphase, hspends]
    simp [TopUpStage.phase, TopUpPhase.followers]
  | waitingLockConfirmation usdcAmount txHash confirmations =>
    rw [pollLock_phase h]
    simp [TopUpStage.phase, TopUpPhase.followers]
  | validatingOnOnesec usdcAmount txHash =>
    rw [validateOnOnesec_phase h]
    simp [TopUpStage.phase, TopUpPhase.followers]
  | waitingForBridgedUsdc usdcAmount transferId polls =>
    rw [pollBridge_phase h]
    simp [TopUpStage.phase, TopUpPhase.followers]
  | approvingKongSwap bridgedUsdcAmount usdcSpent =>
    rw [approveKongSwap_phase h]
    simp [TopUpStage.phase, TopUpPhase.followers]
  | swappingToIcp bridgedUsdcAmount usdcSpent =>
    obtain ⟨hphase, hspends⟩ := swapToIcp_phase h
    rw [hphase, TopUpStage.spends, hspends]
    simp [TopUpStage.phase, TopUpPhase.followers]
  | transferringToCmc icpAmount usdcSpent =>
    obtain ⟨hphase, hspends⟩ := transferToCmc_phase h
    rw [hphase, TopUpStage.spends, hspends]
    simp [TopUpStage.phase, TopUpPhase.followers]
  | mintingCycles blockIndex usdcSpent =>
    rw [mintCycles_phase h]
    simp [TopUpStage.phase, TopUpPhase.followers]
  | completed cyclesMinted usdcSpent completedAtNs =>
    obtain rfl := Except.ok.inj h
    simp [TopUpStage.phase, TopUpPhase.followers]
  | failed stage error failedAtNs attempts =>
    obtain rfl := Except.ok.inj h
    simp [TopUpStage.phase, TopUpPhase.followers]

/-- A stage is followed, or it fails. -/
theorem save_phase (config : TopUpConfig) (answers : TopUpAnswers) (stage : TopUpStage)
    (nowNs : ℕ) :
    ((stage.next config answers nowNs).toOption.isSome = true ∧
      (stage.save config answers nowNs).phase ∈ stage.phase.followers ∧
      (stage.phase ∈ [TopUpPhase.locking, .swapping, .transferring] →
        stage.spends answers = true)) ∨
    ((stage.next config answers nowNs).toOption.isSome = false ∧
      (stage.save config answers nowNs).phase = .failed) := by
  unfold TopUpStage.save
  cases hnext : stage.next config answers nowNs with
  | error error => exact .inr ⟨rfl, rfl⟩
  | ok next => exact .inl ⟨rfl, next_phase hnext⟩

/-- Money is spent in three phases. -/
theorem phase_of_spends {stage : TopUpStage} (h : stage.spends answers = true) :
    stage.phase = .locking ∨ stage.phase = .swapping ∨ stage.phase = .transferring := by
  cases stage <;> simp [TopUpStage.spends, TopUpStage.phase] at *

end Stages

section Tracked

variable {tracked : TrackedStage} {answers : TopUpAnswers} {number : ℕ}

theorem spends_of_issue_none (h : tracked.issue answers number = none) :
    tracked.stage.spends answers = false := by
  cases hspends : tracked.stage.spends answers with
  | false => rfl
  | true =>
    rw [TrackedStage.issue, if_pos hspends] at h
    split at h
    · cases h
    · split at h <;> cases h

/-- What is issued in each phase. -/
theorem issue_cases {event : TopUpEvent} (h : tracked.issue answers number = some event) :
    tracked.stage.spends answers = true ∧
      (tracked.stage.phase = .locking ∧ event = .lockBroadcast number ∨
        tracked.stage.phase = .swapping ∧ event = .swapIssued tracked.lock ∨
        tracked.stage.phase = .transferring ∧ event = .transferIssued tracked.swap) := by
  cases hspends : tracked.stage.spends answers with
  | false =>
    rw [TrackedStage.issue, hspends] at h
    cases h
  | true =>
    refine ⟨rfl, ?_⟩
    rw [TrackedStage.issue, if_pos hspends] at h
    rcases phase_of_spends hspends with hphase | hphase | hphase
    · rw [hphase, if_pos rfl] at h
      exact .inl ⟨hphase, (Option.some.inj h).symm⟩
    · rw [hphase, if_neg (by simp), if_pos rfl] at h
      exact .inr (.inl ⟨hphase, (Option.some.inj h).symm⟩)
    · rw [hphase, if_neg (by simp), if_neg (by simp)] at h
      exact .inr (.inr ⟨hphase, (Option.some.inj h).symm⟩)

end Tracked

end Automaton.Agent
