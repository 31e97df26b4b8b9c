import Automaton.Agent.EvmPoll
import Automaton.Library.Transition

/-!
# The cursor of polls and its configuration

The cursor of the inbox poll holds where the next poll begins, and also how it polls: the chain, the
contract, the topic of the automaton and the depth of confirmations. A poll works on a copy that it
reads before it waits for the node, and puts the whole cursor back afterwards. What is set in
between is lost.
-/

namespace Automaton.Agent

open Machine Fallible Transition

section Source

/-- `MAX_EVM_CONFIRMATION_DEPTH`. -/
def maxEvmConfirmationDepth : ℕ := 100

/-- `EMPTY_POLL_BACKOFF_SCHEDULE_SECS`. -/
def emptyPollBackoffScheduleSecs : List ℕ := [60, 120, 240, 600]

/-- `DEFAULT_MAX_LOGS_PER_POLL`. -/
def defaultMaxLogsPerPoll : ℕ := 200

/-- `RuntimeSnapshot`, as far as the poll of the inbox contract and its setters use it. -/
structure EvmRuntime where
  evmRpcUrl : String
  inboxContractAddress : Option String
  evmAddress : Option String
  evmBootstrapLookbackBlocks : ℕ
  evmCursor : EvmPollCursor
  deriving DecidableEq

/-- `evm_address_to_topic`. -/
def evmAddressToTopic (address : String) : String :=
  let suffix := (Text.stripPrefix? "0x" address).getD address
  "0x" ++ String.ofList (List.leftpad 64 '0' suffix.toList)

namespace EvmRuntime

/-- `set_evm_chain_id`. -/
def setEvmChainId (runtime : EvmRuntime) (chainId : ℕ) : Except String EvmRuntime :=
  if chainId = 0 then .error "evm chain id must be greater than 0"
  else .ok { runtime with
    evmCursor := { runtime.evmCursor with
      chainId
      nextBlock := 0
      nextLogIndex := 0
      lastPollAtNs := 0
      consecutiveEmptyPolls := 0 } }

/-- The address that is set, if any. -/
def normalizeSetting (address : Option String) (error : String) : Except String (Option String) :=
  match address with
  | none => .ok none
  | some raw => ((normalizeEvmAddress raw).mapError fun _ => error).map some

/-- `set_inbox_contract_address`. -/
def setInboxContractAddress (runtime : EvmRuntime) (address : Option String) :
    Except String EvmRuntime := do
  let normalized ← normalizeSetting address
    "inbox contract address must be a 0x-prefixed 20-byte hex string"
  return { runtime with
    inboxContractAddress := normalized
    evmCursor := { runtime.evmCursor with contractAddress := normalized } }

/-- `set_evm_address`. -/
def setEvmAddress (runtime : EvmRuntime) (address : Option String) : Except String EvmRuntime := do
  let normalized ← normalizeSetting address "evm address must be a 0x-prefixed 20-byte hex string"
  return { runtime with
    evmAddress := normalized
    evmCursor := { runtime.evmCursor with
      automatonAddressTopic := normalized.map evmAddressToTopic } }

/-- `set_evm_confirmation_depth`. -/
def setEvmConfirmationDepth (runtime : EvmRuntime) (confirmationDepth : ℕ) :
    Except String EvmRuntime :=
  if maxEvmConfirmationDepth < confirmationDepth then
    .error ("evm confirmation depth must be <= " ++ toString maxEvmConfirmationDepth)
  else .ok { runtime with evmCursor := { runtime.evmCursor with confirmationDepth } }

/-- `set_evm_cursor`. -/
def setEvmCursor (runtime : EvmRuntime) (cursor : EvmPollCursor) : EvmRuntime :=
  { runtime with
    evmCursor := { cursor with
      contractAddress := cursor.contractAddress <|> runtime.inboxContractAddress
      automatonAddressTopic :=
        cursor.automatonAddressTopic <|> runtime.evmAddress.map evmAddressToTopic } }

end EvmRuntime

/-- `empty_poll_backoff_delay_ns`. -/
def emptyPollBackoffDelayNs (consecutiveEmptyPolls : ℕ) : ℕ :=
  saturatingMul u64Max (emptyPollBackoffScheduleSecs.getD (consecutiveEmptyPolls - 1) 600)
    1000000000

/-- `poll_inbox_rpc_due`. -/
def pollInboxRpcDue (nowNs lastPollAtNs consecutiveEmptyPolls : ℕ) : Bool :=
  lastPollAtNs = 0 ||
    saturatingAdd u64Max lastPollAtNs (emptyPollBackoffDelayNs consecutiveEmptyPolls) ≤ nowNs

/-- `HttpEvmPoller::from_snapshot`. -/
def HttpEvmPoller.fromSnapshot (snapshot : EvmRuntime) : Except String HttpEvmPoller := do
  if Text.trim snapshot.evmRpcUrl = "" then throw "evm rpc url is not configured"
  let address ← (snapshot.evmCursor.contractAddress <|> snapshot.inboxContractAddress).elim
    (throw "inbox contract address is not configured") pure
  let logFilterAddress ← normalizeEvmAddress address
  let logFilterTopic1 ← match snapshot.evmCursor.automatonAddressTopic with
    | some topic => normalizeTopic topic "automaton address topic"
    -- `address_to_topic`: a normalized address has one prefix, so both functions drop the same
    | none => snapshot.evmAddress.elim (throw "evm address is not configured") fun address =>
        (normalizeEvmAddress address).map evmAddressToTopic
  return {
    maxLogsPerPoll := defaultMaxLogsPerPoll
    bootstrapLookbackBlocks := snapshot.evmBootstrapLookbackBlocks
    logFilterAddress
    logFilterTopics := [inboxMessageQueuedTopic0, logFilterTopic1] }

/-- What `run_poll_inbox_job` keeps while it waits for the node. -/
structure PendingPoll where
  nowNs : ℕ
  snapshot : EvmRuntime
  poller : HttpEvmPoller

/-- `run_poll_inbox_job` up to the poll, when it polls. -/
def startPollInbox (snapshot : EvmRuntime) (nowNs : ℕ) : Except String (Option PendingPoll) :=
  if Text.trim snapshot.evmRpcUrl = "" ∨ snapshot.inboxContractAddress = none ∨
      snapshot.evmAddress = none ∨
      pollInboxRpcDue nowNs snapshot.evmCursor.lastPollAtNs
        snapshot.evmCursor.consecutiveEmptyPolls = false then
    .ok none
  else (HttpEvmPoller.fromSnapshot snapshot).map fun poller => some { nowNs, snapshot, poller }

/-- `run_poll_inbox_job` from the poll on, at the runtime that it finds then. The events are
ingested, which says how many were new. -/
def finishPollInbox (runtime : EvmRuntime) (pending : PendingPoll) (rpc : EvmRpc)
    (ingest : List EvmEvent → Except String ℕ) : Except String EvmRuntime := do
  let poll ← pending.poller.poll rpc pending.snapshot.evmCursor
  let ingestedEvents ← ingest poll.events
  return runtime.setEvmCursor { poll.cursor with
    lastPollAtNs := pending.nowNs
    consecutiveEmptyPolls :=
      if 0 < ingestedEvents then 0
      else saturatingAdd u32Max pending.snapshot.evmCursor.consecutiveEmptyPolls 1 }

end Source

section World

/-- The part of a cursor that is set. -/
structure EvmPollConfig where
  chainId : ℕ
  contractAddress : Option String
  automatonAddressTopic : Option String
  confirmationDepth : ℕ
  deriving DecidableEq

/-- How a cursor polls. -/
def EvmPollCursor.config (cursor : EvmPollCursor) : EvmPollConfig where
  chainId := cursor.chainId
  contractAddress := cursor.contractAddress
  automatonAddressTopic := cursor.automatonAddressTopic
  confirmationDepth := cursor.confirmationDepth

/-- The runtime and the polls in flight. Beside them stand the values that were set last, and the
chain for which the position of the stored cursor was computed. -/
structure PollWorld where
  runtime : EvmRuntime
  pending : List PendingPoll
  lastSet : EvmPollConfig
  positionChain : ℕ

/-- What happens: a setter is called, a job begins to poll, or the answers of the node reach one of
the jobs that wait for them. -/
inductive PollAct
  | setEvmChainId (chainId : ℕ)
  | setInboxContractAddress (address : Option String)
  | setEvmAddress (address : Option String)
  | setEvmConfirmationDepth (confirmationDepth : ℕ)
  | start (nowNs : ℕ)
  | finish (job : ℕ) (rpc : EvmRpc) (ingest : List EvmEvent → Except String ℕ)

/-- What a call of the poll does to the world. A failed setter leaves it as it is. -/
def PollAct.apply : PollAct → PollWorld → PollWorld
  | .setEvmChainId chainId, w =>
    match w.runtime.setEvmChainId chainId with
    | .ok runtime =>
      { w with runtime, lastSet := { w.lastSet with chainId }, positionChain := chainId }
    | .error _ => w
  | .setInboxContractAddress address, w =>
    match w.runtime.setInboxContractAddress address with
    | .ok runtime =>
      { w with
        runtime
        lastSet := { w.lastSet with contractAddress := runtime.inboxContractAddress } }
    | .error _ => w
  | .setEvmAddress address, w =>
    match w.runtime.setEvmAddress address with
    | .ok runtime =>
      { w with
        runtime
        lastSet := { w.lastSet with
          automatonAddressTopic := runtime.evmAddress.map evmAddressToTopic } }
    | .error _ => w
  | .setEvmConfirmationDepth confirmationDepth, w =>
    match w.runtime.setEvmConfirmationDepth confirmationDepth with
    | .ok runtime => { w with runtime, lastSet := { w.lastSet with confirmationDepth } }
    | .error _ => w
  | .start nowNs, w =>
    match startPollInbox w.runtime nowNs with
    | .ok (some pending) => { w with pending := w.pending ++ [pending] }
    | _ => w
  | .finish job rpc ingest, w =>
    match w.pending[job]? with
    | none => w
    | some pending =>
      match finishPollInbox w.runtime pending rpc ingest with
      | .ok runtime =>
        { w with
          runtime
          pending := w.pending.eraseIdx job
          positionChain := pending.snapshot.evmCursor.chainId }
      | .error _ => { w with pending := w.pending.eraseIdx job }

namespace PollWorld

/-- The stored cursor polls as it was set last, from a position on the chain that was set last. -/
def Configured (w : PollWorld) : Prop :=
  w.runtime.evmCursor.config = w.lastSet ∧ w.positionChain = w.lastSet.chainId

/-- A world in which no poll is in flight and the cursor polls for the addresses of the runtime. -/
structure Settled (w : PollWorld) : Prop where
  configured : w.Configured
  contract : w.lastSet.contractAddress = w.runtime.inboxContractAddress
  topic : w.lastSet.automatonAddressTopic = w.runtime.evmAddress.map evmAddressToTopic
  idle : w.pending = []

end PollWorld

/-- A job that puts the cursor back has a copy that polls as the stored cursor still does. -/
def PollAct.PutsBackCurrent : PollAct → PollWorld → Prop
  | .finish job rpc ingest, w => ∀ pending ∈ w.pending[job]?,
      (finishPollInbox w.runtime pending rpc ingest).isOk = true →
        pending.snapshot.evmCursor.config = w.runtime.evmCursor.config
  | _, _ => True

end World

section Runs

variable {w : PollWorld} {runtime : EvmRuntime} {pending : PendingPoll} {rpc : EvmRpc}
  {ingest : List EvmEvent → Except String ℕ}

/-- What holds of the world beside the configuration: the runtime has the addresses that were set
last, and the copies of the polls in flight have theirs. -/
structure PollWorld.Kept (w : PollWorld) : Prop where
  configured : w.Configured
  contract : w.lastSet.contractAddress = w.runtime.inboxContractAddress
  topic : w.lastSet.automatonAddressTopic = w.runtime.evmAddress.map evmAddressToTopic
  copies : ∀ pending ∈ w.pending, pending.snapshot.evmCursor.contractAddress ≠ none ∧
    pending.snapshot.evmCursor.automatonAddressTopic ≠ none

theorem PollWorld.Settled.kept (h : w.Settled) : w.Kept where
  configured := h.configured
  contract := h.contract
  topic := h.topic
  copies pending hmem := by
    rw [h.idle] at hmem
    cases hmem

/-- A job in flight that succeeds. -/
theorem apply_finish_ok {job : ℕ} {after : EvmRuntime} (hjob : w.pending[job]? = some pending)
    (hfinish : finishPollInbox w.runtime pending rpc ingest = .ok after) :
    (PollAct.finish job rpc ingest).apply w =
      { w with
        runtime := after
        pending := w.pending.eraseIdx job
        positionChain := pending.snapshot.evmCursor.chainId } := by
  unfold PollAct.apply
  simp only [hjob, hfinish]

/-- A poll moves the cursor and leaves how it polls. -/
theorem HttpEvmPoller.poll_config {poller : HttpEvmPoller} {cursor : EvmPollCursor}
    {result : EvmPollResult} (h : poller.poll rpc cursor = .ok result) :
    result.cursor.config = cursor.config := by
  obtain ⟨latest, -, h⟩ := bind_eq_ok.mp h
  dsimp only at h
  split at h
  · obtain rfl := pure_eq_ok.mp h
    rfl
  · simp only [bind_eq_ok, pure_eq_ok] at h
    obtain ⟨topic, -, messages, -, patronages, -, events, -, rfl⟩ := h
    rfl

/-- A job that succeeds puts back how its copy polls, and leaves the addresses. -/
theorem finishPollInbox_config {after : EvmRuntime}
    (hcontract : pending.snapshot.evmCursor.contractAddress ≠ none)
    (htopic : pending.snapshot.evmCursor.automatonAddressTopic ≠ none)
    (h : finishPollInbox runtime pending rpc ingest = .ok after) :
    after.evmCursor.config = pending.snapshot.evmCursor.config ∧
      after.inboxContractAddress = runtime.inboxContractAddress ∧
      after.evmAddress = runtime.evmAddress := by
  obtain ⟨poll, hpoll, h⟩ := bind_eq_ok.mp h
  obtain ⟨count, -, h⟩ := bind_eq_ok.mp h
  obtain rfl := pure_eq_ok.mp h
  have hconfig := HttpEvmPoller.poll_config hpoll
  have hcontracts := congrArg EvmPollConfig.contractAddress hconfig
  have htopics := congrArg EvmPollConfig.automatonAddressTopic hconfig
  dsimp only [EvmPollCursor.config] at hcontracts htopics
  obtain ⟨contract, hsome⟩ := Option.ne_none_iff_exists'.mp hcontract
  obtain ⟨topic, htopicSome⟩ := Option.ne_none_iff_exists'.mp htopic
  refine ⟨?_, rfl, rfl⟩
  rw [← hconfig]
  dsimp only [EvmRuntime.setEvmCursor, EvmPollCursor.config]
  rw [hcontracts, htopics, hsome, htopicSome]
  rfl

/-- A poll that starts has copies of both addresses. -/
theorem startPollInbox_copies {nowNs : ℕ}
    (hcontract : runtime.evmCursor.contractAddress = runtime.inboxContractAddress)
    (htopic : runtime.evmCursor.automatonAddressTopic = runtime.evmAddress.map evmAddressToTopic)
    (h : startPollInbox runtime nowNs = .ok (some pending)) :
    pending.snapshot = runtime ∧ runtime.evmCursor.contractAddress ≠ none ∧
      runtime.evmCursor.automatonAddressTopic ≠ none := by
  unfold startPollInbox at h
  split at h
  · cases h
  · rename_i hready
    obtain ⟨poller, -, hpending⟩ := map_eq_ok.mp h
    obtain rfl := Option.some.inj hpending
    simp only [not_or] at hready
    obtain ⟨-, haddress, hagent, -⟩ := hready
    refine ⟨rfl, by rwa [hcontract], ?_⟩
    rw [htopic]
    intro hnone
    exact hagent (Option.map_eq_none_iff.mp hnone)

/-- The chain that is set is that of the cursor, whose position starts over. -/
theorem kept_setEvmChainId (h : w.Kept) (chainId : ℕ) :
    ((PollAct.setEvmChainId chainId).apply w).Kept := by
  unfold PollAct.apply
  dsimp only
  cases hset : w.runtime.setEvmChainId chainId with
  | error error => exact h
  | ok runtime =>
    obtain ⟨-, hruntime⟩ := ite_error_eq_ok.mp hset
    obtain rfl := Except.ok.inj hruntime
    refine ⟨⟨?_, rfl⟩, h.contract, h.topic, h.copies⟩
    rw [← h.configured.1]
    rfl

theorem kept_setInboxContractAddress (h : w.Kept) (address : Option String) :
    ((PollAct.setInboxContractAddress address).apply w).Kept := by
  unfold PollAct.apply
  dsimp only
  cases hset : w.runtime.setInboxContractAddress address with
  | error error => exact h
  | ok runtime =>
    obtain ⟨normalized, -, hruntime⟩ := bind_eq_ok.mp hset
    obtain rfl := pure_eq_ok.mp hruntime
    refine ⟨⟨?_, h.configured.2⟩, rfl, h.topic, h.copies⟩
    rw [← h.configured.1]
    rfl

theorem kept_setEvmAddress (h : w.Kept) (address : Option String) :
    ((PollAct.setEvmAddress address).apply w).Kept := by
  unfold PollAct.apply
  dsimp only
  cases hset : w.runtime.setEvmAddress address with
  | error error => exact h
  | ok runtime =>
    obtain ⟨normalized, -, hruntime⟩ := bind_eq_ok.mp hset
    obtain rfl := pure_eq_ok.mp hruntime
    refine ⟨⟨?_, h.configured.2⟩, h.contract, rfl, h.copies⟩
    rw [← h.configured.1]
    rfl

theorem kept_setEvmConfirmationDepth (h : w.Kept) (confirmationDepth : ℕ) :
    ((PollAct.setEvmConfirmationDepth confirmationDepth).apply w).Kept := by
  unfold PollAct.apply
  dsimp only
  cases hset : w.runtime.setEvmConfirmationDepth confirmationDepth with
  | error error => exact h
  | ok runtime =>
    obtain ⟨-, hruntime⟩ := ite_error_eq_ok.mp hset
    obtain rfl := Except.ok.inj hruntime
    refine ⟨⟨?_, h.configured.2⟩, h.contract, h.topic, h.copies⟩
    rw [← h.configured.1]
    rfl

/-- The copy of a poll that starts is that of a configured cursor. -/
theorem kept_start (h : w.Kept) (nowNs : ℕ) : ((PollAct.start nowNs).apply w).Kept := by
  unfold PollAct.apply
  dsimp only
  split
  · rename_i pending hstart
    have hcontract : w.runtime.evmCursor.contractAddress = w.runtime.inboxContractAddress := by
      rw [← h.contract, ← h.configured.1]
      rfl
    have htopic : w.runtime.evmCursor.automatonAddressTopic =
        w.runtime.evmAddress.map evmAddressToTopic := by
      rw [← h.topic, ← h.configured.1]
      rfl
    obtain ⟨hsnapshot, haddresses⟩ := startPollInbox_copies hcontract htopic hstart
    refine ⟨h.configured, h.contract, h.topic, fun other hother => ?_⟩
    rcases List.mem_append.mp hother with hold | hnew
    · exact h.copies other hold
    · rw [List.mem_singleton.mp hnew, hsnapshot]
      exact haddresses
  · exact h

/-- What the end of a job leaves, whether it succeeds or not. -/
theorem finish_cases (h : w.Kept) (job : ℕ) :
    (PollAct.finish job rpc ingest).apply w = w ∧ w.pending[job]? = none ∨
      ∃ pending ∈ w.pending[job]?,
        (finishPollInbox w.runtime pending rpc ingest).isOk = false ∧
            (PollAct.finish job rpc ingest).apply w =
              { w with pending := w.pending.eraseIdx job } ∨
          ∃ after, finishPollInbox w.runtime pending rpc ingest = .ok after ∧
            after.evmCursor.config = pending.snapshot.evmCursor.config ∧
            after.inboxContractAddress = w.runtime.inboxContractAddress ∧
            after.evmAddress = w.runtime.evmAddress ∧
            (PollAct.finish job rpc ingest).apply w =
              { w with
                runtime := after
                pending := w.pending.eraseIdx job
                positionChain := pending.snapshot.evmCursor.chainId } := by
  unfold PollAct.apply
  dsimp only
  cases hpending : w.pending[job]? with
  | none => exact .inl ⟨rfl, rfl⟩
  | some pending =>
    refine .inr ⟨pending, rfl, ?_⟩
    obtain ⟨hcontract, htopic⟩ := h.copies pending (List.mem_of_getElem? hpending)
    cases hfinish : finishPollInbox w.runtime pending rpc ingest with
    | error error => exact .inl ⟨rfl, by dsimp only; rw [hfinish]⟩
    | ok after =>
      obtain ⟨hconfig, hinbox, hagent⟩ := finishPollInbox_config hcontract htopic hfinish
      exact .inr ⟨after, rfl, hconfig, hinbox, hagent, by dsimp only; rw [hfinish]⟩

/-- Of all that happens only the end of a job can leave the cursor otherwise configured, and exactly
if its copy polls otherwise than the stored cursor. -/
theorem configured_apply_iff (h : w.Kept) (act : PollAct) :
    (act.apply w).Configured ↔ act.PutsBackCurrent w := by
  cases act with
  | setEvmChainId chainId => exact iff_of_true (kept_setEvmChainId h chainId).configured trivial
  | setInboxContractAddress address =>
    exact iff_of_true (kept_setInboxContractAddress h address).configured trivial
  | setEvmAddress address => exact iff_of_true (kept_setEvmAddress h address).configured trivial
  | setEvmConfirmationDepth confirmationDepth =>
    exact iff_of_true (kept_setEvmConfirmationDepth h confirmationDepth).configured trivial
  | start nowNs => exact iff_of_true (kept_start h nowNs).configured trivial
  | finish job rpc ingest =>
    rcases @finish_cases w rpc ingest h job with ⟨happly, hnone⟩ | ⟨pending, hpending, hcases⟩
    · rw [happly]
      refine iff_of_true h.configured fun pending hpending => ?_
      rw [hnone] at hpending
      cases hpending
    · rcases hcases with ⟨hfails, happly⟩ | ⟨after, hfinish, hconfig, -, -, happly⟩
      · rw [happly]
        refine iff_of_true h.configured fun other hother hok => ?_
        obtain rfl := Option.mem_unique hpending hother
        rw [hfails] at hok
        cases hok
      · rw [happly]
        constructor
        · rintro ⟨hsame, -⟩ other hother -
          obtain rfl := Option.mem_unique hpending hother
          rw [← hconfig, hsame, h.configured.1]
        · intro hcurrent
          have hsame := hcurrent pending hpending (by rw [hfinish]; rfl)
          refine ⟨by rw [hconfig, hsame, h.configured.1], ?_⟩
          rw [h.configured.1] at hsame
          exact congrArg EvmPollConfig.chainId hsame

/-- As long as the cursor stays configured, the rest is kept. -/
theorem PollWorld.Kept.apply (h : w.Kept) (act : PollAct)
    (hconfigured : (act.apply w).Configured) : (act.apply w).Kept := by
  cases act with
  | setEvmChainId chainId => exact kept_setEvmChainId h chainId
  | setInboxContractAddress address => exact kept_setInboxContractAddress h address
  | setEvmAddress address => exact kept_setEvmAddress h address
  | setEvmConfirmationDepth confirmationDepth =>
    exact kept_setEvmConfirmationDepth h confirmationDepth
  | start nowNs => exact kept_start h nowNs
  | finish job rpc ingest =>
    have hcopies : ∀ other ∈ w.pending.eraseIdx job,
        other.snapshot.evmCursor.contractAddress ≠ none ∧
          other.snapshot.evmCursor.automatonAddressTopic ≠ none :=
      fun other hother => h.copies other (List.mem_of_mem_eraseIdx hother)
    rcases @finish_cases w rpc ingest h job with ⟨happly, -⟩ | ⟨pending, -, hcases⟩
    · rw [happly]
      exact h
    · rcases hcases with ⟨-, happly⟩ | ⟨after, -, -, hinbox, hagent, happly⟩
      · rw [happly]
        exact ⟨h.configured, h.contract, h.topic, hcopies⟩
      · rw [happly] at hconfigured ⊢
        exact ⟨hconfigured, h.contract.trans hinbox.symm, by rw [hagent]; exact h.topic, hcopies⟩

/-- In every order of setters and of the two halves of jobs the cursor polls, in every state, as the
setters have said last, from a position on the chain that they have said, if and only if each job
that puts its copy of the cursor back finds the stored one configured as the copy. -/
theorem configured_along_iff (w : PollWorld) (h : w.Settled) (acts : List PollAct) :
    Along PollAct.apply (fun w act => (act.apply w).Configured) acts w ↔
      Along PollAct.apply (fun w act => act.PutsBackCurrent w) acts w :=
  along_iff (fun _ act hkept => configured_apply_iff hkept act)
    (fun _ act hkept hconfigured => hkept.apply act hconfigured) h.kept

/-- A runtime that polls chain 8453 from block 50 on. -/
def pollingWorld : PollWorld where
  runtime := {
    evmRpcUrl := "https://rpc.example"
    inboxContractAddress := some "0x1111111111111111111111111111111111111111"
    evmAddress := some "0x2222222222222222222222222222222222222222"
    evmBootstrapLookbackBlocks := 1000
    evmCursor := {
      chainId := 8453
      contractAddress := some "0x1111111111111111111111111111111111111111"
      automatonAddressTopic :=
        some "0x0000000000000000000000002222222222222222222222222222222222222222"
      nextBlock := 50
      nextLogIndex := 0
      confirmationDepth := 3
      lastPollAtNs := 0
      consecutiveEmptyPolls := 0 } }
  pending := []
  lastSet := {
    chainId := 8453
    contractAddress := some "0x1111111111111111111111111111111111111111"
    automatonAddressTopic :=
      some "0x0000000000000000000000002222222222222222222222222222222222222222"
    confirmationDepth := 3 }
  positionChain := 8453

theorem pollingWorld_settled : pollingWorld.Settled where
  configured := ⟨rfl, rfl⟩
  contract := rfl
  topic := by decide +kernel
  idle := rfl

/-- A node with 100 blocks and no logs. -/
def quietNode : EvmRpc where
  ethBlockNumber := .ok 100
  ethGetLogs _ _ _ _ := .ok []

/-- A chain that is set while a poll waits. -/
def overtakenPoll : List PollAct :=
  [.start 7, .setEvmChainId 31337, .finish 0 quietNode fun _ => .ok 0]

/-- The runs of that order. -/
theorem configured_along_iff_overtakenPoll :
    Along PollAct.apply (fun w act => (act.apply w).Configured) overtakenPoll pollingWorld ↔
      Along PollAct.apply (fun w act => act.PutsBackCurrent w) overtakenPoll pollingWorld :=
  configured_along_iff pollingWorld pollingWorld_settled overtakenPoll

/-- The poller of the runtime. -/
private def samplePoller : HttpEvmPoller where
  maxLogsPerPoll := 200
  bootstrapLookbackBlocks := 1000
  logFilterAddress := "0x1111111111111111111111111111111111111111"
  logFilterTopics := [inboxMessageQueuedTopic0,
    "0x0000000000000000000000002222222222222222222222222222222222222222"]

private theorem sampleAddress_normal : normalizeEvmAddress samplePoller.logFilterAddress =
    .ok samplePoller.logFilterAddress := by
  apply normalizeEvmAddress_eq_self
  · rw [samplePoller, String.toList_ofList]
    rfl
  · decide
  · exact lowercase_of_all (by decide +kernel)

private theorem sampleTopic_normal {field : String} :
    normalizeTopic "0x0000000000000000000000002222222222222222222222222222222222222222" field =
      .ok "0x0000000000000000000000002222222222222222222222222222222222222222" := by
  have hblob : normalizeHexBlob
      "0x0000000000000000000000002222222222222222222222222222222222222222" field =
      .ok "0x0000000000000000000000002222222222222222222222222222222222222222" := by
    apply normalizeHexBlob_eq_self
    · rw [String.toList_ofList]
      rfl
    · decide
    · exact lowercase_of_all (by decide +kernel)
  have hsize :
      "0x0000000000000000000000002222222222222222222222222222222222222222".utf8ByteSize = 66 := by
    decide +kernel
  rw [normalizeTopic, hblob]
  simp only [bind, Except.bind, hsize, ne_eq, not_true_eq_false, if_false]
  rfl

private theorem startPollInbox_sample : startPollInbox pollingWorld.runtime 7 =
    .ok (some ⟨7, pollingWorld.runtime, samplePoller⟩) := by
  have hurl : Text.trim pollingWorld.runtime.evmRpcUrl ≠ "" := by decide +kernel
  have hpoller : HttpEvmPoller.fromSnapshot pollingWorld.runtime = .ok samplePoller := by
    rw [HttpEvmPoller.fromSnapshot, if_neg hurl]
    simp only [bind_eq_ok]
    exact ⟨_, rfl, _, sampleAddress_normal, bind_eq_ok.mpr ⟨_, sampleTopic_normal, rfl⟩⟩
  rw [startPollInbox, hpoller, if_neg]
  · rfl
  · rintro (h | h | h | h)
    · exact hurl h
    · cases h
    · cases h
    · exact absurd h (by decide)

private theorem poll_quietNode : samplePoller.poll quietNode pollingWorld.runtime.evmCursor =
    .ok ⟨{ pollingWorld.runtime.evmCursor with nextBlock := 98 }, []⟩ := by
  have hevents : filterRouteMatchedLogs ([] ++ []) pollingWorld.runtime.evmCursor
      samplePoller.logFilterAddress
      "0x0000000000000000000000002222222222222222222222222222222222222222"
      samplePoller.maxLogsPerPoll = .ok [] := by
    simp only [filterRouteMatchedLogs, bind_eq_ok]
    exact ⟨_, sampleAddress_normal, _, sampleTopic_normal, rfl⟩
  simp only [HttpEvmPoller.poll, bind_eq_ok]
  refine ⟨100, rfl, ?_⟩
  rw [if_neg (by decide)]
  simp only [bind_eq_ok]
  exact ⟨_, rfl, [], rfl, [], rfl, _, hevents, rfl⟩

/-- A chain that is set while a poll waits is gone when the poll is done, and with it the position
at its beginning. -/
theorem overtakenPoll_undoes_chain :
    pollingWorld.Settled ∧
      (run PollAct.apply overtakenPoll pollingWorld).lastSet.chainId = 31337 ∧
      (run PollAct.apply overtakenPoll pollingWorld).runtime.evmCursor =
        { pollingWorld.runtime.evmCursor with
          nextBlock := 98
          lastPollAtNs := 7
          consecutiveEmptyPolls := 1 } := by
  have hstart : (PollAct.start 7).apply pollingWorld =
      { pollingWorld with pending := [⟨7, pollingWorld.runtime, samplePoller⟩] } := by
    rw [PollAct.apply, startPollInbox_sample]
    rfl
  have hjob (runtime : EvmRuntime) :
      finishPollInbox runtime ⟨7, pollingWorld.runtime, samplePoller⟩ quietNode (fun _ => .ok 0) =
        .ok (runtime.setEvmCursor
          { pollingWorld.runtime.evmCursor with
            nextBlock := 98
            lastPollAtNs := 7
            consecutiveEmptyPolls := 1 }) :=
    bind_eq_ok.mpr ⟨_, poll_quietNode, rfl⟩
  refine ⟨pollingWorld_settled, ?_⟩
  rw [overtakenPoll, run_cons, run_cons, run_cons, run_nil, hstart, apply_finish_ok rfl (hjob _)]
  exact ⟨rfl, rfl⟩

end Runs

end Automaton.Agent
