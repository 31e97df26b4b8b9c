import Automaton.Evm.Inbox
import Automaton.Library.Fallible
import Automaton.Library.Transition

/-!
# Calls of the inbox contract in any nesting

Any account calls the contract, also from within the call that forwards ETH to it, and any running
call may fail and undo what has happened in it. The contract keeps its ETH, numbers the messages of
each automaton without gaps, and hands on what each event says, at the prices of the call's start.
Its USDC stay the same as long as nobody gives USDC to the contract itself.
-/

namespace Automaton.Evm.Inbox

open CallStack Fallible Transition

variable {inbox : Address}

/-- A call that has forwarded its ETH, with the message it will emit. -/
structure Forwarding where
  call : ℕ
  queued : QueuedMessage

/-- What can happen: a call of the contract, a call between other accounts, the end of the innermost
running call, or a movement between other accounts. -/
inductive Action (inbox : Address)
  | call (msg : Message inbox) (call : InboxCall)
  | enter
  | ret
  | revert
  | move (asset : Asset) (holder dst : Account inbox) (amount : ℕ)

/-- The caller goes on when a call has returned. -/
def resume : Option Forwarding → World → World
  | none, world => world
  | some forwarding, world => world.emitQueued forwarding.call forwarding.queued

/-- One action on the chain. A call that reverts changes nothing, and the call that waits for an
automaton reverts when the automaton does. -/
def step (action : Action inbox) (config : Config World (Option Forwarding)) :
    Config World (Option Forwarding) :=
  match action with
  | .call msg call =>
    match exec msg config.world call with
    | .error _ => config
    | .ok (.returned world) => { config with world }
    | .ok (.forwards world queued) =>
      config.call (some ⟨config.world.calls.length, queued⟩) world
  | .enter => config.call none config.world
  | .ret => config.ret resume
  | .revert => config.revert
  | .move asset holder dst amount =>
    match config.world.ledger.move ⟨asset, holder.address, dst.address, amount, none⟩ with
    | none => config
    | some ledger => { config with world := { config.world with ledger } }

/-- The amounts of an asset that a call has moved to an account. -/
def Ledger.received (ledger : Ledger) (id : ℕ) (asset : Asset) (account : Address) : ℕ :=
  ((ledger.movements.filter fun movement =>
    movement.inCall = some id ∧ movement.asset = asset ∧ movement.dst = account).map
      Movement.amount).sum

/-- The queued messages of an automaton, in the order of their events. -/
def World.queuedFor (world : World) (automaton : Address) : List QueuedMessage :=
  world.events.filterMap fun logged =>
    match logged.event with
    | .messageQueued queued => if queued.automaton = automaton then some queued else none
    | _ => none

/-- The USDC that patrons have given to the contract itself. -/
def World.gifts (inbox : Address) (world : World) : ℕ :=
  (world.events.map fun logged =>
    match logged.event with
    | .patronage automaton _ usdcAmount => if automaton = inbox then usdcAmount else 0
    | _ => 0).sum

/-- A message is paid for by its call: the automaton has received what the message says, and that is
no less than the minimum of the call's start. The USDC minimum is for `queueMessage` only. -/
structure Paid (world : World) (id : ℕ) (queued : QueuedMessage)
    (record : CallRecord) : Prop where
  recorded : world.calls[id]? = some record
  sender : queued.sender = record.sender
  value : queued.ethAmountWei = record.value
  ethMinimum : (minPricesFor (record.prices queued.automaton)).2.1 ≤ queued.ethAmountWei
  usdcMinimum : record.call = .queueMessageEth queued.automaton queued.message ∧
      queued.usdcAmount = 0 ∨
    record.call = .queueMessage queued.automaton queued.message queued.usdcAmount ∧
      (minPricesFor (record.prices queued.automaton)).1 ≤ queued.usdcAmount
  ethReceived : world.ledger.received id .eth queued.automaton = queued.ethAmountWei
  usdcReceived : world.ledger.received id .usdc queued.automaton = queued.usdcAmount

/-- What holds of the world when calls are running. -/
structure WorldOk (inbox : Address) (balances : Asset → ℕ) (labels : List (Option Forwarding))
    (world : World) : Prop where
  locked : world.locked = !labels.reduceOption.isEmpty
  single : labels.reduceOption.length ≤ 1
  eth : world.ledger.balances .eth inbox = balances .eth
  usdc : world.ledger.balances .usdc inbox = balances .usdc + world.gifts inbox
  prices : (world.minPricesByAutomaton inbox).isCustom = false
  inCalls : ∀ movement ∈ world.ledger.movements, ∀ id, movement.inCall = some id →
    id < world.calls.length
  numbered : ∀ automaton, (world.queuedFor automaton).map QueuedMessage.nonce =
    (List.range' 1 (world.queuedFor automaton).length).map (· % 2 ^ 64)
  nonces : ∀ automaton, world.nonces automaton = ((world.queuedFor automaton).length +
    labels.reduceOption.countP fun forwarding => forwarding.queued.automaton = automaton) % 2 ^ 64
  paid : ∀ id queued, ⟨id, .messageQueued queued⟩ ∈ world.events →
    ∃ record, Paid world id queued record
  forwarding : ∀ forwarding ∈ labels.reduceOption,
    forwarding.queued.nonce = world.nonces forwarding.queued.automaton ∧
      ∃ record, Paid world forwarding.call forwarding.queued record

section Ledger

variable {ledger ledger' : Ledger} {movement : Movement} {asset : Asset} {account : Address}
  {id : ℕ}

/-- A movement is recorded. -/
theorem movements_of_move (h : ledger.move movement = some ledger') :
    ledger'.movements = ledger.movements ++ [movement] := by
  simp only [Ledger.move, Option.ite_none_right_eq_some, Option.some.injEq] at h
  obtain ⟨-, rfl⟩ := h
  rfl

/-- What a movement adds to the amounts that a call has moved to an account. -/
theorem received_of_move (h : ledger.move movement = some ledger') :
    ledger'.received id asset account = ledger.received id asset account +
      if movement.inCall = some id ∧ movement.asset = asset ∧ movement.dst = account then
        movement.amount else 0 := by
  rw [Ledger.received, movements_of_move h, List.filter_append, List.map_append, List.sum_append,
    ← Ledger.received]
  congr 1
  split_ifs with hmatch
  · simp [hmatch]
  · simp [hmatch]

/-- A movement leaves the other balances as they are. -/
theorem balances_of_move_of_ne (h : ledger.move movement = some ledger')
    (hne : asset ≠ movement.asset ∨ account ≠ movement.src ∧ account ≠ movement.dst) :
    ledger'.balances asset account = ledger.balances asset account := by
  simp only [Ledger.move, Option.ite_none_right_eq_some, Option.some.injEq] at h
  obtain ⟨-, rfl⟩ := h
  dsimp only
  by_cases hasset : asset = movement.asset
  · subst hasset
    obtain ⟨hsrc, hdst⟩ := hne.resolve_left (not_not.mpr rfl)
    rw [Function.update_self, Function.update_of_ne hdst, Function.update_of_ne hsrc]
  · rw [Function.update_of_ne hasset]

/-- A movement adds to the balance of its destination. -/
theorem balances_of_move_dst (h : ledger.move movement = some ledger')
    (hne : movement.dst ≠ movement.src) :
    ledger'.balances movement.asset movement.dst =
      ledger.balances movement.asset movement.dst + movement.amount := by
  simp only [Ledger.move, Option.ite_none_right_eq_some, Option.some.injEq] at h
  obtain ⟨-, rfl⟩ := h
  simp only [Function.update_self, Function.update_of_ne hne]

/-- A movement takes from the balance of its source. -/
theorem balances_of_move_src (h : ledger.move movement = some ledger')
    (hne : movement.src ≠ movement.dst) :
    ledger'.balances movement.asset movement.src + movement.amount =
      ledger.balances movement.asset movement.src := by
  simp only [Ledger.move, Option.ite_none_right_eq_some, Option.some.injEq] at h
  obtain ⟨hle, rfl⟩ := h
  simp only [Function.update_self, Function.update_of_ne hne]
  omega

end Ledger

section Calls

variable {msg : Message inbox} {world world' : World} {outcome : Outcome} {automaton : Address}
  {message : List UInt8} {usdcAmount id : ℕ} {queued : QueuedMessage}

/-- What `transferFrom` moves. -/
theorem transferFrom_eq_ok (h : transferFrom msg id world automaton usdcAmount = .ok world') :
    ∃ ledger, world.ledger.move ⟨.usdc, msg.sender.address, automaton, usdcAmount, some id⟩ =
      some ledger ∧ world' = { world with ledger } := by
  unfold transferFrom at h
  split at h
  · cases h
  · cases h
  · split at h
    · cases h
    · rename_i ledger hledger
      exact ⟨ledger, hledger, (Except.ok.inj h).symm⟩

/-- What `forwardEth` moves. -/
theorem forwardEth_eq_ok (h : forwardEth msg id world queued = .ok outcome) :
    msg.value = 0 ∧ outcome = .returned (world.emitQueued id queued) ∨
      queued.automaton ≠ inbox ∧ ∃ ledger,
        world.ledger.move ⟨.eth, inbox, queued.automaton, msg.value, some id⟩ = some ledger ∧
          outcome = .forwards { world with ledger } queued := by
  unfold forwardEth at h
  split at h
  · split at h
    · cases h
    · rename_i hother
      split at h
      · cases h
      · rename_i ledger hledger
        exact .inr ⟨hother, ledger, hledger, (Except.ok.inj h).symm⟩
  · rename_i hzero
    exact .inl ⟨by omega, (Except.ok.inj h).symm⟩

/-- A message has been accepted and its USDC moved: the lock is taken and the number counted. -/
structure Accepted (msg : Message inbox) (id : ℕ) (world : World) (queued : QueuedMessage)
    (ledger : Ledger) : Prop where
  unlocked : world.locked = false
  nonce : queued.nonce = (world.nonces queued.automaton + 1) % 2 ^ 64
  sender : queued.sender = msg.sender.address
  value : queued.ethAmountWei = msg.value
  ethMinimum : (minPricesFor (world.minPricesByAutomaton queued.automaton)).2.1 ≤ msg.value
  ledger : queued.usdcAmount = 0 ∧ ledger = world.ledger ∨
    world.ledger.move ⟨.usdc, msg.sender.address, queued.automaton, queued.usdcAmount, some id⟩ =
      some ledger

/-- The world of an accepted message, from which the ETH is forwarded. -/
def World.accept (world : World) (queued : QueuedMessage) (ledger : Ledger) : World :=
  { world with
    locked := true
    nonces := Function.update world.nonces queued.automaton queued.nonce
    ledger }

/-- The minimums that the functions read are those of `minPricesFor`. -/
theorem minimums_eq (prices : MinPrices) :
    (minPricesFor prices).1 = (if prices.isCustom then prices.usdcMin else defaultMinUsdc) ∧
      (minPricesFor prices).2.1 =
        if prices.isCustom then prices.ethMinWei else defaultMinEthWei := by
  unfold minPricesFor
  split_ifs <;> simp_all

/-- `queueMessage` accepts a message, at the minimum of both assets. -/
theorem queueMessage_eq_ok
    (h : queueMessage msg id world automaton message usdcAmount = .ok outcome) :
    ∃ queued ledger, Accepted msg id world queued ledger ∧ queued.automaton = automaton ∧
      queued.message = message ∧ queued.usdcAmount = usdcAmount ∧
      (minPricesFor (world.minPricesByAutomaton automaton)).1 ≤ usdcAmount ∧
      forwardEth msg id (world.accept queued ledger) queued = .ok outcome := by
  simp only [queueMessage, throw_bind, ite_error_eq_ok, not_lt] at h
  obtain ⟨hunlocked, -, -, husdc, heth, hrest⟩ := h
  have hminimum := minimums_eq (world.minPricesByAutomaton automaton)
  rw [← hminimum.1] at husdc
  rw [← hminimum.2] at heth
  split_ifs at hrest with hpositive
  · obtain ⟨world', hmoved, hforward⟩ := bind_eq_ok.mp hrest
    obtain ⟨ledger, hledger, rfl⟩ := transferFrom_eq_ok hmoved
    exact ⟨_, ledger, ⟨by simpa using hunlocked, rfl, rfl, rfl, heth, .inr hledger⟩, rfl, rfl, rfl,
      husdc, hforward⟩
  · obtain ⟨world', hworld, hforward⟩ := bind_eq_ok.mp hrest
    obtain rfl := Except.ok.inj hworld
    have hzero : usdcAmount = 0 := by omega
    exact ⟨_, world.ledger, ⟨by simpa using hunlocked, rfl, rfl, rfl, heth, .inl ⟨hzero, rfl⟩⟩,
      rfl, rfl, rfl, husdc, hforward⟩

/-- `queueMessageEth` accepts a message without USDC, at the minimum of ETH. -/
theorem queueMessageEth_eq_ok (h : queueMessageEth msg id world automaton message = .ok outcome) :
    ∃ queued, Accepted msg id world queued world.ledger ∧ queued.automaton = automaton ∧
      queued.message = message ∧ queued.usdcAmount = 0 ∧
      forwardEth msg id (world.accept queued world.ledger) queued = .ok outcome := by
  simp only [queueMessageEth, throw_bind, ite_error_eq_ok, not_lt] at h
  obtain ⟨hunlocked, -, -, heth, hforward⟩ := h
  rw [← (minimums_eq (world.minPricesByAutomaton automaton)).2] at heth
  exact ⟨_, ⟨by simpa using hunlocked, rfl, rfl, rfl, heth, .inl ⟨rfl, rfl⟩⟩, rfl, rfl, rfl,
    hforward⟩

end Calls

section Invariant

variable {balances : Asset → ℕ} {labels : List (Option Forwarding)} {world world' : World}
  {msg : Message inbox} {id : ℕ} {queued : QueuedMessage}

/-- A ledger after movements of one call. -/
structure InCall (id : ℕ) (ledger ledger' : Ledger) : Prop where
  received : ∀ other ≠ id, ∀ asset account,
    ledger'.received other asset account = ledger.received other asset account
  movements : ∀ movement ∈ ledger'.movements,
    movement ∈ ledger.movements ∨ movement.inCall = some id

/-- Nothing has moved. -/
theorem InCall.refl (ledger : Ledger) : InCall id ledger ledger :=
  ⟨fun _ _ _ _ => rfl, fun _ hmem => .inl hmem⟩

/-- A call goes on moving. -/
theorem InCall.move {ledger ledger' ledger'' : Ledger} {movement : Movement}
    (h : InCall id ledger ledger') (hmove : ledger'.move movement = some ledger'')
    (hid : movement.inCall = some id) : InCall id ledger ledger'' where
  received := by
    intro other hother asset account
    have hskip : ¬ (movement.inCall = some other ∧ movement.asset = asset ∧
        movement.dst = account) := by
      rintro ⟨hsame, -⟩
      exact hother (Option.some.inj (hsame.symm.trans hid))
    rw [received_of_move hmove, if_neg hskip, Nat.add_zero, h.received other hother]
  movements := by
    intro other hmem
    rw [movements_of_move hmove] at hmem
    rcases List.mem_append.mp hmem with hmem | hmem
    · exact h.movements other hmem
    · rw [List.mem_singleton.mp hmem]
      exact .inr hid

/-- The calls so far, and what they have moved, are as before. -/
def World.Keeps (world world' : World) : Prop :=
  ∀ id < world.calls.length, world'.calls[id]? = world.calls[id]? ∧
    ∀ asset account,
      world'.ledger.received id asset account = world.ledger.received id asset account

/-- A message stays paid for. -/
theorem Paid.mono {record : CallRecord} (h : Paid world id queued record)
    (hkeeps : world.Keeps world') : Paid world' id queued record := by
  obtain ⟨hrecord, hreceived⟩ := hkeeps id (List.getElem?_eq_some_iff.mp h.recorded).1
  exact { h with
    recorded := hrecord.trans h.recorded
    ethReceived := (hreceived _ _).trans h.ethReceived
    usdcReceived := (hreceived _ _).trans h.usdcReceived }

/-- No call that has not begun has moved anything. -/
theorem WorldOk.received_eq_zero (h : WorldOk inbox balances labels world)
    (hid : world.calls.length ≤ id) (asset : Asset) (account : Address) :
    world.ledger.received id asset account = 0 := by
  have hnone : world.ledger.movements.filter (fun movement => movement.inCall = some id ∧
      movement.asset = asset ∧ movement.dst = account) = [] := by
    rw [List.filter_eq_nil_iff]
    intro movement hmem hmatch
    have hlt := h.inCalls movement hmem id (of_decide_eq_true hmatch).1
    omega
  rw [Ledger.received, hnone]
  rfl

/-- A call that has begun keeps the others. -/
theorem keeps_of_inCall {record : CallRecord}
    (hcalls : world'.calls = world.calls ++ [record])
    (hledger : InCall world.calls.length world.ledger world'.ledger) : world.Keeps world' := by
  intro id hid
  refine ⟨?_, hledger.received id hid.ne⟩
  rw [hcalls, List.getElem?_append_left hid]

/-- The movements of a call that has begun are marked with calls that have begun. -/
theorem WorldOk.inCalls_of_inCall {record : CallRecord} (h : WorldOk inbox balances labels world)
    (hcalls : world'.calls = world.calls ++ [record])
    (hledger : InCall world.calls.length world.ledger world'.ledger) :
    ∀ movement ∈ world'.ledger.movements, ∀ id, movement.inCall = some id →
      id < world'.calls.length := by
  intro movement hmem id hid
  rw [hcalls, List.length_append, List.length_singleton]
  rcases hledger.movements movement hmem with hold | hnew
  · have hlt := h.inCalls movement hold id hid
    omega
  · have hsame : id = world.calls.length := Option.some.inj (hid.symm.trans hnew)
    omega

/-- The messages after one more event of a message. -/
theorem queuedFor_emitQueued (automaton : Address) :
    (world.emitQueued id queued).queuedFor automaton =
      world.queuedFor automaton ++ if queued.automaton = automaton then [queued] else [] := by
  rw [World.queuedFor, World.emitQueued, List.filterMap_append, ← World.queuedFor]
  congr 1
  split_ifs with hsame <;> simp [hsame]

/-- The event of a message is no gift. -/
theorem gifts_emitQueued : (world.emitQueued id queued).gifts inbox = world.gifts inbox := by
  simp [World.gifts, World.emitQueued]

/-- A call that has forwarded its ETH may emit its message. -/
theorem WorldOk.emitQueued
    (h : WorldOk inbox balances (some ⟨id, queued⟩ :: labels) world) :
    WorldOk inbox balances labels (world.emitQueued id queued) := by
  have hnone : labels.reduceOption = [] := by
    have hsingle := h.single
    rw [List.reduceOption_cons_of_some, List.length_cons] at hsingle
    exact List.length_eq_zero_iff.mp (by omega)
  obtain ⟨hnonce, record, hpaid⟩ := h.forwarding ⟨id, queued⟩ (by simp)
  have hkeeps : world.Keeps (world.emitQueued id queued) := fun _ _ => ⟨rfl, fun _ _ => rfl⟩
  have hcount (automaton : Address) := h.nonces automaton
  simp only [List.reduceOption_cons_of_some, hnone, List.countP_cons, List.countP_nil,
    decide_eq_true_eq] at hcount
  exact {
    locked := by simp [World.emitQueued, hnone]
    single := by simp [hnone]
    eth := h.eth
    usdc := by rw [gifts_emitQueued]; exact h.usdc
    prices := h.prices
    inCalls := h.inCalls
    numbered := by
      intro automaton
      rw [queuedFor_emitQueued]
      split_ifs with hsame
      · have hnumber := hnonce.trans (hcount queued.automaton)
        rw [if_pos rfl, hsame] at hnumber
        rw [List.map_append, List.length_append, h.numbered, List.length_singleton,
          List.range'_concat, List.map_append, List.map_singleton, List.map_singleton, hnumber]
        congr 3
        omega
      · rw [List.append_nil]
        exact h.numbered automaton
    nonces := by
      intro automaton
      rw [queuedFor_emitQueued, hnone, List.countP_nil]
      change world.nonces automaton = _
      rw [hcount]
      split_ifs <;> simp
    paid := by
      intro other message hmem
      rcases List.mem_append.mp hmem with hold | hnew
      · obtain ⟨record, hrecord⟩ := h.paid other message hold
        exact ⟨record, hrecord.mono hkeeps⟩
      · have hsame := List.mem_singleton.mp hnew
        simp only [LoggedEvent.mk.injEq, InboxEvent.messageQueued.injEq] at hsame
        obtain ⟨rfl, rfl⟩ := hsame
        exact ⟨record, hpaid.mono hkeeps⟩
    forwarding := by simp [hnone] }

/-- The ledger of a message that has been paid for: ETH to the contract, USDC to the automaton and ETH
to the automaton. -/
theorem ledger_of_payment {ledger₀ ledger₁ ledger₂ ledger₃ : Ledger}
    (hother : queued.automaton ≠ inbox)
    (hfresh : ∀ asset account, ledger₀.received id asset account = 0)
    (hvalue : ledger₀.move ⟨.eth, msg.sender.address, inbox, msg.value, some id⟩ = some ledger₁)
    (husdc : queued.usdcAmount = 0 ∧ ledger₂ = ledger₁ ∨
      ledger₁.move ⟨.usdc, msg.sender.address, queued.automaton, queued.usdcAmount, some id⟩ =
        some ledger₂)
    (heth : msg.value = 0 ∧ ledger₃ = ledger₂ ∨
      ledger₂.move ⟨.eth, inbox, queued.automaton, msg.value, some id⟩ = some ledger₃) :
    InCall id ledger₀ ledger₃ ∧
      (∀ asset, ledger₃.balances asset inbox = ledger₀.balances asset inbox) ∧
      ledger₃.received id .eth queued.automaton = msg.value ∧
      ledger₃.received id .usdc queued.automaton = queued.usdcAmount := by
  have hsender := msg.sender.ne_inbox
  have hcall₁ := (InCall.refl ledger₀).move hvalue rfl
  have heth₁ : ledger₁.balances .eth inbox = ledger₀.balances .eth inbox + msg.value :=
    balances_of_move_dst hvalue hsender.symm
  have husdc₁ : ledger₁.balances .usdc inbox = ledger₀.balances .usdc inbox :=
    balances_of_move_of_ne hvalue (.inl (by simp))
  have hreceived₁ (asset : Asset) : ledger₁.received id asset queued.automaton = 0 := by
    rw [received_of_move hvalue, hfresh, if_neg fun h => hother h.2.2.symm]
  have hcall₂ : InCall id ledger₀ ledger₂ := by
    rcases husdc with ⟨-, rfl⟩ | hmove
    · exact hcall₁
    · exact hcall₁.move hmove rfl
  have hbalance₂ (asset : Asset) : ledger₂.balances asset inbox = ledger₁.balances asset inbox := by
    rcases husdc with ⟨-, rfl⟩ | hmove
    · rfl
    · exact balances_of_move_of_ne hmove (.inr ⟨hsender.symm, hother.symm⟩)
  have hreceived₂ : ledger₂.received id .usdc queued.automaton = queued.usdcAmount ∧
      ledger₂.received id .eth queued.automaton = 0 := by
    rcases husdc with ⟨hzero, rfl⟩ | hmove
    · exact ⟨(hreceived₁ _).trans hzero.symm, hreceived₁ _⟩
    · rw [received_of_move hmove, received_of_move hmove, hreceived₁, hreceived₁]
      simp
  rcases heth with ⟨hzero, rfl⟩ | hmove
  · refine ⟨hcall₂, ?_, hreceived₂.2.trans hzero.symm, hreceived₂.1⟩
    intro asset
    rw [hbalance₂]
    cases asset with
    | eth => omega
    | usdc => exact husdc₁
  · refine ⟨hcall₂.move hmove rfl, ?_, ?_, ?_⟩
    · intro asset
      cases asset with
      | eth =>
        have hout : ledger₃.balances .eth inbox + msg.value = ledger₂.balances .eth inbox :=
          balances_of_move_src hmove hother.symm
        rw [hbalance₂] at hout
        omega
      | usdc =>
        rw [balances_of_move_of_ne hmove (.inl (by simp)), hbalance₂, husdc₁]
    · rw [received_of_move hmove, hreceived₂.2]
      simp
    · rw [received_of_move hmove, hreceived₂.1]
      simp

/-- What holds when a call has been made. -/
def OutcomeOk (inbox : Address) (balances : Asset → ℕ) (labels : List (Option Forwarding))
    (id : ℕ) : Outcome → Prop
  | .returned world => WorldOk inbox balances labels world
  | .forwards world queued => WorldOk inbox balances (some ⟨id, queued⟩ :: labels) world

/-- A call that queues no message keeps what holds. -/
theorem WorldOk.call {record : CallRecord} (h : WorldOk inbox balances labels world)
    (hcalls : world'.calls = world.calls ++ [record])
    (hledger : InCall world.calls.length world.ledger world'.ledger)
    (hlocked : world'.locked = world.locked) (hnonces : world'.nonces = world.nonces)
    (hprices : (world'.minPricesByAutomaton inbox).isCustom = false)
    (heth : world'.ledger.balances .eth inbox = world.ledger.balances .eth inbox)
    (husdc : world'.ledger.balances .usdc inbox = balances .usdc + world'.gifts inbox)
    (hqueued : ∀ automaton, world'.queuedFor automaton = world.queuedFor automaton)
    (hevents : ∀ id queued, ⟨id, .messageQueued queued⟩ ∈ world'.events →
      ⟨id, .messageQueued queued⟩ ∈ world.events) :
    WorldOk inbox balances labels world' where
  locked := hlocked.trans h.locked
  single := h.single
  eth := heth.trans h.eth
  usdc := husdc
  prices := hprices
  inCalls := h.inCalls_of_inCall hcalls hledger
  numbered := by
    intro automaton
    rw [hqueued]
    exact h.numbered automaton
  nonces := by
    intro automaton
    rw [hqueued, hnonces]
    exact h.nonces automaton
  paid := by
    intro id queued hmem
    obtain ⟨record, hpaid⟩ := h.paid id queued (hevents id queued hmem)
    exact ⟨record, hpaid.mono (keeps_of_inCall hcalls hledger)⟩
  forwarding := by
    intro forwarding hmem
    obtain ⟨hnonce, record, hpaid⟩ := h.forwarding forwarding hmem
    rw [hnonces]
    exact ⟨hnonce, record, hpaid.mono (keeps_of_inCall hcalls hledger)⟩

/-- The world of a call that has begun. -/
def World.begin (world : World) (call : InboxCall) (msg : Message inbox) (ledger : Ledger) : World :=
  { world with
    ledger
    calls := world.calls ++ [⟨call, msg.sender.address, msg.value, world.minPricesByAutomaton⟩] }

/-- An accepted message keeps what holds, whether it forwards ETH or not. -/
theorem WorldOk.queue {ledger ledger' : Ledger} {call : InboxCall} {outcome : Outcome}
    (h : WorldOk inbox balances labels world)
    (hvalue : world.ledger.move
      ⟨.eth, msg.sender.address, inbox, msg.value, some world.calls.length⟩ = some ledger)
    (haccepted : Accepted msg world.calls.length (world.begin call msg ledger) queued ledger')
    (husdc : call = .queueMessageEth queued.automaton queued.message ∧ queued.usdcAmount = 0 ∨
      call = .queueMessage queued.automaton queued.message queued.usdcAmount ∧
        (minPricesFor (world.minPricesByAutomaton queued.automaton)).1 ≤ queued.usdcAmount)
    (hforward : forwardEth msg world.calls.length
      ((world.begin call msg ledger).accept queued ledger') queued = .ok outcome) :
    OutcomeOk inbox balances labels world.calls.length outcome := by
  have hnone : labels.reduceOption = [] := by
    have hlocked := h.locked.symm.trans haccepted.unlocked
    simpa using hlocked
  have hother : queued.automaton ≠ inbox := by
    rcases forwardEth_eq_ok hforward with ⟨hzero, -⟩ | ⟨hother, -⟩
    · intro hsame
      have hmin := haccepted.ethMinimum
      have hprices : ((world.begin call msg ledger).minPricesByAutomaton inbox).isCustom = false :=
        h.prices
      rw [hsame, minPricesFor, if_pos (by simp [hprices]), hzero] at hmin
      exact absurd hmin (by decide)
    · exact hother
  -- The world from which the message is emitted, now or when the automaton returns.
  have hok (last : Ledger) (hlast : msg.value = 0 ∧ last = ledger' ∨
      ledger'.move ⟨.eth, inbox, queued.automaton, msg.value, some world.calls.length⟩ =
        some last) :
      WorldOk inbox balances (some ⟨world.calls.length, queued⟩ :: labels)
        { (world.begin call msg ledger).accept queued ledger' with ledger := last } := by
    obtain ⟨hinCall, hbalances, hethReceived, husdcReceived⟩ := ledger_of_payment hother
      (h.received_eq_zero le_rfl) hvalue haccepted.ledger hlast
    have hkeeps : world.Keeps
        { (world.begin call msg ledger).accept queued ledger' with ledger := last } :=
      keeps_of_inCall rfl hinCall
    have hcount (automaton : Address) := h.nonces automaton
    simp only [hnone, List.countP_nil, Nat.add_zero] at hcount
    exact {
      locked := by simp [World.accept]
      single := by simp [hnone]
      eth := (hbalances .eth).trans h.eth
      usdc := (hbalances .usdc).trans h.usdc
      prices := h.prices
      inCalls := h.inCalls_of_inCall rfl hinCall
      numbered := h.numbered
      nonces := by
        intro automaton
        change Function.update world.nonces queued.automaton queued.nonce automaton =
          ((world.queuedFor automaton).length + _) % 2 ^ 64
        rw [List.reduceOption_cons_of_some, hnone, List.countP_cons, List.countP_nil]
        by_cases hsame : queued.automaton = automaton
        · subst hsame
          have hnonce : queued.nonce = (world.nonces queued.automaton + 1) % 2 ^ 64 :=
            haccepted.nonce
          rw [Function.update_self, hnonce, hcount]
          simp
        · rw [Function.update_of_ne (Ne.symm hsame), hcount]
          simp [hsame]
      paid := by
        intro id message hmem
        obtain ⟨record, hpaid⟩ := h.paid id message hmem
        exact ⟨record, hpaid.mono hkeeps⟩
      forwarding := by
        intro forwarding hmem
        rw [List.reduceOption_cons_of_some, hnone, List.mem_singleton] at hmem
        subst hmem
        have hnonce : queued.nonce =
            Function.update world.nonces queued.automaton queued.nonce queued.automaton := by
          rw [Function.update_self]
        refine ⟨hnonce, _, ⟨List.getElem?_concat_length, ?_, ?_, ?_, husdc,
          hethReceived.trans haccepted.value.symm, husdcReceived⟩⟩
        · exact haccepted.sender
        · exact haccepted.value
        · exact haccepted.ethMinimum.trans haccepted.value.ge }
  rcases forwardEth_eq_ok hforward with ⟨hzero, rfl⟩ | ⟨-, last, hlast, rfl⟩
  · exact (hok ledger' (.inl ⟨hzero, rfl⟩)).emitQueued
  · exact hok last (.inr hlast)

/-- A call keeps what holds. -/
theorem WorldOk.exec {call : InboxCall} {outcome : Outcome}
    (h : WorldOk inbox balances labels world) (hexec : exec msg world call = .ok outcome) :
    OutcomeOk inbox balances labels world.calls.length outcome := by
  simp only [Inbox.exec, throw_bind, ite_error_eq_ok] at hexec
  obtain ⟨hpayable, hexec⟩ := hexec
  split at hexec
  · cases hexec
  rename_i ledger hvalue
  have hsender := msg.sender.ne_inbox
  have hinCall := (@InCall.refl world.calls.length world.ledger).move hvalue rfl
  cases call with
  | setMinPrices usdcMin ethMinWei =>
    have hzero : msg.value = 0 := by simpa [InboxCall.payable] using hpayable
    simp only [setMinPrices, throw_bind, ite_error_eq_ok, pure_eq_ok] at hexec
    obtain ⟨-, rfl⟩ := hexec
    have heth : ledger.balances .eth inbox = world.ledger.balances .eth inbox + msg.value :=
      balances_of_move_dst hvalue hsender.symm
    have husdc : ledger.balances .usdc inbox = world.ledger.balances .usdc inbox :=
      balances_of_move_of_ne hvalue (.inl (by simp))
    refine h.call rfl hinCall rfl rfl ?_ ?_ ?_ ?_ ?_
    · dsimp only
      rw [Function.update_of_ne hsender.symm]
      exact h.prices
    · exact heth.trans (by rw [hzero, Nat.add_zero])
    · refine husdc.trans (h.usdc.trans ?_)
      simp [World.gifts]
    · intro automaton
      simp [World.queuedFor]
    · intro id queued hmem
      simpa using hmem
  | patronize automaton usdcAmount =>
    have hzero : msg.value = 0 := by simpa [InboxCall.payable] using hpayable
    simp only [patronize, throw_bind, ite_error_eq_ok, bind_eq_ok, pure_eq_ok] at hexec
    obtain ⟨hunlocked, -, -, moved, htransfer, rfl⟩ := hexec
    obtain ⟨ledger', hmove, rfl⟩ := transferFrom_eq_ok htransfer
    have heth : ledger.balances .eth inbox = world.ledger.balances .eth inbox + msg.value :=
      balances_of_move_dst hvalue hsender.symm
    have husdc : ledger.balances .usdc inbox = world.ledger.balances .usdc inbox :=
      balances_of_move_of_ne hvalue (.inl (by simp))
    refine h.call rfl (hinCall.move hmove rfl) ?_ rfl ?_ ?_ ?_ ?_ ?_
    · simpa using hunlocked
    · exact h.prices
    · exact (balances_of_move_of_ne hmove (.inl (by simp))).trans
        (heth.trans (by rw [hzero, Nat.add_zero]))
    · have hgifts : World.gifts inbox { world with
          events := world.events ++ [⟨world.calls.length,
            .patronage automaton msg.sender.address usdcAmount⟩] } =
          world.gifts inbox + if automaton = inbox then usdcAmount else 0 := by
        simp [World.gifts]
      refine Eq.trans ?_ (congrArg (balances .usdc + ·) hgifts.symm)
      dsimp only
      split_ifs with hself
      · have hin : ledger'.balances .usdc automaton = ledger.balances .usdc automaton + usdcAmount :=
          balances_of_move_dst hmove (by rw [hself]; exact hsender.symm)
        rw [hself] at hin
        rw [hin, husdc, h.usdc]
        omega
      · rw [balances_of_move_of_ne hmove (.inr ⟨hsender.symm, Ne.symm hself⟩), husdc, h.usdc]
        omega
    · intro automaton'
      simp [World.queuedFor]
    · intro id queued hmem
      simpa using hmem
  | queueMessage automaton message usdcAmount =>
    obtain ⟨queued, ledger', haccepted, rfl, rfl, rfl, hminimum, hforward⟩ :=
      queueMessage_eq_ok hexec
    exact h.queue hvalue haccepted (.inr ⟨rfl, hminimum⟩) hforward
  | queueMessageEth automaton message =>
    obtain ⟨queued, haccepted, rfl, rfl, hzero, hforward⟩ := queueMessageEth_eq_ok hexec
    exact h.queue hvalue haccepted (.inl ⟨rfl, hzero⟩) hforward

end Invariant

section Runs

variable {balances : Asset → ℕ} {config : Config World (Option Forwarding)}

/-- An action keeps what holds. -/
theorem sound_step (h : CallStack.Sound (WorldOk inbox balances) config) (action : Action inbox) :
    CallStack.Sound (WorldOk inbox balances) (step action config) := by
  cases action with
  | call msg call =>
    unfold step
    dsimp only
    split
    · exact h
    · rename_i world hexec
      have hok : OutcomeOk inbox balances _ _ (.returned world) := h.1.exec hexec
      exact h.act hok
    · rename_i world queued hexec
      have hok : OutcomeOk inbox balances _ _ (.forwards world queued) := h.1.exec hexec
      exact h.call hok
  | enter =>
    have hok : WorldOk inbox balances (none :: Config.labels config.frames) config.world :=
      { h.1 with }
    exact h.call hok
  | ret =>
    apply h.ret
    rintro (_ | forwarding) labels world hok
    · exact { hok with }
    · exact hok.emitQueued
  | revert => exact h.revert
  | move asset holder dst amount =>
    unfold step
    dsimp only
    split
    · exact h
    · rename_i ledger hmove
      have hbalance (asset' : Asset) :
          ledger.balances asset' inbox = config.world.ledger.balances asset' inbox :=
        balances_of_move_of_ne hmove (.inr ⟨holder.ne_inbox.symm, dst.ne_inbox.symm⟩)
      have hkeeps : config.world.Keeps { config.world with ledger } := by
        intro id _
        refine ⟨rfl, ?_⟩
        intro asset' account
        refine (received_of_move hmove).trans ?_
        rw [if_neg (by simp), Nat.add_zero]
      apply h.act
      exact { h.1 with
        eth := (hbalance .eth).trans h.1.eth
        usdc := (hbalance .usdc).trans h.1.usdc
        inCalls := by
          intro movement hmem id hid
          rw [movements_of_move hmove] at hmem
          rcases List.mem_append.mp hmem with hold | hnew
          · exact h.1.inCalls movement hold id hid
          · rw [List.mem_singleton.mp hnew] at hid
            cases hid
        paid := by
          intro id queued hmem
          obtain ⟨record, hpaid⟩ := h.1.paid id queued hmem
          exact ⟨record, hpaid.mono hkeeps⟩
        forwarding := by
          intro forwarding hmem
          obtain ⟨hnonce, record, hpaid⟩ := h.1.forwarding forwarding hmem
          exact ⟨hnonce, record, hpaid.mono hkeeps⟩ }

end Runs

/-- The contract after its constructor, with any balances of all accounts. -/
def deployed (balances : Asset → Address → ℕ) : Config World (Option Forwarding) where
  world :=
    { minPricesByAutomaton := fun _ => ⟨0, 0, false⟩
      nonces := fun _ => 0
      locked := false
      ledger := ⟨balances, []⟩
      events := []
      calls := [] }
  frames := []

/-- The contract keeps nothing, numbers the messages of each automaton from 1 on, and hands on what
the events say. -/
structure Promised (inbox : Address) (balances : Asset → Address → ℕ) (world : World) : Prop where
  eth : world.ledger.balances .eth inbox = balances .eth inbox
  usdc : (∀ id patron amount, ⟨id, .patronage inbox patron amount⟩ ∉ world.events) →
    world.ledger.balances .usdc inbox = balances .usdc inbox
  numbered : ∀ automaton, (world.queuedFor automaton).length < 2 ^ 64 →
    (world.queuedFor automaton).map QueuedMessage.nonce =
      List.range' 1 (world.queuedFor automaton).length
  paid : ∀ id queued, ⟨id, .messageQueued queued⟩ ∈ world.events →
    ∃ record, Paid world id queued record

/-- What holds of every world of a run. -/
theorem WorldOk.promised {balances : Asset → Address → ℕ} {labels : List (Option Forwarding)}
    {world : World} (h : WorldOk inbox (balances · inbox) labels world) :
    Promised inbox balances world where
  eth := h.eth
  usdc := by
    intro hnone
    have hgifts : world.gifts inbox = 0 := by
      rw [World.gifts, List.sum_eq_zero_iff]
      intro amount hmem
      obtain ⟨⟨id, event⟩, hevent, rfl⟩ := List.mem_map.mp hmem
      cases event with
      | minPricesUpdated => rfl
      | messageQueued => rfl
      | patronage automaton patron usdcAmount =>
        apply if_neg
        rintro rfl
        exact hnone id patron usdcAmount hevent
    rw [h.usdc, hgifts, Nat.add_zero]
  numbered := by
    intro automaton hlength
    rw [h.numbered, List.map_congr_left (g := id), List.map_id]
    intro nonce hmem
    rw [List.mem_range'_1] at hmem
    exact Nat.mod_eq_of_lt (by omega)
  paid := h.paid

/-- In every run of calls, nested in any way, the contract keeps its promises. -/
theorem run_promised (balances : Asset → Address → ℕ) (actions : List (Action inbox)) :
    Promised inbox balances (Transition.run step actions (deployed balances)).world := by
  have hstart : CallStack.Sound (WorldOk inbox (balances · inbox)) (deployed balances) := by
    apply sound_nil
    exact {
      locked := rfl
      single := by simp
      eth := rfl
      usdc := rfl
      prices := rfl
      inCalls := by simp
      numbered := by simp [World.queuedFor]
      nonces := by simp [World.queuedFor]
      paid := by simp
      forwarding := by simp }
  have hreach := (@Reachable.self _ _ (StepOf step) (deployed balances)).run actions
  have hsound : CallStack.Sound (WorldOk inbox (balances · inbox))
      (Transition.run step actions (deployed balances)) := by
    apply hreach.invariant
    · rintro config rfl
      exact hstart
    · rintro config action config' hsound rfl
      exact sound_step hsound action
  exact hsound.1.promised

/-- A gift to the contract stays there, and a message that is paid for in ETH alone brings no USDC,
whatever the minimum is. -/
theorem run_keeps_gift : ∃ (inbox : Address) (balances : Asset → Address → ℕ)
    (actions : List (Action inbox)) (id : ℕ) (queued : QueuedMessage) (record : CallRecord),
    let world := (Transition.run step actions (deployed balances)).world
    world.ledger.balances .usdc inbox ≠ balances .usdc inbox ∧
      ⟨id, .messageQueued queued⟩ ∈ world.events ∧ world.calls[id]? = some record ∧
      queued.usdcAmount < (minPricesFor (record.prices queued.automaton)).1 := by
  let patron : Account 1 := ⟨2, by decide⟩
  let automaton : Account 1 := ⟨3, by decide⟩
  let prices : MinPrices := ⟨1, 0, true⟩
  refine ⟨1, fun _ _ => 5, [.call ⟨patron, 0, .moves⟩ (.patronize 1 5),
    .call ⟨automaton, 0, .moves⟩ (.setMinPrices 1 0),
    .call ⟨patron, 0, .moves⟩ (.queueMessageEth 3 [])], 2, ⟨3, 1, 2, [], 0, 0⟩,
    ⟨.queueMessageEth 3 [], 2, 0, Function.update (fun _ => ⟨0, 0, false⟩) 3 prices⟩,
    by decide, ?_, rfl, by decide⟩
  exact List.mem_append_right _ (List.mem_singleton.mpr rfl)

end Automaton.Evm.Inbox
