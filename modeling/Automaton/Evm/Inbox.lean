import Automaton.Evm.LocalEscrow
import Automaton.Library.CallStack

/-!
# The inbox contract

`Inbox` takes paid messages for an automaton and forwards the payment in the same call. The token
moves exactly the stated amount or refuses. Forwarded ETH hands control to the automaton, which may
call the contract again before it accepts or refuses the ETH.
-/

namespace Automaton.Evm.Inbox

/-- `MAX_MESSAGE_LENGTH`. -/
def maxMessageLength : ℕ := 4096

/-- `DEFAULT_MIN_USDC`. -/
def defaultMinUsdc : ℕ := 1000000

/-- `DEFAULT_MIN_ETH_WEI`. -/
def defaultMinEthWei : ℕ := 500000000000000

/-- `type(uint112).max`. -/
def uint112Max : ℕ := 2 ^ 112 - 1

/-- The errors of the contract. The last three are those of the token, of a function that is not
payable, and of a sender that does not have the ETH. -/
inductive InboxError
  | invalidAddress
  | messageTooLong (length maxLength : ℕ)
  | insufficientUsdc (provided required : ℕ)
  | insufficientEth (provided required : ℕ)
  | ethTransferFailed
  | transferFailed
  | reentrancyBlocked
  | minPriceTooLarge
  | tokenReverted
  | notPayable
  | insufficientBalance
  deriving DecidableEq

/-- `MinPrices`. -/
structure MinPrices where
  usdcMin : ℕ
  ethMinWei : ℕ
  isCustom : Bool

/-- The arguments of `MessageQueued`. -/
structure QueuedMessage where
  automaton : Address
  nonce : ℕ
  sender : Address
  message : List UInt8
  usdcAmount : ℕ
  ethAmountWei : ℕ
  deriving DecidableEq

/-- The events of the contract. -/
inductive InboxEvent
  | minPricesUpdated (automaton : Address) (usdcMin ethMinWei : ℕ)
  | messageQueued (queued : QueuedMessage)
  | patronage (automaton patron : Address) (usdcAmount : ℕ)
  deriving DecidableEq

/-- What an account holds. -/
inductive Asset
  | eth
  | usdc
  deriving DecidableEq

/-- A movement of an asset, with the call of the contract that made it. -/
structure Movement where
  asset : Asset
  src : Address
  dst : Address
  amount : ℕ
  inCall : Option ℕ

/-- The balances of all accounts, and the movements so far. -/
structure Ledger where
  balances : Asset → Address → ℕ
  movements : List Movement

/-- A movement, if its source has the amount. -/
def Ledger.move (ledger : Ledger) (movement : Movement) : Option Ledger :=
  let before := ledger.balances movement.asset
  if movement.amount ≤ before movement.src then
    let debited := Function.update before movement.src (before movement.src - movement.amount)
    some {
      balances := Function.update ledger.balances movement.asset
        (Function.update debited movement.dst (debited movement.dst + movement.amount))
      movements := ledger.movements ++ [movement] }
  else none

/-- The functions of the contract. -/
inductive InboxCall
  | setMinPrices (usdcMin ethMinWei : ℕ)
  | patronize (automaton : Address) (usdcAmount : ℕ)
  | queueMessage (automaton : Address) (message : List UInt8) (usdcAmount : ℕ)
  | queueMessageEth (automaton : Address) (message : List UInt8)
  deriving DecidableEq

/-- The functions that take ETH. -/
def InboxCall.payable : InboxCall → Bool
  | .setMinPrices .. => false
  | .patronize .. => false
  | .queueMessage .. => true
  | .queueMessageEth .. => true

/-- A call that has begun, with the prices of that moment. -/
structure CallRecord where
  call : InboxCall
  sender : Address
  value : ℕ
  prices : Address → MinPrices

/-- An event with the call that emitted it. -/
structure LoggedEvent where
  call : ℕ
  event : InboxEvent

/-- The storage of the contract with its lock, which is in transient storage, and what is around it:
the ledger, the events and the calls so far. -/
structure World where
  minPricesByAutomaton : Address → MinPrices
  nonces : Address → ℕ
  locked : Bool
  ledger : Ledger
  events : List LoggedEvent
  calls : List CallRecord

/-- An account that is not the contract. -/
structure Account (inbox : Address) where
  address : Address
  ne_inbox : address ≠ inbox

/-- How the token answers a transfer. -/
inductive TokenAnswer
  | moves
  | returnsFalse
  | reverts

/-- Who calls, with how much ETH, and how the token answers if it is asked. -/
structure Message (inbox : Address) where
  sender : Account inbox
  value : ℕ
  token : TokenAnswer

/-- A call that has been made: it has returned, or it has forwarded its ETH and will emit an event
when the automaton has accepted it. -/
inductive Outcome
  | returned (world : World)
  | forwards (world : World) (queued : QueuedMessage)

variable {inbox : Address}

/-- `minPricesFor`. -/
def minPricesFor (prices : MinPrices) : ℕ × ℕ × Bool :=
  if ¬ prices.isCustom then (defaultMinUsdc, defaultMinEthWei, true)
  else (prices.usdcMin, prices.ethMinWei, false)

/-- `usdc.transferFrom(msg.sender, automaton, usdcAmount)`, which must not return false. -/
def transferFrom (msg : Message inbox) (id : ℕ) (world : World) (automaton : Address)
    (usdcAmount : ℕ) : Except InboxError World :=
  match msg.token with
  | .reverts => .error .tokenReverted
  | .returnsFalse => .error .transferFailed
  | .moves =>
    match world.ledger.move ⟨.usdc, msg.sender.address, automaton, usdcAmount, some id⟩ with
    | none => .error .tokenReverted
    | some ledger => .ok { world with ledger }

/-- The end of `queueMessage` and `queueMessageEth`: the event, and the lock is free again. -/
def World.emitQueued (world : World) (id : ℕ) (queued : QueuedMessage) : World :=
  { world with
    events := world.events ++ [⟨id, .messageQueued queued⟩]
    locked := false }

/-- `automaton.call{value: msg.value}("")`. The contract itself does not receive ETH that way. -/
def forwardEth (msg : Message inbox) (id : ℕ) (world : World) (queued : QueuedMessage) :
    Except InboxError Outcome :=
  if msg.value > 0 then
    if queued.automaton = inbox then .error .ethTransferFailed
    else
      match world.ledger.move ⟨.eth, inbox, queued.automaton, msg.value, some id⟩ with
      | none => .error .ethTransferFailed
      | some ledger => .ok (.forwards { world with ledger } queued)
  else .ok (.returned (world.emitQueued id queued))

/-- `setMinPrices`. -/
def setMinPrices (msg : Message inbox) (id : ℕ) (world : World) (usdcMin ethMinWei : ℕ) :
    Except InboxError Outcome := do
  if usdcMin > uint112Max ∨ ethMinWei > uint112Max then throw .minPriceTooLarge
  return .returned { world with
    minPricesByAutomaton := Function.update world.minPricesByAutomaton msg.sender.address
      { usdcMin := usdcMin, ethMinWei := ethMinWei, isCustom := true }
    events := world.events ++ [⟨id, .minPricesUpdated msg.sender.address usdcMin ethMinWei⟩] }

/-- `patronize`. -/
def patronize (msg : Message inbox) (id : ℕ) (world : World) (automaton : Address)
    (usdcAmount : ℕ) : Except InboxError Outcome := do
  if world.locked then throw .reentrancyBlocked
  if automaton = 0 then throw .invalidAddress
  if usdcAmount = 0 then throw (.insufficientUsdc 0 1)
  let world ← transferFrom msg id { world with locked := true } automaton usdcAmount
  return .returned { world with
    events := world.events ++ [⟨id, .patronage automaton msg.sender.address usdcAmount⟩]
    locked := false }

/-- `queueMessage`. -/
def queueMessage (msg : Message inbox) (id : ℕ) (world : World) (automaton : Address)
    (message : List UInt8) (usdcAmount : ℕ) : Except InboxError Outcome := do
  if world.locked then throw .reentrancyBlocked
  let messageLength := message.length
  if automaton = 0 then throw .invalidAddress
  if messageLength > maxMessageLength then throw (.messageTooLong messageLength maxMessageLength)
  let prices := world.minPricesByAutomaton automaton
  let minUsdc := if prices.isCustom then prices.usdcMin else defaultMinUsdc
  let minEthWei := if prices.isCustom then prices.ethMinWei else defaultMinEthWei
  if usdcAmount < minUsdc then throw (.insufficientUsdc usdcAmount minUsdc)
  if msg.value < minEthWei then throw (.insufficientEth msg.value minEthWei)
  let nonce := (world.nonces automaton + 1) % 2 ^ 64
  let world := { world with locked := true, nonces := Function.update world.nonces automaton nonce }
  let world ← if usdcAmount > 0 then transferFrom msg id world automaton usdcAmount else .ok world
  forwardEth msg id world
    { automaton, nonce, sender := msg.sender.address, message, usdcAmount
      ethAmountWei := msg.value }

/-- `queueMessageEth`. -/
def queueMessageEth (msg : Message inbox) (id : ℕ) (world : World) (automaton : Address)
    (message : List UInt8) : Except InboxError Outcome := do
  if world.locked then throw .reentrancyBlocked
  let messageLength := message.length
  if automaton = 0 then throw .invalidAddress
  if messageLength > maxMessageLength then throw (.messageTooLong messageLength maxMessageLength)
  let prices := world.minPricesByAutomaton automaton
  let minEthWei := if prices.isCustom then prices.ethMinWei else defaultMinEthWei
  if msg.value < minEthWei then throw (.insufficientEth msg.value minEthWei)
  let nonce := (world.nonces automaton + 1) % 2 ^ 64
  let world := { world with locked := true, nonces := Function.update world.nonces automaton nonce }
  forwardEth msg id world
    { automaton, nonce, sender := msg.sender.address, message, usdcAmount := 0
      ethAmountWei := msg.value }

/-- A call of the contract: its ETH arrives before its code runs. -/
def exec (msg : Message inbox) (world : World) (call : InboxCall) : Except InboxError Outcome := do
  if ¬ call.payable ∧ msg.value > 0 then throw .notPayable
  let id := world.calls.length
  match world.ledger.move ⟨.eth, msg.sender.address, inbox, msg.value, some id⟩ with
  | none => throw .insufficientBalance
  | some ledger =>
    let world := { world with
      ledger
      calls := world.calls ++
        [⟨call, msg.sender.address, msg.value, world.minPricesByAutomaton⟩] }
    match call with
    | .setMinPrices usdcMin ethMinWei => setMinPrices msg id world usdcMin ethMinWei
    | .patronize automaton usdcAmount => patronize msg id world automaton usdcAmount
    | .queueMessage automaton message usdcAmount =>
      queueMessage msg id world automaton message usdcAmount
    | .queueMessageEth automaton message => queueMessageEth msg id world automaton message

end Automaton.Evm.Inbox
