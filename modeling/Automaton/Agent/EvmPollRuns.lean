import Automaton.Agent.EvmPoll
import Automaton.Library.Slice

/-!
# Runs of polls

Polls of a fixed chain, each from the cursor that the one before it has returned. A poll returns the
slice of the chain's events between its start and its new cursor, so a run returns the slices put
together. This takes that a poll that leaves its cursor for the window at the head does not start a
window's length below the cursor, and that a cursor in block 0 is not taken for a new one.
-/

namespace Automaton.Agent

open Machine Slice Fallible

/-- The place of a cursor. -/
def EvmPollCursor.position (cursor : EvmPollCursor) : ℕ ×ₗ ℕ :=
  toLex (cursor.nextBlock, cursor.nextLogIndex)

/-- A log in a range of blocks. -/
def RpcLog.inRange (log : RpcLog) (fromBlock toBlock : ℕ) : Bool :=
  (log.blockNumber.bind Evm.parseHexU64).any fun block => fromBlock ≤ block ∧ block ≤ toBlock

/-- A log of a contract with given first topics, compared as bytes. -/
def RpcLog.isFor (log : RpcLog) (address : String) (topics : List String) : Bool :=
  (normalizeEvmAddress log.address).toOption = (normalizeEvmAddress address).toOption ∧
    (log.topics.take topics.length).map (fun topic => (normalizeTopic topic "topic").toOption) =
      topics.map fun topic => (normalizeTopic topic "topic").toOption

/-- A node that serves a chain: when it answers, it answers with the logs that are asked for. -/
structure Serves (chain : List RpcLog) (latestBlock : ℕ) (rpc : EvmRpc) : Prop where
  blockNumber : rpc.ethBlockNumber = .ok latestBlock
  logs : ∀ (fromBlock toBlock : ℕ) (address : String) (topics : List String) (logs : List RpcLog),
    toBlock ≤ latestBlock → rpc.ethGetLogs fromBlock toBlock address topics = .ok logs →
      logs.Perm (chain.filter fun log => log.inRange fromBlock toBlock && log.isFor address topics)

/-- A node that answers at once, with all logs of a chain. -/
def nodeOf (chain : List RpcLog) (latestBlock : ℕ) : EvmRpc where
  ethBlockNumber := .ok latestBlock
  ethGetLogs fromBlock toBlock address topics :=
    .ok (chain.filter fun log => log.inRange fromBlock toBlock && log.isFor address topics)

/-- The event of a log of the inbox contract for the automaton. -/
def routedEvent (chainId : ℕ) (contract topic1 : String) (log : RpcLog) : Option EvmEvent := do
  let blockNumber ← log.blockNumber.bind Evm.parseHexU64
  let logIndex ← log.logIndex.bind Evm.parseHexU64
  eventAt chainId contract topic1 blockNumber logIndex log

/-- Events in the order of their places. -/
def sortEvents (events : List EvmEvent) : List EvmEvent :=
  events.insertionSort fun first second => first.position ≤ second.position

/-- The events of a chain for a poller, in the order of their places. -/
def HttpEvmPoller.eventsOf (poller : HttpEvmPoller) (chainId : ℕ) (chain : List RpcLog) :
    List EvmEvent :=
  sortEvents <| chain.filterMap fun log => do
    let contract ← (normalizeEvmAddress poller.logFilterAddress).toOption
    let topic1 ← (normalizeTopic (← poller.logFilterTopics[1]?) "topic1").toOption
    routedEvent chainId contract topic1 log

namespace HttpEvmPoller

/-- The last confirmed block. -/
def confirmedHead (cursor : EvmPollCursor) (latestBlock : ℕ) : ℕ :=
  latestBlock - cursor.confirmationDepth

/-- The first block of the range of a poll. -/
def fromBlock (poller : HttpEvmPoller) (cursor : EvmPollCursor) (latestBlock : ℕ) : ℕ :=
  effectiveFromBlock cursor (confirmedHead cursor latestBlock) poller.bootstrapLookbackBlocks

/-- The last block of the range of a poll. -/
def lastBlock (poller : HttpEvmPoller) (cursor : EvmPollCursor) (latestBlock : ℕ) : ℕ :=
  toBlock (confirmedHead cursor latestBlock) (poller.fromBlock cursor latestBlock)

/-- The place from which a poll returns events. -/
def startOf (poller : HttpEvmPoller) (cursor : EvmPollCursor) (latestBlock : ℕ) : ℕ ×ₗ ℕ :=
  max cursor.position (toLex (poller.fromBlock cursor latestBlock, 0))

/-- A poll succeeds at a node that serves a chain. -/
def Polls (poller : HttpEvmPoller) (chain : List RpcLog) (cursor : EvmPollCursor)
    (latestBlock : ℕ) (result : EvmPollResult) : Prop :=
  ∃ rpc, Serves chain latestBlock rpc ∧ poller.poll rpc cursor = .ok result

/-- A poll that leaves its cursor for the window at the head has a range that reaches the cursor, and
the block after the head has a number. -/
def Steady (poller : HttpEvmPoller) (cursor : EvmPollCursor) (latestBlock : ℕ) : Prop :=
  (maxCursorLagBeforeFastForwardBlocks < confirmedHead cursor latestBlock - cursor.nextBlock →
    cursor.nextBlock ≤ poller.fromBlock cursor latestBlock + maxBlockRangePerPoll) ∧
  confirmedHead cursor latestBlock < u64Max

/-- Polls that succeed, each from the cursor of the one before it, with the latest block of each. -/
def IsRun (poller : HttpEvmPoller) (chain : List RpcLog) :
    EvmPollCursor → List (ℕ × EvmPollResult) → Prop
  | _, [] => True
  | cursor, (latestBlock, result) :: polls =>
    poller.Polls chain cursor latestBlock result ∧ poller.IsRun chain result.cursor polls

/-- The cursor does not lag so far behind that it is given up. -/
def LagsLittle (cursor : EvmPollCursor) (latestBlock : ℕ) : Prop :=
  confirmedHead cursor latestBlock - cursor.nextBlock ≤ maxCursorLagBeforeFastForwardBlocks

/-- As long as a cursor is in block 0 the head is so low that a new cursor would be there too. -/
def StaysInBlockZero (poller : HttpEvmPoller) (cursor : EvmPollCursor) (latestBlock : ℕ) : Prop :=
  cursor.nextBlock = 0 → confirmedHead cursor latestBlock ≤ poller.bootstrapLookbackBlocks

end HttpEvmPoller

/-- A test that holds at each poll of a run, of its cursor and its latest block. -/
def AllPolls (test : EvmPollCursor → ℕ → Prop) :
    EvmPollCursor → List (ℕ × EvmPollResult) → Prop
  | _, [] => True
  | cursor, (latestBlock, result) :: polls =>
    test cursor latestBlock ∧ AllPolls test result.cursor polls

/-- The cursor after a run. -/
def finalCursor : EvmPollCursor → List (ℕ × EvmPollResult) → EvmPollCursor
  | cursor, [] => cursor
  | _, (_, result) :: polls => finalCursor result.cursor polls

/-- The events that a run returns. -/
def returnedEvents (polls : List (ℕ × EvmPollResult)) : List EvmEvent :=
  polls.flatMap (·.2.events)

section Events

variable {cursor : EvmPollCursor} {contract topic1 address : String} {log : RpcLog}
  {event : EvmEvent} {chain : List RpcLog} {fromBlock toBlock : ℕ}

/-- What the event of a log at a place says. -/
theorem eventAt_spec {chainId blockNumber logIndex : ℕ}
    (h : eventAt chainId contract topic1 blockNumber logIndex log = some event) :
    (event.blockNumber = blockNumber ∧ event.logIndex = logIndex) ∧
      normalizeEvmAddress log.address = .ok contract ∧
      (log.topics[0]?.map (normalizeTopic · "topic0") = some (.ok inboxMessageQueuedTopic0) ∨
        log.topics[0]?.map (normalizeTopic · "topic0") = some (.ok inboxPatronageTopic0)) ∧
      log.topics[1]?.map (normalizeTopic · "topic1") = some (.ok topic1) := by
  simp only [eventAt, ne_eq, Option.bind_eq_bind, Option.bind_eq_some_iff,
    Option.ite_none_left_eq_some, not_not, toOption_eq_some, Option.some.injEq] at h
  obtain ⟨source, hsource, rfl, first, hfirst, topic0, htopic0, hknown, second, hsecond, topic,
    htopic, rfl, txHash, -, -, -, -, payload, -, rfl⟩ := h
  refine ⟨⟨rfl, rfl⟩, hsource, ?_, ?_⟩
  · rcases hknown with rfl | rfl
    · exact .inl (by rw [hfirst, htopic0])
    · exact .inr (by rw [hfirst, htopic0])
  · rw [hsecond, htopic]

/-- The event of a log is at the place of the log. -/
theorem blockNumber_of_routedEvent {chainId : ℕ}
    (h : routedEvent chainId contract topic1 log = some event) :
    log.blockNumber.bind Evm.parseHexU64 = some event.blockNumber := by
  simp only [routedEvent, Option.bind_eq_bind, Option.bind_eq_some_iff] at h
  obtain ⟨blockNumber, hblock, logIndex, -, hevent⟩ := h
  rw [(eventAt_spec hevent).1.1, ← Option.bind_eq_some_iff.mpr hblock]

/-- The loop keeps the events of the route from the cursor on. -/
theorem matchedEvent_eq : matchedEvent cursor contract topic1 log =
    (routedEvent cursor.chainId contract topic1 log).filter
      fun event => cursor.position ≤ event.position := by
  simp only [routedEvent, matchedEvent, Option.bind_eq_bind]
  cases log.blockNumber.bind Evm.parseHexU64 with
  | none => rfl
  | some blockNumber =>
    cases log.logIndex.bind Evm.parseHexU64 with
    | none => rfl
    | some logIndex =>
      simp only [Option.bind_some]
      cases hevent : eventAt cursor.chainId contract topic1 blockNumber logIndex log with
      | none => simp
      | some event =>
        obtain ⟨⟨hblock, hindex⟩, -⟩ := eventAt_spec hevent
        rw [Option.filter_some]
        simp only [EvmPollCursor.position, EvmEvent.position, Prod.Lex.toLex_le_toLex, hblock,
          hindex, decide_eq_true_eq]
        split_ifs <;> first | rfl | omega

/-- Which topics are normalized does not depend on the name of the field. -/
theorem normalizeTopic_field {raw field other : String} {topic : String} :
    normalizeTopic raw field = .ok topic ↔ normalizeTopic raw other = .ok topic := by
  have hfield (field : String) : normalizeTopic raw field = .ok topic ↔
      ∃ digits, Text.stripPrefix? "0x" (Text.toAsciiLowercase (Text.trim raw)) = some digits ∧
        digits.utf8ByteSize % 2 = 0 ∧ digits.toList.all Text.isHexDigit = true ∧
        Text.toAsciiLowercase (Text.trim raw) = topic ∧ topic.utf8ByteSize = 66 := by
    simp only [normalizeTopic, normalizeHexBlob, throw_bind, ite_error_eq_ok, bind_eq_ok,
      pure_eq_ok, ne_eq]
    cases Text.stripPrefix? "0x" (Text.toAsciiLowercase (Text.trim raw)) with
    | none => simp
    | some digits => simp [ite_error_eq_ok, and_assoc]
  rw [hfield, hfield]

/-- Thirty-two bytes of lower-case digits are a normalized topic. -/
theorem normalizeTopic_eq_self {text field : String} {digits : List Char}
    (htext : text.toList = "0x".toList ++ digits) (hlength : digits.length = 64)
    (hdigits : ∀ c ∈ digits, Text.isHexDigit c = true ∧ c.toLower = c) :
    normalizeTopic text field = .ok text := by
  have hsize : text.utf8ByteSize = 66 := by
    rw [utf8ByteSize_of_digits htext fun c hc => (hdigits c hc).1, hlength]
  have hblob : normalizeHexBlob text field = .ok text :=
    normalizeHexBlob_eq_self htext (by rw [hlength]) hdigits
  simp only [normalizeTopic, throw_bind, ite_error_eq_ok, bind_eq_ok, pure_eq_ok, ne_eq]
  exact ⟨text, hblob, not_not.mpr hsize, rfl⟩

/-- The topic of a message is normalized. -/
theorem normalizeTopic_inboxMessageQueuedTopic0 {field : String} :
    normalizeTopic inboxMessageQueuedTopic0 field = .ok inboxMessageQueuedTopic0 := by
  apply normalizeTopic_eq_self
  · rw [inboxMessageQueuedTopic0, String.toList_ofList]
    rfl
  · decide
  · exact lowercase_of_all (by decide +kernel)

/-- The topic of a patronage is normalized. -/
theorem normalizeTopic_inboxPatronageTopic0 {field : String} :
    normalizeTopic inboxPatronageTopic0 field = .ok inboxPatronageTopic0 := by
  apply normalizeTopic_eq_self
  · rw [inboxPatronageTopic0, String.toList_ofList]
    rfl
  · decide
  · exact lowercase_of_all (by decide +kernel)

/-- A log is one for two topics when its first two topics are these. -/
theorem isFor_iff {first second topic0 : String}
    (haddress : normalizeEvmAddress address = .ok contract)
    (hfirst : normalizeTopic first "topic" = .ok topic0)
    (hsecond : normalizeTopic second "topic" = .ok topic1) :
    log.isFor address [first, second] = true ↔ normalizeEvmAddress log.address = .ok contract ∧
      log.topics[0]?.map (normalizeTopic · "topic0") = some (.ok topic0) ∧
      log.topics[1]?.map (normalizeTopic · "topic1") = some (.ok topic1) := by
  have htopic {raw field topic : String} :
      (normalizeTopic raw "topic").toOption = some topic ↔ normalizeTopic raw field = .ok topic :=
    toOption_eq_some.trans normalizeTopic_field
  have hcontract : (normalizeEvmAddress log.address).toOption = some contract ↔
      normalizeEvmAddress log.address = .ok contract := toOption_eq_some
  have hok {topic : String} : (Except.ok topic : Except String String).toOption = some topic := rfl
  simp only [RpcLog.isFor, decide_eq_true_eq, haddress, hfirst, hsecond, List.map_cons,
    List.map_nil, List.length_cons, List.length_nil, hok, hcontract]
  rcases log.topics with _ | ⟨a, _ | ⟨b, rest⟩⟩
  · simp
  · simp
  · have ha : (normalizeTopic a "topic").toOption = some topic0 ↔
        normalizeTopic a "topic0" = .ok topic0 := htopic
    have hb : (normalizeTopic b "topic").toOption = some topic1 ↔
        normalizeTopic b "topic1" = .ok topic1 := htopic
    simp only [List.take_succ_cons, List.take_zero, List.map_cons, List.map_nil, List.cons.injEq,
      and_true, ha, hb, List.getElem?_cons_zero, List.getElem?_cons_succ, Option.map_some,
      Option.some.injEq]

/-- Two selections of a list, of which every item that counts is in one only, have the items that
count together. -/
theorem filterMap_filter_append_perm {α β : Type*} {p q : α → Bool} {f g : α → Option β}
    {items : List α} (hsome : ∀ a b, g a = some b → f a = some b ∧ (p a ^^ q a) = true)
    (hnone : ∀ a, g a = none → p a = true ∨ q a = true → f a = none) :
    ((items.filter p).filterMap f ++ (items.filter q).filterMap f).Perm (items.filterMap g) := by
  induction items with
  | nil => exact .nil
  | cons a items ih =>
    cases hg : g a with
    | none =>
      have hskip (r : α → Bool) (h : r a = true → f a = none) :
          ((a :: items).filter r).filterMap f = (items.filter r).filterMap f := by
        by_cases hr : r a = true
        · rw [List.filter_cons_of_pos hr, List.filterMap_cons_none (h hr)]
        · rw [List.filter_cons_of_neg hr]
      rw [hskip p fun h => hnone a hg (.inl h), hskip q fun h => hnone a hg (.inr h),
        List.filterMap_cons_none hg]
      exact ih
    | some b =>
      obtain ⟨hf, hone⟩ := hsome a b hg
      rw [List.filterMap_cons_some hg]
      cases hp : p a with
      | true =>
        have hq : ¬ q a = true := by simpa [hp] using hone
        rw [List.filter_cons_of_pos hp, List.filter_cons_of_neg hq, List.filterMap_cons_some hf]
        exact ih.cons b
      | false =>
        have hq : q a = true := by simpa [hp] using hone
        rw [List.filter_cons_of_neg (by simp [hp]), List.filter_cons_of_pos hq,
          List.filterMap_cons_some hf]
        exact List.perm_middle.trans (ih.cons b)

/-- The log of an event is in a range when the event is. -/
theorem inRange_of_routedEvent {chainId : ℕ}
    (h : routedEvent chainId contract topic1 log = some event) :
    log.inRange fromBlock toBlock = decide (fromBlock ≤ event.blockNumber ∧
      event.blockNumber ≤ toBlock) := by
  rw [RpcLog.inRange, blockNumber_of_routedEvent h]
  rfl

/-- The log of an event is asked for by exactly one of the two filters. -/
theorem isFor_of_routedEvent {chainId : ℕ} {topic : String}
    (haddress : normalizeEvmAddress address = .ok contract)
    (htopic : normalizeTopic topic "topic" = .ok topic1)
    (h : routedEvent chainId contract topic1 log = some event) :
    (log.isFor address [inboxMessageQueuedTopic0, topic] ^^
      log.isFor address [inboxPatronageTopic0, topic]) = true := by
  have hmessage : normalizeTopic inboxMessageQueuedTopic0 "topic" = .ok inboxMessageQueuedTopic0 :=
    normalizeTopic_inboxMessageQueuedTopic0
  have hpatronage : normalizeTopic inboxPatronageTopic0 "topic" = .ok inboxPatronageTopic0 :=
    normalizeTopic_inboxPatronageTopic0
  have hne : inboxMessageQueuedTopic0 ≠ inboxPatronageTopic0 := by decide
  have hmessageFor : log.isFor address _ = true ↔ _ := isFor_iff haddress hmessage htopic
  have hpatronageFor : log.isFor address _ = true ↔ _ := isFor_iff haddress hpatronage htopic
  simp only [routedEvent, Option.bind_eq_bind, Option.bind_eq_some_iff] at h
  obtain ⟨blockNumber, -, logIndex, -, hevent⟩ := h
  obtain ⟨-, hcontract, htopic0, htopic1⟩ := eventAt_spec hevent
  simp only [hcontract, htopic1, true_and, and_true] at hmessageFor hpatronageFor
  rw [Bool.xor_iff_ne]
  intro heq
  rw [heq, hpatronageFor] at hmessageFor
  rcases htopic0 with htopic0 | htopic0
  · have hsame := htopic0.symm.trans (hmessageFor.mpr htopic0)
    exact hne (Except.ok.inj (Option.some.inj hsame))
  · have hsame := htopic0.symm.trans (hmessageFor.mp htopic0)
    exact hne (Except.ok.inj (Option.some.inj hsame)).symm

/-- The events of the two answers are those of the chain in the range, from the cursor on. -/
theorem answers_perm {topic : String} {messages patronages : List RpcLog}
    (haddress : normalizeEvmAddress address = .ok contract)
    (htopic : normalizeTopic topic "topic" = .ok topic1)
    (hmessages : messages.Perm (chain.filter fun log => log.inRange fromBlock toBlock &&
      log.isFor address [inboxMessageQueuedTopic0, topic]))
    (hpatronages : patronages.Perm (chain.filter fun log => log.inRange fromBlock toBlock &&
      log.isFor address [inboxPatronageTopic0, topic])) :
    ((messages ++ patronages).filterMap (matchedEvent cursor contract topic1)).Perm
      ((chain.filterMap (routedEvent cursor.chainId contract topic1)).filter fun event =>
        cursor.position ≤ event.position ∧ fromBlock ≤ event.blockNumber ∧
          event.blockNumber ≤ toBlock) := by
  rw [List.filterMap_append]
  refine ((hmessages.filterMap _).append (hpatronages.filterMap _)).trans ?_
  rw [List.filter_filterMap]
  apply filterMap_filter_append_perm
  · intro log event hevent
    obtain ⟨hrouted, hin⟩ := Option.filter_eq_some_iff.mp hevent
    obtain ⟨hcursor, hrange⟩ := of_decide_eq_true hin
    have hone := isFor_of_routedEvent haddress htopic hrouted
    rw [inRange_of_routedEvent hrouted, decide_eq_true hrange, matchedEvent_eq, hrouted]
    exact ⟨Option.filter_some_pos (decide_eq_true hcursor), by simpa using hone⟩
  · intro log hnone hasked
    rw [matchedEvent_eq]
    cases hrouted : routedEvent cursor.chainId contract topic1 log with
    | none => rfl
    | some event =>
      have hrange : log.inRange fromBlock toBlock = true := by
        rcases hasked with h | h <;> exact (Bool.and_eq_true_iff.mp h).1
      rw [inRange_of_routedEvent hrouted, decide_eq_true_eq] at hrange
      rw [hrouted, Option.filter_eq_none_iff] at hnone
      rw [Option.filter_eq_none_iff]
      intro other hother hcursor
      obtain rfl := Option.some.inj hother
      exact hnone event rfl (decide_eq_true ⟨of_decide_eq_true hcursor, hrange⟩)

/-- Events at different places are sorted strictly. -/
theorem sortEvents_sorted {events : List EvmEvent}
    (h : (events.map EvmEvent.position).Nodup) :
    (sortEvents events).Pairwise fun first second => first.position < second.position := by
  have hperm : (sortEvents events).Perm events := List.perm_insertionSort _ events
  have hsorted : (sortEvents events).Pairwise fun first second =>
      first.position ≤ second.position := List.pairwise_insertionSort _ events
  have hnodup : ((sortEvents events).map EvmEvent.position).Nodup :=
    (hperm.map _).nodup_iff.mpr h
  exact (hsorted.and (List.pairwise_map.mp hnodup)).imp fun hle => lt_of_le_of_ne hle.1 hle.2

/-- Nothing is dropped from events at different places. -/
theorem dedupEvents_eq_self {events : List EvmEvent}
    (h : events.Pairwise fun first second => first.position < second.position) :
    dedupEvents events = events := by
  have hafter {event : EvmEvent} {events : List EvmEvent}
      (h : (event :: events).Pairwise fun first second => first.position < second.position) :
      dedupAfter event events = event :: events := by
    induction events generalizing event with
    | nil => rfl
    | cons next events ih =>
      obtain ⟨hevent, hrest⟩ := List.pairwise_cons.mp h
      have hne : ¬ (next.position = event.position ∧ next.txHash = event.txHash) := fun hsame =>
        absurd hsame.1 (hevent next List.mem_cons_self).ne'
      rw [dedupAfter, if_neg hne, ih hrest]
  cases events with
  | nil => rfl
  | cons event events => exact hafter h

/-- Sorting what was selected from a list of events selects from the sorted list. -/
theorem dedup_sortEvents {events selected : List EvmEvent} {test : EvmEvent → Bool}
    (hperm : selected.Perm (events.filter test))
    (hunique : ((sortEvents events).map EvmEvent.position).Nodup) :
    dedupEvents (sortEvents selected) = (sortEvents events).filter test := by
  have hsort (events : List EvmEvent) : (sortEvents events).Perm events :=
    List.perm_insertionSort _ events
  have hevents : (events.map EvmEvent.position).Nodup :=
    ((hsort events).map _).nodup_iff.mp hunique
  have hselected : (selected.map EvmEvent.position).Nodup :=
    (hperm.map _).nodup_iff.mpr (hevents.sublist (List.filter_sublist.map _))
  rw [dedupEvents_eq_self (sortEvents_sorted hselected)]
  apply eq_of_perm _ (sortEvents_sorted hselected) ((sortEvents_sorted hevents).filter _)
  exact (hsort selected).trans (hperm.trans ((hsort events).filter _).symm)

end Events

section Polls

variable {poller : HttpEvmPoller} {chain : List RpcLog} {cursor : EvmPollCursor}
  {latestBlock : ℕ} {result : EvmPollResult}

/-- What `filter_route_matched_logs` returns. -/
theorem filterRouteMatchedLogs_eq_ok {logs : List RpcLog} {address topic : String} {limit : ℕ}
    {events : List EvmEvent}
    (h : filterRouteMatchedLogs logs cursor address topic limit = .ok events) :
    ∃ contract topic1, normalizeEvmAddress address = .ok contract ∧
      normalizeTopic topic "topic1" = .ok topic1 ∧
      events =
        (dedupEvents (sortEvents (logs.filterMap (matchedEvent cursor contract topic1)))).take
          limit := by
  simp only [filterRouteMatchedLogs, bind_eq_ok, pure_eq_ok] at h
  obtain ⟨contract, haddress, topic1, htopic, rfl⟩ := h
  exact ⟨contract, topic1, haddress, htopic, rfl⟩

/-- The events of a chain for a poller whose address and topic are well formed. -/
theorem eventsOf_eq {chainId : ℕ} {contract topic topic1 : String}
    (haddress : normalizeEvmAddress poller.logFilterAddress = .ok contract)
    (hindex : poller.logFilterTopics[1]? = some topic)
    (htopic : normalizeTopic topic "topic1" = .ok topic1) :
    poller.eventsOf chainId chain =
      sortEvents (chain.filterMap (routedEvent chainId contract topic1)) := by
  simp only [HttpEvmPoller.eventsOf, haddress, hindex, htopic, Except.toOption,
    Option.bind_eq_bind, Option.bind_some]

/-- What a poll returns, and where it leaves the cursor. -/
theorem polls_cases (h : poller.Polls chain cursor latestBlock result)
    (hunique : ((poller.eventsOf cursor.chainId chain).map EvmEvent.position).Nodup) :
    (poller.lastBlock cursor latestBlock < poller.fromBlock cursor latestBlock ∧
      result = ⟨cursor, []⟩) ∨
    poller.fromBlock cursor latestBlock ≤ poller.lastBlock cursor latestBlock ∧
      result.events = ((poller.eventsOf cursor.chainId chain).filter fun event =>
        cursor.position ≤ event.position ∧
          poller.fromBlock cursor latestBlock ≤ event.blockNumber ∧
          event.blockNumber ≤ poller.lastBlock cursor latestBlock).take poller.maxLogsPerPoll ∧
      result.cursor = { cursor with
        nextBlock := (HttpEvmPoller.nextPosition poller.maxLogsPerPoll
          (poller.lastBlock cursor latestBlock) result.events).1
        nextLogIndex := (HttpEvmPoller.nextPosition poller.maxLogsPerPoll
          (poller.lastBlock cursor latestBlock) result.events).2 } := by
  obtain ⟨rpc, hserves, hpoll⟩ := h
  simp only [HttpEvmPoller.poll, bind_eq_ok, hserves.blockNumber, Except.ok.injEq] at hpoll
  obtain ⟨latest, rfl, hpoll⟩ := hpoll
  change (if poller.lastBlock cursor latestBlock < poller.fromBlock cursor latestBlock then _
    else _) = _ at hpoll
  split_ifs at hpoll with hempty
  · exact .inl ⟨hempty, (Except.ok.inj hpoll).symm⟩
  · right
    refine ⟨not_lt.mp hempty, ?_⟩
    simp only [bind_eq_ok, pure_eq_ok] at hpoll
    obtain ⟨topic, htopic, messages, hmessages, patronages, hpatronages, events, hevents, rfl⟩ :=
      hpoll
    have hindex : poller.logFilterTopics[1]? = some topic := by
      cases hfound : poller.logFilterTopics[1]? with
      | none => rw [hfound] at htopic; cases htopic
      | some found => rw [hfound] at htopic; exact congrArg some (Except.ok.inj htopic)
    obtain ⟨contract, topic1, haddress, htopic1, rfl⟩ := filterRouteMatchedLogs_eq_ok hevents
    have hlast : poller.lastBlock cursor latestBlock ≤ latestBlock :=
      (Nat.min_le_left _ _).trans (Nat.sub_le _ _)
    have hperm : ((messages ++ patronages).filterMap
        (matchedEvent cursor contract topic1)).Perm _ :=
      answers_perm haddress (normalizeTopic_field.mp htopic1) (hserves.logs _ _ _ _ _ hlast hmessages)
        (hserves.logs _ _ _ _ _ hlast hpatronages)
    have hof : poller.eventsOf cursor.chainId chain = _ := eventsOf_eq haddress hindex htopic1
    refine ⟨?_, rfl⟩
    rw [hof] at hunique ⊢
    rw [dedup_sortEvents hperm hunique]
    rfl

/-- Such a node serves the chain. -/
theorem serves_nodeOf {chain : List RpcLog} {latestBlock : ℕ} :
    Serves chain latestBlock (nodeOf chain latestBlock) where
  blockNumber := rfl
  logs := by
    intro fromBlock toBlock address topics logs _ hlogs
    rw [← Except.ok.inj hlogs]

/-- At such a node a poll of a block or more succeeds, when the address and the topic that it looks
for are well formed. -/
theorem polls_nodeOf {contract topic topic1 : String} {events : List EvmEvent}
    {nextBlock nextLogIndex : ℕ}
    (haddress : normalizeEvmAddress poller.logFilterAddress = .ok contract)
    (hindex : poller.logFilterTopics[1]? = some topic)
    (htopic : normalizeTopic topic "topic1" = .ok topic1)
    (hunique : ((poller.eventsOf cursor.chainId chain).map EvmEvent.position).Nodup)
    (hrange : poller.fromBlock cursor latestBlock ≤ poller.lastBlock cursor latestBlock)
    (hevents : ((poller.eventsOf cursor.chainId chain).filter fun event =>
      cursor.position ≤ event.position ∧
        poller.fromBlock cursor latestBlock ≤ event.blockNumber ∧
        event.blockNumber ≤ poller.lastBlock cursor latestBlock).take poller.maxLogsPerPoll =
          events)
    (hnext : HttpEvmPoller.nextPosition poller.maxLogsPerPoll
      (poller.lastBlock cursor latestBlock) events = (nextBlock, nextLogIndex)) :
    poller.Polls chain cursor latestBlock ⟨{ cursor with nextBlock, nextLogIndex }, events⟩ := by
  refine ⟨nodeOf chain latestBlock, serves_nodeOf, ?_⟩
  let asked (topic0 : String) : List RpcLog := chain.filter fun log =>
    log.inRange (poller.fromBlock cursor latestBlock) (poller.lastBlock cursor latestBlock) &&
      log.isFor poller.logFilterAddress [topic0, topic]
  have hperm : ((asked inboxMessageQueuedTopic0 ++ asked inboxPatronageTopic0).filterMap
      (matchedEvent cursor contract topic1)).Perm _ :=
    answers_perm haddress (normalizeTopic_field.mp htopic) (.refl _) (.refl _)
  have hmatched : filterRouteMatchedLogs
      (asked inboxMessageQueuedTopic0 ++ asked inboxPatronageTopic0) cursor
      poller.logFilterAddress topic poller.maxLogsPerPoll = .ok events := by
    rw [eventsOf_eq haddress hindex htopic] at hunique hevents
    rw [← dedup_sortEvents hperm hunique] at hevents
    simp only [filterRouteMatchedLogs, bind_eq_ok, pure_eq_ok]
    exact ⟨contract, haddress, topic1, htopic, hevents⟩
  simp only [HttpEvmPoller.poll, bind_eq_ok]
  refine ⟨latestBlock, rfl, ?_⟩
  change (if poller.lastBlock cursor latestBlock < poller.fromBlock cursor latestBlock then _
    else _) = _
  rw [if_neg (not_lt.mpr hrange)]
  simp only [bind_eq_ok, pure_eq_ok]
  refine ⟨topic, by rw [hindex]; rfl, asked inboxMessageQueuedTopic0, rfl,
    asked inboxPatronageTopic0, rfl, events, hmatched, ?_⟩
  change (⟨{ cursor with
    nextBlock := (HttpEvmPoller.nextPosition _ (poller.lastBlock cursor latestBlock) events).1
    nextLogIndex := (HttpEvmPoller.nextPosition _ (poller.lastBlock cursor latestBlock) events).2 },
    events⟩ : EvmPollResult) = _
  rw [hnext]

/-- The range of a steady poll reaches its cursor. -/
theorem HttpEvmPoller.Steady.reaches (h : poller.Steady cursor latestBlock)
    (hrange : poller.fromBlock cursor latestBlock ≤ poller.lastBlock cursor latestBlock) :
    poller.lastBlock cursor latestBlock < u64Max ∧
      (cursor.nextBlock ≤ poller.lastBlock cursor latestBlock) := by
  obtain ⟨hforward, hhead⟩ := h
  simp only [HttpEvmPoller.lastBlock, HttpEvmPoller.toBlock, saturatingAdd] at hrange ⊢
  refine ⟨by omega, ?_⟩
  by_cases hzero : cursor.nextBlock = 0
  · omega
  · by_cases hlag : maxCursorLagBeforeFastForwardBlocks <
        HttpEvmPoller.confirmedHead cursor latestBlock - cursor.nextBlock
    · have hle := hforward hlag
      omega
    · have hfrom : poller.fromBlock cursor latestBlock = cursor.nextBlock := by
        rw [HttpEvmPoller.fromBlock, effectiveFromBlock, if_neg hzero, if_neg hlag]
      omega

/-- The range of a steady poll of a cursor that is not past the head has a block. -/
theorem HttpEvmPoller.Steady.fromBlock_le_lastBlock (hsteady : poller.Steady cursor latestBlock)
    (h : cursor.nextBlock ≤ HttpEvmPoller.confirmedHead cursor latestBlock) :
    poller.fromBlock cursor latestBlock ≤ poller.lastBlock cursor latestBlock := by
  have hfrom : poller.fromBlock cursor latestBlock ≤
      HttpEvmPoller.confirmedHead cursor latestBlock := by
    rw [HttpEvmPoller.fromBlock, effectiveFromBlock]
    split_ifs <;> omega
  have hhead := hsteady.2
  simp only [HttpEvmPoller.lastBlock, HttpEvmPoller.toBlock, saturatingAdd]
  omega

/-- A lookback that is hardly longer than the largest lag keeps all polls steady. -/
theorem HttpEvmPoller.steady_of_lookback
    (hlookback : poller.bootstrapLookbackBlocks ≤
      maxCursorLagBeforeFastForwardBlocks + maxBlockRangePerPoll)
    (hhead : HttpEvmPoller.confirmedHead cursor latestBlock < u64Max) :
    poller.Steady cursor latestBlock := by
  refine ⟨?_, hhead⟩
  intro hlag
  rw [HttpEvmPoller.fromBlock, effectiveFromBlock]
  split_ifs <;> omega

/-- A poll with an empty range has its cursor at the start of the range. -/
theorem HttpEvmPoller.startOf_of_empty
    (h : poller.lastBlock cursor latestBlock < poller.fromBlock cursor latestBlock)
    (hsteady : poller.Steady cursor latestBlock) :
    poller.startOf cursor latestBlock = cursor.position := by
  have hhead : HttpEvmPoller.confirmedHead cursor latestBlock <
      poller.fromBlock cursor latestBlock := by
    have hlt := hsteady.2
    simp only [HttpEvmPoller.lastBlock, HttpEvmPoller.toBlock, saturatingAdd] at h
    omega
  have hfrom : poller.fromBlock cursor latestBlock = cursor.nextBlock := by
    rw [HttpEvmPoller.fromBlock, effectiveFromBlock] at hhead ⊢
    split_ifs at hhead ⊢ <;> omega
  rw [HttpEvmPoller.startOf, hfrom, max_eq_left]
  exact Prod.Lex.toLex_le_toLex.mpr (.inr ⟨rfl, Nat.zero_le _⟩)

/-- The events of a chain are sorted strictly. -/
theorem eventsOf_sorted {chainId : ℕ}
    (hunique : ((poller.eventsOf chainId chain).map EvmEvent.position).Nodup) :
    (poller.eventsOf chainId chain).Pairwise fun first second =>
      first.position < second.position := by
  rw [HttpEvmPoller.eventsOf] at hunique ⊢
  exact sortEvents_sorted (((List.perm_insertionSort _ _).map _).nodup_iff.mp hunique)

/-- An event that is not below the start of a poll. -/
theorem startOf_le {event : EvmEvent} : poller.startOf cursor latestBlock ≤ event.position ↔
    cursor.position ≤ event.position ∧
      poller.fromBlock cursor latestBlock ≤ event.blockNumber := by
  rw [HttpEvmPoller.startOf, max_le_iff, EvmEvent.position, Prod.Lex.toLex_le_toLex]
  refine and_congr_right fun _ => ?_
  dsimp only
  omega

/-- A page that is not full ends at the last block of its range. -/
theorem nextPosition_of_lt {limit last : ℕ} {events : List EvmEvent} (h : events.length < limit) :
    HttpEvmPoller.nextPosition limit last events = (saturatingAdd u64Max last 1, 0) := by
  unfold HttpEvmPoller.nextPosition
  split
  · rw [if_neg h.ne]
  · rfl

/-- A full page ends behind its last event. -/
theorem nextPosition_of_full {limit last : ℕ} {events : List EvmEvent} {event : EvmEvent}
    (h : events.length = limit) (hlast : events.getLast? = some event) :
    HttpEvmPoller.nextPosition limit last events =
      (event.blockNumber, saturatingAdd u64Max event.logIndex 1) := by
  rw [HttpEvmPoller.nextPosition, hlast]
  exact if_pos h

/-- A steady poll returns the events between its start and its new cursor. -/
theorem polls_slice (h : poller.Polls chain cursor latestBlock result)
    (hsteady : poller.Steady cursor latestBlock) (hmax : 0 < poller.maxLogsPerPoll)
    (hunique : ((poller.eventsOf cursor.chainId chain).map EvmEvent.position).Nodup)
    (hindex : ∀ event ∈ poller.eventsOf cursor.chainId chain, event.logIndex < u64Max) :
    result.events = slice EvmEvent.position (poller.startOf cursor latestBlock)
        result.cursor.position (poller.eventsOf cursor.chainId chain) ∧
      poller.startOf cursor latestBlock ≤ result.cursor.position := by
  rcases polls_cases h hunique with ⟨hempty, rfl⟩ | ⟨hrange, hevents, hcursor⟩
  · rw [HttpEvmPoller.startOf_of_empty hempty hsteady]
    exact ⟨slice_self.symm, le_rfl⟩
  · obtain ⟨hlast, hreaches⟩ := hsteady.reaches hrange
    have hsorted := eventsOf_sorted hunique
    have hposition : result.cursor.position = toLex (HttpEvmPoller.nextPosition
        poller.maxLogsPerPoll (poller.lastBlock cursor latestBlock) result.events) := by
      rw [hcursor]
      rfl
    rw [hposition]
    generalize poller.eventsOf cursor.chainId chain = all at *
    rcases lt_or_ge (all.filter fun event => cursor.position ≤ event.position ∧
        poller.fromBlock cursor latestBlock ≤ event.blockNumber ∧
        event.blockNumber ≤ poller.lastBlock cursor latestBlock).length poller.maxLogsPerPoll with
      hpart | hfull
    · -- All events of the range fit the page.
      rw [List.take_of_length_le hpart.le] at hevents
      have hnext : saturatingAdd u64Max (poller.lastBlock cursor latestBlock) 1 =
          poller.lastBlock cursor latestBlock + 1 := Nat.min_eq_left hlast
      rw [nextPosition_of_lt (hevents ▸ hpart), hevents, hnext]
      constructor
      · apply List.filter_congr
        intro event _
        rw [decide_eq_decide, startOf_le, EvmEvent.position, Prod.Lex.toLex_lt_toLex, and_assoc]
        refine and_congr_right fun _ => and_congr_right fun _ => ?_
        dsimp only
        omega
      · rw [HttpEvmPoller.startOf, max_le_iff, EvmPollCursor.position, Prod.Lex.toLex_le_toLex,
          Prod.Lex.toLex_le_toLex]
        dsimp only
        omega
    · -- The page is full, and the cursor moves behind its last event.
      have hlength : result.events.length = poller.maxLogsPerPoll := by
        rw [hevents, List.length_take]
        omega
      obtain ⟨last, hgetLast⟩ : ∃ last, result.events.getLast? = some last := by
        cases hgot : result.events.getLast? with
        | none =>
          rw [List.getLast?_eq_none_iff.mp hgot] at hlength
          exact absurd hlength hmax.ne
        | some last => exact ⟨last, rfl⟩
      rw [nextPosition_of_full hlength hgetLast]
      rw [hevents] at hgetLast ⊢
      obtain ⟨hmem, hin⟩ := List.mem_filter.mp
        (List.mem_of_mem_take (List.mem_of_getLast? hgetLast))
      obtain ⟨hfromCursor, hfromBlock, htoBlock⟩ := of_decide_eq_true hin
      have hnext : saturatingAdd u64Max last.logIndex 1 = last.logIndex + 1 :=
        Nat.min_eq_left (hindex last hmem)
      have hafter {event : EvmEvent} : event.position ≤ last.position ↔
          event.position < toLex (last.blockNumber, last.logIndex + 1) := by
        rw [EvmEvent.position, EvmEvent.position, Prod.Lex.toLex_lt_toLex,
          Prod.Lex.toLex_le_toLex]
        dsimp only
        omega
      rw [hnext]
      constructor
      · rw [take_eq_filter (hsorted.filter _) hgetLast, List.filter_filter]
        apply List.filter_congr
        intro event _
        rw [← Bool.decide_and, decide_eq_decide, startOf_le, ← hafter]
        constructor
        · rintro ⟨hle, hcursor, hfrom, -⟩
          exact ⟨⟨hcursor, hfrom⟩, hle⟩
        · rintro ⟨⟨hcursor, hfrom⟩, hle⟩
          refine ⟨hle, hcursor, hfrom, ?_⟩
          have hblock := (Prod.Lex.toLex_le_toLex.mp hle)
          dsimp only at hblock
          omega
      · exact (startOf_le.mpr ⟨hfromCursor, hfromBlock⟩).trans (hafter.mp le_rfl).le

/-- A cursor that is not below another one is not in a lower block. -/
theorem nextBlock_le_of_position_le {other : EvmPollCursor}
    (h : cursor.position ≤ other.position) : cursor.nextBlock ≤ other.nextBlock := by
  have hlex := Prod.Lex.toLex_le_toLex.mp h
  dsimp only at hlex
  omega

/-- A poll leaves the chain of its cursor as it is. -/
theorem polls_chainId (h : poller.Polls chain cursor latestBlock result)
    (hunique : ((poller.eventsOf cursor.chainId chain).map EvmEvent.position).Nodup) :
    result.cursor.chainId = cursor.chainId ∧
      result.cursor.confirmationDepth = cursor.confirmationDepth := by
  rcases polls_cases h hunique with ⟨-, rfl⟩ | ⟨-, -, hcursor⟩
  · exact ⟨rfl, rfl⟩
  · rw [hcursor]
    exact ⟨rfl, rfl⟩

/-- A poll whose cursor lags little starts at the cursor. -/
theorem startOf_of_lagsLittle (hlag : HttpEvmPoller.LagsLittle cursor latestBlock)
    (hzero : poller.StaysInBlockZero cursor latestBlock) :
    poller.startOf cursor latestBlock = cursor.position := by
  rw [HttpEvmPoller.LagsLittle] at hlag
  have hfrom : poller.fromBlock cursor latestBlock = cursor.nextBlock := by
    rw [HttpEvmPoller.fromBlock, effectiveFromBlock]
    split_ifs with hnew hfar
    · have hle := hzero hnew
      omega
    · omega
    · rfl
  rw [HttpEvmPoller.startOf, hfrom, max_eq_left]
  exact Prod.Lex.toLex_le_toLex.mpr (.inr ⟨rfl, Nat.zero_le _⟩)

/-- What the run rules need to know of the chain. -/
structure ChainSound (poller : HttpEvmPoller) (chain : List RpcLog) (chainId : ℕ) : Prop where
  unique : ((poller.eventsOf chainId chain).map EvmEvent.position).Nodup
  indices : ∀ event ∈ poller.eventsOf chainId chain, event.logIndex < u64Max

variable {polls : List (ℕ × EvmPollResult)}

/-- A run whose cursor lags little returns the events between its cursor and its final one. -/
theorem returnedEvents_eq_slice (hrun : poller.IsRun chain cursor polls)
    (hsteady : AllPolls poller.Steady cursor polls)
    (hzero : AllPolls poller.StaysInBlockZero cursor polls)
    (hlags : AllPolls HttpEvmPoller.LagsLittle cursor polls)
    (hmax : 0 < poller.maxLogsPerPoll) (hchain : ChainSound poller chain cursor.chainId) :
    returnedEvents polls = slice EvmEvent.position cursor.position
        (finalCursor cursor polls).position (poller.eventsOf cursor.chainId chain) ∧
      cursor.position ≤ (finalCursor cursor polls).position := by
  induction polls generalizing cursor with
  | nil => exact ⟨slice_self.symm, le_rfl⟩
  | cons poll polls ih =>
    obtain ⟨latestBlock, result⟩ := poll
    obtain ⟨hpoll, hrun⟩ := hrun
    have hid := (polls_chainId hpoll hchain.unique).1
    obtain ⟨hevents, hle⟩ := polls_slice hpoll hsteady.1 hmax hchain.unique hchain.indices
    obtain ⟨hlater, hle'⟩ := ih hrun hsteady.2 hzero.2 hlags.2 (by rw [hid]; exact hchain)
    rw [startOf_of_lagsLittle hlags.1 hzero.1] at hevents hle
    rw [hid] at hlater
    rw [finalCursor]
    refine ⟨?_, hle.trans hle'⟩
    calc returnedEvents ((latestBlock, result) :: polls)
        = result.events ++ returnedEvents polls := List.flatMap_cons
      _ = _ := by
        rw [hevents, hlater]
        exact slice_append (eventsOf_sorted hchain.unique) hle hle'

/-- A run of steady polls moves its cursor forwards, and returns events between its ends, in the
order of their places. -/
theorem returnedEvents_sorted (hrun : poller.IsRun chain cursor polls)
    (hsteady : AllPolls poller.Steady cursor polls) (hmax : 0 < poller.maxLogsPerPoll)
    (hchain : ChainSound poller chain cursor.chainId) :
    cursor.position ≤ (finalCursor cursor polls).position ∧
      (∀ event ∈ returnedEvents polls, cursor.position ≤ event.position) ∧
      (returnedEvents polls).Pairwise fun first second => first.position < second.position := by
  induction polls generalizing cursor with
  | nil => exact ⟨le_rfl, by simp [returnedEvents], .nil⟩
  | cons poll polls ih =>
    obtain ⟨latestBlock, result⟩ := poll
    obtain ⟨hpoll, hrun⟩ := hrun
    have hid := (polls_chainId hpoll hchain.unique).1
    obtain ⟨hevents, hle⟩ := polls_slice hpoll hsteady.1 hmax hchain.unique hchain.indices
    obtain ⟨hfinal, hfrom, hsorted⟩ := ih hrun hsteady.2 (by rw [hid]; exact hchain)
    have hstart : cursor.position ≤ poller.startOf cursor latestBlock := le_max_left _ _
    have hreturned : returnedEvents ((latestBlock, result) :: polls) =
        result.events ++ returnedEvents polls := List.flatMap_cons
    have hbetween : ∀ event ∈ result.events, cursor.position ≤ event.position ∧
        event.position < result.cursor.position := by
      intro event hevent
      rw [hevents] at hevent
      obtain ⟨-, hfirst, hlast⟩ := mem_slice.mp hevent
      exact ⟨hstart.trans hfirst, hlast⟩
    rw [finalCursor, hreturned]
    refine ⟨(hstart.trans hle).trans hfinal, ?_, ?_⟩
    · intro event hevent
      rcases List.mem_append.mp hevent with hevent | hevent
      · exact (hbetween event hevent).1
      · exact (hstart.trans hle).trans (hfrom event hevent)
    · refine List.pairwise_append.mpr ⟨?_, hsorted, ?_⟩
      · rw [hevents]
        exact (eventsOf_sorted hchain.unique).filter _
      · intro first hfirst second hsecond
        exact (hbetween first hfirst).2.trans_le (hfrom second hsecond)

/-- The blocks and the events that are left for a cursor. -/
def HttpEvmPoller.remaining (poller : HttpEvmPoller) (chain : List RpcLog) (cursor : EvmPollCursor)
    (latestBlock : ℕ) : ℕ :=
  confirmedHead cursor latestBlock + 1 - cursor.nextBlock +
    (poller.eventsOf cursor.chainId chain).countP fun event => cursor.position ≤ event.position

/-- A steady poll of a cursor that is not past the head leaves behind the blocks of its range, or
some of the events that are left. -/
theorem polls_progress (h : poller.Polls chain cursor latestBlock result)
    (hsteady : poller.Steady cursor latestBlock) (hmax : 0 < poller.maxLogsPerPoll)
    (hchain : ChainSound poller chain cursor.chainId)
    (hhead : cursor.nextBlock ≤ HttpEvmPoller.confirmedHead cursor latestBlock) :
    poller.remaining chain result.cursor latestBlock <
      poller.remaining chain cursor latestBlock := by
  obtain ⟨hevents, hle⟩ := polls_slice h hsteady hmax hchain.unique hchain.indices
  obtain ⟨hid, hdepth⟩ := polls_chainId h hchain.unique
  have hstart : cursor.position ≤ poller.startOf cursor latestBlock := le_max_left _ _
  have hcount : result.events.length + (poller.eventsOf cursor.chainId chain).countP
      (fun event => result.cursor.position ≤ event.position) =
        (poller.eventsOf cursor.chainId chain).countP
          (fun event => poller.startOf cursor latestBlock ≤ event.position) := by
    rw [hevents]
    exact length_slice_add hle
  have hmono : (poller.eventsOf cursor.chainId chain).countP
      (fun event => poller.startOf cursor latestBlock ≤ event.position) ≤
        (poller.eventsOf cursor.chainId chain).countP
          (fun event => cursor.position ≤ event.position) := by
    apply List.countP_mono_left
    intro event _ hfrom
    exact decide_eq_true (hstart.trans (of_decide_eq_true hfrom))
  have hblock := nextBlock_le_of_position_le (hstart.trans hle)
  simp only [HttpEvmPoller.remaining, HttpEvmPoller.confirmedHead, hid, hdepth] at hhead ⊢
  rcases polls_cases h hchain.unique with ⟨hempty, -⟩ | ⟨hrange, -, hcursor⟩
  · exact absurd hempty (not_lt.mpr (hsteady.fromBlock_le_lastBlock hhead))
  · obtain ⟨hlast, hreaches⟩ := hsteady.reaches hrange
    rcases lt_or_ge result.events.length poller.maxLogsPerPoll with hpart | hfull
    · have hnext : result.cursor.nextBlock = poller.lastBlock cursor latestBlock + 1 := by
        rw [hcursor, nextPosition_of_lt hpart]
        exact Nat.min_eq_left hlast
      omega
    · omega

/-- Steady polls of one latest block bring the cursor past the confirmed head, and leave it there. -/
theorem finalCursor_past_head (hrun : poller.IsRun chain cursor polls)
    (hsteady : AllPolls poller.Steady cursor polls) (hmax : 0 < poller.maxLogsPerPoll)
    (hchain : ChainSound poller chain cursor.chainId) (hsame : ∀ poll ∈ polls, poll.1 = latestBlock)
    (henough : poller.remaining chain cursor latestBlock ≤ polls.length ∨
      HttpEvmPoller.confirmedHead cursor latestBlock < cursor.nextBlock) :
    HttpEvmPoller.confirmedHead cursor latestBlock < (finalCursor cursor polls).nextBlock := by
  induction polls generalizing cursor with
  | nil =>
    rw [HttpEvmPoller.remaining, List.length_nil] at henough
    rw [finalCursor]
    omega
  | cons poll polls ih =>
    obtain ⟨latest, result⟩ := poll
    obtain rfl : latest = latestBlock := hsame _ List.mem_cons_self
    obtain ⟨hpoll, hrun⟩ := hrun
    obtain ⟨hid, hdepth⟩ := polls_chainId hpoll hchain.unique
    obtain ⟨-, hle⟩ := polls_slice hpoll hsteady.1 hmax hchain.unique hchain.indices
    have hblock : cursor.nextBlock ≤ result.cursor.nextBlock :=
      nextBlock_le_of_position_le ((le_max_left _ _).trans hle)
    have hhead : HttpEvmPoller.confirmedHead result.cursor latest =
        HttpEvmPoller.confirmedHead cursor latest := by
      rw [HttpEvmPoller.confirmedHead, hdepth, HttpEvmPoller.confirmedHead]
    have hrest := ih hrun hsteady.2 (by rw [hid]; exact hchain)
      fun poll hmem => hsame poll (List.mem_cons_of_mem _ hmem)
    rw [hhead] at hrest
    apply hrest
    rcases lt_or_ge (HttpEvmPoller.confirmedHead cursor latest) cursor.nextBlock with hpast | hbelow
    · exact .inr (hpast.trans_le hblock)
    · have hprogress := polls_progress hpoll hsteady.1 hmax hchain hbelow
      rw [List.length_cons] at henough
      omega

/-- The cursors of a run of steady polls never decrease. -/
theorem cursors_sorted (hrun : poller.IsRun chain cursor polls)
    (hsteady : AllPolls poller.Steady cursor polls) (hmax : 0 < poller.maxLogsPerPoll)
    (hchain : ChainSound poller chain cursor.chainId) :
    (cursor.position :: polls.map fun poll => poll.2.cursor.position).Pairwise (· ≤ ·) := by
  rw [← List.isChain_iff_pairwise]
  induction polls generalizing cursor with
  | nil => exact .singleton _
  | cons poll polls ih =>
    obtain ⟨latestBlock, result⟩ := poll
    obtain ⟨hpoll, hrun⟩ := hrun
    have hid := (polls_chainId hpoll hchain.unique).1
    obtain ⟨-, hle⟩ := polls_slice hpoll hsteady.1 hmax hchain.unique hchain.indices
    rw [List.map_cons]
    exact .cons_cons ((le_max_left _ _).trans hle) (ih hrun hsteady.2 (by rw [hid]; exact hchain))

end Polls

/-- What a run of polls is to do. -/
structure PollsInOrder (poller : HttpEvmPoller) (chain : List RpcLog) (cursor : EvmPollCursor)
    (polls : List (ℕ × EvmPollResult)) : Prop where
  /-- As long as the cursor lags little after the first poll, nothing is lost. -/
  losesNothing : ∀ first rest, polls = first :: rest →
    AllPolls HttpEvmPoller.LagsLittle first.2.cursor rest →
      returnedEvents polls = slice EvmEvent.position (poller.startOf cursor first.1)
        (finalCursor cursor polls).position (poller.eventsOf cursor.chainId chain)
  repeatsNothing :
    (returnedEvents polls).Pairwise fun first second => first.position < second.position
  forwards : (cursor.position :: polls.map fun poll => poll.2.cursor.position).Pairwise (· ≤ ·)
  passesHead : ∀ latestBlock, (∀ poll ∈ polls, poll.1 = latestBlock) →
    poller.remaining chain cursor latestBlock ≤ polls.length →
      HttpEvmPoller.confirmedHead cursor latestBlock < (finalCursor cursor polls).nextBlock

/-- Polls lose and repeat nothing, as long as each is steady and each after the first stays in
block 0 when its cursor is there. -/
theorem steadyPolls_inOrder {poller : HttpEvmPoller} {chain : List RpcLog} {cursor : EvmPollCursor}
    {polls : List (ℕ × EvmPollResult)} (hmax : 0 < poller.maxLogsPerPoll)
    (hchain : ChainSound poller chain cursor.chainId) (hrun : poller.IsRun chain cursor polls)
    (hsteady : AllPolls poller.Steady cursor polls)
    (hzero : ∀ first rest, polls = first :: rest →
      AllPolls poller.StaysInBlockZero first.2.cursor rest) :
    PollsInOrder poller chain cursor polls where
  losesNothing := by
    rintro ⟨latestBlock, result⟩ rest rfl hlags
    obtain ⟨hpoll, hrest⟩ := hrun
    have hid := (polls_chainId hpoll hchain.unique).1
    obtain ⟨hevents, hle⟩ := polls_slice hpoll hsteady.1 hmax hchain.unique hchain.indices
    obtain ⟨hlater, hle'⟩ := returnedEvents_eq_slice hrest hsteady.2 (hzero _ _ rfl) hlags hmax
      (by rw [hid]; exact hchain)
    calc returnedEvents ((latestBlock, result) :: rest)
        = result.events ++ returnedEvents rest := List.flatMap_cons
      _ = _ := by
        rw [hevents, hlater, hid]
        exact slice_append (eventsOf_sorted hchain.unique) hle hle'
  repeatsNothing := (returnedEvents_sorted hrun hsteady hmax hchain).2.2
  forwards := cursors_sorted hrun hsteady hmax hchain
  passesHead := by
    intro latestBlock hsame hlong
    exact finalCursor_past_head hrun hsteady hmax hchain hsame (.inl hlong)

section Examples

private def pageTopic : String :=
  "0x0000000000000000000000002222222222222222222222222222222222222222"

private def queuedHash : String :=
  "0x3333333333333333333333333333333333333333333333333333333333333333"

/-- A poller of one log at a time. -/
private def pagePoller : HttpEvmPoller where
  maxLogsPerPoll := 1
  bootstrapLookbackBlocks := 10
  logFilterAddress := "0x1111111111111111111111111111111111111111"
  logFilterTopics := [inboxMessageQueuedTopic0, pageTopic]

private def newCursor : EvmPollCursor where
  chainId := 8453
  contractAddress := some pagePoller.logFilterAddress
  automatonAddressTopic := none
  nextBlock := 0
  nextLogIndex := 0
  confirmationDepth := 6
  lastPollAtNs := 0
  consecutiveEmptyPolls := 0

/-- A log of a message in block 5. -/
private def queuedLog (logIndex : String) : RpcLog where
  blockNumber := some "0x5"
  logIndex := some logIndex
  txHash := some queuedHash
  topics := pagePoller.logFilterTopics
  address := pagePoller.logFilterAddress
  data := "0x"

private def queuedChain : List RpcLog := [queuedLog "0x2", queuedLog "0x1"]

private def queuedEvent (logIndex : ℕ) : EvmEvent where
  txHash := queuedHash
  chainId := 8453
  blockNumber := 5
  logIndex := logIndex
  source := pagePoller.logFilterAddress
  payload := "0x"

/-- The cursor after the first message. -/
private def secondCursor : EvmPollCursor := { newCursor with nextBlock := 5, nextLogIndex := 2 }

private def thirdCursor : EvmPollCursor := { secondCursor with nextBlock := 5, nextLogIndex := 3 }

/-- Two polls of one message each. -/
private def queuedPolls : List (ℕ × EvmPollResult) :=
  [(11, ⟨secondCursor, [queuedEvent 1]⟩), (12, ⟨thirdCursor, [queuedEvent 2]⟩)]

private theorem pageAddress_normal : normalizeEvmAddress pagePoller.logFilterAddress =
    .ok pagePoller.logFilterAddress := by
  apply normalizeEvmAddress_eq_self
  · rw [pagePoller, String.toList_ofList]
    rfl
  · decide
  · exact lowercase_of_all (by decide +kernel)

private theorem pageTopic_normal {field : String} : normalizeTopic pageTopic field =
    .ok pageTopic := by
  apply normalizeTopic_eq_self
  · rw [pageTopic, String.toList_ofList]
    rfl
  · decide
  · exact lowercase_of_all (by decide +kernel)

private theorem queuedHash_normal {field : String} : normalizeHexBlob queuedHash field =
    .ok queuedHash := by
  apply normalizeHexBlob_eq_self
  · rw [queuedHash, String.toList_ofList]
    rfl
  · decide
  · exact lowercase_of_all (by decide +kernel)

private theorem queuedHash_size : queuedHash.utf8ByteSize = 66 := by decide +kernel

private theorem queuedData_normal {field : String} : normalizeHexBlob "0x" field = .ok "0x" := by
  apply normalizeHexBlob_eq_self
  · rw [String.toList_ofList]
    rfl
  · decide
  · exact lowercase_of_all (by decide +kernel)

/-- The event of a queued log. -/
private theorem routedEvent_queuedLog {index : String} {logIndex : ℕ}
    (hindex : Evm.parseHexU64 index = some logIndex) :
    routedEvent 8453 pagePoller.logFilterAddress pageTopic (queuedLog index) =
      some (queuedEvent logIndex) := by
  have hblock : Evm.parseHexU64 "0x5" = some 5 := by decide +kernel
  have hevent : eventAt 8453 pagePoller.logFilterAddress pageTopic 5 logIndex (queuedLog index) =
      some (queuedEvent logIndex) := by
    simp only [eventAt, ne_eq, Option.bind_eq_bind, Option.bind_eq_some_iff,
      Option.ite_none_left_eq_some, not_not, toOption_eq_some, Option.some.injEq]
    exact ⟨_, pageAddress_normal, rfl, _, rfl, _, normalizeTopic_inboxMessageQueuedTopic0,
      .inl rfl, _, rfl, _, pageTopic_normal, rfl, _, rfl, _, queuedHash_normal, queuedHash_size, _,
      queuedData_normal, rfl⟩
  simp only [routedEvent, Option.bind_eq_bind, Option.bind_eq_some_iff]
  exact ⟨5, ⟨_, rfl, hblock⟩, logIndex, ⟨_, rfl, hindex⟩, hevent⟩

/-- The events of the chain. -/
private theorem eventsOf_queuedChain : pagePoller.eventsOf 8453 queuedChain =
    [queuedEvent 1, queuedEvent 2] := by
  have hfirst : Evm.parseHexU64 "0x2" = some 2 := by decide +kernel
  have hsecond : Evm.parseHexU64 "0x1" = some 1 := by decide +kernel
  rw [eventsOf_eq pageAddress_normal rfl pageTopic_normal, queuedChain,
    List.filterMap_cons_some (routedEvent_queuedLog hfirst),
    List.filterMap_cons_some (routedEvent_queuedLog hsecond), List.filterMap_nil]
  simp [sortEvents, EvmEvent.position, queuedEvent, Prod.Lex.toLex_le_toLex]

theorem queuedPolls_inOrder : PollsInOrder pagePoller queuedChain newCursor queuedPolls := by
  have hevents : pagePoller.eventsOf newCursor.chainId queuedChain = _ := eventsOf_queuedChain
  have hevents' : pagePoller.eventsOf secondCursor.chainId queuedChain = _ := eventsOf_queuedChain
  have hsorted : ([queuedEvent 1, queuedEvent 2].map EvmEvent.position).Nodup := by decide
  have hunique : ((pagePoller.eventsOf newCursor.chainId queuedChain).map
      EvmEvent.position).Nodup := by
    rw [hevents]
    exact hsorted
  have hunique' : ((pagePoller.eventsOf secondCursor.chainId queuedChain).map
      EvmEvent.position).Nodup := by
    rw [hevents']
    exact hsorted
  have hfirst : pagePoller.Polls queuedChain newCursor 11 ⟨secondCursor, [queuedEvent 1]⟩ := by
    refine polls_nodeOf pageAddress_normal rfl pageTopic_normal hunique (by decide) ?_ ?_
    · rw [hevents]
      rfl
    · rfl
  have hsecond : pagePoller.Polls queuedChain secondCursor 12 ⟨thirdCursor, [queuedEvent 2]⟩ := by
    refine polls_nodeOf pageAddress_normal rfl pageTopic_normal hunique' (by decide) ?_ ?_
    · rw [hevents']
      rfl
    · rfl
  have hrun : pagePoller.IsRun queuedChain newCursor queuedPolls := ⟨hfirst, hsecond, trivial⟩
  apply steadyPolls_inOrder (by decide) ⟨hunique, ?_⟩ hrun
  · exact ⟨⟨by decide, by decide⟩, ⟨by decide, by decide⟩, trivial⟩
  · rintro first rest hpolls
    obtain ⟨rfl, rfl⟩ := List.cons.inj hpolls
    exact ⟨fun hzero => absurd hzero (by decide), trivial⟩
  · rw [hevents]
    decide

/-- A poller that looks back further than a cursor may lag. -/
private def lookbackPoller : HttpEvmPoller := { pagePoller with bootstrapLookbackBlocks := 50000 }

private def farCursor : EvmPollCursor := { newCursor with nextBlock := 60000 }

private def movedCursor : EvmPollCursor := { farCursor with nextBlock := 51001, nextLogIndex := 0 }

/-- The cursor of block 60000 lags too far behind the head, and is set to block 51001. -/
theorem lookbackPoll_moves_back : ∃ polls : List (ℕ × EvmPollResult),
    0 < lookbackPoller.maxLogsPerPoll ∧ ChainSound lookbackPoller [] farCursor.chainId ∧
      lookbackPoller.IsRun [] farCursor polls ∧
      ¬ PollsInOrder lookbackPoller [] farCursor polls := by
  have hevents : lookbackPoller.eventsOf farCursor.chainId [] = [] := rfl
  have hunique : ((lookbackPoller.eventsOf farCursor.chainId []).map EvmEvent.position).Nodup :=
    .nil
  have hpoll : lookbackPoller.Polls [] farCursor 100006 ⟨movedCursor, []⟩ := by
    refine polls_nodeOf pageAddress_normal rfl pageTopic_normal hunique (by decide) rfl ?_
    decide
  refine ⟨[(100006, ⟨movedCursor, []⟩)], by decide, ⟨hunique, ?_⟩, ⟨hpoll, trivial⟩, ?_⟩
  · rw [hevents]
    simp
  · intro hinOrder
    exact absurd hinOrder.forwards (by decide)

end Examples

end Automaton.Agent
