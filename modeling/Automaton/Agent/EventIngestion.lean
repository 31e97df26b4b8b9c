import Automaton.Agent.EvmPoll
import Automaton.Agent.InboxCodec
import Automaton.Agent.RoomPoll
import Automaton.Library.BTreeMap
import Automaton.Library.Decimal
import Automaton.Library.Transition

/-!
# Ingesting events

A job marks each event that a poll returns as ingested, and then applies its effects: a patronage
is added to a counter, a message goes into the inbox, and a payment of a known peer becomes a deal.
The storage may fail at every call. Some calls tell, others do not.
-/

namespace Automaton.Agent

open Machine Fallible Transition

section Source

/-- `FactoryPeer`, as far as the ingestion uses it. -/
structure FactoryPeer where
  canisterId : String
  evmAddress : String
  deriving DecidableEq

/-- The value that is recorded for a deal, without its constant parts. -/
structure CounterpartyDeal where
  peerId : String
  promise : String
  asset : String
  amountRaw : String
  txHash : String
  deriving DecidableEq

/-- `InboxMessage`, as it is posted. -/
structure InboxMessage where
  seq : ℕ
  body : String
  postedBy : String
  deriving DecidableEq

/-- `MAX_INBOX_BODY_CHARS`. -/
def maxInboxBodyChars : ℕ := 4096

/-- `evm_ingest_dedupe_key`. -/
def evmIngestDedupeKey (txHash : String) (logIndex : ℕ) : String :=
  "evm.ingest:" ++ txHash ++ ":" ++ toString logIndex

/-- The key of an event. -/
def EvmEvent.key (event : EvmEvent) : String := evmIngestDedupeKey event.txHash event.logIndex

/-- `counterparty_deal_key`. -/
def counterpartyDealKey (peerCanisterId txHash : String) : String :=
  "counterparty." ++ Text.toAsciiLowercase peerCanisterId ++ ".deal." ++
    Text.toAsciiLowercase (Text.trim txHash)

/-- What the ingestion takes from elsewhere: how errors are displayed, the width of addresses, the
hexadecimal hash of a text, and the JSON text of an event. -/
structure IngestEnv where
  wording : Wording
  target : Target
  keccakHex : String → String
  eventJson : EvmEvent → String

variable (env : IngestEnv)

/-- `normalize_inbox_body`. -/
def normalizeInboxBody (rawBody : String) : Except String String :=
  let trimmed := Text.trim rawBody
  if trimmed = "" then .error "message cannot be empty"
  else .ok (truncateTextField env.keccakHex trimmed maxInboxBodyChars)

/-- `decode_patronage_payload`, whose error is not used. -/
@[irreducible] def patronageOf (event : EvmEvent) : Option ℕ :=
  (decodePatronagePayload env.wording event.payload).toOption

/-- `decode_message_queued_payload`, whose error is only logged. -/
@[irreducible] def paymentOf (event : EvmEvent) : Option DecodedMessageQueuedPayload :=
  (decodeMessageQueuedPayload env.wording env.target event.payload).toOption

/-- `evm_event_to_inbox_message`. -/
def evmEventToInboxMessage (event : EvmEvent) : String × String :=
  match paymentOf env event with
  | some decoded =>
    (((normalizeInboxBody env decoded.message).toOption).getD "[invalid decoded message]",
      decoded.sender)
  | none =>
    (((normalizeInboxBody env (env.eventJson event)).toOption).getD "[evm log decode failed]",
      event.source)

/-- The deal of a payment of a known peer, which the loop of `run_poll_inbox_job` records. -/
def dealOf (directory : List FactoryPeer) (event : EvmEvent) : Option CounterpartyDeal := do
  let payment ← paymentOf env event
  if payment.ethAmount = 0 ∧ payment.usdcAmount = 0 then none
  else
    let peer ← directory.find? fun peer =>
      Text.eqIgnoreAsciiCase peer.evmAddress payment.sender
    return {
      peerId := peer.canisterId
      promise := payment.message
      asset := if payment.usdcAmount = 0 then "eth" else "usdc"
      amountRaw := toString (if payment.usdcAmount = 0 then payment.ethAmount
        else payment.usdcAmount)
      txHash := event.txHash }

end Source

section Storage

/-- An effect of an event. -/
inductive IngestEffect
  | patronage (amountRaw : ℕ)
  | message (body sender : String)
  | deal (deal : CounterpartyDeal)
  deriving DecidableEq

/-- What the effects change. -/
structure IngestData where
  lifetimePatronageUsdcRaw : String
  inboxSeq : ℕ
  inbox : BTreeMap ℕ InboxMessage
  deals : BTreeMap String CounterpartyDeal

/-- The storage: the markers, with the directory of peers that the job had that set each, and the
data. Beside them stand the effects that were applied, with the keys of their events. -/
structure IngestStore where
  markers : List (String × List FactoryPeer)
  data : IngestData
  applied : List (String × IngestEffect)

/-- How the storage answers the calls that are made for an event. The calls that read or write and
return nothing fail silently. -/
structure StorageAnswers where
  readMarker : Bool
  writeMarker : Bool
  readSnapshot : Bool
  writeSnapshot : Bool
  readSeq : Bool
  writeSeq : Bool
  upsertInbox : Bool
  setDeal : Except String Unit
  setStanding : Except String Unit

/-- What an effect does to the data. -/
def IngestEffect.on : IngestEffect → IngestData → IngestData
  | .patronage amountRaw, data =>
    { data with
      lifetimePatronageUsdcRaw := toString
        ((Decimal.parseUnsigned u128Max data.lifetimePatronageUsdcRaw).getD 0 + amountRaw) }
  | .message body sender, data =>
    let seq := saturatingAdd u64Max data.inboxSeq 1
    { data with inboxSeq := seq, inbox := data.inbox.insert seq ⟨seq, body, sender⟩ }
  | .deal found, data =>
    { data with deals := data.deals.insert (counterpartyDealKey found.peerId found.txHash) found }

namespace IngestStore

variable (env : IngestEnv) (answers : StorageAnswers)

/-- The marker of a key is set. -/
def IsMarked (store : IngestStore) (key : String) : Prop :=
  ∃ directory, (key, directory) ∈ store.markers

/-- The storage with a marker. -/
def mark (store : IngestStore) (directory : List FactoryPeer) (key : String) : IngestStore :=
  { store with markers := (key, directory) :: store.markers }

/-- An effect that is applied for a key. -/
def applyFor (store : IngestStore) (key : String) (effect : IngestEffect) : IngestStore :=
  { store with data := effect.on store.data, applied := store.applied ++ [(key, effect)] }

/-- `try_mark_evm_event_ingested`. -/
def tryMarkEvmEventIngested (store : IngestStore) (directory : List FactoryPeer) (key : String) :
    Bool × IngestStore :=
  if answers.readMarker ∧ store.markers.any (·.1 = key) then (false, store)
  else (true, if answers.writeMarker then store.mark directory key else store)

/-- `record_verified_patronage_usdc`. A snapshot that cannot be read is a new one. -/
def recordVerifiedPatronageUsdc (store : IngestStore) (key : String) (amountRaw : ℕ) :
    Except String Unit × IngestStore :=
  if amountRaw = 0 then (.error "patronage amount must be positive", store)
  else
    let counter := if answers.readSnapshot then store.data.lifetimePatronageUsdcRaw else "0"
    match Decimal.parseUnsigned u128Max counter with
    | none => (.error "stored patronage counter is malformed", store)
    | some current =>
      if u128Max < current + amountRaw then (.error "patronage counter overflow", store)
      else if answers.writeSnapshot then
        (.ok (), { store with
          data := { store.data with lifetimePatronageUsdcRaw := toString (current + amountRaw) }
          applied := store.applied ++ [(key, .patronage amountRaw)] })
      else (.ok (), store)

/-- `ingest_verified_patronage_event`, for an event that is a patronage. -/
def ingestVerifiedPatronage (store : IngestStore) (key : String) (amount : ℕ) :
    Except String Unit × IngestStore :=
  if u128Max < amount then (.error "patronage amount exceeds supported counter range", store)
  else store.recordVerifiedPatronageUsdc answers key amount

/-- `next_inbox_seq`. -/
def nextInboxSeq (store : IngestStore) : ℕ × IngestStore :=
  let next := saturatingAdd u64Max (if answers.readSeq then store.data.inboxSeq else 0) 1
  (next, if answers.writeSeq then { store with data := { store.data with inboxSeq := next } }
    else store)

/-- `post_inbox_message_with_source`. -/
def postInboxMessage (store : IngestStore) (key body sender : String) :
    Except String Unit × IngestStore :=
  match normalizeInboxBody env body with
  | .error error => (.error error, store)
  | .ok boundedBody =>
    let (seq, store) := store.nextInboxSeq answers
    (.ok (), if answers.upsertInbox then { store with
      data := { store.data with
        inbox := store.data.inbox.insert seq ⟨seq, boundedBody, sender⟩ }
      applied := store.applied ++ [(key, .message boundedBody sender)] } else store)

/-- `record_counterparty_deal`: the deal, and then what is known of the peer. -/
def recordCounterpartyDeal (store : IngestStore) (key : String) (deal : CounterpartyDeal) :
    Except String Unit × IngestStore :=
  match answers.setDeal with
  | .error error => (.error error, store)
  | .ok () => (answers.setStanding, store.applyFor key (.deal deal))

/-- The end of the loop's body, for the deal of an event, if there is one. -/
def ingestDeal (store : IngestStore) (key : String) :
    Option CounterpartyDeal → Except String Bool × IngestStore
  | none => (.ok true, store)
  | some deal =>
    let (result, store) := store.recordCounterpartyDeal answers key deal
    (result.map fun _ => true, store)

/-- The effects of an event with a new marker: of a patronage, or of a message. -/
def ingestMarked (store : IngestStore) (directory : List FactoryPeer) (event : EvmEvent) :
    Except String Bool × IngestStore :=
  match patronageOf env event with
  | some amount =>
    let (result, store) := store.ingestVerifiedPatronage answers event.key amount
    (result.map fun _ => true, store)
  | none =>
    let (body, sender) := evmEventToInboxMessage env event
    match store.postInboxMessage env answers event.key body sender with
    | (.error error, store) => (.error error, store)
    | (.ok (), store) => store.ingestDeal answers event.key (dealOf env directory event)

/-- The body of the loop of `run_poll_inbox_job`: whether the event was ingested now. -/
def ingestEvent (store : IngestStore) (directory : List FactoryPeer) (event : EvmEvent) :
    Except String Bool × IngestStore :=
  let (isNew, store) := store.tryMarkEvmEventIngested answers directory event.key
  if !isNew then (.ok false, store) else store.ingestMarked env answers directory event

/-- The loop of `run_poll_inbox_job` over the events of a poll: how many were ingested. -/
def ingestEvents (directory : List FactoryPeer) :
    List (EvmEvent × StorageAnswers) → IngestStore → Except String ℕ × IngestStore
  | [], store => (.ok 0, store)
  | (event, answers) :: events, store =>
    match store.ingestEvent env answers directory event with
    | (.error error, store) => (.error error, store)
    | (.ok ingested, store) =>
      let (result, store) := ingestEvents directory events store
      (result.map fun count => if ingested then count + 1 else count, store)

end IngestStore

/-- A job: the peers that it knows, and the events that its poll returns. -/
structure IngestJob where
  directory : List FactoryPeer
  events : List (EvmEvent × StorageAnswers)

/-- What a job does to the storage. -/
def IngestJob.apply (env : IngestEnv) (job : IngestJob) (store : IngestStore) : IngestStore :=
  (IngestStore.ingestEvents env job.directory job.events store).2

/-- The message that is posted for an event: its body is brought into bounds once more. -/
def postedMessage (env : IngestEnv) (event : EvmEvent) : Except String IngestEffect :=
  (normalizeInboxBody env (evmEventToInboxMessage env event).1).map fun body =>
    .message body (evmEventToInboxMessage env event).2

/-- The effects of an event for a job that knows some peers. -/
def effectsOf (env : IngestEnv) (directory : List FactoryPeer) (event : EvmEvent) :
    List IngestEffect :=
  match patronageOf env event with
  | some amount => [.patronage amount]
  | none =>
    (postedMessage env event).toOption.toList ++ (dealOf env directory event).toList.map .deal

/-- Effects one after the other. -/
def replay (effects : List IngestEffect) (data : IngestData) : IngestData :=
  effects.foldl (fun data effect => effect.on data) data

namespace IngestStore

/-- A storage in which nothing was ingested. -/
def fresh (data : IngestData) : IngestStore := ⟨[], data, []⟩

/-- The effects that were applied for a key. -/
def effectsFor (store : IngestStore) (key : String) : List IngestEffect :=
  (store.applied.filter (·.1 = key)).map (·.2)

/-- An event is marked and each of its effects was applied once, or it is not marked and none of
them was. -/
def Exact (env : IngestEnv) (store : IngestStore) (event : EvmEvent) : Prop :=
  (∃ directory, (event.key, directory) ∈ store.markers ∧
      store.effectsFor event.key = effectsOf env directory event) ∨
    ¬ store.IsMarked event.key ∧ store.effectsFor event.key = []

/-- The storage after an event whose calls succeed. -/
def ingested (env : IngestEnv) (directory : List FactoryPeer) (event : EvmEvent)
    (store : IngestStore) : IngestStore where
  markers := (event.key, directory) :: store.markers
  data := replay (effectsOf env directory event) store.data
  applied := store.applied ++ (effectsOf env directory event).map fun effect => (event.key, effect)

/-- The calls for an event succeed: a marker that is set is read, and for an event without one the
writes that it needs are done, and the counter has room for it. -/
structure Serves (env : IngestEnv) (directory : List FactoryPeer) (event : EvmEvent)
    (answers : StorageAnswers) (store : IngestStore) : Prop where
  marked : store.IsMarked event.key → answers.readMarker = true
  mark : ¬ store.IsMarked event.key → answers.writeMarker = true
  patronage : ¬ store.IsMarked event.key → ∀ amount, patronageOf env event = some amount →
    answers.readSnapshot = true ∧ answers.writeSnapshot = true ∧
      ∃ current, Decimal.parseUnsigned u128Max store.data.lifetimePatronageUsdcRaw =
        some current ∧ current + amount ≤ u128Max
  message : ¬ store.IsMarked event.key → patronageOf env event = none →
    answers.readSeq = true ∧ answers.writeSeq = true ∧ answers.upsertInbox = true
  deal : ¬ store.IsMarked event.key → patronageOf env event = none →
    dealOf env directory event ≠ none → answers.setDeal = .ok () ∧ answers.setStanding = .ok ()

end IngestStore

/-- The calls for the events of a job succeed, each in the storage that it finds. -/
def ServesAll (env : IngestEnv) (directory : List FactoryPeer) :
    List (EvmEvent × StorageAnswers) → IngestStore → Prop
  | [], _ => True
  | (event, answers) :: events, store =>
    store.Serves env directory event answers ∧
      ServesAll env directory events (store.ingestEvent env answers directory event).2

end Storage

section Bodies

variable {env : IngestEnv} {text body : String} {event : EvmEvent} {amount : ℕ}

/-- A text that is cut has the dots of the marker. -/
theorem trim_truncateTextField {keccakHex : String → String} {maxChars : ℕ} (hmax : maxChars ≠ 0)
    (h : Text.trim text ≠ "") : Text.trim (truncateTextField keccakHex text maxChars) ≠ "" := by
  obtain ⟨maxChars, rfl⟩ := Nat.exists_eq_succ_of_ne_zero hmax
  unfold truncateTextField
  dsimp only
  rw [if_neg hmax]
  split
  · exact h
  · split
    · refine Text.trim_ne_empty (c := '.') ?_ rfl
      rw [String.toList_ofList]
      simp only [List.append_assoc]
      exact List.mem_cons_self
    · refine Text.trim_ne_empty (c := '.') ?_ rfl
      rw [String.toList_ofList]
      refine List.mem_append_left _ (List.mem_append_right _ ?_)
      simp only [List.append_assoc]
      exact List.mem_append_left _ (by decide)

theorem normalizeInboxBody_of_ne (h : Text.trim text ≠ "") :
    normalizeInboxBody env text =
      .ok (truncateTextField env.keccakHex (Text.trim text) maxInboxBodyChars) := by
  rw [normalizeInboxBody, if_neg h]

/-- A body that is brought into bounds can be posted. -/
theorem normalizeInboxBody_twice (h : normalizeInboxBody env text = .ok body) :
    ∃ bounded, normalizeInboxBody env body = .ok bounded := by
  have hblank : Text.trim text ≠ "" := by
    intro hblank
    rw [normalizeInboxBody, if_pos hblank] at h
    cases h
  rw [normalizeInboxBody_of_ne hblank] at h
  have htrim : Text.trim body ≠ "" := by
    rw [← Except.ok.inj h]
    exact trim_truncateTextField (by decide) (by rwa [Text.trim_trim])
  exact ⟨_, normalizeInboxBody_of_ne htrim⟩

/-- A message is posted with a body, whatever the event is. -/
theorem exists_postedBody : ∃ bounded,
    normalizeInboxBody env (evmEventToInboxMessage env event).1 = .ok bounded := by
  have hgiven : ∀ (text fallback : String), Text.trim fallback ≠ "" → ∃ bounded,
      normalizeInboxBody env (((normalizeInboxBody env text).toOption).getD fallback) =
        .ok bounded := by
    intro text fallback hfallback
    cases hbody : normalizeInboxBody env text with
    | ok body => exact normalizeInboxBody_twice hbody
    | error error => exact ⟨_, normalizeInboxBody_of_ne hfallback⟩
  have hmarked {text : String} (hfirst : text.toList.head? = some '[') : Text.trim text ≠ "" :=
    Text.trim_ne_empty (List.mem_of_head? hfirst) rfl
  unfold evmEventToInboxMessage
  split
  · dsimp only
    exact hgiven _ _ (hmarked (by rw [String.toList_ofList]; rfl))
  · dsimp only
    exact hgiven _ _ (hmarked (by rw [String.toList_ofList]; rfl))

theorem decodePatronagePayload_ne_zero {wording : Wording} {payload : String}
    (h : decodePatronagePayload wording payload = .ok amount) : amount ≠ 0 := by
  unfold decodePatronagePayload at h
  obtain ⟨normalized, -, h⟩ := bind_eq_ok.mp h
  obtain ⟨bytes, -, h⟩ := bind_eq_ok.mp h
  obtain ⟨-, h⟩ := ite_error_eq_ok.mp h
  obtain ⟨found, -, h⟩ := bind_eq_ok.mp h
  obtain ⟨hpositive, hfound⟩ := ite_error_eq_ok.mp h
  obtain rfl := Except.ok.inj hfound
  exact hpositive

/-- A patronage that is decoded is positive. -/
theorem patronageOf_ne_zero (h : patronageOf env event = some amount) : amount ≠ 0 := by
  unfold patronageOf at h
  exact decodePatronagePayload_ne_zero (toOption_eq_some.mp h)

end Bodies

section Events

variable {env : IngestEnv} {directory : List FactoryPeer} {event : EvmEvent}
  {answers : StorageAnswers} {store : IngestStore}

namespace IngestStore

theorem any_markers_iff {key : String} :
    (store.markers.any (·.1 = key)) = true ↔ store.IsMarked key := by
  rw [List.any_eq_true]
  constructor
  · rintro ⟨⟨found, directory⟩, hmem, hkey⟩
    exact ⟨directory, (of_decide_eq_true hkey) ▸ hmem⟩
  · rintro ⟨directory, hmem⟩
    exact ⟨_, hmem, decide_eq_true rfl⟩

/-- An event that is marked is skipped. -/
theorem ingestEvent_marked (hmarked : store.IsMarked event.key)
    (hserves : store.Serves env directory event answers) :
    store.ingestEvent env answers directory event = (.ok false, store) := by
  have hread := hserves.marked hmarked
  have hmark : store.tryMarkEvmEventIngested answers directory event.key = (false, store) := by
    rw [tryMarkEvmEventIngested, if_pos ⟨hread, any_markers_iff.mpr hmarked⟩]
  rw [ingestEvent, hmark]
  rfl

/-- A patronage for which the counter has room is added to it. -/
theorem ingestVerifiedPatronage_eq {key : String} {amount current : ℕ} (hpositive : amount ≠ 0)
    (hread : answers.readSnapshot = true) (hwrite : answers.writeSnapshot = true)
    (hcounter : Decimal.parseUnsigned u128Max store.data.lifetimePatronageUsdcRaw = some current)
    (hroom : current + amount ≤ u128Max) :
    store.ingestVerifiedPatronage answers key amount =
      (.ok (), store.applyFor key (.patronage amount)) := by
  have hamount : ¬ u128Max < amount := by omega
  have hsum : ¬ u128Max < current + amount := by omega
  rw [ingestVerifiedPatronage, if_neg hamount, recordVerifiedPatronageUsdc, if_neg hpositive]
  simp only [hread, hwrite, if_true, hcounter, if_neg hsum, applyFor, IngestEffect.on,
    Option.getD_some]

/-- A message whose body is brought into bounds is put under the next number. -/
theorem postInboxMessage_eq {key body bounded sender : String}
    (hbody : normalizeInboxBody env body = .ok bounded) (hread : answers.readSeq = true)
    (hwrite : answers.writeSeq = true) (hupsert : answers.upsertInbox = true) :
    store.postInboxMessage env answers key body sender =
      (.ok (), store.applyFor key (.message bounded sender)) := by
  rw [postInboxMessage, hbody]
  simp only [nextInboxSeq, hread, hwrite, hupsert, if_true, applyFor, IngestEffect.on]

/-- A deal is recorded, if there is one. -/
theorem ingestDeal_eq {key : String} {found : Option CounterpartyDeal}
    (h : found ≠ none → answers.setDeal = .ok () ∧ answers.setStanding = .ok ()) :
    store.ingestDeal answers key found = (.ok true, { store with
      data := replay (found.toList.map .deal) store.data
      applied := store.applied ++ (found.toList.map .deal).map fun effect => (key, effect) }) := by
  cases found with
  | none =>
    simp only [ingestDeal, replay, Option.toList_none, List.map_nil, List.foldl_nil,
      List.append_nil]
  | some deal =>
    obtain ⟨hset, hstanding⟩ := h (by simp)
    simp only [ingestDeal, recordCounterpartyDeal, hset, hstanding, applyFor, replay,
      Option.toList_some, List.map_cons, List.map_nil, List.foldl_cons, List.foldl_nil]
    rfl

theorem effectsOf_patronage {amount : ℕ} (h : patronageOf env event = some amount) :
    effectsOf env directory event = [.patronage amount] := by
  simp only [effectsOf, h]

theorem effectsOf_message {bounded : String} (h : patronageOf env event = none)
    (hbody : normalizeInboxBody env (evmEventToInboxMessage env event).1 = .ok bounded) :
    effectsOf env directory event =
      .message bounded (evmEventToInboxMessage env event).2 ::
        (dealOf env directory event).toList.map .deal := by
  simp only [effectsOf, h, postedMessage, hbody]
  rfl

/-- The effects of an event with a new marker are applied. -/
theorem ingestMarked_eq (hnew : ¬ store.IsMarked event.key)
    (hserves : store.Serves env directory event answers) :
    (store.mark directory event.key).ingestMarked env answers directory event =
      (.ok true, store.ingested env directory event) := by
  cases hpatronage : patronageOf env event with
  | some amount =>
    obtain ⟨hread, hsave, current, hcounter, hroom⟩ := hserves.patronage hnew amount hpatronage
    have happly := @ingestVerifiedPatronage_eq answers (store.mark directory event.key) event.key
      _ _ (patronageOf_ne_zero hpatronage) hread hsave hcounter hroom
    simp only [ingestMarked, hpatronage, happly, ingested, effectsOf_patronage hpatronage]
    rfl
  | none =>
    obtain ⟨hread, hsave, hupsert⟩ := hserves.message hnew hpatronage
    obtain ⟨bounded, hbody⟩ := @exists_postedBody env event
    have hpost := @postInboxMessage_eq env answers (store.mark directory event.key) event.key _ _
      (evmEventToInboxMessage env event).2 hbody hread hsave hupsert
    have hdeal := @ingestDeal_eq answers ((store.mark directory event.key).applyFor event.key
      (.message bounded (evmEventToInboxMessage env event).2)) event.key _
      (hserves.deal hnew hpatronage)
    simp only [ingestMarked, hpatronage, hpost, hdeal, ingested,
      effectsOf_message hpatronage hbody]
    simp only [applyFor, mark, replay, List.foldl_cons, List.map_cons, List.append_assoc,
      List.singleton_append]

/-- An event that is not marked is marked, and its effects are applied. -/
theorem ingestEvent_new (hnew : ¬ store.IsMarked event.key)
    (hserves : store.Serves env directory event answers) :
    store.ingestEvent env answers directory event =
      (.ok true, store.ingested env directory event) := by
  have hmark : store.tryMarkEvmEventIngested answers directory event.key =
      (true, store.mark directory event.key) := by
    rw [tryMarkEvmEventIngested, if_neg, if_pos (hserves.mark hnew)]
    rw [any_markers_iff]
    exact fun h => hnew h.2
  have hfresh : ¬ (!true) = true := by decide
  simp only [ingestEvent, hmark, if_neg hfresh]
  exact ingestMarked_eq hnew hserves

end IngestStore

end Events

section Runs

variable {env : IngestEnv} {stream : EvmEvent → Prop} {start : IngestData}
  {directory : List FactoryPeer} {event : EvmEvent} {answers : StorageAnswers}
  {store : IngestStore}

/-- What is behind the last separator, and what is before it. -/
theorem append_separator_inj {front front' back back' : List Char} (hback : ':' ∉ back)
    (hback' : ':' ∉ back') (h : front ++ ':' :: back = front' ++ ':' :: back') :
    front = front' ∧ back = back' := by
  have htake : ∀ front {back : List Char}, ':' ∉ back →
      (front ++ ':' :: back).rtakeWhile (· ≠ ':') = back := by
    intro front back hback
    have hall : ∀ c ∈ back.reverse, decide (c ≠ ':') = true := by
      intro c hc
      refine decide_eq_true fun heq => hback ?_
      rw [← heq]
      exact List.mem_reverse.mp hc
    rw [List.rtakeWhile, List.reverse_append, List.reverse_cons, List.append_assoc,
      List.takeWhile_append_of_pos hall, List.singleton_append,
      List.takeWhile_cons_of_neg (by decide), List.append_nil, List.reverse_reverse]
  have hsame : back = back' := by rw [← htake front hback, h, htake front' hback']
  subst hsame
  exact ⟨List.append_cancel_right h, rfl⟩

/-- The hash and the place of a log are what its key is made of. -/
theorem EvmEvent.key_injective {other : EvmEvent} (h : event.key = other.key) :
    event.txHash = other.txHash ∧ event.logIndex = other.logIndex := by
  have hdigits : ∀ n : ℕ, ':' ∉ (toString n).toList := by
    intro n hn
    rw [Nat.toString_eq_ofList_toDigits, String.toList_ofList] at hn
    exact absurd (Nat.isDigit_of_mem_toDigits (by omega) (by omega) hn) (by decide)
  have hchars := congrArg String.toList h
  have hshape : ∀ event : EvmEvent, event.key.toList =
      ("evm.ingest:" ++ event.txHash).toList ++ ':' :: (toString event.logIndex).toList := by
    intro event
    rw [EvmEvent.key, evmIngestDedupeKey, String.toList_append, String.toList_append,
      List.append_assoc]
    rfl
  rw [hshape, hshape] at hchars
  obtain ⟨hfront, hback⟩ := append_separator_inj (hdigits _) (hdigits _) hchars
  rw [String.toList_append, String.toList_append] at hfront
  exact ⟨String.toList_inj.mp (List.append_cancel_left hfront),
    Decimal.toString_injective (String.toList_inj.mp hback)⟩

/-- Every event of a stream is exactly ingested, and the data are what the effects have made of the
data at the start. -/
structure IngestStore.Sound (env : IngestEnv) (stream : EvmEvent → Prop) (start : IngestData)
    (store : IngestStore) : Prop where
  exact : ∀ event, stream event → store.Exact env event
  data : store.data = replay (store.applied.map (·.2)) start

theorem IngestStore.sound_fresh : (IngestStore.fresh start).Sound env stream start where
  exact _ _ := .inr ⟨fun ⟨_, hmarked⟩ => List.not_mem_nil hmarked, rfl⟩
  data := rfl

/-- What is applied for an event is found under its key, and under no other. -/
theorem effectsFor_ingested (key : String) :
    (store.ingested env directory event).effectsFor key =
      store.effectsFor key ++ if event.key = key then effectsOf env directory event else [] := by
  rw [IngestStore.effectsFor, IngestStore.ingested, List.filter_append, List.map_append]
  congr 1
  by_cases hkey : event.key = key
  · rw [if_pos hkey, List.filter_eq_self.mpr, List.map_map]
    · exact List.map_id _
    · intro entry hentry
      obtain ⟨effect, -, rfl⟩ := List.mem_map.mp hentry
      exact decide_eq_true hkey
  · rw [if_neg hkey, List.filter_eq_nil_iff.mpr]
    · rfl
    · intro entry hentry
      obtain ⟨effect, -, rfl⟩ := List.mem_map.mp hentry
      simpa using hkey

/-- The events of a stream are told apart by their hashes and their places. -/
def Distinct (stream : EvmEvent → Prop) : Prop :=
  ∀ first second, stream first → stream second →
    first.txHash = second.txHash → first.logIndex = second.logIndex → first = second

theorem replay_append (first second : List IngestEffect) (data : IngestData) :
    replay (first ++ second) data = replay second (replay first data) := List.foldl_append

/-- An event whose calls succeed keeps the storage sound. -/
theorem IngestStore.Sound.ingested (h : store.Sound env stream start) (hstream : Distinct stream)
    (hevent : stream event) (hnew : ¬ store.IsMarked event.key) :
    (store.ingested env directory event).Sound env stream start where
  exact other hother := by
    by_cases hkey : event.key = other.key
    · obtain ⟨hhash, hindex⟩ := EvmEvent.key_injective hkey
      obtain rfl := hstream event other hevent hother hhash hindex
      refine .inl ⟨directory, List.mem_cons_self, ?_⟩
      rcases h.exact event hevent with ⟨found, hmarked, -⟩ | ⟨-, hnone⟩
      · exact absurd ⟨found, hmarked⟩ hnew
      · rw [effectsFor_ingested, if_pos rfl, hnone, List.nil_append]
    · have hmem : ∀ found, (other.key, found) ∈ (store.ingested env directory event).markers ↔
          (other.key, found) ∈ store.markers := by
        intro found
        refine ⟨fun hmarked => ?_, List.mem_cons_of_mem _⟩
        rcases List.mem_cons.mp hmarked with heq | hold
        · exact absurd (congrArg Prod.fst heq).symm hkey
        · exact hold
      have heffects : (store.ingested env directory event).effectsFor other.key =
          store.effectsFor other.key := by
        rw [effectsFor_ingested, if_neg hkey, List.append_nil]
      rcases h.exact other hother with ⟨found, hmarked, hsame⟩ | ⟨hunmarked, hnone⟩
      · exact .inl ⟨found, (hmem found).mpr hmarked, heffects.trans hsame⟩
      · refine .inr ⟨fun ⟨found, hmarked⟩ => hunmarked ⟨found, (hmem found).mp hmarked⟩, ?_⟩
        exact heffects.trans hnone
  data := by
    have hmap : ((effectsOf env directory event).map fun effect => (event.key, effect)).map
        (·.2) = effectsOf env directory event := by
      rw [List.map_map]
      exact List.map_id _
    rw [IngestStore.ingested, List.map_append, hmap, replay_append, ← h.data]

/-- A job whose calls succeed keeps the storage sound, and ends without an error. -/
theorem IngestStore.Sound.ingestEvents {events : List (EvmEvent × StorageAnswers)}
    (h : store.Sound env stream start) (hstream : Distinct stream)
    (hevents : ∀ entry ∈ events, stream entry.1) (hserves : ServesAll env directory events store) :
    ∃ count, (IngestStore.ingestEvents env directory events store).1 = .ok count ∧
      (IngestStore.ingestEvents env directory events store).2.Sound env stream start := by
  induction events generalizing store with
  | nil => exact ⟨0, rfl, h⟩
  | cons entry events ih =>
    obtain ⟨event, answers⟩ := entry
    obtain ⟨hcalls, hrest⟩ := hserves
    have hothers : ∀ entry ∈ events, stream entry.1 :=
      fun entry hentry => hevents entry (List.mem_cons_of_mem _ hentry)
    by_cases hmarked : store.IsMarked event.key
    · have hstep := IngestStore.ingestEvent_marked hmarked hcalls
      rw [hstep] at hrest
      obtain ⟨count, hcount, hsound⟩ := ih h hothers hrest
      refine ⟨count, ?_, ?_⟩
      · simp only [IngestStore.ingestEvents, hstep, hcount]
        rfl
      · simp only [IngestStore.ingestEvents, hstep]
        exact hsound
    · have hstep := IngestStore.ingestEvent_new hmarked hcalls
      rw [hstep] at hrest
      have hevent : stream event := hevents (event, answers) List.mem_cons_self
      obtain ⟨count, hcount, hsound⟩ := ih (h.ingested hstream hevent hmarked) hothers hrest
      refine ⟨count + 1, ?_, ?_⟩
      · simp only [IngestStore.ingestEvents, hstep, hcount]
        rfl
      · simp only [IngestStore.ingestEvents, hstep]
        exact hsound

/-- The storages that jobs over events of a stream leave, when the calls of each succeed. -/
def Ingests (env : IngestEnv) (stream : EvmEvent → Prop) (start : IngestData) :
    IngestStore → Prop :=
  Reachable (· = IngestStore.fresh start) (Restrict (StepOf (IngestJob.apply env)) fun store job =>
    (∀ entry ∈ job.events, stream entry.1) ∧ ServesAll env job.directory job.events store)

/-- In every run of jobs whose calls of the storage succeed an event is marked if and only if all
its effects were applied, each once, and nothing else was applied. -/
theorem ingested_exactly_once (env : IngestEnv) (stream : EvmEvent → Prop) (start : IngestData)
    (hstream : Distinct stream) (store : IngestStore) (hruns : Ingests env stream start store) :
    (∀ event, stream event → store.Exact env event) ∧
      store.data = replay (store.applied.map (·.2)) start := by
  have hsound : store.Sound env stream start := by
    refine hruns.invariant ?_ ?_
    · rintro _ rfl
      exact IngestStore.sound_fresh
    · rintro before job after h ⟨rfl, hevents, hserves⟩
      obtain ⟨-, -, hsound⟩ := h.ingestEvents hstream hevents hserves
      exact hsound
  exact ⟨hsound.exact, hsound.data⟩

end Runs

section Example

private def plainEnv : IngestEnv where
  wording := ⟨fun _ => "Odd number of digits", fun _ => "invalid utf-8"⟩
  target := .wasm32
  keccakHex _ := "0000000000000000"
  eventJson event := event.payload

private def newData : IngestData := ⟨"0", 0, ∅, ∅⟩

/-- A storage that fails nowhere. -/
private def willing : StorageAnswers :=
  ⟨true, true, true, true, true, true, true, .ok (), .ok ()⟩

/-- A patronage of an amount. -/
private def patronageEvent (amountWord : String) : EvmEvent where
  txHash := "0xaa"
  chainId := 8453
  blockNumber := 7
  logIndex := 3
  source := "0x1111111111111111111111111111111111111111"
  payload := "0x" ++ amountWord

private def smallPatronage : EvmEvent :=
  patronageEvent "0000000000000000000000000000000000000000000000000000000000000005"

/-- A patronage of one more than the counter holds. -/
private def largePatronage : EvmEvent :=
  patronageEvent "0000000000000000000000000000000100000000000000000000000000000000"

private theorem patronageOf_small : patronageOf plainEnv smallPatronage = some 5 := by
  have hpayload : smallPatronage.payload = payloadOf [.uint 5] := by decide +kernel
  unfold patronageOf
  rw [hpayload, decodePatronagePayload_payloadOf _ (by norm_num) (by norm_num [u256Max]),
    Except.toOption]

private theorem patronageOf_large : patronageOf plainEnv largePatronage = some (2 ^ 128) := by
  have hpayload : largePatronage.payload = payloadOf [.uint (2 ^ 128)] := by decide +kernel
  unfold patronageOf
  rw [hpayload, decodePatronagePayload_payloadOf _ (by norm_num) (by norm_num [u256Max]),
    Except.toOption]

/-- The small patronage, returned twice. -/
private def smallJob : IngestJob := ⟨[], [(smallPatronage, willing), (smallPatronage, willing)]⟩

private theorem smallJob_serves :
    ServesAll plainEnv [] smallJob.events (IngestStore.fresh newData) := by
  have hnew : ¬ (IngestStore.fresh newData).IsMarked smallPatronage.key :=
    fun ⟨_, hmarked⟩ => List.not_mem_nil hmarked
  have hcounter : Decimal.parseUnsigned u128Max "0" = some 0 := by decide +kernel
  have hfirst : (IngestStore.fresh newData).Serves plainEnv [] smallPatronage willing := by
    refine ⟨fun _ => rfl, fun _ => rfl, fun _ amount hamount => ?_, fun _ hnone => ?_,
      fun _ hnone => ?_⟩
    · obtain rfl := Option.some.inj (patronageOf_small.symm.trans hamount)
      exact ⟨rfl, rfl, 0, hcounter, by norm_num [u128Max]⟩
    · rw [patronageOf_small] at hnone
      cases hnone
    · rw [patronageOf_small] at hnone
      cases hnone
  refine ⟨hfirst, ?_, trivial⟩
  rw [IngestStore.ingestEvent_new hnew hfirst]
  have hmarked : ((IngestStore.fresh newData).ingested plainEnv [] smallPatronage).IsMarked
      smallPatronage.key := ⟨[], List.mem_cons_self⟩
  exact ⟨fun _ => rfl, fun h => absurd hmarked h, fun h => absurd hmarked h,
    fun h => absurd hmarked h, fun h => absurd hmarked h⟩

/-- A small patronage that is returned twice is counted once. -/
theorem ingested_exactly_once_small :
    (∀ event, event = smallPatronage →
      (smallJob.apply plainEnv (IngestStore.fresh newData)).Exact plainEnv event) ∧
      (smallJob.apply plainEnv (IngestStore.fresh newData)).data =
        replay ((smallJob.apply plainEnv (IngestStore.fresh newData)).applied.map (·.2))
          newData := by
  refine ingested_exactly_once plainEnv (· = smallPatronage) newData ?_ _ ?_
  · rintro _ _ rfl rfl - -
    rfl
  · refine .step (a := smallJob) (Reachable.self (IngestStore.fresh newData))
      ⟨rfl, ?_, smallJob_serves⟩
    intro entry hentry
    simp only [smallJob, List.mem_cons, List.not_mem_nil, or_false, or_self] at hentry
    rw [hentry]

/-- A patronage that does not fit into the counter is marked, and fails. -/
private theorem ingestEvent_large {event : EvmEvent} {amount : ℕ}
    (hamount : patronageOf plainEnv event = some amount) (hlarge : u128Max < amount) :
    (IngestStore.fresh newData).ingestEvent plainEnv willing [] event =
      (.error "patronage amount exceeds supported counter range",
        (IngestStore.fresh newData).mark [] event.key) := by
  simp only [IngestStore.ingestEvent, IngestStore.tryMarkEvmEventIngested, IngestStore.fresh,
    willing, List.any_nil, Bool.false_eq_true, and_false, if_false, if_true, Bool.not_true,
    IngestStore.ingestMarked, hamount, IngestStore.ingestVerifiedPatronage, if_pos hlarge]
  rfl

/-- The large patronage, returned once. -/
private def largeJob : IngestJob := ⟨[], [(largePatronage, willing)]⟩

/-- A patronage that does not fit into the counter is marked, although the job ends with an error
and nothing was applied. -/
theorem largePatronage_marked :
    (IngestStore.ingestEvents plainEnv [] largeJob.events (IngestStore.fresh newData)).1 =
        .error "patronage amount exceeds supported counter range" ∧
      (largeJob.apply plainEnv (IngestStore.fresh newData)).IsMarked largePatronage.key ∧
      (largeJob.apply plainEnv (IngestStore.fresh newData)).effectsFor largePatronage.key = [] ∧
      ∀ directory, effectsOf plainEnv directory largePatronage = [.patronage (2 ^ 128)] := by
  have hevent := ingestEvent_large patronageOf_large (by norm_num [u128Max])
  have hjob : IngestStore.ingestEvents plainEnv [] largeJob.events (IngestStore.fresh newData) =
      (.error "patronage amount exceeds supported counter range",
        (IngestStore.fresh newData).mark [] largePatronage.key) := by
    simp only [largeJob, IngestStore.ingestEvents, hevent]
  have happly : largeJob.apply plainEnv (IngestStore.fresh newData) =
      (IngestStore.fresh newData).mark [] largePatronage.key := by
    rw [IngestJob.apply]
    exact congrArg Prod.snd hjob
  rw [happly, hjob]
  exact ⟨rfl, ⟨[], List.mem_cons_self⟩, rfl,
    fun directory => IngestStore.effectsOf_patronage patronageOf_large⟩

end Example

end Automaton.Agent
