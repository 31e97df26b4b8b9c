import Automaton.Library.BTreeMap
import Automaton.Library.Machine
import Automaton.Library.Text

/-!
# The room of the factory

Automatons post messages to the factory's room, which retains the last ones. A page of the room has
the messages after a sequence number that a reader may see, and names the number to go on from when
there are more of them.
-/

namespace Automaton.Factory

open Machine

/-- `MAX_ROOM_MESSAGES_RETAINED`. -/
def maxRoomMessagesRetained : ℕ := 500

/-- `MAX_ROOM_BODY_BYTES`. -/
def maxRoomBodyBytes : ℕ := 2048

/-- `MAX_ROOM_MENTIONS`. -/
def maxRoomMentions : ℕ := 16

/-- `DEFAULT_ROOM_READ_LIMIT`. -/
def defaultRoomReadLimit : ℕ := 50

/-- `MAX_ROOM_READ_LIMIT`. -/
def maxRoomReadLimit : ℕ := 100

/-- `RoomContentType`. -/
inductive RoomContentType
  | textPlain
  | applicationJson
  deriving DecidableEq, Repr

/-- `RoomMessage`. -/
structure RoomMessage where
  messageId : String
  seq : ℕ
  authorCanisterId : String
  createdAt : ℕ
  body : String
  mentions : List String
  contentType : RoomContentType
  deriving DecidableEq, Repr

/-- `RoomMessagePage`. -/
structure RoomMessagePage where
  messages : List RoomMessage
  nextAfterSeq : Option ℕ
  latestSeq : Option ℕ

/-- `PostRoomMessageRequest`. -/
structure PostRoomMessageRequest where
  body : String
  mentions : Option (List String)
  contentType : Option RoomContentType

/-- The variants of `FactoryError` that the functions of the room return. -/
inductive RoomError
  | unauthorizedRoomPoster (caller : String)
  | emptyRoomMessageBody
  | roomMessageBodyTooLarge (providedBytes maxBytes : ℕ)
  | tooManyRoomMentions (provided maxMentions : ℕ)
  | invalidRoomMessageJson (message : String)
  | invalidPaginationLimit (limit : ℕ)
  deriving DecidableEq, Repr

/-- The part of the factory's state that the room reads and writes: which automatons are
registered, the messages by their numbers, and `RoomState`. -/
structure RoomState where
  registry : BTreeMap String Unit
  messages : BTreeMap ℕ RoomMessage
  nextSeq : ℕ
  oldestSeq : Option ℕ
  latestSeq : Option ℕ

/-- The room of a new factory. -/
def RoomState.default : RoomState where
  registry := ∅
  messages := ∅
  nextSeq := 0
  oldestSeq := none
  latestSeq := none

/-- `normalize_room_read_limit`. -/
def normalizeRoomReadLimit (limit : Option ℕ) : Except RoomError ℕ :=
  let limit := limit.getD defaultRoomReadLimit
  if limit = 0 ∨ maxRoomReadLimit < limit then .error (.invalidPaginationLimit limit)
  else .ok limit

/-- `normalize_room_mentions`. -/
def normalizeRoomMentions (mentions : Option (List String)) : Except RoomError (List String) :=
  let normalized := (mentions.getD []).eraseDups
  if maxRoomMentions < normalized.length then
    .error (.tooManyRoomMentions normalized.length maxRoomMentions)
  else .ok normalized

/-- `normalize_room_body`. -/
def normalizeRoomBody (body : String) : Except RoomError String :=
  let trimmed := Text.trim body
  if trimmed = "" then .error .emptyRoomMessageBody
  else if maxRoomBodyBytes < trimmed.utf8ByteSize then
    .error (.roomMessageBodyTooLarge trimmed.utf8ByteSize maxRoomBodyBytes)
  else .ok trimmed

/-- `validate_room_body`; `jsonError` is what the JSON parser says about a text. -/
def validateRoomBody (jsonError : String → Option String) (contentType : RoomContentType)
    (body : String) : Except RoomError Unit :=
  if contentType = .applicationJson then
    (jsonError body).elim (.ok ()) fun message => .error (.invalidRoomMessageJson message)
  else .ok ()

/-- `room_message_id`. -/
def roomMessageId (seq : ℕ) : String := "room-message-" ++ toString seq

/-- `room_message_matches_target`. -/
def roomMessageMatchesTarget (message : RoomMessage) (targetCanisterId : String) : Bool :=
  message.mentions.isEmpty || message.mentions.any (· = targetCanisterId)

/-- The loop of `read_room_page` over the messages after the cursor. -/
def readRoomMessages (limit : ℕ) (predicate : RoomMessage → Bool) :
    List RoomMessage → List RoomMessage → List RoomMessage × Option ℕ
  | [], messages => (messages, none)
  | message :: rest, messages =>
    if !predicate message then readRoomMessages limit predicate rest messages
    else if messages.length = limit then (messages, messages.getLast?.map (·.seq))
    else readRoomMessages limit predicate rest (messages ++ [message])

/-- The messages after a cursor, in order. -/
def RoomState.after (state : RoomState) (afterSeq : Option ℕ) : List RoomMessage :=
  (state.messages.toList.filter fun entry => afterSeq.all (· < entry.1)).map (·.2)

/-- `read_room_page`. -/
def readRoomPage (state : RoomState) (afterSeq : Option ℕ) (limit : ℕ)
    (predicate : RoomMessage → Bool) : RoomMessagePage :=
  let (messages, nextAfterSeq) := readRoomMessages limit predicate (state.after afterSeq) []
  ⟨messages, nextAfterSeq, state.latestSeq⟩

/-- `list_messages_for_automaton`. -/
def listMessagesForAutomaton (state : RoomState) (canisterId : String) (afterSeq : Option ℕ)
    (limit : Option ℕ) : Except RoomError RoomMessagePage :=
  (normalizeRoomReadLimit limit).map fun limit =>
    readRoomPage state afterSeq limit (roomMessageMatchesTarget · canisterId)

/-- `list_room_messages`. -/
def listRoomMessages (state : RoomState) (afterSeq : Option ℕ) (limit : Option ℕ) :
    Except RoomError RoomMessagePage :=
  (normalizeRoomReadLimit limit).map fun limit => readRoomPage state afterSeq limit fun _ => true

/-- The message that `post_room_message` stores. -/
@[simps]
def newRoomMessage (state : RoomState) (caller body : String) (mentions : List String)
    (contentType : RoomContentType) (nowMs : ℕ) : RoomMessage where
  messageId := roomMessageId state.nextSeq
  seq := state.nextSeq
  authorCanisterId := caller
  createdAt := nowMs
  body := body
  mentions := mentions
  contentType := contentType

/-- The oldest message goes when too many are retained; without a value when none is named. -/
def RoomState.evict (state : RoomState) : Option RoomState :=
  if maxRoomMessagesRetained < state.messages.size then
    state.oldestSeq.map fun oldestSeq =>
      let messages := state.messages.erase oldestSeq
      { state with messages := messages, oldestSeq := messages.toList.head?.map (·.1) }
  else some state

/-- A message is stored under the next number; without a value when the numbers have run out. -/
def RoomState.store (state : RoomState) (message : RoomMessage) : Option RoomState :=
  (checkedAdd u64Max state.nextSeq 1).bind fun nextSeq =>
    RoomState.evict { state with
      messages := state.messages.insert message.seq message
      nextSeq := nextSeq
      latestSeq := some message.seq
      oldestSeq := state.oldestSeq <|> some message.seq }

/-- The checks of `post_room_message` on a request: its body, mentions and content type. -/
def checkRoomMessage (jsonError : String → Option String) (request : PostRoomMessageRequest) :
    Except RoomError (String × List String × RoomContentType) :=
  (normalizeRoomBody request.body).bind fun body =>
    (normalizeRoomMentions request.mentions).bind fun mentions =>
      let contentType := request.contentType.getD .textPlain
      (validateRoomBody jsonError contentType body).map fun () => (body, mentions, contentType)

/-- `post_room_message`; without a value where it traps. -/
def postRoomMessage (jsonError : String → Option String) (state : RoomState) (caller : String)
    (request : PostRoomMessageRequest) (nowMs : ℕ) :
    Option (Except RoomError RoomMessage × RoomState) :=
  match checkRoomMessage jsonError request with
  | .error error => some (.error error, state)
  | .ok (body, mentions, contentType) =>
    if state.registry.contains caller then
      let message := newRoomMessage state caller body mentions contentType nowMs
      (state.store message).map fun state => (.ok message, state)
    else some (.error (.unauthorizedRoomPoster caller), state)

section Pages

variable {limit : ℕ} {predicate : RoomMessage → Bool} {state : RoomState}

/-- The loop collects messages that may be seen until there is one more than the limit. -/
theorem readRoomMessages_eq {rest messages : List RoomMessage} (h : messages.length ≤ limit) :
    readRoomMessages limit predicate rest messages =
      ((messages ++ rest.filter predicate).take limit,
        if limit < (messages ++ rest.filter predicate).length then
          ((messages ++ rest.filter predicate).take limit).getLast?.map (·.seq)
        else none) := by
  induction rest generalizing messages with
  | nil =>
    rw [readRoomMessages, List.filter_nil, List.append_nil, List.take_of_length_le h,
      if_neg (by omega)]
  | cons message rest ih =>
    rw [readRoomMessages]
    by_cases hsees : predicate message = true
    · rw [List.filter_cons_of_pos hsees, hsees]
      by_cases hfull : messages.length = limit
      · have htake : (messages ++ message :: rest.filter predicate).take limit = messages := by
          rw [← hfull, List.take_left]
        have hmore : limit < (messages ++ message :: rest.filter predicate).length := by
          rw [List.length_append, List.length_cons]
          omega
        rw [htake, if_pos hmore]
        simp [hfull]
      · have hroom : (messages ++ [message]).length ≤ limit := by
          rw [List.length_append, List.length_singleton]
          omega
        rw [Bool.not_true, if_neg Bool.false_ne_true, if_neg hfull, ih hroom,
          List.append_assoc, List.singleton_append]
    · have hhidden : predicate message = false := by simpa using hsees
      rw [List.filter_cons_of_neg hsees, hhidden, Bool.not_false, if_pos rfl, ih h]

/-- The messages after a cursor that may be seen. -/
def RoomState.matching (state : RoomState) (afterSeq : Option ℕ)
    (predicate : RoomMessage → Bool) : List RoomMessage := (state.after afterSeq).filter predicate

/-- A page has the first messages that may be seen, and a next number when there are more. -/
theorem readRoomPage_eq {afterSeq : Option ℕ} :
    readRoomPage state afterSeq limit predicate =
      ⟨(state.matching afterSeq predicate).take limit,
        if limit < (state.matching afterSeq predicate).length then
          ((state.matching afterSeq predicate).take limit).getLast?.map (·.seq)
        else none,
        state.latestSeq⟩ := by
  unfold readRoomPage RoomState.matching
  rw [readRoomMessages_eq (Nat.zero_le limit), List.nil_append]

end Pages

/-- Every posted message has its own number, below the next one, and not above the last one. -/
structure RoomInv (room : RoomState) (posted : List RoomMessage) : Prop where
  stored : ∀ (seq : ℕ) (message : RoomMessage), room.messages[seq]? = some message →
    message.seq = seq ∧ message ∈ posted
  unique : ∀ first ∈ posted, ∀ second ∈ posted, first.seq = second.seq → first = second
  below : ∀ message ∈ posted, message.seq < room.nextSeq
  latest : ∀ message ∈ posted, ∃ seq, room.latestSeq = some seq ∧ message.seq ≤ seq
  latestBelow : ∀ seq, room.latestSeq = some seq → seq < room.nextSeq

/-- A cursor is not above the room's last message. -/
def Below (room : RoomState) (cursor : Option ℕ) : Prop :=
  ∀ seq, cursor = some seq → ∃ latest, room.latestSeq = some latest ∧ seq ≤ latest

section Room

variable {room next : RoomState} {posted : List RoomMessage} {message : RoomMessage}
  {jsonError : String → Option String} {caller : String} {request : PostRoomMessageRequest}
  {nowMs : ℕ}

/-- Storing a message adds it, and may drop an old one. -/
theorem store_spec (h : room.store message = some next) :
    next.nextSeq = room.nextSeq + 1 ∧ next.latestSeq = some message.seq ∧
      ∀ (seq : ℕ) (stored : RoomMessage), next.messages[seq]? = some stored →
        room.messages[seq]? = some stored ∨ seq = message.seq ∧ stored = message := by
  have hinsert {seq : ℕ} {stored : RoomMessage}
      (hstored : (room.messages.insert message.seq message)[seq]? = some stored) :
      room.messages[seq]? = some stored ∨ seq = message.seq ∧ stored = message := by
    rw [BTreeMap.get?_insert] at hstored
    split at hstored
    · rename_i hseq
      exact .inr ⟨hseq.symm, (Option.some.inj hstored).symm⟩
    · exact .inl hstored
  unfold RoomState.store at h
  obtain ⟨nextSeq, hnext, hevict⟩ := Option.bind_eq_some_iff.mp h
  obtain ⟨-, rfl⟩ := Machine.checkedAdd_eq_some.mp hnext
  unfold RoomState.evict at hevict
  split at hevict
  · obtain ⟨oldestSeq, -, rfl⟩ := Option.map_eq_some_iff.mp hevict
    refine ⟨rfl, rfl, ?_⟩
    intro seq stored hstored
    dsimp only at hstored
    rw [BTreeMap.get?_erase] at hstored
    split at hstored
    · cases hstored
    · exact hinsert hstored
  · obtain rfl := Option.some.inj hevict
    exact ⟨rfl, rfl, fun seq stored hstored => hinsert hstored⟩

/-- A message that is posted has the next number. -/
theorem postRoomMessage_spec
    (h : postRoomMessage jsonError room caller request nowMs = some (.ok message, next)) :
    message.seq = room.nextSeq ∧ room.store message = some next := by
  unfold postRoomMessage at h
  split at h
  · cases h
  · dsimp only at h
    split at h
    · obtain ⟨state, hstore, heq⟩ := Option.map_eq_some_iff.mp h
      obtain ⟨hmessage, rfl⟩ := Prod.mk.inj heq
      obtain rfl := Except.ok.inj hmessage
      exact ⟨rfl, hstore⟩
    · cases h

/-- The next message keeps the invariant. -/
theorem RoomInv.store (h : RoomInv room posted) (hseq : message.seq = room.nextSeq)
    (hstore : room.store message = some next) : RoomInv next (posted ++ [message]) := by
  obtain ⟨hnext, hlatest, hmessages⟩ := store_spec hstore
  constructor
  · intro seq stored hstored
    rcases hmessages seq stored hstored with hold | ⟨rfl, rfl⟩
    · exact ⟨(h.stored seq stored hold).1, List.mem_append_left _ (h.stored seq stored hold).2⟩
    · exact ⟨rfl, by simp⟩
  · intro first hfirst second hsecond hsame
    rcases List.mem_append.mp hfirst with hfirst | hfirst
    · rcases List.mem_append.mp hsecond with hsecond | hsecond
      · exact h.unique first hfirst second hsecond hsame
      · have hlt := h.below first hfirst
        rw [List.mem_singleton.mp hsecond] at hsame
        omega
    · rcases List.mem_append.mp hsecond with hsecond | hsecond
      · have hlt := h.below second hsecond
        rw [List.mem_singleton.mp hfirst] at hsame
        omega
      · rw [List.mem_singleton.mp hfirst, List.mem_singleton.mp hsecond]
  · intro stored hstored
    rcases List.mem_append.mp hstored with hstored | hstored
    · have hlt := h.below stored hstored
      omega
    · rw [List.mem_singleton.mp hstored]
      omega
  · intro stored hstored
    refine ⟨message.seq, hlatest, ?_⟩
    rcases List.mem_append.mp hstored with hstored | hstored
    · have hlt := h.below stored hstored
      omega
    · rw [List.mem_singleton.mp hstored]
  · intro seq hseq'
    rw [hlatest] at hseq'
    obtain rfl := Option.some.inj hseq'
    omega

/-- A cursor stays below the room's last message. -/
theorem Below.store {cursor : Option ℕ} (h : Below room cursor) (hinv : RoomInv room posted)
    (hseq : message.seq = room.nextSeq) (hstore : room.store message = some next) :
    Below next cursor := by
  obtain ⟨-, hlatest, -⟩ := store_spec hstore
  intro bound hbound
  obtain ⟨latest, hold, hle⟩ := h bound hbound
  have hlt := hinv.latestBelow latest hold
  exact ⟨message.seq, hlatest, by omega⟩

end Room

section Retained

variable {room : RoomState} {posted : List RoomMessage} {afterSeq : Option ℕ}
  {predicate : RoomMessage → Bool}

/-- The messages that a reader may see are those retained after the cursor. -/
theorem mem_matching {message : RoomMessage} : message ∈ room.matching afterSeq predicate ↔
    ∃ seq : ℕ, room.messages[seq]? = some message ∧ afterSeq.all (· < seq) = true ∧
      predicate message = true := by
  unfold RoomState.matching RoomState.after
  rw [List.mem_filter, List.mem_map]
  constructor
  · rintro ⟨⟨entry, hentry, rfl⟩, hsees⟩
    obtain ⟨hmem, hafter⟩ := List.mem_filter.mp hentry
    exact ⟨entry.1, Std.ExtTreeMap.mem_toList_iff_getElem?_eq_some.mp hmem, hafter, hsees⟩
  · rintro ⟨seq, hstored, hafter, hsees⟩
    refine ⟨⟨(seq, message), List.mem_filter.mpr ⟨?_, hafter⟩, rfl⟩, hsees⟩
    exact Std.ExtTreeMap.mem_toList_iff_getElem?_eq_some.mpr hstored

/-- The messages that a reader may see come in the order of their numbers. -/
theorem matching_sorted (h : RoomInv room posted) :
    (room.matching afterSeq predicate).Pairwise fun first second => first.seq < second.seq := by
  unfold RoomState.matching RoomState.after
  refine List.Pairwise.filter _ (List.pairwise_map.mpr (List.Pairwise.filter _ ?_))
  refine Std.ExtTreeMap.ordered_keys_toList.imp_of_mem ?_
  intro first second hfirst hsecond hlt
  have hstored := Std.ExtTreeMap.mem_toList_iff_getElem?_eq_some.mp hfirst
  have hstored' := Std.ExtTreeMap.mem_toList_iff_getElem?_eq_some.mp hsecond
  rw [(h.stored _ _ hstored).1, (h.stored _ _ hstored').1]
  exact compare_lt_iff_lt.mp hlt

/-- The retained messages. -/
theorem mem_retained {message : RoomMessage} : message ∈ room.messages.toList.map (·.2) ↔
    ∃ seq : ℕ, room.messages[seq]? = some message := by
  rw [List.mem_map]
  constructor
  · rintro ⟨entry, hentry, rfl⟩
    exact ⟨entry.1, Std.ExtTreeMap.mem_toList_iff_getElem?_eq_some.mp hentry⟩
  · rintro ⟨seq, hstored⟩
    exact ⟨(seq, message), Std.ExtTreeMap.mem_toList_iff_getElem?_eq_some.mpr hstored, rfl⟩

end Retained

end Automaton.Factory
