import Automaton.Agent.Types
import Automaton.Factory.Room
import Automaton.Library.Window

/-!
# Polling the factory's room

An automaton asks the factory for a page of messages after the last one it has seen, keeps the
greatest of them as observations, and moves its cursor.
-/

namespace Automaton.Agent

open Machine Factory

/-- `MAX_ROOM_OBSERVATIONS`. -/
def maxRoomObservations : ℕ := 10

/-- `MAX_ROOM_OBSERVATION_BODY_CHARS`. -/
def maxRoomObservationBodyChars : ℕ := 1000

/-- `MAX_TIMING_ERROR_CHARS`. -/
def maxTimingErrorChars : ℕ := 512

/-- `ROOM_POLL_INTERVAL_SECS`. -/
def roomPollIntervalSecs : ℕ := defaultTaskIntervalSecs * 5

/-- `ROOM_POLL_PAGE_LIMIT`. -/
def roomPollPageLimit : ℕ := 20

/-- `RoomPollingState`, as far as polls write it. -/
structure RoomPollingState where
  lastSeenSeq : Option ℕ
  lastAttemptedAtNs : Option ℕ
  lastSucceededAtNs : Option ℕ
  lastKnownLatestSeq : Option ℕ
  lastBatchCount : ℕ
  consecutiveFailures : ℕ
  lastError : Option String

/-- The part of `RuntimeSnapshot` that polls of the room read and write. -/
structure RoomSnapshot where
  factoryPrincipal : Option String
  roomPoll : RoomPollingState
  roomObservations : List RoomMessage

/-- The snapshot of a new automaton. -/
def RoomSnapshot.default : RoomSnapshot where
  factoryPrincipal := none
  roomPoll := ⟨none, none, none, none, 0, 0, none⟩
  roomObservations := []

/-- `truncate_text_field`; `keccakHex` is the digest of a text in hexadecimal. -/
def truncateTextField (keccakHex : String → String) (value : String) (maxChars : ℕ) : String :=
  let chars := value.toList
  if chars.length ≤ maxChars then value
  else if maxChars = 0 then ""
  else
    let marker := "...[truncated ".toList ++ (toString (chars.length - maxChars)).toList ++
      " chars keccak:".toList ++ (keccakHex value).toList.take 16 ++ "]".toList
    if maxChars ≤ marker.length then String.ofList (marker.take maxChars)
    else
      let keepChars := maxChars - marker.length
      let prefixChars := keepChars / 2
      let suffixChars := keepChars - prefixChars
      String.ofList (chars.take prefixChars ++ marker ++ chars.drop (chars.length - suffixChars))

section Keccak

variable (keccakHex : String → String)

/-- `bounded_room_observation`. -/
@[simps]
def boundedRoomObservation (message : RoomMessage) : RoomMessage where
  messageId := truncateTextField keccakHex message.messageId 128
  seq := message.seq
  authorCanisterId := truncateTextField keccakHex message.authorCanisterId 128
  createdAt := message.createdAt
  body := truncateTextField keccakHex message.body maxRoomObservationBodyChars
  mentions := (message.mentions.take 16).map (truncateTextField keccakHex · 128)
  contentType := message.contentType

/-- `store_room_observations`. -/
def RoomSnapshot.storeRoomObservations (snapshot : RoomSnapshot) (messages : List RoomMessage) :
    RoomSnapshot :=
  if messages = [] then snapshot
  else
    let observations := (messages.map (boundedRoomObservation keccakHex)).foldl
      (Window.upsert RoomMessage.seq) snapshot.roomObservations
    { snapshot with
      roomObservations := Window.greatest RoomMessage.seq maxRoomObservations observations }

/-- `record_room_poll_success`. -/
def RoomSnapshot.recordRoomPollSuccess (snapshot : RoomSnapshot) (nowNs : ℕ)
    (lastSeenSeq latestSeq : Option ℕ) (batchCount : ℕ) : RoomSnapshot :=
  { snapshot with
    roomPoll := { snapshot.roomPoll with
      lastAttemptedAtNs := some nowNs
      lastSucceededAtNs := some nowNs
      lastKnownLatestSeq := latestSeq
      lastBatchCount := min batchCount u32Max
      lastSeenSeq := lastSeenSeq <|> snapshot.roomPoll.lastSeenSeq
      consecutiveFailures := 0
      lastError := none } }

/-- `record_room_poll_error`. -/
def RoomSnapshot.recordRoomPollError (snapshot : RoomSnapshot) (nowNs : ℕ) (error : String) :
    RoomSnapshot :=
  { snapshot with
    roomPoll := { snapshot.roomPoll with
      lastAttemptedAtNs := some nowNs
      lastBatchCount := 0
      consecutiveFailures := saturatingAdd u32Max snapshot.roomPoll.consecutiveFailures 1
      lastError := some (truncateTextField keccakHex error maxTimingErrorChars) } }

/-- `room_poll_due`. -/
def roomPollDue (nowNs : ℕ) (lastAttemptedAtNs : Option ℕ) : Bool :=
  lastAttemptedAtNs.all fun attemptedNs =>
    saturatingAdd u64Max attemptedNs (nanos roomPollIntervalSecs) ≤ nowNs

/-- The first checks of `maybe_poll_factory_room` on the snapshot it is given. -/
def RoomSnapshot.pollsRoom (snapshot : RoomSnapshot) (nowNs : ℕ) : Bool :=
  snapshot.factoryPrincipal.any (Text.trim · ≠ "") &&
    roomPollDue nowNs snapshot.roomPoll.lastAttemptedAtNs

/-- Where `maybe_poll_factory_room` moves the cursor after a page; `lastSeenSeq` is that of the
snapshot it was given. -/
def roomCursor (lastSeenSeq : Option ℕ) (page : RoomMessagePage) : Option ℕ :=
  if page.nextAfterSeq.isNone then
    page.latestSeq <|> page.messages.getLast?.map (·.seq) <|> lastSeenSeq
  else page.messages.getLast?.map (·.seq) <|> lastSeenSeq

/-- What `maybe_poll_factory_room` does with a page. -/
def RoomSnapshot.receivePage (snapshot : RoomSnapshot) (nowNs : ℕ) (lastSeenSeq : Option ℕ)
    (page : RoomMessagePage) : RoomSnapshot :=
  (snapshot.storeRoomObservations keccakHex page.messages).recordRoomPollSuccess nowNs
    (roomCursor lastSeenSeq page) page.latestSeq page.messages.length

end Keccak

end Automaton.Agent
