import Automaton.Factory.Room
import Automaton.Library.Transition

/-!
# The mirror of the room

The indexer copies the messages of the factory's room page by page. A page is stored together with
the number of the room's last message, from which the next poll goes on; the poll itself goes on
from the last message of the page. The two are the same for the last page only, so a poll that ends
after an earlier page leaves messages behind.
-/

namespace Automaton.Indexer

open Transition Factory

/-- `ROOM_POLL_PAGE_LIMIT`. -/
def roomPollPageLimit : ℕ := 100

/-- `ROOM_RETENTION_MS`. -/
def roomRetentionMs : ℤ := 7 * 24 * 60 * 60 * 1000

/-- The tables `room_messages` and `room_state`. -/
structure RoomMirror where
  rows : BTreeMap ℕ RoomMessage
  latestIngestedSeq : Option ℕ

namespace RoomMirror

/-- `getLatestRoomMessageSeq`. -/
def getLatestRoomMessageSeq (mirror : RoomMirror) : Option ℕ :=
  mirror.latestIngestedSeq <|> mirror.rows.toList.getLast?.map (·.1)

/-- `upsertRoomMessages`: the messages and the cursor change in one transaction. -/
def upsertRoomMessages (mirror : RoomMirror) (messages : List RoomMessage)
    (latestSeq : Option ℕ) : RoomMirror where
  rows := messages.foldl (fun rows message => rows.insert message.seq message) mirror.rows
  latestIngestedSeq :=
    match latestSeq <|> (messages.map (·.seq)).max? with
    | none => mirror.latestIngestedSeq
    | some seq => some (max (mirror.latestIngestedSeq.getD seq) seq)

/-- `pruneRoomMessages`. -/
def pruneRoomMessages (mirror : RoomMirror) (olderThan : ℤ) : RoomMirror :=
  { mirror with rows := mirror.rows.filter fun _ message => ¬ (message.createdAt : ℤ) < olderThan }

end RoomMirror

/-- `selectNewRoomMessages`. -/
def selectNewRoomMessages (messages : List RoomMessage) (afterSeq : Option ℕ) : List RoomMessage :=
  messages.filter fun message => afterSeq.all (· < message.seq)

/-- The number up to which a reader has seen the room after a page. -/
def pageCursor (page : RoomMessagePage) : Option ℕ := page.nextAfterSeq <|> page.latestSeq

/-- A page that the factory answered, with the messages it retained then. -/
structure RoomFetch where
  retained : List RoomMessage
  page : RoomMessagePage

/-- What `pollRoomNow` awaits: a page, the storing of a page, or the pruning after it. -/
inductive RoomPollStage
  | fetching
  | fetched (fetch : RoomFetch)
  | stored (fetch : RoomFetch)

/-- A run of `pollRoomNow`. -/
structure RoomPollRun where
  afterSeq : Option ℕ
  stage : RoomPollStage
  /-- An earlier page of the run was stored. -/
  more : Bool

/-- The room of the factory and the indexer. -/
structure MirrorWorld where
  room : RoomState
  mirror : RoomMirror
  run : Option RoomPollRun
  /-- The messages that were posted. -/
  posted : List RoomMessage
  /-- The messages that were written to `room_messages`. -/
  written : List RoomMessage
  /-- The pages that were stored. -/
  pages : List RoomFetch
  /-- The messages that were broadcast. -/
  broadcast : List RoomMessage
  /-- The messages of a page whose run failed after the page was stored. -/
  failed : List RoomMessage

/-- No message was posted and nothing was stored. -/
def MirrorWorld.fresh : MirrorWorld where
  room := .default
  mirror := ⟨∅, none⟩
  run := none
  posted := []
  written := []
  pages := []
  broadcast := []
  failed := []

/-- What happens at the factory and at the indexer. A run fails when a call of it fails or the
process is restarted. -/
inductive MirrorAct
  | register (registry : BTreeMap String Unit)
  | post (caller : String) (request : PostRoomMessageRequest) (nowMs : ℕ)
  | startPoll
  | answer
  | storePage
  | finishPage (nowMs : ℤ)
  | fail

namespace MirrorWorld

/-- A message is posted, unless the call fails or traps. -/
def post (jsonError : String → Option String) (world : MirrorWorld) (caller : String)
    (request : PostRoomMessageRequest) (nowMs : ℕ) : MirrorWorld :=
  match postRoomMessage jsonError world.room caller request nowMs with
  | some (.ok message, room) => { world with room := room, posted := world.posted ++ [message] }
  | _ => world

/-- `pollRoomNow` reads the cursor, unless another run is in flight. -/
def startPoll (world : MirrorWorld) : MirrorWorld :=
  if world.run.isNone then
    { world with run := some ⟨world.mirror.getLatestRoomMessageSeq, .fetching, false⟩ }
  else world

/-- The factory answers the call for a page. -/
def answer (world : MirrorWorld) : MirrorWorld :=
  match world.run with
  | some ⟨afterSeq, .fetching, more⟩ =>
    (listRoomMessages world.room afterSeq (some roomPollPageLimit)).toOption.elim world fun page =>
      let fetch : RoomFetch := ⟨world.room.messages.toList.map (·.2), page⟩
      { world with run := some ⟨afterSeq, .fetched fetch, more⟩ }
  | _ => world

/-- The page is stored. -/
def storePage (world : MirrorWorld) : MirrorWorld :=
  match world.run with
  | some ⟨afterSeq, .fetched fetch, more⟩ =>
    { world with
      mirror := world.mirror.upsertRoomMessages fetch.page.messages fetch.page.latestSeq
      run := some ⟨afterSeq, .stored fetch, more⟩
      written := world.written ++ fetch.page.messages
      pages := world.pages ++ [fetch] }
  | _ => world

/-- Old messages are pruned, the new ones are broadcast, and the run ends or goes on. -/
def finishPage (world : MirrorWorld) (nowMs : ℤ) : MirrorWorld :=
  match world.run with
  | some ⟨afterSeq, .stored fetch, _⟩ =>
    { world with
      mirror := world.mirror.pruneRoomMessages (nowMs - roomRetentionMs)
      run := fetch.page.nextAfterSeq.map fun seq => ⟨some seq, .fetching, true⟩
      broadcast := world.broadcast ++ selectNewRoomMessages fetch.page.messages afterSeq }
  | _ => world

/-- The run fails. -/
def fail (world : MirrorWorld) : MirrorWorld :=
  match world.run with
  | some ⟨_, .stored fetch, _⟩ =>
    { world with
      run := none
      failed := world.failed ++ fetch.page.messages }
  | _ => { world with run := none }

end MirrorWorld

/-- The world after an act. -/
def MirrorAct.apply (jsonError : String → Option String) : MirrorAct → MirrorWorld → MirrorWorld
  | register registry, world => { world with room := { world.room with registry := registry } }
  | post caller request nowMs, world => world.post jsonError caller request nowMs
  | startPoll, world => world.startPoll
  | answer, world => world.answer
  | storePage, world => world.storePage
  | finishPage nowMs, world => world.finishPage nowMs
  | fail, world => world.fail

/-- A run has stored a page and not yet all that follow it. -/
def RoomPollRun.behind (poll : RoomPollRun) : Bool :=
  match poll.stage with
  | .stored fetch => fetch.page.nextAfterSeq.isSome
  | _ => poll.more

/-- No run fails between its pages. -/
def MirrorWorld.finishesPages (world : MirrorWorld) : MirrorAct → Bool
  | .fail => world.run.all fun poll => !poll.behind
  | _ => true

/-- A message is not above a cursor. -/
def AtMost (cursor : Option ℕ) (message : RoomMessage) : Prop :=
  ∃ seq, cursor = some seq ∧ message.seq ≤ seq

/-- What is retained up to a cursor was written. -/
def Covers (room : RoomState) (written : List RoomMessage) (cursor : Option ℕ) : Prop :=
  ∀ (seq : ℕ) (message : RoomMessage), room.messages[seq]? = some message →
    AtMost cursor message → message ∈ written

/-- The mirror skips nothing. -/
structure MirrorWorld.SkipsNothing (world : MirrorWorld) : Prop where
  /-- The messages up to the cursor of a stored page that were retained when it was fetched were
  written. -/
  pages : ∀ fetch ∈ world.pages, ∀ message ∈ fetch.retained,
    AtMost (pageCursor fetch.page) message → message ∈ world.written
  /-- Unless a run is behind, what is retained up to the stored cursor was written. -/
  cursor : (∀ poll ∈ world.run, poll.behind = false) →
    Covers world.room world.written world.mirror.latestIngestedSeq
  /-- A message that was written was broadcast, or its run failed or is about to broadcast it. -/
  announced : ∀ message ∈ world.written, message ∈ world.broadcast ∨ message ∈ world.failed ∨
    ∃ poll ∈ world.run, ∃ fetch, poll.stage = .stored fetch ∧ message ∈ fetch.page.messages

section Pages

variable {room next : RoomState} {posted written : List RoomMessage} {message : RoomMessage}
  {afterSeq cursor : Option ℕ} {limit : ℕ}

/-- A new message is above every cursor. -/
theorem Covers.store (h : Covers room written cursor) (hinv : RoomInv room posted)
    (hbelow : Below room cursor) (hseq : message.seq = room.nextSeq)
    (hstore : room.store message = some next) : Covers next written cursor := by
  obtain ⟨-, -, hmessages⟩ := store_spec hstore
  intro seq stored hstored hatMost
  rcases hmessages seq stored hstored with hold | ⟨-, rfl⟩
  · exact h seq stored hold hatMost
  · obtain ⟨bound, hbound, hle⟩ := hatMost
    obtain ⟨latest, hlatest, hle'⟩ := hbelow bound hbound
    have hlt := hinv.latestBelow latest hlatest
    omega

/-- What a page of all messages after a cursor says. -/
structure PageSpec (room : RoomState) (afterSeq : Option ℕ) (page : RoomMessagePage) : Prop where
  retained : ∀ message ∈ page.messages, message ∈ room.messages.toList.map (·.2)
  after : ∀ message ∈ page.messages, afterSeq.all (· < message.seq) = true
  complete : ∀ (seq : ℕ) (message : RoomMessage), room.messages[seq]? = some message →
    afterSeq.all (· < seq) = true → AtMost (pageCursor page) message → message ∈ page.messages
  next : ∀ seq, page.nextAfterSeq = some seq → ∃ message ∈ page.messages, message.seq = seq
  latest : page.latestSeq = room.latestSeq

/-- The factory's page keeps to its specification. -/
theorem pageSpec_readRoomPage (h : RoomInv room posted) (hlimit : 0 < limit) :
    PageSpec room afterSeq (readRoomPage room afterSeq limit fun _ => true) := by
  have hsorted : (room.matching afterSeq fun _ => true).Pairwise
      fun first second => first.seq < second.seq := matching_sorted h
  have hmatching {seq : ℕ} {message : RoomMessage}
      (hstored : room.messages[seq]? = some message) (hafter : afterSeq.all (· < seq) = true) :
      message ∈ room.matching afterSeq fun _ => true := mem_matching.mpr ⟨seq, hstored, hafter, rfl⟩
  rw [readRoomPage_eq]
  generalize hlist : (room.matching afterSeq fun _ => true) = matching at *
  refine ⟨?_, ?_, ?_, ?_, rfl⟩
  · intro message hmessage
    have hmem := List.mem_of_mem_take hmessage
    rw [← hlist] at hmem
    obtain ⟨seq, hstored, -⟩ := mem_matching.mp hmem
    exact mem_retained.mpr ⟨seq, hstored⟩
  · intro message hmessage
    have hmem := List.mem_of_mem_take hmessage
    rw [← hlist] at hmem
    obtain ⟨seq, hstored, hafter, -⟩ := mem_matching.mp hmem
    rw [(h.stored seq message hstored).1]
    exact hafter
  · intro seq message hstored hafter ⟨bound, hbound, hle⟩
    have hmem := hmatching hstored hafter
    by_cases hmore : limit < matching.length
    · rw [pageCursor, if_pos hmore] at hbound
      rw [← List.take_append_drop limit matching] at hmem hsorted
      refine (List.mem_append.mp hmem).resolve_right fun hdrop => ?_
      have hlast := (List.pairwise_append.mp hsorted).2.2
      cases hgot : (matching.take limit).getLast? with
      | none =>
        have hlength := congrArg List.length (List.getLast?_eq_none_iff.mp hgot)
        rw [List.length_take, List.length_nil] at hlength
        omega
      | some last =>
        rw [hgot] at hbound
        obtain rfl : last.seq = bound := Option.some.inj hbound
        have hlt := hlast last (List.mem_of_getLast? hgot) message hdrop
        omega
    · rwa [List.take_of_length_le (by omega)]
  · intro seq hseq
    dsimp only at hseq
    split at hseq
    · obtain ⟨last, hlast, rfl⟩ := Option.map_eq_some_iff.mp hseq
      exact ⟨last, List.mem_of_getLast? hlast, rfl⟩
    · cases hseq

/-- What `list_room_messages` answers to the indexer. -/
theorem pageSpec_listRoomMessages {page : RoomMessagePage} (h : RoomInv room posted)
    (hpage : listRoomMessages room afterSeq (some roomPollPageLimit) = .ok page) :
    PageSpec room afterSeq page := by
  have hlimit : normalizeRoomReadLimit (some roomPollPageLimit) = .ok roomPollPageLimit := by
    decide
  rw [listRoomMessages, hlimit] at hpage
  obtain rfl := Except.ok.inj hpage
  exact pageSpec_readRoomPage h (by decide)

/-- The cursor of a page is not above the room's last message. -/
theorem PageSpec.below {page : RoomMessagePage} (h : PageSpec room afterSeq page)
    (hinv : RoomInv room posted) : Below room (pageCursor page) := by
  intro bound hbound
  rw [pageCursor] at hbound
  cases hnext : page.nextAfterSeq with
  | none =>
    rw [hnext, h.latest] at hbound
    exact ⟨bound, hbound, le_rfl⟩
  | some next =>
    rw [hnext] at hbound
    obtain rfl : next = bound := Option.some.inj hbound
    obtain ⟨message, hmessage, rfl⟩ := h.next next hnext
    obtain ⟨seq, hstored⟩ := mem_retained.mp (h.retained message hmessage)
    exact hinv.latest message (hinv.stored seq message hstored).2

/-- A room without a last message is empty. -/
theorem PageSpec.empty {page : RoomMessagePage} (h : PageSpec room afterSeq page)
    (hinv : RoomInv room posted) (hlatest : page.latestSeq = none) : page.messages = [] := by
  rw [List.eq_nil_iff_forall_not_mem]
  intro message hmessage
  obtain ⟨seq, hstored⟩ := mem_retained.mp (h.retained message hmessage)
  obtain ⟨latest, hsome, -⟩ := hinv.latest message (hinv.stored seq message hstored).2
  rw [← h.latest, hlatest] at hsome
  cases hsome

end Pages

/-- What holds of a page that was fetched and not yet stored. -/
structure FetchInv (world : MirrorWorld) (afterSeq : Option ℕ) (fetch : RoomFetch) : Prop where
  after : ∀ message ∈ fetch.page.messages, afterSeq.all (· < message.seq) = true
  complete : ∀ message ∈ fetch.retained, AtMost (pageCursor fetch.page) message →
    message ∈ fetch.page.messages ∨ message ∈ world.written
  retained : Covers world.room fetch.retained (pageCursor fetch.page)
  below : Below world.room (pageCursor fetch.page)
  latest : Below world.room fetch.page.latestSeq
  empty : fetch.page.latestSeq = none → fetch.page.messages = []
  ingested : ∀ seq, world.mirror.latestIngestedSeq = some seq →
    ∃ latest, fetch.page.latestSeq = some latest ∧ seq ≤ latest

/-- What holds of a run. -/
def RunInv (world : MirrorWorld) (poll : RoomPollRun) : Prop :=
  match poll.stage with
  | .fetching => Covers world.room world.written poll.afterSeq ∧ Below world.room poll.afterSeq
  | .fetched fetch => FetchInv world poll.afterSeq fetch
  | .stored fetch =>
    (Covers world.room world.written (pageCursor fetch.page) ∧
      Below world.room (pageCursor fetch.page)) ∧
    ∀ message ∈ fetch.page.messages, poll.afterSeq.all (· < message.seq) = true

/-- The invariant of the mirror. -/
structure MirrorInv (world : MirrorWorld) : Prop extends world.SkipsNothing where
  room : RoomInv world.room world.posted
  rows : world.mirror.latestIngestedSeq = none → world.mirror.rows = ∅
  below : Below world.room world.mirror.latestIngestedSeq
  run : ∀ poll ∈ world.run, RunInv world poll

section Steps

variable {world : MirrorWorld} {jsonError : String → Option String}

/-- The cursor of the store is the column of `room_state`. -/
theorem MirrorInv.getLatest (h : MirrorInv world) :
    world.mirror.getLatestRoomMessageSeq = world.mirror.latestIngestedSeq := by
  rw [RoomMirror.getLatestRoomMessageSeq]
  cases hlatest : world.mirror.latestIngestedSeq with
  | none =>
    rw [h.rows hlatest, BTreeMap.toList_empty]
    rfl
  | some seq => rfl

/-- A new message keeps the invariant. -/
theorem MirrorInv.post {caller : String} {request : PostRoomMessageRequest} {nowMs : ℕ}
    (h : MirrorInv world) : MirrorInv (world.post jsonError caller request nowMs) := by
  unfold MirrorWorld.post
  split
  · rename_i message room hpost
    obtain ⟨hseq, hstore⟩ := postRoomMessage_spec hpost
    refine ⟨⟨h.pages, ?_, h.announced⟩, h.room.store hseq hstore, h.rows,
      h.below.store h.room hseq hstore, ?_⟩
    · intro hbehind
      exact (h.cursor hbehind).store h.room h.below hseq hstore
    · intro poll hpoll
      have hrun := h.run poll hpoll
      obtain ⟨afterSeq, stage, more⟩ := poll
      cases stage with
      | fetching => exact ⟨hrun.1.store h.room hrun.2 hseq hstore, hrun.2.store h.room hseq hstore⟩
      | fetched fetch =>
        exact ⟨hrun.after, hrun.complete, hrun.retained.store h.room hrun.below hseq hstore,
          hrun.below.store h.room hseq hstore, hrun.latest.store h.room hseq hstore, hrun.empty,
          hrun.ingested⟩
      | stored fetch =>
        exact ⟨⟨hrun.1.1.store h.room hrun.1.2 hseq hstore,
          hrun.1.2.store h.room hseq hstore⟩, hrun.2⟩
  · exact h

/-- A run starts from what the store has ingested. -/
theorem MirrorInv.startPoll (h : MirrorInv world) : MirrorInv world.startPoll := by
  unfold MirrorWorld.startPoll
  split
  · rename_i hidle
    rw [Option.isNone_iff_eq_none] at hidle
    have hcovers : Covers world.room world.written world.mirror.latestIngestedSeq :=
      h.cursor (by rw [hidle]; simp)
    refine ⟨⟨h.pages, fun _ => hcovers, ?_⟩, h.room, h.rows, h.below, ?_⟩
    · intro message hmessage
      rcases h.announced message hmessage with hmem | hmem | ⟨poll, hpoll, -⟩
      · exact .inl hmem
      · exact .inr (.inl hmem)
      · rw [hidle] at hpoll
        cases hpoll
    · rintro poll ⟨⟩
      rw [h.getLatest]
      exact ⟨hcovers, h.below⟩
  · exact h

/-- What was written and does not wait for its broadcast stays so when the run goes on. -/
theorem announced_of_fetching {poll : RoomPollRun} (poll' : RoomPollRun) (h : MirrorInv world)
    (hrun : world.run = some poll) (hstored : ∀ fetch, poll.stage ≠ .stored fetch) :
    ∀ message ∈ world.written, message ∈ world.broadcast ∨ message ∈ world.failed ∨
      ∃ poll ∈ some poll', ∃ fetch, poll.stage = .stored fetch ∧
        message ∈ fetch.page.messages := by
  intro message hmessage
  rcases h.announced message hmessage with hmem | hmem | ⟨old, hold, fetch, hfetch, -⟩
  · exact .inl hmem
  · exact .inr (.inl hmem)
  · rw [hrun] at hold
    obtain rfl := Option.some.inj hold
    exact absurd hfetch (hstored fetch)

/-- The page of an answer covers the room up to its cursor. -/
theorem MirrorInv.answer (h : MirrorInv world) : MirrorInv world.answer := by
  unfold MirrorWorld.answer
  split
  · rename_i afterSeq more hrun
    cases hpage : listRoomMessages world.room afterSeq (some roomPollPageLimit) with
    | error error => exact h
    | ok page =>
      have hspec := pageSpec_listRoomMessages h.room hpage
      obtain ⟨hcovers, hbelow⟩ := h.run _ hrun
      let fetch : RoomFetch := ⟨world.room.messages.toList.map (·.2), page⟩
      have hannounced := announced_of_fetching ⟨afterSeq, .fetched fetch, more⟩ h hrun (by simp)
      refine ⟨⟨h.pages, ?_, hannounced⟩, h.room, h.rows, h.below, ?_⟩
      · intro hbehind
        apply h.cursor
        intro poll hpoll
        rw [hrun] at hpoll
        obtain rfl := Option.some.inj hpoll
        exact hbehind ⟨afterSeq, .fetched fetch, more⟩ rfl
      · rintro poll ⟨⟩
        refine ⟨hspec.after, ?_, ?_, hspec.below h.room, ?_, hspec.empty h.room, ?_⟩
        · intro message hmessage hatMost
          obtain ⟨seq, hstored⟩ := mem_retained.mp hmessage
          by_cases hafter : afterSeq.all (· < seq) = true
          · exact .inl (hspec.complete seq message hstored hafter hatMost)
          · right
            refine hcovers seq message hstored ?_
            cases afterSeq with
            | none => exact absurd rfl hafter
            | some bound =>
              refine ⟨bound, rfl, ?_⟩
              rw [(h.room.stored seq message hstored).1]
              simpa using hafter
        · intro seq message hstored _
          exact mem_retained.mpr ⟨seq, hstored⟩
        · intro seq hseq
          rw [hspec.latest] at hseq
          exact ⟨seq, hseq, le_rfl⟩
        · rw [hspec.latest]
          exact h.below
  · exact h

/-- The cursor of the store after a page. -/
theorem latestIngestedSeq_upsert {fetch : RoomFetch} {afterSeq : Option ℕ}
    (h : FetchInv world afterSeq fetch) :
    (world.mirror.upsertRoomMessages fetch.page.messages fetch.page.latestSeq).latestIngestedSeq =
      fetch.page.latestSeq := by
  rw [RoomMirror.upsertRoomMessages]
  cases hlatest : fetch.page.latestSeq with
  | none =>
    rw [h.empty hlatest]
    cases hold : world.mirror.latestIngestedSeq with
    | none => rfl
    | some seq =>
      obtain ⟨latest, hsome, -⟩ := h.ingested seq hold
      rw [hlatest] at hsome
      cases hsome
  | some latest =>
    cases hold : world.mirror.latestIngestedSeq with
    | none => simp
    | some seq =>
      obtain ⟨latest', hsome, hle⟩ := h.ingested seq hold
      rw [hlatest] at hsome
      obtain rfl := Option.some.inj hsome
      simpa using hle

/-- A stored page covers what was retained up to its cursor. -/
theorem MirrorInv.storePage (h : MirrorInv world) : MirrorInv world.storePage := by
  unfold MirrorWorld.storePage
  split
  · rename_i afterSeq fetch more hrun
    have hfetch : FetchInv world afterSeq fetch := h.run _ hrun
    have hcomplete : ∀ message ∈ fetch.retained, AtMost (pageCursor fetch.page) message →
        message ∈ world.written ++ fetch.page.messages := by
      intro message hmessage hatMost
      exact List.mem_append.mpr (hfetch.complete message hmessage hatMost).symm
    have hcovers : Covers world.room (world.written ++ fetch.page.messages)
        (pageCursor fetch.page) := fun seq message hstored hatMost =>
      hcomplete message (hfetch.retained seq message hstored hatMost) hatMost
    have hlatest := latestIngestedSeq_upsert hfetch
    refine ⟨⟨?_, ?_, ?_⟩, h.room, ?_, ?_, ?_⟩
    · intro page hpage message hmessage hatMost
      rcases List.mem_append.mp hpage with hpage | hpage
      · exact List.mem_append_left _ (h.pages page hpage message hmessage hatMost)
      · obtain rfl := List.mem_singleton.mp hpage
        exact hcomplete message hmessage hatMost
    · intro hbehind
      have hnext : fetch.page.nextAfterSeq = none := by
        simpa [RoomPollRun.behind] using hbehind _ rfl
      have hcursor : pageCursor fetch.page = fetch.page.latestSeq := by
        rw [pageCursor, hnext]
        rfl
      rw [hlatest, ← hcursor]
      exact hcovers
    · intro message hmessage
      rcases List.mem_append.mp hmessage with hmessage | hmessage
      · exact announced_of_fetching _ h hrun (by simp) message hmessage
      · exact .inr (.inr ⟨_, rfl, fetch, rfl, hmessage⟩)
    · intro hnone
      rw [hlatest] at hnone
      have hold : world.mirror.latestIngestedSeq = none := by
        cases hold : world.mirror.latestIngestedSeq with
        | none => rfl
        | some seq =>
          obtain ⟨latest, hsome, -⟩ := hfetch.ingested seq hold
          rw [hnone] at hsome
          cases hsome
      rw [RoomMirror.upsertRoomMessages, hfetch.empty hnone]
      exact h.rows hold
    · rw [hlatest]
      exact hfetch.latest
    · rintro poll ⟨⟩
      exact ⟨⟨hcovers, hfetch.below⟩, hfetch.after⟩
  · exact h

/-- Pruning leaves the cursor of the store as it is. -/
theorem prune_rows {mirror : RoomMirror} {olderThan : ℤ}
    (h : mirror.latestIngestedSeq = none → mirror.rows = ∅) :
    (mirror.pruneRoomMessages olderThan).latestIngestedSeq = none →
      (mirror.pruneRoomMessages olderThan).rows = ∅ := by
  intro hnone
  rw [RoomMirror.pruneRoomMessages, h hnone]
  simp [Std.ExtTreeMap.filter_eq_empty_iff]

/-- A page that was stored is broadcast. -/
theorem MirrorInv.finishPage {nowMs : ℤ} (h : MirrorInv world) :
    MirrorInv (world.finishPage nowMs) := by
  unfold MirrorWorld.finishPage
  split
  · rename_i afterSeq fetch more hrun
    obtain ⟨⟨hcovers, hbelow⟩, hafter⟩ := h.run _ hrun
    refine ⟨⟨h.pages, ?_, ?_⟩, h.room, prune_rows h.rows, h.below, ?_⟩
    · intro hbehind
      apply h.cursor
      intro poll hpoll
      rw [hrun] at hpoll
      obtain rfl := Option.some.inj hpoll
      show fetch.page.nextAfterSeq.isSome = false
      cases hnext : fetch.page.nextAfterSeq with
      | none => rfl
      | some seq =>
        have hmore := hbehind ⟨some seq, .fetching, true⟩ (by rw [hnext]; rfl)
        cases hmore
    · intro message hmessage
      rcases h.announced message hmessage with hmem | hmem | ⟨poll, hpoll, stored, hstage, hmem⟩
      · exact .inl (List.mem_append_left _ hmem)
      · exact .inr (.inl hmem)
      · rw [hrun] at hpoll
        obtain rfl := Option.some.inj hpoll
        obtain rfl := RoomPollStage.stored.inj hstage
        left
        apply List.mem_append_right
        exact List.mem_filter.mpr ⟨hmem, hafter message hmem⟩
    · intro poll hpoll
      obtain ⟨seq, hnext, rfl⟩ := Option.map_eq_some_iff.mp hpoll
      have hcursor : pageCursor fetch.page = some seq := by
        rw [pageCursor, hnext]
        rfl
      rw [hcursor] at hcovers hbelow
      exact ⟨hcovers, hbelow⟩
  · exact h

/-- A run that is not behind can fail. -/
theorem MirrorInv.fail (h : MirrorInv world) (hfinishes : world.finishesPages .fail = true) :
    MirrorInv world.fail := by
  have hbehind : ∀ poll ∈ world.run, poll.behind = false := by
    intro poll hpoll
    have hall := hfinishes
    rw [MirrorWorld.finishesPages, hpoll] at hall
    simpa using hall
  unfold MirrorWorld.fail
  split
  · rename_i afterSeq fetch more hrun
    refine ⟨⟨h.pages, fun _ => h.cursor hbehind, ?_⟩, h.room, h.rows, h.below, by simp⟩
    intro message hmessage
    rcases h.announced message hmessage with hmem | hmem | ⟨poll, hpoll, stored, hstage, hmem⟩
    · exact .inl hmem
    · exact .inr (.inl (List.mem_append_left _ hmem))
    · rw [hrun] at hpoll
      obtain rfl := Option.some.inj hpoll
      obtain rfl := RoomPollStage.stored.inj hstage
      exact .inr (.inl (List.mem_append_right _ hmem))
  · rename_i hstored
    refine ⟨⟨h.pages, fun _ => h.cursor hbehind, ?_⟩, h.room, h.rows, h.below, by simp⟩
    intro message hmessage
    rcases h.announced message hmessage with hmem | hmem | ⟨poll, hpoll, fetch, hstage, -⟩
    · exact .inl hmem
    · exact .inr (.inl hmem)
    · obtain ⟨afterSeq, stage, more⟩ := poll
      subst hstage
      exact absurd hpoll (hstored afterSeq fetch more)

/-- Every act keeps the invariant, when no run fails between its pages. -/
theorem MirrorInv.apply {act : MirrorAct} (h : MirrorInv world)
    (hfinishes : world.finishesPages act = true) : MirrorInv (act.apply jsonError world) := by
  cases act with
  | register registry =>
    refine ⟨⟨h.pages, h.cursor, h.announced⟩,
      ⟨h.room.stored, h.room.unique, h.room.below, h.room.latest, h.room.latestBelow⟩, h.rows,
      h.below, ?_⟩
    rintro ⟨afterSeq, stage, more⟩ hpoll
    have hrun := h.run _ hpoll
    cases stage with
    | fetching => exact hrun
    | fetched fetch =>
      exact ⟨hrun.after, hrun.complete, hrun.retained, hrun.below, hrun.latest, hrun.empty,
        hrun.ingested⟩
    | stored fetch => exact hrun
  | post caller request nowMs => exact h.post
  | startPoll => exact h.startPoll
  | answer => exact h.answer
  | storePage => exact h.storePage
  | finishPage nowMs => exact h.finishPage
  | fail => exact h.fail hfinishes

/-- The invariant holds at first. -/
theorem MirrorInv.fresh : MirrorInv .fresh := by
  refine ⟨⟨by simp [MirrorWorld.fresh], ?_, by simp [MirrorWorld.fresh]⟩,
    ⟨?_, by simp [MirrorWorld.fresh], by simp [MirrorWorld.fresh], by simp [MirrorWorld.fresh], ?_⟩,
    fun _ => rfl, ?_, by simp [MirrorWorld.fresh]⟩
  · intro _ seq message hstored
    simp [MirrorWorld.fresh, RoomState.default] at hstored
  · intro seq message hstored
    simp [MirrorWorld.fresh, RoomState.default] at hstored
  · intro seq hseq
    cases hseq
  · intro seq hseq
    cases hseq

end Steps

/-- The mirror skips nothing in every run of posts and polls in which no poll fails between its
pages. -/
theorem mirror_skips_nothing {jsonError : String → Option String} {acts : List MirrorAct}
    (h : meets (MirrorAct.apply jsonError) (fun world => world.finishesPages) acts .fresh = true) :
    (run (MirrorAct.apply jsonError) acts .fresh).SkipsNothing := by
  have hreach : Reachable (· = MirrorWorld.fresh) _ _ := Reachable.run_restrict (.start rfl) h
  apply MirrorInv.toSkipsNothing
  apply hreach.invariant
  · rintro world rfl
    exact .fresh
  · rintro world act next hinv ⟨rfl, hfinishes⟩
    exact hinv.apply hfinishes

section Example

/-- An automaton is registered and posts a number of messages. -/
def examplePosts (count : ℕ) : List MirrorAct :=
  .register ((∅ : BTreeMap String Unit).insert "aaaaa-aa" ()) ::
    List.replicate count (.post "aaaaa-aa" ⟨"hello", none, none⟩ 1700000000000)

/-- The indexer stores a page. -/
def examplePage : List MirrorAct := [.answer, .storePage, .finishPage 1700000001000]

/-- A poll that fails at its first page, and one that ends. -/
def finishedPoll : List MirrorAct :=
  examplePosts 2 ++ [.startPoll, .fail, .startPoll] ++ examplePage

/-- A poll that fails after the first of two pages, and one that ends. -/
def interruptedPoll : List MirrorAct :=
  examplePosts 101 ++ [.startPoll] ++ examplePage ++ [.fail, .startPoll] ++ examplePage

/-- A poll that fails at its first page is made up for by the next one. -/
theorem finishedPoll_skips_nothing :
    (run (MirrorAct.apply fun _ => none) finishedPoll .fresh).SkipsNothing :=
  mirror_skips_nothing (by decide +kernel)

/-- A message of the second page is skipped when the poll fails after the first one. -/
theorem interruptedPoll_skips :
    ¬ (run (MirrorAct.apply fun _ => none) interruptedPoll .fresh).SkipsNothing := by
  intro h
  have hidle : (run (MirrorAct.apply fun _ => none) interruptedPoll .fresh).run.isNone = true := by
    decide +kernel
  have hskipped : ((run (MirrorAct.apply fun _ => none) interruptedPoll
      .fresh).room.messages[100]?.any fun message =>
        !(run (MirrorAct.apply fun _ => none) interruptedPoll .fresh).written.contains message &&
          (run (MirrorAct.apply fun _ => none) interruptedPoll
            .fresh).mirror.latestIngestedSeq.any (message.seq ≤ ·)) = true := by
    decide +kernel
  obtain ⟨message, hstored, hmessage⟩ := (Option.any_eq_true _ _).mp hskipped
  rw [Bool.and_eq_true] at hmessage
  obtain ⟨hwritten, hatMost⟩ := hmessage
  obtain ⟨seq, hseq, hle⟩ := (Option.any_eq_true _ _).mp hatMost
  have hmem := h.cursor (by rw [Option.isNone_iff_eq_none.mp hidle]; simp) 100 message hstored
    ⟨seq, hseq, of_decide_eq_true hle⟩
  rw [← List.contains_iff_mem] at hmem
  rw [hmem] at hwritten
  cases hwritten

end Example

end Automaton.Indexer
