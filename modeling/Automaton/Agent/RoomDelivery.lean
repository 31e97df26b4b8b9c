import Automaton.Agent.RoomPoll
import Automaton.Library.Transition

/-!
# Room messages reach every automaton

A poll of an automaton is three steps, between which the factory takes messages and other polls
run: the automaton takes a snapshot, the factory answers, and the answer arrives or is lost. What the
cursor has passed was delivered, because a message below it was either in the page or below an
earlier cursor.
-/

namespace Automaton.Agent

open Transition Factory

/-- The answer of the factory to a poll, with the messages it retained then. -/
structure RoomAnswer where
  retained : List RoomMessage
  page : RoomMessagePage

/-- A poll that has not ended. -/
structure RoomPolling where
  nowNs : ℕ
  lastSeenSeq : Option ℕ
  answer : Option RoomAnswer

/-- A poll that has moved the cursor, with the messages that were retained when the factory
answered it. -/
structure RoomPolled where
  retained : List RoomMessage
  lastSeenSeq : Option ℕ

/-- The room of the factory and one automaton. -/
structure RoomWorld where
  room : RoomState
  snapshot : RoomSnapshot
  polls : List RoomPolling
  /-- The messages that were posted. -/
  posted : List RoomMessage
  /-- The messages that were passed to `store_room_observations`. -/
  delivered : List RoomMessage
  /-- The polls that have succeeded. -/
  polled : List RoomPolled

/-- No message was posted and no poll has started. -/
def RoomWorld.fresh : RoomWorld := ⟨.default, .default, [], [], [], []⟩

/-- What happens at the factory and at the automaton. -/
inductive RoomAct
  | register (registry : BTreeMap String Unit)
  | configure (factoryPrincipal : Option String)
  | post (caller : String) (request : PostRoomMessageRequest) (nowMs : ℕ)
  | startPoll (nowNs : ℕ)
  | answer (i : ℕ)
  | finish (i : ℕ)
  | fail (i : ℕ) (error : String)

section Runs

variable (keccakHex : String → String) (jsonError : String → Option String) (canisterId : String)

/-- The factory's answer to a poll. -/
def RoomState.answer (room : RoomState) (lastSeenSeq : Option ℕ) : Except RoomError RoomAnswer :=
  (listMessagesForAutomaton room canisterId lastSeenSeq (some roomPollPageLimit)).map fun page =>
    ⟨room.messages.toList.map (·.2), page⟩

/-- A message is posted, unless the call fails or traps. -/
def RoomWorld.post (world : RoomWorld) (caller : String) (request : PostRoomMessageRequest)
    (nowMs : ℕ) : RoomWorld :=
  match postRoomMessage jsonError world.room caller request nowMs with
  | some (.ok message, room) => { world with room := room, posted := world.posted ++ [message] }
  | _ => world

/-- The answer to a poll arrives. -/
def RoomWorld.finish (world : RoomWorld) (i : ℕ) (poll : RoomPolling) (answer : RoomAnswer) :
    RoomWorld :=
  let snapshot := world.snapshot.receivePage keccakHex poll.nowNs poll.lastSeenSeq answer.page
  { world with
    snapshot := snapshot
    polls := world.polls.eraseIdx i
    delivered := world.delivered ++ answer.page.messages
    polled := world.polled ++ [⟨answer.retained, snapshot.roomPoll.lastSeenSeq⟩] }

/-- The world after an act. -/
def RoomAct.apply (act : RoomAct) (world : RoomWorld) : RoomWorld :=
  match act with
  | .register registry => { world with room := { world.room with registry := registry } }
  | .configure factoryPrincipal =>
    { world with snapshot := { world.snapshot with factoryPrincipal := factoryPrincipal } }
  | .post caller request nowMs => world.post jsonError caller request nowMs
  | .startPoll nowNs =>
    if world.snapshot.pollsRoom nowNs then
      { world with
        polls := world.polls ++ [⟨nowNs, world.snapshot.roomPoll.lastSeenSeq, none⟩] }
    else world
  | .answer i =>
    world.polls[i]?.elim world fun poll =>
      if poll.answer.isNone then
        (RoomState.answer canisterId world.room poll.lastSeenSeq).toOption.elim world fun answer =>
          { world with polls := world.polls.set i { poll with answer := some answer } }
      else world
  | .finish i =>
    world.polls[i]?.elim world fun poll =>
      poll.answer.elim world fun answer => world.finish keccakHex i poll answer
  | .fail i error =>
    world.polls[i]?.elim world fun poll =>
      { world with
        snapshot := world.snapshot.recordRoomPollError keccakHex poll.nowNs error
        polls := world.polls.eraseIdx i }

/-- The worlds that are reached. -/
def RoomReachable : RoomWorld → Prop :=
  Reachable (· = RoomWorld.fresh) (StepOf (RoomAct.apply keccakHex jsonError canisterId))

/-- The cursor skips no message that the automaton may see, does not pass the room's last message,
and the observations are the greatest of the messages that were delivered. -/
structure RoomDelivered (world : RoomWorld) : Prop where
  noneSkipped : ∀ poll ∈ world.polled, ∀ message ∈ poll.retained,
    roomMessageMatchesTarget message canisterId = true →
      (∃ seq, poll.lastSeenSeq = some seq ∧ message.seq ≤ seq) → message ∈ world.delivered
  cursorBelow : ∀ seq, world.snapshot.roomPoll.lastSeenSeq = some seq →
    ∃ latest, world.room.latestSeq = some latest ∧ seq ≤ latest
  observations : Window.Keeps RoomMessage.seq maxRoomObservations world.snapshot.roomObservations
    (world.delivered.map (boundedRoomObservation keccakHex))

end Runs

section Answers

variable {room : RoomState} {posted : List RoomMessage} {canisterId : String}
  {lastSeenSeq : Option ℕ} {answer : RoomAnswer} {predicate : RoomMessage → Bool}

/-- What a cursor has passed was delivered, as far as it is still retained. -/
def Covered (canisterId : String) (room : RoomState) (delivered : List RoomMessage)
    (cursor : Option ℕ) : Prop :=
  ∀ (seq : ℕ) (message : RoomMessage), room.messages[seq]? = some message →
    roomMessageMatchesTarget message canisterId = true →
    (∃ bound, cursor = some bound ∧ message.seq ≤ bound) → message ∈ delivered

theorem answer_eq (h : RoomState.answer canisterId room lastSeenSeq = .ok answer) :
    answer = ⟨room.messages.toList.map (·.2), readRoomPage room lastSeenSeq roomPollPageLimit
      (roomMessageMatchesTarget · canisterId)⟩ := by
  have hlimit : normalizeRoomReadLimit (some roomPollPageLimit) = .ok roomPollPageLimit := by
    decide
  unfold RoomState.answer listMessagesForAutomaton at h
  rw [hlimit] at h
  exact (Except.ok.inj h).symm

/-- What the factory's answer says about the cursor that a poll moves to. -/
structure Answers (canisterId : String) (room : RoomState) (delivered posted : List RoomMessage)
    (lastSeenSeq : Option ℕ) (answer : RoomAnswer) : Prop where
  fromPosted : answer.page.messages ⊆ posted
  below : Below room (roomCursor lastSeenSeq answer.page)
  complete : ∀ message ∈ answer.retained, roomMessageMatchesTarget message canisterId = true →
    (∃ seq, roomCursor lastSeenSeq answer.page = some seq ∧ message.seq ≤ seq) →
      message ∈ answer.page.messages ∨ message ∈ delivered
  nothing : roomCursor lastSeenSeq answer.page = none → answer.retained = []
  retained : ∀ (seq : ℕ) (message : RoomMessage), room.messages[seq]? = some message →
    (∃ bound, roomCursor lastSeenSeq answer.page = some bound ∧ message.seq ≤ bound) →
      message ∈ answer.retained

/-- The page of an answer. -/
theorem page_cases (h : RoomState.answer canisterId room lastSeenSeq = .ok answer) :
    (answer.page.messages =
        room.matching lastSeenSeq (roomMessageMatchesTarget · canisterId) ∧
      roomCursor lastSeenSeq answer.page = (room.latestSeq <|>
        answer.page.messages.getLast?.map (·.seq) <|> lastSeenSeq)) ∨
    ∃ front last rest, room.matching lastSeenSeq (roomMessageMatchesTarget · canisterId) =
        front ++ [last] ++ rest ∧ answer.page.messages = front ++ [last] ∧
      roomCursor lastSeenSeq answer.page = some last.seq := by
  obtain rfl := answer_eq h
  rw [readRoomPage_eq]
  generalize room.matching lastSeenSeq (roomMessageMatchesTarget · canisterId) = matching
  by_cases hmore : roomPollPageLimit < matching.length
  · right
    have hlength : (matching.take roomPollPageLimit).length = roomPollPageLimit := by
      rw [List.length_take]
      omega
    rcases List.eq_nil_or_concat (matching.take roomPollPageLimit) with hnil | ⟨front, last, hlast⟩
    · rw [hnil] at hlength
      cases hlength
    · rw [List.concat_eq_append] at hlast
      refine ⟨front, last, matching.drop roomPollPageLimit, ?_, hlast, ?_⟩
      · rw [← hlast, List.take_append_drop]
      · unfold roomCursor
        simp [hmore, hlast]
  · left
    refine ⟨List.take_of_length_le (by omega), ?_⟩
    unfold roomCursor
    simp [hmore]

theorem answers_of_answer (h : RoomInv room posted) {delivered : List RoomMessage}
    (hbelow : Below room lastSeenSeq) (hcovered : Covered canisterId room delivered lastSeenSeq)
    (hanswer : RoomState.answer canisterId room lastSeenSeq = .ok answer) :
    Answers canisterId room delivered posted lastSeenSeq answer := by
  have hretained : answer.retained = room.messages.toList.map (·.2) := by
    rw [answer_eq hanswer]
  have hsorted : (room.matching lastSeenSeq (roomMessageMatchesTarget · canisterId)).Pairwise
      fun first second => first.seq < second.seq := matching_sorted h
  -- A message that may be seen is in the list that the page is from, or below the old cursor.
  have hseen : ∀ message ∈ answer.retained, roomMessageMatchesTarget message canisterId = true →
      message ∈ room.matching lastSeenSeq (roomMessageMatchesTarget · canisterId) ∨
        message ∈ delivered := by
    intro message hmessage hmatches
    rw [hretained] at hmessage
    obtain ⟨seq, hstored⟩ := mem_retained.mp hmessage
    by_cases hafter : lastSeenSeq.all (· < seq) = true
    · exact .inl (mem_matching.mpr ⟨seq, hstored, hafter, hmatches⟩)
    · right
      refine hcovered seq message hstored hmatches ?_
      cases lastSeenSeq with
      | none => exact absurd rfl hafter
      | some bound =>
        refine ⟨bound, rfl, ?_⟩
        rw [(h.stored seq message hstored).1]
        simpa using hafter
  have hposted : room.matching lastSeenSeq (roomMessageMatchesTarget · canisterId) ⊆ posted := by
    intro message hmessage
    obtain ⟨seq, hstored, -⟩ := mem_matching.mp hmessage
    exact (h.stored seq message hstored).2
  have hall : ∀ (seq : ℕ) (message : RoomMessage), room.messages[seq]? = some message →
      message ∈ answer.retained := by
    intro seq message hstored
    rw [hretained]
    exact mem_retained.mpr ⟨seq, hstored⟩
  rcases page_cases hanswer with ⟨hpage, hcursor⟩ | ⟨front, last, rest, hmatching, hpage, hcursor⟩
  · constructor
    · rw [hpage]
      exact hposted
    · intro seq hseq
      rw [hcursor] at hseq
      cases hlatest : room.latestSeq with
      | some latest =>
        rw [hlatest] at hseq
        obtain rfl := Option.some.inj hseq
        exact ⟨latest, rfl, le_rfl⟩
      | none =>
        have hnone : answer.page.messages = [] := by
          rw [hpage, List.eq_nil_iff_forall_not_mem]
          intro message hmessage
          obtain ⟨seq, hsome, -⟩ := h.latest message (hposted hmessage)
          rw [hlatest] at hsome
          cases hsome
        rw [hlatest, hnone] at hseq
        obtain ⟨latest, hsome, -⟩ := hbelow seq hseq
        rw [hlatest] at hsome
        cases hsome
    · intro message hmessage hmatches _
      rw [hpage]
      exact hseen message hmessage hmatches
    · intro hnone
      rw [hcursor] at hnone
      rw [List.eq_nil_iff_forall_not_mem]
      intro message hmessage
      rw [hretained] at hmessage
      obtain ⟨seq, hstored⟩ := mem_retained.mp hmessage
      obtain ⟨latest, hsome, -⟩ := h.latest message (h.stored seq message hstored).2
      rw [hsome] at hnone
      cases hnone
    · intro seq message hstored _
      exact hall seq message hstored
  · constructor
    · rw [hpage]
      intro message hmessage
      refine hposted ?_
      rw [hmatching]
      exact List.mem_append_left _ hmessage
    · intro seq hseq
      rw [hcursor] at hseq
      obtain rfl := Option.some.inj hseq
      refine h.latest last (hposted ?_)
      rw [hmatching]
      simp
    · rintro message hmessage hmatches ⟨seq, hseq, hle⟩
      rw [hcursor] at hseq
      obtain rfl := Option.some.inj hseq
      refine (hseen message hmessage hmatches).imp_left fun hmem => ?_
      rw [hmatching] at hmem hsorted
      rw [hpage]
      refine (List.mem_append.mp hmem).resolve_right fun hrest => ?_
      have hlt := (List.pairwise_append.mp hsorted).2.2 last (by simp) message hrest
      omega
    · intro hnone
      rw [hcursor] at hnone
      cases hnone
    · intro seq message hstored _
      exact hall seq message hstored

end Answers

section Steps

variable {keccakHex : String → String} {jsonError : String → Option String} {canisterId : String}
  {world next : RoomWorld} {poll : RoomPolling}

/-- What holds of a poll that has not ended. -/
structure PollInv (canisterId : String) (world : RoomWorld) (poll : RoomPolling) : Prop where
  below : Below world.room poll.lastSeenSeq
  covered : Covered canisterId world.room world.delivered poll.lastSeenSeq
  answers : ∀ answer, poll.answer = some answer →
    Answers canisterId world.room world.delivered world.posted poll.lastSeenSeq answer

/-- What holds in every world. -/
structure RoomWorldInv (keccakHex : String → String) (canisterId : String) (world : RoomWorld) :
    Prop where
  room : RoomInv world.room world.posted
  fromPosted : world.delivered ⊆ world.posted
  delivers : RoomDelivered keccakHex canisterId world
  covered : Covered canisterId world.room world.delivered world.snapshot.roomPoll.lastSeenSeq
  polls : ∀ poll ∈ world.polls, PollInv canisterId world poll

/-- The room goes on: its last number grows, new messages are above it, and what was posted and
delivered stays so. -/
structure Advances (world next : RoomWorld) : Prop where
  latest : Below next.room world.room.latestSeq
  messages : ∀ (seq : ℕ) (message : RoomMessage), next.room.messages[seq]? = some message →
    world.room.messages[seq]? = some message ∨
      ∀ latest, world.room.latestSeq = some latest → latest < message.seq
  delivered : world.delivered ⊆ next.delivered
  posted : world.posted ⊆ next.posted

theorem Below.mono (hadvances : Advances world next) {cursor : Option ℕ}
    (h : Below world.room cursor) : Below next.room cursor := by
  intro seq hseq
  obtain ⟨latest, hlatest, hle⟩ := h seq hseq
  obtain ⟨later, hlater, hle'⟩ := hadvances.latest latest hlatest
  exact ⟨later, hlater, hle.trans hle'⟩

/-- A message that is retained later, and is below a cursor, was retained before. -/
theorem Advances.retained (hadvances : Advances world next) {cursor : Option ℕ}
    (hbelow : Below world.room cursor) {seq : ℕ} {message : RoomMessage}
    (hstored : next.room.messages[seq]? = some message)
    (hcursor : ∃ bound, cursor = some bound ∧ message.seq ≤ bound) :
    world.room.messages[seq]? = some message := by
  refine (hadvances.messages seq message hstored).resolve_right fun hnew => ?_
  obtain ⟨bound, hbound, hle⟩ := hcursor
  obtain ⟨latest, hlatest, hle'⟩ := hbelow bound hbound
  have hlt := hnew latest hlatest
  omega

theorem Covered.mono (hadvances : Advances world next) {cursor : Option ℕ}
    (hbelow : Below world.room cursor)
    (h : Covered canisterId world.room world.delivered cursor) :
    Covered canisterId next.room next.delivered cursor := by
  intro seq message hstored hmatches hcursor
  exact hadvances.delivered
    (h seq message (hadvances.retained hbelow hstored hcursor) hmatches hcursor)

theorem PollInv.mono (hadvances : Advances world next) (h : PollInv canisterId world poll) :
    PollInv canisterId next poll := by
  refine ⟨Below.mono hadvances h.below, h.covered.mono hadvances h.below, ?_⟩
  intro answer hanswer
  have hanswers := h.answers answer hanswer
  constructor
  · exact fun message hmessage => hadvances.posted (hanswers.fromPosted hmessage)
  · exact Below.mono hadvances hanswers.below
  · intro message hmessage hmatches hcursor
    exact (hanswers.complete message hmessage hmatches hcursor).imp_right
      fun hmem => hadvances.delivered hmem
  · exact hanswers.nothing
  · intro seq message hstored hcursor
    exact hanswers.retained seq message
      (hadvances.retained hanswers.below hstored hcursor) hcursor

/-- A step at the automaton that delivers at most something leaves the room as it is. -/
theorem Advances.of_eq (hroom : next.room = world.room)
    (hdelivered : world.delivered ⊆ next.delivered) (hposted : next.posted = world.posted) :
    Advances world next := by
  constructor
  · intro seq hseq
    exact ⟨seq, hroom ▸ hseq, le_rfl⟩
  · intro seq message hstored
    exact .inl (hroom ▸ hstored)
  · exact hdelivered
  · intro message hmessage
    exact hposted ▸ hmessage

theorem PollInv.congr (h : PollInv canisterId world poll) (hroom : next.room = world.room)
    (hdelivered : next.delivered = world.delivered) (hposted : next.posted = world.posted) :
    PollInv canisterId next poll :=
  h.mono (.of_eq hroom (fun _ hmem => hdelivered ▸ hmem) hposted)

theorem RoomWorldInv.post {caller : String} {request : PostRoomMessageRequest} {nowMs : ℕ}
    (h : RoomWorldInv keccakHex canisterId world) :
    RoomWorldInv keccakHex canisterId (world.post jsonError caller request nowMs) := by
  unfold RoomWorld.post
  split
  · rename_i message room hpost
    obtain ⟨hseq, hstore⟩ := postRoomMessage_spec hpost
    obtain ⟨-, hlatest, hmessages⟩ := store_spec hstore
    have hadvances : Advances world
        { world with room := room, posted := world.posted ++ [message] } := by
      constructor
      · intro seq hold
        have hlt := h.room.latestBelow seq hold
        exact ⟨message.seq, hlatest, by omega⟩
      · intro seq stored hstored
        rcases hmessages seq stored hstored with hold | ⟨-, rfl⟩
        · exact .inl hold
        · right
          intro latest hold
          have hlt := h.room.latestBelow latest hold
          omega
      · exact fun _ hmem => hmem
      · exact fun _ hmem => List.mem_append_left _ hmem
    constructor
    · exact h.room.store hseq hstore
    · exact fun stored hstored => List.mem_append_left _ (h.fromPosted hstored)
    · exact ⟨h.delivers.noneSkipped, Below.mono hadvances h.delivers.cursorBelow,
        h.delivers.observations⟩
    · exact h.covered.mono hadvances h.delivers.cursorBelow
    · exact fun poll hpoll => (h.polls poll hpoll).mono hadvances
  · exact h

theorem RoomWorldInv.startPoll {nowNs : ℕ} (h : RoomWorldInv keccakHex canisterId world) :
    RoomWorldInv keccakHex canisterId
      ((RoomAct.startPoll nowNs).apply keccakHex jsonError canisterId world) := by
  unfold RoomAct.apply
  dsimp only
  split
  · refine ⟨h.room, h.fromPosted, ⟨h.delivers.noneSkipped, h.delivers.cursorBelow,
      h.delivers.observations⟩, h.covered, ?_⟩
    intro poll hpoll
    rcases List.mem_append.mp hpoll with hpoll | hpoll
    · exact (h.polls poll hpoll).congr rfl rfl rfl
    · rw [List.mem_singleton.mp hpoll]
      exact ⟨h.delivers.cursorBelow, h.covered, fun answer hanswer => by cases hanswer⟩
  · exact h

theorem RoomWorldInv.answer {i : ℕ} (h : RoomWorldInv keccakHex canisterId world) :
    RoomWorldInv keccakHex canisterId
      ((RoomAct.answer i).apply keccakHex jsonError canisterId world) := by
  unfold RoomAct.apply
  dsimp only
  cases hpoll : world.polls[i]? with
  | none => exact h
  | some poll =>
    rw [Option.elim_some]
    split
    · cases hanswer : RoomState.answer canisterId world.room poll.lastSeenSeq with
      | error => exact h
      | ok answer =>
        have hinv := h.polls poll (List.mem_of_getElem? hpoll)
        refine ⟨h.room, h.fromPosted, ⟨h.delivers.noneSkipped, h.delivers.cursorBelow,
          h.delivers.observations⟩, h.covered, ?_⟩
        intro other hother
        rcases List.mem_or_eq_of_mem_set hother with hother | rfl
        · exact (h.polls other hother).congr rfl rfl rfl
        · refine ⟨hinv.below, hinv.covered, ?_⟩
          intro found hfound
          obtain rfl := Option.some.inj hfound
          exact answers_of_answer h.room hinv.below hinv.covered hanswer
    · exact h

theorem RoomWorldInv.fail {i : ℕ} {error : String} (h : RoomWorldInv keccakHex canisterId world) :
    RoomWorldInv keccakHex canisterId
      ((RoomAct.fail i error).apply keccakHex jsonError canisterId world) := by
  unfold RoomAct.apply
  dsimp only
  cases hpoll : world.polls[i]? with
  | none => exact h
  | some poll =>
    refine ⟨h.room, h.fromPosted, ⟨h.delivers.noneSkipped, h.delivers.cursorBelow,
      h.delivers.observations⟩, h.covered, ?_⟩
    exact fun other hother => (h.polls other (List.mem_of_mem_eraseIdx hother)).congr
      rfl rfl rfl

/-- Observations stay the greatest of the messages that were delivered. -/
theorem keeps_storeRoomObservations {snapshot : RoomSnapshot}
    {posted delivered messages : List RoomMessage}
    (hunique : ∀ first ∈ posted, ∀ second ∈ posted, first.seq = second.seq → first = second)
    (hposted : delivered ++ messages ⊆ posted)
    (h : Window.Keeps RoomMessage.seq maxRoomObservations snapshot.roomObservations
      (delivered.map (boundedRoomObservation keccakHex))) :
    Window.Keeps RoomMessage.seq maxRoomObservations
      (snapshot.storeRoomObservations keccakHex messages).roomObservations
      ((delivered ++ messages).map (boundedRoomObservation keccakHex)) := by
  unfold RoomSnapshot.storeRoomObservations
  split
  · rename_i hnone
    rw [hnone, List.append_nil]
    exact h
  · rw [List.map_append]
    apply h.update
    rw [← List.map_append]
    intro first hfirst second hsecond hsame
    obtain ⟨message, hmessage, rfl⟩ := List.mem_map.mp hfirst
    obtain ⟨other, hother, rfl⟩ := List.mem_map.mp hsecond
    rw [hunique message (hposted hmessage) other (hposted hother) hsame]

theorem RoomWorldInv.finish {i : ℕ} (h : RoomWorldInv keccakHex canisterId world) :
    RoomWorldInv keccakHex canisterId
      ((RoomAct.finish i).apply keccakHex jsonError canisterId world) := by
  unfold RoomAct.apply
  dsimp only
  cases hpoll : world.polls[i]? with
  | none => exact h
  | some poll =>
    rw [Option.elim_some]
    cases hanswer : poll.answer with
    | none => exact h
    | some answer =>
      rw [Option.elim_some]
      have hanswers := (h.polls poll (List.mem_of_getElem? hpoll)).answers answer hanswer
      have hdelivered : world.delivered ++ answer.page.messages ⊆ world.posted := by
        intro message hmessage
        rcases List.mem_append.mp hmessage with hmessage | hmessage
        · exact h.fromPosted hmessage
        · exact hanswers.fromPosted hmessage
      have hadvances : Advances world (world.finish keccakHex i poll answer) :=
        .of_eq rfl (List.subset_append_left _ _) rfl
      have hcursor : (world.finish keccakHex i poll answer).snapshot.roomPoll.lastSeenSeq =
          (roomCursor poll.lastSeenSeq answer.page <|> world.snapshot.roomPoll.lastSeenSeq) := by
        unfold RoomWorld.finish RoomSnapshot.receivePage RoomSnapshot.recordRoomPollSuccess
          RoomSnapshot.storeRoomObservations
        dsimp only
        split <;> rfl
      have hnew : ∀ message ∈ answer.retained,
          roomMessageMatchesTarget message canisterId = true →
          (∃ seq, roomCursor poll.lastSeenSeq answer.page = some seq ∧ message.seq ≤ seq) →
            message ∈ world.delivered ++ answer.page.messages := by
        intro message hmessage hmatches hbound
        rw [List.mem_append]
        exact (hanswers.complete message hmessage hmatches hbound).symm
      constructor
      · exact h.room
      · exact hdelivered
      · constructor
        · intro polled hpolled message hmessage hmatches hbound
          rcases List.mem_append.mp hpolled with hpolled | hpolled
          · exact List.mem_append_left _
              (h.delivers.noneSkipped polled hpolled message hmessage hmatches hbound)
          · rw [List.mem_singleton.mp hpolled] at hmessage hbound
            cases hcase : roomCursor poll.lastSeenSeq answer.page with
            | none =>
              dsimp only at hmessage
              rw [hanswers.nothing hcase] at hmessage
              cases hmessage
            | some seq =>
              refine hnew message hmessage hmatches ?_
              obtain ⟨bound, hsome, hle⟩ := hbound
              refine ⟨bound, ?_, hle⟩
              rw [← hsome]
              refine Eq.trans ?_ hcursor.symm
              rw [hcase]
              rfl
        · intro seq hseq
          rw [hcursor] at hseq
          cases hcase : roomCursor poll.lastSeenSeq answer.page with
          | none =>
            rw [hcase] at hseq
            exact h.delivers.cursorBelow seq hseq
          | some bound =>
            rw [hcase] at hseq
            obtain rfl := Option.some.inj hseq
            exact hanswers.below bound hcase
        · exact keeps_storeRoomObservations h.room.unique hdelivered h.delivers.observations
      · intro seq message hstored hmatches hbound
        rw [hcursor] at hbound
        cases hcase : roomCursor poll.lastSeenSeq answer.page with
        | none =>
          rw [hcase] at hbound
          exact List.mem_append_left _ (h.covered seq message hstored hmatches hbound)
        | some bound =>
          have hsome : ∃ found, roomCursor poll.lastSeenSeq answer.page = some found ∧
              message.seq ≤ found := by
            obtain ⟨found, hfound, hle⟩ := hbound
            refine ⟨found, ?_, hle⟩
            rw [← hfound, hcase]
            rfl
          exact hnew message (hanswers.retained seq message hstored hsome) hmatches hsome
      · exact fun other hother =>
          (h.polls other (List.mem_of_mem_eraseIdx hother)).mono hadvances

theorem RoomWorldInv.step {act : RoomAct} (h : RoomWorldInv keccakHex canisterId world) :
    RoomWorldInv keccakHex canisterId (act.apply keccakHex jsonError canisterId world) := by
  cases act with
  | register registry =>
    have hadvances : Advances world
        { world with room := { world.room with registry := registry } } :=
      ⟨fun seq hseq => ⟨seq, hseq, le_rfl⟩, fun _ _ hstored => .inl hstored,
        fun _ hmem => hmem, fun _ hmem => hmem⟩
    exact ⟨⟨h.room.stored, h.room.unique, h.room.below, h.room.latest, h.room.latestBelow⟩,
      h.fromPosted, ⟨h.delivers.noneSkipped, h.delivers.cursorBelow, h.delivers.observations⟩,
      h.covered, fun poll hpoll => (h.polls poll hpoll).mono hadvances⟩
  | configure factoryPrincipal =>
    exact ⟨h.room, h.fromPosted, ⟨h.delivers.noneSkipped, h.delivers.cursorBelow,
      h.delivers.observations⟩, h.covered, fun poll hpoll =>
        (h.polls poll hpoll).congr rfl rfl rfl⟩
  | post caller request nowMs => exact h.post
  | startPoll nowNs => exact h.startPoll
  | answer i => exact h.answer
  | finish i => exact h.finish
  | fail i error => exact h.fail

theorem roomWorldInv_fresh : RoomWorldInv keccakHex canisterId .fresh := by
  constructor
  · constructor <;> simp [RoomWorld.fresh, RoomState.default]
  · exact fun _ hmem => hmem
  · constructor
    · simp [RoomWorld.fresh]
    · simp [RoomWorld.fresh, RoomSnapshot.default]
    · exact ⟨List.Pairwise.nil, fun _ hmem => hmem, Nat.zero_le _, by simp [RoomWorld.fresh]⟩
  · simp [Covered, RoomWorld.fresh, RoomSnapshot.default]
  · simp [RoomWorld.fresh]

end Steps

/-- In every interleaving of posts and polls, no message that the automaton may see is skipped, the
cursor does not pass the room's last message, and the observations are the greatest of the messages
that were delivered. -/
theorem room_messages_delivered (keccakHex : String → String)
    (jsonError : String → Option String) (canisterId : String) (world : RoomWorld)
    (hreach : RoomReachable keccakHex jsonError canisterId world) :
    RoomDelivered keccakHex canisterId world := by
  have hinv : RoomWorldInv keccakHex canisterId world := by
    refine Reachable.invariant hreach ?_ ?_
    · rintro world rfl
      exact roomWorldInv_fresh
    · rintro world act next hinv rfl
      exact hinv.step
  exact hinv.delivers

/-- A registered author posts a message, and the automaton polls it. -/
def polledRoomActs : List RoomAct :=
  [.register ((∅ : BTreeMap String Unit).insert "author" ()), .configure (some "factory"),
    .post "author" ⟨"hello", some ["reader"], none⟩ 1, .startPoll 0, .answer 0, .finish 0]

/-- The world after them. -/
def polledRoom : RoomWorld :=
  run (RoomAct.apply (fun _ => "") (fun _ => none) "reader") polledRoomActs .fresh

example : polledRoom.snapshot.roomPoll.lastSeenSeq = some 0 := by decide +kernel

theorem polledRoom_delivered : RoomDelivered (fun _ => "") "reader" polledRoom := by
  apply room_messages_delivered (fun _ => "") (fun _ => none)
  have hfresh : RoomReachable (fun _ => "") (fun _ => none) "reader" .fresh := .start rfl
  exact hfresh.run polledRoomActs

end Automaton.Agent
