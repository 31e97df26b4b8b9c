import Automaton.Factory.Room
import Automaton.Library.Decimal
import Automaton.Library.Slice
import Automaton.Library.Transition

/-!
# The log of the room and its pages

The retained messages have consecutive numbers, from the oldest to the latest one. A reader that
follows the pages of an automaton adds to its messages what it has not read, so that the messages it
has and those after its cursor are together the ones that the automaton may see.
-/

namespace Automaton.Factory

open Transition

/-- A reader of the messages for an automaton. -/
structure RoomReader where
  cursor : Option ℕ
  collected : List RoomMessage
  finished : Bool
  /-- The messages that were retained when the last page was read. -/
  retained : List RoomMessage

/-- A reader that has not read a page. -/
def RoomReader.fresh : RoomReader := ⟨none, [], false, []⟩

/-- The room, the messages that were posted, and a reader. -/
structure ReadRoom where
  room : RoomState
  posted : List RoomMessage
  reader : RoomReader

/-- Nothing was posted or read. -/
def ReadRoom.fresh : ReadRoom := ⟨.default, [], .fresh⟩

/-- What happens to the room, and what its reader does. -/
inductive ReadRoomAct
  | register (registry : BTreeMap String Unit)
  | post (caller : String) (request : PostRoomMessageRequest) (nowMs : ℕ)
  | restart
  | read (limit : ℕ)

section Runs

variable (jsonError : String → Option String) (canisterId : String)

/-- The next page is read; the reader has finished when no next number is named. -/
def RoomReader.read (room : RoomState) (limit : ℕ) (reader : RoomReader) : RoomReader :=
  if reader.finished then reader
  else (listMessagesForAutomaton room canisterId reader.cursor (some limit)).toOption.elim reader
    fun page => ⟨page.nextAfterSeq, reader.collected ++ page.messages, page.nextAfterSeq.isNone,
      room.messages.toList.map (·.2)⟩

/-- A message is posted, unless the call fails or traps. -/
def ReadRoom.post (world : ReadRoom) (caller : String) (request : PostRoomMessageRequest)
    (nowMs : ℕ) : ReadRoom :=
  match postRoomMessage jsonError world.room caller request nowMs with
  | some (.ok message, room) => { world with room := room, posted := world.posted ++ [message] }
  | some (.error _, room) => { world with room := room }
  | none => world

/-- The room and its reader after an act. -/
def ReadRoomAct.apply (act : ReadRoomAct) (world : ReadRoom) : ReadRoom :=
  match act with
  | .register registry => { world with room := { world.room with registry := registry } }
  | .post caller request nowMs => world.post jsonError caller request nowMs
  | .restart => { world with reader := .fresh }
  | .read limit => { world with reader := world.reader.read canisterId world.room limit }

end Runs

/-- The retained messages have the numbers from an oldest to a latest one. -/
structure RoomState.Retains (room : RoomState) (oldest latest : ℕ) : Prop where
  oldest_eq : room.oldestSeq = some oldest
  latest_eq : room.latestSeq = some latest
  ordered : oldest ≤ latest
  next_eq : room.nextSeq = latest + 1
  keys : ∀ seq, seq ∈ room.messages ↔ oldest ≤ seq ∧ seq ≤ latest

/-- Nothing was posted, or the retained messages have the numbers from the oldest to the latest
one. -/
def RoomState.Contiguous (room : RoomState) : Prop :=
  (room.oldestSeq = none ∧ room.latestSeq = none ∧ room.nextSeq = 0 ∧ room.messages = ∅) ∨
    ∃ oldest latest, room.Retains oldest latest

/-- What a reader has: messages that the automaton may see, each once and in order, and none that it
has passed by is missing. -/
structure RoomReader.ReadsAll (reader : RoomReader) (canisterId : String)
    (posted : List RoomMessage) : Prop where
  sorted : reader.collected.Pairwise fun first second => first.seq < second.seq
  visible : ∀ message ∈ reader.collected, message ∈ posted ∧
    roomMessageMatchesTarget message canisterId = true
  complete : ∀ message ∈ reader.retained, roomMessageMatchesTarget message canisterId = true →
    (reader.finished = true ∨ ∃ seq, reader.cursor = some seq ∧ message.seq ≤ seq) →
      message ∈ reader.collected

section Contiguous

variable {room next : RoomState} {oldest latest : ℕ} {message : RoomMessage}

/-- The numbers of the log, in order. -/
theorem keys_eq (h : ∀ seq, seq ∈ room.messages ↔ oldest ≤ seq ∧ seq ≤ latest)
    (hle : oldest ≤ latest) : room.messages.keys = List.range' oldest (latest + 1 - oldest) := by
  apply BTreeMap.keys_eq_range'
  intro seq
  rw [h]
  omega

/-- As many messages are retained as there are numbers. -/
theorem RoomState.Retains.size_eq (h : room.Retains oldest latest) :
    room.messages.size = latest + 1 - oldest := by
  rw [← Std.ExtTreeMap.length_keys, keys_eq h.keys h.ordered, List.length_range']

/-- The number of the first message of the log. -/
theorem head?_toList_eq (h : ∀ seq, seq ∈ room.messages ↔ oldest ≤ seq ∧ seq ≤ latest)
    (hle : oldest ≤ latest) : room.messages.toList.head?.map (·.1) = some oldest := by
  have hfst : room.messages.toList.map (·.1) = room.messages.keys :=
    Std.ExtTreeMap.map_fst_toList_eq_keys
  rw [← List.head?_map, hfst, keys_eq h hle, List.head?_range', if_neg (by omega)]

/-- The oldest message makes place when there are too many. -/
theorem RoomState.Retains.evict (h : room.Retains oldest latest)
    (hsize : latest ≤ oldest + maxRoomMessagesRetained) (hevict : room.evict = some next) :
    next.Contiguous ∧ next.messages.size ≤ maxRoomMessagesRetained := by
  have hordered := h.ordered
  unfold RoomState.evict at hevict
  split at hevict
  · rename_i hmany
    rw [h.size_eq] at hmany
    rw [h.oldest_eq] at hevict
    obtain rfl := Option.some.inj hevict
    have hkeys : ∀ seq, seq ∈ room.messages.erase oldest ↔ oldest + 1 ≤ seq ∧ seq ≤ latest := by
      intro seq
      rw [Std.ExtTreeMap.mem_erase, h.keys]
      simp only [ne_eq, compare_eq_iff_eq]
      omega
    have hlarge : 1 ≤ maxRoomMessagesRetained := by decide
    have hretains : RoomState.Retains { room with
        messages := room.messages.erase oldest
        oldestSeq := (room.messages.erase oldest).toList.head?.map (·.1) } (oldest + 1) latest := by
      refine ⟨?_, h.latest_eq, by omega, h.next_eq, hkeys⟩
      exact @head?_toList_eq { room with messages := room.messages.erase oldest } _ _ hkeys
        (by omega)
    refine ⟨.inr ⟨oldest + 1, latest, hretains⟩, ?_⟩
    have := hretains.size_eq
    dsimp only at this ⊢
    omega
  · rename_i hfew
    obtain rfl := Option.some.inj hevict
    exact ⟨.inr ⟨oldest, latest, h⟩, by omega⟩

/-- Storing the next message keeps the numbers consecutive. -/
theorem RoomState.Contiguous.store (h : room.Contiguous)
    (hsize : room.messages.size ≤ maxRoomMessagesRetained) (hseq : message.seq = room.nextSeq)
    (hstore : room.store message = some next) :
    next.Contiguous ∧ next.messages.size ≤ maxRoomMessagesRetained := by
  unfold RoomState.store at hstore
  obtain ⟨nextSeq, hnext, hevict⟩ := Option.bind_eq_some_iff.mp hstore
  obtain ⟨-, rfl⟩ := Machine.checkedAdd_eq_some.mp hnext
  rcases h with ⟨holdest, -, hzero, hempty⟩ | ⟨oldest, latest, hretains⟩
  · have hstored : RoomState.Retains { room with
        messages := room.messages.insert message.seq message
        nextSeq := room.nextSeq + 1
        latestSeq := some message.seq
        oldestSeq := room.oldestSeq <|> some message.seq } message.seq message.seq := by
      refine ⟨?_, rfl, le_rfl, ?_, ?_⟩
      · rw [holdest]
        rfl
      · rw [hseq]
      · intro seq
        rw [hempty, Std.ExtTreeMap.mem_insert, compare_eq_iff_eq]
        simp
        omega
    exact hstored.evict (by omega) hevict
  · have hordered := hretains.ordered
    have hlatest : message.seq = latest + 1 := hseq.trans hretains.next_eq
    have hstored : RoomState.Retains { room with
        messages := room.messages.insert message.seq message
        nextSeq := room.nextSeq + 1
        latestSeq := some message.seq
        oldestSeq := room.oldestSeq <|> some message.seq } oldest (latest + 1) := by
      refine ⟨?_, ?_, by omega, ?_, ?_⟩
      · rw [hretains.oldest_eq]
        rfl
      · rw [hlatest]
      · rw [hretains.next_eq]
      · intro seq
        rw [Std.ExtTreeMap.mem_insert, compare_eq_iff_eq, hretains.keys, hlatest]
        omega
    rw [hretains.size_eq] at hsize
    exact hstored.evict (by omega) hevict

end Contiguous

section Reading

variable {room next : RoomState} {posted : List RoomMessage} {reader : RoomReader}
  {message last : RoomMessage} {canisterId : String} {limit : ℕ} {cursor : Option ℕ}
  {predicate : RoomMessage → Bool}

/-- The messages after the last one of a page are those that the page left. -/
theorem matching_after_page (h : RoomInv room posted)
    (hlast : ((room.matching cursor predicate).take limit).getLast? = some last) :
    room.matching (some last.seq) predicate = (room.matching cursor predicate).drop limit := by
  have hsorted : (room.matching cursor predicate).Pairwise fun a b => a.seq < b.seq :=
    matching_sorted h
  have hmem : last ∈ room.matching cursor predicate :=
    List.mem_of_mem_take (List.mem_of_getLast? hlast)
  obtain ⟨seq, hstored, hafter, -⟩ := mem_matching.mp hmem
  have hseq := (h.stored seq last hstored).1
  have hdrop : ((room.matching cursor predicate).drop limit).Pairwise fun a b => a.seq < b.seq :=
    hsorted.sublist (List.drop_sublist limit _)
  have hnodup {messages : List RoomMessage}
      (hordered : messages.Pairwise fun a b => a.seq < b.seq) : messages.Nodup := by
    refine hordered.imp ?_
    rintro a b hlt rfl
    exact absurd hlt (lt_irrefl _)
  refine Slice.eq_of_perm ?_ (matching_sorted h) hdrop
  apply (List.perm_ext_iff_of_nodup (hnodup (matching_sorted h)) (hnodup hdrop)).mpr
  intro stored
  rw [Slice.drop_eq_filter hsorted hlast, List.mem_filter, mem_matching, mem_matching,
    decide_eq_true_iff]
  constructor
  · rintro ⟨number, hnumber, hlater, hsees⟩
    have hlt : last.seq < number := by simpa using hlater
    refine ⟨⟨number, hnumber, ?_, hsees⟩, ?_⟩
    · cases cursor with
      | none => rfl
      | some bound =>
        have hbound : bound < seq := by simpa using hafter
        apply decide_eq_true
        omega
    · rw [(h.stored number stored hnumber).1]
      exact hlt
  · rintro ⟨⟨number, hnumber, -, hsees⟩, hlt⟩
    rw [(h.stored number stored hnumber).1] at hlt
    exact ⟨number, hnumber, by simpa using hlt, hsees⟩

/-- The messages that a reader has still to read. -/
def RoomReader.remaining (reader : RoomReader) (room : RoomState) (canisterId : String) :
    List RoomMessage :=
  if reader.finished then [] else room.matching reader.cursor (roomMessageMatchesTarget · canisterId)

/-- What a reader has, when it reads a page. -/
theorem read_spec (h : RoomInv room posted) (hpositive : 1 ≤ limit)
    (hlimit : limit ≤ maxRoomReadLimit) (hunfinished : reader.finished = false) :
    (reader.read canisterId room limit).retained = room.messages.toList.map (·.2) ∧
    (reader.read canisterId room limit).collected =
      reader.collected ++ (reader.remaining room canisterId).take limit ∧
    (reader.read canisterId room limit).remaining room canisterId =
      (reader.remaining room canisterId).drop limit ∧
    ((reader.read canisterId room limit).finished = true →
      (reader.read canisterId room limit).cursor = none) ∧
    ((reader.read canisterId room limit).finished = false →
      limit < (reader.remaining room canisterId).length ∧
        ∃ last, ((reader.remaining room canisterId).take limit).getLast? = some last ∧
          (reader.read canisterId room limit).cursor = some last.seq) := by
  have hnormalized : normalizeRoomReadLimit (some limit) = .ok limit := by
    have hvalid : ¬ (limit = 0 ∨ maxRoomReadLimit < limit) := by omega
    unfold normalizeRoomReadLimit
    rw [Option.getD_some, if_neg hvalid]
  have hremaining : reader.remaining room canisterId =
      room.matching reader.cursor (roomMessageMatchesTarget · canisterId) := by
    rw [RoomReader.remaining, hunfinished, if_neg Bool.false_ne_true]
  unfold RoomReader.read listMessagesForAutomaton
  rw [hunfinished, if_neg Bool.false_ne_true, hnormalized, hremaining]
  dsimp only [Except.map, Except.toOption, Option.elim_some]
  rw [readRoomPage_eq]
  refine ⟨rfl, rfl, ?_⟩
  by_cases hmore :
      limit < (room.matching reader.cursor (roomMessageMatchesTarget · canisterId)).length
  · rw [if_pos hmore]
    cases hlast : ((room.matching reader.cursor
        (roomMessageMatchesTarget · canisterId)).take limit).getLast? with
    | none =>
      have hnil := congrArg List.length (List.getLast?_eq_none_iff.mp hlast)
      rw [List.length_take, List.length_nil] at hnil
      omega
    | some last =>
      refine ⟨?_, fun hfalse => Bool.noConfusion hfalse, fun _ => ⟨hmore, last, rfl, rfl⟩⟩
      exact matching_after_page h hlast
  · rw [if_neg hmore, List.drop_eq_nil_of_le (by omega)]
    exact ⟨rfl, fun _ => rfl, fun hfalse => Bool.noConfusion hfalse⟩

/-- A reader for which a limit is not valid, or that has finished, does not read. -/
theorem read_cases (canisterId : String) (room : RoomState) (limit : ℕ) (reader : RoomReader) :
    reader.read canisterId room limit = reader ∨
      (1 ≤ limit ∧ limit ≤ maxRoomReadLimit ∧ reader.finished = false) := by
  by_cases hfinished : reader.finished = true
  · left
    rw [RoomReader.read, if_pos hfinished]
  · by_cases hvalid : limit = 0 ∨ maxRoomReadLimit < limit
    · left
      have hnormalized : normalizeRoomReadLimit (some limit) =
          .error (.invalidPaginationLimit limit) := by
        unfold normalizeRoomReadLimit
        rw [Option.getD_some, if_pos hvalid]
      unfold RoomReader.read listMessagesForAutomaton
      rw [if_neg hfinished, hnormalized]
      rfl
    · exact .inr ⟨by omega, by omega, by simpa using hfinished⟩

end Reading

/-- What holds of the room and its reader in every state. -/
structure ReadRoomInv (canisterId : String) (world : ReadRoom) : Prop where
  inv : RoomInv world.room world.posted
  contiguous : world.room.Contiguous
  retained : world.room.messages.size ≤ maxRoomMessagesRetained
  ordered : world.posted.Pairwise fun first second => first.seq < second.seq
  named : ∀ message ∈ world.posted, message.messageId = roomMessageId message.seq
  readsAll : world.reader.ReadsAll canisterId world.posted
  below : Below world.room world.reader.cursor
  /-- What was collected is not above the cursor. -/
  behind : world.reader.finished = false → ∀ message ∈ world.reader.collected,
    ∃ seq, world.reader.cursor = some seq ∧ message.seq ≤ seq
  /-- What the cursor has passed was collected. -/
  passed : ∀ (seq : ℕ) (message : RoomMessage), world.room.messages[seq]? = some message →
    roomMessageMatchesTarget message canisterId = true →
    (∃ bound, world.reader.cursor = some bound ∧ message.seq ≤ bound) →
      message ∈ world.reader.collected

section Steps

variable {jsonError : String → Option String} {canisterId : String} {world : ReadRoom}

/-- A request that fails changes nothing, and a message is named by its number. -/
theorem postRoomMessage_cases {room : RoomState} {caller : String}
    {request : PostRoomMessageRequest} {nowMs : ℕ} {result : Except RoomError RoomMessage}
    {next : RoomState} (h : postRoomMessage jsonError room caller request nowMs =
      some (result, next)) :
    (∃ error, result = .error error ∧ next = room) ∨
      ∃ message, result = .ok message ∧ message.messageId = roomMessageId message.seq := by
  unfold postRoomMessage at h
  split at h
  · obtain ⟨rfl, rfl⟩ := Prod.mk.inj (Option.some.inj h)
    exact .inl ⟨_, rfl, rfl⟩
  · dsimp only at h
    split at h
    · obtain ⟨state, -, heq⟩ := Option.map_eq_some_iff.mp h
      obtain ⟨rfl, -⟩ := Prod.mk.inj heq
      exact .inr ⟨_, rfl, rfl⟩
    · obtain ⟨rfl, rfl⟩ := Prod.mk.inj (Option.some.inj h)
      exact .inl ⟨_, rfl, rfl⟩

theorem ReadRoomInv.post {caller : String} {request : PostRoomMessageRequest} {nowMs : ℕ}
    (h : ReadRoomInv canisterId world) :
    ReadRoomInv canisterId (world.post jsonError caller request nowMs) := by
  unfold ReadRoom.post
  split
  · rename_i message room hpost
    obtain ⟨hseq, hstore⟩ := postRoomMessage_spec hpost
    obtain ⟨error, herror, -⟩ | ⟨_, hmessage, hnamed⟩ := postRoomMessage_cases hpost
    · cases herror
    obtain rfl := Except.ok.inj hmessage
    obtain ⟨hcontiguous, hretained⟩ := h.contiguous.store h.retained hseq hstore
    obtain ⟨-, -, hmessages⟩ := store_spec hstore
    constructor
    · exact h.inv.store hseq hstore
    · exact hcontiguous
    · exact hretained
    · refine List.pairwise_append.mpr ⟨h.ordered, List.pairwise_singleton _ _, ?_⟩
      intro first hfirst second hsecond
      have hlt := h.inv.below first hfirst
      rw [List.mem_singleton.mp hsecond]
      omega
    · intro stored hstored
      rcases List.mem_append.mp hstored with hold | hnew
      · exact h.named stored hold
      · rw [List.mem_singleton.mp hnew]
        exact hnamed
    · refine ⟨h.readsAll.sorted, ?_, h.readsAll.complete⟩
      intro stored hstored
      obtain ⟨hposted, hsees⟩ := h.readsAll.visible stored hstored
      exact ⟨List.mem_append_left _ hposted, hsees⟩
    · exact h.below.store h.inv hseq hstore
    · exact h.behind
    · -- The new message is above the latest one, and so above the cursor.
      intro seq stored hstored hsees hbound
      rcases hmessages seq stored hstored with hold | ⟨-, rfl⟩
      · exact h.passed seq stored hold hsees hbound
      · obtain ⟨bound, hcursor, hle⟩ := hbound
        obtain ⟨latest, hlatest, hle'⟩ := h.below bound hcursor
        have hlt := h.inv.latestBelow latest hlatest
        omega
  · rename_i error room hpost
    obtain ⟨_, -, rfl⟩ | ⟨_, hmessage, -⟩ := postRoomMessage_cases hpost
    · exact h
    · cases hmessage
  · exact h

theorem ReadRoomInv.read {limit : ℕ} (h : ReadRoomInv canisterId world) :
    ReadRoomInv canisterId { world with reader := world.reader.read canisterId world.room limit } := by
  obtain hsame | ⟨hpositive, hlimit, hunfinished⟩ :=
    read_cases canisterId world.room limit world.reader
  · rw [hsame]
    exact h
  obtain ⟨hretained, hcollected, hremaining, hlastPage, hnext⟩ :=
    read_spec h.inv hpositive hlimit hunfinished
  have hmatching : world.reader.remaining world.room canisterId =
      world.room.matching world.reader.cursor (roomMessageMatchesTarget · canisterId) := by
    rw [RoomReader.remaining, hunfinished, if_neg Bool.false_ne_true]
  rw [hmatching] at hcollected hremaining hnext
  have hsorted : (world.room.matching world.reader.cursor
      (roomMessageMatchesTarget · canisterId)).Pairwise fun a b => a.seq < b.seq :=
    matching_sorted h.inv
  generalize hreader : world.reader.read canisterId world.room limit = reader at *
  -- A visible message is collected when it is not above the cursor, or the page is the last one.
  have hcomplete : ∀ (seq : ℕ) (message : RoomMessage), world.room.messages[seq]? = some message →
      roomMessageMatchesTarget message canisterId = true →
      (reader.finished = true ∨ ∃ bound, reader.cursor = some bound ∧ message.seq ≤ bound) →
        message ∈ reader.collected := by
    intro seq message hstored hsees hbound
    have hseq := (h.inv.stored seq message hstored).1
    rw [hcollected, List.mem_append]
    by_cases hafter : world.reader.cursor.all (· < seq) = true
    · right
      have hmem : message ∈ world.room.matching world.reader.cursor
          (roomMessageMatchesTarget · canisterId) := mem_matching.mpr ⟨seq, hstored, hafter, hsees⟩
      cases hfinished : reader.finished with
      | true =>
        rw [RoomReader.remaining, hfinished, if_pos rfl] at hremaining
        rw [← List.take_append_drop limit (world.room.matching _ _), ← hremaining] at hmem
        simpa using hmem
      | false =>
        obtain ⟨-, last, hlast, hcursor⟩ := hnext hfinished
        rw [hfinished, hcursor] at hbound
        obtain hfalse | ⟨bound, hbound, hle⟩ := hbound
        · cases hfalse
        · obtain rfl := Option.some.inj hbound
          rw [Slice.take_eq_filter hsorted hlast]
          exact List.mem_filter.mpr ⟨hmem, decide_eq_true hle⟩
    · left
      apply h.passed seq message hstored hsees
      cases hcursor : world.reader.cursor with
      | none => exact absurd (by rw [hcursor]; rfl) hafter
      | some bound =>
        rw [hcursor] at hafter
        have hle : seq ≤ bound := by simpa using hafter
        exact ⟨bound, rfl, by omega⟩
  have hpage : ∀ message ∈ (world.room.matching world.reader.cursor
      (roomMessageMatchesTarget · canisterId)).take limit, message ∈ world.posted ∧
      roomMessageMatchesTarget message canisterId = true ∧
        world.reader.cursor.all (· < message.seq) = true := by
    intro message hmessage
    obtain ⟨seq, hstored, hafter, hsees⟩ := mem_matching.mp (List.mem_of_mem_take hmessage)
    obtain ⟨hseq, hposted⟩ := h.inv.stored seq message hstored
    rw [hseq]
    exact ⟨hposted, hsees, hafter⟩
  constructor
  · exact h.inv
  · exact h.contiguous
  · exact h.retained
  · exact h.ordered
  · exact h.named
  · constructor
    · rw [hcollected]
      refine List.pairwise_append.mpr
        ⟨h.readsAll.sorted, hsorted.sublist (List.take_sublist limit _), ?_⟩
      intro first hfirst second hsecond
      obtain ⟨bound, hbound, hle⟩ := h.behind hunfinished first hfirst
      obtain ⟨-, -, hafter⟩ := hpage second hsecond
      rw [hbound] at hafter
      have hlt : bound < second.seq := by simpa using hafter
      omega
    · rw [hcollected]
      intro message hmessage
      rcases List.mem_append.mp hmessage with hold | hnew
      · exact h.readsAll.visible message hold
      · exact ⟨(hpage message hnew).1, (hpage message hnew).2.1⟩
    · rw [hretained]
      intro message hmessage hsees hbound
      obtain ⟨seq, hstored⟩ := mem_retained.mp hmessage
      exact hcomplete seq message hstored hsees hbound
  · intro bound hbound
    cases hfinished : reader.finished with
    | true =>
      rw [hlastPage hfinished] at hbound
      cases hbound
    | false =>
      obtain ⟨-, last, hlast, hcursor⟩ := hnext hfinished
      rw [hcursor] at hbound
      obtain rfl := Option.some.inj hbound
      exact h.inv.latest last (hpage last (List.mem_of_getLast? hlast)).1
  · intro hfinished message hmessage
    obtain ⟨-, last, hlast, hcursor⟩ := hnext hfinished
    refine ⟨last.seq, hcursor, ?_⟩
    rw [hcollected] at hmessage
    rcases List.mem_append.mp hmessage with hold | hnew
    · obtain ⟨bound, hbound, hle⟩ := h.behind hunfinished message hold
      obtain ⟨-, -, hafter⟩ := hpage last (List.mem_of_getLast? hlast)
      rw [hbound] at hafter
      have hlt : bound < last.seq := by simpa using hafter
      omega
    · rw [Slice.take_eq_filter hsorted hlast] at hnew
      exact of_decide_eq_true (List.mem_filter.mp hnew).2
  · exact fun seq message hstored hsees hbound =>
      hcomplete seq message hstored hsees (.inr hbound)

/-- A reader that has not read a page has passed nothing. -/
theorem ReadRoomInv.restart {room : RoomState} {posted : List RoomMessage}
    (hinv : RoomInv room posted) (hcontiguous : room.Contiguous)
    (hretained : room.messages.size ≤ maxRoomMessagesRetained)
    (hordered : posted.Pairwise fun first second => first.seq < second.seq)
    (hnamed : ∀ message ∈ posted, message.messageId = roomMessageId message.seq) :
    ReadRoomInv canisterId ⟨room, posted, .fresh⟩ := by
  refine ⟨hinv, hcontiguous, hretained, hordered, hnamed, ?_, ?_, ?_, ?_⟩
  · exact ⟨.nil, fun _ hmem => absurd hmem List.not_mem_nil, fun _ hmem =>
      absurd hmem List.not_mem_nil⟩
  · intro bound hbound
    cases hbound
  · exact fun _ _ hmem => absurd hmem List.not_mem_nil
  · rintro seq message - - ⟨bound, hbound, -⟩
    cases hbound

theorem ReadRoomInv.apply {act : ReadRoomAct} (h : ReadRoomInv canisterId world) :
    ReadRoomInv canisterId (act.apply jsonError canisterId world) := by
  cases act with
  | register registry =>
    exact ⟨⟨h.inv.stored, h.inv.unique, h.inv.below, h.inv.latest, h.inv.latestBelow⟩,
      h.contiguous.imp_right fun ⟨oldest, latest, hretains⟩ => ⟨oldest, latest,
        hretains.oldest_eq, hretains.latest_eq, hretains.ordered, hretains.next_eq, hretains.keys⟩,
      h.retained, h.ordered, h.named, h.readsAll, h.below, h.behind, h.passed⟩
  | post caller request nowMs => exact h.post
  | restart => exact .restart h.inv h.contiguous h.retained h.ordered h.named
  | read limit => exact h.read

theorem ReadRoomInv.fresh : ReadRoomInv canisterId .fresh := by
  have hinv : RoomInv .default [] := by
    constructor <;> simp [RoomState.default]
  refine .restart hinv (.inl ⟨rfl, rfl, rfl, rfl⟩) ?_ .nil fun _ hmem => absurd hmem List.not_mem_nil
  simp [RoomState.default]

/-- A reader that has finished stays as it is. -/
theorem run_read_of_finished {limit pages : ℕ} (hfinished : world.reader.finished = true) :
    run (ReadRoomAct.apply jsonError canisterId) (List.replicate pages (.read limit)) world =
      world := by
  induction pages with
  | zero => rfl
  | succ pages ih =>
    have hstep : (ReadRoomAct.read limit).apply jsonError canisterId world = world := by
      rw [ReadRoomAct.apply, RoomReader.read, if_pos hfinished]
    rw [List.replicate_succ, run, List.foldl_cons, hstep]
    exact ih

/-- With more pages than there are messages to read, a reader reads them all. -/
theorem run_read {limit pages : ℕ} (h : RoomInv world.room world.posted) (hpositive : 1 ≤ limit)
    (hlimit : limit ≤ maxRoomReadLimit)
    (hpages : (world.reader.remaining world.room canisterId).length < pages) :
    (run (ReadRoomAct.apply jsonError canisterId) (List.replicate pages (.read limit))
        world).reader.finished = true ∧
      (run (ReadRoomAct.apply jsonError canisterId) (List.replicate pages (.read limit))
        world).reader.collected =
          world.reader.collected ++ world.reader.remaining world.room canisterId := by
  induction pages generalizing world with
  | zero => omega
  | succ pages ih =>
    cases hfinished : world.reader.finished with
    | true =>
      rw [run_read_of_finished hfinished, RoomReader.remaining, hfinished, if_pos rfl,
        List.append_nil]
      exact ⟨rfl, rfl⟩
    | false =>
      obtain ⟨-, hcollected, hremaining, -, hnext⟩ := read_spec h hpositive hlimit hfinished
      have hall : (world.reader.read canisterId world.room limit).collected ++
          (world.reader.read canisterId world.room limit).remaining world.room canisterId =
          world.reader.collected ++ world.reader.remaining world.room canisterId := by
        rw [hcollected, hremaining, List.append_assoc, List.take_append_drop]
      rw [List.replicate_succ, run, List.foldl_cons, ← hall]
      cases hdone : (world.reader.read canisterId world.room limit).finished with
      | true =>
        have hsame : (List.replicate pages (ReadRoomAct.read limit)).foldl
            (fun world act => act.apply jsonError canisterId world)
            ((ReadRoomAct.read limit).apply jsonError canisterId world) =
              (ReadRoomAct.read limit).apply jsonError canisterId world :=
          run_read_of_finished hdone
        rw [hsame, RoomReader.remaining, hdone, if_pos rfl, List.append_nil]
        exact ⟨hdone, rfl⟩
      | false =>
        obtain ⟨hmore, -⟩ := hnext hdone
        have hlength := congrArg List.length hremaining
        rw [List.length_drop] at hlength
        have hfewer : ((world.reader.read canisterId world.room limit).remaining world.room
            canisterId).length < pages := by omega
        exact @ih ((ReadRoomAct.read limit).apply jsonError canisterId world) h hfewer

end Steps

/-- The retained messages that an automaton may see. -/
def RoomState.visibleTo (room : RoomState) (canisterId : String) : List RoomMessage :=
  (room.messages.toList.map (·.2)).filter (roomMessageMatchesTarget · canisterId)

theorem matching_none {room : RoomState} {canisterId : String} :
    room.matching none (roomMessageMatchesTarget · canisterId) = room.visibleTo canisterId := by
  have hall : (room.messages.toList.filter fun entry => (none : Option ℕ).all (· < entry.1)) =
      room.messages.toList := List.filter_eq_self.mpr fun _ _ => rfl
  rw [RoomState.matching, RoomState.after, RoomState.visibleTo, hall]

/-- In every state that is reached by registrations, posts and a reader's pages, the retained
messages have consecutive numbers up to the last one that was given, at most 500 are retained, no id
was used twice, and the reader skips nothing that is retained when it reads a page, whatever was
posted between its pages. Without posts in between, it reads exactly what the automaton may see. -/
theorem room_log_and_pages (jsonError : String → Option String) (canisterId : String)
    (world : ReadRoom)
    (hreach : Reachable (· = ReadRoom.fresh) (StepOf (ReadRoomAct.apply jsonError canisterId))
      world) :
    world.room.Contiguous ∧ world.room.messages.size ≤ maxRoomMessagesRetained ∧
      (world.posted.map (·.messageId)).Nodup ∧ world.reader.ReadsAll canisterId world.posted ∧
      (world.room.visibleTo canisterId).Pairwise (fun first second => first.seq < second.seq) ∧
      ∀ limit pages, 1 ≤ limit → limit ≤ maxRoomReadLimit → world.room.messages.size < pages →
        let finish := run (ReadRoomAct.apply jsonError canisterId)
          (.restart :: List.replicate pages (.read limit)) world
        finish.reader.finished = true ∧
          finish.reader.collected = world.room.visibleTo canisterId := by
  have h : ReadRoomInv canisterId world := by
    apply hreach.invariant
    · rintro _ rfl
      exact .fresh
    · rintro _ _ _ hinv rfl
      exact hinv.apply
  refine ⟨h.contiguous, h.retained, ?_, h.readsAll, ?_, ?_⟩
  · rw [List.nodup_iff_pairwise_ne, List.pairwise_map]
    refine h.ordered.imp_of_mem ?_
    intro first second hfirst hsecond hlt hsame
    rw [h.named first hfirst, h.named second hsecond, roomMessageId, roomMessageId,
      String.append_right_inj] at hsame
    have := Decimal.toString_injective hsame
    omega
  · rw [← matching_none]
    exact matching_sorted h.inv
  · intro limit pages hpositive hlimit hpages
    have hremaining : (RoomReader.remaining .fresh world.room canisterId) =
        world.room.visibleTo canisterId := by
      rw [RoomReader.remaining, ← matching_none]
      rfl
    have hfewer : (RoomReader.remaining .fresh world.room canisterId).length < pages := by
      refine lt_of_le_of_lt ?_ hpages
      rw [hremaining, ← Std.ExtTreeMap.length_toList]
      exact (List.length_filter_le _ _).trans (List.length_map _).le
    have hread := @run_read jsonError canisterId { world with reader := .fresh } limit pages h.inv
      hpositive hlimit hfewer
    rw [hremaining] at hread
    exact hread

section PostedRoom

/-- A post to the room. -/
def examplePost (body : String) (mentions : List String) : ReadRoomAct :=
  .post "poster" ⟨body, some mentions, none⟩ 1

/-- A room with two messages, one of which mentions another automaton. -/
def postedRoom : ReadRoom :=
  run (ReadRoomAct.apply (fun _ => none) "reader")
    [.register ((∅ : BTreeMap String Unit).insert "poster" ()), examplePost "hello" [],
      examplePost "to you" ["other"]] .fresh

theorem postedRoom_log :
    postedRoom.room.Contiguous ∧ postedRoom.room.messages.size = 2 ∧
      (run (ReadRoomAct.apply (fun _ => none) "reader")
        (.restart :: List.replicate 3 (.read 1)) postedRoom).reader.collected =
          postedRoom.room.visibleTo "reader" := by
  have hreach : Reachable (· = ReadRoom.fresh)
      (StepOf (ReadRoomAct.apply (fun _ => none) "reader")) postedRoom :=
    Reachable.run (.self _) _
  have hsize : postedRoom.room.messages.size = 2 := by decide +kernel
  obtain ⟨hcontiguous, -, -, -, -, hpages⟩ :=
    room_log_and_pages (fun _ => none) "reader" postedRoom hreach
  exact ⟨hcontiguous, hsize, (hpages 1 3 le_rfl (by decide) (by omega)).2⟩

end PostedRoom

end Automaton.Factory
