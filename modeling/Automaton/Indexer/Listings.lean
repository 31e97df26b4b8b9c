import Automaton.Factory.Types
import Automaton.Indexer.RoomMirror
import Automaton.Library.Paging

/-!
# The listings of the store

The indexer's store lists the monologue, the journal, the room and the registry page by page. The
cursors of the journal, the room and the registry are keys of the rows. The cursor of the monologue
is a time, which entries share: those behind a page's end with its last entry's time are skipped.
-/

namespace Automaton.Indexer

open Factory Paging

/-- `MonologueEntry`. -/
structure MonologueEntry where
  timestamp : ℤ
  turnId : String
  type : String
  headline : String
  message : String
  category : String
  importance : String
  agentState : String
  toolCallCount : ℕ
  durationMs : Option ℕ
  error : Option String
  deriving DecidableEq, Repr

/-- A row of `monologue`. -/
structure MonologueRow where
  canisterId : String
  entry : MonologueEntry
  deriving DecidableEq, Repr

/-- The primary key of `monologue`. -/
def MonologueRow.key (row : MonologueRow) : String × ℤ × String :=
  (row.canisterId, row.entry.timestamp, row.entry.turnId)

/-- `JournalEntry`, without what is said about deals. -/
structure JournalEntry where
  id : ℤ
  turnId : String
  timestamp : ℤ
  text : String
  genesis : Bool
  deriving DecidableEq, Repr

/-- A row of `journal_entries`. -/
structure JournalRow where
  canisterId : String
  entry : JournalEntry
  deriving DecidableEq, Repr

/-- The primary key of `journal_entries`. -/
def JournalRow.key (row : JournalRow) : String × ℤ := (row.canisterId, row.entry.id)

/-- The mirror of the room, each message under its number. -/
structure StoredRoom extends RoomMirror where
  keyed : ∀ (seq : ℕ) (message : RoomMessage), rows[seq]? = some message → message.seq = seq

/-- The tables that are listed. -/
structure IndexerStore where
  monologue : Table MonologueRow MonologueRow.key
  journalEntries : Table JournalRow JournalRow.key
  room : StoredRoom
  spawnedAutomatonRegistry : Table SpawnedAutomatonRecord (·.canisterId)

/-- `MonologuePage`. -/
structure MonologuePage where
  entries : List MonologueEntry
  hasMore : Bool
  nextCursor : Option ℤ

/-- `JournalPage`. -/
structure JournalPage where
  entries : List JournalEntry
  hasMore : Bool
  nextCursor : Option ℤ

/-- `SpawnedAutomatonRegistryPage`. -/
structure SpawnedAutomatonRegistryPage where
  items : List SpawnedAutomatonRecord
  nextCursor : Option String

/-- `RoomMessageScope`. -/
inductive RoomMessageScope
  | all
  | relevant
  deriving DecidableEq, Repr

namespace IndexerStore

variable (store : IndexerStore)

/-- `appendMonologue`. -/
def appendMonologue (canisterId : String) (entries : List MonologueEntry) : IndexerStore :=
  { store with
    monologue := entries.foldl (fun table entry => table.upsert ⟨canisterId, entry⟩)
      store.monologue }

/-- `appendJournal`. -/
def appendJournal (canisterId : String) (entries : List JournalEntry) : IndexerStore :=
  { store with
    journalEntries := entries.foldl (fun table entry => table.upsert ⟨canisterId, entry⟩)
      store.journalEntries }

/-- `upsertSpawnedAutomatonRegistry`. -/
def upsertSpawnedAutomatonRegistry (records : List SpawnedAutomatonRecord) : IndexerStore :=
  { store with
    spawnedAutomatonRegistry := records.foldl Table.upsert store.spawnedAutomatonRegistry }

/-- The order of the monologue: the latest time first, and the last turn first. -/
def monologueOrder (entry : MonologueEntry) : (ℤ ×ₗ String)ᵒᵈ :=
  OrderDual.toDual (toLex (entry.timestamp, entry.turnId))

/-- The order of the journal: the last entry first. -/
def journalOrder (entry : JournalEntry) : ℤᵒᵈ := OrderDual.toDual entry.id

/-- `listMonologue`. -/
def listMonologue (canisterId : String) (before : Option ℤ) (limit : ℕ) : MonologuePage :=
  let rows := select
    (fun row : MonologueRow =>
      row.canisterId = canisterId && before.all fun before => row.entry.timestamp < before)
    (fun row => monologueOrder row.entry) (limit + 1) store.monologue.rows
  let hasMore := decide (limit < rows.length)
  let entries := (rows.take limit).map (·.entry)
  { entries := entries
    hasMore := hasMore
    nextCursor := if hasMore then entries.getLast?.map (·.timestamp) else none }

/-- `listJournal`. -/
def listJournal (canisterId : String) (before : Option ℤ) (limit : ℕ) : JournalPage :=
  let rows := select
    (fun row : JournalRow =>
      row.canisterId = canisterId && before.all fun before => row.entry.id < before)
    (fun row => journalOrder row.entry) (limit + 1) store.journalEntries.rows
  let hasMore := decide (limit < rows.length)
  let entries := (rows.take limit).map (·.entry)
  { entries := entries
    hasMore := hasMore
    nextCursor := if hasMore then entries.getLast?.map (·.id) else none }

/-- The clause of `listRoomMessages` about a scope: nobody is mentioned, or the automaton is. -/
def inScope (scope : Option RoomMessageScope) (canisterId : Option String)
    (message : RoomMessage) : Bool :=
  match scope, canisterId.filter (· ≠ "") with
  | some .relevant, some canisterId =>
    message.mentions.length = 0 || message.mentions.any (· = canisterId)
  | _, _ => true

/-- `listRoomMessages`. -/
def listRoomMessages (scope : Option RoomMessageScope) (canisterId : Option String)
    (afterSeq : Option ℕ) (limit : ℕ) : RoomMessagePage :=
  let rows := select
    (fun message : RoomMessage =>
      afterSeq.all (fun afterSeq => afterSeq < message.seq) && inScope scope canisterId message)
    (·.seq) (limit + 1) (store.room.rows.toList.map (·.2))
  let hasMore := decide (limit < rows.length)
  let messages := rows.take limit
  { messages := messages
    nextAfterSeq := if hasMore then messages.getLast?.map (·.seq) else none
    latestSeq := store.room.getLatestRoomMessageSeq }

/-- `listSpawnedAutomatonRegistry`. The empty cursor is no cursor. -/
def listSpawnedAutomatonRegistry (cursor : Option String) (limit : ℕ) :
    SpawnedAutomatonRegistryPage :=
  let rows := select
    (fun record : SpawnedAutomatonRecord =>
      (cursor.filter (· ≠ "")).all fun cursor => cursor < record.canisterId)
    (·.canisterId) (limit + 1) store.spawnedAutomatonRegistry.rows
  let hasMore := decide (limit < rows.length)
  let items := rows.take limit
  { items := items
    nextCursor := if hasMore then items.getLast?.map (·.canisterId) else none }

/-- The pages of the monologue of an automaton. -/
def monologuePages (canisterId : String) (limit : ℕ) (before : Option ℤ) :
    Page MonologueEntry ℤ :=
  let page := store.listMonologue canisterId before limit
  ⟨page.entries, page.hasMore, page.nextCursor⟩

/-- The pages of the journal of an automaton. -/
def journalPages (canisterId : String) (limit : ℕ) (before : Option ℤ) : Page JournalEntry ℤ :=
  let page := store.listJournal canisterId before limit
  ⟨page.entries, page.hasMore, page.nextCursor⟩

/-- The pages of the room: more remains where there is a next number. -/
def roomPages (scope : Option RoomMessageScope) (canisterId : Option String) (limit : ℕ)
    (afterSeq : Option ℕ) : Page RoomMessage ℕ :=
  let page := store.listRoomMessages scope canisterId afterSeq limit
  ⟨page.messages, page.nextAfterSeq.isSome, page.nextAfterSeq⟩

/-- The pages of the registry: more remains where there is a next cursor. -/
def registryPages (limit : ℕ) (cursor : Option String) : Page SpawnedAutomatonRecord String :=
  let page := store.listSpawnedAutomatonRegistry cursor limit
  ⟨page.items, page.nextCursor.isSome, page.nextCursor⟩

/-- The monologue of an automaton. -/
def monologueOf (canisterId : String) : List MonologueEntry :=
  (store.monologue.rows.filter fun row => row.canisterId = canisterId).map (·.entry)

/-- The journal of an automaton. -/
def journalOf (canisterId : String) : List JournalEntry :=
  (store.journalEntries.rows.filter fun row => row.canisterId = canisterId).map (·.entry)

/-- The messages of a scope. -/
def roomOf (scope : Option RoomMessageScope) (canisterId : Option String) : List RoomMessage :=
  (store.room.rows.toList.map (·.2)).filter (inScope scope canisterId)

end IndexerStore

section Stored

variable {room : StoredRoom}

theorem keyed_foldl_insert {messages : List RoomMessage} {rows : BTreeMap ℕ RoomMessage}
    (h : ∀ (seq : ℕ) (message : RoomMessage), rows[seq]? = some message → message.seq = seq)
    (seq : ℕ) (message : RoomMessage)
    (hmessage : (messages.foldl (fun rows message => rows.insert message.seq message) rows)[seq]? =
      some message) : message.seq = seq := by
  induction messages generalizing rows with
  | nil => exact h seq message hmessage
  | cons first messages ih =>
    refine ih ?_ hmessage
    intro seq message hinserted
    rw [BTreeMap.get?_insert] at hinserted
    split at hinserted
    · next hseq => rw [← Option.some.inj hinserted, hseq]
    · exact h seq message hinserted

/-- `upsertRoomMessages` keeps each message under its number. -/
def StoredRoom.upsertRoomMessages (room : StoredRoom) (messages : List RoomMessage)
    (latestSeq : Option ℕ) : StoredRoom where
  toRoomMirror := room.toRoomMirror.upsertRoomMessages messages latestSeq
  keyed := keyed_foldl_insert room.keyed

/-- `pruneRoomMessages` keeps each message under its number. -/
def StoredRoom.pruneRoomMessages (room : StoredRoom) (olderThan : ℤ) : StoredRoom where
  toRoomMirror := room.toRoomMirror.pruneRoomMessages olderThan
  keyed seq message hmessage := by
    rw [RoomMirror.pruneRoomMessages, Std.ExtTreeMap.getElem?_filter'] at hmessage
    exact room.keyed seq message (Option.filter_eq_some_iff.mp hmessage).1

/-- No two stored messages have one number. -/
theorem StoredRoom.nodup_seq (room : StoredRoom) :
    ((room.rows.toList.map (·.2)).map (·.seq)).Nodup := by
  rw [List.map_map]
  have hkeys := Std.ExtTreeMap.distinct_keys_toList (t := room.rows)
  refine List.pairwise_map.mpr (hkeys.imp_of_mem ?_)
  intro first second hfirst hsecond hne
  have hfirst := room.keyed first.1 first.2
    (Std.ExtTreeMap.mem_toList_iff_getElem?_eq_some.mp hfirst)
  have hsecond := room.keyed second.1 second.2
    (Std.ExtTreeMap.mem_toList_iff_getElem?_eq_some.mp hsecond)
  intro hseq
  refine hne (Std.LawfulEqCmp.compare_eq_iff_eq.mpr ?_)
  rw [← hfirst, ← hsecond]
  exact hseq

end Stored

namespace IndexerStore

variable {store : IndexerStore} {canisterId : String} {limit : ℕ}

theorem nodup_monologueOf : ((store.monologueOf canisterId).map monologueOrder).Nodup := by
  have hkeyed := List.pairwise_map.mp store.monologue.keyed
  rw [monologueOf, List.map_map]
  refine List.pairwise_map.mpr ((hkeyed.filter _).imp_of_mem ?_)
  intro first second hfirst hsecond hne hsame
  have hfirst := of_decide_eq_true (List.mem_filter.mp hfirst).2
  have hsecond := of_decide_eq_true (List.mem_filter.mp hsecond).2
  have horder : (first.entry.timestamp, first.entry.turnId) =
      (second.entry.timestamp, second.entry.turnId) := hsame
  exact hne (Prod.ext (hfirst.trans hsecond.symm) horder)

theorem nodup_journalOf : ((store.journalOf canisterId).map journalOrder).Nodup := by
  have hkeyed := List.pairwise_map.mp store.journalEntries.keyed
  rw [journalOf, List.map_map]
  refine List.pairwise_map.mpr ((hkeyed.filter _).imp_of_mem ?_)
  intro first second hfirst hsecond hne hsame
  have hfirst := of_decide_eq_true (List.mem_filter.mp hfirst).2
  have hsecond := of_decide_eq_true (List.mem_filter.mp hsecond).2
  have horder : first.entry.id = second.entry.id := hsame
  exact hne (Prod.ext (hfirst.trans hsecond.symm) horder)

theorem nodup_roomOf {scope : Option RoomMessageScope} {canisterId : Option String} :
    ((store.roomOf scope canisterId).map (·.seq)).Nodup :=
  store.room.nodup_seq.sublist (List.filter_sublist.map _)

/-- A page of the monologue is of the entries that remain at its cursor. -/
theorem monologuePages_eq (before : Option ℤ) : store.monologuePages canisterId limit before =
    lookAhead (·.timestamp) limit ((remaining (fun before entry => entry.timestamp < before)
      (ordered monologueOrder (store.monologueOf canisterId)) before).take (limit + 1)) := by
  have hrows := map_select (·.entry) store.monologue.rows
    (fun row : MonologueRow => decide (row.canisterId = canisterId))
    (fun entry => before.all fun before => decide (entry.timestamp < before)) (limit + 1)
    nodup_monologueOf
  rw [remaining_eq_filter, monologueOf, ← hrows]
  simp only [monologuePages, listMonologue, lookAhead, List.map_take, List.length_map,
    decide_eq_true_eq]

/-- A page of the journal is of the entries that remain at its cursor. -/
theorem journalPages_eq (before : Option ℤ) : store.journalPages canisterId limit before =
    lookAhead (·.id) limit ((remaining (fun before entry => entry.id < before)
      (ordered journalOrder (store.journalOf canisterId)) before).take (limit + 1)) := by
  have hrows := map_select (·.entry) store.journalEntries.rows
    (fun row : JournalRow => decide (row.canisterId = canisterId))
    (fun entry => before.all fun before => decide (entry.id < before)) (limit + 1) nodup_journalOf
  rw [remaining_eq_filter, journalOf, ← hrows]
  simp only [journalPages, listJournal, lookAhead, List.map_take, List.length_map,
    decide_eq_true_eq]

/-- A page of the room is of the messages of the scope that remain at its cursor. -/
theorem roomPages_eq {scope : Option RoomMessageScope} {canisterId : Option String}
    (hlimit : 1 ≤ limit) (afterSeq : Option ℕ) :
    store.roomPages scope canisterId limit afterSeq =
      lookAhead (·.seq) limit ((remaining (fun afterSeq message => afterSeq < message.seq)
        (ordered (·.seq) (store.roomOf scope canisterId)) afterSeq).take (limit + 1)) := by
  have hrows : select (fun message : RoomMessage =>
      afterSeq.all (fun afterSeq => decide (afterSeq < message.seq)) &&
        inScope scope canisterId message) (·.seq) (limit + 1) (store.room.rows.toList.map (·.2)) =
      (remaining (fun afterSeq message => decide (afterSeq < message.seq))
        (ordered (·.seq) (store.roomOf scope canisterId)) afterSeq).take (limit + 1) := by
    rw [remaining_eq_filter, ← ordered_filter nodup_roomOf, roomOf, List.filter_filter, select]
  rw [← hrows, roomPages, listRoomMessages, lookAhead]
  simp only [decide_eq_true_eq]
  congr 1
  exact isSome_nextCursor hlimit

/-- A page of the registry is of the records that remain at its cursor. -/
theorem registryPages_eq (hlimit : 1 ≤ limit) (cursor : Option String) :
    store.registryPages limit cursor =
      lookAhead (·.canisterId) limit ((remaining
        (fun cursor record => cursor = "" || decide (cursor < record.canisterId))
        (ordered (·.canisterId) store.spawnedAutomatonRegistry.rows) cursor).take (limit + 1)) := by
  have hrows : select (fun record : SpawnedAutomatonRecord =>
      (cursor.filter (· ≠ "")).all fun cursor => decide (cursor < record.canisterId))
        (·.canisterId) (limit + 1) store.spawnedAutomatonRegistry.rows =
      (remaining (fun cursor record => cursor = "" || decide (cursor < record.canisterId))
        (ordered (·.canisterId) store.spawnedAutomatonRegistry.rows) cursor).take (limit + 1) := by
    rw [remaining_eq_filter, ← ordered_filter store.spawnedAutomatonRegistry.keyed, select]
    congr 3
    funext record
    cases cursor with
    | none => rfl
    | some cursor => by_cases hempty : cursor = "" <;> simp [hempty]
  rw [← hrows, registryPages, listSpawnedAutomatonRegistry, lookAhead]
  simp only [decide_eq_true_eq]
  congr 1
  exact isSome_nextCursor hlimit

end IndexerStore

/-- Entries of one time in a row, of which a page has the first and not the second. -/
def TieAtPageEnd (limit : ℕ) (listed : List MonologueEntry) : Prop :=
  ∃ front last next back, listed = front ++ last :: next :: back ∧ limit ∣ front.length + 1 ∧
    last.timestamp = next.timestamp

namespace IndexerStore

variable {store : IndexerStore} {limit : ℕ}

/-- The monologue is listed if no page ends among entries of one time. -/
theorem monologue_listsOnce_iff (hlimit : 1 ≤ limit) (canisterId : String) :
    ListsOnce (store.monologuePages canisterId limit)
        (fun first second => monologueOrder first < monologueOrder second)
        (store.monologueOf canisterId) ↔
      ¬ TieAtPageEnd limit (ordered monologueOrder (store.monologueOf canisterId)) := by
  have hnodup : ((store.monologueOf canisterId).map monologueOrder).Nodup := nodup_monologueOf
  have hordered := ordered_pairwise hnodup
  have hbehind : ∀ last row : MonologueEntry, decide (row.timestamp < last.timestamp) = true →
      monologueOrder last < monologueOrder row := by
    intro last row h
    exact OrderDual.toDual_lt_toDual.mpr (Prod.Lex.toLex_lt_toLex.mpr (.inl (of_decide_eq_true h)))
  have horder : ∀ first second : MonologueEntry, monologueOrder first < monologueOrder second →
      second.timestamp ≤ first.timestamp := by
    intro first second h
    rcases Prod.Lex.toLex_lt_toLex.mp (OrderDual.toDual_lt_toDual.mp h) with h | h
    · exact h.le
    · exact h.1.le
  have hupward : ∀ (before : ℤ) (row other : MonologueEntry),
      decide (row.timestamp < before) = true → monologueOrder row < monologueOrder other →
        decide (other.timestamp < before) = true :=
    fun before row other hrow hother =>
      decide_eq_true ((horder row other hother).trans_lt (of_decide_eq_true hrow))
  rw [listsOnce_iff nodup_monologueOf, listsAll_iff_exact hlimit monologuePages_eq
    fun front last back hsplit => filter_after_suffix hordered hbehind hupward hsplit,
    exact_iff hordered hbehind hupward]
  constructor
  · rintro h ⟨front, last, next, back, hsplit, hdvd, htie⟩
    exact (of_decide_eq_true (h front last next back hsplit hdvd)).ne htie.symm
  · intro htie front last next back hsplit hdvd
    rw [hsplit] at hordered
    have hnext := (List.pairwise_cons.mp (List.pairwise_append.mp hordered).2.1).1 next
      List.mem_cons_self
    refine decide_eq_true (lt_of_le_of_ne (horder last next hnext) ?_)
    exact fun hsame => htie ⟨front, last, next, back, hsplit, hdvd, hsame.symm⟩

/-- The journal is listed. -/
theorem journal_listsOnce (hlimit : 1 ≤ limit) (canisterId : String) :
    ListsOnce (store.journalPages canisterId limit)
      (fun first second => journalOrder first < journalOrder second)
      (store.journalOf canisterId) := by
  rw [listsOnce_iff nodup_journalOf]
  refine listsAll_of_exact hlimit journalPages_eq ?_
  exact exact_of_key (ordered_pairwise nodup_journalOf) fun _ _ _ _ _ _ _ => rfl

/-- The room is listed, in either scope. -/
theorem room_listsOnce (hlimit : 1 ≤ limit) (scope : Option RoomMessageScope)
    (canisterId : Option String) :
    ListsOnce (store.roomPages scope canisterId limit)
      (fun first second => first.seq < second.seq) (store.roomOf scope canisterId) := by
  rw [listsOnce_iff nodup_roomOf]
  refine listsAll_of_exact hlimit (roomPages_eq hlimit) ?_
  exact exact_of_key (ordered_pairwise nodup_roomOf) fun _ _ _ _ _ _ _ => rfl

/-- The empty identifier is the first one. -/
theorem front_eq_nil {records front back : List SpawnedAutomatonRecord}
    {record : SpawnedAutomatonRecord} (hempty : record.canisterId = "")
    (hordered : records.Pairwise fun first second => first.canisterId < second.canisterId)
    (hsplit : records = front ++ record :: back) : front = [] := by
  rw [hsplit] at hordered
  refine List.eq_nil_iff_forall_not_mem.mpr fun other hother => ?_
  have hlt := (List.pairwise_append.mp hordered).2.2 other hother record List.mem_cons_self
  rw [hempty, String.lt_iff_toList_lt] at hlt
  exact List.not_lt_nil _ hlt

/-- The registry is listed unless a page ends with an empty identifier. -/
theorem registry_listsOnce_iff (hlimit : 1 ≤ limit) :
    ListsOnce (store.registryPages limit)
        (fun first second => first.canisterId < second.canisterId)
        store.spawnedAutomatonRegistry.rows ↔
      ¬ (limit = 1 ∧ 1 < store.spawnedAutomatonRegistry.rows.length ∧
        ∃ record ∈ store.spawnedAutomatonRegistry.rows, record.canisterId = "") := by
  have hkeyed := store.spawnedAutomatonRegistry.keyed
  have hordered := ordered_pairwise hkeyed
  rw [listsOnce_iff hkeyed]
  constructor
  · rintro ⟨fuel, pages, hpages, -⟩ ⟨rfl, hlength, record, hrecord, hempty⟩
    have hmem : record ∈ ordered (·.canisterId) store.spawnedAutomatonRegistry.rows :=
      ordered_perm.mem_iff.mpr hrecord
    obtain ⟨front, back, hsplit⟩ := List.append_of_mem hmem
    have hfront := front_eq_nil hempty hordered hsplit
    subst hfront
    have hback : back ≠ [] := by
      rintro rfl
      have hone := congrArg List.length hsplit
      rw [ordered_perm.length_eq] at hone
      simp only [List.nil_append, List.length_singleton] at hone
      omega
    -- the empty cursor of the first page asks for the first page again
    have hzero : ([] : List SpawnedAutomatonRecord).length + 1 = 1 := rfl
    have hnext : (store.registryPages 1 none).nextCursor = some "" := by
      rw [registryPages_eq hlimit, remaining, hsplit, lookAhead_full hzero hback, hempty]
    have hagain : store.registryPages 1 (some "") = store.registryPages 1 none := by
      rw [registryPages_eq hlimit, registryPages_eq hlimit, remaining, remaining,
        List.filter_eq_self.mpr]
      exact fun _ _ => rfl
    rw [follow_eq_none hnext hagain] at hpages
    cases hpages
  · intro hends
    refine listsAll_of_exact hlimit (registryPages_eq hlimit) (exact_of_key hordered ?_)
    intro front last next back hsplit hdvd row
    have hlast : last.canisterId ≠ "" := by
      intro hempty
      have hfront := front_eq_nil hempty hordered hsplit
      subst hfront
      have hlisted : last ∈ ordered (·.canisterId) store.spawnedAutomatonRegistry.rows := by
        rw [hsplit]
        exact List.mem_append_right _ List.mem_cons_self
      have hmem := ordered_perm.mem_iff.mp hlisted
      have hlength := congrArg List.length hsplit
      rw [ordered_perm.length_eq] at hlength
      simp only [List.nil_append, List.length_cons] at hlength
      exact hends ⟨Nat.dvd_one.mp hdvd, by omega, last, hmem, hempty⟩
    simp [hlast]

end IndexerStore

/-- The listings list what they are about, each row once. -/
structure ListsEverything (store : IndexerStore) (limit : ℕ) : Prop where
  monologue : ∀ canisterId, ListsOnce (store.monologuePages canisterId limit)
    (fun first second => IndexerStore.monologueOrder first < IndexerStore.monologueOrder second)
    (store.monologueOf canisterId)
  journal : ∀ canisterId, ListsOnce (store.journalPages canisterId limit)
    (fun first second => IndexerStore.journalOrder first < IndexerStore.journalOrder second)
    (store.journalOf canisterId)
  room : ∀ scope canisterId, ListsOnce (store.roomPages scope canisterId limit)
    (fun first second => first.seq < second.seq) (store.roomOf scope canisterId)
  registry : ListsOnce (store.registryPages limit)
    (fun first second => first.canisterId < second.canisterId)
    store.spawnedAutomatonRegistry.rows

/-- Everything is listed once exactly if no page of a monologue ends among entries of one time, and
no page of the registry ends with an empty identifier. -/
theorem listsEverything_iff (store : IndexerStore) {limit : ℕ} (hlimit : 1 ≤ limit) :
    ListsEverything store limit ↔
      (∀ canisterId, ¬ TieAtPageEnd limit
        (ordered IndexerStore.monologueOrder (store.monologueOf canisterId))) ∧
      ¬ (limit = 1 ∧ 1 < store.spawnedAutomatonRegistry.rows.length ∧
        ∃ record ∈ store.spawnedAutomatonRegistry.rows, record.canisterId = "") := by
  constructor
  · intro h
    exact ⟨fun canisterId => (IndexerStore.monologue_listsOnce_iff hlimit canisterId).mp
      (h.monologue canisterId), (IndexerStore.registry_listsOnce_iff hlimit).mp h.registry⟩
  · rintro ⟨hties, hends⟩
    exact {
      monologue := fun canisterId =>
        (IndexerStore.monologue_listsOnce_iff hlimit canisterId).mpr (hties canisterId)
      journal := IndexerStore.journal_listsOnce hlimit
      room := IndexerStore.room_listsOnce hlimit
      registry := (IndexerStore.registry_listsOnce_iff hlimit).mpr hends }

/-- An entry of the example. -/
def exampleEntry (timestamp : ℤ) (turnId : String) : MonologueEntry where
  timestamp := timestamp
  turnId := turnId
  type := "action"
  headline := "Checked the balance"
  message := ""
  category := "other"
  importance := "low"
  agentState := "Idle"
  toolCallCount := 1
  durationMs := none
  error := none

/-- A store before anything is written. -/
def emptyStore : IndexerStore where
  monologue := .empty
  journalEntries := .empty
  room := { rows := ∅, latestIngestedSeq := none, keyed := by simp }
  spawnedAutomatonRegistry := .empty

/-- Two turns at one time. -/
def tiedStore : IndexerStore :=
  emptyStore.appendMonologue "aaaaa-aa" [exampleEntry 7 "turn-1", exampleEntry 7 "turn-2"]

/-- Pages never end among entries of different times. -/
theorem not_tieAtPageEnd {limit : ℕ} {entries : List MonologueEntry}
    (hnodup : (entries.map (·.timestamp)).Nodup) :
    ¬ TieAtPageEnd limit (ordered IndexerStore.monologueOrder entries) := by
  rintro ⟨front, last, next, back, hsplit, -, htie⟩
  have hordered : (ordered IndexerStore.monologueOrder entries).Perm entries := ordered_perm
  rw [← (hordered.map (·.timestamp)).nodup_iff, hsplit, List.map_append] at hnodup
  have hlast := (List.nodup_append.mp hnodup).2.1
  rw [List.map_cons, List.map_cons, htie] at hlast
  exact (List.nodup_cons.mp hlast).1 List.mem_cons_self

/-- Entries of different times are listed. -/
theorem listsEverything_distinct :
    ListsEverything (emptyStore.appendMonologue "aaaaa-aa"
      [exampleEntry 7 "turn-1", exampleEntry 8 "turn-2"]) 1 := by
  refine (listsEverything_iff _ (by decide)).mpr ⟨fun canisterId => not_tieAtPageEnd ?_, ?_⟩
  · have htimes : (([⟨"aaaaa-aa", exampleEntry 7 "turn-1"⟩, ⟨"aaaaa-aa", exampleEntry 8 "turn-2"⟩] :
        List MonologueRow).map (·.entry.timestamp)).Nodup := by decide
    rw [IndexerStore.monologueOf, List.map_map]
    exact htimes.sublist (List.filter_sublist.map _)
  · rintro ⟨-, hlength, -⟩
    exact absurd hlength (by decide)

/-- With pages of one entry the second one of the two turns is never listed. -/
theorem tiedStore_skips : ¬ ListsEverything tiedStore 1 := by
  intro h
  have hlisted := (IndexerStore.monologue_listsOnce_iff (le_refl 1) "aaaaa-aa").mp
    (h.monologue "aaaaa-aa")
  refine hlisted ?_
  have hmonologue : tiedStore.monologueOf "aaaaa-aa" =
      [exampleEntry 7 "turn-1", exampleEntry 7 "turn-2"] := by with_unfolding_all rfl
  have hturns : IndexerStore.monologueOrder (exampleEntry 7 "turn-2") <
      IndexerStore.monologueOrder (exampleEntry 7 "turn-1") :=
    OrderDual.toDual_lt_toDual.mpr (Prod.Lex.toLex_lt_toLex.mpr (.inr ⟨rfl, by decide⟩))
  have hordered : ordered IndexerStore.monologueOrder (tiedStore.monologueOf "aaaaa-aa") =
      [exampleEntry 7 "turn-2", exampleEntry 7 "turn-1"] := by
    refine eq_of_perm_of_pairwise (ordered_pairwise IndexerStore.nodup_monologueOf)
      (List.pairwise_pair.mpr hturns) (ordered_perm.trans ?_)
    rw [hmonologue]
    exact List.Perm.swap _ _ _
  rw [hordered]
  exact ⟨[], _, _, [], rfl, one_dvd _, rfl⟩

end Automaton.Indexer
