import Automaton.Agent.MemoryFacts
import Automaton.Library.Json
import Automaton.Library.Trail

/-!
# The journal

The entries of the journal are numbered, and the newest of them are kept. A few of these are
rendered into the context of a turn, in the order in which they were written, up to a largest number
of characters.
-/

namespace Automaton.Agent

open Trail

/-- `JournalDealClaim`. -/
structure JournalDealClaim where
  kind : String
  version : ℕ
  txHash : String
  peerCanisterId : String
  asset : String
  amountRaw : String
  deriving DecidableEq, Repr

/-- `JournalEntry`. -/
structure JournalEntry where
  id : ℕ
  turnId : String
  timestampNs : ℕ
  text : String
  genesis : Bool
  dealClaim : Option JournalDealClaim
  deriving DecidableEq, Repr

/-- The table `journal`, in the order of the ids. -/
structure Journal where
  rows : List JournalEntry
  ordered : rows.Pairwise fun earlier later => earlier.id < later.id

/-- `MAX_JOURNAL_ENTRIES`. -/
def maxJournalEntries : ℕ := 200

/-- `MAX_JOURNAL_ENTRY_CHARS`. -/
def maxJournalEntryChars : ℕ := 2000

/-- `MAX_JOURNAL_CONTEXT_ENTRIES`. -/
def maxJournalContextEntries : ℕ := 5

/-- `MAX_JOURNAL_CONTEXT_CHARS`. -/
def maxJournalContextChars : ℕ := 4000

/-- No entry was ever written. -/
def Journal.empty : Journal := ⟨[], .nil⟩

/-- The id after the largest one. -/
def Journal.nextId (journal : Journal) : ℕ := journal.rows.getLast?.elim 0 (·.id) + 1

theorem Journal.id_lt_nextId (journal : Journal) : ∀ entry ∈ journal.rows,
    entry.id < journal.nextId := by
  intro entry hentry
  have hne : journal.rows ≠ [] := List.ne_nil_of_mem hentry
  have hsplit := List.dropLast_append_getLast hne
  have hordered := journal.ordered
  rw [← hsplit] at hordered hentry
  have hlast : journal.nextId = (journal.rows.getLast hne).id + 1 := by
    rw [Journal.nextId, List.getLast?_eq_some_getLast hne]
    rfl
  rw [hlast]
  rcases List.mem_append.mp hentry with hearlier | hnewest
  · have := (List.pairwise_append.mp hordered).2.2 entry hearlier _ (List.mem_singleton_self _)
    omega
  · rw [List.mem_singleton.mp hnewest]
    omega

/-- `sqlite::append_journal_entry` of an entry that has the next id. -/
def Journal.push (journal : Journal) (entry : JournalEntry) (hid : entry.id = journal.nextId) :
    Journal where
  rows := Trail.push maxJournalEntries journal.rows entry
  ordered := by
    refine List.Pairwise.sublist keepNewest_suffix.sublist ?_
    refine List.pairwise_append.mpr ⟨journal.ordered, List.pairwise_singleton _ _, ?_⟩
    intro earlier hearlier later hlater
    rw [List.mem_singleton.mp hlater, hid]
    exact journal.id_lt_nextId earlier hearlier

theorem rows_push {journal : Journal} {entry : JournalEntry} {hid : entry.id = journal.nextId} :
    (journal.push entry hid).rows = Trail.push maxJournalEntries journal.rows entry := by
  simp only [Journal.push]

/-- Nothing is forgotten before the journal is full. -/
theorem rows_push_of_lt {journal : Journal} {entry : JournalEntry} {hid : entry.id = journal.nextId}
    (h : journal.rows.length < maxJournalEntries) :
    (journal.push entry hid).rows = journal.rows ++ [entry] := by
  have hlength : (journal.rows ++ [entry]).length ≤ maxJournalEntries := by
    rw [List.length_append, List.length_singleton]
    omega
  rw [rows_push]
  unfold Trail.push
  rw [keepNewest_of_le hlength]

/-- An entry that is to be appended, with the time. -/
structure JournalAppend where
  turnId : String
  text : String
  genesis : Bool
  dealClaim : Option JournalDealClaim
  nowNs : ℕ

/-- A text is an object with a trigger and an outcome. -/
def isDecisionEnvelope (parseJson : String → Except String JsonValue) (text : String) : Bool :=
  match parseJson text with
  | .ok (.object members) =>
    (JsonValue.fields members).contains "trigger" && (JsonValue.fields members).contains "outcome"
  | _ => false

/-- The checks of `append_journal_entry_with_claim`. -/
def checkJournalAppend (parseJson : String → Except String JsonValue) (append : JournalAppend) :
    Except String Unit :=
  let text := Text.trim append.text
  if text = "" then .error "journal text cannot be empty"
  else if maxJournalEntryChars < text.length then
    .error ("journal text exceeds " ++ toString maxJournalEntryChars ++ " characters")
  else if isDecisionEnvelope parseJson text then
    .error "journal text cannot contain a decision envelope"
  else if Text.trim append.turnId = "" then .error "journal turn_id cannot be empty"
  else .ok ()

/-- The entry that is stored. -/
def JournalAppend.entry (append : JournalAppend) (id : ℕ) : JournalEntry where
  id := id
  turnId := Text.trim append.turnId
  timestampNs := append.nowNs
  text := Text.trim append.text
  genesis := append.genesis
  dealClaim := append.dealClaim

theorem JournalAppend.id_entry (append : JournalAppend) (id : ℕ) : (append.entry id).id = id := rfl

/-- `append_journal_entry_with_claim`. -/
def Journal.append (parseJson : String → Except String JsonValue) (journal : Journal)
    (append : JournalAppend) : Except String JournalEntry × Journal :=
  match checkJournalAppend parseJson append with
  | .error error => (.error error, journal)
  | .ok () =>
    (.ok (append.entry journal.nextId),
      journal.push (append.entry journal.nextId) (append.id_entry journal.nextId))

/-- The journal after a sequence of calls. -/
def Journal.run (parseJson : String → Except String JsonValue) (appends : List JournalAppend) :
    Journal :=
  appends.foldl (fun journal append => (journal.append parseJson append).2) .empty

/-- `list_recent_journal_entries`. -/
def Journal.listRecent (journal : Journal) (limit : ℕ) : List JournalEntry :=
  if limit = 0 then []
  else journal.rows.reverse.take (boundedLimit (min limit maxJournalEntries) 25 200)

/-- `truncate_to_chars`. -/
def truncateToChars (value : String) (maxChars : ℕ) : String :=
  if value.length ≤ maxChars then value else String.ofList (value.toList.take maxChars)

/-- An entry as it is rendered. -/
def JournalEntry.rendered (entry : JournalEntry) : String :=
  "- [" ++ entry.turnId ++ "] " ++ entry.text

/-- The loop of `journal_brief_for_context`: the entries that are shown, with their lines. -/
def briefLoop : ℕ → List JournalEntry → List (JournalEntry × String)
  | _, [] => []
  | used, entry :: entries =>
    let remaining := maxJournalContextChars - used
    if remaining = 0 then []
    else
      let bounded := truncateToChars entry.rendered remaining
      (entry, bounded) :: briefLoop (used + bounded.length) entries

/-- The entries that `journal_brief_for_context` shows, with their lines. -/
def Journal.brief (journal : Journal) : List (JournalEntry × String) :=
  briefLoop 0 (journal.listRecent maxJournalContextEntries).reverse

/-- `journal_brief_for_context`. -/
def Journal.briefForContext (journal : Journal) : List String := journal.brief.map (·.2)

section Selection

/-- The last entries of the journal, in the order in which they were written. -/
def Journal.recent (journal : Journal) : List JournalEntry :=
  keepNewest maxJournalContextEntries journal.rows

/-- What is shown of entries: chronological lines that fit, the newest entry among them, and none
that is older than one that is omitted. -/
structure ShowsNewest (recent : List JournalEntry) (shown : List (JournalEntry × String)) :
    Prop where
  fits : (shown.map (·.2.length)).sum ≤ maxJournalContextChars
  chronological : shown.Pairwise fun earlier later => earlier.1.id < later.1.id
  lines : ∀ line ∈ shown, line.1 ∈ recent ∧ line.2.toList <+: line.1.rendered.toList
  newest : ∀ entry ∈ recent.getLast?, entry ∈ shown.map (·.1)
  omitted : ∀ line ∈ shown, ∀ entry ∈ recent, entry ∉ shown.map (·.1) → entry.id < line.1.id

/-- The number of characters of all entries but the newest. -/
def charsBeforeNewest (entries : List JournalEntry) : ℕ :=
  (entries.dropLast.map (·.rendered.length)).sum

variable {entries : List JournalEntry} {entry : JournalEntry} {used : ℕ}

theorem length_truncateToChars (value : String) (maxChars : ℕ) :
    (truncateToChars value maxChars).length = min value.length maxChars := by
  unfold truncateToChars
  split
  · omega
  · rw [String.length_ofList, List.length_take, String.length_toList, Nat.min_comm]

theorem truncateToChars_prefix (value : String) (maxChars : ℕ) :
    (truncateToChars value maxChars).toList <+: value.toList := by
  unfold truncateToChars
  split
  · exact List.prefix_refl _
  · rw [String.toList_ofList]
    exact List.take_prefix _ _

theorem rendered_length_pos (entry : JournalEntry) : 0 < entry.rendered.length := by
  unfold JournalEntry.rendered
  simp only [String.length_append]
  have hfront : "- [".length = 3 := rfl
  omega

/-- The lines fit into the characters that are left. -/
theorem sum_briefLoop_le (entries : List JournalEntry) (used : ℕ) :
    ((briefLoop used entries).map (·.2.length)).sum ≤ maxJournalContextChars - used := by
  induction entries generalizing used with
  | nil => exact Nat.zero_le _
  | cons entry entries ih =>
    rw [briefLoop]
    dsimp only
    split
    · exact Nat.zero_le _
    · have hrest := ih (used + (truncateToChars entry.rendered
        (maxJournalContextChars - used)).length)
      have hlength := length_truncateToChars entry.rendered (maxJournalContextChars - used)
      rw [List.map_cons, List.sum_cons]
      dsimp only
      omega

/-- The entries that are shown are the first ones. -/
theorem briefLoop_prefix (entries : List JournalEntry) (used : ℕ) :
    (briefLoop used entries).map (·.1) <+: entries := by
  induction entries generalizing used with
  | nil => exact List.prefix_refl _
  | cons entry entries ih =>
    rw [briefLoop]
    dsimp only
    split
    · exact List.nil_prefix
    · exact List.cons_prefix_cons.mpr ⟨rfl, ih _⟩

theorem briefLoop_lines (entries : List JournalEntry) (used : ℕ) :
    ∀ line ∈ briefLoop used entries, line.2.toList <+: line.1.rendered.toList := by
  induction entries generalizing used with
  | nil => simp [briefLoop]
  | cons entry entries ih =>
    rw [briefLoop]
    dsimp only
    split
    · simp
    · intro line hline
      rcases List.mem_cons.mp hline with rfl | hrest
      · exact truncateToChars_prefix _ _
      · exact ih _ line hrest

/-- All entries are shown when those in front of the newest leave some characters. -/
theorem briefLoop_all (h : used + charsBeforeNewest entries < maxJournalContextChars) :
    (briefLoop used entries).map (·.1) = entries := by
  induction entries generalizing used with
  | nil => rfl
  | cons entry entries ih =>
    rw [briefLoop]
    dsimp only
    rw [if_neg (by omega), List.map_cons]
    cases entries with
    | nil => rfl
    | cons next entries =>
      have hsum : charsBeforeNewest (entry :: next :: entries) =
          entry.rendered.length + charsBeforeNewest (next :: entries) := by
        simp [charsBeforeNewest]
      have hlength := length_truncateToChars entry.rendered (maxJournalContextChars - used)
      rw [ih (by omega)]

/-- The newest entry is not reached when those in front of it leave no characters. -/
theorem briefLoop_cut (hne : entries ≠ [])
    (h : maxJournalContextChars ≤ used + charsBeforeNewest entries) :
    (briefLoop used entries).map (·.1) <+: entries.dropLast := by
  induction entries generalizing used with
  | nil => exact absurd rfl hne
  | cons entry entries ih =>
    rw [briefLoop]
    dsimp only
    split
    · exact List.nil_prefix
    · rename_i hremaining
      cases entries with
      | nil =>
        have hnone : charsBeforeNewest [entry] = 0 := rfl
        omega
      | cons next entries =>
        have hsum : charsBeforeNewest (entry :: next :: entries) =
            entry.rendered.length + charsBeforeNewest (next :: entries) := by
          simp [charsBeforeNewest]
        have hlength := length_truncateToChars entry.rendered (maxJournalContextChars - used)
        rw [List.map_cons, List.dropLast_cons_cons]
        refine List.cons_prefix_cons.mpr ⟨rfl, ?_⟩
        by_cases hwhole : entry.rendered.length ≤ maxJournalContextChars - used
        · exact ih (List.cons_ne_nil _ _) (by omega)
        · exact ih (List.cons_ne_nil _ _) (by omega)

/-- What the loop shows of entries with increasing ids. -/
theorem showsNewest_briefLoop_iff
    (hordered : entries.Pairwise fun earlier later => earlier.id < later.id) :
    ShowsNewest entries (briefLoop 0 entries) ↔
      charsBeforeNewest entries < maxJournalContextChars := by
  have hprefix := briefLoop_prefix entries 0
  constructor
  · intro hshows
    by_contra hfull
    by_cases hne : entries = []
    · subst hne
      exact hfull (by decide)
    · have hcut := @briefLoop_cut _ 0 hne (by omega)
      have hnewest := hshows.newest _ (List.getLast?_eq_some_getLast hne)
      have hearlier := hcut.subset hnewest
      rw [← List.dropLast_append_getLast hne] at hordered
      have hlt := (List.pairwise_append.mp hordered).2.2 _ hearlier _ (List.mem_singleton_self _)
      exact lt_irrefl _ hlt
  · intro hroom
    have hall := @briefLoop_all entries 0 (by omega)
    have hsum := sum_briefLoop_le entries 0
    refine ⟨by omega, ?_, fun line hline => ⟨?_, briefLoop_lines entries 0 line hline⟩, ?_, ?_⟩
    · rw [← hall, List.pairwise_map] at hordered
      exact hordered
    · exact hprefix.subset (List.mem_map_of_mem hline)
    · intro entry hentry
      rw [hall]
      exact List.mem_of_getLast? hentry
    · intro line _ entry hentry homitted
      rw [hall] at homitted
      exact absurd hentry homitted

theorem recent_ordered (journal : Journal) :
    journal.recent.Pairwise fun earlier later => earlier.id < later.id :=
  journal.ordered.sublist keepNewest_suffix.sublist

/-- The entries that are listed, in the order in which they were written, are the last ones. -/
theorem reverse_listRecent (journal : Journal) :
    (journal.listRecent maxJournalContextEntries).reverse = journal.recent := by
  have hlimit : boundedLimit (min maxJournalContextEntries maxJournalEntries) 25 200 =
      maxJournalContextEntries := rfl
  rw [Journal.listRecent, if_neg (by decide), hlimit, List.reverse_take, List.reverse_reverse,
    List.length_reverse]
  rfl

end Selection

/-- What is shown of the journal after any calls: the newest entries, when the last entries but the
newest leave some of the characters, and never otherwise. -/
theorem brief_shows_newest_iff (parseJson : String → Except String JsonValue)
    (appends : List JournalAppend) :
    let journal := Journal.run parseJson appends
    journal.briefForContext = journal.brief.map (·.2) ∧
      (ShowsNewest journal.recent journal.brief ↔
        charsBeforeNewest journal.recent < maxJournalContextChars) := by
  intro journal
  refine ⟨rfl, ?_⟩
  rw [Journal.brief, reverse_listRecent]
  exact showsNewest_briefLoop_iff (recent_ordered journal)

section Crowded

/-- A text of the largest length. -/
def longText : String := String.ofList (List.replicate maxJournalEntryChars 'a')

/-- An entry with it. -/
def longAppend : JournalAppend := ⟨"t", longText, false, none, 0⟩

theorem trim_longText : Text.trim longText = longText := by
  apply Text.trim_eq_self_of_all
  intro c hc
  rw [longText, String.toList_ofList] at hc
  rw [List.eq_of_mem_replicate hc]
  decide

theorem length_longText : longText.length = maxJournalEntryChars := by
  rw [longText, String.length_ofList, List.length_replicate]

theorem append_longAppend (journal : Journal) :
    (journal.append (fun _ => .error "expected value") longAppend).2 =
      journal.push (longAppend.entry journal.nextId) (longAppend.id_entry _) := by
  have hne : longText ≠ "" := by
    intro hempty
    have hlength := length_longText
    rw [hempty] at hlength
    exact absurd hlength (by decide)
  have hchecked : checkJournalAppend (fun _ => .error "expected value") longAppend = .ok () := by
    unfold checkJournalAppend longAppend
    dsimp only
    rw [trim_longText, if_neg hne, length_longText]
    rfl
  rw [Journal.append, hchecked]

/-- The journal after three of them. -/
def crowdedJournal : Journal :=
  Journal.run (fun _ => .error "expected value") [longAppend, longAppend, longAppend]

/-- A journal that is not full has one more row after the entry. -/
theorem rows_append_longAppend {journal : Journal} {rows : List JournalEntry} {id : ℕ}
    (hrows : journal.rows = rows) (hroom : rows.length < maxJournalEntries)
    (hid : rows.getLast?.elim 0 (·.id) + 1 = id) :
    (journal.append (fun _ => .error "expected value") longAppend).2.rows =
      rows ++ [longAppend.entry id] := by
  have hnext : journal.nextId = id := by rw [Journal.nextId, hrows, hid]
  rw [append_longAppend, rows_push_of_lt (by rw [hrows]; exact hroom), hrows, hnext]

theorem rows_crowdedJournal : crowdedJournal.rows =
    [longAppend.entry 1, longAppend.entry 2, longAppend.entry 3] := by
  have hone := @rows_append_longAppend .empty [] 1 rfl
    (by simp [maxJournalEntries]) rfl
  have htwo := @rows_append_longAppend _ _ 2 hone (by simp [maxJournalEntries]) rfl
  have hthree := @rows_append_longAppend _ _ 3 htwo (by simp [maxJournalEntries]) rfl
  unfold crowdedJournal Journal.run
  rw [List.foldl_cons, List.foldl_cons, List.foldl_cons, List.foldl_nil, hthree]
  rfl

theorem length_rendered_longAppend (id : ℕ) : (longAppend.entry id).rendered.length = 2006 := by
  have htext : (longAppend.entry id).text = longText := trim_longText
  have hturn : (longAppend.entry id).turnId = "t" := by
    change Text.trim "t" = "t"
    decide
  have hopening : "- [".length = 3 := by decide
  have hclosing : "] ".length = 2 := by decide
  have hname : "t".length = 1 := by decide
  rw [JournalEntry.rendered, htext, hturn]
  simp only [String.length_append, length_longText, hopening, hclosing, hname]
  unfold maxJournalEntryChars
  omega

/-- Of three entries of the largest length the newest is not shown. -/
theorem crowded_journal_hides_newest :
    ¬ ShowsNewest crowdedJournal.recent crowdedJournal.brief := by
  have hrecent : crowdedJournal.recent =
      [longAppend.entry 1, longAppend.entry 2, longAppend.entry 3] := by
    rw [Journal.recent, rows_crowdedJournal, keepNewest_of_le]
    simp [maxJournalContextEntries]
  rw [Journal.brief, reverse_listRecent, showsNewest_briefLoop_iff (recent_ordered _), hrecent]
  simp only [charsBeforeNewest, List.dropLast_cons_cons, List.dropLast_singleton, List.map_cons,
    List.map_nil, length_rendered_longAppend, List.sum_cons, List.sum_nil]
  unfold maxJournalContextChars
  omega

end Crowded

end Automaton.Agent
