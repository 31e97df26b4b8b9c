import Automaton.Library.BTreeMap
import Automaton.Library.Machine
import Automaton.Library.Sql
import Automaton.Library.Text
import Automaton.Library.Transition
import Mathlib.Data.List.Infix
import Mathlib.Data.List.MinMax
import Mathlib.Data.Prod.Lex
import Mathlib.Data.String.Basic

/-!
# Memory facts

The facts that the agent remembers are stored under their keys, up to a largest number. A new one
takes the place of the oldest one that is not critical, stale ones are pruned by their age, and
facts are listed, counted and pruned by the front of their keys, which is a pattern of `LIKE`.
-/

namespace Automaton.Agent

open Machine Sql Transition

/-- `MemoryFact`. -/
structure MemoryFact where
  key : String
  value : String
  createdAtNs : ℕ
  updatedAtNs : ℕ
  sourceTurnId : String
  deriving DecidableEq, Repr

/-- The table `memory_facts`. -/
abbrev MemoryFacts := BTreeMap String MemoryFact

/-- `MAX_MEMORY_FACTS`. -/
def maxMemoryFacts : ℕ := 500

/-- A text starts with another. -/
def startsWith (text front : String) : Bool := front.toList.isPrefixOf text.toList

/-- `is_critical_exact_memory_key`. -/
def isCriticalExactMemoryKey (key : String) : Bool :=
  key = "balance.eth" || key = "balance.eth.last_checked_ns" || startsWith key "balance.eth." ||
    startsWith key "wallet." || startsWith key "config."

/-- How the database orders rows by `updated_at_ns`. -/
abbrev UpdatedOrder := RowOrder MemoryFact fun first second =>
  columnOf first.updatedAtNs ≤ columnOf second.updatedAtNs

/-- The pattern of the keys with a front. -/
def prefixPattern (front : String) : List Char := front.toList ++ ['%']

/-- A key matches the pattern. -/
def matchesPrefix (front key : String) : Bool := Sql.like (prefixPattern front) key.toList

/-- `bounded_limit`. -/
def boundedLimit (limit fallback hardCap : ℕ) : ℕ :=
  if limit = 0 then min fallback hardCap else min limit hardCap

/-- `MemoryFactSort`. -/
inductive MemoryFactSort
  | updatedAtDesc
  | keyAsc
  deriving DecidableEq, Repr

/-- The comparison of `sort_memory_facts`. -/
def MemoryFactSort.le (sort : MemoryFactSort) (first second : MemoryFact) : Bool :=
  match sort with
  | .updatedAtDesc => second.updatedAtNs ≤ first.updatedAtNs
  | .keyAsc => first.key ≤ second.key

namespace MemoryFacts

variable (facts : MemoryFacts)

/-- The facts in the order of their keys. -/
def rows : List MemoryFact := facts.toList.map (·.2)

/-- `sqlite::list_all_memory_facts`. -/
def listAll (limit : ℕ) : List MemoryFact := facts.rows.take (boundedLimit limit 500 1000)

/-- `sqlite::list_memory_facts_by_prefix`. -/
def listByPrefix (front : String) (limit : ℕ) : List MemoryFact :=
  (facts.rows.filter (matchesPrefix front ·.key)).take (boundedLimit limit 500 1000)

/-- `list_memory_facts_by_prefix_sorted`. -/
def listByPrefixSorted (front : String) (limit : ℕ) (sort : MemoryFactSort) : List MemoryFact :=
  ((facts.listByPrefix front (max limit maxMemoryFacts)).mergeSort sort.le).take limit

/-- `count_memory_facts_by_prefix`. -/
def countByPrefix (front : String) : ℕ := facts.rows.countP (matchesPrefix front ·.key)

/-- `sqlite::delete_memory_fact`. -/
def delete (key : String) : MemoryFacts :=
  if Text.trim key = "" then facts else facts.erase (Text.trim key)

/-- The oldest fact that is not critical, which makes place in `set_memory_fact`; of facts of one
age it is the one with the first key. -/
def evictionCandidate : Option MemoryFact :=
  ((facts.listAll maxMemoryFacts).filter fun stored => !isCriticalExactMemoryKey stored.key).argmin
    fun stored => toLex (stored.updatedAtNs, stored.key)

/-- `set_memory_fact`, when there is no place for a new fact. -/
def setEvicting (fact : MemoryFact) : Except String MemoryFacts :=
  match facts.evictionCandidate with
  | none => .error
    "memory full: non-evictable capacity reached (all stored facts are critical)"
  | some candidate => .ok ((facts.delete candidate.key).insert fact.key fact)

/-- `set_memory_fact`. -/
def set (fact : MemoryFact) : Except String MemoryFacts :=
  if maxMemoryFacts ≤ facts.size ∧ facts[fact.key]? = none then facts.setEvicting fact
  else .ok (facts.insert fact.key fact)

/-- The facts that a prune is about: those whose keys match, when a front is given, and that were
updated before a time, when one is given. -/
def stale (front : Option String) (updatedBeforeNs : Option ℕ) : List MemoryFact :=
  facts.rows.filter fun fact =>
    front.all (matchesPrefix · fact.key) &&
      updatedBeforeNs.all fun before => columnOf fact.updatedAtNs < columnOf before

/-- The facts that `prune_memory_facts` selects: the oldest ones, up to a limit. -/
def pruned (order : UpdatedOrder) (front : Option String) (updatedBeforeNs : Option ℕ)
    (limit : ℕ) : List MemoryFact :=
  if front = none ∧ updatedBeforeNs = none then []
  else (order.sort (facts.stale front updatedBeforeNs)).take limit

/-- `prune_memory_facts`. -/
def prune (order : UpdatedOrder) (front : Option String) (updatedBeforeNs : Option ℕ)
    (limit : ℕ) : MemoryFacts :=
  (facts.pruned order front updatedBeforeNs limit).foldl (fun facts fact => facts.erase fact.key)
    facts

end MemoryFacts

/-- The time before which facts are stale. -/
def staleBefore (nowNs maxAgeSecs : ℕ) : ℕ :=
  nowNs - saturatingMul u64Max maxAgeSecs 1000000000

/-- What is done with the facts. A front is read by listing or counting the facts with it. -/
inductive MemoryAct
  | set (fact : MemoryFact)
  | remove (key : String)
  | prune (front : Option String) (updatedBeforeNs : Option ℕ) (limit : ℕ)
  | maintain (nowNs maxAgeSecs limit : ℕ)
  | read (front : String)

section Runs

variable (order : UpdatedOrder)

/-- The facts after an act. `maintain` is `prune_stale_non_critical_memory_facts`. -/
def MemoryAct.apply (act : MemoryAct) (facts : MemoryFacts) : MemoryFacts :=
  match act with
  | .set fact => (facts.set fact).toOption.getD facts
  | .remove key => facts.delete key
  | .prune front updatedBeforeNs limit => facts.prune order front updatedBeforeNs limit
  | .maintain nowNs maxAgeSecs limit =>
    facts.prune order none (some (staleBefore nowNs maxAgeSecs)) limit
  | .read _ => facts

/-- A fact that makes place for another is not critical, and none that is not critical is older. -/
def EvictsOldest (facts next : MemoryFacts) : Prop :=
  ∀ (key : String) (evicted : MemoryFact), facts[key]? = some evicted → next[key]? = none →
    isCriticalExactMemoryKey key = false ∧
      ∀ (other : String) (stored : MemoryFact), facts[other]? = some stored →
        isCriticalExactMemoryKey other = false → evicted.updatedAtNs ≤ stored.updatedAtNs

/-- What an act must not do to the facts. -/
def MemoryAct.Respects (act : MemoryAct) (facts : MemoryFacts) : Prop :=
  match act with
  | .set _ => EvictsOldest facts (act.apply order facts)
  | .remove _ => True
  | .prune front _ _ => ∀ key, facts[key]? ≠ none → (act.apply order facts)[key]? = none →
    front.all (startsWith key) = true
  | .maintain _ _ _ => ∀ key, isCriticalExactMemoryKey key = true →
    (act.apply order facts)[key]? = facts[key]?
  | .read front => (∀ limit sort, ∀ fact ∈ facts.listByPrefixSorted front limit sort,
      startsWith fact.key front = true) ∧
    facts.countByPrefix front = facts.rows.countP (startsWith ·.key front)

/-- An act respects what it must, and does not leave too many facts. -/
def MemoryAct.Keeps (facts : MemoryFacts) (act : MemoryAct) : Prop :=
  act.Respects order facts ∧ (act.apply order facts).size ≤ maxMemoryFacts

/-- The key of the fact that makes place is, without white space at its ends, the key of a fact that
is as old and not critical. -/
def EvictsNamed (facts : MemoryFacts) : Prop :=
  ∀ candidate, facts.evictionCandidate = some candidate → Text.trim candidate.key ≠ "" ∧
    isCriticalExactMemoryKey (Text.trim candidate.key) = false ∧
      ∃ stored, facts[Text.trim candidate.key]? = some stored ∧
        stored.updatedAtNs = candidate.updatedAtNs

/-- The condition on an act: a new fact that finds no place evicts the one that it names; among the
stale facts that are pruned none is critical; and no key matches the pattern of a front that is
read, or is pruned for it, without starting with the front. -/
def MemoryAct.Safe (facts : MemoryFacts) (act : MemoryAct) : Prop :=
  match act with
  | .set fact => maxMemoryFacts ≤ facts.size → facts[fact.key]? = none → EvictsNamed facts
  | .remove _ => True
  | .prune front updatedBeforeNs limit =>
    ∀ fact ∈ facts.pruned order front updatedBeforeNs limit,
      front.all (startsWith fact.key) = true
  | .maintain nowNs maxAgeSecs limit =>
    ∀ fact ∈ facts.pruned order none (some (staleBefore nowNs maxAgeSecs)) limit,
      isCriticalExactMemoryKey fact.key = false
  | .read front => ∀ fact ∈ facts.rows, matchesPrefix front fact.key = true →
    startsWith fact.key front = true

end Runs

/-- Facts are stored under their keys, and there are not too many. -/
structure MemoryOk (facts : MemoryFacts) : Prop where
  keyed : ∀ (key : String) (fact : MemoryFact), facts[key]? = some fact → fact.key = key
  fits : facts.size ≤ maxMemoryFacts

section Patterns

variable {key front : String}

theorem matchesPrefix_of_startsWith (h : startsWith key front = true) :
    matchesPrefix front key = true := by
  obtain ⟨rest, hkey⟩ := List.isPrefixOf_iff_prefix.mp h
  rw [matchesPrefix, prefixPattern, ← hkey]
  exact Sql.like_append

/-- The keys that match the pattern of a front without wildcards start with it, up to the case of
ASCII letters. -/
theorem matchesPrefix_plain_iff (hplain : ∀ c ∈ front.toList, c ≠ '%' ∧ c ≠ '_') :
    matchesPrefix front key = true ↔
      (Text.toAsciiLowercase front).toList <+: (Text.toAsciiLowercase key).toList := by
  unfold matchesPrefix prefixPattern Text.toAsciiLowercase
  rw [Sql.like_plain_iff hplain, String.toList_ofList, String.toList_ofList]

end Patterns

section Tables

variable {facts next : MemoryFacts} {fact : MemoryFact} {key front : String}

theorem MemoryOk.mem_rows (h : MemoryOk facts) :
    fact ∈ facts.rows ↔ facts[fact.key]? = some fact := by
  unfold MemoryFacts.rows
  rw [List.mem_map]
  constructor
  · rintro ⟨⟨key, stored⟩, hmem, rfl⟩
    have hstored := Std.ExtTreeMap.mem_toList_iff_getElem?_eq_some.mp hmem
    rw [h.keyed key stored hstored]
    exact hstored
  · intro hstored
    exact ⟨(fact.key, fact), Std.ExtTreeMap.mem_toList_iff_getElem?_eq_some.mpr hstored, rfl⟩

theorem length_rows : facts.rows.length = facts.size := by
  rw [MemoryFacts.rows, List.length_map, Std.ExtTreeMap.length_toList]

/-- All facts are listed. -/
theorem MemoryOk.listAll_eq (h : MemoryOk facts) : facts.listAll maxMemoryFacts = facts.rows := by
  have hlength : facts.rows.length ≤ boundedLimit maxMemoryFacts 500 1000 := by
    rw [length_rows]
    exact h.fits
  exact List.take_of_length_le hlength

/-- The candidate is the oldest fact that is not critical. -/
theorem MemoryOk.evictionCandidate_spec (h : MemoryOk facts) {candidate : MemoryFact}
    (hcandidate : facts.evictionCandidate = some candidate) :
    facts[candidate.key]? = some candidate ∧ isCriticalExactMemoryKey candidate.key = false ∧
      ∀ (other : String) (stored : MemoryFact), facts[other]? = some stored →
        isCriticalExactMemoryKey other = false →
          candidate.updatedAtNs ≤ stored.updatedAtNs := by
  unfold MemoryFacts.evictionCandidate at hcandidate
  rw [h.listAll_eq] at hcandidate
  obtain ⟨hmem, hplain⟩ := List.mem_filter.mp (List.argmin_mem hcandidate)
  refine ⟨h.mem_rows.mp hmem, by simpa using hplain, ?_⟩
  intro other stored hstored hother
  obtain rfl := h.keyed other stored hstored
  have hlisted : stored ∈ facts.rows.filter fun stored =>
      !isCriticalExactMemoryKey stored.key :=
    List.mem_filter.mpr ⟨h.mem_rows.mpr hstored, by simpa using hother⟩
  have hle := List.le_of_mem_argmin hlisted hcandidate
  rcases Prod.Lex.le_iff.mp hle with hlt | ⟨heq, -⟩
  · exact hlt.le
  · exact heq.le

/-- What was selected is erased, and nothing else is. -/
theorem get?_foldl_forget {selected : List MemoryFact} :
    (selected.foldl (fun facts fact => facts.erase fact.key) facts)[key]? =
      if key ∈ selected.map (·.key) then none else facts[key]? := by
  induction selected generalizing facts with
  | nil => simp
  | cons fact selected ih =>
    rw [List.foldl_cons, ih, BTreeMap.get?_erase]
    by_cases hkey : fact.key = key
    · simp [hkey]
    · simp [hkey, Ne.symm hkey]

theorem size_foldl_forget_le {selected : List MemoryFact} :
    (selected.foldl (fun facts fact => facts.erase fact.key) facts).size ≤ facts.size := by
  induction selected generalizing facts with
  | nil => exact le_rfl
  | cons fact selected ih =>
    rw [List.foldl_cons]
    exact ih.trans Std.ExtTreeMap.size_erase_le

/-- What is pruned was stored. -/
theorem MemoryOk.mem_pruned (h : MemoryOk facts) {order : UpdatedOrder} {front : Option String}
    {before : Option ℕ} {limit : ℕ} (hmem : fact ∈ facts.pruned order front before limit) :
    facts[fact.key]? = some fact := by
  unfold MemoryFacts.pruned at hmem
  split at hmem
  · cases hmem
  · have hsorted := (order.perm _).mem_iff.mp (List.mem_of_mem_take hmem)
    exact h.mem_rows.mp (List.mem_filter.mp hsorted).1

/-- A fact is gone after a prune when it was selected. -/
theorem MemoryOk.get?_prune_eq_none_iff (h : MemoryOk facts) {order : UpdatedOrder}
    {front : Option String} {before : Option ℕ} {limit : ℕ} (hstored : facts[key]? = some fact) :
    (facts.prune order front before limit)[key]? = none ↔
      fact ∈ facts.pruned order front before limit := by
  rw [MemoryFacts.prune, get?_foldl_forget]
  constructor
  · intro hgone
    split at hgone
    · rename_i hkey
      obtain ⟨other, hmem, rfl⟩ := List.mem_map.mp hkey
      rwa [← Option.some.inj ((h.mem_pruned hmem).symm.trans hstored)]
    · rw [hstored] at hgone
      cases hgone
  · intro hmem
    rw [if_pos]
    exact List.mem_map.mpr ⟨fact, hmem, h.keyed key fact hstored⟩

end Tables

section Steps

variable {order : UpdatedOrder} {facts : MemoryFacts}

theorem MemoryOk.set_iff (h : MemoryOk facts) (fact : MemoryFact) :
    (MemoryAct.set fact).Keeps order facts ↔ (MemoryAct.set fact).Safe order facts := by
  have hfits := h.fits
  by_cases hplace : maxMemoryFacts ≤ facts.size ∧ facts[fact.key]? = none
  · obtain ⟨hfull, hnew⟩ := hplace
    have happly : (MemoryAct.set fact).apply order facts =
        (facts.setEvicting fact).toOption.getD facts := by
      dsimp only [MemoryAct.apply]
      rw [MemoryFacts.set, if_pos ⟨hfull, hnew⟩]
    cases hcandidate : facts.evictionCandidate with
    | none =>
      have hsame : (MemoryAct.set fact).apply order facts = facts := by
        rw [happly, MemoryFacts.setEvicting, hcandidate]
        rfl
      have hkeeps : (MemoryAct.set fact).Keeps order facts := by
        refine ⟨?_, hsame.symm ▸ hfits⟩
        intro key evicted hstored hgone
        rw [hsame, hstored] at hgone
        cases hgone
      refine iff_of_true hkeeps ?_
      intro _ _ candidate hsome
      rw [hcandidate] at hsome
      cases hsome
    | some candidate =>
      obtain ⟨hstored, hplain, holdest⟩ := h.evictionCandidate_spec hcandidate
      have hafter : (MemoryAct.set fact).apply order facts =
          (facts.delete candidate.key).insert fact.key fact := by
        rw [happly, MemoryFacts.setEvicting, hcandidate]
        rfl
      have hsize : (facts.delete candidate.key = facts) →
          ¬ ((MemoryAct.set fact).apply order facts).size ≤ maxMemoryFacts := by
        intro hkept
        rw [hafter, hkept, BTreeMap.size_insert_of_none hnew]
        omega
      constructor
      · rintro ⟨hevicts, hbound⟩ _ _ other hother
        obtain rfl := Option.some.inj (hcandidate.symm.trans hother)
        have hnamed : Text.trim candidate.key ≠ "" := fun hblank => hsize (if_pos hblank) hbound
        cases htrim : facts[Text.trim candidate.key]? with
        | none =>
          refine absurd hbound (hsize ?_)
          rw [MemoryFacts.delete, if_neg hnamed, BTreeMap.erase_of_none htrim]
        | some stored =>
          have hother : fact.key ≠ Text.trim candidate.key := by
            intro hkey
            rw [hkey, htrim] at hnew
            cases hnew
          have hgone : ((MemoryAct.set fact).apply order facts)[Text.trim candidate.key]? =
              none := by
            rw [hafter, BTreeMap.get?_insert, if_neg hother, MemoryFacts.delete, if_neg hnamed,
              BTreeMap.get?_erase, if_pos rfl]
          obtain ⟨hcritical, hage⟩ := hevicts _ _ htrim hgone
          refine ⟨hnamed, hcritical, stored, rfl, ?_⟩
          have hyoungest := hage _ _ hstored hplain
          have holder := holdest _ _ htrim hcritical
          omega
      · intro hsafe
        obtain ⟨hnamed, hcritical, stored, htrim, hage⟩ := hsafe hfull hnew candidate hcandidate
        constructor
        · intro key evicted hevicted hgone
          have hkey : Text.trim candidate.key = key := by
            by_contra hne
            rw [hafter, BTreeMap.get?_insert] at hgone
            split at hgone
            · cases hgone
            · rw [MemoryFacts.delete, if_neg hnamed, BTreeMap.get?_erase, if_neg hne,
                hevicted] at hgone
              cases hgone
          subst hkey
          obtain rfl := Option.some.inj (htrim.symm.trans hevicted)
          refine ⟨hcritical, ?_⟩
          rw [hage]
          exact holdest
        · have hnew' : (facts.erase (Text.trim candidate.key))[fact.key]? = none := by
            rw [BTreeMap.get?_erase, hnew, ite_self]
          rw [hafter, MemoryFacts.delete, if_neg hnamed, BTreeMap.size_insert_of_none hnew',
            BTreeMap.size_erase_of_some htrim]
          have hpositive : 0 < maxMemoryFacts := by decide
          omega
  · -- There is a place, or the fact replaces one with its key.
    have hafter : (MemoryAct.set fact).apply order facts = facts.insert fact.key fact := by
      dsimp only [MemoryAct.apply]
      rw [MemoryFacts.set, if_neg hplace]
      rfl
    refine iff_of_true ⟨?_, ?_⟩ ?_
    · intro key evicted hstored hgone
      rw [hafter, BTreeMap.get?_insert] at hgone
      split at hgone
      · cases hgone
      · rw [hstored] at hgone
        cases hgone
    · rw [hafter]
      cases hcurrent : facts[fact.key]? with
      | none =>
        rw [BTreeMap.size_insert_of_none hcurrent]
        have hless : ¬ maxMemoryFacts ≤ facts.size := fun hfull => hplace ⟨hfull, hcurrent⟩
        omega
      | some current =>
        rw [BTreeMap.size_insert_of_some hcurrent]
        exact hfits
    · intro hfull hnew
      exact absurd ⟨hfull, hnew⟩ hplace

/-- What was pruned for a front starts with it exactly when all that was selected does. -/
theorem MemoryOk.prune_iff (h : MemoryOk facts) (front : Option String) (before : Option ℕ)
    (limit : ℕ) : (MemoryAct.prune front before limit).Keeps order facts ↔
      (MemoryAct.prune front before limit).Safe order facts := by
  constructor
  · rintro ⟨hrespects, -⟩ fact hfact
    have hstored := h.mem_pruned hfact
    apply hrespects fact.key
    · simp [hstored]
    · exact (h.get?_prune_eq_none_iff hstored).mpr hfact
  · intro hsafe
    refine ⟨?_, size_foldl_forget_le.trans h.fits⟩
    intro key hpresent hgone
    obtain ⟨fact, hstored⟩ := Option.ne_none_iff_exists'.mp hpresent
    rw [← h.keyed key fact hstored]
    exact hsafe fact ((h.get?_prune_eq_none_iff hstored).mp hgone)

/-- Maintenance keeps the critical facts exactly when it selects none. -/
theorem MemoryOk.maintain_iff (h : MemoryOk facts) (nowNs maxAgeSecs limit : ℕ) :
    (MemoryAct.maintain nowNs maxAgeSecs limit).Keeps order facts ↔
      (MemoryAct.maintain nowNs maxAgeSecs limit).Safe order facts := by
  constructor
  · rintro ⟨hrespects, -⟩ fact hfact
    have hstored := h.mem_pruned hfact
    have hgone := (h.get?_prune_eq_none_iff hstored).mpr hfact
    by_contra hcritical
    have hkept := hrespects fact.key (by simpa using hcritical)
    rw [hstored] at hkept
    exact absurd (hkept.symm.trans hgone) (by simp)
  · intro hsafe
    refine ⟨?_, size_foldl_forget_le.trans h.fits⟩
    intro key hcritical
    dsimp only [MemoryAct.apply, MemoryFacts.prune]
    rw [get?_foldl_forget, if_neg]
    intro hselected
    obtain ⟨fact, hfact, rfl⟩ := List.mem_map.mp hselected
    rw [hsafe fact hfact] at hcritical
    cases hcritical

/-- A front is read exactly when every key that matches its pattern starts with it. -/
theorem MemoryOk.read_iff (h : MemoryOk facts) (front : String) :
    (MemoryAct.read front).Keeps order facts ↔ (MemoryAct.read front).Safe order facts := by
  constructor
  · rintro ⟨⟨hlists, -⟩, -⟩ fact hfact hmatches
    have hlength : facts.rows.length ≤ maxMemoryFacts := length_rows ▸ h.fits
    apply hlists maxMemoryFacts .keyAsc fact
    have hfew : (facts.rows.filter (matchesPrefix front ·.key)).length ≤ maxMemoryFacts :=
      (List.length_filter_le _ _).trans hlength
    have hall : facts.listByPrefix front (max maxMemoryFacts maxMemoryFacts) =
        facts.rows.filter (matchesPrefix front ·.key) := List.take_of_length_le hfew
    have hlisted : fact ∈ (facts.rows.filter (matchesPrefix front ·.key)).mergeSort
        MemoryFactSort.keyAsc.le :=
      List.mem_mergeSort.mpr (List.mem_filter.mpr ⟨hfact, hmatches⟩)
    rw [MemoryFacts.listByPrefixSorted, hall, List.take_of_length_le]
    · exact hlisted
    · rw [List.length_mergeSort]
      exact hfew
  · intro hsafe
    refine ⟨⟨?_, ?_⟩, h.fits⟩
    · intro limit sort fact hfact
      have hsorted := List.mem_mergeSort.mp (List.mem_of_mem_take hfact)
      obtain ⟨hrow, hmatches⟩ := List.mem_filter.mp (List.mem_of_mem_take hsorted)
      exact hsafe fact hrow hmatches
    · apply List.countP_congr
      intro fact hfact
      exact ⟨hsafe fact hfact, matchesPrefix_of_startsWith⟩

theorem MemoryOk.keeps_iff (h : MemoryOk facts) (act : MemoryAct) :
    act.Keeps order facts ↔ act.Safe order facts := by
  cases act with
  | set fact => exact h.set_iff fact
  | remove key =>
    refine iff_of_true ⟨trivial, ?_⟩ trivial
    dsimp only [MemoryAct.apply]
    unfold MemoryFacts.delete
    split
    · exact h.fits
    · exact Std.ExtTreeMap.size_erase_le.trans h.fits
  | prune front before limit => exact h.prune_iff front before limit
  | maintain nowNs maxAgeSecs limit => exact h.maintain_iff nowNs maxAgeSecs limit
  | read front => exact h.read_iff front

/-- Erasing keeps the facts under their keys. -/
theorem keyed_erase {erased : String}
    (h : ∀ (key : String) (fact : MemoryFact), facts[key]? = some fact → fact.key = key) :
    ∀ (key : String) (fact : MemoryFact), (facts.erase erased)[key]? = some fact →
      fact.key = key := by
  intro key fact hstored
  rw [BTreeMap.get?_erase] at hstored
  split at hstored
  · cases hstored
  · exact h key fact hstored

theorem keyed_delete {deleted : String}
    (h : ∀ (key : String) (fact : MemoryFact), facts[key]? = some fact → fact.key = key) :
    ∀ (key : String) (fact : MemoryFact), (facts.delete deleted)[key]? = some fact →
      fact.key = key := by
  unfold MemoryFacts.delete
  split
  · exact h
  · exact keyed_erase h

theorem keyed_insert {inserted : MemoryFact}
    (h : ∀ (key : String) (fact : MemoryFact), facts[key]? = some fact → fact.key = key) :
    ∀ (key : String) (fact : MemoryFact), (facts.insert inserted.key inserted)[key]? = some fact →
      fact.key = key := by
  intro key fact hstored
  rw [BTreeMap.get?_insert] at hstored
  split at hstored
  · rename_i hkey
    rw [← Option.some.inj hstored, hkey]
  · exact h key fact hstored

theorem keyed_foldl_forget {selected : List MemoryFact}
    (h : ∀ (key : String) (fact : MemoryFact), facts[key]? = some fact → fact.key = key) :
    ∀ (key : String) (fact : MemoryFact),
      (selected.foldl (fun facts fact => facts.erase fact.key) facts)[key]? = some fact →
        fact.key = key := by
  intro key fact hstored
  rw [get?_foldl_forget] at hstored
  split at hstored
  · cases hstored
  · exact h key fact hstored

/-- Every act that leaves few enough facts leaves them under their keys. -/
theorem MemoryOk.apply (h : MemoryOk facts) {act : MemoryAct} (hkeeps : act.Keeps order facts) :
    MemoryOk (act.apply order facts) := by
  refine ⟨?_, hkeeps.2⟩
  cases act with
  | set fact =>
    dsimp only [MemoryAct.apply]
    unfold MemoryFacts.set
    split
    · unfold MemoryFacts.setEvicting
      split
      · exact h.keyed
      · exact keyed_insert (keyed_delete h.keyed)
    · exact keyed_insert h.keyed
  | remove key => exact keyed_delete h.keyed
  | prune front before limit => exact keyed_foldl_forget h.keyed
  | maintain nowNs maxAgeSecs limit => exact keyed_foldl_forget h.keyed
  | read front => exact h.keyed

end Steps

/-- Every act of a run keeps the facts that it must keep if and only if every act of the run meets
the condition. -/
theorem memory_kept_iff (order : UpdatedOrder) (acts : List MemoryAct) :
    Along (MemoryAct.apply order) (fun facts act => act.Keeps order facts) acts ∅ ↔
      Along (MemoryAct.apply order) (fun facts act => act.Safe order facts) acts ∅ := by
  have hempty : MemoryOk ∅ := ⟨by simp, Nat.zero_le _⟩
  exact along_iff (fun _ act h => h.keeps_iff act) (fun _ _ h hkeeps => h.apply hkeeps) hempty

section Forgotten

/-- Rows of one time in the order of their keys. -/
def byKey : UpdatedOrder := RowOrder.byColumn fun fact : MemoryFact => columnOf fact.updatedAtNs

/-- A fact that is critical. -/
def configFact : MemoryFact := ⟨"config.rpc", "on", 1, 1, "turn-1"⟩

/-- Maintenance forgets the critical fact. -/
theorem configFact_forgotten :
    ¬ Along (MemoryAct.apply byKey) (fun facts act => act.Keeps byKey facts)
      [.set configFact, .maintain 100000000000 1 100] ∅ := by
  rintro ⟨-, ⟨hrespects, -⟩, -⟩
  have hkept := hrespects "config.rpc" (by decide +kernel)
  revert hkept
  decide +kernel

end Forgotten

end Automaton.Agent
