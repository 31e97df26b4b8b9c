import Mathlib.Data.List.Chain
import Mathlib.Tactic

/-!
# Trails

A trail is a list of steps, each of which starts where the one before it ended; the first one starts
from nothing. A log that keeps the newest entries keeps the end of a trail.
-/

namespace Trail

variable {σ ε : Type}

/-- The newest entries of a log. -/
def keepNewest (limit : ℕ) (log : List ε) : List ε := log.drop (log.length - limit)

/-- An entry is appended, and the newest ones are kept. -/
def push (limit : ℕ) (log : List ε) (entry : ε) : List ε := keepNewest limit (log ++ [entry])

section Log

variable {limit : ℕ} {log added : List ε} {entry : ε}

theorem length_keepNewest : (keepNewest limit log).length ≤ limit := by
  unfold keepNewest
  rw [List.length_drop]
  omega

theorem keepNewest_suffix : keepNewest limit log <:+ log := List.drop_suffix _ _

/-- Nothing is dropped before the limit. -/
theorem keepNewest_of_le (h : log.length ≤ limit) : keepNewest limit log = log := by
  unfold keepNewest
  rw [Nat.sub_eq_zero_of_le h, List.drop_zero]

/-- What is dropped early would be dropped later. -/
theorem keepNewest_drop {count : ℕ} (h : count ≤ log.length - limit) :
    keepNewest limit (log.drop count) = keepNewest limit log := by
  unfold keepNewest
  rw [List.drop_drop, List.length_drop]
  congr 1
  omega

theorem push_keepNewest : push limit (keepNewest limit log) entry =
    keepNewest limit (log ++ [entry]) := by
  have hdropped : keepNewest limit log ++ [entry] =
      (log ++ [entry]).drop (log.length - limit) :=
    (List.drop_append_of_le_length (Nat.sub_le _ _)).symm
  unfold push
  rw [hdropped]
  apply keepNewest_drop
  rw [List.length_append, List.length_singleton]
  omega

/-- A log that is written entry by entry is the end of all that was written. -/
theorem foldl_push (log added : List ε) :
    added.foldl (push limit) (keepNewest limit log) = keepNewest limit (log ++ added) := by
  induction added generalizing log with
  | nil => rw [List.foldl_nil, List.append_nil]
  | cons entry added ih =>
    rw [List.foldl_cons, push_keepNewest, ih, List.append_assoc, List.singleton_append]

/-- A log that keeps something ends as all that was written. -/
theorem getLast?_keepNewest (hlimit : 0 < limit) :
    (keepNewest limit log).getLast? = log.getLast? := by
  unfold keepNewest
  rw [List.getLast?_drop]
  split
  · rename_i hdropped
    have hnil : log = [] := List.length_eq_zero_iff.mp (by omega)
    rw [hnil, List.getLast?_nil]
  · rfl

theorem keepNewest_eq_nil (hlimit : 0 < limit) : keepNewest limit log = [] ↔ log = [] := by
  rw [← List.getLast?_eq_none_iff, getLast?_keepNewest hlimit, List.getLast?_eq_none_iff]

end Log

/-- The steps lead from one state to another. Nothing is a state, too. -/
def Path (source : ε → Option σ) (target : ε → σ) : Option σ → List ε → Option σ → Prop
  | start, [], stop => start = stop
  | start, entry :: entries, stop =>
    source entry = start ∧ Path source target (some (target entry)) entries stop

namespace Path

variable {source : ε → Option σ} {target : ε → σ} {start middle stop : Option σ}
  {entries more : List ε} {entry : ε}

/-- Paths compose. -/
theorem append (h : Path source target start entries middle)
    (h' : Path source target middle more stop) :
    Path source target start (entries ++ more) stop := by
  induction entries generalizing start with
  | nil =>
    obtain rfl : start = middle := h
    exact h'
  | cons entry entries ih => exact ⟨h.1, ih h.2⟩

/-- Each step starts where the one before it ended. -/
theorem isChain (h : Path source target start entries stop) :
    entries.IsChain fun entry next => source next = some (target entry) := by
  induction entries generalizing start with
  | nil => exact List.isChain_nil
  | cons entry entries ih =>
    refine List.IsChain.cons (ih h.2) ?_
    intro next hnext
    cases entries with
    | nil => cases hnext
    | cons first rest =>
      obtain rfl : first = next := Option.some.inj hnext
      exact h.2.1

/-- The last step ends where the path does. -/
theorem getLast?_target (h : Path source target start entries stop) (hne : entries ≠ []) :
    entries.getLast?.map target = stop := by
  induction entries generalizing start with
  | nil => exact absurd rfl hne
  | cons entry entries ih =>
    cases entries with
    | nil => exact h.2
    | cons next rest =>
      rw [List.getLast?_cons_cons]
      exact ih h.2 (List.cons_ne_nil next rest)

/-- Only the first step can start from nothing. -/
theorem source_ne_none (h : Path source target start (entry :: entries) stop) :
    ∀ later ∈ entries, source later ≠ none := by
  have hrest := h.2
  clear h
  induction entries generalizing entry with
  | nil => simp
  | cons next rest ih =>
    intro later hlater
    rcases List.mem_cons.mp hlater with rfl | hlater
    · rw [hrest.1]
      exact Option.some_ne_none _
    · exact ih hrest.2 later hlater

/-- A path from nothing to nothing has no steps. -/
theorem eq_nil_iff (h : Path source target none entries stop) : entries = [] ↔ stop = none := by
  constructor
  · rintro rfl
    exact Eq.symm h
  · rintro rfl
    by_contra hne
    have hlast := h.getLast?_target hne
    rw [Option.map_eq_none_iff, List.getLast?_eq_none_iff] at hlast
    exact hne hlast

end Path

end Trail
