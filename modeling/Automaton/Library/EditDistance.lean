import Mathlib.Order.Bounds.Basic
import Mathlib.Order.MinMax
import Mathlib.Tactic.Common

/-!
# Edit distance over lists

The distance is defined by the usual recursion on the two heads and shown to be
the least cost of an edit script. Scripts can be reversed and split, which gives
the recurrence on last elements that a row-by-row table follows and the fact
that every script crosses every row of that table.
-/

namespace EditDistance

variable {α : Type*}

/-- An edit script from one list to another, with the number of its deletions,
insertions and substitutions. -/
inductive Edits : List α → List α → ℕ → Prop
  | nil : Edits [] [] 0
  | delete {xs ys : List α} {k : ℕ} (x : α) : Edits xs ys k → Edits (x :: xs) ys (k + 1)
  | insert {xs ys : List α} {k : ℕ} (y : α) : Edits xs ys k → Edits xs (y :: ys) (k + 1)
  | keep {xs ys : List α} {k : ℕ} (x : α) : Edits xs ys k → Edits (x :: xs) (x :: ys) k
  | substitute {xs ys : List α} {k : ℕ} (x y : α) :
      Edits xs ys k → Edits (x :: xs) (y :: ys) (k + 1)

/-- Deleting a whole list costs its length. -/
theorem Edits.delete_all (xs : List α) : Edits xs [] xs.length := by
  induction xs with
  | nil => exact .nil
  | cons x xs ih => exact .delete x ih

/-- Inserting a whole list costs its length. -/
theorem Edits.insert_all (ys : List α) : Edits [] ys ys.length := by
  induction ys with
  | nil => exact .nil
  | cons y ys ih => exact .insert y ih

/-- Keeping every element costs nothing. -/
theorem Edits.refl (xs : List α) : Edits xs xs 0 := by
  induction xs with
  | nil => exact .nil
  | cons x xs ih => exact .keep x ih

/-- Scripts on adjacent segments compose, and their costs add. -/
theorem Edits.append {xs ys xs' ys' : List α} {k k' : ℕ} (h : Edits xs ys k)
    (h' : Edits xs' ys' k') : Edits (xs ++ xs') (ys ++ ys') (k + k') := by
  induction h with
  | nil => simpa using h'
  | delete x _ ih => simpa [Nat.add_right_comm] using ih.delete x
  | insert y _ ih => simpa [Nat.add_right_comm] using ih.insert y
  | keep x _ ih => simpa using ih.keep x
  | substitute x y _ ih => simpa [Nat.add_right_comm] using ih.substitute x y

/-- A script read backwards is a script between the reversed lists. -/
theorem Edits.reverse {xs ys : List α} {k : ℕ} (h : Edits xs ys k) :
    Edits xs.reverse ys.reverse k := by
  induction h with
  | nil => exact .nil
  | delete x _ ih => simpa using ih.append (Edits.nil.delete x)
  | insert y _ ih => simpa using ih.append (Edits.nil.insert y)
  | keep x _ ih => simpa using ih.append (Edits.nil.keep x)
  | substitute x y _ ih => simpa using ih.append (Edits.nil.substitute x y)

/-- A script of a concatenation splits where the first part of the source ends.
This is the statement that a path through the table crosses every row. -/
theorem Edits.split {xs xs' ys : List α} {k : ℕ} (h : Edits (xs ++ xs') ys k) :
    ∃ j k₁ k₂, j ≤ ys.length ∧ Edits xs (ys.take j) k₁ ∧ Edits xs' (ys.drop j) k₂ ∧
      k = k₁ + k₂ := by
  generalize hsource : xs ++ xs' = source at h
  induction h generalizing xs with
  | nil =>
    obtain ⟨rfl, rfl⟩ := List.append_eq_nil_iff.mp hsource
    exact ⟨0, 0, 0, le_rfl, .nil, .nil, rfl⟩
  | @delete tail ys k x hscript ih =>
    cases xs with
    | nil =>
      rw [List.nil_append] at hsource
      exact ⟨0, 0, k + 1, Nat.zero_le _, .nil, hsource ▸ hscript.delete x, by omega⟩
    | cons x' xs =>
      obtain ⟨rfl, htail⟩ := List.cons.inj hsource
      obtain ⟨j, k₁, k₂, hj, hfirst, hsecond, hk⟩ := ih htail
      exact ⟨j, k₁ + 1, k₂, hj, hfirst.delete _, hsecond, by omega⟩
  | @insert source ys k y hscript ih =>
    obtain ⟨j, k₁, k₂, hj, hfirst, hsecond, hk⟩ := ih hsource
    exact ⟨j + 1, k₁ + 1, k₂, by simpa using hj, by simpa using hfirst.insert y,
      by simpa using hsecond, by omega⟩
  | @keep tail ys k x hscript ih =>
    cases xs with
    | nil =>
      rw [List.nil_append] at hsource
      exact ⟨0, 0, k, Nat.zero_le _, .nil, hsource ▸ hscript.keep x, by omega⟩
    | cons x' xs =>
      obtain ⟨rfl, htail⟩ := List.cons.inj hsource
      obtain ⟨j, k₁, k₂, hj, hfirst, hsecond, hk⟩ := ih htail
      exact ⟨j + 1, k₁, k₂, by simpa using hj, by simpa using hfirst.keep x',
        by simpa using hsecond, hk⟩
  | @substitute tail ys k x y hscript ih =>
    cases xs with
    | nil =>
      rw [List.nil_append] at hsource
      exact ⟨0, 0, k + 1, Nat.zero_le _, .nil, hsource ▸ hscript.substitute x y, by omega⟩
    | cons x' xs =>
      obtain ⟨rfl, htail⟩ := List.cons.inj hsource
      obtain ⟨j, k₁, k₂, hj, hfirst, hsecond, hk⟩ := ih htail
      exact ⟨j + 1, k₁ + 1, k₂, by simpa using hj, by simpa using hfirst.substitute x' y,
        by simpa using hsecond, by omega⟩

/-- A script cannot change the length by more than its cost. -/
theorem Edits.length_le {xs ys : List α} {k : ℕ} (h : Edits xs ys k) :
    xs.length ≤ ys.length + k ∧ ys.length ≤ xs.length + k := by
  induction h with
  | nil => simp
  | delete x _ ih => simp only [List.length_cons]; omega
  | insert y _ ih => simp only [List.length_cons]; omega
  | keep x _ ih => simp only [List.length_cons]; omega
  | substitute x y _ ih => simp only [List.length_cons]; omega

variable [DecidableEq α]

/-- The Levenshtein distance: insertions, deletions and substitutions cost one. -/
def levenshtein : List α → List α → ℕ
  | [], ys => ys.length
  | x :: xs, [] => (x :: xs).length
  | x :: xs, y :: ys =>
      min (levenshtein xs (y :: ys) + 1)
        (min (levenshtein (x :: xs) ys + 1) (levenshtein xs ys + if x = y then 0 else 1))
termination_by xs ys => xs.length + ys.length

/-- Some script attains the distance. -/
theorem edits_levenshtein (xs ys : List α) : Edits xs ys (levenshtein xs ys) := by
  induction xs, ys using levenshtein.induct with
  | case1 ys => simpa [levenshtein] using Edits.insert_all ys
  | case2 x xs => simpa [levenshtein] using Edits.delete_all (x :: xs)
  | case3 x xs y ys hdelete hinsert hboth =>
    rw [levenshtein]
    rcases min_choice (levenshtein xs (y :: ys) + 1) (min (levenshtein (x :: xs) ys + 1)
      (levenshtein xs ys + if x = y then 0 else 1)) with h | h <;> rw [h]
    · exact hdelete.delete x
    · rcases min_choice (levenshtein (x :: xs) ys + 1)
        (levenshtein xs ys + if x = y then 0 else 1) with h | h <;> rw [h]
      · exact hinsert.insert y
      · by_cases hxy : x = y
        · subst hxy
          simpa using hboth.keep x
        · simpa [hxy] using hboth.substitute x y

/-- Dropping the first element of the source lowers the distance by at most one. -/
theorem levenshtein_cons_left_le (x : α) (xs ys : List α) :
    levenshtein (x :: xs) ys ≤ levenshtein xs ys + 1 := by
  cases ys with
  | nil => cases xs <;> simp [levenshtein]
  | cons y ys =>
    rw [levenshtein]
    exact min_le_left _ _

/-- Dropping the first element of the target lowers the distance by at most one. -/
theorem levenshtein_cons_right_le (y : α) (xs ys : List α) :
    levenshtein xs (y :: ys) ≤ levenshtein xs ys + 1 := by
  cases xs with
  | nil => simp [levenshtein]
  | cons x xs =>
    rw [levenshtein]
    exact (min_le_right _ _).trans (min_le_left _ _)

/-- The distance is a lower bound for the cost of every script. -/
theorem Edits.levenshtein_le {xs ys : List α} {k : ℕ} (h : Edits xs ys k) :
    levenshtein xs ys ≤ k := by
  induction h with
  | nil => simp [levenshtein]
  | delete x _ ih => exact (levenshtein_cons_left_le x _ _).trans (by omega)
  | insert y _ ih => exact (levenshtein_cons_right_le y _ _).trans (by omega)
  | keep x _ ih =>
    rw [levenshtein]
    exact (min_le_right _ _).trans ((min_le_right _ _).trans (by simpa using ih))
  | substitute x y _ ih =>
    rw [levenshtein]
    refine (min_le_right _ _).trans ((min_le_right _ _).trans ?_)
    split <;> omega

/-- The distance is the least cost of an edit script. -/
theorem isLeast_levenshtein (xs ys : List α) :
    IsLeast {k | Edits xs ys k} (levenshtein xs ys) :=
  ⟨edits_levenshtein xs ys, fun _ h => Edits.levenshtein_le h⟩

/-- Reversing both lists keeps the distance. -/
theorem levenshtein_reverse (xs ys : List α) :
    levenshtein xs.reverse ys.reverse = levenshtein xs ys := by
  apply le_antisymm
  · exact (edits_levenshtein xs ys).reverse.levenshtein_le
  · have h := (edits_levenshtein xs.reverse ys.reverse).reverse.levenshtein_le
    simpa using h

/-- The recurrence on last elements, as a table over prefixes uses it. -/
theorem levenshtein_append_singleton (xs ys : List α) (x y : α) :
    levenshtein (xs ++ [x]) (ys ++ [y]) =
      min (levenshtein xs (ys ++ [y]) + 1)
        (min (levenshtein (xs ++ [x]) ys + 1) (levenshtein xs ys + if x = y then 0 else 1)) := by
  rw [← levenshtein_reverse (xs ++ [x]), ← levenshtein_reverse xs (ys ++ [y]),
    ← levenshtein_reverse (xs ++ [x]) ys, ← levenshtein_reverse xs ys]
  simp only [List.reverse_append, List.reverse_cons, List.reverse_nil, List.nil_append,
    List.singleton_append]
  rw [levenshtein]

/-- The distance from a list to the empty one is its length. -/
@[simp] theorem levenshtein_nil_right (xs : List α) : levenshtein xs [] = xs.length := by
  cases xs <;> simp [levenshtein]

/-- The distance from the empty list is the length of the other. -/
@[simp] theorem levenshtein_nil_left (ys : List α) : levenshtein [] ys = ys.length := by
  simp [levenshtein]

/-- Some prefix of the target is reached from a given prefix of the source at no
more than the total distance. -/
theorem exists_levenshtein_take_le (xs ys : List α) (i : ℕ) :
    ∃ j ≤ ys.length, levenshtein (xs.take i) (ys.take j) ≤ levenshtein xs ys := by
  have hscript : Edits (xs.take i ++ xs.drop i) ys (levenshtein xs ys) := by
    simpa using edits_levenshtein xs ys
  obtain ⟨j, k₁, k₂, hj, hfirst, _, hk⟩ := hscript.split
  exact ⟨j, hj, hfirst.levenshtein_le.trans (by omega)⟩

/-- The distance is at least the difference of the lengths. -/
theorem length_le_levenshtein (xs ys : List α) :
    xs.length ≤ ys.length + levenshtein xs ys ∧ ys.length ≤ xs.length + levenshtein xs ys :=
  (edits_levenshtein xs ys).length_le

end EditDistance
