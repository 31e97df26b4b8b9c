import Mathlib.Tactic

/-!
# Patterns of queries

The operator `LIKE` with its two wildcards, the order of rows, and the rendering of texts in JSON,
which such patterns are matched against.
-/

namespace Sql

/-- `LIKE`: a percent sign stands for any characters, an underscore for one character, and ASCII
letters match in either case. -/
def like : List Char → List Char → Bool
  | [], text => text.isEmpty
  | '%' :: pattern, text => text.tails.any (like pattern)
  | '_' :: pattern, _ :: text => like pattern text
  | c :: pattern, t :: text => c.toLower = t.toLower && like pattern text
  | _ :: _, [] => false

/-- A value of 64 bits without a sign as it is stored in a column of values with one. -/
def columnOf (value : ℕ) : ℤ := if value < 2 ^ 63 then value else value - 2 ^ 64

/-- How a database orders rows; those that come first in neither order may be in any order. -/
structure RowOrder (ρ : Type*) (le : ρ → ρ → Prop) where
  sort : List ρ → List ρ
  perm : ∀ rows, (sort rows).Perm rows
  sorted : ∀ rows, (sort rows).Pairwise le

/-- Rows with one value in a column stay in the order in which they are read. -/
def RowOrder.byColumn {ρ : Type*} (column : ρ → ℤ) :
    RowOrder ρ fun first second => column first ≤ column second where
  sort rows := rows.mergeSort fun first second => column first ≤ column second
  perm rows := List.mergeSort_perm rows _
  sorted rows := by
    have htrans : ∀ a b c : ρ, decide (column a ≤ column b) = true →
        decide (column b ≤ column c) = true → decide (column a ≤ column c) = true := by
      simp only [decide_eq_true_eq]
      exact fun a b c => le_trans
    have htotal : ∀ a b : ρ,
        (decide (column a ≤ column b) || decide (column b ≤ column a)) = true := by
      simp only [Bool.or_eq_true, decide_eq_true_eq]
      exact fun a b => le_total _ _
    simpa using List.pairwise_mergeSort htrans htotal rows

section Prefixes

variable {front rest : List Char}

/-- What starts with a text matches its pattern. -/
theorem like_append : like (front ++ ['%']) (front ++ rest) = true := by
  induction front with
  | nil =>
    have hend : [] ∈ rest.tails := (List.mem_tails _ _).mpr List.nil_suffix
    simp only [List.nil_append, like, List.any_eq_true]
    exact ⟨[], hend, rfl⟩
  | cons c front ih =>
    rw [List.cons_append, List.cons_append]
    by_cases hpercent : c = '%'
    · subst hpercent
      have htail : front ++ rest ∈ ('%' :: (front ++ rest)).tails :=
        (List.mem_tails _ _).mpr (List.suffix_cons _ _)
      simp only [like, List.any_eq_true]
      exact ⟨front ++ rest, htail, ih⟩
    · by_cases hunderscore : c = '_'
      · subst hunderscore
        simpa only [like] using ih
      · simp [like, ih]

/-- Without wildcards a pattern of a front matches what starts with it, up to the case of its ASCII
letters. -/
theorem like_plain_iff {front text : List Char} (hplain : ∀ c ∈ front, c ≠ '%' ∧ c ≠ '_') :
    like (front ++ ['%']) text = true ↔
      front.map Char.toLower <+: text.map Char.toLower := by
  induction front generalizing text with
  | nil =>
    refine iff_of_true ?_ List.nil_prefix
    simp only [List.nil_append, like, List.any_eq_true]
    refine ⟨[], ?_, rfl⟩
    induction text with
    | nil => simp
    | cons c text ih => simp [ih]
  | cons c front ih =>
    obtain ⟨hpercent, hunderscore⟩ := hplain c List.mem_cons_self
    cases text with
    | nil => simp [like]
    | cons t text =>
      have hrest : like (front ++ ['%']) text = true ↔
          front.map Char.toLower <+: text.map Char.toLower :=
        ih fun d hd => hplain d (List.mem_cons_of_mem c hd)
      rw [List.cons_append, List.map_cons, List.map_cons, List.cons_prefix_cons, ← hrest]
      simp [like]

end Prefixes

end Sql

namespace Json

/-- A character in a JSON text. -/
def escapeChar (c : Char) : List Char :=
  if c = '"' then ['\\', '"']
  else if c = '\\' then ['\\', '\\']
  else if c.toNat = 8 then ['\\', 'b']
  else if c.toNat = 12 then ['\\', 'f']
  else if c = '\n' then ['\\', 'n']
  else if c = '\r' then ['\\', 'r']
  else if c = '\t' then ['\\', 't']
  else if c.toNat < 32 then
    ['\\', 'u', '0', '0', Nat.digitChar (c.toNat / 16), Nat.digitChar (c.toNat % 16)]
  else [c]

/-- A text in quotes. -/
def text (value : String) : List Char := '"' :: value.toList.flatMap escapeChar ++ ['"']

/-- A number. -/
def number (value : ℕ) : List Char := Nat.toDigits 10 value

/-- A value that may be missing. -/
def optional {α : Type*} (render : α → List Char) (value : Option α) : List Char :=
  value.elim "null".toList render

/-- An object with its fields in order. -/
def object (fields : List (String × List Char)) : List Char :=
  '{' :: (List.intercalate [','] (fields.map fun field => text field.1 ++ ':' :: field.2)) ++ ['}']

end Json
