import Mathlib.Tactic

/-!
# Coalescing intervals

Intervals that are sorted by their starts are merged when they meet. What is left is separated,
covers every interval, and keeps each property that two intervals that meet pass on to their
union.
-/

namespace Intervals

/-- The order by starts, then by ends. -/
def before (left right : ℕ × ℕ) : Prop :=
  left.1 < right.1 ∨ left.1 = right.1 ∧ left.2 ≤ right.2

instance : DecidableRel before := fun _ _ => inferInstanceAs (Decidable (_ ∨ _ ∧ _))

instance : Std.Total before := by
  constructor
  intro left right
  unfold before
  omega

instance : IsTrans (ℕ × ℕ) before := by
  constructor
  intro left mid right
  unfold before
  omega

/-- An interval joins the last one if it starts before or where that one ends. -/
def coalesce (merged : List (ℕ × ℕ)) (range : ℕ × ℕ) : List (ℕ × ℕ) :=
  match merged.getLast? with
  | none => merged ++ [range]
  | some last =>
    if range.1 ≤ last.2 then merged.dropLast ++ [(last.1, max last.2 range.2)]
    else merged ++ [range]

/-- Sorted intervals are coalesced one after another. -/
def merge (ranges : List (ℕ × ℕ)) : List (ℕ × ℕ) := (ranges.insertionSort before).foldl coalesce []

/-- One of the intervals covers another one. -/
def Covers (merged : List (ℕ × ℕ)) (range : ℕ × ℕ) : Prop :=
  ∃ cover ∈ merged, cover.1 ≤ range.1 ∧ range.2 ≤ cover.2

/-- Every interval ends before the next one starts. -/
def Separated : List (ℕ × ℕ) → Prop := List.Pairwise fun left right => left.2 < right.1

/-- Two intervals that meet pass a property on to their union. -/
def Closed (P : ℕ × ℕ → Prop) : Prop :=
  ∀ left right : ℕ × ℕ, P left → P right → left.1 ≤ right.1 → right.1 ≤ left.2 →
    P (left.1, max left.2 right.2)

section Merge

variable {merged ranges : List (ℕ × ℕ)} {range other : ℕ × ℕ} {P : ℕ × ℕ → Prop}

/-- An interval is added at the end, or joins the last one. -/
theorem coalesce_cases (merged : List (ℕ × ℕ)) (range : ℕ × ℕ) :
    ((∀ last ∈ merged.getLast?, last.2 < range.1) ∧ coalesce merged range = merged ++ [range]) ∨
    ∃ front last, merged = front ++ [last] ∧ range.1 ≤ last.2 ∧
      coalesce merged range = front ++ [(last.1, max last.2 range.2)] := by
  unfold coalesce
  rcases List.eq_nil_or_concat merged with rfl | ⟨front, last, rfl⟩
  · exact .inl ⟨by simp, rfl⟩
  · rw [List.concat_eq_append, List.getLast?_concat]
    by_cases hmeets : range.1 ≤ last.2
    · exact .inr ⟨front, last, rfl, hmeets, by simp [hmeets]⟩
    · refine .inl ⟨?_, by simp [hmeets]⟩
      intro other hother
      obtain rfl := Option.some.inj hother
      omega

/-- What holds while sorted intervals are coalesced. -/
structure Merging (P : ℕ × ℕ → Prop) (merged ranges : List (ℕ × ℕ)) : Prop where
  separated : Separated merged
  holds : ∀ range ∈ merged, P range
  ordered : ∀ range ∈ merged, range.1 ≤ range.2
  starts : ∀ range ∈ merged, ∀ other ∈ ranges, range.1 ≤ other.1

/-- Coalescing one interval covers it and everything that was covered. -/
theorem covers_coalesce (h : Covers merged other ∨ other = range)
    (hstarts : ∀ left ∈ merged, left.1 ≤ range.1) : Covers (coalesce merged range) other := by
  rcases coalesce_cases merged range with ⟨-, heq⟩ | ⟨front, last, rfl, hmeets, heq⟩
  · rw [heq]
    rcases h with ⟨cover, hcover, hbounds⟩ | rfl
    · exact ⟨cover, List.mem_append_left _ hcover, hbounds⟩
    · exact ⟨other, by simp, le_rfl, le_rfl⟩
  · rw [heq]
    have hlast := hstarts last (by simp)
    rcases h with ⟨cover, hcover, hbounds⟩ | rfl
    · rcases List.mem_append.mp hcover with hfront | hcover
      · exact ⟨cover, List.mem_append_left _ hfront, hbounds⟩
      · obtain rfl := List.mem_singleton.mp hcover
        exact ⟨(cover.1, max cover.2 range.2), by simp, hbounds.1,
          hbounds.2.trans (le_max_left _ _)⟩
    · exact ⟨(last.1, max last.2 other.2), by simp, hlast, le_max_right _ _⟩

theorem Merging.step (h : Merging P merged (range :: ranges)) (hclosed : Closed P)
    (hholds : P range) (hrange : range.1 ≤ range.2)
    (hsorted : ∀ other ∈ ranges, range.1 ≤ other.1) :
    Merging P (coalesce merged range) ranges := by
  have hstarts : ∀ left ∈ merged, left.1 ≤ range.1 := fun left hleft => h.starts left hleft range
    (by simp)
  rcases coalesce_cases merged range with ⟨hbeyond, heq⟩ | ⟨front, last, rfl, hmeets, heq⟩
  · rw [heq]
    constructor
    · refine List.pairwise_append.mpr ⟨h.separated, by simp, ?_⟩
      intro left hleft right hright
      obtain rfl := List.mem_singleton.mp hright
      rcases List.eq_nil_or_concat merged with rfl | ⟨front, last, rfl⟩
      · cases hleft
      · rw [List.concat_eq_append] at hleft hbeyond h
        have hlast := hbeyond last (by simp)
        rcases List.mem_append.mp hleft with hfront | hleft
        · have hsep := (List.pairwise_append.mp h.separated).2.2 left hfront last (by simp)
          have hord := h.ordered last (by simp)
          omega
        · obtain rfl := List.mem_singleton.mp hleft
          exact hlast
    · intro other hother
      rcases List.mem_append.mp hother with hother | hother
      · exact h.holds other hother
      · exact List.mem_singleton.mp hother ▸ hholds
    · intro other hother
      rcases List.mem_append.mp hother with hother | hother
      · exact h.ordered other hother
      · exact List.mem_singleton.mp hother ▸ hrange
    · intro other hother next hnext
      rcases List.mem_append.mp hother with hother | hother
      · exact h.starts other hother next (List.mem_cons_of_mem _ hnext)
      · exact List.mem_singleton.mp hother ▸ hsorted next hnext
  · rw [heq]
    have hlast : last ∈ front ++ [last] := by simp
    obtain ⟨hfront, -, hbefore⟩ := List.pairwise_append.mp h.separated
    constructor
    · refine List.pairwise_append.mpr ⟨hfront, by simp, ?_⟩
      intro left hleft right hright
      obtain rfl := List.mem_singleton.mp hright
      exact hbefore left hleft last (by simp)
    · intro other hother
      rcases List.mem_append.mp hother with hother | hother
      · exact h.holds other (List.mem_append_left _ hother)
      · obtain rfl := List.mem_singleton.mp hother
        exact hclosed last range (h.holds last hlast) hholds (hstarts last hlast) hmeets
    · intro other hother
      rcases List.mem_append.mp hother with hother | hother
      · exact h.ordered other (List.mem_append_left _ hother)
      · obtain rfl := List.mem_singleton.mp hother
        exact (h.ordered last hlast).trans (le_max_left _ _)
    · intro other hother next hnext
      rcases List.mem_append.mp hother with hother | hother
      · exact h.starts other (List.mem_append_left _ hother) next (List.mem_cons_of_mem _ hnext)
      · obtain rfl := List.mem_singleton.mp hother
        exact h.starts last hlast next (List.mem_cons_of_mem _ hnext)

theorem Merging.fold (hclosed : Closed P) (hholds : ∀ range ∈ ranges, P range)
    (hranges : ∀ range ∈ ranges, range.1 ≤ range.2)
    (hsorted : ranges.Pairwise fun left right => left.1 ≤ right.1) (h : Merging P merged ranges) :
    Merging P (ranges.foldl coalesce merged) [] ∧
      ∀ other, Covers merged other ∨ other ∈ ranges →
        Covers (ranges.foldl coalesce merged) other := by
  induction ranges generalizing merged with
  | nil =>
    exact ⟨h, fun other hother => hother.resolve_right (by simp)⟩
  | cons range ranges ih =>
    obtain ⟨hfirst, hrest⟩ := List.pairwise_cons.mp hsorted
    have hstep := h.step hclosed (hholds range (by simp)) (hranges range (by simp)) hfirst
    obtain ⟨hend, hcovers⟩ := ih (fun other hother => hholds other (List.mem_cons_of_mem _ hother))
      (fun other hother => hranges other (List.mem_cons_of_mem _ hother)) hrest hstep
    refine ⟨hend, fun other hother => hcovers other ?_⟩
    have hstarts : ∀ left ∈ merged, left.1 ≤ range.1 := fun left hleft =>
      h.starts left hleft range (by simp)
    rcases hother with hother | hother
    · exact .inl (covers_coalesce (.inl hother) hstarts)
    · rcases List.mem_cons.mp hother with rfl | hother
      · exact .inl (covers_coalesce (.inr rfl) hstarts)
      · exact .inr hother

/-- Merged intervals are separated, keep what meeting intervals pass on, and cover everything. -/
theorem merge_spec (hclosed : Closed P) (hholds : ∀ range ∈ ranges, P range)
    (hranges : ∀ range ∈ ranges, range.1 ≤ range.2) :
    Separated (merge ranges) ∧ (∀ range ∈ merge ranges, P range) ∧
      ∀ range ∈ ranges, Covers (merge ranges) range := by
  have hmem (range : ℕ × ℕ) : range ∈ ranges.insertionSort before ↔ range ∈ ranges :=
    (List.perm_insertionSort before ranges).mem_iff
  have hsorted : (ranges.insertionSort before).Pairwise fun left right => left.1 ≤ right.1 := by
    refine (List.pairwise_insertionSort before ranges).imp ?_
    intro left right hbefore
    unfold before at hbefore
    omega
  have hstart : Merging P [] (ranges.insertionSort before) :=
    ⟨List.Pairwise.nil, by simp, by simp, by simp⟩
  obtain ⟨hend, hcovers⟩ := hstart.fold hclosed
    (fun range hrange => hholds range ((hmem range).mp hrange))
    (fun range hrange => hranges range ((hmem range).mp hrange)) hsorted
  refine ⟨hend.separated, hend.holds, ?_⟩
  intro range hrange
  exact hcovers range (.inr ((hmem range).mpr hrange))

end Merge

end Intervals
