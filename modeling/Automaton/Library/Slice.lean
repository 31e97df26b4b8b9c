import Mathlib.Tactic

/-!
# Slices of sorted lists

The part of a list between two keys. Adjacent slices of a sorted list put together are a slice, and
so are its first items.
-/

namespace Slice

variable {α κ : Type*} [LinearOrder κ]

/-- The items with keys from a first one up to, and without, a last one. -/
def slice (key : α → κ) (first last : κ) (items : List α) : List α :=
  items.filter fun item => first ≤ key item ∧ key item < last

variable {key : α → κ} {items : List α} {first middle last : κ} {item : α} {n : ℕ}

/-- The items of a slice. -/
theorem mem_slice :
    item ∈ slice key first last items ↔ item ∈ items ∧ first ≤ key item ∧ key item < last := by
  simp [slice]

/-- No key is between the ends of an empty range. -/
theorem slice_self : slice key first first items = [] := by
  rw [slice, List.filter_eq_nil_iff]
  intro item _ hitem
  obtain ⟨hfirst, hlast⟩ := of_decide_eq_true hitem
  exact absurd hlast (not_lt.mpr hfirst)

/-- Adjacent slices of a sorted list make up one slice. -/
theorem slice_append (hsorted : items.Pairwise fun a b => key a < key b) (hfirst : first ≤ middle)
    (hlast : middle ≤ last) :
    slice key first middle items ++ slice key middle last items = slice key first last items := by
  induction items with
  | nil => rfl
  | cons a items ih =>
    obtain ⟨ha, hrest⟩ := List.pairwise_cons.mp hsorted
    have hih := ih hrest
    have hpos {low high : κ} (h : low ≤ key a ∧ key a < high) :
        slice key low high (a :: items) = a :: slice key low high items :=
      List.filter_cons_of_pos (decide_eq_true h)
    have hneg {low high : κ} (h : ¬ (low ≤ key a ∧ key a < high)) :
        slice key low high (a :: items) = slice key low high items :=
      List.filter_cons_of_neg fun hin => h (of_decide_eq_true hin)
    rcases lt_or_ge (key a) middle with hmiddle | hmiddle
    · rw [hneg fun h => absurd hmiddle (not_lt.mpr h.1)]
      by_cases hin : first ≤ key a
      · rw [hpos ⟨hin, hmiddle⟩, hpos ⟨hin, hmiddle.trans_le hlast⟩, List.cons_append, hih]
      · rw [hneg fun h => hin h.1, hneg fun h => hin h.1, hih]
    · -- The keys that follow are not below the middle either, so the first slice is empty.
      have hempty : slice key first middle (a :: items) = [] := by
        rw [slice, List.filter_eq_nil_iff]
        intro b hb hbelow
        have hlt := (of_decide_eq_true hbelow).2
        rcases List.mem_cons.mp hb with rfl | hb
        · exact absurd hlt (not_lt.mpr hmiddle)
        · exact absurd ((ha b hb).trans hlt) (not_lt.mpr hmiddle)
      rw [hneg fun h => absurd h.2 (not_lt.mpr hmiddle)] at hempty
      rw [hneg fun h => absurd h.2 (not_lt.mpr hmiddle), hempty, List.nil_append]
      rw [hempty, List.nil_append] at hih
      by_cases hin : key a < last
      · rw [hpos ⟨hmiddle, hin⟩, hpos ⟨hfirst.trans hmiddle, hin⟩, hih]
      · rw [hneg fun h => hin h.2, hneg fun h => hin h.2, hih]

/-- The items from a key on are those of a slice and those from its end on. -/
theorem length_slice_add (h : first ≤ last) :
    (slice key first last items).length + items.countP (fun item => last ≤ key item) =
      items.countP fun item => first ≤ key item := by
  induction items with
  | nil => rfl
  | cons a items ih =>
    rw [slice] at ih ⊢
    rw [List.filter_cons, List.countP_cons, List.countP_cons]
    rcases lt_or_ge (key a) last with hlast | hlast
    · by_cases hfirst : first ≤ key a
      · simp only [hfirst, hlast, not_le.mpr hlast, and_self, decide_true, decide_false, if_true,
          List.length_cons, Bool.false_eq_true, if_false]
        omega
      · simp only [hfirst, not_le.mpr hlast, false_and, decide_false, Bool.false_eq_true, if_false]
        omega
    · simp only [hlast, h.trans hlast, not_lt.mpr hlast, and_false, decide_false, decide_true,
        Bool.false_eq_true, if_false, if_true]
      omega

/-- The first items of a sorted list are those with keys up to that of the last one of them. -/
theorem take_eq_filter (hsorted : items.Pairwise fun a b => key a < key b)
    (hitem : (items.take n).getLast? = some item) :
    items.take n = items.filter fun a => key a ≤ key item := by
  have hlast := List.getLast?_eq_some_iff.mp hitem
  obtain ⟨front, hfront⟩ := hlast
  have hsplit : items = front ++ [item] ++ items.drop n := by
    rw [← hfront, List.take_append_drop]
  rw [hfront]
  rw [hsplit] at hsorted ⊢
  obtain ⟨hleft, -, hcross⟩ := List.pairwise_append.mp hsorted
  have hkeep : (front ++ [item]).filter (fun a => decide (key a ≤ key item)) = front ++ [item] := by
    rw [List.filter_eq_self]
    intro a ha
    rcases List.mem_append.mp ha with ha | ha
    · exact decide_eq_true ((List.pairwise_append.mp hleft).2.2 a ha item (by simp)).le
    · rw [List.mem_singleton.mp ha]
      exact decide_eq_true le_rfl
  have hdrop : (items.drop n).filter (fun a => decide (key a ≤ key item)) = [] := by
    rw [List.filter_eq_nil_iff]
    intro a ha hle
    exact absurd (of_decide_eq_true hle) (not_le.mpr (hcross item (by simp) a ha))
  rw [List.filter_append, hkeep, hdrop, List.append_nil]

/-- The other items of a sorted list are those with greater keys. -/
theorem drop_eq_filter (hsorted : items.Pairwise fun a b => key a < key b)
    (hitem : (items.take n).getLast? = some item) :
    items.drop n = items.filter fun a => key item < key a := by
  have hsplit := hsorted
  rw [← List.take_append_drop n items] at hsplit
  have hcross := (List.pairwise_append.mp hsplit).2.2 item (List.mem_of_getLast? hitem)
  have htake : (items.take n).filter (fun a => decide (key item < key a)) = [] := by
    rw [List.filter_eq_nil_iff, take_eq_filter hsorted hitem]
    intro a ha hlt
    exact absurd (of_decide_eq_true hlt) (not_lt.mpr (of_decide_eq_true (List.mem_filter.mp ha).2))
  have hdrop : (items.drop n).filter (fun a => decide (key item < key a)) = items.drop n :=
    List.filter_eq_self.mpr fun a ha => decide_eq_true (hcross a ha)
  conv_rhs => rw [← List.take_append_drop n items]
  rw [List.filter_append, htake, hdrop, List.nil_append]

/-- Lists with the same items that are sorted by a key are equal. -/
theorem eq_of_perm {others : List α} (hperm : items.Perm others)
    (hitems : items.Pairwise fun a b => key a < key b)
    (hothers : others.Pairwise fun a b => key a < key b) : items = others := by
  apply hperm.eq_of_pairwise _ hitems hothers
  intro a b _ _ hab hba
  exact absurd hab (not_lt.mpr hba.le)

end Slice
