import Automaton.Library.EditDistance
import Automaton.Library.Machine

/-!
# The bound on constitution mutations

`validate_constitution_mutation` computes a Ukkonen band of the edit-distance
table between a parent's and a child's constitution, row by row, and stops as
soon as a row has no cell within the threshold. Cells are compared with the real
distance after both are cut off just above the threshold: the band, the sentinel
cells and the early exit change a cell only where that cut hides the change.
-/

namespace Automaton.SpawnProtocol

open EditDistance Machine

/-- `MAX_CONSTITUTION_EDIT_DISTANCE_BPS`. -/
def maxConstitutionEditDistanceBps : ℕ := 2000

/-- The text of every rejection. -/
def mutationExceedsMaximum : String :=
  s!"constitution mutation exceeds maximum {maxConstitutionEditDistanceBps} bps"

/-- The number of scalars of the longer constitution, and at least one. -/
def mutationDenominator (left right : List Char) : ℕ := max (max left.length right.length) 1

/-- The largest accepted distance, with the saturating product of the source. -/
def mutationThreshold (target : Target) (left right : List Char) : ℕ :=
  saturatingMul target.usizeMax (mutationDenominator left right)
    maxConstitutionEditDistanceBps / 10000

/-- The row above the first one: the column number inside the band, the sentinel
outside it. -/
def initialRow (threshold sentinel : ℕ) (right : List Char) : List ℕ :=
  (List.replicate (right.length + 1) sentinel).mapIdx fun column cell =>
    if column < min threshold right.length + 1 then column else cell

/-- One pass through the inner loop, over the current row and its minimum. -/
def bandStep (largest : ℕ) (right : List Char) (leftChar : Char) (previous : List ℕ)
    (column : ℕ) (acc : List ℕ × ℕ) : List ℕ × ℕ :=
  let cell := min (min (saturatingAdd largest (previous.getD column 0) 1)
      (saturatingAdd largest (acc.1.getD (column - 1) 0) 1))
    (saturatingAdd largest (previous.getD (column - 1) 0)
      (if right[column - 1]? = some leftChar then 0 else 1))
  (acc.1.set column cell, min acc.2 cell)

/-- The inner loop over the columns of the band. Column zero is set before it and
does not count for the row minimum. -/
def bandRow (largest threshold sentinel : ℕ) (right : List Char) (leftChar : Char)
    (row : ℕ) (previous : List ℕ) : List ℕ × ℕ :=
  let start := max (row - threshold) 1
  let stop := min right.length (saturatingAdd largest row threshold)
  let blank := List.replicate (right.length + 1) sentinel
  let current := if row ≤ threshold then blank.set 0 row else blank
  (List.range' start (stop + 1 - start)).foldl
    (fun acc column => bandStep largest right leftChar previous column acc) (current, sentinel)

/-- The outer loop over the scalars of the parent, with the early exit. -/
def bandRows (largest threshold sentinel : ℕ) (right : List Char) :
    ℕ → List Char → List ℕ → Except String (List ℕ)
  | _, [], previous => .ok previous
  | rowIndex, leftChar :: rest, previous =>
      let (current, rowMin) :=
        bandRow largest threshold sentinel right leftChar (rowIndex + 1) previous
      if rowMin > threshold then .error mutationExceedsMaximum
      else bandRows largest threshold sentinel right (rowIndex + 1) rest current

/-- `validate_constitution_mutation`. -/
def validateConstitutionMutation (target : Target) (parent child : String) :
    Except String ℕ := do
  let left := parent.toList
  let right := child.toList
  let threshold := mutationThreshold target left right
  if max left.length right.length - min left.length right.length > threshold then
    throw mutationExceedsMaximum
  let sentinel := saturatingAdd target.usizeMax threshold 1
  let previous ← bandRows target.usizeMax threshold sentinel right 0 left
    (initialRow threshold sentinel right)
  let distance := previous.getD right.length 0
  if distance > threshold then throw mutationExceedsMaximum
  return distance

section Band

variable {largest threshold i j : ℕ} {left right : List Char} {leftChar : Char}
  {previous row : List ℕ}

/-- The entry of the full table at row `i` and column `j`. -/
def prefixDistance (left right : List Char) (i j : ℕ) : ℕ :=
  levenshtein (left.take i) (right.take j)

/-- A row holds the right entry at column `j`, up to the cut above the threshold. -/
def AgreesAt (threshold : ℕ) (left right : List Char) (i : ℕ) (row : List ℕ) (j : ℕ) : Prop :=
  min (row.getD j 0) (threshold + 1) = min (prefixDistance left right i j) (threshold + 1)

/-- A row of the table as the code keeps it: full width, and right at every column. -/
def RowAgrees (threshold : ℕ) (left right : List Char) (i : ℕ) (row : List ℕ) : Prop :=
  row.length = right.length + 1 ∧ ∀ j ≤ right.length, AgreesAt threshold left right i row j

/-- Entries left of the band and right of it exceed the threshold. -/
theorem threshold_lt_prefixDistance (hi : i ≤ left.length) (hj : j ≤ right.length)
    (hband : threshold < i - j ∨ threshold < j - i) :
    threshold < prefixDistance left right i j := by
  have hlength := length_le_levenshtein (left.take i) (right.take j)
  simp only [List.length_take, min_eq_left hi, min_eq_left hj] at hlength
  unfold prefixDistance
  omega

/-- A sentinel is right wherever the entry exceeds the threshold. -/
theorem agreesAt_sentinel (hcell : row.getD j 0 = threshold + 1)
    (hfar : threshold < prefixDistance left right i j) :
    AgreesAt threshold left right i row j := by
  unfold AgreesAt
  omega

/-- The recurrence of the table, at a row and a column that are not the first. -/
theorem prefixDistance_succ_succ (hi : i < left.length) (hj : j < right.length) :
    prefixDistance left right (i + 1) (j + 1) =
      min (prefixDistance left right i (j + 1) + 1)
        (min (prefixDistance left right (i + 1) j + 1)
          (prefixDistance left right i j + if left[i] = right[j] then 0 else 1)) := by
  unfold prefixDistance
  rw [List.take_succ_eq_append_getElem hi, List.take_succ_eq_append_getElem hj]
  exact levenshtein_append_singleton _ _ _ _

/-- The first column counts deletions. -/
theorem prefixDistance_zero_right (hi : i ≤ left.length) :
    prefixDistance left right i 0 = i := by
  simp [prefixDistance, hi]

/-- The first row counts insertions. -/
theorem prefixDistance_zero_left (hj : j ≤ right.length) :
    prefixDistance left right 0 j = j := by
  simp [prefixDistance, hj]

/-- The second column is never above the first, so the row minimum may leave the
first column out. -/
theorem prefixDistance_succ_one_le (hi : i < left.length) (hright : right ≠ []) :
    prefixDistance left right (i + 1) 1 ≤ i + 1 := by
  obtain ⟨y, ys, rfl⟩ := List.exists_cons_of_ne_nil hright
  obtain ⟨x, xs, rfl⟩ := List.exists_cons_of_length_pos (Nat.zero_lt_of_lt hi)
  have hscript := (Edits.delete_all (xs.take i)).substitute x y
  have hle := hscript.levenshtein_le
  simpa [prefixDistance, Nat.le_of_lt_succ (by simpa using hi)] using hle

/-- The first row is right. -/
theorem rowAgrees_initialRow :
    RowAgrees threshold left right 0 (initialRow threshold (threshold + 1) right) := by
  refine ⟨by simp [initialRow], fun j hj => ?_⟩
  have hcell : (initialRow threshold (threshold + 1) right).getD j 0 =
      if j < min threshold right.length + 1 then j else threshold + 1 := by
    simp [initialRow, List.getD_eq_getElem?_getD, Nat.lt_succ_of_le hj]
  unfold AgreesAt
  rw [hcell, prefixDistance_zero_left hj]
  split <;> omega

/-- What the inner loop maintains: columns before the next one are right, columns
from it on are still sentinels, and the minimum accounts for the columns visited. -/
structure BandInvariant (threshold : ℕ) (left right : List Char) (i start next : ℕ)
    (acc : List ℕ × ℕ) : Prop where
  length_eq : acc.1.length = right.length + 1
  agrees : ∀ j < next, j ≤ right.length → AgreesAt threshold left right i acc.1 j
  sentinel : ∀ j, next ≤ j → j ≤ right.length → acc.1.getD j 0 = threshold + 1
  rowMin_le : ∀ j, start ≤ j → j < next → acc.2 ≤ acc.1.getD j 0

/-- Saturation happens above the cut. -/
theorem cut_saturatingAdd {a b : ℕ} (hlargest : threshold + 1 ≤ largest) (k : ℕ)
    (hcut : min a (threshold + 1) = min b (threshold + 1)) :
    min (saturatingAdd largest a k) (threshold + 1) = min (b + k) (threshold + 1) := by
  unfold saturatingAdd
  omega

/-- A cell computed from right neighbours is right. -/
theorem agreesAt_bandStep {acc : List ℕ × ℕ} (hlargest : threshold + 1 ≤ largest)
    (hi : i < left.length) (hj : j < right.length)
    (hwidth : acc.1.length = right.length + 1)
    (habove : AgreesAt threshold left right i previous (j + 1))
    (hdiagonal : AgreesAt threshold left right i previous j)
    (hbefore : AgreesAt threshold left right (i + 1) acc.1 j) :
    AgreesAt threshold left right (i + 1)
      (bandStep largest right left[i] previous (j + 1) acc).1 (j + 1) := by
  have hcost : (if right[j + 1 - 1]? = some left[i] then 0 else 1) =
      if left[i] = right[j] then 0 else 1 := by
    simp [hj, eq_comm]
  unfold AgreesAt at *
  rw [prefixDistance_succ_succ hi hj]
  simp only [bandStep, hcost]
  rw [List.getD_eq_getElem?_getD, List.getElem?_set_self (by omega), Option.getD_some,
    Nat.add_sub_cancel]
  simp only [inf_inf_distrib_right _ _ (threshold + 1)]
  rw [cut_saturatingAdd hlargest 1 habove, cut_saturatingAdd hlargest 1 hbefore,
    cut_saturatingAdd hlargest _ hdiagonal, min_assoc]

/-- One pass through the inner loop keeps the invariant. -/
theorem BandInvariant.step {acc : List ℕ × ℕ} {start next : ℕ}
    (hinv : BandInvariant threshold left right (i + 1) start next acc)
    (hlargest : threshold + 1 ≤ largest) (hi : i < left.length)
    (hprevious : RowAgrees threshold left right i previous)
    (hpos : 1 ≤ next) (hnext : next ≤ right.length) :
    BandInvariant threshold left right (i + 1) start (next + 1)
      (bandStep largest right left[i] previous next acc) := by
  obtain ⟨j, rfl⟩ : ∃ j, next = j + 1 := ⟨next - 1, by omega⟩
  have hcell := agreesAt_bandStep hlargest hi (by omega) hinv.length_eq
    (hprevious.2 (j + 1) hnext) (hprevious.2 j (by omega))
    (hinv.agrees j (by omega) (by omega))
  have hother : ∀ k ≠ j + 1,
      (bandStep largest right left[i] previous (j + 1) acc).1.getD k 0 = acc.1.getD k 0 := by
    intro k hk
    simp [bandStep, List.getD_eq_getElem?_getD, List.getElem?_set_ne (Ne.symm hk)]
  refine ⟨by simp [bandStep, hinv.length_eq], ?_, ?_, ?_⟩
  · intro k hk hkright
    by_cases hkj : k = j + 1
    · exact hkj ▸ hcell
    · unfold AgreesAt
      rw [hother k hkj]
      exact hinv.agrees k (by omega) hkright
  · intro k hk hkright
    rw [hother k (by omega)]
    exact hinv.sentinel k (by omega) hkright
  · intro k hstart hk
    by_cases hkj : k = j + 1
    · subst hkj
      rw [List.getD_eq_getElem?_getD, bandStep,
        List.getElem?_set_self (by rw [hinv.length_eq]; omega), Option.getD_some]
      exact min_le_right _ _
    · rw [hother k hkj]
      exact (min_le_left _ _).trans (hinv.rowMin_le k hstart (by omega))

/-- The inner loop keeps the invariant over any number of columns. -/
theorem BandInvariant.foldl {start : ℕ} (hlargest : threshold + 1 ≤ largest)
    (hi : i < left.length) (hprevious : RowAgrees threshold left right i previous)
    (count : ℕ) {next : ℕ} {acc : List ℕ × ℕ} (hpos : 1 ≤ next)
    (hcount : next + count ≤ right.length + 1)
    (hinv : BandInvariant threshold left right (i + 1) start next acc) :
    BandInvariant threshold left right (i + 1) start (next + count)
      ((List.range' next count).foldl
        (fun acc column => bandStep largest right left[i] previous column acc) acc) := by
  induction count generalizing next acc with
  | zero => simpa using hinv
  | succ count ih =>
    rw [List.range'_succ, List.foldl_cons, show next + (count + 1) = next + 1 + count by omega]
    exact ih (by omega) (by omega) (hinv.step hlargest hi hprevious hpos (by omega))

/-- The invariant before the inner loop: the columns left of the band are right. -/
theorem bandInvariant_start (hi : i < left.length) :
    BandInvariant threshold left right (i + 1) (max (i + 1 - threshold) 1)
      (max (i + 1 - threshold) 1)
      (if i + 1 ≤ threshold then (List.replicate (right.length + 1) (threshold + 1)).set 0 (i + 1)
        else List.replicate (right.length + 1) (threshold + 1), threshold + 1) := by
  have hcell : ∀ j ≤ right.length, (j ≠ 0 ∨ threshold < i + 1) →
      (if i + 1 ≤ threshold then (List.replicate (right.length + 1) (threshold + 1)).set 0 (i + 1)
        else List.replicate (right.length + 1) (threshold + 1)).getD j 0 = threshold + 1 := by
    intro j hj hor
    split
    · have hne : 0 ≠ j := by omega
      rw [List.getD_eq_getElem?_getD, List.getElem?_set_ne hne]
      simp [Nat.lt_succ_of_le hj]
    · simp [List.getD_eq_getElem?_getD, Nat.lt_succ_of_le hj]
  refine ⟨by split <;> simp, fun j hj hright => ?_, fun j hj hright => hcell j hright (by omega),
    fun j hj hj' => absurd hj' (by omega)⟩
  by_cases hband : threshold < i + 1 - j
  · exact agreesAt_sentinel (hcell j hright (by omega))
      (threshold_lt_prefixDistance hi hright (Or.inl hband))
  · have hzero : j = 0 := by omega
    subst hzero
    rw [AgreesAt, prefixDistance_zero_right hi, if_pos (by omega)]
    simp [List.getD_eq_getElem?_getD]

/-- One row of the band is right, and its minimum bounds the cells of the band. -/
theorem bandRow_spec (hlargest : threshold + 1 ≤ largest) (hwidth : right.length ≤ largest)
    (hi : i < left.length) (hprevious : RowAgrees threshold left right i previous) :
    RowAgrees threshold left right (i + 1)
        (bandRow largest threshold (threshold + 1) right left[i] (i + 1) previous).1 ∧
      ∀ j, i + 1 ≤ j + threshold → 1 ≤ j → j ≤ right.length → j ≤ i + 1 + threshold →
        (bandRow largest threshold (threshold + 1) right left[i] (i + 1) previous).2 ≤
          (bandRow largest threshold (threshold + 1) right left[i] (i + 1) previous).1.getD j 0 := by
  have hstop : min right.length (saturatingAdd largest (i + 1) threshold) =
      min right.length (i + 1 + threshold) := by
    unfold saturatingAdd
    omega
  have hinv : BandInvariant threshold left right (i + 1) (max (i + 1 - threshold) 1)
      (max (i + 1 - threshold) 1 +
        (min right.length (i + 1 + threshold) + 1 - max (i + 1 - threshold) 1))
      (bandRow largest threshold (threshold + 1) right left[i] (i + 1) previous) := by
    simp only [bandRow, hstop]
    by_cases hempty : min right.length (i + 1 + threshold) + 1 ≤ max (i + 1 - threshold) 1
    · simpa [Nat.sub_eq_zero_of_le hempty] using bandInvariant_start hi
    · exact (bandInvariant_start hi).foldl hlargest hi hprevious _ (by omega) (by omega)
  refine ⟨⟨hinv.length_eq, fun j hj => ?_⟩, fun j hleft hpos hj hright =>
    hinv.rowMin_le j (by omega) (by omega)⟩
  by_cases hdone : j < max (i + 1 - threshold) 1 +
      (min right.length (i + 1 + threshold) + 1 - max (i + 1 - threshold) 1)
  · exact hinv.agrees j hdone hj
  · exact agreesAt_sentinel (hinv.sentinel j (by omega) hj)
      (threshold_lt_prefixDistance hi hj (Or.inr (by omega)))

/-- A row whose minimum exceeds the threshold has no entry within it, the first
column included. -/
theorem threshold_lt_of_rowMin (hlargest : threshold + 1 ≤ largest)
    (hwidth : right.length ≤ largest) (hright : right ≠ []) (hi : i < left.length)
    (hprevious : RowAgrees threshold left right i previous)
    (hmin : threshold <
      (bandRow largest threshold (threshold + 1) right left[i] (i + 1) previous).2)
    (hj : j ≤ right.length) : threshold < prefixDistance left right (i + 1) j := by
  obtain ⟨hrow, hbound⟩ := bandRow_spec hlargest hwidth hi hprevious
  have hpositive : ∀ k, 1 ≤ k → k ≤ right.length →
      threshold < prefixDistance left right (i + 1) k := by
    intro k hpos hk
    by_cases hband : i + 1 ≤ k + threshold ∧ k ≤ i + 1 + threshold
    · have hcell := hbound k hband.1 hpos hk hband.2
      have hagrees := hrow.2 k hk
      unfold AgreesAt at hagrees
      omega
    · exact threshold_lt_prefixDistance hi hk (by omega)
  rcases Nat.eq_zero_or_pos j with rfl | hpos
  · have hone := hpositive 1 le_rfl (List.length_pos_iff.mpr hright)
    rw [prefixDistance_zero_right hi]
    exact hone.trans_le (prefixDistance_succ_one_le hi hright)
  · exact hpositive j hpos hj

/-- The outer loop returns the last row of the table, or stops with every script
already above the threshold. -/
theorem bandRows_spec (hlargest : threshold + 1 ≤ largest) (hwidth : right.length ≤ largest)
    (hright : right ≠ [] ∨ left = []) (hi : i ≤ left.length)
    (hprevious : RowAgrees threshold left right i previous) :
    (∃ row, bandRows largest threshold (threshold + 1) right i (left.drop i) previous = .ok row ∧
      RowAgrees threshold left right left.length row) ∨
    (bandRows largest threshold (threshold + 1) right i (left.drop i) previous =
        .error mutationExceedsMaximum ∧ threshold < levenshtein left right) := by
  induction hn : left.length - i generalizing i previous with
  | zero =>
    have hend : i = left.length := by omega
    subst hend
    exact Or.inl ⟨previous, by simp [bandRows], hprevious⟩
  | succ n ih =>
    have hlt : i < left.length := by omega
    have hne : right ≠ [] := hright.resolve_right (by rintro rfl; simp at hlt)
    rw [List.drop_eq_getElem_cons hlt, bandRows]
    by_cases hmin : threshold <
        (bandRow largest threshold (threshold + 1) right left[i] (i + 1) previous).2
    · refine Or.inr ⟨by simp [hmin], ?_⟩
      obtain ⟨j, hj, hle⟩ := exists_levenshtein_take_le left right (i + 1)
      exact (threshold_lt_of_rowMin hlargest hwidth hne hlt hprevious hmin hj).trans_le hle
    · simp only [gt_iff_lt, hmin, if_false]
      exact ih hlt (bandRow_spec hlargest hwidth hlt hprevious).1 (by omega)

end Band

/-- The threshold is far below the largest machine integer, so the sentinel is one
above it. -/
theorem mutationThreshold_succ_le (target : Target) (left right : List Char) :
    mutationThreshold target left right + 1 ≤ target.usizeMax := by
  have hlarge : 10000 ≤ target.usizeMax := by cases target <;> decide
  unfold mutationThreshold saturatingMul
  omega

/-- A nonempty parent with an empty child never passes the length test. -/
theorem right_ne_nil_or_left_eq_nil (target : Target) {left right : List Char}
    (hlength : left.length ≤ right.length + mutationThreshold target left right) :
    right ≠ [] ∨ left = [] := by
  rcases right with _ | ⟨y, ys⟩
  · refine Or.inr (List.eq_nil_of_length_eq_zero ?_)
    have hthreshold : mutationThreshold target left [] ≤ max left.length 1 * 2000 / 10000 := by
      simp only [mutationThreshold, mutationDenominator, saturatingMul,
        maxConstitutionEditDistanceBps, List.length_nil]
      omega
    simp only [List.length_nil] at hlength
    omega
  · exact Or.inl (List.cons_ne_nil y ys)

/-- The length test rejects before any row is computed. -/
theorem validateConstitutionMutation_of_length {target : Target} {parent child : String}
    (hlength : mutationThreshold target parent.toList child.toList <
      max parent.toList.length child.toList.length -
        min parent.toList.length child.toList.length) :
    validateConstitutionMutation target parent child = .error mutationExceedsMaximum := by
  simp only [validateConstitutionMutation]
  rw [if_pos hlength]
  rfl

/-- The banded check accepts exactly the distances within the threshold. -/
theorem validateConstitutionMutation_spec (target : Target) (parent child : String)
    (hchild : child.toList.length ≤ target.usizeMax) :
    validateConstitutionMutation target parent child =
      if levenshtein parent.toList child.toList ≤
          mutationThreshold target parent.toList child.toList
        then .ok (levenshtein parent.toList child.toList)
        else .error mutationExceedsMaximum := by
  by_cases hlength : mutationThreshold target parent.toList child.toList <
      max parent.toList.length child.toList.length - min parent.toList.length child.toList.length
  · rw [validateConstitutionMutation_of_length hlength]
    have hdistance := length_le_levenshtein parent.toList child.toList
    refine (if_neg fun hle => ?_).symm
    omega
  generalize hleft : parent.toList = left at *
  generalize hright : child.toList = right at *
  have hlargest := mutationThreshold_succ_le target left right
  have hsentinel : saturatingAdd target.usizeMax (mutationThreshold target left right) 1 =
      mutationThreshold target left right + 1 := min_eq_left hlargest
  simp only [validateConstitutionMutation, hleft, hright, hsentinel]
  generalize hthreshold : mutationThreshold target left right = threshold at *
  rw [if_neg (by omega)]
  have hempty : right ≠ [] ∨ left = [] := right_ne_nil_or_left_eq_nil target (by omega)
  rcases bandRows_spec hlargest hchild hempty (Nat.zero_le _) rowAgrees_initialRow with
    ⟨row, hrows, hagrees⟩ | ⟨hrows, hfar⟩
  · have hcell := hagrees.2 right.length le_rfl
    simp only [AgreesAt, prefixDistance, List.take_length] at hcell
    simp only [List.drop_zero] at hrows
    simp only [hrows]
    by_cases hclose : levenshtein left right ≤ threshold
    · have hvalue : row.getD right.length 0 = levenshtein left right := by omega
      rw [if_pos hclose, ← hvalue]
      exact if_neg (by omega)
    · rw [if_neg hclose]
      exact if_pos (by omega)
  · simp only [List.drop_zero] at hrows
    simp only [hrows]
    rw [if_neg (by omega)]
    rfl

/-- A constitution that stays as it is, is accepted. -/
theorem validateConstitutionMutation_self {target : Target} {constitution : String}
    (hlength : constitution.toList.length ≤ target.usizeMax) :
    validateConstitutionMutation target constitution constitution = .ok 0 := by
  have hzero : levenshtein constitution.toList constitution.toList = 0 :=
    Nat.le_zero.mp (Edits.refl constitution.toList).levenshtein_le
  rw [validateConstitutionMutation_spec target constitution constitution hlength, hzero]
  exact if_pos (Nat.zero_le _)

/-- The banded check accepts exactly the distances within the threshold, and returns
the distance. The threshold is the claimed fifth of the longer constitution as long as
the product with the basis points fits the machine word. -/
theorem validateConstitutionMutation_eq (target : Target) (parent child : String)
    (hchild : child.toList.length ≤ target.usizeMax) :
    validateConstitutionMutation target parent child =
      (if levenshtein parent.toList child.toList ≤
          min (max (max parent.toList.length child.toList.length) 1 * 2000) target.usizeMax / 10000
        then .ok (levenshtein parent.toList child.toList)
        else .error "constitution mutation exceeds maximum 2000 bps") ∧
    (max (max parent.toList.length child.toList.length) 1 * 2000 ≤ target.usizeMax →
      min (max (max parent.toList.length child.toList.length) 1 * 2000) target.usizeMax / 10000 =
        max (max parent.toList.length child.toList.length) 1 * 2000 / 10000) := by
  refine ⟨?_, fun hfits => by rw [min_eq_left hfits]⟩
  exact validateConstitutionMutation_spec target parent child hchild

/-- A parent and a child on which the check is exercised. -/
theorem validateConstitutionMutation_eq_abcde :
    validateConstitutionMutation .wasm32 "abcde" "abXde" = .ok 1 := by
  have hcheck := (validateConstitutionMutation_eq .wasm32 "abcde" "abXde" (by decide)).1
  simpa [levenshtein, Target.usizeMax] using hcheck

/-- Dropping the first `n` of equal scalars is a script of `n` deletions. -/
theorem levenshtein_replicate_le (n m : ℕ) (c : Char) :
    levenshtein (List.replicate n c ++ List.replicate m c) (List.replicate m c) ≤ n := by
  have hscript := (Edits.delete_all (List.replicate n c)).append
    (Edits.refl (List.replicate m c))
  simpa only [List.nil_append, List.length_replicate, Nat.add_zero] using hscript.levenshtein_le

/-- On the canister the product saturates: half a million deletions in three million
scalars are within a fifth, and are rejected. -/
theorem validateConstitutionMutation_saturates :
    ¬ ∀ (target : Target) (parent child : String),
      validateConstitutionMutation target parent child =
        if levenshtein parent.toList child.toList ≤
            max (max parent.toList.length child.toList.length) 1 * 2000 / 10000
        then .ok (levenshtein parent.toList child.toList)
        else .error "constitution mutation exceeds maximum 2000 bps" := by
  intro hclaim
  -- the lists stay behind variables, so that nothing evaluates them
  obtain ⟨left, right, hleft, hright, hdistance⟩ : ∃ left right : List Char,
      left.length = 3000000 ∧ right.length = 2500000 ∧ levenshtein left right ≤ 500000 :=
    ⟨List.replicate 500000 'a' ++ List.replicate 2500000 'a', List.replicate 2500000 'a',
      by rw [List.length_append, List.length_replicate, List.length_replicate],
      List.length_replicate, levenshtein_replicate_le 500000 2500000 'a'⟩
  have hcase := hclaim .wasm32 (String.ofList left) (String.ofList right)
  rw [validateConstitutionMutation_of_length] at hcase
  · simp only [String.toList_ofList, hleft, hright] at hcase
    rw [if_pos (hdistance.trans (by decide))] at hcase
    cases hcase
  · simp only [mutationThreshold, mutationDenominator, String.toList_ofList, hleft, hright]
    decide

end Automaton.SpawnProtocol
