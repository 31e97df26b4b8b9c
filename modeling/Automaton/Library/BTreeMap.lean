import Mathlib.Tactic

/-!
# Ordered maps

The ordered maps of the standard library, with look-ups after each update stated by
equality of keys. Two maps are equal when all look-ups are, and iteration is in
increasing order of the keys.
-/

/-- An ordered map with distinct keys. -/
abbrev BTreeMap (κ ν : Type) [Ord κ] := Std.ExtTreeMap κ ν compare

namespace BTreeMap

variable {κ ν : Type} [Ord κ] [Std.TransOrd κ] [Std.LawfulEqOrd κ] [DecidableEq κ]
  {map : BTreeMap κ ν} {key other : κ} {value : ν}

/-- A look-up after an insertion. -/
theorem get?_insert : (map.insert key value)[other]? =
    if key = other then some value else map[other]? := by
  simp [Std.ExtTreeMap.getElem?_insert]

/-- A look-up after an update in place. -/
theorem get?_modify {f : ν → ν} : (map.modify key f)[other]? =
    if key = other then map[other]?.map f else map[other]? := by
  rw [Std.ExtTreeMap.getElem?_modify]
  by_cases hkey : key = other
  · simp [hkey]
  · simp [hkey]

/-- A look-up after a removal. -/
theorem get?_erase : (map.erase key)[other]? = if key = other then none else map[other]? := by
  simp [Std.ExtTreeMap.getElem?_erase]

/-- A look-up after an update that may also insert. -/
theorem get?_alter {f : Option ν → Option ν} : (map.alter key f)[other]? =
    if key = other then f map[other]? else map[other]? := by
  rw [Std.ExtTreeMap.getElem?_alter]
  by_cases hkey : key = other
  · simp [hkey]
  · simp [hkey]

omit [Std.LawfulEqOrd κ] [DecidableEq κ] in
/-- The empty map has no entries. -/
@[simp] theorem toList_empty : (∅ : BTreeMap κ ν).toList = [] :=
  Std.ExtTreeMap.toList_eq_nil_iff.mpr rfl

omit [DecidableEq κ] in
/-- A search in the order of the keys finds the entry of the least key that passes. -/
theorem find?_toList_eq_some_iff {test : κ × ν → Bool} {entry : κ × ν} :
    map.toList.find? test = some entry ↔ map[entry.1]? = some entry.2 ∧ test entry = true ∧
      ∀ other, map[other.1]? = some other.2 → compare other.1 entry.1 = .lt →
        test other = false := by
  have hordered := Std.ExtTreeMap.ordered_keys_toList (t := map)
  constructor
  · intro hfind
    have hmem := List.mem_of_find?_eq_some hfind
    obtain ⟨htest, before, after, hlist, hbefore⟩ := List.find?_eq_some_iff_append.mp hfind
    refine ⟨Std.ExtTreeMap.mem_toList_iff_getElem?_eq_some.mp hmem, htest, ?_⟩
    intro other hother hlt
    have hmem' := Std.ExtTreeMap.mem_toList_iff_getElem?_eq_some.mpr hother
    rw [hlist] at hmem' hordered
    rw [List.mem_append, List.mem_cons] at hmem'
    obtain ⟨-, hlater, -⟩ := List.pairwise_append.mp hordered
    rcases hmem' with hmem' | rfl | hmem'
    · simpa using hbefore other hmem'
    · simp at hlt
    · have hgt := (List.pairwise_cons.mp hlater).1 other hmem'
      exact absurd hlt (Std.OrientedCmp.not_lt_of_lt hgt)
  · rintro ⟨hstored, htest, hfirst⟩
    have hmem := Std.ExtTreeMap.mem_toList_iff_getElem?_eq_some.mpr hstored
    obtain ⟨before, after, hlist⟩ := List.append_of_mem hmem
    refine List.find?_eq_some_iff_append.mpr ⟨htest, before, after, hlist, ?_⟩
    intro other hother
    have hmem' : other ∈ map.toList := by
      rw [hlist]
      exact List.mem_append_left _ hother
    rw [hlist] at hordered
    have hlt := (List.pairwise_append.mp hordered).2.2 other hother entry (by simp)
    simp [hfirst other (Std.ExtTreeMap.mem_toList_iff_getElem?_eq_some.mp hmem') hlt]

/-- Two updates of one key are one update. -/
theorem modify_modify {f g : ν → ν} :
    (map.modify key f).modify key g = map.modify key (g ∘ f) := by
  apply Std.ExtTreeMap.ext_getElem?
  intro other
  simp only [get?_modify]
  by_cases hkey : key = other
  · simp [hkey]
  · simp [hkey]

/-- Updating a key that is absent changes nothing. -/
theorem modify_eq_self {f : ν → ν} (habsent : map[key]? = none) : map.modify key f = map := by
  apply Std.ExtTreeMap.ext_getElem?
  intro other
  rw [get?_modify]
  by_cases hkey : key = other
  · subst hkey
    simp [habsent]
  · simp [hkey]

omit [DecidableEq κ] in
theorem nodup_toList : map.toList.Nodup :=
  (Std.ExtTreeMap.distinct_keys_toList (t := map)).imp fun hkeys hsame =>
    hkeys (by simp [hsame])

/-- The entries after an insertion are the new one and those under other keys. -/
theorem toList_insert_perm : (map.insert key value).toList.Perm
    ((key, value) :: map.toList.filter fun entry => entry.1 ≠ key) := by
  apply (List.perm_ext_iff_of_nodup nodup_toList ?_).mpr
  · rintro ⟨other, stored⟩
    rw [Std.ExtTreeMap.mem_toList_iff_getElem?_eq_some, get?_insert, List.mem_cons,
      List.mem_filter, Std.ExtTreeMap.mem_toList_iff_getElem?_eq_some]
    by_cases hkey : key = other
    · simp [hkey, eq_comm]
    · simp [hkey, Ne.symm hkey]
  · apply List.nodup_cons.mpr
    exact ⟨by simp, nodup_toList.filter _⟩

section Zip

omit [DecidableEq κ]

variable {keys : List κ} {values : List ν}

/-- A map whose entries are keys with their values has every one of them. -/
theorem forall₂_of_toList_perm_zip (hlength : keys.length = values.length)
    (h : map.toList.Perm (keys.zip values)) :
    List.Forall₂ (fun key value => map[key]? = some value) keys values := by
  apply List.forall₂_iff_zip.mpr
  refine ⟨hlength, fun {key value} hmem => ?_⟩
  exact Std.ExtTreeMap.mem_toList_iff_getElem?_eq_some.mp (h.mem_iff.mpr hmem)

/-- A map that has a value for every one of some distinct keys, and no other key, has these as its
entries. -/
theorem toList_perm_zip (hnodup : keys.Nodup)
    (hvalues : List.Forall₂ (fun key value => map[key]? = some value) keys values)
    (hkeys : ∀ key ∈ map.keys, key ∈ keys) : map.toList.Perm (keys.zip values) := by
  obtain ⟨hlength, hentries⟩ := List.forall₂_iff_zip.mp hvalues
  have hzip : (keys.zip values).map Prod.fst = keys := List.map_fst_zip (le_of_eq hlength)
  apply (List.perm_ext_iff_of_nodup nodup_toList (List.Nodup.of_map Prod.fst (by rwa [hzip]))).mpr
  rintro ⟨key, value⟩
  rw [Std.ExtTreeMap.mem_toList_iff_getElem?_eq_some]
  refine ⟨fun hget => ?_, fun hmem => hentries hmem⟩
  have hkey : key ∈ (keys.zip values).map Prod.fst := by
    rw [hzip]
    have hmem : key ∈ map := Std.ExtTreeMap.mem_iff_isSome_getElem?.mpr (by simp [hget])
    exact hkeys key (Std.ExtTreeMap.mem_keys.mpr hmem)
  obtain ⟨⟨key, stored⟩, hmem, rfl⟩ := List.mem_map.mp hkey
  obtain rfl := Option.some.inj ((hentries hmem).symm.trans hget)
  exact hmem

end Zip

/-- A removal of a key that is absent changes nothing. -/
theorem erase_of_none (h : map[key]? = none) : map.erase key = map := by
  apply Std.ExtTreeMap.ext_getElem?
  intro other
  rw [get?_erase]
  split
  · rename_i hkey
    rw [← hkey, h]
  · rfl

omit [Std.LawfulEqOrd κ] [DecidableEq κ] in
theorem size_insert_of_none (h : map[key]? = none) :
    (map.insert key value).size = map.size + 1 := by
  rw [Std.ExtTreeMap.size_insert, if_neg]
  rw [Std.ExtTreeMap.contains_eq_isSome_getElem?, h]
  exact Bool.false_ne_true

omit [Std.LawfulEqOrd κ] [DecidableEq κ] in
theorem size_insert_of_some {stored : ν} (h : map[key]? = some stored) :
    (map.insert key value).size = map.size := by
  rw [Std.ExtTreeMap.size_insert, if_pos]
  rw [Std.ExtTreeMap.contains_eq_isSome_getElem?, h]
  rfl

omit [Std.LawfulEqOrd κ] [DecidableEq κ] in
theorem size_erase_of_some (h : map[key]? = some value) :
    (map.erase key).size = map.size - 1 := by
  rw [Std.ExtTreeMap.size_erase, if_pos]
  rw [Std.ExtTreeMap.contains_eq_isSome_getElem?, h]
  rfl

/-- The sum of a quantity over the values of a map. -/
def sum (f : ν → ℕ) (map : BTreeMap κ ν) : ℕ := (map.toList.map fun entry => f entry.2).sum

omit [Std.LawfulEqOrd κ] [DecidableEq κ] in
@[simp] theorem sum_empty {f : ν → ℕ} : sum f (∅ : BTreeMap κ ν) = 0 := by
  simp [sum]

/-- The sum after an insertion counts the new value in place of the old one. -/
theorem sum_insert {f : ν → ℕ} : sum f (map.insert key value) + (map[key]?.elim 0 f) =
    sum f map + f value := by
  have hinsert (value : ν) : sum f (map.insert key value) = f value +
      ((map.toList.filter fun entry => entry.1 ≠ key).map fun entry => f entry.2).sum := by
    unfold sum
    rw [(toList_insert_perm.map fun entry => f entry.2).sum_eq, List.map_cons, List.sum_cons]
  cases hstored : map[key]? with
  | none =>
    have hall : (map.toList.filter fun entry => entry.1 ≠ key) = map.toList := by
      apply List.filter_eq_self.mpr
      intro entry hentry
      apply decide_eq_true
      rintro rfl
      rw [Std.ExtTreeMap.mem_toList_iff_getElem?_eq_some.mp hentry] at hstored
      cases hstored
    rw [hinsert, hall, Option.elim_none, sum]
    omega
  | some old =>
    have hself : map.insert key old = map := by
      apply Std.ExtTreeMap.ext_getElem?
      intro other
      rw [get?_insert]
      split
      · rename_i hkey
        rw [← hkey, hstored]
      · rfl
    have hmap := hinsert old
    rw [hself] at hmap
    rw [hinsert, hmap, Option.elim_some]
    omega

/-- A map whose keys are the numbers of a range has them in order. -/
theorem keys_eq_range' {numbered : BTreeMap ℕ ν} {first n : ℕ}
    (hkeys : ∀ key, key ∈ numbered ↔ first ≤ key ∧ key < first + n) :
    numbered.keys = List.range' first n := by
  have hperm : numbered.keys.Perm (List.range' first n) := by
    apply (List.perm_ext_iff_of_nodup Std.ExtTreeMap.nodup_keys List.nodup_range').mpr
    intro key
    rw [Std.ExtTreeMap.mem_keys, hkeys, List.mem_range'_1]
  have hsorted : numbered.keys.Pairwise fun first second => first < second :=
    Std.ExtTreeMap.ordered_keys.imp fun hlt => compare_lt_iff_lt.mp hlt
  apply hperm.eq_of_pairwise _ hsorted List.pairwise_lt_range'
  intro a b _ _ hab hba
  omega

end BTreeMap
