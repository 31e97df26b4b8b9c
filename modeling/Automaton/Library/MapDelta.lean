import Automaton.Library.BTreeMap

/-!
# Writing the difference of two maps

A stored map that holds the encoded values of a current map is brought to a next map by
removing the keys that are gone and writing the entries that differ. The result holds the
encoded values of the next map.
-/

namespace MapDelta

variable {κ ν ω : Type} [Ord κ] [Std.TransOrd κ] [Std.LawfulEqOrd κ] [DecidableEq κ]

/-- The stored map holds the encoded values of a map. -/
def Holds (encode : ν → ω) (stored : BTreeMap κ ω) (map : BTreeMap κ ν) : Prop :=
  ∀ key : κ, stored[key]? = map[key]?.map encode

/-- Removes the keys that are not kept. -/
def removeKeys (keep : κ → Bool) (keys : List κ) (stored : BTreeMap κ ω) : BTreeMap κ ω :=
  keys.foldl (fun map key => if keep key then map else map.erase key) stored

/-- Writes the entries that are not skipped, encoded. -/
def writeEntries (encode : ν → ω) (skip : κ × ν → Bool) (entries : List (κ × ν))
    (stored : BTreeMap κ ω) : BTreeMap κ ω :=
  entries.foldl (fun map entry => if skip entry then map else map.insert entry.1 (encode entry.2))
    stored

/-- The difference between two maps, written to a stored map. -/
def sync [DecidableEq ν] (encode : ν → ω) (stored : BTreeMap κ ω) (current next : BTreeMap κ ν) :
    BTreeMap κ ω :=
  writeEntries encode (fun entry => current[entry.1]? = some entry.2) next.toList
    (removeKeys next.contains current.keys stored)

/-- The entries of a list, collected. -/
def collect (entries : List (κ × ν)) : BTreeMap κ ν :=
  entries.foldl (fun map entry => map.insert entry.1 entry.2) ∅

section Lookups

variable {encode : ν → ω} {keep : κ → Bool} {skip : κ × ν → Bool} {keys : List κ}
  {entries : List (κ × ν)} {stored : BTreeMap κ ω} {key : κ} {value : ν}

/-- A look-up after removals. -/
theorem get?_removeKeys : (removeKeys keep keys stored)[key]? =
    if key ∈ keys ∧ keep key = false then none else stored[key]? := by
  unfold removeKeys
  induction keys generalizing stored with
  | nil => simp
  | cons first keys ih =>
    rw [List.foldl_cons, ih]
    by_cases hfirst : first = key
    · subst hfirst
      cases hkeep : keep first
      · simp
      · simp
    · have hne : key ≠ first := Ne.symm hfirst
      cases hkeep : keep first <;> simp [BTreeMap.get?_erase, hfirst, hne]

/-- A look-up of a key that no entry has. -/
theorem get?_writeEntries_of_notMem (h : key ∉ entries.map Prod.fst) :
    (writeEntries encode skip entries stored)[key]? = stored[key]? := by
  unfold writeEntries
  induction entries generalizing stored with
  | nil => rfl
  | cons entry entries ih =>
    simp only [List.map_cons, List.mem_cons, not_or] at h
    rw [List.foldl_cons, ih h.2]
    split
    · rfl
    · rw [BTreeMap.get?_insert, if_neg (Ne.symm h.1)]

/-- A look-up of the key of an entry. -/
theorem get?_writeEntries_of_mem (hdistinct : (entries.map Prod.fst).Nodup)
    (h : (key, value) ∈ entries) : (writeEntries encode skip entries stored)[key]? =
      if skip (key, value) then stored[key]? else some (encode value) := by
  induction entries generalizing stored with
  | nil => cases h
  | cons entry entries ih =>
    rw [List.map_cons, List.nodup_cons] at hdistinct
    rcases List.mem_cons.mp h with hentry | hmem
    · subst hentry
      -- No later entry has this key.
      have hlater : (writeEntries encode skip entries
          (if skip (key, value) then stored else stored.insert key (encode value)))[key]? = _ :=
        get?_writeEntries_of_notMem hdistinct.1
      refine hlater.trans ?_
      cases skip (key, value) <;> simp
    · have hne : entry.1 ≠ key := by
        rintro rfl
        exact hdistinct.1 (List.mem_map.mpr ⟨_, hmem, rfl⟩)
      have hlater : (writeEntries encode skip entries
          (if skip entry then stored else stored.insert entry.1 (encode entry.2)))[key]? = _ :=
        ih hdistinct.2 hmem
      refine hlater.trans ?_
      cases skip entry <;> simp [BTreeMap.get?_insert, hne]

omit [DecidableEq κ] in
/-- The keys of a map are distinct in the list of its entries. -/
theorem nodup_keys_toList (map : BTreeMap κ ν) : (map.toList.map Prod.fst).Nodup := by
  have hkeys := Std.ExtTreeMap.distinct_keys_toList (t := map)
  rw [List.Nodup, List.pairwise_map]
  exact hkeys.imp fun {a b} h heq => h (by rw [heq]; exact Std.ReflCmp.compare_self)

end Lookups

variable [DecidableEq ν] {encode : ν → ω} {stored : BTreeMap κ ω} {current next : BTreeMap κ ν}

/-- After the difference is written, the stored map holds the next map. -/
theorem Holds.sync (h : Holds encode stored current) :
    Holds encode (sync encode stored current next) next := by
  intro key
  unfold MapDelta.sync
  cases hnext : next[key]? with
  | some value =>
    have hmem : (key, value) ∈ next.toList :=
      Std.ExtTreeMap.mem_toList_iff_getElem?_eq_some.mpr hnext
    have hkept : next.contains key = true := by
      rw [Std.ExtTreeMap.contains_eq_isSome_getElem?, hnext]
      rfl
    rw [get?_writeEntries_of_mem (nodup_keys_toList next) hmem, get?_removeKeys, h key]
    by_cases hsame : current[key]? = some value <;> simp [hsame, hkept]
  | none =>
    have hkey : key ∉ next.toList.map Prod.fst := by
      intro hmem
      obtain ⟨⟨key', value⟩, hentry, rfl⟩ := List.mem_map.mp hmem
      have hsome := Std.ExtTreeMap.mem_toList_iff_getElem?_eq_some.mp hentry
      rw [hnext] at hsome
      cases hsome
    have hgone : next.contains key = false := by
      rw [Std.ExtTreeMap.contains_eq_isSome_getElem?, hnext]
      rfl
    rw [get?_writeEntries_of_notMem hkey, get?_removeKeys, h key]
    by_cases hcurrent : key ∈ current.keys
    · simp [hcurrent, hgone]
    · rw [Std.ExtTreeMap.mem_keys, Std.ExtTreeMap.mem_iff_contains,
        Std.ExtTreeMap.contains_eq_isSome_getElem?] at hcurrent
      simp_all

omit [DecidableEq ν] in
/-- The entries of a stored map, decoded and collected. -/
theorem Holds.collect {decode : ω → ν} (hdecode : ∀ value, decode (encode value) = value)
    (h : Holds encode stored current) :
    collect (stored.toList.map fun entry => (entry.1, decode entry.2)) = current := by
  have hwrite : MapDelta.collect (stored.toList.map fun entry => (entry.1, decode entry.2)) =
      writeEntries id (fun _ => false) (stored.toList.map fun entry => (entry.1, decode entry.2))
        ∅ := rfl
  have hdistinct : ((stored.toList.map fun entry =>
      (entry.1, decode entry.2)).map Prod.fst).Nodup := by
    rw [List.map_map]
    exact nodup_keys_toList stored
  rw [hwrite]
  apply Std.ExtTreeMap.ext_getElem?
  intro key
  cases hcurrent : current[key]? with
  | some value =>
    have hstored : stored[key]? = some (encode value) := by rw [h key, hcurrent]; rfl
    have hmem : (key, value) ∈ stored.toList.map fun entry => (entry.1, decode entry.2) := by
      refine List.mem_map.mpr ⟨(key, encode value), ?_, by rw [hdecode]⟩
      exact Std.ExtTreeMap.mem_toList_iff_getElem?_eq_some.mpr hstored
    rw [get?_writeEntries_of_mem hdistinct hmem]
    rfl
  | none =>
    have hstored : stored[key]? = none := by rw [h key, hcurrent]; rfl
    have hkey : key ∉ (stored.toList.map fun entry => (entry.1, decode entry.2)).map Prod.fst := by
      rw [List.map_map]
      intro hmem
      obtain ⟨⟨key', value⟩, hentry, rfl⟩ := List.mem_map.mp hmem
      have hsome := Std.ExtTreeMap.mem_toList_iff_getElem?_eq_some.mp hentry
      exact absurd (hstored.symm.trans hsome) (by simp)
    rw [get?_writeEntries_of_notMem hkey]
    exact Std.ExtTreeMap.getElem?_empty

end MapDelta
