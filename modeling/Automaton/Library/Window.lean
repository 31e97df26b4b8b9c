import Mathlib.Tactic

/-!
# Windows of the greatest items

A window keeps the items with the greatest keys of all that were ever added to it. New items
replace old ones with the same key, the items are sorted, and the least ones are dropped.
-/

namespace Window

variable {α : Type*} {key : α → ℕ} {limit : ℕ} {kept all items : List α} {item a b : α}

/-- An item replaces the one with its key, or comes last. -/
def upsert (key : α → ℕ) : List α → α → List α
  | [], item => [item]
  | first :: rest, item =>
    if key first = key item then item :: rest else first :: upsert key rest item

/-- The items with the greatest keys, in order. -/
def greatest (key : α → ℕ) (limit : ℕ) (items : List α) : List α :=
  let sorted := items.insertionSort fun first second => key first ≤ key second
  sorted.drop (sorted.length - limit)

/-- A list keeps, in order, the items with the greatest keys. -/
structure Keeps (key : α → ℕ) (limit : ℕ) (kept all : List α) : Prop where
  sorted : kept.Pairwise fun first second => key first < key second
  fromAll : kept ⊆ all
  bounded : kept.length ≤ limit
  complete : ∀ a ∈ all, a ∈ kept ∨ kept.length = limit ∧ ∀ b ∈ kept, key a < key b

/-- No two items have the same key. -/
def Distinct (key : α → ℕ) (items : List α) : Prop := items.Pairwise fun first second =>
  key first ≠ key second

theorem mem_upsert (h : b ∈ upsert key items item) : b ∈ items ∨ b = item := by
  induction items with
  | nil => exact .inr (List.mem_singleton.mp h)
  | cons first rest ih =>
    rw [upsert] at h
    split at h
    · rcases List.mem_cons.mp h with rfl | h
      · exact .inr rfl
      · exact .inl (List.mem_cons_of_mem _ h)
    · rcases List.mem_cons.mp h with rfl | h
      · exact .inl (by simp)
      · exact (ih h).imp_left (List.mem_cons_of_mem _)

/-- The keys after an item was put in are those before and its own. -/
theorem exists_key_upsert (h : a ∈ items ∨ a = item) :
    ∃ b ∈ upsert key items item, key b = key a := by
  induction items with
  | nil =>
    obtain rfl := h.resolve_left List.not_mem_nil
    exact ⟨a, by simp [upsert], rfl⟩
  | cons first rest ih =>
    rw [upsert]
    split
    · rename_i hkey
      rcases h with h | rfl
      · rcases List.mem_cons.mp h with rfl | h
        · exact ⟨item, by simp, hkey.symm⟩
        · exact ⟨a, List.mem_cons_of_mem _ h, rfl⟩
      · exact ⟨a, by simp, rfl⟩
    · by_cases hfirst : a = first
      · exact ⟨first, by simp, by rw [hfirst]⟩
      · have hrest : a ∈ rest ∨ a = item := by
          rcases h with h | h
          · exact .inl ((List.mem_cons.mp h).resolve_left hfirst)
          · exact .inr h
        obtain ⟨b, hb, hkey⟩ := ih hrest
        exact ⟨b, List.mem_cons_of_mem _ hb, hkey⟩

theorem Distinct.upsert (h : Distinct key items) : Distinct key (upsert key items item) := by
  induction items with
  | nil => exact List.pairwise_singleton _ _
  | cons first rest ih =>
    obtain ⟨hfirst, hrest⟩ := List.pairwise_cons.mp h
    rw [Window.upsert]
    split
    · rename_i hkey
      exact List.pairwise_cons.mpr ⟨fun b hb => hkey ▸ hfirst b hb, hrest⟩
    · rename_i hkey
      refine List.pairwise_cons.mpr ⟨?_, ih hrest⟩
      intro b hb
      rcases mem_upsert hb with hb | rfl
      · exact hfirst b hb
      · exact hkey

/-- What all items leave behind when they are put in one after another. -/
theorem foldl_upsert (h : Distinct key kept) :
    Distinct key (items.foldl (upsert key) kept) ∧
      (∀ b ∈ items.foldl (upsert key) kept, b ∈ kept ∨ b ∈ items) ∧
      ∀ a, a ∈ kept ∨ a ∈ items → ∃ b ∈ items.foldl (upsert key) kept, key b = key a := by
  induction items generalizing kept with
  | nil => exact ⟨h, fun b hb => .inl hb, fun a ha => ⟨a, ha.resolve_right List.not_mem_nil, rfl⟩⟩
  | cons item items ih =>
    have hupsert : Distinct key (Window.upsert key kept item) := h.upsert
    obtain ⟨hdistinct, hfrom, hkeys⟩ := ih hupsert
    refine ⟨hdistinct, ?_, ?_⟩
    · intro b hb
      rcases hfrom b hb with hb | hb
      · rcases mem_upsert hb with hb | rfl
        · exact .inl hb
        · exact .inr (by simp)
      · exact .inr (List.mem_cons_of_mem _ hb)
    · intro a ha
      by_cases hlater : a ∈ items
      · exact hkeys a (.inr hlater)
      · have hnow : a ∈ kept ∨ a = item := by
          rcases ha with ha | ha
          · exact .inl ha
          · exact .inr ((List.mem_cons.mp ha).resolve_right hlater)
        obtain ⟨b, hb, hkey⟩ := exists_key_upsert hnow
        obtain ⟨c, hc, hkey'⟩ := hkeys b (.inl hb)
        exact ⟨c, hc, hkey'.trans hkey⟩

/-- Sorted items split into those dropped and those kept, all with greater keys. -/
theorem greatest_spec (h : Distinct key items) :
    (greatest key limit items).Pairwise (fun first second => key first < key second) ∧
      greatest key limit items ⊆ items ∧ (greatest key limit items).length ≤ limit ∧
      ∀ a ∈ items, a ∈ greatest key limit items ∨
        (greatest key limit items).length = limit ∧
          ∀ b ∈ greatest key limit items, key a < key b := by
  have hperm := List.perm_insertionSort (fun first second => key first ≤ key second) items
  have hsorted : (items.insertionSort fun first second => key first ≤ key second).Pairwise
      fun first second => key first < key second := by
    have : Std.Total fun first second : α => key first ≤ key second :=
      ⟨fun first second => Nat.le_total _ _⟩
    have : IsTrans α fun first second : α => key first ≤ key second :=
      ⟨fun first second third => Nat.le_trans⟩
    have hle := List.pairwise_insertionSort (fun first second => key first ≤ key second) items
    have hne := hperm.pairwise_iff (fun {first second} hkey => Ne.symm hkey) |>.mpr h
    exact hle.imp₂ (fun first second hle hne => lt_of_le_of_ne hle hne) hne
  unfold greatest
  dsimp only
  generalize hlist : items.insertionSort (fun first second => key first ≤ key second) = sorted
  rw [hlist] at hsorted hperm
  have hsplit := List.take_append_drop (sorted.length - limit) sorted
  refine ⟨hsorted.drop, fun b hb => hperm.subset (List.mem_of_mem_drop hb), ?_, ?_⟩
  · rw [List.length_drop]
    omega
  · intro a ha
    have hmem := hperm.symm.subset ha
    rw [← hsplit] at hmem hsorted
    rcases List.mem_append.mp hmem with hdropped | hkept
    · right
      have hpos : 0 < (sorted.take (sorted.length - limit)).length :=
        List.length_pos_of_mem hdropped
      constructor
      · rw [List.length_take] at hpos
        rw [List.length_drop]
        omega
      · exact (List.pairwise_append.mp hsorted).2.2 a hdropped
    · exact .inl hkept

/-- There are fewer items with keys above that of an item than there are items. -/
theorem length_above_lt {others : List α} (hb : b ∈ kept) (hothers : (others.map key).Nodup)
    (habove : ∀ a ∈ others, key b < key a ∧ a ∈ kept) : others.length < kept.length := by
  have hsubset : key b :: others.map key ⊆ kept.map key := by
    intro k hk
    rcases List.mem_cons.mp hk with rfl | hk
    · exact List.mem_map_of_mem hb
    · obtain ⟨a, ha, rfl⟩ := List.mem_map.mp hk
      exact List.mem_map_of_mem (habove a ha).2
  have hnodup : (key b :: others.map key).Nodup := by
    refine List.nodup_cons.mpr ⟨?_, hothers⟩
    intro hk
    obtain ⟨a, ha, hkey⟩ := List.mem_map.mp hk
    have hlt := (habove a ha).1
    omega
  have hle := (hnodup.subperm hsubset).length_le
  simpa using hle

theorem nodup_of_sorted (h : kept.Pairwise fun first second => key first < key second) :
    (kept.map key).Nodup :=
  List.pairwise_map.mpr (h.imp fun hlt => Nat.ne_of_lt hlt)

/-- New items leave a window of all items, when a key stands for one item. -/
theorem Keeps.update (h : Keeps key limit kept all)
    (hkeys : ∀ a ∈ all ++ items, ∀ b ∈ all ++ items, key a = key b → a = b) :
    Keeps key limit (greatest key limit (items.foldl (upsert key) kept)) (all ++ items) := by
  have hkept : Distinct key kept := h.sorted.imp fun hlt => Nat.ne_of_lt hlt
  have hfolded : Distinct key (items.foldl (upsert key) kept) ∧ _ := foldl_upsert hkept
  obtain ⟨hdistinct, hfrom, hcovers⟩ := hfolded
  have hgreatest : (greatest key limit (items.foldl (upsert key) kept)).Pairwise _ ∧ _ :=
    greatest_spec hdistinct
  obtain ⟨hsorted, hsubset, hbounded, hcomplete⟩ := hgreatest
  have hwithin : ∀ b ∈ items.foldl (upsert key) kept, b ∈ all ++ items := by
    intro b hb
    rcases hfrom b hb with hb | hb
    · exact List.mem_append_left _ (h.fromAll hb)
    · exact List.mem_append_right _ hb
  -- An item with a key in the fold is itself in the fold.
  have hpresent : ∀ a, a ∈ kept ∨ a ∈ items → a ∈ items.foldl (upsert key) kept := by
    intro a ha
    obtain ⟨b, hb, hkey⟩ := hcovers a ha
    have hall : a ∈ all ++ items := by
      rcases ha with ha | ha
      · exact List.mem_append_left _ (h.fromAll ha)
      · exact List.mem_append_right _ ha
    exact hkeys b (hwithin b hb) a hall hkey ▸ hb
  refine ⟨hsorted, fun b hb => hwithin b (hsubset hb), hbounded, ?_⟩
  intro a ha
  by_cases hnow : a ∈ kept ∨ a ∈ items
  · exact hcomplete a (hpresent a hnow)
  · rw [not_or] at hnow
    have hold : a ∈ all := (List.mem_append.mp ha).resolve_right hnow.2
    obtain ⟨hfull, hbelow⟩ := (h.complete a hold).resolve_left hnow.1
    right
    have hstays : ∀ c ∈ kept, c ∈ greatest key limit (items.foldl (upsert key) kept) ∨
        (greatest key limit (items.foldl (upsert key) kept)).length = limit ∧
          ∀ b ∈ greatest key limit (items.foldl (upsert key) kept), key c < key b :=
      fun c hc => hcomplete c (hpresent c (.inl hc))
    have hnodup := nodup_of_sorted h.sorted
    constructor
    · by_cases hall : ∀ c ∈ kept, c ∈ greatest key limit (items.foldl (upsert key) kept)
      · have hle := (hnodup.of_map.subperm hall).length_le
        omega
      · push Not at hall
        obtain ⟨c, hc, hout⟩ := hall
        exact ((hstays c hc).resolve_left hout).1
    · intro b hb
      by_contra hlow
      have habove : ∀ c ∈ kept, key b < key c ∧
          c ∈ greatest key limit (items.foldl (upsert key) kept) := by
        intro c hc
        have hlt := hbelow c hc
        refine ⟨by omega, ?_⟩
        rcases hstays c hc with hin | ⟨-, hover⟩
        · exact hin
        · have hover := hover b hb
          omega
      have hlength := length_above_lt hb hnodup habove
      omega

end Window
