import Mathlib.Tactic

/-!
# Texts with byte offsets

Slices and searches of a text by byte offsets in UTF-8. A slice whose ends are not between two
characters has no value.
-/

namespace Utf8

/-- The length of a text in bytes. -/
def byteLen : List Char → ℕ
  | [] => 0
  | c :: rest => c.utf8Size + byteLen rest

/-- A text split at a byte offset. -/
def splitAt? : List Char → ℕ → Option (List Char × List Char)
  | text, 0 => some ([], text)
  | [], _ + 1 => none
  | c :: rest, n + 1 =>
    if c.utf8Size ≤ n + 1 then
      (splitAt? rest (n + 1 - c.utf8Size)).map fun (front, back) => (c :: front, back)
    else none

/-- The text from a byte offset on. -/
def from? (text : List Char) (start : ℕ) : Option (List Char) := (splitAt? text start).map (·.2)

/-- The text between two byte offsets. -/
def slice? (text : List Char) (start stop : ℕ) : Option (List Char) :=
  if start ≤ stop then
    (from? text start).bind fun rest => (splitAt? rest (stop - start)).map (·.1)
  else none

/-- The byte offset of the first occurrence of a pattern. -/
def find? (pattern : List Char) : List Char → Option ℕ
  | [] => if pattern = [] then some 0 else none
  | c :: rest =>
    if pattern <+: c :: rest then some 0 else (find? pattern rest).map (c.utf8Size + ·)

/-- What is before and after the first occurrence of a character. -/
def splitOnce? (separator : Char) (text : List Char) : Option (List Char × List Char) :=
  if separator ∈ text then
    some (text.takeWhile (· ≠ separator), (text.dropWhile (· ≠ separator)).tail)
  else none

/-- What is before and after the last occurrence of a pattern. -/
def rsplitOnce? (pattern : List Char) : List Char → Option (List Char × List Char)
  | [] => if pattern = [] then some ([], []) else none
  | c :: rest =>
    ((rsplitOnce? pattern rest).map fun (front, back) => (c :: front, back)) <|>
      if pattern <+: c :: rest then some ([], (c :: rest).drop pattern.length) else none

/-- How often a pattern occurs. -/
def occurrences (pattern : List Char) : List Char → ℕ
  | [] => if pattern = [] then 1 else 0
  | c :: rest => (if pattern <+: c :: rest then 1 else 0) + occurrences pattern rest

/-- A byte offset is between two characters, or at an end. -/
def IsBoundary (text : List Char) (offset : ℕ) : Prop :=
  ∃ front rest, text = front ++ rest ∧ byteLen front = offset

/-- A pattern occurs at a byte offset. -/
def OccursAt (pattern text : List Char) (offset : ℕ) : Prop :=
  ∃ front rest, text = front ++ pattern ++ rest ∧ byteLen front = offset

section Offsets

variable {text pattern front rest back : List Char} {c : Char} {m n start stop : ℕ}

@[simp] theorem byteLen_nil : byteLen [] = 0 := rfl

@[simp] theorem byteLen_cons : byteLen (c :: rest) = c.utf8Size + byteLen rest := rfl

@[simp] theorem byteLen_append : byteLen (front ++ rest) = byteLen front + byteLen rest := by
  induction front with
  | nil => simp
  | cons c front ih => simp [ih, Nat.add_assoc]

theorem byteLen_pos (h : text ≠ []) : 0 < byteLen text := by
  cases text with
  | nil => exact absurd rfl h
  | cons c rest =>
    have hpos := c.utf8Size_pos
    rw [byteLen_cons]
    omega

theorem byteLen_map {f : Char → Char} (hf : ∀ c, (f c).utf8Size = c.utf8Size) :
    byteLen (text.map f) = byteLen text := by
  induction text with
  | nil => rfl
  | cons c rest ih => rw [List.map_cons, byteLen_cons, byteLen_cons, ih, hf]

theorem byteLen_replicate : byteLen (List.replicate n c) = n * c.utf8Size := by
  induction n with
  | zero => rw [List.replicate_zero, byteLen_nil, Nat.zero_mul]
  | succ n ih => rw [List.replicate_succ, byteLen_cons, ih, Nat.succ_mul, Nat.add_comm]

/-- Of two ways to split a text the one at the smaller offset splits the other's front. -/
theorem exists_of_byteLen_le {front' rest' : List Char} (h : front ++ rest = front' ++ rest')
    (hle : byteLen front ≤ byteLen front') :
    ∃ mid, front' = front ++ mid ∧ rest = mid ++ rest' := by
  rcases List.append_eq_append_iff.mp h with ⟨mid, hfront, hrest⟩ | ⟨mid, hfront, hrest⟩
  · exact ⟨mid, hfront, hrest⟩
  · have hmid : mid = [] := by
      by_contra hne
      have hpos := byteLen_pos hne
      rw [hfront, byteLen_append] at hle
      omega
    subst hmid
    exact ⟨[], by simpa using hfront.symm, by simpa using hrest.symm⟩

theorem splitAt?_eq_some_iff :
    splitAt? text n = some (front, rest) ↔ text = front ++ rest ∧ byteLen front = n := by
  induction text generalizing n front with
  | nil =>
    cases n with
    | zero =>
      rw [splitAt?]
      constructor
      · intro h
        obtain ⟨rfl, rfl⟩ := Prod.mk.inj (Option.some.inj h)
        exact ⟨rfl, rfl⟩
      · rintro ⟨h, -⟩
        obtain ⟨rfl, rfl⟩ := List.append_eq_nil_iff.mp h.symm
        rfl
    | succ n =>
      rw [splitAt?]
      constructor
      · intro h
        cases h
      · rintro ⟨h, hlen⟩
        obtain ⟨rfl, rfl⟩ := List.append_eq_nil_iff.mp h.symm
        cases hlen
  | cons c text ih =>
    cases n with
    | zero =>
      rw [splitAt?]
      constructor
      · intro h
        obtain ⟨rfl, rfl⟩ := Prod.mk.inj (Option.some.inj h)
        exact ⟨rfl, rfl⟩
      · rintro ⟨h, hlen⟩
        cases front with
        | nil => simp [h]
        | cons d front =>
          have hpos := d.utf8Size_pos
          rw [byteLen_cons] at hlen
          omega
    | succ n =>
      rw [splitAt?]
      have hpos := c.utf8Size_pos
      constructor
      · intro h
        split at h
        · obtain ⟨⟨front', rest'⟩, hsplit, heq⟩ := Option.map_eq_some_iff.mp h
          obtain ⟨rfl, rfl⟩ := Prod.mk.inj heq
          obtain ⟨rfl, hlen⟩ := ih.mp hsplit
          refine ⟨rfl, ?_⟩
          rw [byteLen_cons]
          omega
        · cases h
      · rintro ⟨h, hlen⟩
        cases front with
        | nil => cases hlen
        | cons d front =>
          obtain ⟨rfl, rfl⟩ := List.cons.inj h
          rw [byteLen_cons] at hlen
          rw [if_pos (by omega), ih.mpr ⟨rfl, by omega⟩]
          rfl

/-- A text is split at its boundaries. -/
theorem isSome_splitAt? : (splitAt? text n).isSome = true ↔ IsBoundary text n := by
  rw [Option.isSome_iff_exists]
  constructor
  · rintro ⟨⟨front, rest⟩, h⟩
    exact ⟨front, rest, splitAt?_eq_some_iff.mp h⟩
  · rintro ⟨front, rest, h⟩
    exact ⟨(front, rest), splitAt?_eq_some_iff.mpr h⟩

theorem from?_eq_some_iff : from? text start = some rest ↔
    ∃ front, text = front ++ rest ∧ byteLen front = start := by
  unfold from?
  rw [Option.map_eq_some_iff]
  constructor
  · rintro ⟨⟨front, back⟩, hsplit, rfl⟩
    exact ⟨front, splitAt?_eq_some_iff.mp hsplit⟩
  · rintro ⟨front, h⟩
    exact ⟨(front, rest), splitAt?_eq_some_iff.mpr h, rfl⟩

theorem isBoundary_zero (text : List Char) : IsBoundary text 0 := ⟨[], text, rfl, rfl⟩

theorem slice?_eq_some {mid : List Char} (h : text = front ++ mid ++ back)
    (hstart : byteLen front = start) (hstop : start + byteLen mid = stop) :
    slice? text start stop = some mid := by
  unfold slice?
  rw [if_pos (by omega), from?_eq_some_iff.mpr ⟨front, by rw [h, List.append_assoc], hstart⟩,
    Option.bind_some, splitAt?_eq_some_iff.mpr ⟨rfl, by omega⟩]
  rfl

/-- A character of a text is in a part of it when its offset is in the part's bounds. -/
theorem mem_of_byteLen {mid : List Char} (h : front ++ mid ++ back = text ++ c :: rest)
    (hstart : byteLen front ≤ byteLen text) (hstop : byteLen text < byteLen (front ++ mid)) :
    c ∈ mid := by
  rw [List.append_assoc] at h
  obtain ⟨skipped, rfl, hmid⟩ := exists_of_byteLen_le h hstart
  rw [byteLen_append, byteLen_append] at hstop
  obtain ⟨left, rfl, hleft⟩ := exists_of_byteLen_le hmid.symm (by omega)
  cases left with
  | nil =>
    rw [List.append_nil] at hstop
    omega
  | cons d left =>
    obtain ⟨rfl, -⟩ := List.cons.inj hleft
    simp

/-- A character of a part of a text has an offset in the part's bounds. -/
theorem exists_of_mem {mid : List Char} (h : c ∈ mid) : ∃ before after,
    front ++ mid ++ back = before ++ c :: after ∧ byteLen front ≤ byteLen before ∧
      byteLen before < byteLen (front ++ mid) := by
  obtain ⟨left, right, rfl⟩ := List.append_of_mem h
  refine ⟨front ++ left, right ++ back, by simp, ?_, ?_⟩
  · rw [byteLen_append]
    omega
  · have hpos := c.utf8Size_pos
    simp only [byteLen_append, byteLen_cons]
    omega

/-- A pattern after a boundary occurs at an offset from there. -/
theorem occursAt_add_iff (hfront : byteLen front = n) :
    OccursAt pattern (front ++ rest) (n + m) ↔ OccursAt pattern rest m := by
  constructor
  · rintro ⟨front', rest', h, hlen⟩
    rw [List.append_assoc] at h
    obtain ⟨mid, rfl, hrest⟩ := exists_of_byteLen_le h (by omega)
    refine ⟨mid, rest', by rw [hrest, List.append_assoc], ?_⟩
    rw [byteLen_append] at hlen
    omega
  · rintro ⟨front', rest', rfl, hlen⟩
    exact ⟨front ++ front', rest', by simp, by rw [byteLen_append, hfront, hlen]⟩

theorem occursAt_zero_iff : OccursAt pattern text 0 ↔ pattern <+: text := by
  constructor
  · rintro ⟨front, rest, rfl, hlen⟩
    cases front with
    | nil => exact ⟨rest, rfl⟩
    | cons c front =>
      have hpos := c.utf8Size_pos
      rw [byteLen_cons] at hlen
      omega
  · rintro ⟨rest, rfl⟩
    exact ⟨[], rest, rfl, rfl⟩

/-- An occurrence in a text is at its first character, or in the rest of it. -/
theorem occursAt_cons_iff : OccursAt pattern (c :: rest) n ↔
    (n = 0 ∧ pattern <+: c :: rest) ∨ ∃ m, n = c.utf8Size + m ∧ OccursAt pattern rest m := by
  have hpos := c.utf8Size_pos
  constructor
  · rintro ⟨front, back, h, hlen⟩
    cases front with
    | nil =>
      refine .inl ⟨hlen.symm, ?_⟩
      rw [h]
      exact ⟨back, rfl⟩
    | cons d front =>
      obtain ⟨rfl, hrest⟩ := List.cons.inj h
      exact .inr ⟨byteLen front, hlen.symm, front, back, hrest, rfl⟩
  · rintro (⟨rfl, hpre⟩ | ⟨m, rfl, hoccurs⟩)
    · exact occursAt_zero_iff.mpr hpre
    · rw [← List.singleton_append]
      exact (occursAt_add_iff (by simp)).mpr hoccurs

/-- A search that fails has missed nothing. -/
theorem not_occursAt_of_find? (h : find? pattern text = none) (n : ℕ) :
    ¬ OccursAt pattern text n := by
  induction text generalizing n with
  | nil =>
    rintro ⟨front, rest, hempty, -⟩
    have hpattern : pattern = [] := by
      simp only [List.nil_eq, List.append_eq_nil_iff] at hempty
      exact hempty.1.2
    rw [find?, if_pos hpattern] at h
    cases h
  | cons c text ih =>
    rw [find?] at h
    split at h
    · cases h
    · rename_i hpre
      rw [Option.map_eq_none_iff] at h
      rw [occursAt_cons_iff]
      rintro (⟨-, hfirst⟩ | ⟨m, -, hoccurs⟩)
      · exact hpre hfirst
      · exact ih h m hoccurs

/-- A search finds the first occurrence. -/
theorem first_of_find? (h : find? pattern text = some n) :
    OccursAt pattern text n ∧ ∀ m, OccursAt pattern text m → n ≤ m := by
  induction text generalizing n with
  | nil =>
    rw [find?] at h
    split at h
    · rename_i hpattern
      obtain rfl := Option.some.inj h
      exact ⟨⟨[], [], by simp [hpattern], rfl⟩, fun m _ => Nat.zero_le m⟩
    · cases h
  | cons c text ih =>
    rw [find?] at h
    split at h
    · rename_i hpre
      obtain rfl := Option.some.inj h
      exact ⟨occursAt_zero_iff.mpr hpre, fun m _ => Nat.zero_le m⟩
    · rename_i hpre
      obtain ⟨k, hfind, rfl⟩ := Option.map_eq_some_iff.mp h
      obtain ⟨hoccurs, hfirst⟩ := ih hfind
      refine ⟨occursAt_cons_iff.mpr (.inr ⟨k, rfl, hoccurs⟩), ?_⟩
      intro m hm
      rcases occursAt_cons_iff.mp hm with ⟨-, hhead⟩ | ⟨m, rfl, hrest⟩
      · exact absurd hhead hpre
      · have hle := hfirst m hrest
        omega

end Offsets

section Occurrences

variable {text pattern front rest : List Char} {c : Char}

/-- A pattern without a character does not reach over it. -/
theorem infix_append_cons (hc : c ∉ pattern) :
    pattern <:+: front ++ c :: rest ↔ pattern <:+: front ∨ pattern <:+: rest := by
  constructor
  · rintro ⟨before, after, h⟩
    rw [List.append_assoc] at h
    rcases List.append_eq_append_iff.mp h with ⟨mid, rfl, hmid⟩ | ⟨mid, rfl, hmid⟩
    · rcases List.append_eq_append_iff.mp hmid with ⟨mid', rfl, -⟩ | ⟨mid', rfl, hmid'⟩
      · exact .inl ⟨before, mid', by simp⟩
      · cases mid' with
        | nil => exact .inl ⟨before, [], by simp⟩
        | cons d mid' =>
          obtain ⟨rfl, -⟩ := List.cons.inj hmid'
          exact absurd (by simp) hc
    · cases mid with
      | nil =>
        cases pattern with
        | nil => exact .inl List.nil_infix
        | cons d pattern =>
          obtain ⟨rfl, -⟩ := List.cons.inj hmid
          exact absurd (by simp) hc
      | cons d mid =>
        obtain ⟨-, hrest⟩ := List.cons.inj hmid
        exact .inr ⟨mid, after, by simp [hrest]⟩
  · rintro (h | h)
    · exact h.trans (List.prefix_append _ _).isInfix
    · exact h.trans ((List.suffix_cons c rest).trans (List.suffix_append _ _)).isInfix

theorem prefix_append_iff_of_not_mem (hc : c ∉ pattern.tail) (hfront : front ≠ []) :
    pattern <+: front ++ c :: rest ↔ pattern <+: front := by
  constructor
  · rintro ⟨after, h⟩
    rcases List.append_eq_append_iff.mp h with ⟨mid, rfl, -⟩ | ⟨mid, rfl, hmid⟩
    · exact List.prefix_append _ _
    · cases mid with
      | nil => simp
      | cons d mid =>
        obtain ⟨rfl, -⟩ := List.cons.inj hmid
        cases front with
        | nil => exact absurd rfl hfront
        | cons e front => exact absurd (by simp) hc
  · intro h
    exact h.trans (List.prefix_append _ _)

theorem occurrences_eq_zero_iff (hpattern : pattern ≠ []) :
    occurrences pattern text = 0 ↔ ¬ pattern <:+: text := by
  induction text with
  | nil => simp [occurrences, hpattern]
  | cons c text ih =>
    rw [occurrences, Nat.add_eq_zero_iff, ih, List.infix_cons_iff]
    simp

/-- No occurrence reaches over a character that a pattern has at most as its first one. -/
theorem occurrences_append_cons (hpattern : pattern ≠ []) (hc : c ∉ pattern.tail) :
    occurrences pattern (front ++ c :: rest) =
      occurrences pattern front + occurrences pattern (c :: rest) := by
  induction front with
  | nil => simp [occurrences, hpattern]
  | cons d front ih =>
    have hiff : pattern <+: d :: (front ++ c :: rest) ↔ pattern <+: d :: front := by
      rw [← List.cons_append]
      exact prefix_append_iff_of_not_mem hc (List.cons_ne_nil d front)
    simp only [List.cons_append, occurrences] at ih ⊢
    rw [ih]
    simp only [hiff]
    omega

/-- A character that a pattern does not start with starts no occurrence. -/
theorem occurrences_cons (hc : ¬ [c] <+: pattern) (hpattern : pattern ≠ []) :
    occurrences pattern (c :: rest) = occurrences pattern rest := by
  rw [occurrences, if_neg, Nat.zero_add]
  intro h
  cases pattern with
  | nil => exact hpattern rfl
  | cons d pattern =>
    obtain ⟨after, hafter⟩ := h
    obtain ⟨rfl, -⟩ := List.cons.inj hafter
    exact hc (by simp)

/-- A text without the first character of a pattern adds no occurrence in front. -/
theorem occurrences_append_left {head : Char} (hc : head ∉ front) :
    occurrences (head :: pattern) (front ++ rest) = occurrences (head :: pattern) rest := by
  induction front with
  | nil => rfl
  | cons c front ih =>
    rw [List.cons_append, occurrences_cons, ih]
    · exact fun h => hc (List.mem_cons_of_mem _ h)
    · rintro ⟨after, hafter⟩
      obtain ⟨rfl, -⟩ := List.cons.inj hafter
      exact hc (by simp)
    · simp

/-- A text without the last character of a pattern adds no occurrence at the end. -/
theorem occurrences_append_right {last : Char} (hc : last ∉ rest) :
    occurrences (pattern ++ [last]) (front ++ rest) = occurrences (pattern ++ [last]) front := by
  have hpre (front : List Char) :
      pattern ++ [last] <+: front ++ rest ↔ pattern ++ [last] <+: front := by
    constructor
    · rintro ⟨after, h⟩
      rcases List.append_eq_append_iff.mp h with ⟨mid, rfl, -⟩ | ⟨mid, hmid, hrest⟩
      · exact List.prefix_append _ _
      · rcases List.eq_nil_or_concat mid with rfl | ⟨mid, d, rfl⟩
        · rw [hmid, List.append_nil]
        · rw [List.concat_eq_append, ← List.append_assoc] at hmid
          obtain ⟨-, hd⟩ := List.append_inj' hmid rfl
          obtain rfl := List.singleton_inj.mp hd
          exact absurd (by rw [hrest]; simp) hc
    · intro h
      exact h.trans (List.prefix_append _ _)
  induction front with
  | nil =>
    have hnone : ¬ pattern ++ [last] <:+: rest := fun h => hc (h.subset (by simp))
    rw [List.nil_append, (occurrences_eq_zero_iff (by simp)).mpr hnone]
    simp [occurrences]
  | cons c front ih =>
    rw [List.cons_append, occurrences, ih, occurrences, ← List.cons_append]
    simp only [hpre (c :: front)]

end Occurrences

section Cases

variable {c d : Char}

theorem toNat_of_isUpper {c : Char} (h : c.val ≥ 'A'.val ∧ c.val ≤ 'Z'.val) :
    65 ≤ c.toNat ∧ c.toNat ≤ 90 := h

/-- A letter takes as many bytes in lower case. -/
@[simp] theorem utf8Size_toLower (c : Char) : c.toLower.utf8Size = c.utf8Size := by
  unfold Char.toLower
  split
  · rename_i hupper
    obtain ⟨hmin, hmax⟩ := toNat_of_isUpper hupper
    have hold : c.val ≤ 0x7f := by
      rw [UInt32.le_iff_toNat_le]
      simp
      omega
    have hnew : c.val + 32 ≤ 0x7f := by
      rw [UInt32.le_iff_toNat_le]
      simp [UInt32.toNat_add]
      omega
    simp [Char.utf8Size, hold, hnew]
  · rfl

/-- Only a letter changes in lower case. -/
theorem eq_of_toLower (h : c.toLower = d) (hd : ¬ ('a' ≤ d ∧ d ≤ 'z')) : c = d := by
  unfold Char.toLower at h
  split at h
  · rename_i hupper
    obtain ⟨hmin, hmax⟩ := toNat_of_isUpper hupper
    subst h
    refine absurd ⟨?_, ?_⟩ hd
    · show (97 : UInt32) ≤ c.val + 32
      rw [UInt32.le_iff_toNat_le]
      simp [UInt32.toNat_add]
      omega
    · show c.val + 32 ≤ (122 : UInt32)
      rw [UInt32.le_iff_toNat_le]
      simp [UInt32.toNat_add]
      omega
  · exact h

theorem byteLen_toLower (text : List Char) : byteLen (text.map Char.toLower) = byteLen text :=
  byteLen_map utf8Size_toLower

end Cases

section Splits

variable {text pattern front rest back : List Char} {separator : Char}

theorem splitOnce?_append (h : separator ∉ front) :
    splitOnce? separator (front ++ separator :: rest) = some (front, rest) := by
  unfold splitOnce?
  rw [if_pos (by simp), List.takeWhile_append_of_pos, List.dropWhile_append_of_pos]
  · simp
  · intro c hc
    have hne : c ≠ separator := fun heq => h (heq ▸ hc)
    simpa using hne
  · intro c hc
    have hne : c ≠ separator := fun heq => h (heq ▸ hc)
    simpa using hne

/-- The last occurrence stays the last one when a text is put in front. -/
theorem rsplitOnce?_append (h : rsplitOnce? pattern text = some (rest, back)) :
    rsplitOnce? pattern (front ++ text) = some (front ++ rest, back) := by
  induction front with
  | nil => exact h
  | cons c front ih =>
    rw [List.cons_append, rsplitOnce?, ih]
    rfl

end Splits

end Utf8
