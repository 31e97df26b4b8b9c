import Mathlib.Tactic
import Mathlib.Data.String.Basic

/-!
# Rows read page by page

Rows of a table are listed in an order, at most so many in a page, with one row more read to see
whether rows remain. A page ends with a cursor, and the next page has the rows after the cursor. The
pages list every row once if the cursor of each page's last row selects the rows behind it.
-/

namespace Paging

section Tables

variable {ρ κ : Type*} [DecidableEq κ] {key : ρ → κ}

/-- The rows of a table, with different keys. -/
structure Table (ρ : Type*) {κ : Type*} (key : ρ → κ) where
  rows : List ρ
  keyed : (rows.map key).Nodup

/-- A table without rows. -/
def Table.empty : Table ρ key := ⟨[], List.nodup_nil⟩

/-- The rows after one is inserted, in the place of the one with its key. -/
def upsertRow (key : ρ → κ) (row : ρ) : List ρ → List ρ
  | [] => [row]
  | stored :: rows => if key stored = key row then row :: rows else stored :: upsertRow key row rows

theorem mem_map_upsertRow {row : ρ} {rows : List ρ} {k : κ} :
    k ∈ (upsertRow key row rows).map key ↔ k = key row ∨ k ∈ rows.map key := by
  induction rows with
  | nil => simp [upsertRow]
  | cons stored rows ih =>
    rw [upsertRow]
    split
    · next hkey => simp [hkey]
    · rw [List.map_cons, List.mem_cons, ih, List.map_cons, List.mem_cons, or_left_comm]

theorem nodup_upsertRow {row : ρ} {rows : List ρ} (h : (rows.map key).Nodup) :
    ((upsertRow key row rows).map key).Nodup := by
  induction rows with
  | nil => simp [upsertRow]
  | cons stored rows ih =>
    obtain ⟨hstored, hrows⟩ := List.nodup_cons.mp h
    rw [upsertRow]
    split
    · next hkey => rw [List.map_cons, ← hkey]; exact h
    · next hkey =>
      rw [List.map_cons, List.nodup_cons, mem_map_upsertRow, not_or]
      exact ⟨⟨hkey, hstored⟩, ih hrows⟩

/-- `INSERT … ON CONFLICT … DO UPDATE`. -/
def Table.upsert (table : Table ρ key) (row : ρ) : Table ρ key :=
  ⟨upsertRow key row table.rows, nodup_upsertRow table.keyed⟩

end Tables

section Order

variable {ρ σ : Type*} [LinearOrder σ] {sortKey : ρ → σ} {rows others : List ρ}

/-- `ORDER BY`. -/
def ordered (sortKey : ρ → σ) (rows : List ρ) : List ρ :=
  rows.mergeSort fun first second => decide (sortKey first ≤ sortKey second)

/-- `SELECT … WHERE … ORDER BY … LIMIT`. -/
def select (test : ρ → Bool) (sortKey : ρ → σ) (limit : ℕ) (rows : List ρ) : List ρ :=
  (ordered sortKey (rows.filter test)).take limit

theorem ordered_perm : (ordered sortKey rows).Perm rows := List.mergeSort_perm _ _

/-- Rows with different sort keys have one order. -/
theorem ordered_pairwise (hkeys : (rows.map sortKey).Nodup) :
    (ordered sortKey rows).Pairwise fun first second => sortKey first < sortKey second := by
  have hsorted : (ordered sortKey rows).Pairwise fun first second =>
      sortKey first ≤ sortKey second := by
    have htrans : ∀ a b c : ρ, decide (sortKey a ≤ sortKey b) = true →
        decide (sortKey b ≤ sortKey c) = true → decide (sortKey a ≤ sortKey c) = true := by
      simp only [decide_eq_true_eq]
      exact fun a b c => le_trans
    have htotal : ∀ a b : ρ,
        (decide (sortKey a ≤ sortKey b) || decide (sortKey b ≤ sortKey a)) = true := by
      simp only [Bool.or_eq_true, decide_eq_true_eq]
      exact fun a b => le_total _ _
    simpa [ordered] using List.pairwise_mergeSort htrans htotal rows
  have hnodup : ((ordered sortKey rows).map sortKey).Nodup :=
    (ordered_perm.map sortKey).nodup_iff.mpr hkeys
  exact (hsorted.and (List.pairwise_map.mp hnodup)).imp fun h => lt_of_le_of_ne h.1 h.2

theorem eq_of_perm_of_pairwise
    (hrows : rows.Pairwise fun first second => sortKey first < sortKey second)
    (hothers : others.Pairwise fun first second => sortKey first < sortKey second)
    (hperm : rows.Perm others) : rows = others :=
  hperm.eq_of_pairwise (fun _ _ _ _ h h' => absurd h h'.asymm) hrows hothers

/-- Rows may be selected before or after they are ordered. -/
theorem ordered_filter (hkeys : (rows.map sortKey).Nodup) (test : ρ → Bool) :
    ordered sortKey (rows.filter test) = (ordered sortKey rows).filter test := by
  have hfilter : ((rows.filter test).map sortKey).Nodup :=
    hkeys.sublist (List.filter_sublist.map sortKey)
  refine eq_of_perm_of_pairwise (ordered_pairwise hfilter) ((ordered_pairwise hkeys).filter _) ?_
  exact ordered_perm.trans (ordered_perm.filter test).symm

/-- Rows may be ordered before or after only a part of their columns is kept. -/
theorem ordered_map {τ : Type*} {part : τ → ρ} {rows : List τ}
    (hkeys : ((rows.map part).map sortKey).Nodup) :
    (ordered (fun row => sortKey (part row)) rows).map part = ordered sortKey (rows.map part) := by
  have hrows : (rows.map fun row => sortKey (part row)).Nodup := by
    rwa [List.map_map] at hkeys
  refine eq_of_perm_of_pairwise ?_ (ordered_pairwise hkeys)
    ((ordered_perm.map part).trans ordered_perm.symm)
  exact List.pairwise_map.mpr (ordered_pairwise hrows)

/-- The rows with a part of their columns, selected by that part. -/
theorem map_select {τ : Type*} (part : τ → ρ) (rows : List τ) (test : τ → Bool) (other : ρ → Bool)
    (limit : ℕ) (hkeys : (((rows.filter test).map part).map sortKey).Nodup) :
    (select (fun row => test row && other (part row)) (fun row => sortKey (part row)) limit
      rows).map part =
    ((ordered sortKey ((rows.filter test).map part)).filter other).take limit := by
  have hfilter : rows.filter (fun row => test row && other (part row)) =
      (rows.filter test).filter fun row => other (part row) := by
    rw [List.filter_filter]
    simp only [Bool.and_comm]
  have hmap : ((rows.filter test).filter fun row => other (part row)).map part =
      ((rows.filter test).map part).filter other := by
    rw [List.filter_map]
    rfl
  have hkept : ((((rows.filter test).filter fun row => other (part row)).map part).map
      sortKey).Nodup := by
    rw [hmap]
    exact hkeys.sublist (List.filter_sublist.map sortKey)
  rw [select, List.map_take, hfilter, ordered_map hkept, hmap, ordered_filter hkeys]

end Order

section Pages

/-- A page: its rows, whether rows remain, and the cursor of the next page. -/
structure Page (ρ κ : Type*) where
  items : List ρ
  hasMore : Bool
  nextCursor : Option κ

variable {ρ κ : Type*}

/-- A page of rows of which one more was read than it may have. -/
def lookAhead (cursorOf : ρ → κ) (limit : ℕ) (rows : List ρ) : Page ρ κ where
  items := rows.take limit
  hasMore := decide (limit < rows.length)
  nextCursor := if limit < rows.length then (rows.take limit).getLast?.map cursorOf else none

/-- The pages from a cursor on, if they end. -/
def follow (fetch : Option κ → Page ρ κ) : ℕ → Option κ → Option (List (Page ρ κ))
  | 0, _ => none
  | fuel + 1, cursor =>
    let page := fetch cursor
    page.nextCursor.elim (some [page]) fun next =>
      (follow fetch fuel (some next)).map (page :: ·)

/-- Each page says whether some of the rows remain after it. -/
def Tells : List (Page ρ κ) → ℕ → Prop
  | [], _ => True
  | page :: pages, count =>
    (page.hasMore = true ↔ page.items.length < count) ∧ Tells pages (count - page.items.length)

/-- The pages end, and have the rows, each of them once. -/
def ListsAll (fetch : Option κ → Page ρ κ) (rows : List ρ) : Prop :=
  ∃ fuel pages, follow fetch fuel none = some pages ∧ pages.flatMap (·.items) = rows ∧
    Tells pages rows.length

/-- The pages end, and have the rows in order, each of them once. -/
def ListsOnce (fetch : Option κ → Page ρ κ) (before : ρ → ρ → Prop) (rows : List ρ) : Prop :=
  ∃ fuel pages, follow fetch fuel none = some pages ∧ (pages.flatMap (·.items)).Perm rows ∧
    (pages.flatMap (·.items)).Pairwise before ∧ Tells pages rows.length

/-- The rows that remain at a cursor. -/
def remaining (after : κ → ρ → Bool) (rows : List ρ) : Option κ → List ρ
  | none => rows
  | some cursor => rows.filter (after cursor)

theorem remaining_eq_filter {after : κ → ρ → Bool} {rows : List ρ} (cursor : Option κ) :
    remaining after rows cursor =
      rows.filter fun row => cursor.all fun cursor => after cursor row := by
  cases cursor with
  | none => exact (List.filter_eq_self.mpr fun _ _ => rfl).symm
  | some cursor => rfl

/-- Where a page may end, the cursor of its last row selects the rows behind it. -/
def Exact (cursorOf : ρ → κ) (after : κ → ρ → Bool) (limit : ℕ) (rows listed : List ρ) : Prop :=
  ∀ front last back, listed = front ++ last :: back → limit ∣ front.length + 1 → back ≠ [] →
    rows.filter (after (cursorOf last)) = back

variable {cursorOf : ρ → κ} {after : κ → ρ → Bool} {limit : ℕ} {rows listed : List ρ}
  {fetch : Option κ → Page ρ κ} {cursor : Option κ}

theorem listsOnce_iff {σ : Type*} [LinearOrder σ] {sortKey : ρ → σ}
    (hkeys : (rows.map sortKey).Nodup) :
    ListsOnce fetch (fun first second => sortKey first < sortKey second) rows ↔
      ListsAll fetch (ordered sortKey rows) := by
  constructor
  · rintro ⟨fuel, pages, hpages, hperm, hpairwise, htells⟩
    refine ⟨fuel, pages, hpages, ?_, by rwa [ordered_perm.length_eq]⟩
    exact eq_of_perm_of_pairwise hpairwise (ordered_pairwise hkeys)
      (hperm.trans ordered_perm.symm)
  · rintro ⟨fuel, pages, hpages, hitems, htells⟩
    refine ⟨fuel, pages, hpages, ?_, ?_, by rwa [ordered_perm.length_eq] at htells⟩
    · rw [hitems]
      exact ordered_perm
    · rw [hitems]
      exact ordered_pairwise hkeys

/-- A page after which the same page is fetched again never ends. -/
theorem follow_eq_none {cursor : Option κ} {next : κ}
    (hnext : (fetch cursor).nextCursor = some next) (hagain : fetch (some next) = fetch cursor)
    (fuel : ℕ) : follow fetch fuel cursor = none := by
  induction fuel generalizing cursor with
  | zero => rfl
  | succ fuel ih =>
    rw [follow, hnext, Option.elim, ih (by rw [hagain, hnext]) rfl, Option.map_none]

theorem take_succ_take {rows : List ρ} : (rows.take (limit + 1)).take limit = rows.take limit := by
  rw [List.take_take, Nat.min_eq_left (Nat.le_succ limit)]

theorem lt_length_take {rows : List ρ} :
    limit < (rows.take (limit + 1)).length ↔ limit < rows.length := by
  rw [List.length_take]
  omega

/-- There is a next cursor exactly if rows remain. -/
theorem isSome_nextCursor {rows : List ρ} (hlimit : 1 ≤ limit) :
    (if limit < rows.length then (rows.take limit).getLast?.map cursorOf else none).isSome =
      decide (limit < rows.length) := by
  by_cases hmore : limit < rows.length
  · have hne : rows.take limit ≠ [] := by
      rw [ne_eq, List.take_eq_nil_iff]
      rintro (h | rfl)
      · omega
      · exact Nat.not_lt_zero _ hmore
    rw [if_pos hmore, decide_eq_true hmore, Option.isSome_map, List.getLast?_eq_some_getLast hne,
      Option.isSome_some]
  · rw [if_neg hmore, decide_eq_false hmore, Option.isSome_none]

/-- Rows that fit a page are the last ones. -/
theorem lookAhead_last (h : listed.length ≤ limit) :
    lookAhead cursorOf limit (listed.take (limit + 1)) = ⟨listed, false, none⟩ := by
  have hmore : ¬ limit < (listed.take (limit + 1)).length := by
    rw [lt_length_take]
    omega
  rw [lookAhead, take_succ_take, if_neg hmore, decide_eq_false hmore, List.take_of_length_le h]

/-- A full page before others ends with its last row. -/
theorem lookAhead_full {front back : List ρ} {last : ρ} (hfront : front.length + 1 = limit)
    (hback : back ≠ []) :
    lookAhead cursorOf limit ((front ++ last :: back).take (limit + 1)) =
      ⟨front ++ [last], true, some (cursorOf last)⟩ := by
  have hlength := List.length_pos_iff.mpr hback
  have hmore : limit < ((front ++ last :: back).take (limit + 1)).length := by
    rw [lt_length_take, List.length_append, List.length_cons]
    omega
  have htake : (front ++ last :: back).take limit = front ++ [last] := by
    rw [List.append_cons, List.take_left' (by simpa using hfront)]
  rw [lookAhead, take_succ_take, if_pos hmore, decide_eq_true hmore, htake]
  simp

/-- More rows than fit a page are a full page and others. -/
theorem exists_split (hlimit : 1 ≤ limit) (h : limit < listed.length) :
    ∃ front last back, listed = front ++ last :: back ∧ front.length + 1 = limit ∧ back ≠ [] := by
  have hlast : limit - 1 < listed.length := by omega
  refine ⟨listed.take (limit - 1), listed[limit - 1], listed.drop limit, ?_, ?_, ?_⟩
  · have hdrop := List.drop_eq_getElem_cons hlast
    rw [Nat.sub_add_cancel hlimit] at hdrop
    rw [← hdrop, List.take_append_drop]
  · rw [List.length_take, Nat.min_eq_left hlast.le]
    omega
  · rw [ne_eq, List.drop_eq_nil_iff]
    omega

/-- Behind a full page the pages may end where they may before it. -/
theorem Exact.behind {front back : List ρ} {last : ρ} (hfront : front.length + 1 = limit)
    (h : Exact cursorOf after limit rows (front ++ last :: back)) :
    Exact cursorOf after limit rows back := by
  intro inner other rest hback hdvd hrest
  refine h (front ++ last :: inner) other rest (by rw [hback]; simp) ?_ hrest
  rw [List.length_append, List.length_cons, show front.length + (inner.length + 1) + 1 =
    limit + (inner.length + 1) by omega]
  exact (Nat.dvd_add_right (dvd_refl limit)).mpr hdvd

theorem Exact.ahead {front back : List ρ} {last : ρ}
    (hfront : front.length + 1 = limit)
    (hlast : rows.filter (after (cursorOf last)) = back)
    (h : Exact cursorOf after limit rows back) :
    Exact cursorOf after limit rows (front ++ last :: back) := by
  intro inner other rest hsplit hdvd hrest
  rcases List.append_eq_append_iff.mp hsplit with ⟨more, hinner, hback⟩ | ⟨more, hinner, hback⟩
  · cases more with
    | nil =>
      obtain ⟨rfl, rfl⟩ := List.cons.inj hback
      exact hlast
    | cons first more =>
      obtain ⟨rfl, hmore⟩ := List.cons.inj hback
      refine h more other rest hmore ?_ hrest
      rw [hinner, List.length_append, List.length_cons, show front.length + (more.length + 1) + 1 =
        limit + (more.length + 1) by omega] at hdvd
      exact (Nat.dvd_add_right (dvd_refl limit)).mp hdvd
  · -- the page ends before its bound only if it is not full
    have hlength : inner.length + 1 ≤ limit := by
      have := congrArg List.length hinner
      rw [List.length_append] at this
      omega
    have hfull : inner.length + 1 = limit := Nat.le_antisymm hlength (Nat.le_of_dvd (by omega) hdvd)
    have hmore : more = [] := by
      have := congrArg List.length hinner
      rw [List.length_append] at this
      exact List.length_eq_zero_iff.mp (by omega)
    subst hmore
    obtain ⟨rfl, rfl⟩ := List.cons.inj hback
    exact hlast

section Follow

variable (hlimit : 1 ≤ limit)
  (hfetch : ∀ cursor, fetch cursor =
    lookAhead cursorOf limit ((remaining after rows cursor).take (limit + 1)))

include hlimit hfetch

/-- With exact cursors the pages from a cursor on have the rows that remain there. -/
theorem exists_follow (fuel : ℕ) (hlisted : remaining after rows cursor = listed)
    (hexact : Exact cursorOf after limit rows listed) (hfuel : listed.length < fuel) :
    ∃ pages, follow fetch fuel cursor = some pages ∧ pages.flatMap (·.items) = listed ∧
      Tells pages listed.length := by
  induction fuel generalizing cursor listed with
  | zero => exact absurd hfuel (Nat.not_lt_zero _)
  | succ fuel ih =>
    rw [follow, hfetch, hlisted]
    by_cases hlast : listed.length ≤ limit
    · rw [lookAhead_last hlast]
      exact ⟨[⟨listed, false, none⟩], rfl, by simp, by simp [Tells]⟩
    · obtain ⟨front, last, back, rfl, hfront, hback⟩ := exists_split hlimit (not_le.mp hlast)
      have hbehind : remaining after rows (some (cursorOf last)) = back :=
        hexact front last back rfl (by rw [hfront]) hback
      rw [List.length_append, List.length_cons] at hfuel
      obtain ⟨pages, hpages, hitems, htells⟩ :=
        ih hbehind (hexact.behind hfront) (by omega)
      rw [lookAhead_full hfront hback]
      refine ⟨⟨front ++ [last], true, some (cursorOf last)⟩ :: pages, ?_, ?_, ?_⟩
      · exact congrArg (Option.map (_ :: ·)) hpages
      · rw [List.flatMap_cons, hitems, List.append_assoc]
        rfl
      · have hlength := List.length_pos_iff.mpr hback
        have hpage : (front ++ [last]).length = front.length + 1 := by simp
        rw [Tells, hpage, List.length_append, List.length_cons]
        refine ⟨iff_of_true rfl (by omega), ?_⟩
        rwa [show front.length + (back.length + 1) - (front.length + 1) = back.length by omega]

/-- The pages have no more rows than remain, and all of them only with exact cursors. -/
theorem follow_length (hdrops : ∀ front last back, rows = front ++ last :: back →
      rows.filter (after (cursorOf last)) <:+ back) (fuel : ℕ) {pages : List (Page ρ κ)}
    (hlisted : remaining after rows cursor = listed) (hsuffix : listed <:+ rows)
    (hpages : follow fetch fuel cursor = some pages) :
    (pages.flatMap (·.items)).length ≤ listed.length ∧
      ((pages.flatMap (·.items)).length = listed.length →
        Exact cursorOf after limit rows listed) := by
  induction fuel generalizing cursor listed pages with
  | zero => cases hpages
  | succ fuel ih =>
    rw [follow, hfetch, hlisted] at hpages
    by_cases hlast : listed.length ≤ limit
    · rw [lookAhead_last hlast] at hpages
      obtain rfl := Option.some.inj hpages
      refine ⟨by simp, fun _ front last back hsplit hdvd hback => ?_⟩
      have hlength := List.length_pos_iff.mpr hback
      have hle := Nat.le_of_dvd (Nat.succ_pos _) hdvd
      rw [hsplit, List.length_append, List.length_cons] at hlast
      omega
    · obtain ⟨front, last, back, rfl, hfront, hback⟩ := exists_split hlimit (not_le.mp hlast)
      rw [lookAhead_full hfront hback] at hpages
      obtain ⟨others, hothers, rfl⟩ := Option.map_eq_some_iff.mp hpages
      obtain ⟨before, hbefore⟩ := hsuffix
      have hbehind : rows.filter (after (cursorOf last)) <:+ back :=
        hdrops (before ++ front) last back (by rw [← hbefore, List.append_assoc])
      have hrows : back <:+ rows :=
        ⟨before ++ (front ++ [last]), by rw [← hbefore]; simp⟩
      have hlisted : remaining after rows (some (cursorOf last)) =
          rows.filter (after (cursorOf last)) := rfl
      obtain ⟨hle, hall⟩ := ih hlisted (hbehind.trans hrows) hothers
      have hshort := hbehind.length_le
      rw [List.flatMap_cons, List.length_append, List.length_append, List.length_singleton,
        List.length_append, List.length_cons]
      refine ⟨by omega, fun htotal => ?_⟩
      have hfilter : rows.filter (after (cursorOf last)) = back :=
        hbehind.eq_of_length (by omega)
      refine Exact.ahead hfront hfilter ?_
      rw [← hfilter]
      exact hall (by omega)

/-- With exact cursors the pages list the rows. -/
theorem listsAll_of_exact (hexact : Exact cursorOf after limit rows rows) :
    ListsAll fetch rows :=
  ⟨rows.length + 1, exists_follow hlimit hfetch (rows.length + 1) rfl hexact
    (Nat.lt_succ_self _)⟩

/-- Where cursors only ever drop rows, the pages list the rows exactly with exact cursors. -/
theorem listsAll_iff_exact (hdrops : ∀ front last back, rows = front ++ last :: back →
      rows.filter (after (cursorOf last)) <:+ back) :
    ListsAll fetch rows ↔ Exact cursorOf after limit rows rows := by
  refine ⟨?_, listsAll_of_exact hlimit hfetch⟩
  rintro ⟨fuel, pages, hpages, hitems, -⟩
  exact (follow_length hlimit hfetch hdrops fuel rfl List.suffix_rfl hpages).2
    (congrArg List.length hitems)

end Follow

section Cursors

variable {σ : Type*} [LinearOrder σ] {sortKey : ρ → σ}
  (hordered : rows.Pairwise fun first second => sortKey first < sortKey second)
  (hbehind : ∀ last row, after (cursorOf last) row = true → sortKey last < sortKey row)
  (hupward : ∀ cursor row other, after cursor row = true → sortKey row < sortKey other →
    after cursor other = true)

include hordered hbehind

/-- A cursor selects none of the rows up to its own. -/
theorem filter_after {front back : List ρ} {last : ρ} (hsplit : rows = front ++ last :: back) :
    rows.filter (after (cursorOf last)) = back.filter (after (cursorOf last)) := by
  rw [hsplit] at hordered
  have hfront : ∀ row ∈ front, ¬ after (cursorOf last) row = true := by
    intro row hrow hafter
    have hbefore := (List.pairwise_append.mp hordered).2.2 row hrow last List.mem_cons_self
    exact (hbehind last row hafter).asymm hbefore
  have hlast : ¬ after (cursorOf last) last = true := fun hafter => (hbehind last last hafter).false
  rw [hsplit, List.filter_append, List.filter_eq_nil_iff.mpr hfront, List.nil_append,
    List.filter_cons_of_neg hlast]

include hupward

/-- A cursor selects the rows from one on. -/
theorem filter_after_suffix {front back : List ρ} {last : ρ}
    (hsplit : rows = front ++ last :: back) :
    rows.filter (after (cursorOf last)) <:+ back := by
  rw [filter_after hordered hbehind hsplit]
  rw [hsplit] at hordered
  have hback := (List.pairwise_cons.mp (List.pairwise_append.mp hordered).2.1).2
  clear hsplit hordered
  induction back with
  | nil => exact List.suffix_rfl
  | cons next back ih =>
    obtain ⟨hnext, hrest⟩ := List.pairwise_cons.mp hback
    by_cases hafter : after (cursorOf last) next = true
    · have hall : ∀ row ∈ next :: back, after (cursorOf last) row = true := by
        rintro row (_ | ⟨_, hrow⟩)
        · exact hafter
        · exact hupward _ next row hafter (hnext row hrow)
      rw [List.filter_eq_self.mpr hall]
    · rw [List.filter_cons_of_neg hafter]
      exact (ih hrest).trans (List.suffix_cons next back)

/-- A cursor selects the rows behind its own exactly if it selects the next one. -/
theorem filter_after_eq_iff {front back : List ρ} {last next : ρ}
    (hsplit : rows = front ++ last :: next :: back) :
    rows.filter (after (cursorOf last)) = next :: back ↔ after (cursorOf last) next = true := by
  rw [filter_after hordered hbehind hsplit, List.filter_eq_self]
  refine ⟨fun h => h next List.mem_cons_self, ?_⟩
  rw [hsplit] at hordered
  have hback := (List.pairwise_cons.mp (List.pairwise_append.mp hordered).2.1).2
  rintro hafter row (_ | ⟨_, hrow⟩)
  · exact hafter
  · exact hupward _ next row hafter ((List.pairwise_cons.mp hback).1 row hrow)

/-- Cursors are exact if the rows at which a page ends and the next one begins are told apart. -/
theorem exact_iff : Exact cursorOf after limit rows rows ↔
    ∀ front last next back, rows = front ++ last :: next :: back → limit ∣ front.length + 1 →
      after (cursorOf last) next = true := by
  constructor
  · intro hexact front last next back hsplit hdvd
    exact (filter_after_eq_iff hordered hbehind hupward hsplit).mp
      (hexact front last (next :: back) hsplit hdvd (List.cons_ne_nil _ _))
  · intro h front last back hsplit hdvd hback
    obtain ⟨next, back, rfl⟩ := List.exists_cons_of_ne_nil hback
    exact (filter_after_eq_iff hordered hbehind hupward hsplit).mpr
      (h front last next back hsplit hdvd)

end Cursors

/-- A cursor that is as good as the sort key is exact. -/
theorem exact_of_key {σ : Type*} [LinearOrder σ] {sortKey : ρ → σ}
    (hordered : rows.Pairwise fun first second => sortKey first < sortKey second)
    (hafter : ∀ front last next back, rows = front ++ last :: next :: back →
      limit ∣ front.length + 1 → ∀ row,
        after (cursorOf last) row = decide (sortKey last < sortKey row)) :
    Exact cursorOf after limit rows rows := by
  intro front last back hsplit hdvd hback
  obtain ⟨next, back, rfl⟩ := List.exists_cons_of_ne_nil hback
  have hkey : after (cursorOf last) = fun row => decide (sortKey last < sortKey row) :=
    funext (hafter front last next back hsplit hdvd)
  have hexact : Exact sortKey (fun key row => decide (key < sortKey row)) limit rows rows := by
    refine (exact_iff hordered (fun _ _ h => of_decide_eq_true h)
      fun _ _ _ h h' => decide_eq_true ((of_decide_eq_true h).trans h')).mpr ?_
    rintro front last next back rfl -
    have hback := List.pairwise_cons.mp (List.pairwise_append.mp hordered).2.1
    exact decide_eq_true (hback.1 next List.mem_cons_self)
  rw [hkey]
  exact hexact front last (next :: back) hsplit hdvd hback

end Pages

end Paging
