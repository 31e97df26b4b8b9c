import Automaton.Library.Fallible
import Automaton.Library.Json
import Automaton.Library.Machine

/-!
# Paths into JSON documents

`http_fetch` takes the value out of a document that a path of names and indices leads to. The path
is read by a scanner of its own, whose position is here the text that is left to read.
-/

namespace Automaton.Agent

open Machine

section Source

/-- `JsonPathSegment`. -/
inductive JsonPathSegment
  | field (name : String)
  | index (index : ℕ)
  deriving DecidableEq, Repr

/-- What is said of a path that the scanner rejects. -/
def invalidPath (path : String) : String :=
  "json_path extraction failed: invalid path `" ++ path ++ "`"

/-- A path without its root. -/
def withoutRoot (path : String) : String :=
  ((Text.stripPrefix? "$." path).orElse fun _ => Text.stripPrefix? "$" path).getD path

/-- A character of a name. -/
def isNameChar (c : Char) : Bool := c ≠ '.' && c ≠ '['

variable (target : Target) (rawPath : String)

/-- `parse_json_path_index`, from the bracket that opens; the index, and what follows it. -/
def parseJsonPathIndex (chars : List Char) : Except String (ℕ × List Char) :=
  let digits := chars.tail.takeWhile (· ≠ ']')
  match chars.tail.dropWhile (· ≠ ']') with
  | [] => .error (invalidPath rawPath)
  | _ :: rest =>
    if digits = [] ∨ ¬ digits.all Char.isDigit then .error (invalidPath rawPath)
    else (Decimal.parseUnsigned target.usizeMax (String.ofList digits)).elim
      (.error (invalidPath rawPath)) fun index => .ok (index, rest)

/-- The name or the index that a step starts with. -/
def parseStepHead (segments : List JsonPathSegment) (chars : List Char) :
    Except String (List JsonPathSegment × List Char) :=
  if chars.head? = some '.' then .error (invalidPath rawPath)
  else if chars.head? = some '[' then do
    let (index, rest) ← parseJsonPathIndex target rawPath chars
    .ok (segments ++ [.index index], rest)
  else
    let field := String.ofList (chars.takeWhile isNameChar)
    if Text.trim field = "" then .error (invalidPath rawPath)
    else .ok (segments ++ [.field field], chars.dropWhile isNameChar)

/-- What is left of a path after a step: a dot has to follow, and another step the dot. -/
def afterStep (chars : List Char) : Except String (List Char) :=
  match chars with
  | [] => .ok []
  | c :: rest => if c ≠ '.' ∨ rest = [] then .error (invalidPath rawPath) else .ok rest

end Source

section Grammar

variable (target : Target)

/-- `'[' digits ']'`, with a value that fits the machine. -/
def IndexText (text : List Char) (index : ℕ) : Prop :=
  ∃ digits, text = '[' :: (digits ++ [']']) ∧ digits ≠ [] ∧ (∀ c ∈ digits, c.isDigit = true) ∧
    Nat.ofDigitChars 10 digits 0 = index ∧ index ≤ target.usizeMax

/-- A text that is not blank, without dots and brackets that open. -/
def NameText (text : List Char) : Prop :=
  (∃ c ∈ text, Text.isWhitespace c = false) ∧ ∀ c ∈ text, c ≠ '.' ∧ c ≠ '['

/-- `{index}`, with the segments it stands for. -/
inductive IndicesText : List Char → List JsonPathSegment → Prop
  | nil : IndicesText [] []
  | cons {text rest : List Char} {index : ℕ} {segments : List JsonPathSegment} :
    IndexText target text index → IndicesText rest segments →
    IndicesText (text ++ rest) (.index index :: segments)

/-- `(name | index) {index}`. -/
inductive StepText : List Char → List JsonPathSegment → Prop
  | name {text rest : List Char} {segments : List JsonPathSegment} :
    NameText text → IndicesText target rest segments →
    StepText (text ++ rest) (.field (String.ofList text) :: segments)
  | index {text rest : List Char} {index : ℕ} {segments : List JsonPathSegment} :
    IndexText target text index → IndicesText target rest segments →
    StepText (text ++ rest) (.index index :: segments)

/-- `step {'.' step}`. -/
inductive StepsText : List Char → List JsonPathSegment → Prop
  | single {text : List Char} {segments : List JsonPathSegment} :
    StepText target text segments → StepsText text segments
  | dot {text rest : List Char} {segments others : List JsonPathSegment} :
    StepText target text segments → StepsText rest others →
    StepsText (text ++ '.' :: rest) (segments ++ others)

/-- `['$.' | '$']`, taken off first. -/
inductive Rooted : List Char → List Char → Prop
  | member (rest : List Char) : Rooted ('$' :: '.' :: rest) rest
  | root {rest : List Char} : rest.head? ≠ some '.' → Rooted ('$' :: rest) rest
  | bare {rest : List Char} : rest.head? ≠ some '$' → Rooted rest rest

/-- A path of the grammar, with its segments in the order in which they appear. -/
def IsJsonPath (path : String) (segments : List JsonPathSegment) : Prop :=
  ∃ rest, Rooted path.toList rest ∧ StepsText target rest segments

end Grammar

section Scanner

variable {target : Target} {rawPath : String} {chars rest : List Char} {index : ℕ}
  {segments out : List JsonPathSegment}

/-- A text is split at the first character of a kind. -/
theorem splits_at_first {p : Char → Bool} {c : Char} {front : List Char} (rest : List Char)
    (hfront : ∀ d ∈ front, p d) (hc : p c = false) :
    (front ++ c :: rest).takeWhile p = front ∧
      (front ++ c :: rest).dropWhile p = c :: rest := by
  rw [List.takeWhile_append_of_pos hfront, List.dropWhile_append_of_pos hfront,
    List.takeWhile_cons_of_neg (by simp [hc]), List.dropWhile_cons_of_neg (by simp [hc])]
  exact ⟨List.append_nil _, rfl⟩

/-- What is read as an index. -/
theorem parseJsonPathIndex_eq_ok :
    parseJsonPathIndex target rawPath ('[' :: chars) = .ok (index, rest) ↔
      ∃ text, IndexText target text index ∧ '[' :: chars = text ++ rest := by
  unfold parseJsonPathIndex
  dsimp only [List.tail_cons]
  constructor
  · intro h
    have hsplit := List.takeWhile_append_dropWhile (p := fun c => decide (c ≠ ']')) (l := chars)
    split at h
    · cases h
    · rename_i c after hafter
      rw [Fallible.ite_error_eq_ok] at h
      obtain ⟨hdigits, h⟩ := h
      push Not at hdigits
      have hall := List.all_eq_true.mp hdigits.2
      rw [Decimal.parseUnsigned_ofList hdigits.1 hall] at h
      split at h
      · rename_i hfits
        obtain ⟨rfl, rfl⟩ := Prod.mk.inj (Except.ok.inj h)
        have hc := List.head?_dropWhile_not (fun c => decide (c ≠ ']')) chars
        rw [hafter] at hc
        obtain rfl : c = ']' := by simpa using hc
        refine ⟨_, ⟨_, rfl, hdigits.1, hall, rfl, hfits⟩, ?_⟩
        rw [List.cons_append, List.append_assoc, List.singleton_append, ← hafter, hsplit]
      · cases h
  · rintro ⟨text, ⟨digits, rfl, hne, hall, rfl, hfits⟩, htext⟩
    obtain rfl : chars = digits ++ ']' :: rest := by simpa using htext
    have hinner : ∀ c ∈ digits, decide (c ≠ ']') = true := by
      intro c hc
      have hdigit := hall c hc
      apply decide_eq_true
      rintro rfl
      exact absurd hdigit (by decide)
    obtain ⟨htake, hdrop⟩ := splits_at_first (c := ']') rest hinner (by decide)
    rw [htake, hdrop]
    dsimp only
    rw [Fallible.ite_error_eq_ok, Decimal.parseUnsigned_ofList hne hall, if_pos hfits]
    refine ⟨fun h => ?_, rfl⟩
    rcases h with h | h
    · exact hne h
    · exact h (List.all_eq_true.mpr hall)

/-- An index has at least its brackets. -/
theorem IndexText.exists_cons {text : List Char} (h : IndexText target text index) :
    ∃ more, text = '[' :: more := by
  obtain ⟨digits, rfl, -⟩ := h
  exact ⟨_, rfl⟩

/-- An index is read as its value. -/
theorem IndexText.parse {text : List Char} (h : IndexText target text index) :
    parseJsonPathIndex target rawPath (text ++ rest) = .ok (index, rest) := by
  obtain ⟨more, rfl⟩ := h.exists_cons
  exact parseJsonPathIndex_eq_ok.mpr ⟨_, h, rfl⟩

/-- Reading an index leaves less. -/
theorem length_lt_of_parseJsonPathIndex (hhead : chars.head? = some '[')
    (h : parseJsonPathIndex target rawPath chars = .ok (index, rest)) :
    rest.length < chars.length := by
  obtain ⟨after, rfl⟩ := List.head?_eq_some_iff.mp hhead
  obtain ⟨text, hindex, heq⟩ := parseJsonPathIndex_eq_ok.mp h
  obtain ⟨more, rfl⟩ := hindex.exists_cons
  rw [heq, List.length_append, List.length_cons]
  omega

end Scanner

section Source

variable (target : Target) (rawPath : String)

/-- The loop over the indices of a step. -/
def parseIndices (segments : List JsonPathSegment) (chars : List Char) :
    Except String (List JsonPathSegment × List Char) :=
  if _hhead : chars.head? = some '[' then
    match _hindex : parseJsonPathIndex target rawPath chars with
    | .error error => .error error
    | .ok (index, rest) => parseIndices (segments ++ [.index index]) rest
  else .ok (segments, chars)
termination_by chars.length
decreasing_by exact length_lt_of_parseJsonPathIndex _hhead _hindex

/-- A round of the loop of `parse_json_path_segments`. -/
def parseRound (segments : List JsonPathSegment) (chars : List Char) :
    Except String (List JsonPathSegment × List Char) := do
  let (segments, rest) ← parseStepHead target rawPath segments chars
  let (segments, rest) ← parseIndices target rawPath segments rest
  let rest ← afterStep rawPath rest
  .ok (segments, rest)

end Source

section Scanner

variable {target : Target} {rawPath : String} {chars rest : List Char} {index : ℕ}
  {segments out : List JsonPathSegment}

/-- What is read as indices: all that there are. -/
theorem parseIndices_eq_ok :
    parseIndices target rawPath segments chars = .ok (out, rest) ↔
      ∃ text more, IndicesText target text more ∧ chars = text ++ rest ∧ out = segments ++ more ∧
        rest.head? ≠ some '[' := by
  fun_induction parseIndices target rawPath segments chars with
  | case1 segments chars hhead error hindex =>
    constructor
    · intro h
      cases h
    · rintro ⟨text, more, hindices, rfl, rfl, hrest⟩
      cases hindices with
      | nil => exact absurd hhead hrest
      | cons hfirst hothers =>
        rw [List.append_assoc, hfirst.parse] at hindex
        cases hindex
  | case2 segments chars hhead index after hindex ih =>
    obtain ⟨tail, rfl⟩ := List.head?_eq_some_iff.mp hhead
    rw [ih]
    constructor
    · rintro ⟨text, more, hindices, rfl, rfl, hrest⟩
      obtain ⟨first, hfirst, heq⟩ := parseJsonPathIndex_eq_ok.mp hindex
      refine ⟨first ++ text, _, .cons hfirst hindices, ?_, ?_, hrest⟩
      · rw [heq, List.append_assoc]
      · rw [List.append_assoc, List.singleton_append]
    · rintro ⟨text, more, hindices, heq, rfl, hrest⟩
      cases hindices with
      | nil =>
        rw [List.nil_append] at heq
        rw [← heq] at hrest
        exact absurd hhead hrest
      | cons hfirst hothers =>
        rw [heq, List.append_assoc, hfirst.parse] at hindex
        obtain ⟨rfl, rfl⟩ := Prod.mk.inj (Except.ok.inj hindex)
        exact ⟨_, _, hothers, rfl, by rw [List.append_assoc, List.singleton_append], hrest⟩
  | case3 segments chars hhead =>
    constructor
    · intro h
      obtain ⟨rfl, rfl⟩ := Prod.mk.inj (Except.ok.inj h)
      exact ⟨[], [], .nil, rfl, (List.append_nil _).symm, hhead⟩
    · rintro ⟨text, more, hindices, rfl, rfl, hrest⟩
      cases hindices with
      | nil => rw [List.append_nil, List.nil_append]
      | cons hfirst hothers =>
        obtain ⟨after, rfl⟩ := hfirst.exists_cons
        exact absurd rfl hhead

/-- A name has a character, and none that ends it. -/
theorem NameText.all {text : List Char} (h : NameText text) : ∀ c ∈ text, isNameChar c = true := by
  intro c hc
  simp [isNameChar, h.2 c hc]

/-- What ends a step: the end of the path, or a dot. -/
def EndsStep (chars : List Char) : Prop := chars = [] ∨ ∃ rest, chars = '.' :: rest

/-- A step is not read beyond its end. -/
theorem EndsStep.head_ne (h : EndsStep rest) : rest.head? ≠ some '[' := by
  rcases h with rfl | ⟨after, rfl⟩
  · simp
  · simp

/-- The characters after the name that a text starts with. -/
theorem splits_after_name {text : List Char} (h : NameText text)
    (hrest : ∀ c ∈ rest.head?, isNameChar c = false) :
    (text ++ rest).takeWhile isNameChar = text ∧ (text ++ rest).dropWhile isNameChar = rest := by
  cases rest with
  | nil =>
    rw [List.append_nil, List.takeWhile_eq_self_iff.mpr h.all, List.dropWhile_eq_nil_iff.mpr h.all]
    exact ⟨rfl, rfl⟩
  | cons c rest => exact splits_at_first rest h.all (hrest c rfl)

/-- A text that is not blank has a character that is no white space. -/
theorem trim_ofList_ne_empty {text : List Char} :
    Text.trim (String.ofList text) ≠ "" ↔ ∃ c ∈ text, Text.isWhitespace c = false := by
  constructor
  · intro h
    by_contra hspace
    push Not at hspace
    obtain ⟨lead, trail, heq, -, -⟩ := Text.exists_trim (String.ofList text)
    rw [String.toList_ofList] at heq
    apply h
    have hall : text.dropWhile Text.isWhitespace = [] := by
      rw [List.dropWhile_eq_nil_iff]
      intro c hc
      have hne := hspace c hc
      simpa using hne
    unfold Text.trim
    rw [String.toList_ofList, hall]
    rfl
  · rintro ⟨c, hc, hspace⟩
    exact Text.trim_ne_empty (by rwa [String.toList_ofList]) hspace

/-- A step that starts with an index. -/
theorem parseStepHead_of_index {text : List Char} (h : IndexText target text index) :
    parseStepHead target rawPath segments (text ++ rest) =
      .ok (segments ++ [.index index], rest) := by
  obtain ⟨after, rfl⟩ := h.exists_cons
  unfold parseStepHead
  rw [if_neg (by simp), if_pos (by simp), h.parse]
  rfl

/-- A step that starts with a name. -/
theorem parseStepHead_of_name {text : List Char} (h : NameText text)
    (hrest : ∀ c ∈ rest.head?, isNameChar c = false) :
    parseStepHead target rawPath segments (text ++ rest) =
      .ok (segments ++ [.field (String.ofList text)], rest) := by
  obtain ⟨htake, hdrop⟩ := splits_after_name h hrest
  obtain ⟨first, hfirst⟩ := h.1
  have hhead (c : Char) (hc : isNameChar c = false) : (text ++ rest).head? ≠ some c := by
    cases text with
    | nil => cases hfirst.1
    | cons d text =>
      rw [List.cons_append, List.head?_cons]
      intro heq
      have hd := h.all d (by simp)
      rw [Option.some.inj heq, hc] at hd
      cases hd
  unfold parseStepHead
  rw [if_neg (hhead '.' (by decide)), if_neg (hhead '[' (by decide))]
  dsimp only
  rw [htake, hdrop, if_neg (trim_ofList_ne_empty.mpr h.1)]

/-- What is read at the start of a step: a name or an index. -/
theorem parseStepHead_cases (h : parseStepHead target rawPath segments chars = .ok (out, rest)) :
    (∃ text index, IndexText target text index ∧ chars = text ++ rest ∧
      out = segments ++ [.index index]) ∨
    ∃ text, NameText text ∧ chars = text ++ rest ∧
      out = segments ++ [.field (String.ofList text)] := by
  unfold parseStepHead at h
  rw [Fallible.ite_error_eq_ok] at h
  obtain ⟨-, h⟩ := h
  split at h
  · rename_i hhead
    obtain ⟨after, rfl⟩ := List.head?_eq_some_iff.mp hhead
    obtain ⟨⟨index, left⟩, hindex, h⟩ := Fallible.bind_eq_ok.mp h
    obtain ⟨rfl, rfl⟩ := Prod.mk.inj (Except.ok.inj h)
    obtain ⟨text, htext, heq⟩ := parseJsonPathIndex_eq_ok.mp hindex
    exact Or.inl ⟨text, index, htext, heq, rfl⟩
  · dsimp only at h
    rw [Fallible.ite_error_eq_ok] at h
    obtain ⟨hblank, h⟩ := h
    obtain ⟨rfl, rfl⟩ := Prod.mk.inj (Except.ok.inj h)
    refine Or.inr ⟨_, ⟨trim_ofList_ne_empty.mp hblank, fun c hc => ?_⟩,
      List.takeWhile_append_dropWhile.symm, rfl⟩
    have hname := List.mem_takeWhile_imp hc
    simpa [isNameChar] using hname

/-- What has to follow a step. -/
theorem afterStep_eq_ok {left : List Char} : afterStep rawPath left = .ok rest ↔
    (left = [] ∧ rest = []) ∨ (left = '.' :: rest ∧ rest ≠ []) := by
  cases left with
  | nil =>
    constructor
    · intro h
      exact Or.inl ⟨rfl, (Except.ok.inj h).symm⟩
    · rintro (⟨-, rfl⟩ | ⟨h, -⟩)
      · rfl
      · cases h
  | cons c after =>
    unfold afterStep
    rw [Fallible.ite_error_eq_ok]
    constructor
    · rintro ⟨hdot, h⟩
      push Not at hdot
      obtain rfl := Except.ok.inj h
      exact Or.inr ⟨by rw [hdot.1], hdot.2⟩
    · rintro (⟨h, -⟩ | ⟨h, hne⟩)
      · cases h
      · obtain ⟨rfl, rfl⟩ := List.cons.inj h
        exact ⟨fun h => h.elim (fun h => h rfl) hne, rfl⟩

/-- A path is a step and what is left of it: nothing, or what follows the dot. -/
def LeavesPath (text chars rest : List Char) : Prop :=
  (chars = text ∧ rest = []) ∨ (chars = text ++ '.' :: rest ∧ rest ≠ [])

/-- A round whose parts succeed. -/
theorem parseRound_of_parts {first : List JsonPathSegment} {left after : List Char}
    (hhead : parseStepHead target rawPath segments chars = .ok (first, left))
    (hindices : parseIndices target rawPath first left = .ok (out, after))
    (hafter : afterStep rawPath after = .ok rest) :
    parseRound target rawPath segments chars = .ok (out, rest) :=
  Fallible.bind_eq_ok.mpr ⟨_, hhead, Fallible.bind_eq_ok.mpr ⟨_, hindices,
    Fallible.bind_eq_ok.mpr ⟨_, hafter, rfl⟩⟩⟩

/-- A round reads a step. -/
theorem parseRound_eq_ok : parseRound target rawPath segments chars = .ok (out, rest) ↔
    ∃ text more, StepText target text more ∧ out = segments ++ more ∧
      LeavesPath text chars rest := by
  unfold parseRound
  constructor
  · intro h
    obtain ⟨⟨first, left⟩, hhead, h⟩ := Fallible.bind_eq_ok.mp h
    obtain ⟨⟨both, left'⟩, hindices, h⟩ := Fallible.bind_eq_ok.mp h
    obtain ⟨after, hafter, h⟩ := Fallible.bind_eq_ok.mp h
    obtain ⟨rfl, rfl⟩ := Prod.mk.inj (Except.ok.inj h)
    obtain ⟨text, more, htext, rfl, rfl, -⟩ := parseIndices_eq_ok.mp hindices
    have hleaves (step : List Char) :
        LeavesPath (step ++ text) (step ++ (text ++ left')) after := by
      rcases afterStep_eq_ok.mp hafter with ⟨rfl, rfl⟩ | ⟨rfl, hne⟩
      · exact Or.inl ⟨by rw [List.append_nil], rfl⟩
      · exact Or.inr ⟨by rw [List.append_assoc], hne⟩
    rcases parseStepHead_cases hhead with ⟨step, index, hstep, rfl, rfl⟩ | ⟨step, hstep, rfl, rfl⟩
    · refine ⟨_, _, .index hstep htext, ?_, hleaves step⟩
      rw [List.append_assoc, List.singleton_append]
    · refine ⟨_, _, .name hstep htext, ?_, hleaves step⟩
      rw [List.append_assoc, List.singleton_append]
  · rintro ⟨text, more, hstep, rfl, hleaves⟩
    obtain ⟨left, rfl, hafter⟩ :
        ∃ left, chars = text ++ left ∧ afterStep rawPath left = .ok rest := by
      rcases hleaves with ⟨rfl, rfl⟩ | ⟨rfl, hne⟩
      · exact ⟨[], (List.append_nil _).symm, rfl⟩
      · exact ⟨_, rfl, afterStep_eq_ok.mpr (Or.inr ⟨rfl, hne⟩)⟩
    have hends : EndsStep left := by
      rcases afterStep_eq_ok.mp hafter with ⟨rfl, -⟩ | ⟨rfl, -⟩
      · exact Or.inl rfl
      · exact Or.inr ⟨rest, rfl⟩
    cases hstep with
    | @name text others more hname hindices =>
      have hnext : ∀ c ∈ (others ++ left).head?, isNameChar c = false := by
        intro c hc
        cases hindices with
        | nil =>
          rcases hends with rfl | ⟨after, rfl⟩
          · cases hc
          · obtain rfl := Option.some.inj hc
            decide
        | cons hfirst hothers =>
          obtain ⟨after, rfl⟩ := hfirst.exists_cons
          obtain rfl := Option.some.inj hc
          decide
      rw [List.append_assoc, List.append_cons]
      exact parseRound_of_parts (parseStepHead_of_name hname hnext)
        (parseIndices_eq_ok.mpr ⟨_, _, hindices, rfl, rfl, hends.head_ne⟩) hafter
    | @index text others index more hindex hindices =>
      rw [List.append_assoc, List.append_cons]
      exact parseRound_of_parts (parseStepHead_of_index hindex)
        (parseIndices_eq_ok.mpr ⟨_, _, hindices, rfl, rfl, hends.head_ne⟩) hafter

/-- A step has a character. -/
theorem StepText.ne_nil {text : List Char} (h : StepText target text segments) : text ≠ [] := by
  cases h with
  | name hname hindices =>
    obtain ⟨c, hc, -⟩ := hname.1
    exact List.append_ne_nil_of_left_ne_nil (List.ne_nil_of_mem hc) _
  | index hindex hindices =>
    obtain ⟨after, rfl⟩ := hindex.exists_cons
    simp

/-- A round leaves less to read. -/
theorem length_lt_of_parseRound (h : parseRound target rawPath segments chars = .ok (out, rest)) :
    rest.length < chars.length := by
  obtain ⟨text, more, hstep, -, hleaves⟩ := parseRound_eq_ok.mp h
  have hpos := List.length_pos_iff.mpr hstep.ne_nil
  rcases hleaves with ⟨rfl, rfl⟩ | ⟨rfl, -⟩
  · exact hpos
  · rw [List.length_append, List.length_cons]
    omega

end Scanner

section Source

variable (target : Target)

/-- The loop of `parse_json_path_segments`. -/
def parseRounds (rawPath : String) (segments : List JsonPathSegment) (chars : List Char) :
    Except String (List JsonPathSegment) :=
  if chars = [] then .ok segments
  else
    match _hround : parseRound target rawPath segments chars with
    | .error error => .error error
    | .ok (segments, rest) => parseRounds rawPath segments rest
termination_by chars.length
decreasing_by exact length_lt_of_parseRound _hround

/-- `parse_json_path_segments`. -/
def parseJsonPathSegments (path : String) : Except String (List JsonPathSegment) := do
  let path := withoutRoot path
  let segments ← parseRounds target path [] path.toList
  if segments = [] then .error (invalidPath path) else .ok segments

/-- `resolve_json_path_field`. -/
def resolveJsonPathField (current : JsonValue) (fieldName : String) : Option JsonValue :=
  (current.get? fieldName).orElse fun _ =>
    (Decimal.parseUnsigned target.usizeMax fieldName).bind current.at?

/-- The value that a segment leads to. -/
def resolveSegment (current : JsonValue) : JsonPathSegment → Option JsonValue
  | .field name => resolveJsonPathField target current name
  | .index index => current.at? index

/-- `json_value_kind`. -/
def jsonValueKind : JsonValue → String
  | .null => "null"
  | .bool _ => "boolean"
  | .posInt _ | .negInt _ | .float _ => "number"
  | .string _ => "string"
  | .array _ => "array"
  | .object _ => "object"

/-- `JSON_PATH_HINT_MAX_KEYS`. -/
def jsonPathHintMaxKeys : ℕ := 8

/-- `json_path_missing_hint`. -/
def jsonPathMissingHint : JsonValue → String
  | .object members =>
    let keys := (JsonValue.fields members).keys
    if keys = [] then "; current node is empty object"
    else "; current node is object with keys: " ++
      ", ".intercalate (keys.take jsonPathHintMaxKeys) ++
      if jsonPathHintMaxKeys < keys.length then ", ..." else ""
  | .array items => "; current node is array (len=" ++ toString items.length ++
    "); use [index] syntax for array access"
  | other => "; current node is " ++ jsonValueKind other

/-- The loop of `extract_json_path_from_root`. -/
def followSegments (path : String) (current : JsonValue) :
    List JsonPathSegment → Except String JsonValue
  | [] => .ok current
  | segment :: segments =>
    match resolveSegment target current segment with
    | none => .error ("json_path extraction failed: path `" ++ path ++ "` not found" ++
      jsonPathMissingHint current)
    | some next => followSegments path next segments

/-- `serialize_json_path_value`; `toJson` is `serde_json::to_string`. -/
def serializeJsonPathValue (toJson : JsonValue → Except String String) :
    JsonValue → Except String String
  | .string text => .ok text
  | other => (toJson other).mapError fun error =>
    "json_path extraction failed: could not serialize extracted value: " ++ error

/-- `extract_json_path_from_root`. -/
def extractJsonPathFromRoot (toJson : JsonValue → Except String String) (root : JsonValue)
    (path : String) : Except String String := do
  let segments ← parseJsonPathSegments target path
  let current ← followSegments target path root segments
  serializeJsonPathValue toJson current

end Source

section Selection

variable (target : Target)

/-- A segment leads from a value to a field, or to an element; the name of an element is its index
in digits. -/
inductive Selects : JsonPathSegment → JsonValue → JsonValue → Prop
  | member {members : List (String × JsonValue)} {name : String} {value : JsonValue} :
    (JsonValue.fields members)[name]? = some value → Selects (.field name) (.object members) value
  | element {values : List JsonValue} {index : ℕ} {value : JsonValue} :
    values[index]? = some value → Selects (.index index) (.array values) value
  | numbered {values : List JsonValue} {name : String} {index : ℕ} {value : JsonValue} :
    Decimal.parseUnsigned target.usizeMax name = some index → values[index]? = some value →
    Selects (.field name) (.array values) value

/-- The value that is reached by following segments. -/
inductive Reaches : List JsonPathSegment → JsonValue → JsonValue → Prop
  | here (value : JsonValue) : Reaches [] value value
  | step {segment : JsonPathSegment} {segments : List JsonPathSegment}
    {value next last : JsonValue} : Selects target segment value next →
    Reaches segments next last → Reaches (segment :: segments) value last

variable {target} {path : String} {segment : JsonPathSegment}
  {segments more : List JsonPathSegment} {value next last : JsonValue} {chars : List Char}

/-- A name is a field's, or else the index of an element. -/
theorem resolveJsonPathField_eq_some {name : String} :
    resolveJsonPathField target value name = some next ↔ value.get? name = some next ∨
      value.get? name = none ∧ ∃ index, Decimal.parseUnsigned target.usizeMax name = some index ∧
        value.at? index = some next := by
  unfold resolveJsonPathField
  cases hfield : value.get? name with
  | some field => simp
  | none => simp [Option.bind_eq_some_iff]

/-- What a segment is resolved to. -/
theorem resolveSegment_eq_some :
    resolveSegment target value segment = some next ↔ Selects target segment value next := by
  constructor
  · intro h
    cases segment with
    | index index =>
      cases value with
      | array values => exact .element h
      | _ => cases h
    | field name =>
      rcases resolveJsonPathField_eq_some.mp h with hfield | ⟨-, index, hparse, helement⟩
      · cases value with
        | object members => exact .member hfield
        | _ => cases hfield
      · cases value with
        | array values => exact .numbered hparse helement
        | _ => cases helement
  · intro h
    cases h with
    | member hfield => exact resolveJsonPathField_eq_some.mpr (Or.inl hfield)
    | element helement => exact helement
    | numbered hparse helement =>
      exact resolveJsonPathField_eq_some.mpr (Or.inr ⟨rfl, _, hparse, helement⟩)

/-- What segments are followed to. -/
theorem followSegments_eq_ok :
    followSegments target path value segments = .ok last ↔ Reaches target segments value last := by
  induction segments generalizing value with
  | nil =>
    constructor
    · intro h
      rw [← Except.ok.inj h]
      exact .here value
    · intro h
      cases h
      rfl
  | cons segment segments ih =>
    unfold followSegments
    constructor
    · intro h
      split at h
      · cases h
      · rename_i next hnext
        exact .step (resolveSegment_eq_some.mp hnext) (ih.mp h)
    · intro h
      cases h with
      | step hnext hrest =>
        rw [resolveSegment_eq_some.mpr hnext]
        exact ih.mpr hrest

/-- Steps have a character. -/
theorem StepsText.ne_nil (h : StepsText target chars segments) : chars ≠ [] := by
  cases h with
  | single hstep => exact hstep.ne_nil
  | dot hstep hsteps => simp

/-- Steps are a step and what is left. -/
theorem StepsText.exists_step (h : StepsText target chars segments) :
    ∃ text first rest others, StepText target text first ∧ LeavesPath text chars rest ∧
      segments = first ++ others ∧
      (rest = [] ∧ others = [] ∨ StepsText target rest others) := by
  cases h with
  | single hstep =>
    exact ⟨_, _, [], [], hstep, Or.inl ⟨rfl, rfl⟩, (List.append_nil _).symm, Or.inl ⟨rfl, rfl⟩⟩
  | dot hstep hsteps =>
    exact ⟨_, _, _, _, hstep, Or.inr ⟨rfl, hsteps.ne_nil⟩, rfl, Or.inr hsteps⟩

/-- A step stands for a segment. -/
theorem StepText.segments_ne_nil {text : List Char} (h : StepText target text segments) :
    segments ≠ [] := by
  cases h <;> simp

/-- Steps stand for a segment. -/
theorem StepsText.segments_ne_nil (h : StepsText target chars segments) : segments ≠ [] := by
  cases h with
  | single hstep => exact hstep.segments_ne_nil
  | dot hstep hsteps => exact List.append_ne_nil_of_left_ne_nil hstep.segments_ne_nil _

/-- What is read as steps. -/
theorem parseRounds_eq_ok {rawPath : String} :
    parseRounds target rawPath segments chars = .ok more ↔
      (chars = [] ∧ more = segments) ∨
        ∃ others, StepsText target chars others ∧ more = segments ++ others := by
  fun_induction parseRounds target rawPath segments chars with
  | case1 segments =>
    constructor
    · intro h
      exact Or.inl ⟨rfl, (Except.ok.inj h).symm⟩
    · rintro (⟨-, rfl⟩ | ⟨others, hsteps, -⟩)
      · rfl
      · exact absurd rfl hsteps.ne_nil
  | case2 segments chars hne error hround =>
    constructor
    · intro h
      cases h
    · rintro (⟨hnil, -⟩ | ⟨others, hsteps, -⟩)
      · exact absurd hnil hne
      · obtain ⟨text, first, after, rest, hstep, hleaves, -⟩ := hsteps.exists_step
        rw [parseRound_eq_ok.mpr ⟨text, first, hstep, rfl, hleaves⟩] at hround
        cases hround
  | case3 segments chars hne first rest hround ih =>
    obtain ⟨text, new, hstep, rfl, hleaves⟩ := parseRound_eq_ok.mp hround
    rw [ih]
    constructor
    · rintro (⟨rfl, rfl⟩ | ⟨others, hsteps, rfl⟩)
      · obtain rfl : chars = text := by
          rcases hleaves with ⟨heq, -⟩ | ⟨-, hrest⟩
          · exact heq
          · exact absurd rfl hrest
        exact Or.inr ⟨new, .single hstep, rfl⟩
      · obtain rfl : chars = text ++ '.' :: rest := by
          rcases hleaves with ⟨-, rfl⟩ | ⟨heq, -⟩
          · exact absurd rfl hsteps.ne_nil
          · exact heq
        exact Or.inr ⟨new ++ others, .dot hstep hsteps, by rw [List.append_assoc]⟩
    · rintro (⟨hnil, -⟩ | ⟨others, hsteps, rfl⟩)
      · exact absurd hnil hne
      · obtain ⟨text', new', rest', others', hstep', hleaves', rfl, hothers⟩ := hsteps.exists_step
        -- The scanner reads one step in one way.
        rw [parseRound_eq_ok.mpr ⟨text', new', hstep', rfl, hleaves'⟩] at hround
        obtain ⟨hsegments, rfl⟩ := Prod.mk.inj (Except.ok.inj hround)
        obtain rfl := List.append_cancel_left hsegments
        rcases hothers with ⟨rfl, rfl⟩ | hothers
        · exact Or.inl ⟨rfl, by rw [List.append_nil]⟩
        · exact Or.inr ⟨others', hothers, by rw [List.append_assoc]⟩

/-- The characters of a path without its root. -/
theorem toList_withoutRoot : (withoutRoot path).toList =
    if ['$', '.'] <+: path.toList then path.toList.drop 2
    else if ['$'] <+: path.toList then path.toList.drop 1 else path.toList := by
  have hstrip (front : String) : Text.stripPrefix? front path =
      if front.toList <+: path.toList then some (String.ofList (path.toList.drop front.length))
      else none := rfl
  unfold withoutRoot
  rw [hstrip, hstrip]
  change (((if ['$', '.'] <+: path.toList then some (String.ofList (path.toList.drop 2)) else none
    ).orElse fun _ => if ['$'] <+: path.toList then some (String.ofList (path.toList.drop 1))
      else none).getD path).toList = _
  split
  · rw [Option.orElse_some, Option.getD_some, String.toList_ofList]
  · split
    · rw [Option.orElse_none, Option.getD_some, String.toList_ofList]
    · rfl

/-- The root that is taken off a path. -/
theorem rooted_iff {rest : List Char} :
    Rooted path.toList rest ↔ rest = (withoutRoot path).toList := by
  rw [toList_withoutRoot]
  generalize path.toList = chars
  constructor
  · intro h
    cases h with
    | member rest => simp
    | root hdot =>
      have hnot : ¬ ['$', '.'] <+: '$' :: rest := by
        rintro ⟨after, heq⟩
        obtain rfl := (List.cons.inj heq).2
        exact hdot rfl
      rw [if_neg hnot]
      simp
    | bare hdollar =>
      have hnot (more : List Char) : ¬ '$' :: more <+: rest := by
        rintro ⟨after, rfl⟩
        exact hdollar rfl
      rw [if_neg (hnot _), if_neg (hnot _)]
  · rintro rfl
    split
    · rename_i hroot
      obtain ⟨after, rfl⟩ := hroot
      exact .member after
    · rename_i hmember
      split
      · rename_i hroot
        obtain ⟨after, rfl⟩ := hroot
        refine .root fun hdot => hmember ?_
        obtain ⟨more, rfl⟩ := List.head?_eq_some_iff.mp hdot
        exact ⟨more, rfl⟩
      · rename_i hroot
        refine .bare fun hdollar => hroot ?_
        obtain ⟨more, heq⟩ := List.head?_eq_some_iff.mp hdollar
        exact ⟨more, heq.symm⟩

/-- A path of the grammar is read as its segments, and any other one is refused. -/
theorem parseJsonPathSegments_eq_ok :
    parseJsonPathSegments target path = .ok segments ↔ IsJsonPath target path segments := by
  unfold parseJsonPathSegments
  rw [Fallible.bind_eq_ok]
  constructor
  · rintro ⟨read, hread, h⟩
    rw [Fallible.ite_error_eq_ok] at h
    obtain ⟨hne, h⟩ := h
    obtain rfl := Except.ok.inj h
    rcases parseRounds_eq_ok.mp hread with ⟨-, rfl⟩ | ⟨others, hsteps, rfl⟩
    · exact absurd rfl hne
    · exact ⟨_, rooted_iff.mpr rfl, hsteps⟩
  · rintro ⟨rest, hroot, hsteps⟩
    obtain rfl := rooted_iff.mp hroot
    refine ⟨segments, parseRounds_eq_ok.mpr (Or.inr ⟨segments, hsteps, rfl⟩), ?_⟩
    rw [Fallible.ite_error_eq_ok]
    exact ⟨hsteps.segments_ne_nil, rfl⟩

end Selection

section Errors

variable {target : Target} {rawPath path error : String} {segments : List JsonPathSegment}
  {chars : List Char}

/-- What is said when an index cannot be read. -/
theorem parseJsonPathIndex_eq_error
    (h : parseJsonPathIndex target rawPath chars = .error error) : error = invalidPath rawPath := by
  unfold parseJsonPathIndex at h
  dsimp only at h
  split at h
  · exact (Except.error.inj h).symm
  · rcases Fallible.ite_error_eq_error.mp h with ⟨-, h⟩ | ⟨-, h⟩
    · exact h.symm
    · cases hparse : Decimal.parseUnsigned target.usizeMax
          (String.ofList (chars.tail.takeWhile (· ≠ ']'))) with
      | none =>
        rw [hparse] at h
        exact (Except.error.inj h).symm
      | some value =>
        rw [hparse] at h
        cases h

/-- What is said when the indices of a step cannot be read. -/
theorem parseIndices_eq_error (h : parseIndices target rawPath segments chars = .error error) :
    error = invalidPath rawPath := by
  fun_induction parseIndices target rawPath segments chars with
  | case1 segments chars hhead reason hindex =>
    rw [← Except.error.inj h]
    exact parseJsonPathIndex_eq_error hindex
  | case2 segments chars hhead index rest hindex ih => exact ih h
  | case3 segments chars hhead => cases h

/-- What is said when a step cannot be read. -/
theorem parseRound_eq_error (h : parseRound target rawPath segments chars = .error error) :
    error = invalidPath rawPath := by
  rcases Fallible.bind_eq_error.mp h with hhead | ⟨⟨first, left⟩, -, h⟩
  · rcases Fallible.ite_error_eq_error.mp hhead with ⟨-, h⟩ | ⟨-, h⟩
    · exact h.symm
    · split at h
      · rcases Fallible.bind_eq_error.mp h with hindex | ⟨_, -, h⟩
        · exact parseJsonPathIndex_eq_error hindex
        · cases h
      · rcases Fallible.ite_error_eq_error.mp h with ⟨-, h⟩ | ⟨-, h⟩
        · exact h.symm
        · cases h
  · rcases Fallible.bind_eq_error.mp h with hindices | ⟨⟨both, left⟩, -, h⟩
    · exact parseIndices_eq_error hindices
    · rcases Fallible.bind_eq_error.mp h with hafter | ⟨_, -, h⟩
      · unfold afterStep at hafter
        split at hafter
        · cases hafter
        · rcases Fallible.ite_error_eq_error.mp hafter with ⟨-, h⟩ | ⟨-, h⟩
          · exact h.symm
          · cases h
      · cases h

/-- What is said when one of the steps cannot be read. -/
theorem parseRounds_eq_error (h : parseRounds target rawPath segments chars = .error error) :
    error = invalidPath rawPath := by
  fun_induction parseRounds target rawPath segments chars with
  | case1 segments => cases h
  | case2 segments chars hne reason hround =>
    rw [← Except.error.inj h]
    exact parseRound_eq_error hround
  | case3 segments chars hne first rest hround ih => exact ih h

/-- A path that is refused is named without its root. -/
theorem parseJsonPathSegments_eq_error (h : parseJsonPathSegments target path = .error error) :
    error = invalidPath (withoutRoot path) := by
  rcases Fallible.bind_eq_error.mp h with hrounds | ⟨read, -, h⟩
  · exact parseRounds_eq_error hrounds
  · rcases Fallible.ite_error_eq_error.mp h with ⟨-, h⟩ | ⟨-, h⟩
    · exact h.symm
    · cases h

end Errors

/-- Paths are read as the grammar has them: every path of it is read as its names and indices in the
order in which they appear, and any other one is refused. What is extracted is the value that the
segments lead to, and a field comes before an element of which its name is the index. -/
theorem json_path_selects (target : Target) (toJson : JsonValue → Except String String)
    (path : String) :
    (∀ segments, parseJsonPathSegments target path = .ok segments ↔
      IsJsonPath target path segments) ∧
    ((¬ ∃ segments, IsJsonPath target path segments) →
      parseJsonPathSegments target path = .error (invalidPath (withoutRoot path))) ∧
    (∀ root text, extractJsonPathFromRoot target toJson root path = .ok text ↔
      ∃ segments value, IsJsonPath target path segments ∧ Reaches target segments root value ∧
        serializeJsonPathValue toJson value = .ok text) ∧
    ∀ members name value, (JsonValue.fields members)[name]? = some value →
      resolveSegment target (.object members) (.field name) = some value := by
  refine ⟨fun segments => parseJsonPathSegments_eq_ok, fun hnone => ?_, fun root text => ?_,
    fun members name value hfield => resolveSegment_eq_some.mpr (.member hfield)⟩
  · cases hread : parseJsonPathSegments target path with
    | error error => rw [parseJsonPathSegments_eq_error hread]
    | ok segments => exact absurd ⟨segments, parseJsonPathSegments_eq_ok.mp hread⟩ hnone
  · unfold extractJsonPathFromRoot
    rw [Fallible.bind_eq_ok]
    simp only [Fallible.bind_eq_ok, parseJsonPathSegments_eq_ok, followSegments_eq_ok]
    constructor
    · rintro ⟨segments, hpath, value, hreaches, htext⟩
      exact ⟨segments, value, hpath, hreaches, htext⟩
    · rintro ⟨segments, value, hpath, hreaches, htext⟩
      exact ⟨segments, hpath, value, hreaches, htext⟩

end Automaton.Agent
