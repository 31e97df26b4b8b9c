import Automaton.Library.Decimal
import Automaton.Library.Fallible
import Automaton.Strategy.AbiArtifacts

/-!
# Canonical artifacts

What is stored of the ABI of a contract is canonical: types are fixed points of their
normalization, names are unique in each level, and functions are in the order of their signatures.
What is canonical is normalized to itself.
-/

namespace Automaton.Strategy

open Fallible

mutual

/-- A stored parameter as it is written in an artifact. -/
def AbiTypeSpec.toRaw : AbiTypeSpec → RawAbiParam
  | ⟨name, kind, components⟩ => ⟨some name, kind, toRaws components⟩

/-- Stored parameters as they are written in an artifact. -/
def toRaws : List AbiTypeSpec → List RawAbiParam
  | [] => []
  | spec :: specs => spec.toRaw :: toRaws specs

end

/-- A stored function as it is written in an artifact. -/
def AbiFunctionSpec.toEntry (spec : AbiFunctionSpec) : RawAbiEntry where
  entryType := "function"
  name := some spec.name
  inputs := toRaws spec.inputs
  outputs := toRaws spec.outputs
  stateMutability := some spec.stateMutability

section Canonical

variable (endsWord : List Char → List Char → Bool) (keccak256 : List UInt8 → List UInt8)

/-- A name has no white space at its ends and is not empty. -/
def IsName (name : String) : Prop := Text.trim name = name ∧ name ≠ ""

/-- A kind is a fixed point of the normalization, and its base is not `uint` or `int`. -/
structure CanonicalKind (kind : String) : Prop where
  fixed : normalizeRawKind endsWord kind = .ok kind
  width : (splitBaseAndSuffix kind).1 ≠ "uint" ∧ (splitBaseAndSuffix kind).1 ≠ "int"

/-- A parameter is canonical: so are the kinds in it, and the components of a tuple have their own
names. -/
inductive AbiTypeSpec.Canonical : AbiTypeSpec → Prop
  | mk {name kind : String} {components : List AbiTypeSpec} (hkind : CanonicalKind endsWord kind)
    (htuple : isTupleKind kind = true ↔ components ≠ []) (hname : IsName name)
    (hnames : (components.map (·.name)).Nodup)
    (hcomponents : ∀ component ∈ components, AbiTypeSpec.Canonical component) :
    AbiTypeSpec.Canonical ⟨name, kind, components⟩

/-- The parameters of one level. -/
structure CanonicalLevel (specs : List AbiTypeSpec) : Prop where
  names : (specs.map (·.name)).Nodup
  specs : ∀ spec ∈ specs, spec.Canonical endsWord

/-- A function with its signature. -/
structure AbiFunctionSpec.Canonical (spec : AbiFunctionSpec) (signature : String) : Prop where
  signed : canonicalSignature endsWord spec.name spec.inputs = .ok signature
  selector : spec.selectorHex = recomputeSelectorHex keccak256 signature
  inputs : CanonicalLevel endsWord spec.inputs
  outputs : CanonicalLevel endsWord spec.outputs

/-- The functions of an artifact: in the order of their signatures, which are distinct. -/
def CanonicalFunctions (functions : List AbiFunctionSpec) : Prop :=
  ∃ signatures : List String, signatures.Pairwise (· < ·) ∧
    List.Forall₂ (AbiFunctionSpec.Canonical endsWord keccak256) functions signatures

end Canonical

section Kinds

variable {endsWord : List Char → List Char → Bool} {kind rawKind base suffix text : String}

/-- What `compact` leaves has no white space. -/
theorem isWhitespace_compact : ∀ c ∈ (compact text).toList, Text.isWhitespace c = false := by
  intro c hc
  rw [compact, String.toList_ofList, List.mem_filter] at hc
  simpa using hc.2

theorem compact_eq_self (h : ∀ c ∈ text.toList, Text.isWhitespace c = false) :
    compact text = text := by
  have hall : (text.toList.filter fun c => !Text.isWhitespace c) = text.toList := by
    apply List.filter_eq_self.mpr
    intro c hc
    rw [h c hc]
    rfl
  rw [compact, hall, String.ofList_toList]

/-- A kind without white space and in lower case is normalized as it is. -/
theorem normalizeRawKind_of_small (hspace : ∀ c ∈ kind.toList, Text.isWhitespace c = false)
    (hsmall : Text.toLowercase endsWord kind = kind) :
    normalizeRawKind endsWord kind = normalizeCompactKind kind := by
  rw [normalizeRawKind, compact_eq_self hspace, hsmall]

/-- The characters of a suffix are brackets and digits, the first of which is a bracket. -/
theorem validSuffix_chars {inside : Bool} {chars : List Char}
    (h : validSuffix inside chars = true) :
    (∀ c ∈ chars, c = '[' ∨ c = ']' ∨ c.isDigit = true) ∧
      (inside = false → chars = [] ∨ chars.head? = some '[') := by
  induction chars generalizing inside with
  | nil => exact ⟨by simp, fun _ => .inl rfl⟩
  | cons c rest ih =>
    cases inside with
    | false =>
      simp only [validSuffix, Bool.and_eq_true, decide_eq_true_eq] at h
      obtain ⟨rfl, hrest⟩ := h
      refine ⟨?_, fun _ => .inr rfl⟩
      rw [List.forall_mem_cons]
      exact ⟨.inl rfl, (ih hrest).1⟩
    | true =>
      refine ⟨?_, fun hinside => by cases hinside⟩
      rw [List.forall_mem_cons]
      unfold validSuffix at h
      split at h
      · rename_i hdigit
        exact ⟨.inr (.inr hdigit), (ih h).1⟩
      · simp only [Bool.and_eq_true, decide_eq_true_eq] at h
        exact ⟨.inr (.inl h.1), (ih h.2).1⟩

theorem validateArraySuffix_eq_ok (h : validateArraySuffix suffix = .ok ()) :
    validSuffix false suffix.toList = true := by
  unfold validateArraySuffix at h
  split at h
  · assumption
  · cases h

/-- A base and a suffix are found again. -/
theorem splitBaseAndSuffix_append (hbase : ∀ c ∈ base.toList, c ≠ '[')
    (hsuffix : validSuffix false suffix.toList = true) :
    splitBaseAndSuffix (base ++ suffix) = (base, suffix) := by
  have htake : (base ++ suffix).toList.takeWhile (· ≠ '[') = base.toList := by
    rw [String.toList_append, List.takeWhile_append_of_pos (by simpa using hbase)]
    rcases (validSuffix_chars hsuffix).2 rfl with hnil | hhead
    · rw [hnil]
      simp
    · obtain ⟨rest, hrest⟩ := List.head?_eq_some_iff.mp hhead
      rw [hrest]
      simp
  have hdrop : (base ++ suffix).toList.dropWhile (· ≠ '[') = suffix.toList := by
    rw [String.toList_append, List.dropWhile_append_of_pos (by simpa using hbase)]
    rcases (validSuffix_chars hsuffix).2 rfl with hnil | hhead
    · rw [hnil]
      simp
    · obtain ⟨rest, hrest⟩ := List.head?_eq_some_iff.mp hhead
      rw [hrest]
      simp
  rw [splitBaseAndSuffix, htake, hdrop, String.ofList_toList, String.ofList_toList]

theorem splitBaseAndSuffix_join :
    (splitBaseAndSuffix kind).1 ++ (splitBaseAndSuffix kind).2 = kind := by
  unfold splitBaseAndSuffix
  rw [← String.ofList_append, List.takeWhile_append_dropWhile, String.ofList_toList]

theorem canonicalBase_cases (base : String) :
    (base = "uint" ∧ canonicalBase base = "uint256") ∨
      (base = "int" ∧ canonicalBase base = "int256") ∨
        (base ≠ "uint" ∧ base ≠ "int" ∧ canonicalBase base = base) := by
  unfold canonicalBase
  split
  · rename_i huint
    exact .inl ⟨huint, rfl⟩
  · split
    · rename_i hint
      exact .inr (.inl ⟨hint, rfl⟩)
    · rename_i huint hint
      exact .inr (.inr ⟨huint, hint, rfl⟩)

/-- What a normalized kind looks like. -/
theorem normalizeCompactKind_cases (h : normalizeCompactKind rawKind = .ok kind) :
    (∃ suffix, validSuffix false suffix.toList = true ∧ rawKind = "tuple" ++ suffix ∧
      kind = rawKind) ∨
    (Text.stripPrefix? "tuple" rawKind = none ∧ (splitBaseAndSuffix rawKind).1 ≠ "uint" ∧
      (splitBaseAndSuffix rawKind).1 ≠ "int" ∧ kind = rawKind) ∨
    ∃ suffix, validSuffix false suffix.toList = true ∧
      (kind = "uint256" ++ suffix ∨ kind = "int256" ++ suffix) := by
  unfold normalizeCompactKind at h
  split at h
  · cases h
  · split at h
    · rename_i suffix hstrip
      obtain ⟨_, hvalid, rfl⟩ := map_eq_ok.mp h
      have hraw := Text.eq_append_of_stripPrefix? hstrip
      exact .inl ⟨suffix, validateArraySuffix_eq_ok hvalid, hraw, hraw.symm⟩
    · rename_i hstrip
      obtain ⟨_, hvalid, hbase⟩ := bind_eq_ok.mp h
      obtain ⟨-, hkind⟩ := ite_error_eq_ok.mp hbase
      have hsuffix := validateArraySuffix_eq_ok hvalid
      obtain rfl := Except.ok.inj hkind
      rcases canonicalBase_cases (splitBaseAndSuffix rawKind).1 with
        ⟨-, hcanonical⟩ | ⟨-, hcanonical⟩ | ⟨huint, hint, hcanonical⟩
      · exact .inr (.inr ⟨_, hsuffix, .inl (by rw [hcanonical])⟩)
      · exact .inr (.inr ⟨_, hsuffix, .inr (by rw [hcanonical])⟩)
      · exact .inr (.inl ⟨hstrip, huint, hint, by rw [hcanonical, splitBaseAndSuffix_join]⟩)

/-- Digits, small ASCII letters and brackets are left as they are. -/
theorem plain_of_typeChar {c : Char}
    (h : (c.isDigit || c.isLower) = true ∨ c = '[' ∨ c = ']' ∨ c.isDigit = true) :
    Text.isWhitespace c = false ∧ Text.IsSmall c := by
  have hrange : 0x30 ≤ c.toNat ∧ c.toNat < 0x7b ∧ ¬ (0x41 ≤ c.toNat ∧ c.toNat ≤ 0x5a) := by
    have hval : c.toNat = c.val.toNat := rfl
    rcases h with h | rfl | rfl | h
    · have hranges : ((48 ≤ c.val && c.val ≤ 57) || (97 ≤ c.val && c.val ≤ 122)) = true := h
      simp only [Bool.or_eq_true, Bool.and_eq_true, decide_eq_true_eq, UInt32.le_iff_toNat_le,
        UInt32.reduceToNat] at hranges
      omega
    · decide
    · decide
    · simp only [Char.isDigit, Bool.and_eq_true, decide_eq_true_eq, ge_iff_le,
        UInt32.le_iff_toNat_le] at h
      simp only [UInt32.reduceToNat, Char.reduceVal] at h
      omega
  refine ⟨?_, Text.isSmall_of_ascii (by omega) hrange.2.2⟩
  simp only [Text.isWhitespace, Bool.or_eq_false_iff, Bool.and_eq_false_iff,
    decide_eq_false_iff_not]
  omega

/-- A base with its width and a suffix are left as they are. -/
theorem canonicalKind_append (hbase : base = "uint256" ∨ base = "int256")
    (hsuffix : validSuffix false suffix.toList = true) :
    CanonicalKind endsWord (base ++ suffix) := by
  have hchars : (base.toList.all fun c => c.isDigit || c.isLower) = true := by
    rcases hbase with rfl | rfl
    · decide
    · decide
  have hplain : ∀ c ∈ (base ++ suffix).toList, Text.isWhitespace c = false ∧ Text.IsSmall c := by
    intro c hc
    rw [String.toList_append, List.mem_append] at hc
    rcases hc with hc | hc
    · exact plain_of_typeChar (.inl (List.all_eq_true.mp hchars c hc))
    · exact plain_of_typeChar (.inr ((validSuffix_chars hsuffix).1 c hc))
  have hsplit : splitBaseAndSuffix (base ++ suffix) = (base, suffix) := by
    apply splitBaseAndSuffix_append _ hsuffix
    rcases hbase with rfl | rfl
    · simp
    · simp
  have hstrip : Text.stripPrefix? "tuple" (base ++ suffix) = none := by
    rcases hbase with rfl | rfl
    · simp [Text.stripPrefix?]
    · simp [Text.stripPrefix?]
  have hkeep : canonicalBase base = base ∧ base ≠ "" ∧ base ≠ "uint" ∧ base ≠ "int" := by
    rcases hbase with rfl | rfl
    · decide
    · decide
  have hvalid : validateArraySuffix suffix = .ok () := if_pos hsuffix
  have hnonempty : base ++ suffix ≠ "" := by
    intro hempty
    rcases hbase with rfl | rfl
    · simp [← String.toList_inj] at hempty
    · simp [← String.toList_inj] at hempty
  refine ⟨?_, ?_⟩
  · rw [normalizeRawKind_of_small (fun c hc => (hplain c hc).1)
      (Text.toLowercase_eq_self fun c hc => (hplain c hc).2)]
    unfold normalizeCompactKind
    rw [if_neg hnonempty, hstrip]
    dsimp only
    rw [hsplit]
    dsimp only
    rw [hvalid, hkeep.1]
    exact if_neg hkeep.2.1
  · rw [hsplit]
    exact hkeep.2.2

/-- A normalized kind is canonical. -/
theorem canonicalKind_of_normalized (h : normalizeRawKind endsWord rawKind = .ok kind) :
    CanonicalKind endsWord kind := by
  have hspace : ∀ c ∈ (Text.toLowercase endsWord (compact rawKind)).toList,
      Text.isWhitespace c = false := Text.isWhitespace_toLowercase isWhitespace_compact
  have hsmall : Text.toLowercase endsWord (Text.toLowercase endsWord (compact rawKind)) =
      Text.toLowercase endsWord (compact rawKind) := Text.toLowercase_toLowercase
  have hfixed : kind = Text.toLowercase endsWord (compact rawKind) →
      normalizeRawKind endsWord kind = .ok kind := by
    rintro rfl
    rw [normalizeRawKind_of_small hspace hsmall]
    exact h
  rcases normalizeCompactKind_cases h with ⟨suffix, hsuffix, hraw, hkind⟩ |
    ⟨-, huint, hint, hkind⟩ | ⟨suffix, hsuffix, rfl | rfl⟩
  · refine ⟨hfixed hkind, ?_⟩
    rw [hkind, hraw, splitBaseAndSuffix_append (by simp) hsuffix]
    simp
  · exact ⟨hfixed hkind, hkind ▸ ⟨huint, hint⟩⟩
  · exact canonicalKind_append (.inl rfl) hsuffix
  · exact canonicalKind_append (.inr rfl) hsuffix

end Kinds

section Names

variable {used : List String} {name : String}

theorem fallbackName_injective : Function.Injective fallbackName := by
  intro index other hsame
  apply Decimal.toString_injective
  have hchars := congrArg String.toList hsame
  rw [fallbackName, fallbackName, String.toList_append, String.toList_append] at hchars
  exact String.toList_inj.mp (List.append_cancel_left hchars)

theorem isName_fallbackName (index : ℕ) : IsName (fallbackName index) := by
  have hspace : ∀ c ∈ (fallbackName index).toList, Text.isWhitespace c = false := by
    intro c hc
    rw [fallbackName, String.toList_append, List.mem_append] at hc
    rcases hc with hc | hc
    · have hfront : ("arg".toList.all fun c => c.isDigit || c.isLower) = true := by decide
      exact (plain_of_typeChar (.inl (List.all_eq_true.mp hfront c hc))).1
    · rw [Nat.toString_eq_ofList_toDigits, String.toList_ofList] at hc
      have hdigit : c.isDigit = true :=
        Nat.isDigit_of_mem_toDigits (by omega) (by omega) hc
      exact (plain_of_typeChar (.inr (.inr (.inr hdigit)))).1
  constructor
  · exact Text.trim_eq_self_of_all hspace
  · intro hempty
    have hchars := congrArg String.toList hempty
    rw [fallbackName, String.toList_append] at hchars
    cases hchars

/-- One of the names that stand in is free: there are more of them than names that are used. -/
theorem fallbackName_freshIndex (used : List String) (first : ℕ) :
    fallbackName (freshIndex used first) ∉ used := by
  unfold freshIndex
  cases hfind : (List.range' first (used.length + 1)).find? fun index =>
      !used.contains (fallbackName index) with
  | some index =>
    have hfree := List.find?_some hfind
    simpa using hfree
  | none =>
    exfalso
    have hall := List.find?_eq_none.mp hfind
    have hsubset : (List.range' first (used.length + 1)).map fallbackName ⊆ used := by
      intro fallback hmem
      obtain ⟨index, hindex, rfl⟩ := List.mem_map.mp hmem
      simpa using hall index hindex
    have hnodup : ((List.range' first (used.length + 1)).map fallbackName).Nodup :=
      List.Nodup.map fallbackName_injective List.nodup_range'
    have hlength := (List.subperm_of_subset hnodup hsubset).length_le
    rw [List.length_map, List.length_range'] at hlength
    omega

/-- A parameter gets a name that is not used. -/
theorem normalizeParamName_spec (rawName : Option String) (used : List String) (next : ℕ) :
    (normalizeParamName rawName used next).1 ∉ used ∧
      IsName (normalizeParamName rawName used next).1 := by
  have hfallback := fallbackName_freshIndex used next
  unfold normalizeParamName
  split
  · rename_i candidate hcandidate
    obtain ⟨hmap, hnonempty⟩ := Option.filter_eq_some_iff.mp hcandidate
    obtain ⟨raw, -, rfl⟩ := Option.map_eq_some_iff.mp hmap
    split
    · exact ⟨hfallback, isName_fallbackName _⟩
    · rename_i hfree
      exact ⟨by simpa using hfree, Text.trim_trim, by simpa using hnonempty⟩
  · exact ⟨hfallback, isName_fallbackName _⟩

/-- A name that is not used is kept. -/
theorem normalizeParamName_of_name (hname : IsName name) (hfree : name ∉ used) (next : ℕ) :
    normalizeParamName (some name) used next = (name, next) := by
  have hcandidate : ((some name).map Text.trim).filter (· ≠ "") = some name := by
    rw [Option.map_some, hname.1, Option.filter_some]
    simp [hname.2]
  unfold normalizeParamName
  rw [hcandidate]
  exact if_neg (by simpa using hfree)

end Names

section Parameters

variable {endsWord : List Char → List Char → Bool}

mutual

/-- A parameter is normalized to a canonical one with the name that it is given. -/
theorem normalizeRawParam_canonical : ∀ {raw : RawAbiParam} {name : String} {spec : AbiTypeSpec},
    normalizeRawParam endsWord raw name = .ok spec → IsName name →
      spec.name = name ∧ spec.Canonical endsWord
  | ⟨rawName, rawKind, rawComponents⟩, name, spec, h, hname => by
    rw [normalizeRawParam] at h
    obtain ⟨kind, hraw, hspec⟩ := bind_eq_ok.mp h
    have hkind := canonicalKind_of_normalized hraw
    split at hspec
    · rename_i htuple
      obtain ⟨hnonempty, hcomponents⟩ := ite_error_eq_ok.mp hspec
      obtain ⟨components, hlevel, heq⟩ := bind_eq_ok.mp hcomponents
      obtain rfl := Except.ok.inj heq
      obtain ⟨hnames, hspecs, -, hsome⟩ := normalizeRawParams_canonical hlevel
      refine ⟨rfl, .mk hkind (iff_of_true htuple ?_) hname hnames hspecs⟩
      intro hnil
      exact hnonempty (by rw [hsome.mp hnil]; rfl)
    · rename_i htuple
      obtain rfl := Except.ok.inj hspec
      refine ⟨rfl, .mk hkind (iff_of_false htuple (by simp)) hname (by simp) (by simp)⟩

/-- The parameters of a level are canonical and have their own names, which were not used. -/
theorem normalizeRawParams_canonical : ∀ {raws : List RawAbiParam} {used : List String} {next : ℕ}
    {specs : List AbiTypeSpec}, normalizeRawParams endsWord raws used next = .ok specs →
      (specs.map (·.name)).Nodup ∧ (∀ spec ∈ specs, spec.Canonical endsWord) ∧
        (∀ spec ∈ specs, spec.name ∉ used) ∧ (specs = [] ↔ raws = [])
  | [], used, next, specs, h => by
    obtain rfl := Except.ok.inj h
    simp
  | raw :: raws, used, next, specs, h => by
    rw [normalizeRawParams] at h
    obtain ⟨spec, hspec, hrest⟩ := bind_eq_ok.mp h
    obtain ⟨rest, hspecs, heq⟩ := bind_eq_ok.mp hrest
    obtain rfl := Except.ok.inj heq
    obtain ⟨hfree, hname⟩ := normalizeParamName_spec raw.name used next
    obtain ⟨hnamed, hcanonical⟩ := normalizeRawParam_canonical hspec hname
    obtain ⟨hnodup, hall, hunused, -⟩ := normalizeRawParams_canonical hspecs
    refine ⟨?_, ?_, ?_, by simp⟩
    · rw [List.map_cons, List.nodup_cons]
      refine ⟨?_, hnodup⟩
      intro hmem
      obtain ⟨other, hother, hsame⟩ := List.mem_map.mp hmem
      apply hunused other hother
      rw [hsame, hnamed]
      exact List.mem_cons_self
    · rw [List.forall_mem_cons]
      exact ⟨hcanonical, hall⟩
    · rw [List.forall_mem_cons]
      refine ⟨hnamed ▸ hfree, ?_⟩
      intro other hother hused
      exact hunused other hother (List.mem_cons_of_mem _ hused)

end

theorem AbiTypeSpec.Canonical.isName {spec : AbiTypeSpec} (h : spec.Canonical endsWord) :
    IsName spec.name := by
  cases h
  assumption

theorem toRaws_isEmpty {specs : List AbiTypeSpec} : (toRaws specs).isEmpty = specs.isEmpty := by
  cases specs <;> rfl

mutual

/-- A canonical parameter is normalized to itself. -/
theorem normalizeRawParam_toRaw : ∀ {spec : AbiTypeSpec}, spec.Canonical endsWord →
    normalizeRawParam endsWord spec.toRaw spec.name = .ok spec
  | ⟨name, kind, components⟩, h => by
    obtain ⟨hkind, htuple, hname, hnames, hcomponents⟩ := h
    rw [AbiTypeSpec.toRaw, normalizeRawParam, hkind.fixed]
    dsimp only [bind, Except.bind]
    by_cases hnil : components = []
    · have hplain : isTupleKind kind = false := by simpa [hnil] using htuple
      rw [hplain, hnil]
      rfl
    · rw [if_pos (htuple.mpr hnil), if_neg (by simpa [toRaws_isEmpty] using hnil),
        normalizeRawParams_toRaws hnames hcomponents (by simp)]

/-- The canonical parameters of a level are normalized to themselves. -/
theorem normalizeRawParams_toRaws : ∀ {specs : List AbiTypeSpec} {used : List String} {next : ℕ},
    (specs.map (·.name)).Nodup → (∀ spec ∈ specs, spec.Canonical endsWord) →
      (∀ spec ∈ specs, spec.name ∉ used) →
        normalizeRawParams endsWord (toRaws specs) used next = .ok specs
  | [], used, next, _, _, _ => rfl
  | spec :: specs, used, next, hnames, hall, hunused => by
    rw [List.map_cons, List.nodup_cons] at hnames
    rw [List.forall_mem_cons] at hall hunused
    have hraw : spec.toRaw.name = some spec.name := by
      cases spec
      rfl
    have hname := normalizeParamName_of_name hall.1.isName hunused.1 next
    have hrest : ∀ other ∈ specs, other.name ∉ spec.name :: used := by
      intro other hother hmem
      rcases List.mem_cons.mp hmem with hsame | hused
      · exact hnames.1 (List.mem_map.mpr ⟨other, hother, hsame⟩)
      · exact hunused.2 other hother hused
    rw [toRaws, normalizeRawParams, hraw, hname]
    dsimp only
    rw [normalizeRawParam_toRaw hall.1, normalizeRawParams_toRaws hnames.2 hall.2 hrest]
    rfl

end

end Parameters

section Functions

variable {endsWord : List Char → List Char → Bool} {keccak256 : List UInt8 → List UInt8}
  {role signature : String} {entry : RawAbiEntry} {spec : AbiFunctionSpec}
  {functions : List (String × AbiFunctionSpec)} {selectors found : BTreeMap String String}

/-- A function is normalized to a canonical one, which is normalized to itself. -/
theorem normalizeFunction_canonical
    (h : normalizeFunction endsWord keccak256 role entry = .ok (signature, spec)) :
    spec.Canonical endsWord keccak256 signature ∧
      normalizeFunction endsWord keccak256 role spec.toEntry = .ok (signature, spec) := by
  unfold normalizeFunction at h
  split at h
  · cases h
  · rename_i name hcandidate
    obtain ⟨inputs, hinputs, h⟩ := bind_eq_ok.mp h
    obtain ⟨outputs, houtputs, h⟩ := bind_eq_ok.mp h
    obtain ⟨_, hsigned, h⟩ := bind_eq_ok.mp h
    obtain ⟨rfl, rfl⟩ := Prod.mk.inj (Except.ok.inj h)
    obtain ⟨hinputNames, hinputSpecs, -, -⟩ := normalizeRawParams_canonical hinputs
    obtain ⟨houtputNames, houtputSpecs, -, -⟩ := normalizeRawParams_canonical houtputs
    have hname : ((some name).map Text.trim).filter (· ≠ "") = some name := by
      obtain ⟨hmap, hnonempty⟩ := Option.filter_eq_some_iff.mp hcandidate
      obtain ⟨raw, -, rfl⟩ := Option.map_eq_some_iff.mp hmap
      rw [Option.map_some, Text.trim_trim]
      exact Option.filter_eq_some_iff.mpr ⟨rfl, hnonempty⟩
    refine ⟨⟨hsigned, rfl, ⟨hinputNames, hinputSpecs⟩, ⟨houtputNames, houtputSpecs⟩⟩, ?_⟩
    unfold normalizeFunction AbiFunctionSpec.toEntry
    dsimp only
    rw [hname]
    dsimp only
    rw [normalizeRawParams_toRaws hinputNames hinputSpecs (by simp),
      normalizeRawParams_toRaws houtputNames houtputSpecs (by simp)]
    dsimp only [bind, Except.bind]
    rw [hsigned]
    rfl

/-- Signatures are listed with their selectors exactly when no two are the same. -/
theorem selectorsBySignature_isOk_iff : (selectorsBySignature functions selectors).isOk = true ↔
    (functions.map (·.1)).Nodup ∧ ∀ function ∈ functions, selectors[function.1]? = none := by
  induction functions generalizing selectors with
  | nil => simp [selectorsBySignature, Except.isOk, Except.toBool]
  | cons function functions ih =>
    obtain ⟨signature, spec⟩ := function
    rw [selectorsBySignature, List.map_cons, List.nodup_cons, List.forall_mem_cons]
    by_cases hknown : selectors[signature]? = none
    · rw [if_neg (by simpa using hknown), ih]
      constructor
      · rintro ⟨hnodup, hnew⟩
        have hother : ∀ other ∈ functions, signature ≠ other.1 ∧ selectors[other.1]? = none := by
          intro other hmem
          have hnone := hnew other hmem
          rw [BTreeMap.get?_insert] at hnone
          split at hnone
          · cases hnone
          · rename_i hne
            exact ⟨hne, hnone⟩
        refine ⟨⟨?_, hnodup⟩, hknown, fun other hmem => (hother other hmem).2⟩
        intro hmem
        obtain ⟨other, hmem, hsame⟩ := List.mem_map.mp hmem
        exact (hother other hmem).1 hsame.symm
      · rintro ⟨⟨hfresh, hnodup⟩, -, hall⟩
        refine ⟨hnodup, ?_⟩
        intro other hmem
        rw [BTreeMap.get?_insert, if_neg]
        · exact hall other hmem
        · intro hsame
          exact hfresh (List.mem_map.mpr ⟨other, hmem, hsame.symm⟩)
    · rw [if_pos hknown]
      refine iff_of_false (by simp [Except.isOk, Except.toBool]) ?_
      exact fun hparts => hknown hparts.2.1

/-- The selectors are those of the functions. -/
theorem selectorsBySignature_spec (h : selectorsBySignature functions selectors = .ok found)
    (signature selector : String) : found[signature]? = some selector ↔
      selectors[signature]? = some selector ∨
        ∃ function ∈ functions, function.1 = signature ∧ function.2.selectorHex = selector := by
  induction functions generalizing selectors with
  | nil =>
    obtain rfl := Except.ok.inj h
    simp
  | cons function functions ih =>
    obtain ⟨first, spec⟩ := function
    rw [selectorsBySignature] at h
    obtain ⟨hknown, hrest⟩ := ite_error_eq_ok.mp h
    rw [ih hrest, BTreeMap.get?_insert, List.exists_mem_cons_iff]
    by_cases hsame : first = signature
    · subst hsame
      have hnone : selectors[first]? = none := by simpa using hknown
      simp [hnone]
    · simp [hsame]

/-- The selectors do not depend on the order of the functions. -/
theorem selectorsBySignature_perm {others : List (String × AbiFunctionSpec)}
    (hperm : others.Perm functions) (h : selectorsBySignature functions ∅ = .ok found) :
    selectorsBySignature others ∅ = .ok found := by
  have hok : (selectorsBySignature functions ∅).isOk = true := by
    rw [h]
    rfl
  obtain ⟨hnodup, hnew⟩ := selectorsBySignature_isOk_iff.mp hok
  have hokOthers : (selectorsBySignature others ∅).isOk = true := by
    apply selectorsBySignature_isOk_iff.mpr
    refine ⟨(hperm.map (·.1)).nodup_iff.mpr hnodup, ?_⟩
    intro other hmem
    exact hnew other (hperm.mem_iff.mp hmem)
  cases hother : selectorsBySignature others ∅ with
  | error message =>
    rw [hother] at hokOthers
    cases hokOthers
  | ok foundOthers =>
    congr 1
    apply Std.ExtTreeMap.ext_getElem?
    intro signature
    apply Option.ext
    intro selector
    rw [selectorsBySignature_spec hother, selectorsBySignature_spec h]
    simp only [hperm.mem_iff]

/-- Functions that are in order and are normalized to themselves are normalized to themselves
together. -/
theorem normalizeEntries_toEntry {assertions : List AbiSelectorAssertion}
    (hself : ∀ function ∈ functions,
      normalizeFunction endsWord keccak256 role function.2.toEntry = .ok function)
    (hsorted : functions.Pairwise fun first second => first.1 ≤ second.1)
    (hnonempty : functions.isEmpty = false) (hfound : selectorsBySignature functions ∅ = .ok found)
    (hassertions : assertions.forM (verifySelectorAssertion found) = .ok ()) :
    normalizeEntries endsWord keccak256 role ((functions.map (·.2)).map (·.toEntry)) assertions =
      .ok (functions.map (·.2)) := by
  have hentries : ((functions.map (·.2)).map (·.toEntry)).filter (·.entryType = "function") =
      functions.map fun function => function.2.toEntry := by
    rw [List.map_map]
    apply List.filter_eq_self.mpr
    intro entry hmem
    obtain ⟨function, -, rfl⟩ := List.mem_map.mp hmem
    rfl
  have hsort : (functions.mergeSort fun first second => first.1 ≤ second.1) = functions := by
    apply List.mergeSort_of_pairwise
    simpa using hsorted
  rw [normalizeEntries, hentries, mapM_eq_self hself]
  dsimp only [bind, Except.bind]
  rw [hnonempty, hfound]
  dsimp only
  rw [hassertions, hsort]
  rfl

/-- The functions of an artifact are canonical, and normalized to themselves. -/
theorem normalizeEntries_canonical {entries : List RawAbiEntry}
    {assertions : List AbiSelectorAssertion} {specs : List AbiFunctionSpec}
    (h : normalizeEntries endsWord keccak256 role entries assertions = .ok specs) :
    CanonicalFunctions endsWord keccak256 specs ∧
      normalizeEntries endsWord keccak256 role (specs.map (·.toEntry)) assertions = .ok specs := by
  obtain ⟨functions, hfunctions, h⟩ := bind_eq_ok.mp h
  obtain ⟨hnonempty, h⟩ := ite_error_eq_ok.mp h
  obtain ⟨selectors, hselectors, h⟩ := bind_eq_ok.mp h
  obtain ⟨_, hassertions, h⟩ := bind_eq_ok.mp h
  obtain rfl := Except.ok.inj h
  have hperm : (functions.mergeSort fun first second => first.1 ≤ second.1).Perm functions :=
    List.mergeSort_perm _ _
  have hsorted : (functions.mergeSort fun first second => first.1 ≤ second.1).Pairwise
      fun first second => first.1 ≤ second.1 := by
    have htrans : ∀ a b c : String × AbiFunctionSpec, decide (a.1 ≤ b.1) = true →
        decide (b.1 ≤ c.1) = true → decide (a.1 ≤ c.1) = true := by
      simp only [decide_eq_true_eq]
      exact fun a b c => le_trans
    have htotal : ∀ a b : String × AbiFunctionSpec,
        (decide (a.1 ≤ b.1) || decide (b.1 ≤ a.1)) = true := by
      simp only [Bool.or_eq_true, decide_eq_true_eq]
      exact fun a b => le_total _ _
    simpa using List.pairwise_mergeSort htrans htotal functions
  have hcanonical : ∀ function ∈ functions.mergeSort fun first second => first.1 ≤ second.1,
      function.2.Canonical endsWord keccak256 function.1 ∧
        normalizeFunction endsWord keccak256 role function.2.toEntry = .ok function := by
    intro function hmem
    obtain ⟨entry, hentry⟩ := exists_of_mapM hfunctions function (hperm.mem_iff.mp hmem)
    exact normalizeFunction_canonical hentry
  have hnodup : ((functions.mergeSort fun first second => first.1 ≤ second.1).map (·.1)).Nodup := by
    have hok : (selectorsBySignature functions ∅).isOk = true := by
      rw [hselectors]
      rfl
    exact (hperm.map (·.1)).nodup_iff.mpr (selectorsBySignature_isOk_iff.mp hok).1
  constructor
  · refine ⟨(functions.mergeSort fun first second => first.1 ≤ second.1).map (·.1), ?_, ?_⟩
    · have hle := List.pairwise_map.mpr hsorted
      exact (hle.and hnodup).imp fun h => lt_of_le_of_ne h.1 h.2
    · rw [List.forall₂_map_left_iff, List.forall₂_map_right_iff, List.forall₂_same]
      exact fun function hmem => (hcanonical function hmem).1
  · apply normalizeEntries_toEntry (fun function hmem => (hcanonical function hmem).2) hsorted _
      (selectorsBySignature_perm hperm hselectors) hassertions
    rw [hperm.isEmpty_eq]
    simpa using hnonempty

end Functions

/-- What the canister normalizes and stores is canonical: the functions are in the order of their
signatures, which are distinct, each has the selector of its signature, their types are fixed
points of the normalization, and the parameters of a level have their own names. The text of the
artifact is normalized to the same functions again, and so are the functions themselves. -/
theorem abi_artifact_canonical (endsWord : List Char → List Char → Bool)
    (keccak256 : List UInt8 → List UInt8) (reader : AbiReader)
    (artifacts stored : BTreeMap String AbiArtifact) (key : AbiArtifactKey)
    (abiJson sourceRef : String) (codehash : Option String)
    (assertions : List AbiSelectorAssertion) (nowNs : ℕ) (artifact : AbiArtifact)
    (h : normalizeAndStoreAbiArtifact endsWord keccak256 reader artifacts key abiJson sourceRef
      codehash assertions nowNs = .ok (artifact, stored)) :
    stored[abiArtifactPk artifact.key]? = some artifact ∧
      CanonicalFunctions endsWord keccak256 artifact.functions ∧
      normalizeEntries endsWord keccak256 artifact.key.role (artifact.functions.map (·.toEntry))
        assertions = .ok artifact.functions ∧
      ∀ laterNs, ∃ again, normalizeAbiArtifact endsWord keccak256 reader artifact.key
        artifact.abiJson artifact.sourceRef artifact.codehash assertions laterNs = .ok again ∧
          again.functions = artifact.functions := by
  obtain ⟨normalized, hnormalized, hupsert⟩ := bind_eq_ok.mp h
  obtain ⟨-, hupsert⟩ := ite_error_eq_ok.mp hupsert
  obtain ⟨-, hupsert⟩ := ite_error_eq_ok.mp hupsert
  obtain ⟨rfl, rfl⟩ := Prod.mk.inj (Except.ok.inj hupsert)
  obtain ⟨_, hkey, hchecked⟩ := bind_eq_ok.mp hnormalized
  obtain ⟨hsource, hread⟩ := ite_error_eq_ok.mp hchecked
  obtain ⟨entries, hentries, hfunctions⟩ := bind_eq_ok.mp hread
  obtain ⟨functions, hspecs, heq⟩ := bind_eq_ok.mp hfunctions
  obtain rfl := Except.ok.inj heq
  obtain ⟨hcanonical, hself⟩ := normalizeEntries_canonical hspecs
  refine ⟨by simp, hcanonical, hself, ?_⟩
  intro laterNs
  refine ⟨{
    key, codehash, abiJson, functions
    sourceRef := Text.trim sourceRef
    createdAtNs := laterNs
    updatedAtNs := laterNs }, ?_, rfl⟩
  unfold normalizeAbiArtifact
  rw [hkey]
  dsimp only [bind, Except.bind]
  rw [Text.trim_trim, if_neg hsource, hentries]
  dsimp only
  rw [hspecs]

section Transfer

/-- The text of an artifact with the function that transfers tokens. -/
def transferJson : String :=
  "[\x7b\"type\":\"function\",\"name\":\"transfer\",\"inputs\":[\x7b\"name\":\"to\"," ++
    "\"type\":\"address\"\x7d,\x7b\"name\":\"amount\",\"type\":\"uint\"\x7d]," ++
    "\"outputs\":[\x7b\"type\":\"bool\"\x7d]\x7d]"

/-- A parser of texts with the entry of that function. -/
def transferReader : AbiReader where
  Value := Unit
  parse _ := .ok ()
  isArray _ := true
  abi _ := none
  entries _ := .ok [⟨"function", some "transfer",
    [⟨some "to", "address", []⟩, ⟨some "amount", "uint", []⟩], [⟨none, "bool", []⟩], none⟩]

/-- The digest of its signature. -/
def transferDigest (_ : List UInt8) : List UInt8 :=
  [0xa9, 0x05, 0x9c, 0xbb, 0x2a, 0xb0, 0x9e, 0xb2, 0x19, 0x58, 0x3f, 0x4a, 0x59, 0xa5, 0xd0, 0x62,
    0x3a, 0xde, 0x34, 0x6d, 0x96, 0x2b, 0xcd, 0x4e, 0x46, 0xb1, 0x1d, 0xa0, 0x47, 0xc9, 0x04, 0x9b]

/-- The artifact is stored with the selector that is asserted, and is canonical. -/
theorem transfer_canonical : ∃ artifact stored,
    normalizeAndStoreAbiArtifact (fun _ _ => true) transferDigest transferReader ∅
      ⟨"erc20", 8453, "token"⟩ transferJson "https://example.com" none
      [⟨"transfer(address,uint256)", "0xa9059cbb"⟩] 42 = .ok (artifact, stored) ∧
    CanonicalFunctions (fun _ _ => true) transferDigest artifact.functions := by
  have hok : (normalizeAndStoreAbiArtifact (fun _ _ => true) transferDigest transferReader ∅
      ⟨"erc20", 8453, "token"⟩ transferJson "https://example.com" none
      [⟨"transfer(address,uint256)", "0xa9059cbb"⟩] 42).isOk = true := by decide +kernel
  cases hresult : normalizeAndStoreAbiArtifact (fun _ _ => true) transferDigest transferReader ∅
      ⟨"erc20", 8453, "token"⟩ transferJson "https://example.com" none
      [⟨"transfer(address,uint256)", "0xa9059cbb"⟩] 42 with
  | error message =>
    rw [hresult] at hok
    cases hok
  | ok result =>
    have hcanonical := abi_artifact_canonical _ _ _ _ _ _ _ _ _ _ _ _ hresult
    exact ⟨result.1, result.2, rfl, hcanonical.2.1⟩

end Transfer

end Automaton.Strategy
