import Automaton.Strategy.AbiCanonical
import Automaton.Strategy.AbiEncoding

/-!
# Named arguments

The arguments of a call are given by position or by name, and so are the components of a tuple, at
every depth. The compiler brings them into one shape before it encodes them: arrays all the way
down.
-/

namespace Automaton.Strategy

open Machine Fallible

section Lowering

/-- `normalize_schema_param_name`. -/
def normalizeSchemaParamName (rawName : String) (used : List String) (next : ℕ) : String × ℕ :=
  normalizeParamName (some rawName) used next

mutual

/-- The body of the loop of `normalize_named_specs`, under the name that was chosen. -/
def normalizeNamedSpec : AbiTypeSpec → String → AbiTypeSpec
  | ⟨_, kind, components⟩, name => ⟨name, kind, normalizeNamedSpecsFrom components [] 0⟩

/-- The loop of `normalize_named_specs`, with the names that are used. -/
def normalizeNamedSpecsFrom : List AbiTypeSpec → List String → ℕ → List AbiTypeSpec
  | [], _, _ => []
  | spec :: specs, used, next =>
    let named := normalizeSchemaParamName spec.name used next
    normalizeNamedSpec spec named.1 :: normalizeNamedSpecsFrom specs (named.1 :: used) named.2

end

/-- `normalize_named_specs`. -/
def normalizeNamedSpecs (specs : List AbiTypeSpec) : List AbiTypeSpec :=
  normalizeNamedSpecsFrom specs [] 0

/-- `reject_unknown_object_fields`. -/
def rejectUnknownObjectFields (fields : BTreeMap String JsonValue) (specs : List AbiTypeSpec)
    (field : String) : Except String Unit :=
  match fields.keys.find? fun key => !(specs.map (·.name)).contains key with
  | some firstUnknown => .error ("unknown field: " ++ field ++ "." ++ firstUnknown)
  | none => .ok ()

/-- What `lower_call_args` and `lower_tuple_value` share: values by position or by name. -/
def lowerParts (specs : List AbiTypeSpec) (arityError : ℕ → String)
    (byPosition : List JsonValue → String → Except String (List JsonValue))
    (byName : BTreeMap String JsonValue → String → Except String (List JsonValue))
    (value : JsonValue) (field : String) : Except String (List JsonValue) :=
  match value with
  | .array values =>
    if values.length ≠ specs.length then .error (arityError values.length)
    else byPosition values field
  | .object members => do
    rejectUnknownObjectFields (JsonValue.fields members) specs field
    byName (JsonValue.fields members) field
  | _ => .error (field ++ " must be a JSON object or array")

/-- What a count of values says that is not the expected one. -/
def arityError (prelude : String) (specs : List AbiTypeSpec) (count : ℕ) : String :=
  prelude ++ ": expected " ++ toString specs.length ++ " got " ++ toString count

/-- The loop of `lower_value_to_canonical_shape` over the elements of an array. -/
def lowerElements (lower : JsonValue → String → Except String JsonValue) (field : String) :
    ℕ → List JsonValue → Except String (List JsonValue)
  | _, [] => .ok []
  | index, element :: elements => do
    let first ← lower element (field ++ "[" ++ toString index ++ "]")
    let rest ← lowerElements lower field (index + 1) elements
    .ok (first :: rest)

variable (target : Target)

/-- `lower_value_to_canonical_shape` of an array whose elements are lowered by `lower`. -/
def lowerArray (maybeLen : Option ℕ) (lower : JsonValue → String → Except String JsonValue)
    (value : JsonValue)
    (field : String) : Except String JsonValue :=
  match value with
  | .array values =>
    if maybeLen.any (values.length ≠ ·) then
      .error (field ++ " length mismatch: expected " ++ toString (maybeLen.getD 0) ++ " got " ++
        toString values.length)
    else (lowerElements lower field 0 values).map .array
  | _ => .error (field ++ " must be a JSON array")

/-- `lower_value_to_canonical_shape` of a kind whose components are lowered by `tuple`. Every step
takes an array suffix off. -/
def lowerKind (tuple : JsonValue → String → Except String JsonValue) :
    ℕ → String → JsonValue → String → Except String JsonValue
  | 0, _, value, _ => .ok value
  | steps + 1, kind, value, field =>
    match splitArrayType target (Text.trim kind) with
    | some (elementKind, maybeLen) =>
      lowerArray maybeLen (lowerKind tuple steps elementKind) value field
    | none =>
      if Text.toAsciiLowercase (Text.trim kind) = "tuple" then tuple value field else .ok value

mutual

/-- `lower_value_to_canonical_shape`. -/
def lowerValueToCanonicalShape : AbiTypeSpec → JsonValue → String → Except String JsonValue
  | ⟨_, kind, components⟩, value, field =>
    lowerKind target (fun value field =>
      (lowerParts components (arityError (field ++ " tuple arity mismatch") components)
        (fun values field => lowerByPosition components values field)
        (fun fields field => lowerByName components fields field) value field).map .array)
      (kind.length + 1) kind value field

/-- The loops over values by position. -/
def lowerByPosition : List AbiTypeSpec → List JsonValue → String → Except String (List JsonValue)
  | [], _, _ => .ok []
  | _, [], _ => .ok []
  | spec :: specs, value :: values, field => do
    let first ← lowerValueToCanonicalShape spec value (field ++ "." ++ spec.name)
    let rest ← lowerByPosition specs values field
    .ok (first :: rest)

/-- The loops over the parameters, whose values are found by name. -/
def lowerByName : List AbiTypeSpec → BTreeMap String JsonValue → String →
    Except String (List JsonValue)
  | [], _, _ => .ok []
  | spec :: specs, fields, field =>
    let childField := field ++ "." ++ spec.name
    match fields[spec.name]? with
    | none => .error ("missing required field: " ++ childField)
    | some value => do
      let first ← lowerValueToCanonicalShape spec value childField
      let rest ← lowerByName specs fields field
      .ok (first :: rest)

end

/-- `lower_tuple_value` of the components of a tuple. -/
def lowerTupleValue (components : List AbiTypeSpec) (value : JsonValue) (field : String) :
    Except String JsonValue :=
  (lowerParts components (arityError (field ++ " tuple arity mismatch") components)
    (lowerByPosition target components) (lowerByName target components) value field).map .array

/-- `lower_call_args`. -/
def lowerCallArgs (args : JsonValue) (specs : List AbiTypeSpec) (field : String) :
    Except String (List JsonValue) :=
  lowerParts specs (arityError ("argument count mismatch for " ++ field) specs)
    (lowerByPosition target specs) (lowerByName target specs) args field

/-- `trim_start_matches` of `0x`. -/
def trimStart0x : List Char → List Char
  | '0' :: 'x' :: rest => trimStart0x rest
  | chars => chars

/-- The calldata that `compile_intent` writes for a call. -/
def callData (normalizedSelector : String) (specs : List AbiTypeSpec) (args : JsonValue)
    (field : String) : Except String String := do
  let loweredArgs ← lowerCallArgs target args specs field
  let encodedArgs ← encodeAbiParams target specs loweredArgs
  .ok ("0x" ++ String.ofList (trimStart0x normalizedSelector.toList) ++ Hex.encode encodedArgs)

end Lowering

section Spelling

variable (target : Target)

mutual

/-- A value by position, and one that stands for it. -/
inductive Spells : AbiTypeSpec → JsonValue → JsonValue → Prop
  | leaf {spec : AbiTypeSpec} (value : JsonValue)
    (hkind : splitArrayType target (Text.trim spec.kind) = none) (hbase : spec.baseKind ≠ "tuple") :
    Spells spec value value
  | elements {spec : AbiTypeSpec} {values elements : List JsonValue} {elementKind : String}
    {maybeLen : Option ℕ}
    (hkind : splitArrayType target (Text.trim spec.kind) = some (elementKind, maybeLen))
    (hlength : ∀ length ∈ maybeLen, elements.length = length)
    (helements : SpellsAll (List.replicate elements.length { spec with kind := elementKind })
      values elements) :
    Spells spec (.array values) (.array elements)
  | components {spec : AbiTypeSpec} {values : List JsonValue} {args : JsonValue}
    (hkind : splitArrayType target (Text.trim spec.kind) = none) (hbase : spec.baseKind = "tuple")
    (hargs : SpellsArgs spec.components values args) :
    Spells spec (.array values) args

/-- Values by position, and an array or an object that stands for them. The fields of the object
are the parameters. -/
inductive SpellsArgs : List AbiTypeSpec → List JsonValue → JsonValue → Prop
  | byPosition {specs : List AbiTypeSpec} {values parts : List JsonValue}
    (hparts : SpellsAll specs values parts) :
    SpellsArgs specs values (.array parts)
  | byName {specs : List AbiTypeSpec} {values parts : List JsonValue}
    {members : List (String × JsonValue)}
    (hparts : SpellsAll specs values parts)
    (hfields : (JsonValue.fields members).toList.Perm ((specs.map (·.name)).zip parts)) :
    SpellsArgs specs values (.object members)

/-- Values by position, and ones that stand for them one by one. -/
inductive SpellsAll : List AbiTypeSpec → List JsonValue → List JsonValue → Prop
  | nil : SpellsAll [] [] []
  | cons {spec : AbiTypeSpec} {specs : List AbiTypeSpec} {value part : JsonValue}
    {values parts : List JsonValue} (hpart : Spells spec value part)
    (hparts : SpellsAll specs values parts) :
    SpellsAll (spec :: specs) (value :: values) (part :: parts)

end

end Spelling

section Kinds

variable {target : Target} {kind elementKind : String} {maybeLen : Option ℕ}

/-- What is before the last brackets of a kind is shorter than the kind. -/
theorem length_of_lastBrackets {chars base inside : List Char}
    (h : lastBrackets chars = some (base, inside)) : base.length < chars.length := by
  unfold lastBrackets at h
  split at h
  · rename_i inner hreverse
    have hlength : chars.length = inner.length + 1 := by
      rw [← List.length_reverse, hreverse, List.length_cons]
    split at h
    · cases h
    · rename_i c rest hrest
      obtain ⟨rfl, -⟩ := Prod.mk.inj (Option.some.inj h)
      have hsuffix := (List.dropWhile_suffix (l := inner) fun x => decide (x ≠ '[')).length_le
      rw [hrest, List.length_cons] at hsuffix
      rw [List.length_reverse]
      omega
  · cases h

theorem length_trim_le (text : String) : (Text.trim text).length ≤ text.length := by
  have hfront : (text.toList.dropWhile Text.isWhitespace).length ≤ text.toList.length :=
    (List.dropWhile_suffix _).length_le
  have hback : ((text.toList.dropWhile Text.isWhitespace).reverse.dropWhile
      Text.isWhitespace).length ≤ (text.toList.dropWhile Text.isWhitespace).length := by
    simpa using (List.dropWhile_suffix (l := (text.toList.dropWhile Text.isWhitespace).reverse)
      Text.isWhitespace).length_le
  rw [Text.trim, String.length_ofList, List.length_reverse, ← String.length_toList (s := text)]
  omega

/-- The kind of the elements of an array is shorter than that of the array. -/
theorem length_of_splitArrayType
    (h : splitArrayType target (Text.trim kind) = some (elementKind, maybeLen)) :
    elementKind.length < kind.length := by
  have htrim := length_trim_le kind
  unfold splitArrayType at h
  split at h
  · cases h
  · rename_i base inside hbrackets
    have hshorter := length_of_lastBrackets hbrackets
    rw [String.length_toList] at hshorter
    have hbase : elementKind = String.ofList base := by
      split at h
      · exact (Prod.mk.inj (Option.some.inj h)).1.symm
      · obtain ⟨_, -, heq⟩ := Option.map_eq_some_iff.mp h
        exact (Prod.mk.inj heq).1.symm
    rw [hbase, String.length_ofList]
    omega

/-- Steps that are enough give what more of them give. -/
theorem lowerKind_steps (tuple : JsonValue → String → Except String JsonValue) {steps more : ℕ}
    (hsteps : kind.length < steps) (hmore : kind.length < more) :
    lowerKind target tuple steps kind = lowerKind target tuple more kind := by
  induction steps generalizing kind more with
  | zero => omega
  | succ steps ih =>
    obtain _ | more := more
    · omega
    · funext value field
      rw [lowerKind, lowerKind]
      cases hsplit : splitArrayType target (Text.trim kind) with
      | none => rfl
      | some parts =>
        have hshorter := length_of_splitArrayType hsplit
        dsimp only
        have hsame : lowerKind target tuple steps parts.1 = lowerKind target tuple more parts.1 :=
          ih (by omega) (by omega)
        rw [hsame]

/-- A value is lowered as an array, as a tuple or not at all. -/
theorem lowerValueToCanonicalShape_eq (spec : AbiTypeSpec) (value : JsonValue) (field : String) :
    lowerValueToCanonicalShape target spec value field =
      match splitArrayType target (Text.trim spec.kind) with
      | some (elementKind, maybeLen) =>
        lowerArray maybeLen (lowerValueToCanonicalShape target { spec with kind := elementKind })
          value field
      | none =>
        if spec.baseKind = "tuple" then lowerTupleValue target spec.components value field
        else .ok value := by
  obtain ⟨name, kind, components⟩ := spec
  rw [lowerValueToCanonicalShape, lowerKind]
  cases hsplit : splitArrayType target (Text.trim kind) with
  | none => rfl
  | some parts =>
    have hshorter := length_of_splitArrayType hsplit
    dsimp only
    congr 1
    funext value field
    rw [lowerValueToCanonicalShape,
      @lowerKind_steps target parts.1 _ _ (parts.1.length + 1) hshorter (by omega)]

end Kinds

section Spelling

variable {target : Target} {spec : AbiTypeSpec} {specs : List AbiTypeSpec}
  {value arg args : JsonValue} {values parts : List JsonValue} {field : String}

theorem SpellsAll.length_eq (h : SpellsAll target specs values parts) :
    values.length = specs.length ∧ parts.length = specs.length := by
  induction specs generalizing values parts with
  | nil =>
    cases h
    exact ⟨rfl, rfl⟩
  | cons spec specs ih =>
    cases h with
    | cons hpart hparts =>
      obtain ⟨hvalues, hparts⟩ := ih hparts
      exact ⟨by simp [hvalues], by simp [hparts]⟩

/-- The keys of an object are among the names of the parameters. -/
theorem rejectUnknownObjectFields_eq_ok_iff {fields : BTreeMap String JsonValue} :
    rejectUnknownObjectFields fields specs field = .ok () ↔
      ∀ key ∈ fields.keys, key ∈ specs.map (·.name) := by
  unfold rejectUnknownObjectFields
  split
  · rename_i firstUnknown hfind
    have hmem := List.mem_of_find?_eq_some hfind
    have hunknown := List.find?_some hfind
    simp only [Bool.not_eq_true', List.contains_eq_mem, decide_eq_false_iff_not] at hunknown
    exact ⟨by rintro ⟨⟩, fun h => absurd (h _ hmem) hunknown⟩
  · rename_i hfind
    refine ⟨fun _ key hkey => ?_, fun _ => rfl⟩
    have hknown := List.find?_eq_none.mp hfind key hkey
    simpa using hknown

/-- What is lowered of parts that stand for values, however the parts are found. -/
structure Lowered (target : Target) (specs : List AbiTypeSpec) (values parts : List JsonValue) :
    Prop where
  byPosition : ∀ field, lowerByPosition target specs parts field = .ok values
  byName : ∀ {fields : BTreeMap String JsonValue} (field : String),
    List.Forall₂ (fun name part => fields[name]? = some part) (specs.map (·.name)) parts →
    lowerByName target specs fields field = .ok values
  elements : ∀ spec, (∀ other ∈ specs, other = spec) → ∀ field index,
    lowerElements (lowerValueToCanonicalShape target spec) field index parts = .ok values

theorem lowered_nil : Lowered target [] [] [] where
  byPosition _ := rfl
  byName _ _ := rfl
  elements _ _ _ _ := rfl

theorem Lowered.cons (h : ∀ field, lowerValueToCanonicalShape target spec arg field = .ok value)
    (hrest : Lowered target specs values parts) :
    Lowered target (spec :: specs) (value :: values) (arg :: parts) where
  byPosition field := by
    rw [lowerByPosition, h, hrest.byPosition]
    rfl
  byName {fields} field hfields := by
    obtain ⟨hfirst, hfields⟩ := List.forall₂_cons.mp hfields
    rw [lowerByName, hfirst]
    dsimp only
    rw [h, hrest.byName field hfields]
    rfl
  elements other hall field index := by
    obtain rfl := hall spec List.mem_cons_self
    have hothers : ∀ other ∈ specs, other = spec := fun other hother =>
      hall other (List.mem_cons_of_mem _ hother)
    rw [lowerElements, h, hrest.elements spec hothers]
    rfl

mutual

/-- What stands for a value is lowered to it. -/
theorem lowerValue_of_spells : ∀ {spec : AbiTypeSpec} {value arg : JsonValue},
    Spells target spec value arg → ∀ field,
    lowerValueToCanonicalShape target spec arg field = .ok value
  | spec, _, _, .leaf value hkind hbase, field => by
    rw [lowerValueToCanonicalShape_eq, hkind]
    dsimp only
    rw [if_neg hbase]
  | spec, _, _, @Spells.elements _ _ _ _ _ maybeLen hkind hlength helements, field => by
    have hlowered := lowered_of_spellsAll helements
    rw [lowerValueToCanonicalShape_eq, hkind]
    dsimp only [lowerArray]
    rw [if_neg, hlowered.elements _ fun other hother => List.eq_of_mem_replicate hother]
    · rfl
    · cases maybeLen with
      | none => exact Bool.false_ne_true
      | some length => simpa using hlength length rfl
  | spec, _, _, .components hkind hbase hargs, field => by
    rw [lowerValueToCanonicalShape_eq, hkind]
    dsimp only
    rw [if_pos hbase, lowerTupleValue, lowerParts_of_spells hargs]
    rfl

/-- Parts that stand for values are lowered to them. -/
theorem lowerParts_of_spells : ∀ {specs : List AbiTypeSpec} {values : List JsonValue}
    {args : JsonValue}, SpellsArgs target specs values args → ∀ arityError field,
    lowerParts specs arityError (lowerByPosition target specs) (lowerByName target specs) args
      field = .ok values
  | specs, _, _, .byPosition hparts, arityError, field => by
    have hlength := hparts.length_eq.2
    rw [lowerParts, if_neg (by simpa using hlength), (lowered_of_spellsAll hparts).byPosition]
  | _, _, _, @SpellsArgs.byName _ specs _ parts members hparts hfields, arityError, field => by
    have hlength : (specs.map (·.name)).length = parts.length := by
      rw [List.length_map, hparts.length_eq.2]
    have hget := BTreeMap.forall₂_of_toList_perm_zip hlength hfields
    have hknown : rejectUnknownObjectFields (JsonValue.fields members) specs field = .ok () := by
      apply rejectUnknownObjectFields_eq_ok_iff.mpr
      intro key hkey
      have hkeys := hfields.map Prod.fst
      rw [Std.ExtTreeMap.map_fst_toList_eq_keys, List.map_fst_zip (le_of_eq hlength)] at hkeys
      exact hkeys.mem_iff.mp hkey
    rw [lowerParts, hknown]
    exact (lowered_of_spellsAll hparts).byName field hget

theorem lowered_of_spellsAll : ∀ {specs : List AbiTypeSpec} {values parts : List JsonValue},
    SpellsAll target specs values parts → Lowered target specs values parts
  | _, _, _, .nil => lowered_nil
  | _, _, _, .cons hpart hparts =>
    (lowered_of_spellsAll hparts).cons (lowerValue_of_spells hpart)

end

end Spelling

section Acceptance

variable {target : Target} {spec : AbiTypeSpec} {specs : List AbiTypeSpec}
  {value arg args : JsonValue} {values parts : List JsonValue} {field : String}

/-- The parameters of every level have their own names. -/
inductive AbiTypeSpec.NamesDistinct : AbiTypeSpec → Prop
  | mk {name kind : String} {components : List AbiTypeSpec}
    (hnames : (components.map (·.name)).Nodup)
    (hcomponents : ∀ component ∈ components, AbiTypeSpec.NamesDistinct component) :
    AbiTypeSpec.NamesDistinct ⟨name, kind, components⟩

/-- A value that is accepted stands for what it is lowered to. -/
def AcceptsSpellings (target : Target) (spec : AbiTypeSpec) : Prop :=
  ∀ value arg field, lowerValueToCanonicalShape target spec arg field = .ok value →
    Spells target spec value arg

/-- What is known of the parts of a level from what they are lowered to. -/
structure Accepted (target : Target) (specs : List AbiTypeSpec) : Prop where
  byPosition : ∀ {values parts : List JsonValue} {field : String}, parts.length = specs.length →
    lowerByPosition target specs parts field = .ok values → SpellsAll target specs values parts
  byName : ∀ {values : List JsonValue} {fields : BTreeMap String JsonValue} {field : String},
    lowerByName target specs fields field = .ok values →
    ∃ parts, List.Forall₂ (fun name part => fields[name]? = some part) (specs.map (·.name)) parts ∧
      SpellsAll target specs values parts

theorem accepted_nil : Accepted target [] where
  byPosition {values parts field} hlength h := by
    obtain rfl := List.length_eq_zero_iff.mp hlength
    obtain rfl := Except.ok.inj h
    exact .nil
  byName {values fields field} h := by
    obtain rfl := Except.ok.inj h
    exact ⟨[], .nil, .nil⟩

theorem Accepted.cons (h : AcceptsSpellings target spec) (hrest : Accepted target specs) :
    Accepted target (spec :: specs) where
  byPosition {values parts field} hlength hlower := by
    obtain _ | ⟨part, parts⟩ := parts
    · simp at hlength
    · rw [lowerByPosition] at hlower
      obtain ⟨first, hfirst, hlower⟩ := bind_eq_ok.mp hlower
      obtain ⟨others, hothers, heq⟩ := bind_eq_ok.mp hlower
      obtain rfl := Except.ok.inj heq
      exact .cons (h _ _ _ hfirst) (hrest.byPosition (by simpa using hlength) hothers)
  byName {values fields field} hlower := by
    rw [lowerByName] at hlower
    cases hget : fields[spec.name]? with
    | none =>
      rw [hget] at hlower
      cases hlower
    | some part =>
      rw [hget] at hlower
      obtain ⟨first, hfirst, hlower⟩ := bind_eq_ok.mp hlower
      obtain ⟨others, hothers, heq⟩ := bind_eq_ok.mp hlower
      obtain rfl := Except.ok.inj heq
      obtain ⟨parts, hfields, hparts⟩ := hrest.byName hothers
      exact ⟨part :: parts, .cons hget hfields, .cons (h _ _ _ hfirst) hparts⟩

/-- What is accepted as the parts of a level stands for what it is lowered to. -/
theorem Accepted.spellsArgs (h : Accepted target specs) (hnames : (specs.map (·.name)).Nodup)
    {arityError : ℕ → String} (hlower : lowerParts specs arityError (lowerByPosition target specs)
      (lowerByName target specs) args field = .ok values) :
    SpellsArgs target specs values args := by
  unfold lowerParts at hlower
  split at hlower
  · obtain ⟨hlength, hlower⟩ := ite_error_eq_ok.mp hlower
    exact .byPosition (h.byPosition (not_not.mp hlength) hlower)
  · obtain ⟨⟨⟩, hknown, hlower⟩ := bind_eq_ok.mp hlower
    obtain ⟨parts, hfields, hparts⟩ := h.byName hlower
    have hkeys := rejectUnknownObjectFields_eq_ok_iff.mp hknown
    exact .byName hparts (BTreeMap.toList_perm_zip hnames hfields hkeys)
  · cases hlower

/-- The elements of an accepted array stand for what they are lowered to. -/
theorem spellsAll_of_lowerElements (h : AcceptsSpellings target spec)
    {index : ℕ} (hlower : lowerElements (lowerValueToCanonicalShape target spec) field index parts =
      .ok values) : SpellsAll target (List.replicate parts.length spec) values parts := by
  induction parts generalizing index values with
  | nil =>
    obtain rfl := Except.ok.inj hlower
    exact .nil
  | cons part parts ih =>
    rw [lowerElements] at hlower
    obtain ⟨first, hfirst, hlower⟩ := bind_eq_ok.mp hlower
    obtain ⟨others, hothers, heq⟩ := bind_eq_ok.mp hlower
    obtain rfl := Except.ok.inj heq
    exact .cons (h _ _ _ hfirst) (ih hothers)

/-- A value of any kind over accepted components stands for what it is lowered to. -/
theorem spells_of_lowerKind {name : String} {components : List AbiTypeSpec}
    (hnames : (components.map (·.name)).Nodup) (hcomponents : Accepted target components)
    (kind : String) : AcceptsSpellings target ⟨name, kind, components⟩ := by
  induction hlength : kind.length using Nat.strong_induction_on generalizing kind with
  | _ length ih =>
    intro value arg field hlower
    rw [lowerValueToCanonicalShape_eq] at hlower
    cases hsplit : splitArrayType target (Text.trim kind) with
    | some split =>
      have hshorter := length_of_splitArrayType hsplit
      have helement := ih split.1.length (by omega) split.1 rfl
      simp only [hsplit, lowerArray] at hlower
      cases arg with
      | array elements =>
        obtain ⟨hcount, hlower⟩ := ite_error_eq_ok.mp hlower
        obtain ⟨values, hvalues, rfl⟩ := map_eq_ok.mp hlower
        refine .elements hsplit ?_ (spellsAll_of_lowerElements helement hvalues)
        intro length hmem
        rw [Option.mem_def.mp hmem] at hcount
        simpa using hcount
      | _ => cases hlower
    | none =>
      simp only [hsplit] at hlower
      split at hlower
      · rename_i hbase
        obtain ⟨values, hvalues, rfl⟩ := map_eq_ok.mp hlower
        exact .components hsplit hbase (hcomponents.spellsArgs hnames hvalues)
      · rename_i hbase
        obtain rfl := Except.ok.inj hlower
        exact .leaf arg hsplit hbase

mutual

theorem acceptsSpellings_of_namesDistinct : ∀ {spec : AbiTypeSpec}, spec.NamesDistinct →
    AcceptsSpellings target spec
  | ⟨_, kind, components⟩, h => by
    cases h with
    | mk hnames hcomponents =>
      exact spells_of_lowerKind hnames (accepted_of_namesDistinct hcomponents) kind

theorem accepted_of_namesDistinct : ∀ {specs : List AbiTypeSpec},
    (∀ spec ∈ specs, spec.NamesDistinct) → Accepted target specs
  | [], _ => accepted_nil
  | spec :: _, h =>
    (accepted_of_namesDistinct fun other hother => h other (List.mem_cons_of_mem _ hother)).cons
      (acceptsSpellings_of_namesDistinct (h spec List.mem_cons_self))

end

end Acceptance

section Stored

variable {endsWord : List Char → List Char → Bool} {keccak256 : List UInt8 → List UInt8}
  {target : Target} {spec : AbiTypeSpec} {specs : List AbiTypeSpec}

mutual

/-- The parameters of what is stored keep their names. -/
theorem normalizeNamedSpec_canonical : ∀ {spec : AbiTypeSpec}, spec.Canonical endsWord →
    normalizeNamedSpec spec spec.name = spec
  | ⟨_, _, components⟩, h => by
    cases h with
    | mk hkind htuple hname hnames hcomponents =>
      rw [normalizeNamedSpec, normalizeNamedSpecsFrom_canonical hcomponents hnames (by simp)]

theorem normalizeNamedSpecsFrom_canonical : ∀ {specs : List AbiTypeSpec} {used : List String}
    {next : ℕ}, (∀ spec ∈ specs, spec.Canonical endsWord) → (specs.map (·.name)).Nodup →
    (∀ spec ∈ specs, spec.name ∉ used) → normalizeNamedSpecsFrom specs used next = specs
  | [], _, _, _, _, _ => rfl
  | spec :: specs, used, next, hcanonical, hnames, hfree => by
    obtain ⟨hfirst, hothers⟩ := List.forall_mem_cons.mp hcanonical
    obtain ⟨hspecFree, hspecsFree⟩ := List.forall_mem_cons.mp hfree
    rw [List.map_cons, List.nodup_cons] at hnames
    have hname : normalizeSchemaParamName spec.name used next = (spec.name, next) :=
      normalizeParamName_of_name hfirst.isName hspecFree next
    have hfreeThen : ∀ other ∈ specs, other.name ∉ spec.name :: used := by
      intro other hother hmem
      rcases List.mem_cons.mp hmem with heq | hmem
      · exact hnames.1 (heq ▸ List.mem_map_of_mem hother)
      · exact hspecsFree other hother hmem
    rw [normalizeNamedSpecsFrom, hname, normalizeNamedSpec_canonical hfirst,
      normalizeNamedSpecsFrom_canonical hothers hnames.2 hfreeThen]

end

theorem namesDistinct_of_canonical (h : spec.Canonical endsWord) : spec.NamesDistinct := by
  induction h with
  | mk hkind htuple hname hnames hcomponents ih => exact .mk hnames ih

mutual

/-- A value by position stands for itself. -/
theorem spells_self : ∀ {spec : AbiTypeSpec} {value arg : JsonValue},
    Spells target spec value arg → Spells target spec value value
  | _, _, _, .leaf value hkind hbase => .leaf value hkind hbase
  | _, _, _, @Spells.elements _ _ values elements _ _ hkind hlength helements => by
    have hcounts := helements.length_eq
    have hsame : values.length = elements.length := hcounts.1.trans hcounts.2.symm
    refine .elements hkind (fun length hmem => hsame.trans (hlength length hmem)) ?_
    rw [hsame]
    exact spellsAll_self helements
  | _, _, _, .components hkind hbase hargs => .components hkind hbase (spellsArgs_self hargs)

theorem spellsArgs_self : ∀ {specs : List AbiTypeSpec} {values : List JsonValue}
    {args : JsonValue}, SpellsArgs target specs values args →
    SpellsArgs target specs values (.array values)
  | _, _, _, .byPosition hparts => .byPosition (spellsAll_self hparts)
  | _, _, _, .byName hparts _ => .byPosition (spellsAll_self hparts)

theorem spellsAll_self : ∀ {specs : List AbiTypeSpec} {values parts : List JsonValue},
    SpellsAll target specs values parts → SpellsAll target specs values values
  | _, _, _, .nil => .nil
  | _, _, _, .cons hpart hparts => .cons (spells_self hpart) (spellsAll_self hparts)

end

end Stored

/-- Named and positional arguments of a stored function agree: an array of the values and whatever
has, at some levels, an object with the parameters of the level as its fields in place of an array
are lowered to the same values, and so give the same calldata. Anything else is rejected, in
particular an object that lacks a parameter or has another field. -/
theorem named_and_positional_agree (endsWord : List Char → List Char → Bool)
    (keccak256 : List UInt8 → List UInt8) (reader : AbiReader) (key : AbiArtifactKey)
    (abiJson sourceRef : String) (codehash : Option String)
    (assertions : List AbiSelectorAssertion) (nowNs : ℕ) (artifact : AbiArtifact)
    (h : normalizeAbiArtifact endsWord keccak256 reader key abiJson sourceRef codehash assertions
      nowNs = .ok artifact)
    (function : AbiFunctionSpec) (hfunction : function ∈ artifact.functions) (target : Target)
    (selector field : String) :
    (∀ values args, SpellsArgs target function.inputs values args →
      lowerCallArgs target (.array values) (normalizeNamedSpecs function.inputs) field =
          .ok values ∧
        lowerCallArgs target args (normalizeNamedSpecs function.inputs) field = .ok values ∧
        callData target selector (normalizeNamedSpecs function.inputs) args field =
          callData target selector (normalizeNamedSpecs function.inputs) (.array values) field) ∧
      ∀ args, (∀ values, ¬ SpellsArgs target function.inputs values args) →
        ∃ error, lowerCallArgs target args (normalizeNamedSpecs function.inputs) field =
          .error error := by
  obtain ⟨_, -, hchecked⟩ := bind_eq_ok.mp h
  obtain ⟨-, hread⟩ := ite_error_eq_ok.mp hchecked
  obtain ⟨entries, -, hfunctions⟩ := bind_eq_ok.mp hread
  obtain ⟨functions, hspecs, heq⟩ := bind_eq_ok.mp hfunctions
  obtain rfl := Except.ok.inj heq
  obtain ⟨signatures, -, hcanonical⟩ := (normalizeEntries_canonical hspecs).1
  obtain ⟨hlength, hpairs⟩ := List.forall₂_iff_zip.mp hcanonical
  obtain ⟨signature, hpair⟩ : ∃ signature, (function, signature) ∈ functions.zip signatures := by
    rw [← List.map_fst_zip (le_of_eq hlength)] at hfunction
    obtain ⟨⟨_, signature⟩, hmem, rfl⟩ := List.mem_map.mp hfunction
    exact ⟨signature, hmem⟩
  have hlevel : CanonicalLevel endsWord function.inputs := (hpairs hpair).inputs
  have hsame : normalizeNamedSpecs function.inputs = function.inputs :=
    normalizeNamedSpecsFrom_canonical hlevel.specs hlevel.names (by simp)
  have haccepted : Accepted target function.inputs :=
    accepted_of_namesDistinct fun spec hspec => namesDistinct_of_canonical (hlevel.specs spec hspec)
  rw [hsame]
  refine ⟨fun values args hargs => ?_, fun args hnone => ?_⟩
  · have hpositional := lowerParts_of_spells (spellsArgs_self hargs)
    have hnamed := lowerParts_of_spells hargs
    refine ⟨hpositional _ _, hnamed _ _, ?_⟩
    rw [callData, callData, lowerCallArgs, lowerCallArgs, hpositional, hnamed]
  · cases hlower : lowerCallArgs target args function.inputs field with
    | error error => exact ⟨error, rfl⟩
    | ok values => exact absurd (haccepted.spellsArgs hlevel.names hlower) (hnone values)

section Transfer

/-- The function that transfers tokens, as it is stored. -/
def transferFunction : AbiFunctionSpec where
  role := "token"
  name := "transfer"
  selectorHex := "0xa9059cbb"
  inputs := [⟨"to", "address", []⟩, ⟨"amount", "uint256", []⟩]
  outputs := [⟨"arg0", "bool", []⟩]
  stateMutability := "nonpayable"

/-- The artifact in which it is stored. -/
def transferArtifact : AbiArtifact where
  key := ⟨"erc20", 8453, "token"⟩
  sourceRef := "https://example.com"
  codehash := none
  abiJson := transferJson
  functions := [transferFunction]
  createdAtNs := 42
  updatedAtNs := 42

theorem normalizeAbiArtifact_transfer : normalizeAbiArtifact (fun _ _ => true) transferDigest
    transferReader ⟨"erc20", 8453, "token"⟩ transferJson "https://example.com" none [] 42 =
      .ok transferArtifact := by
  with_unfolding_all rfl

/-- The values of a transfer. -/
def transferValues : List JsonValue :=
  [.string "0x4200000000000000000000000000000000000006", .string "5"]

/-- The same transfer by name, with the amount first. -/
def namedTransfer : JsonValue := .object (["amount", "to"].zip transferValues.reverse)

/-- A transfer whose keys have white space at their ends. -/
def spacedTransfer : JsonValue := .object (["to ", " amount"].zip transferValues)

/-- The transfer by name stands for the one by position. -/
theorem spellsArgs_namedTransfer :
    SpellsArgs .wasm32 transferFunction.inputs transferValues namedTransfer := by
  refine .byName (.cons (.leaf _ rfl (by decide)) (.cons (.leaf _ rfl (by decide)) .nil)) ?_
  exact List.Perm.swap _ _ _

theorem transfer_agrees :
    lowerCallArgs .wasm32 namedTransfer (normalizeNamedSpecs transferFunction.inputs)
        "calls[0].args" = .ok transferValues ∧
      callData .wasm32 "0xa9059cbb" (normalizeNamedSpecs transferFunction.inputs) namedTransfer
          "calls[0].args" =
        callData .wasm32 "0xa9059cbb" (normalizeNamedSpecs transferFunction.inputs)
          (.array transferValues) "calls[0].args" :=
  ((named_and_positional_agree _ _ _ _ _ _ _ _ _ _ normalizeAbiArtifact_transfer transferFunction
    (List.mem_singleton_self _) .wasm32 "0xa9059cbb" "calls[0].args").1 _ _
    spellsArgs_namedTransfer).2

/-- Names with white space at their ends normalize to those of the parameters, but are rejected. -/
theorem spaced_names_rejected :
    normalizeAbiArtifact (fun _ _ => true) transferDigest transferReader
        ⟨"erc20", 8453, "token"⟩ transferJson "https://example.com" none [] 42 =
          .ok transferArtifact ∧
      transferFunction ∈ transferArtifact.functions ∧
      ["to ", " amount"].map Text.trim = transferFunction.inputs.map (·.name) ∧
      lowerCallArgs .wasm32 (.array transferValues) (normalizeNamedSpecs transferFunction.inputs)
        "calls[0].args" = .ok transferValues ∧
      lowerCallArgs .wasm32 spacedTransfer (normalizeNamedSpecs transferFunction.inputs)
        "calls[0].args" = .error "unknown field: calls[0].args. amount" := by
  refine ⟨normalizeAbiArtifact_transfer, List.mem_singleton_self _, ?_, ?_, ?_⟩
  · decide
  · rfl
  · rfl

end Transfer

end Automaton.Strategy
