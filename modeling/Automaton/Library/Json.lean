import Automaton.Library.BTreeMap
import Automaton.Library.Decimal
import Automaton.Library.Text

/-!
# JSON values

A value as its text writes it. An object keeps, of the members with one key, the last, and its
fields are read in the order of the keys. A pointer goes from a value into its fields and elements.
-/

/-- A JSON value; an integer that is not negative and one that is are kept apart, and any other
number is the bits of a double. -/
inductive JsonValue
  | null
  | bool (value : Bool)
  | posInt (value : UInt64)
  | negInt (value : Int64)
  | float (bits : UInt64)
  | string (text : String)
  | array (values : List JsonValue)
  | object (members : List (String × JsonValue))

namespace JsonValue

/-- The fields of an object: the last member of each key. -/
def fields (members : List (String × JsonValue)) : BTreeMap String JsonValue :=
  members.foldl (fun kept member => kept.insert member.1 member.2) ∅

/-- The field of a value, if it is an object that has it. -/
def get? (value : JsonValue) (key : String) : Option JsonValue :=
  match value with
  | .object members => (fields members)[key]?
  | _ => none

/-- The element of a value, if it is an array that has it. -/
def at? (value : JsonValue) (index : ℕ) : Option JsonValue :=
  match value with
  | .array values => values[index]?
  | _ => none

/-- The index that a token of a pointer stands for: digits without a sign, and without a zero in
front of others. -/
def tokenIndex (largest : ℕ) (token : List Char) : Option ℕ :=
  match token with
  | '+' :: _ => none
  | '0' :: _ :: _ => none
  | _ => Decimal.parseUnsigned largest (String.ofList token)

/-- A token without its escapes: `~1` is a slash and then `~0` a tilde. -/
def unescape (token : List Char) : List Char :=
  tildes (slashes token)
where
  slashes : List Char → List Char
    | '~' :: '1' :: rest => '/' :: slashes rest
    | c :: rest => c :: slashes rest
    | [] => []
  tildes : List Char → List Char
    | '~' :: '0' :: rest => '~' :: tildes rest
    | c :: rest => c :: tildes rest
    | [] => []

/-- The step of a pointer. -/
def follow (largest : ℕ) (value : JsonValue) (token : List Char) : Option JsonValue :=
  match value with
  | .object _ => value.get? (String.ofList (unescape token))
  | .array _ => (tokenIndex largest (unescape token)).bind value.at?
  | _ => none

/-- The value that a pointer leads to; `largest` is the largest index of the target. -/
def pointer (largest : ℕ) (value : JsonValue) (path : String) : Option JsonValue :=
  match path.toList.splitOn '/' with
  | [[]] => some value
  | [] :: tokens => tokens.foldlM (follow largest) value
  | _ => none

end JsonValue
