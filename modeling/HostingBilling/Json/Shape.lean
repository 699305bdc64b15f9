import HostingBilling.Json
import HostingBilling.Double.Shortest
import HostingBilling.Text.Quoted

/-!
# Reading records out of documents

A record is read from an object, member by member in the order of the keys, or from an array, item by
item in the order of its fields. The first value that does not fit its field is the complaint; a field
that is missing is complained of only after every present value has been looked at.
-/

namespace HostingBilling.Json

/-- What a complaint calls a value. -/
def described : Json → String
  | null => "null"
  | bool b => "boolean `" ++ (if b then "true" else "false") ++ "`"
  | int n => "integer `" ++ toString n ++ "`"
  | double d => "floating point `" ++ d.render ++ "`"
  | text s => "string " ++ Text.quoted s
  | array _ => "sequence"
  | object _ => "map"

def mismatch (v : Json) (expected : String) : String :=
  "invalid type: " ++ described v ++ ", expected " ++ expected

/-- A reader of one value, or its complaint. -/
abbrev Decoder (α : Type) := Json → Except String α

def asText : Decoder String
  | text s => .ok s
  | v => .error (mismatch v "a string")

/-- A signed integer of 64 bits. -/
def asInteger : Decoder Int
  | int n =>
    if n < 0x8000000000000000 then .ok n
    else .error ("invalid value: integer `" ++ toString n ++ "`, expected i64")
  | v => .error (mismatch v "i64")

/-- Nothing for null. -/
def asOptional (f : Decoder α) : Decoder (Option α)
  | null => .ok none
  | v => (f v).map some

def asList (f : Decoder α) : Decoder (List α)
  | array items => items.mapM f
  | v => .error (mismatch v "a sequence")

/-- A table of texts by key. -/
def asTexts : Decoder (List (String × String))
  | object members => members.mapM fun (k, v) => (asText v).map (k, ·)
  | v => .error (mismatch v "a map")

/-- The name of one of several variants, alone or as the only key of an object whose value is null. -/
def asVariant (names : List String) : Decoder String
  | text s => named s
  | object [(k, v)] => do
    let name ← named k
    match v with
    | null => return name
    | v => .error (mismatch v "unit")
  | object _ => .error "invalid value: map, expected map with a single key"
  | v => .error (mismatch v "string or map")
where
  ticked (s : String) : String := "`" ++ s ++ "`"
  choices : List String → String
    | [a] => ticked a
    | [a, b] => ticked a ++ " or " ++ ticked b
    | all => "one of " ++ ", ".intercalate (all.map ticked)
  named (s : String) : Except String String :=
    if names.contains s then .ok s
    else .error ("unknown variant " ++ ticked s ++ ", expected " ++ choices names)

/-- A field as the look at present values sees it. -/
structure Field where
  name : String
  check : Json → Except String Unit
  /-- Whether an array may end before this field. -/
  defaulted : Bool

def field (name : String) (f : Decoder α) : Field := ⟨name, fun v => (f v).map fun _ => (), false⟩

def defaultedField (name : String) (f : Decoder α) : Field :=
  { field name f with defaulted := true }

structure Shape where
  name : String
  fields : List Field

namespace Shape

/-- Looks at each member that names a field. -/
def checkMembers (s : Shape) : List (String × Json) → Except String Unit
  | [] => .ok ()
  | (k, v) :: rest =>
    match s.fields.find? fun f => f.name == k with
    | some f => do f.check v; s.checkMembers rest
    | none => s.checkMembers rest

def elements (n : Nat) : String := toString n ++ (if n = 1 then " element" else " elements")

/-- Pairs the items of an array with the fields. -/
def pairItems (s : Shape) (count : Nat) :
    List Field → List Json → Except String (List (String × Json))
  | [], [] => .ok []
  | [], _ :: _ =>
    .error ("invalid length " ++ toString count ++ ", expected fewer elements in array")
  | f :: fields, [] =>
    if f.defaulted then s.pairItems count fields []
    else .error ("invalid length " ++ toString count ++ ", expected struct " ++ s.name ++ " with " ++
      elements s.fields.length)
  | f :: fields, v :: items => do
    f.check v
    return (f.name, v) :: (← s.pairItems count fields items)

/-- The values present, by field name, all of them fit for their fields. -/
def read (s : Shape) : Decoder (List (String × Json))
  | object members => do s.checkMembers members; return members
  | array items => s.pairItems items.length s.fields items
  | v => .error (mismatch v ("struct " ++ s.name))

end Shape

/-- The value of a field that must be there. -/
def need (values : List (String × Json)) (name : String) (f : Decoder α) : Except String α :=
  match values.lookup name with
  | some v => f v
  | none => .error ("missing field `" ++ name ++ "`")

/-- The value of a field that may be missing. -/
def needOr (values : List (String × Json)) (name : String) (f : Decoder α) (default : α) :
    Except String α :=
  match values.lookup name with
  | some v => f v
  | none => .ok default

/-- The value of a field that may be missing or null. -/
def optional (values : List (String × Json)) (name : String) (f : Decoder α) :
    Except String (Option α) :=
  needOr values name (asOptional f) none

/-- The value reached by a path of keys through objects. -/
def at? : List String → Json → Option Json
  | [], v => some v
  | key :: path, v => (v.member? key).bind (at? path)

end HostingBilling.Json
