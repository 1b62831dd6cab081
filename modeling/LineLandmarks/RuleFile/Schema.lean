import LineLandmarks.Decimal.Binary64
import LineLandmarks.RuleFile.Field
import LineLandmarks.Text.Message
import LineLandmarks.Toml.Value

/-!
# Schema of a rule file

The rules that the entries of a document stand for. The entries are read in order and the first one
that does not fit is the error. A section may be a table, read by name, or an array, read by place:
places beyond the last field are ignored.
-/

namespace LineLandmarks.RuleFile

/-- What a value was `Found` to be. -/
inductive Found where
  | string (s : String)
  | integer (n : Int)
  | float (x : Decimal.Binary64)
  | boolean (b : Bool)
  | sequence
  | map
  deriving DecidableEq, Repr

/-- What a value should have been: the kind that is `Wanted`. -/
inductive Wanted where
  | text
  | count
  | block (s : Section)
  deriving DecidableEq, Repr

/-- A `SchemaError` is why an entry does not fit. -/
inductive SchemaError where
  | unknownField (name : String) (expected : List String)
  | wrongType (found : Found) (wanted : Wanted)
  | negative (n : Int)
  deriving DecidableEq, Repr

namespace Found

/-- What a value is; a `dateTime` counts as a `map`. -/
def ofValue : Toml.Value → Found
  | .string s => string s
  | .integer n => integer n
  | .float x => float x
  | .boolean b => boolean b
  | .dateTime _ => map
  | .array _ => sequence
  | .tableArray _ => sequence
  | .table _ _ => map

/-- The words for what was `Found`. -/
def description : Found → String
  | string s => "string " ++ Text.quoted s
  | integer n => "integer `" ++ toString n ++ "`"
  | float x => "floating point `" ++ x.text ++ "`"
  | boolean b => "boolean `" ++ (if b then "true" else "false") ++ "`"
  | sequence => "sequence"
  | map => "map"

end Found

namespace Wanted

/-- The words for what was `Wanted`. -/
def description : Wanted → String
  | text => "a string"
  | count => "usize"
  | block .landmarks => "struct LandmarkEntry"
  | block .excerpt => "struct ExcerptEntry"

end Wanted

namespace SchemaError

/-- The names of some fields in backticks, for a reader to choose from. -/
def oneOf : List String → String
  | [a, b] => "`" ++ a ++ "` or `" ++ b ++ "`"
  | names => "one of " ++ ", ".intercalate (names.map fun n => "`" ++ n ++ "`")

/-- The `message` of an error. -/
def message : SchemaError → String
  | unknownField name expected =>
    "unknown field `" ++ name ++ "`, expected " ++ oneOf expected
  | wrongType found wanted =>
    "invalid type: " ++ found.description ++ ", expected " ++ wanted.description
  | negative n => "invalid value: integer `" ++ toString n ++ "`, expected usize"

end SchemaError

namespace Field

/-- The rules `r` with the field `f` set to `v`, which must be of the field's kind. -/
def read (f : Field) (v : Toml.Value) (r : Rules) : Except SchemaError Rules :=
  match f, v with
  | text f, .string s => .ok (f.set s r)
  | count f, .integer n =>
    if n < 0 then .error (.negative n) else .ok (f.set (UInt64.ofNat n.toNat) r)
  | text _, v => .error (.wrongType (.ofValue v) .text)
  | count _, v => .error (.wrongType (.ofValue v) .count)

end Field

namespace Section

/-- Reads an `entry` of the section `s` given as a table. -/
def readEntry (s : Section) (r : Rules) (entry : String × Toml.Value) :
    Except SchemaError Rules :=
  match s.field? entry.1 with
  | some f => f.read entry.2 r
  | none => .error (.unknownField entry.1 (s.fields.map Field.name))

/-- Reads an `item` of a section given as an array, with the field of its place. -/
def readItem (r : Rules) (item : Field × Toml.Value) : Except SchemaError Rules :=
  item.1.read item.2 r

/-- The only key of a `dateTime` when it is looked at as a map. -/
def dateTimeKey : String := "$__toml_private_datetime"

/-- Reads the section `s` from `v`. -/
def read (s : Section) (v : Toml.Value) (r : Rules) : Except SchemaError Rules :=
  match v with
  | .table _ entries => entries.foldlM s.readEntry r
  | .array items => (s.fields.zip items).foldlM readItem r
  | .tableArray items => (s.fields.zip items).foldlM readItem r
  | .dateTime _ => .error (.unknownField dateTimeKey (s.fields.map Field.name))
  | v => .error (.wrongType (.ofValue v) (.block s))

end Section

/-- Reads an `entry` at the top of the file. -/
def readSection (r : Rules) (entry : String × Toml.Value) : Except SchemaError Rules :=
  match Section.ofName? entry.1 with
  | some s => s.read entry.2 r
  | none => .error (.unknownField entry.1 (Section.all.map Section.name))

/-- The rules that `entries` stand for; where they say nothing `default` holds. -/
def decode (entries : Toml.Entries) : Except SchemaError Rules :=
  entries.foldlM readSection .default

end LineLandmarks.RuleFile
