import LineLandmarks.Decimal.Binary64

/-!
# TOML values

The values of a TOML document. A table keeps its entries in the order of their first appearance and
remembers how it was made, since that decides what later statements may add to it.
-/

namespace LineLandmarks.Toml

/-- A day of the calendar. -/
structure Date where
  year : Nat
  month : Nat
  day : Nat
  deriving DecidableEq, Repr

/-- A time of day; a second may be the leap second 60. -/
structure Time where
  hour : Nat
  minute : Nat
  second : Nat
  nanosecond : Nat
  deriving DecidableEq, Repr

/-- A date, a time of day, or both, in the latter case perhaps with its distance from universal
time in minutes. -/
inductive DateTime where
  | date (d : Date)
  | time (t : Time)
  | both (d : Date) (t : Time) (offset : Option Int)
  deriving DecidableEq, Repr

/-- The `TableOrigin` is how a table was made. -/
inductive TableOrigin where
  /-- By braces; it is closed. -/
  | braces
  /-- By a header of its own. -/
  | header
  /-- As a parent in the header of another table. -/
  | parent
  /-- As a parent in a dotted key. -/
  | dotted
  deriving DecidableEq, Repr

/-- A TOML value; `tableArray` is an array made by headers, the tables in it by one each. -/
inductive Value where
  | string (s : String)
  | integer (n : Int)
  | float (x : Decimal.Binary64)
  | boolean (b : Bool)
  | dateTime (d : DateTime)
  | array (items : List Value)
  | tableArray (tables : List Value)
  | table (origin : TableOrigin) (entries : List (String × Value))
  deriving Repr, Inhabited

/-- The entries of a `table` in the order of their first appearance. -/
abbrev Entries := List (String × Value)

/-- A key as it is written: the names of the parents, outermost first, and its own name. -/
structure Key where
  parents : List String
  name : String
  deriving DecidableEq, Repr

/-- A statement `key = value`. -/
structure Assignment where
  key : Key
  value : Value
  deriving Repr

/-- A line of a document that says something: an `assign`, or a header. -/
inductive Statement where
  | assign (a : Assignment)
  | table (key : Key)
  | arrayTable (key : Key)
  deriving Repr

end LineLandmarks.Toml
