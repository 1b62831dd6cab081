import LineLandmarks.Toml.Value

/-!
# Tables of TOML

How assignments and headers build up a table. A key is given once. A dotted key may enter tables
made by dotted keys and, on the way, tables that are only parents in headers, but it may add only
to the former. A header may enter every table but one in braces; its own table must be new or so
far only a parent, in which case it moves behind the entries made in between.
-/

namespace LineLandmarks.Toml

namespace Entries

/-- Puts `v` in the place of the value that `name` has. -/
def replace (name : String) (v : Value) : Entries → Entries
  | [] => []
  | (k, w) :: rest => if k = name then (k, v) :: rest else (k, w) :: replace name v rest

/-- Leaves out the entry of `name`. -/
def erase (name : String) : Entries → Entries
  | [] => []
  | (k, w) :: rest => if k = name then rest else (k, w) :: erase name rest

/-- Adds the entry `(name, v)` at the end. -/
def append (e : Entries) (name : String) (v : Value) : Entries :=
  e ++ [(name, v)]

/-- Changes the table that a path leads to by `change`. Missing tables on the way are `made`; of an
array of tables the last one is entered, any other table only if `enter` allows it. -/
def within (made : TableOrigin) (enter : TableOrigin → Bool)
    (change : TableOrigin → Entries → Option Entries) :
    List String → TableOrigin → Entries → Option Entries
  | [], origin, e => change origin e
  | name :: path, _, e =>
    match e.lookup name with
    | none => do
      let t ← within made enter change path made []
      return append e name (.table made t)
    | some (.table origin t) =>
      if enter origin then do
        let t ← within made enter change path origin t
        return replace name (.table origin t) e
      else none
    | some (.tableArray tables) =>
      match tables.getLast? with
      | some (.table origin t) => do
        let t ← within made enter change path origin t
        return replace name (.tableArray (tables.dropLast ++ [.table origin t])) e
      | _ => none
    | some _ => none

/-- Adds the new entry of `a`; behind parents the table must be one made by `dotted` keys. -/
def assignHere (a : Assignment) (origin : TableOrigin) (e : Entries) : Option Entries :=
  if a.key.parents ≠ [] ∧ origin ≠ .dotted then none
  else
    match e.lookup a.key.name with
    | some _ => none
    | none => some (append e a.key.name a.value)

/-- Adds the entry of the assignment `a` to the table that its parents lead to. -/
def assign (e : Entries) (a : Assignment) : Option Entries :=
  within .dotted (fun o => o == .dotted || o == .parent) (assignHere a) a.key.parents .header e

/-- Adds the entries of the assignments `as` in order. -/
def assignAll (e : Entries) (as : List Assignment) : Option Entries :=
  as.foldlM assign e

end Entries

/-- A header with the assignments below it; it opens a table, or one more table of an array if
`repeated`. -/
structure Block where
  repeated : Bool
  key : Key
  body : List Assignment
  deriving Repr

namespace Entries

/-- Adds the table of the header of `b`. -/
def openTable (b : Block) (e : Entries) : Option Entries :=
  let name := b.key.name
  match e.lookup name with
  | none => do return append e name (.table .header (← assignAll [] b.body))
  | some (.table .parent t) => do
    return append (erase name e) name (.table .header (← assignAll t b.body))
  | some _ => none

/-- Adds one more table to the array of the header of `b`. -/
def openArrayTable (b : Block) (e : Entries) : Option Entries :=
  let name := b.key.name
  match e.lookup name with
  | none => do return append e name (.tableArray [.table .header (← assignAll [] b.body)])
  | some (.tableArray tables) => do
    return replace name (.tableArray (tables ++ [.table .header (← assignAll [] b.body)])) e
  | some _ => none

/-- Adds what the header of `b` opens, with the assignments below it. -/
def openBlock (e : Entries) (b : Block) : Option Entries :=
  within .parent (· != .braces)
    (fun _ e => if b.repeated then openArrayTable b e else openTable b e)
    b.key.parents .header e

end Entries

/-- The assignments before the first header, and the `Block`s. -/
def blocks : List Statement → List Assignment × List Block
  | [] => ([], [])
  | .assign a :: rest =>
    let (body, later) := blocks rest
    (a :: body, later)
  | .table key :: rest =>
    let (body, later) := blocks rest
    ([], ⟨false, key, body⟩ :: later)
  | .arrayTable key :: rest =>
    let (body, later) := blocks rest
    ([], ⟨true, key, body⟩ :: later)

namespace Entries

/-- The entries of the document that `statements` make, if none contradicts another. -/
def ofStatements? (statements : List Statement) : Option Entries := do
  let (body, later) := blocks statements
  let top ← assignAll [] body
  later.foldlM openBlock top

end Entries

end LineLandmarks.Toml
