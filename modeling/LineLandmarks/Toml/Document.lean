import LineLandmarks.Toml.DateTime
import LineLandmarks.Toml.Entries
import LineLandmarks.Toml.Number
import LineLandmarks.Toml.Text

/-!
# TOML documents

Readers of keys, values and assignments. Arrays may be spread over lines and end in a comma, tables
in braces may not. Values are nested less than 80 deep, and a key has less than 80 parts.

A document is read line by line into statements, which are then put together to its table.
-/

namespace LineLandmarks.Toml

/-! ## Keys and values -/

/-- Arrays and braces are nested less than `depthLimit` deep, and keys have fewer parts. -/
def depthLimit : Nat := 80

/-- The character `c` may stand in a key without quotes. -/
def isBareKeyChar (c : Char) : Bool :=
  c.isAlphanum || c == '_' || c == '-'

/-- One part of a key: a `basic?` or `literal?` string, or a word without quotes. -/
def keyPart? : List Char → Option (String × List Char)
  | '"' :: rest => (basic? rest).map text?.asText
  | '\'' :: rest => (literal? rest).map text?.asText
  | s =>
    match s.takeWhile isBareKeyChar with
    | [] => none
    | cs => some (String.ofList cs, s.dropWhile isBareKeyChar)

/-- At most `count` parts of a key, with points between them, and what remains behind its blanks. -/
def keyParts? : Nat → List Char → Option (List String × List Char)
  | 0, _ => none
  | count + 1, s =>
    match keyPart? s with
    | none => none
    | some (part, rest) =>
      match skipBlanks rest with
      | '.' :: rest =>
        (keyParts? count (skipBlanks rest)).map fun (parts, rest) => (part :: parts, rest)
      | rest => some ([part], rest)

/-- A key at the start of `s`; blanks before it are skipped. -/
def key? (s : List Char) : Option (Key × List Char) := do
  let (parts, rest) ← keyParts? (depthLimit - 1) (skipBlanks s)
  let name ← parts.getLast?
  return (⟨parts.dropLast, name⟩, rest)

/-- A value at the start of `s` that contains no other. -/
def simpleValue? (s : List Char) : Option (Value × List Char) :=
  match s with
  | 't' :: 'r' :: 'u' :: 'e' :: rest => some (.boolean true, rest)
  | 'f' :: 'a' :: 'l' :: 's' :: 'e' :: rest => some (.boolean false, rest)
  | s =>
    match text? s with
    | some (t, rest) => some (.string t, rest)
    | none =>
      match DateTime.read? s with
      | some (d, rest) => some (.dateTime d, rest)
      | none =>
        match float? s with
        | some (x, rest) => some (.float x, rest)
        | none => (integer? s).map fun (n, rest) => (.integer n, rest)

/-- At most `bound` items of an array, each read by `item`, behind its bracket or a comma. -/
def items? (item : List Char → Option (Value × List Char)) :
    (bound : Nat) → List Char → Option (List Value × List Char)
  | bound, s =>
    match skipLayout s with
    | ']' :: rest => some ([], rest)
    | ahead =>
      match bound, item ahead with
      | bound + 1, some (v, rest) =>
        match skipLayout rest with
        | ']' :: rest => some ([v], rest)
        | ',' :: rest => (items? item bound rest).map fun (vs, rest) => (v :: vs, rest)
        | _ => none
      | _, _ => none

/-- An assignment at the start of `s`, with `value` as the reader of its value. -/
def assignment? (value : List Char → Option (Value × List Char)) (s : List Char) :
    Option (Assignment × List Char) := do
  let (key, rest) ← key? s
  let rest ← expect? '=' rest
  let (v, rest) ← value (skipBlanks rest)
  return (⟨key, v⟩, rest)

/-- At least one and at most `bound` assignments of a table in braces, up to its closing brace. -/
def assignments? (value : List Char → Option (Value × List Char)) :
    (bound : Nat) → List Char → Option (List Assignment × List Char)
  | 0, _ => none
  | bound + 1, s =>
    match assignment? value s with
    | none => none
    | some (a, rest) =>
      match skipBlanks rest with
      | '\x7d' :: rest => some ([a], rest)
      | ',' :: rest => (assignments? value bound rest).map fun (as, rest) => (a :: as, rest)
      | _ => none

/-- At most `bound` assignments of a table in braces, read behind its opening brace. -/
def braces? (value : List Char → Option (Value × List Char)) (bound : Nat) (s : List Char) :
    Option (List Assignment × List Char) :=
  match skipBlanks s with
  | '\x7d' :: rest => some ([], rest)
  | _ => assignments? value bound s

/-- A value nested at most `depth` deep, in which nothing has more than `bound` members. -/
def value? (bound : Nat) : (depth : Nat) → List Char → Option (Value × List Char)
  | 0, s => simpleValue? s
  | depth + 1, s =>
    match s with
    | '[' :: rest =>
      (items? (value? bound depth) bound rest).map fun (vs, rest) => (.array vs, rest)
    | '\x7b' :: rest => do
      let (as, rest) ← braces? (value? bound depth) bound rest
      let entries ← Entries.assignAll [] as
      return (.table .braces entries, rest)
    | s => simpleValue? s

/-! ## Statements -/

namespace Statement

/-- The header of a `table` or an `arrayTable`, read behind its first bracket. -/
def header? : List Char → Option (Statement × List Char)
  | '[' :: rest => do
    let (key, rest) ← key? rest
    let rest ← expect? ']' rest
    let rest ← expect? ']' rest
    return (.arrayTable key, rest)
  | rest => do
    let (key, rest) ← key? rest
    let rest ← expect? ']' rest
    return (.table key, rest)

/-- The words of a statement; no value in it has more than `bound` members. -/
def words? (bound : Nat) : List Char → Option (Statement × List Char)
  | '[' :: rest => header? rest
  | s => (assignment? (value? bound (depthLimit - 1)) s).map fun (a, rest) => (.assign a, rest)

/-- The first line of some text: its statement, unless it is empty or a comment, and the lines after
it. -/
def line? (bound : Nat) (s : List Char) : Option (Option Statement × List Char) :=
  match trailing? s with
  | some rest => some (none, rest)
  | none => do
    let (statement, rest) ← words? bound (skipBlanks s)
    let rest ← trailing? rest
    return (some statement, rest)

/-- The statements of a text of at most `lines` lines, each read by `line?`. -/
def readAll? (bound : Nat) : (lines : Nat) → List Char → Option (List Statement)
  | _, [] => some []
  | 0, _ :: _ => none
  | lines + 1, s =>
    match line? bound s with
    | none => none
    | some (statement, rest) =>
      (readAll? bound lines rest).map fun statements => statement.toList ++ statements

end Statement

/-- The characters after a byte order mark `\uFEFF` at the very start. -/
def skipByteOrderMark : List Char → List Char
  | '\uFEFF' :: rest => rest
  | s => s

/-- The entries of the document `text`, if it is well-formed. It has no more lines, and no value in
it more members, than it has characters. -/
def parse? (text : String) : Option Entries := do
  let s := skipByteOrderMark text.toList
  let bound := s.length
  let statements ← Statement.readAll? bound bound s
  Entries.ofStatements? statements

end LineLandmarks.Toml
