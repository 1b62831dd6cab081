import LineLandmarks.Rules

/-!
# Fields of a rule file

A rule file has two sections, each with named fields for single rules. Three fields hold texts, the
others counts of lines.
-/

namespace LineLandmarks.RuleFile

/-- A field that holds a text. -/
inductive TextField where
  | putSignature
  | existsSignature
  | blockEndLine
  deriving DecidableEq, Repr

/-- A field that holds a count. -/
inductive CountField where
  | blockEndAfter
  | blockEndBefore
  | offset
  | width
  deriving DecidableEq, Repr

/-- A `TextField` or a `CountField`. -/
inductive Field where
  | text (f : TextField)
  | count (f : CountField)
  deriving DecidableEq, Repr

/-- A section of the file, `[landmarks]` or `[excerpt]`. -/
inductive Section where
  | landmarks
  | excerpt
  deriving DecidableEq, Repr

namespace TextField

/-- The `name` of a field is its key. -/
def name : TextField → String
  | putSignature => "put_signature"
  | existsSignature => "exists_signature"
  | blockEndLine => "block_end_line"

/-- The rules `r` with the text `s` in the field `f`. -/
def set (f : TextField) (s : String) (r : Rules) : Rules :=
  match f with
  | putSignature => { r with putSignature := s }
  | existsSignature => { r with existsSignature := s }
  | blockEndLine => { r with blockEndLine := s }

end TextField

namespace CountField

/-- The `name` of a field is its key. -/
def name : CountField → String
  | blockEndAfter => "block_end_after"
  | blockEndBefore => "block_end_before"
  | offset => "offset"
  | width => "width"

/-- The rules `r` with the count `n` in the field `f`. -/
def set (f : CountField) (n : UInt64) (r : Rules) : Rules :=
  match f with
  | blockEndAfter => { r with blockEndAfter := n }
  | blockEndBefore => { r with blockEndBefore := n }
  | offset => { r with excerpt := { r.excerpt with offset := n } }
  | width => { r with excerpt := { r.excerpt with width := n } }

end CountField

namespace Field

/-- The `name` of a field is its key. -/
def name : Field → String
  | text f => f.name
  | count f => f.name

end Field

namespace Section

/-- The `name` of a section is its key. -/
def name : Section → String
  | landmarks => "landmarks"
  | excerpt => "excerpt"

/-- The sections in the order in which their keys are listed to choose from. -/
def all : List Section := [landmarks, excerpt]

/-- The section whose `name` is `key`. -/
def ofName? (key : String) : Option Section :=
  all.find? (·.name == key)

/-- The fields of a section in the order in which an array gives them. -/
def fields : Section → List Field
  | landmarks =>
    [ .text .putSignature, .text .existsSignature, .text .blockEndLine,
      .count .blockEndAfter, .count .blockEndBefore ]
  | excerpt => [.count .offset, .count .width]

/-- The field of the section `s` whose `name` is `key`. -/
def field? (s : Section) (key : String) : Option Field :=
  s.fields.find? (·.name == key)

end Section

end LineLandmarks.RuleFile
