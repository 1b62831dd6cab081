import LineLandmarks.Text.Lines

/-!
# Documents

A document is a sequence of lines, numbered from zero. It is made of a text, which is split at its
terminators, or of lines taken as they are.
-/

namespace LineLandmarks

/-- The `lines` of a source file, without their terminators. -/
structure Document where
  lines : List String
  deriving DecidableEq, Repr, Inhabited

namespace Document

/-- The document without `lines`. -/
def empty : Document := ⟨[]⟩

/-- Takes `lines` as they are, terminators inside them included. -/
def ofLines (lines : List String) : Document := ⟨lines⟩

/-- Splits `text` at its terminators; the empty text has no line at all. -/
def ofText (text : String) : Document :=
  if text.isEmpty then empty
  else ⟨(Text.splitLines text.toList).map String.ofList⟩

/-- How many `lines` there are. -/
def size (d : Document) : Nat := d.lines.length

/-- The document `d` holds no line. -/
def isEmpty (d : Document) : Bool := d.lines.isEmpty

/-- The line with the number `i`, if `d` reaches that far. -/
def line? (d : Document) (i : Nat) : Option String := d.lines[i]?

end Document

end LineLandmarks
