import LineLandmarks.RuleFile.Schema
import LineLandmarks.Toml.Document

/-!
# Rule files

A rule file is a TOML document that fits the schema. That it is no TOML document is found first,
whatever else is wrong with it. Rules under which the block end can never be set are accepted with
a warning.
-/

namespace LineLandmarks

/-- A `Warning` is something about accepted rules that the user should know. -/
inductive Warning where
  /-- No line number lies between the bounds of the block end. -/
  | emptyBlockEndWindow (after before : UInt64)
  deriving DecidableEq, Repr

namespace Warning

/-- The `message` of a warning. -/
def message : Warning → String
  | emptyBlockEndWindow _ _ => "block end window is empty; block_end will never be set"

end Warning

namespace Rules

/-- The warnings about the rules `r`. -/
def warnings (r : Rules) : List Warning :=
  if r.blockEndWindowIsEmpty then [.emptyBlockEndWindow r.blockEndAfter r.blockEndBefore] else []

end Rules

namespace RuleFile

/-- An `Error` is why a text is no rule file. -/
inductive Error where
  | malformed
  | schema (e : SchemaError)
  deriving DecidableEq, Repr

namespace Error

/-- The `message` of an error. Where a text is no document it says so and no more. -/
def message : Error → String
  | malformed => "TOML parse error"
  | schema e => e.message

end Error

/-- The `rules` of a file with the `warnings` about them. -/
structure Parsed where
  rules : Rules
  warnings : List Warning
  deriving DecidableEq, Repr

namespace Parsed

/-- The rules `r` with all their warnings. -/
def ofRules (r : Rules) : Parsed := ⟨r, r.warnings⟩

end Parsed

/-- The rules that `text` gives. -/
def parse (text : String) : Except Error Parsed :=
  match Toml.parse? text with
  | none => .error .malformed
  | some entries =>
    match decode entries with
    | .ok r => .ok (.ofRules r)
    | .error e => .error (.schema e)

end RuleFile

end LineLandmarks
