import LineLandmarks.FileTree
import LineLandmarks.Landmarks
import LineLandmarks.RuleFile.Parse

/-!
# Failures and loading

Loading a document or a rule file by name. The same bytes fail in different ways: a source file
must be readable text, a rule file must in addition be a TOML document that fits the schema.
-/

namespace LineLandmarks

/-- What is said of an error in the rule file with a name, besides that the file is invalid; `none`
if nothing is. The reader of TOML finds its own words, which show the place of the error as well. -/
abbrev RuleFile.Words := Path → RuleFile.Error → Option String

/-- A `Failure` is why a document or rules could not be loaded. -/
inductive Failure where
  | sourceAccess (path : Path) (cause : AccessFailure)
  | rulesAccess (path : Path) (cause : AccessFailure)
  | rulesInvalid (path : Path) (cause : RuleFile.Error)
  deriving DecidableEq, Repr

namespace Failure

/-- The `message` of a failure, without its cause. -/
def message : Failure → String
  | sourceAccess path _ => "failed to read source file " ++ path.display
  | rulesAccess path _ => "failed to read rules file " ++ path.display
  | rulesInvalid path _ => "invalid rules file " ++ path.display

/-- The texts of what caused a failure, where an error in a rule file is told in `words`. -/
def causes (words : RuleFile.Words) : Failure → List String
  | sourceAccess _ cause => [cause.message]
  | rulesAccess _ cause => [cause.message]
  | rulesInvalid path cause => (words path cause).toList

/-- The `message` of the failure `f` and the texts of its `causes`, outermost first. -/
def chain (words : RuleFile.Words) (f : Failure) : List String :=
  f.message :: f.causes words

end Failure

namespace Files

/-- The text of the file `p`, which must be UTF-8. -/
def readText (files : Files) (p : Path) : Except AccessFailure String :=
  match files p with
  | .error e => .error e
  | .ok content =>
    match Text.decode? content with
    | some text => .ok text
    | none => .error .notUtf8

end Files

namespace Document

/-- The document of the file `p`; a byte order mark is an ordinary character. -/
def load (files : Files) (p : Path) : Except Failure Document :=
  match Files.readText files p with
  | .ok text => .ok (.ofText text)
  | .error e => .error (.sourceAccess p e)

end Document

namespace RuleFile

/-- The rules of a file, if one is named; otherwise the `default` rules. -/
def load (files : Files) : Option Path → Except Failure Parsed
  | none => .ok ⟨.default, []⟩
  | some p =>
    match Files.readText files p with
    | .error e => .error (.rulesAccess p e)
    | .ok text =>
      match parse text with
      | .ok parsed => .ok parsed
      | .error e => .error (.rulesInvalid p e)

end RuleFile

namespace Inspection

/-- Loads the document `p` and scans it under the rules `r`. -/
def load (files : Files) (r : Rules) (p : Path) : Except Failure Inspection :=
  match Document.load files p with
  | .ok d => .ok (.ofDocument r d)
  | .error e => .error e

end Inspection

end LineLandmarks
