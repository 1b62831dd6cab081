/-!
# Log events and filters

What a run reports about its progress, each event with a level, the part of the program it comes
from, a message and named fields.

A filter is a list of directives, separated by commas: a level for everything, or a level for the
targets that begin with some text. The longest such text decides, and of equal ones the last.
A filter that cannot be read counts as `info`.
-/

namespace LineLandmarks.Log

/-- The `Level` of an event says how much it matters. -/
inductive Level where
  | error
  | warn
  | info
  | debug
  | trace
  deriving DecidableEq, Repr

namespace Level

/-- The `rank` of a level; what matters more has the smaller one. -/
def rank : Level → Nat
  | error => 1
  | warn => 2
  | info => 3
  | debug => 4
  | trace => 5

/-- The `label` of a level in a log line. -/
def label : Level → String
  | error => "ERROR"
  | warn => "WARN"
  | info => "INFO"
  | debug => "DEBUG"
  | trace => "TRACE"

end Level

/-- An event of the log, with its `level` and the part of the program it comes from as `target`. -/
structure Event where
  level : Level
  target : String
  message : String
  fields : List (String × String)
  deriving DecidableEq, Repr

namespace Event

/-- The log line of the event `e`. -/
def line (e : Event) : String :=
  e.level.label ++ " " ++ e.target ++ ": " ++ e.message
    ++ String.join (e.fields.map fun (name, value) => " " ++ name ++ "=" ++ value)

end Event

/-! ## Filters -/

/-- Lets pass events of a `rank` up to `threshold`, from the targets that begin with `target`, or
from all. A directive on spans never applies, since no event lies in one. -/
structure Directive where
  target : Option String
  onSpan : Bool
  threshold : Nat
  deriving DecidableEq, Repr

/-- The `directives` of a setting in the order they were given. -/
structure Filter where
  directives : List Directive
  deriving DecidableEq, Repr

namespace Directive

/-- The names of levels, each with the greatest `rank` it lets pass. -/
def levelNames : List (String × Nat) :=
  [("off", 0), ("error", 1), ("warn", 2), ("info", 3), ("debug", 4), ("trace", 5),
    ("0", 0), ("1", 1), ("2", 2), ("3", 3), ("4", 4), ("5", 5)]

/-- The threshold that `s` names, in letters of either case. -/
def threshold? (s : List Char) : Option Nat :=
  levelNames.lookup (String.ofList (s.map Char.toLower))

/-- The directive that lets everything up to `threshold` pass. -/
def everywhere (threshold : Nat) : Directive := ⟨none, false, threshold⟩

/-- The character `c` may stand in a target. -/
def isTargetChar (c : Char) : Bool :=
  c.isAlphanum || c == '_' || c == ':' || c == '-' || 0x80 ≤ c.toNat

/-- The characters behind a span in brackets. -/
def afterSpan? : List Char → Option (List Char)
  | '[' :: rest =>
    match rest.dropWhile (· != ']') with
    | ']' :: rest => some rest
    | _ => none
  | _ => none

/-- The threshold behind a target, after `=`; without one everything passes. -/
def ownThreshold? : List Char → Option Nat
  | [] => some 5
  | ['='] => some 5
  | '=' :: level => threshold? level
  | _ => none

/-- The directive that `s` is for a target, a span, or both. -/
def targeted? (s : List Char) : Option Directive :=
  let target := s.takeWhile isTargetChar
  let rest := s.dropWhile isTargetChar
  let name := if target.isEmpty then none else some (String.ofList target)
  match afterSpan? rest with
  | some rest => (ownThreshold? rest).map fun t => ⟨name, true, t⟩
  | none =>
    if target.isEmpty then none else (ownThreshold? rest).map fun t => ⟨name, false, t⟩

/-- The directive that is written as `s`. -/
def read? (s : List Char) : Option Directive :=
  match threshold? s with
  | some t => some (everywhere t)
  | none => targeted? s

/-- One more than the length of the target that `d` names, if `target` begins with it; zero if `d`
names none, and nothing if it does not apply. -/
def weight? (d : Directive) (target : String) : Option Nat :=
  if d.onSpan then none
  else
    match d.target with
    | none => some 0
    | some t => if t.toList.isPrefixOf target.toList then some (t.length + 1) else none

end Directive

namespace Filter

/-- Everything up to the level `info`. -/
def info : Filter := ⟨[.everywhere 3]⟩

/-- Only what is of the level `error`. -/
def errors : Filter := ⟨[.everywhere 1]⟩

/-- The pieces of `s` between commas, empty ones left out. -/
def pieces (s : List Char) : List (List Char) :=
  (s.splitOn ',').filter (!·.isEmpty)

/-- The filter of a setting `s`; `info` if it cannot be read, `errors` if it has no directive. -/
def read (s : String) : Filter :=
  match (pieces s.toList).mapM Directive.read? with
  | none => info
  | some [] => errors
  | some directives => ⟨directives⟩

/-- The filter of a setting, `info` if it is absent. -/
def ofSetting : Option String → Filter
  | none => info
  | some s => read s

/-- The weight and threshold of the directive that decides on `target`: the heaviest, and of equally
heavy ones the last. -/
def deciding? (target : String) : List Directive → Option (Nat × Nat)
  | [] => none
  | d :: rest =>
    match d.weight? target, deciding? target rest with
    | some w, some (w', t) => if w' < w then some (w, d.threshold) else some (w', t)
    | some w, none => some (w, d.threshold)
    | none, later => later

/-- The event `e` passes the filter `f`. -/
def passes (f : Filter) (e : Event) : Bool :=
  match deciding? e.target f.directives with
  | some (_, threshold) => e.level.rank ≤ threshold
  | none => false

end Filter

end LineLandmarks.Log
