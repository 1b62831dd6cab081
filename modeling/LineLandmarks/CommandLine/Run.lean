import LineLandmarks.CommandLine.Arguments
import LineLandmarks.Failure
import LineLandmarks.Log.Filter
import LineLandmarks.Report.Output
import LineLandmarks.Text.Message

/-!
# A run of the command

What a run writes and how it ends, from its arguments, the files it can read and the setting of the
log. The rules are loaded before the source file, and a run that fails writes no report at all.
-/

namespace LineLandmarks.CommandLine

open Log (Event Level)

/-- The name of the command, which is also the `target` of its own log events. -/
def commandName : String := "implsplit"

/-- The answer to `--version`. -/
def versionText : String := commandName ++ " 0.1.0\n"

/-- The answer to `--help`. -/
def helpText : String :=
  "Locate the put/exists methods and the trait impl end in a storage backend source file\n\n"
    ++ "Usage: " ++ commandName ++ " [OPTIONS] [PATH]\n\n"
    ++ "Arguments:\n"
    ++ "  [PATH]  目标源文件 [default: " ++ Options.defaultPath ++ "]\n\n"
    ++ "Options:\n"
    ++ "      --rules <RULES>    规则文件路径（TOML）；缺省使用内置规则\n"
    ++ "      --format <FORMAT>  报告格式 [default: text] [possible values: text, json]\n"
    ++ "  -h, --help             Print help\n"
    ++ "  -V, --version          Print version\n"

/-- What a run leaves: its `exitCode`, what it writes on standard output, a digest of what it writes
on standard error, and its log lines. The digest `stderr` keeps only the first row about arguments
that cannot be used. The lines of `log` are held apart from it, though they are written to standard
error too. -/
structure Outcome where
  exitCode : UInt32
  stdout : String
  stderr : String
  log : List String
  deriving DecidableEq, Repr

/-- A `Failure` with what was being done when it arose. -/
inductive Trouble where
  | loadingRules (f : Failure)
  | inspecting (f : Failure)
  deriving DecidableEq, Repr

namespace Trouble

/-- The `context` of a trouble says what was being done. -/
def context : Trouble → String
  | loadingRules _ => "load landmark rules"
  | inspecting _ => "inspect source file"

/-- The `Failure` itself, without its `context`. -/
def failure : Trouble → Failure
  | loadingRules f => f
  | inspecting f => f

/-- The text `s`, whose further rows stand below the start of its first one. -/
def hanging (s : String) : String :=
  String.ofList (s.toList.flatMap fun c => if c = '\n' then "\n       ".toList else [c])

/-- The row of a `cause`, behind its number. -/
def causeRow (cause : String × Nat) : String :=
  "    " ++ toString cause.2 ++ ": " ++ hanging cause.1 ++ "\n"

/-- The text of the trouble `t`: its `context`, and the `chain` of its failure, numbered from
zero. -/
def text (words : RuleFile.Words) (t : Trouble) : String :=
  "Error: " ++ t.context ++ "\n\nCaused by:\n"
    ++ String.join ((t.failure.chain words).zipIdx.map causeRow)

end Trouble

/-! ## Log events -/

/-- A line number in a log line, `Some(i)` or `None`. -/
def logIndex : Option Nat → String
  | some i => "Some(" ++ toString i ++ ")"
  | none => "None"

/-- The event of a run with the options `o` that starts. -/
def startEvent (o : Options) : Event where
  level := .info
  target := commandName
  message := "starting scan"
  fields :=
    [ ("path", o.path.quoted),
      ("rules", match o.rules with
        | some p => "Some(" ++ p.quoted ++ ")"
        | none => "None") ]

/-- The event of a warning about the rules of the file `p`. -/
def warningEvent (p : Path) : Warning → Event
  | w@(.emptyBlockEndWindow after before) =>
    { level := .warn
      target := "implsplit_core::rules"
      message := w.message
      fields :=
        [ ("path", p.quoted), ("block_end_after", toString after.toNat),
          ("block_end_before", toString before.toNat) ] }

/-- The events of `rules` that were `parsed`: the warnings, and then that they are loaded. -/
def rulesEvents (rules : Option Path) (parsed : RuleFile.Parsed) : List Event :=
  match rules with
  | none => []
  | some p =>
    parsed.warnings.map (warningEvent p) ++
      [{ level := .info
         target := "implsplit_core::rules"
         message := "loaded landmark rules"
         fields := [("path", p.quoted)] }]

/-- The events of a document `p` that was loaded and scanned to `f`. -/
def scanEvents (p : Path) (f : Inspection) : List Event :=
  let lines := toString f.document.size
  let marks := f.landmarks
  [ { level := .debug
      target := "implsplit_core::document"
      message := "document loaded"
      fields := [("path", p.quoted), ("lines", lines)] },
    { level := .info
      target := "implsplit_core::scan"
      message := "scanning document"
      fields := [("path", p.quoted), ("lines", lines)] },
    { level := .debug
      target := "implsplit_core::scan"
      message := "scan finished"
      fields :=
        [ ("marks", "Landmarks \x7b put_start: " ++ logIndex marks.putStart
            ++ ", exists_start: " ++ logIndex marks.existsStart
            ++ ", block_end: " ++ logIndex marks.blockEnd ++ " \x7d"),
          ("lines", lines) ] },
    { level := .info
      target := commandName
      message := "scan finished"
      fields :=
        [ ("put_start", logIndex marks.putStart), ("exists_start", logIndex marks.existsStart),
          ("block_end", logIndex marks.blockEnd) ] } ]

/-! ## The run -/

/-- The whole report on `f` in the form that `o` asks for. -/
def report (o : Options) (f : Inspection) : String :=
  String.join <|
    match o.format with
    | .text => Report.textPieces f
    | .json => Report.jsonPieces o.path.display f

/-- What an inspection comes to: the `report` or the `Trouble`, and the events on the way. -/
def inspect (files : Files) (o : Options) : Except Trouble String × List Event :=
  match RuleFile.load files o.rules with
  | .error e => (.error (.loadingRules e), [startEvent o])
  | .ok parsed =>
    let events := startEvent o :: rulesEvents o.rules parsed
    match Inspection.load files parsed.rules o.path with
    | .error e => (.error (.inspecting e), events)
    | .ok f => (.ok (report o f), events ++ scanEvents o.path f)

/-- The first row of `s`, without its line feed. -/
def firstRow (s : String) : String :=
  String.ofList (s.toList.takeWhile (· != '\n'))

/-- The digest of what is written about arguments that cannot be used: the first row of the
`message`, without anything that would drive a terminal. -/
def usageText (e : UsageError) : String :=
  firstRow (Text.plain ("error: " ++ e.message))

/-- The outcome of a run on `files` with the arguments `args`, in which an error in a rule file is
told in the `words` given. -/
def runWith (words : RuleFile.Words) (files : Files) (logSetting : Option String)
    (args : List (List UInt8)) : Outcome :=
  match Options.read args with
  | .error .help => ⟨0, helpText, "", []⟩
  | .error .version => ⟨0, versionText, "", []⟩
  | .error (.usage e) => ⟨2, "", usageText e, []⟩
  | .ok o =>
    let (result, events) := inspect files o
    let log := (events.filter (Log.Filter.ofSetting logSetting).passes).map Event.line
    match result with
    | .ok text => ⟨0, text, "", log⟩
    | .error t => ⟨1, "", t.text words, log⟩

/-- The outcome of a run without `words` for an error in a rule file, of which it says no more than
that the file is invalid. -/
def run : Files → Option String → List (List UInt8) → Outcome :=
  runWith fun _ _ => none

end LineLandmarks.CommandLine
