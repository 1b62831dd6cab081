import LineLandmarks.FileTree

/-!
# Command-line arguments

The arguments are read from left to right: one path, the options `--rules` and `--format` with their
values attached by an equals sign or as the next argument, and the flags for help and version. A
value is checked when the next argument that matters comes, so that an unknown argument behind it is
reported first. Behind `--` every argument is a path.
-/

namespace LineLandmarks.CommandLine

/-- The two forms of a report, which `--format` chooses. -/
inductive Format where
  | text
  | json
  deriving DecidableEq, Repr

namespace Format

/-- The `name` of a form is the value that `--format` takes for it. -/
def name : Format → String
  | text => "text"
  | json => "json"

/-- The forms in the order in which `helpText` names them. -/
def all : List Format := [text, json]

/-- The form whose `name` has the bytes `b`. -/
def ofBytes? (b : List UInt8) : Option Format :=
  all.find? fun f => Text.bytes f.name == b

end Format

/-- The arguments that carry a value: `PATH`, `--rules` and `--format`. -/
inductive Argument where
  | path
  | rules
  | format
  deriving DecidableEq, Repr

namespace Argument

/-- The `usage` of an argument is how messages name it. -/
def usage : Argument → String
  | path => "[PATH]"
  | rules => "--rules <RULES>"
  | format => "--format <FORMAT>"

end Argument

/-- The `Options` say what a run is asked to do. -/
structure Options where
  path : Path
  rules : Option Path
  format : Format
  deriving DecidableEq, Repr

/-- A `UsageError` is why the arguments cannot be used. -/
inductive UsageError where
  | unexpectedArgument (shown : String)
  | unexpectedValue (flag : String) (value : String)
  | missingValue (a : Argument)
  | repeated (a : Argument)
  | invalidValue (a : Argument) (value : String)
  deriving DecidableEq, Repr

namespace UsageError

/-- The `message` of an error, behind `error: `. -/
def message : UsageError → String
  | unexpectedArgument shown => "unexpected argument '" ++ shown ++ "' found"
  | unexpectedValue flag value =>
    "unexpected value '" ++ value ++ "' for '" ++ flag ++ "' found; no more were expected"
  | missingValue a => "a value is required for '" ++ a.usage ++ "' but none was supplied"
  | repeated a => "the argument '" ++ a.usage ++ "' cannot be used multiple times"
  | invalidValue a value => "invalid value '" ++ value ++ "' for '" ++ a.usage ++ "'"

end UsageError

/-- Why reading ends before the last argument: `--help`, `--version` or an error. -/
inductive Stop where
  | help
  | version
  | usage (e : UsageError)
  deriving DecidableEq, Repr

/-- One argument by its form: `--` alone, `--name` or `--name=value`, `-flags`, or plain. -/
inductive Word where
  | escape
  | long (name : List UInt8) (value : Option (List UInt8))
  | short (flags : List UInt8)
  | plain (value : List UInt8)
  deriving DecidableEq, Repr

namespace Word

/-- The byte `-`. -/
def hyphen : UInt8 := 0x2D

/-- The byte `=`. -/
def equals : UInt8 := 0x3D

/-- What is before the first `equals`, and what is behind it if there is one. -/
def splitEquals : List UInt8 → List UInt8 × Option (List UInt8)
  | [] => ([], none)
  | b :: rest =>
    if b = equals then ([], some rest)
    else
      let (name, value) := splitEquals rest
      (b :: name, value)

/-- The form of the argument `arg`; `-` alone is plain. -/
def ofBytes (arg : List UInt8) : Word :=
  match arg with
  | first :: second :: rest =>
    if first = hyphen then
      if second = hyphen then
        if rest = [] then escape
        else
          let (name, value) := splitEquals rest
          long name value
      else short (second :: rest)
    else plain arg
  | _ => plain arg

end Word

/-- An argument whose value is not stored yet: `awaiting` it, or `holding` it to be checked. -/
inductive Pending where
  | awaiting (a : Argument)
  | holding (a : Argument) (value : List UInt8)
  deriving DecidableEq, Repr

/-- The values stored so far and the one that is `pending`. -/
structure Reading where
  path : Option Path
  rules : Option Path
  format : Option Format
  pending : Option Pending
  deriving DecidableEq, Repr

namespace Reading

/-- The `Reading` before the first argument. -/
def start : Reading := ⟨none, none, none, none⟩

/-- A value of the argument is stored in `r`. -/
def has (r : Reading) : Argument → Bool
  | .path => r.path.isSome
  | .rules => r.rules.isSome
  | .format => r.format.isSome

/-- Checks and stores `value` for the argument `a`. -/
def store (r : Reading) (a : Argument) (value : List UInt8) : Except UsageError Reading :=
  if r.has a then .error (.repeated a)
  else if value.isEmpty then .error (.missingValue a)
  else
    match a with
    | .path => .ok { r with path := some ⟨value⟩ }
    | .rules => .ok { r with rules := some ⟨value⟩ }
    | .format =>
      match Format.ofBytes? value with
      | some f => .ok { r with format := some f }
      | none => .error (.invalidValue a (Text.decodeLossy value))

/-- Checks and stores what is `pending` in `r`. -/
def settle (r : Reading) : Except UsageError Reading :=
  match r.pending with
  | none => .ok r
  | some (.awaiting a) => .error (.missingValue a)
  | some (.holding a value) => { r with pending := none }.store a value

/-- Ends the reading with `stop`, unless what is `pending` is wrong. -/
def finish (r : Reading) (stop : Stop) : Except Stop Reading :=
  match r.settle with
  | .ok _ => .error stop
  | .error e => .error (.usage e)

/-- A flag, `shown` so in messages, which takes no value and ends the reading with `stop`. -/
def flag (r : Reading) (shown : String) (stop : Stop) :
    Option (List UInt8) → Except Stop Reading
  | none => r.finish stop
  | some value => .error (.usage (.unexpectedValue shown (Text.decodeLossy value)))

/-- An option for `a`, with its `value` if that is attached by `=`. -/
def option (r : Reading) (a : Argument) (value : Option (List UInt8)) : Except Stop Reading :=
  let read : Except UsageError Reading := do
    let r ← r.settle
    match value with
    | some v => r.store a v
    | none => return { r with pending := some (.awaiting a) }
  read.mapError .usage

/-- An argument `--name`, or `--name=value`. -/
def long (r : Reading) (name : List UInt8) (value : Option (List UInt8)) :
    Except Stop Reading :=
  if name = Text.bytes "help" then r.flag "--help" .help value
  else if name = Text.bytes "version" then r.flag "--version" .version value
  else if name = Text.bytes "rules" then r.option .rules value
  else if name = Text.bytes "format" then r.option .format value
  else .error (.usage (.unexpectedArgument ("--" ++ Text.decodeLossy name)))

/-- An argument `-flags`; its first letter decides, since `-h` and `-V` both end the reading. -/
def short (r : Reading) (flags : List UInt8) : Except Stop Reading :=
  match Text.chunks flags with
  | .char 'h' :: _ => r.finish .help
  | .char 'V' :: _ => r.finish .version
  | .char c :: _ => .error (.usage (.unexpectedArgument (String.ofList ['-', c])))
  | _ => .error (.usage (.unexpectedArgument ("-" ++ Text.decodeLossy flags)))

/-- The path is stored in `r`, or `pending`. -/
def hasPath (r : Reading) : Bool :=
  r.path.isSome ||
    match r.pending with
    | some (.holding .path _) => true
    | _ => false

/-- The path `value`; there may be only one path. -/
def positional (r : Reading) (value : List UInt8) : Except Stop Reading :=
  if r.hasPath then .error (.usage (.unexpectedArgument (Text.decodeLossy value)))
  else
    match r.settle with
    | .ok r => .ok { r with pending := some (.holding .path value) }
    | .error e => .error (.usage e)

/-- An argument without hyphens: the value that is `awaiting`, or the path. -/
def plain (r : Reading) (value : List UInt8) : Except Stop Reading :=
  match r.pending with
  | some (.awaiting a) => .ok { r with pending := some (.holding a value) }
  | _ => r.positional value

/-- Reads the arguments behind `r` up to one that ends the reading; behind `--` all are paths. -/
def readAll (r : Reading) : List (List UInt8) → Except Stop Reading
  | [] => r.settle.mapError .usage
  | arg :: rest =>
    match Word.ofBytes arg with
    | .escape => do
      let r ← rest.foldlM positional r
      r.settle.mapError .usage
    | .long name value => do (← r.long name value).readAll rest
    | .short flags => do (← r.short flags).readAll rest
    | .plain value => do (← r.plain value).readAll rest

end Reading

namespace Options

/-- The source file that is inspected when `PATH` is absent. -/
def defaultPath : String := "crates/mediagit-storage/src/s3.rs"

/-- The options of a `Reading`, with the defaults for what is absent from it. -/
def ofReading (r : Reading) : Options where
  path := r.path.getD (.ofString defaultPath)
  rules := r.rules
  format := r.format.getD .text

/-- The options that `args` give. -/
def read (args : List (List UInt8)) : Except Stop Options :=
  match Reading.start.readAll args with
  | .ok r => .ok (ofReading r)
  | .error stop => .error stop

end Options

end LineLandmarks.CommandLine
