import LineLandmarks.CommandLine.Run

/-!
# The command

Reads the files a run needs, runs, and writes what the run leaves.
-/

namespace LineLandmarks.CommandLine

/-- The number of an error of the operating system; `code` may hold it with a minus sign. -/
def errorNumber (code : UInt32) : Nat :=
  if UInt32.size / 2 ≤ code.toNat then UInt32.size - code.toNat else code.toNat

/-- The cause with the number `code`, told in `words` if it is none of the causes with a name. -/
def causeOf (code : UInt32) (words : String) : AccessFailure :=
  match errorNumber code with
  | 2 => .notFound
  | 20 => .notADirectory
  | 21 => .isADirectory
  | 36 => .nameTooLong
  | n => .other n words

/-- The cause of a read of `p` that failed with `e`. -/
def accessFailure (p : Path) (e : IO.Error) : AccessFailure :=
  if p.bytes.contains 0 then .nullInName
  else
    match e with
    | .noFileOrDirectory _ code words => causeOf code words
    | .inappropriateType _ code words => causeOf code words
    | .invalidArgument _ code words => causeOf code words
    | .permissionDenied _ code words => causeOf code words
    | .otherError code words => causeOf code words
    | e => .other 0 e.toString

/-- Reads the file `p`. -/
def readFile (p : Path) : IO (Except AccessFailure ByteArray) := do
  try
    return .ok (← IO.FS.readBinFile p.display)
  catch e =>
    return .error (accessFailure p e)

/-- The names of the files that a run with the arguments `args` reads. -/
def neededFiles (args : List (List UInt8)) : List Path :=
  match Options.read args with
  | .ok o => o.rules.toList ++ [o.path]
  | .error _ => []

end LineLandmarks.CommandLine

open LineLandmarks CommandLine in
/-- Runs the command with the arguments `args`. -/
def main (args : List String) : IO UInt32 := do
  let args := args.map Text.bytes
  let contents ← (neededFiles args).mapM fun p => do return (p, ← readFile p)
  let files : Files := fun p => (contents.lookup p).getD (.error .notFound)
  let outcome := runWith (fun _ e => some e.message) files (← IO.getEnv "RUST_LOG") args
  for line in outcome.log do
    IO.eprintln line
  IO.print outcome.stdout
  if outcome.exitCode = 2 then IO.eprintln outcome.stderr else IO.eprint outcome.stderr
  return outcome.exitCode
