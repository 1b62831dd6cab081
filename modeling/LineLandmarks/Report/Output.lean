import LineLandmarks.Json.Printer
import LineLandmarks.Landmarks
import LineLandmarks.Sink

/-!
# Reports

The text report has one row for each landmark; when the put line and the exists line are both known,
there follow an empty row, a heading and a row for each line of the excerpt. The JSON report is one
object with the path, the three landmarks and the excerpt, followed by a line feed. Both are written
piece by piece to a sink, up to the first piece that does not fit.
-/

namespace LineLandmarks.Report

/-! ## Text -/

/-- A line number in decimal, or `none`. -/
def indexText : Option Nat → String
  | some i => toString i
  | none => "none"

/-- The three rows on the landmarks `marks`. -/
def landmarkRows (marks : Landmarks) : List String :=
  [ "put method starts at line " ++ indexText marks.putStart,
    "exists method starts at line " ++ indexText marks.existsStart,
    "list_objects_end around line " ++ indexText marks.blockEnd ]

/-- The heading of the excerpt between the lines `putStart` and `existsStart`. -/
def headingRow (putStart existsStart : Nat) : String :=
  "Lines between put and exists (" ++ toString putStart ++ " to " ++ toString existsStart ++ "):"

/-- The row of a `line` of the excerpt, behind its number. -/
def excerptRow (line : ExcerptLine) : String :=
  toString line.index ++ ": " ++ line.text

/-- The rows on the excerpt of `f`, with the empty row and the `headingRow` before them. -/
def excerptRows (f : Inspection) : List String :=
  match f.landmarks.putStart, f.landmarks.existsStart with
  | some putStart, some existsStart =>
    "" :: headingRow putStart existsStart :: f.excerpt.map excerptRow
  | _, _ => []

/-- The rows of the report on `f`, without their line feeds. -/
def textRows (f : Inspection) : List String :=
  landmarkRows f.landmarks ++ excerptRows f

/-- The `textRows` with their line feeds, in the order they are written. -/
def textPieces (f : Inspection) : List String :=
  (textRows f).map (· ++ "\n")

/-! ## JSON -/

/-- A `line` of the excerpt as an object. -/
def excerptJson (line : ExcerptLine) : Json :=
  .object [("index", .ofNat line.index), ("text", .string line.text)]

/-- The report on `f` as an object, with `path` as its first member. -/
def json (path : String) (f : Inspection) : Json :=
  .object
    [ ("path", .string path),
      ("put_start", .ofNat? f.landmarks.putStart),
      ("exists_start", .ofNat? f.landmarks.existsStart),
      ("block_end", .ofNat? f.landmarks.blockEnd),
      ("excerpt", .array (f.excerpt.map excerptJson)) ]

/-- The pieces of `json path f` in the order they are written, and a line feed. -/
def jsonPieces (path : String) (f : Inspection) : List String :=
  (json path f).pretty ++ ["\n"]

/-! ## Writing -/

variable {ε : Type}

/-- Writes the `textPieces` to the sink `s`. -/
def writeText (f : Inspection) (s : Sink ε) : Except ε Unit × Sink ε :=
  s.writeAll (textPieces f)

/-- Writes the `jsonPieces` to the sink `s`. -/
def writeJson (path : String) (f : Inspection) (s : Sink ε) : Except ε Unit × Sink ε :=
  s.writeAll (jsonPieces path f)

end LineLandmarks.Report
