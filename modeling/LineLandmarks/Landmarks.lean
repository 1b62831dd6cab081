import LineLandmarks.Document
import LineLandmarks.Matcher

/-!
# Landmarks and excerpts

A scan reads a document once, applies to each line the first rule that holds of it, and keeps for
every landmark the last line it was found at. The excerpt is cut from the lines between the put line
and the exists line, if both are known.
-/

namespace LineLandmarks

/-- The line numbers of the three landmarks, `none` where there is no such line. -/
structure Landmarks where
  putStart : Option Nat
  existsStart : Option Nat
  blockEnd : Option Nat
  deriving DecidableEq, Repr, Inhabited

namespace Landmarks

/-- The `Landmarks` of which none is set. -/
def unset : Landmarks := ⟨none, none, none⟩

end Landmarks

/-- The `rules` together with the `matcher` made of their signatures. -/
structure Scanner where
  rules : Rules
  matcher : Matcher
  deriving DecidableEq, Repr

namespace Scanner

/-- The `Scanner` for the rules `r`. -/
def ofRules (r : Rules) : Scanner := ⟨r, .ofRules r⟩

/-- Sets the landmark that `line` is, if it is one, to its number `i`. -/
def mark (s : Scanner) (marks : Landmarks) (line : String) (i : Nat) : Landmarks :=
  match s.matcher.classify line with
  | some .putMethod => { marks with putStart := some i }
  | some .existsMethod => { marks with existsStart := some i }
  | none =>
    if s.rules.inBlockEndWindow i && Text.trim line == s.rules.blockEndLine then
      { marks with blockEnd := some i }
    else marks

/-- The landmarks of `d`, by `mark` on its lines from the first to the last. -/
def scan (s : Scanner) (d : Document) : Landmarks :=
  d.lines.zipIdx.foldl (fun marks (line, i) => s.mark marks line i) .unset

end Scanner

/-- The landmarks of `d` under the rules `r`. -/
def scan (r : Rules) (d : Document) : Landmarks :=
  (Scanner.ofRules r).scan d

/-- A `document` with its `landmarks` and the `rules` they were found by. -/
structure Inspection where
  document : Document
  landmarks : Landmarks
  rules : Rules
  deriving DecidableEq, Repr, Inhabited

namespace Inspection

/-- The inspection of `d` under the rules `r`. -/
def ofDocument (r : Rules) (d : Document) : Inspection :=
  ⟨d, scan r d, r⟩

end Inspection

/-! ## Excerpt -/

/-- A line of an excerpt: its `text`, with its number `index` in the document. -/
structure ExcerptLine where
  index : Nat
  text : String
  deriving DecidableEq, Repr, Inhabited

namespace Document

/-- The lines with numbers from `start` to before `stop` that `d` has. -/
def slice (d : Document) (start stop : Nat) : List ExcerptLine :=
  (((d.lines.drop start).take (stop - start)).zipIdx start).map fun (text, i) => ⟨i, text⟩

end Document

/-- The excerpt of `d` at the landmarks `marks`; there is none unless both methods are known. -/
def excerpt (d : Document) (marks : Landmarks) (r : Rules) : List ExcerptLine :=
  match marks.putStart, marks.existsStart with
  | some putStart, some existsStart =>
    let (start, stop) := r.excerpt.range putStart existsStart
    d.slice start stop
  | _, _ => []

namespace Inspection

/-- The excerpt of the document that `f` inspects. -/
def excerpt (f : Inspection) : List ExcerptLine :=
  LineLandmarks.excerpt f.document f.landmarks f.rules

end Inspection

end LineLandmarks
