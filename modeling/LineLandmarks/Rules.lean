/-!
# Rules

What the landmarks are recognised by: two signatures, the text of the line that ends the block with
the open window of line numbers it must lie in, and the window of the excerpt. All bounds are
64-bit words; sums of them stop at the greatest word.
-/

namespace LineLandmarks

/-- The greatest line number a rule can name, `2 ^ 64 - 1`. -/
def maxIndex : Nat := UInt64.size - 1

/-- The sum `a + b` of line numbers, which stops at `maxIndex`. -/
def addCapped (a b : Nat) : Nat := min (a + b) maxIndex

/-- The excerpt starts `offset` lines after the put line and has at most `width` lines. -/
structure ExcerptWindow where
  offset : UInt64
  width : UInt64
  deriving DecidableEq, Repr, Inhabited

namespace ExcerptWindow

/-- Ten lines, from `offset` ten after the put line on. -/
def default : ExcerptWindow := ⟨10, 10⟩

/-- The first line number of the excerpt between `putStart` and `existsStart`, and the one after its
last. -/
def range (w : ExcerptWindow) (putStart existsStart : Nat) : Nat × Nat :=
  let start := addCapped putStart w.offset.toNat
  (start, min (addCapped start w.width.toNat) existsStart)

end ExcerptWindow

/-- The `Rules` say what the landmarks are recognised by. -/
structure Rules where
  putSignature : String
  existsSignature : String
  blockEndLine : String
  blockEndAfter : UInt64
  blockEndBefore : UInt64
  excerpt : ExcerptWindow
  deriving DecidableEq, Repr, Inhabited

namespace Rules

/-- The `Rules` that hold where a rule file says nothing. -/
def default : Rules where
  putSignature := "async fn put(&self, key: &str, data: &[u8])"
  existsSignature := "async fn exists(&self, key: &str)"
  blockEndLine := "\x7d"
  blockEndAfter := 700
  blockEndBefore := 720
  excerpt := .default

/-- The line number `i` lies strictly between `blockEndAfter` and `blockEndBefore`. -/
def inBlockEndWindow (r : Rules) (i : Nat) : Bool :=
  r.blockEndAfter.toNat < i && i < r.blockEndBefore.toNat

/-- No line number lies strictly between `blockEndAfter` and `blockEndBefore`. -/
def blockEndWindowIsEmpty (r : Rules) : Bool :=
  r.blockEndBefore.toNat ≤ addCapped r.blockEndAfter.toNat 1

end Rules

end LineLandmarks
