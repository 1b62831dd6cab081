import LineLandmarks.Rules
import LineLandmarks.Text.Utf8

/-!
# Signature matcher

Both signatures are looked for at once in the bytes of a line. An empty signature is no needle: it
is in every line, so the matcher only remembers which signature it was. The verdict on a line
depends on the set of occurrences and not on the order in which they are found.
-/

namespace LineLandmarks

/-- The `Signature` of a line says which of the two methods it announces. -/
inductive Signature where
  | putMethod
  | existsMethod
  deriving DecidableEq, Repr

/-- A text to look for, as `bytes`, and the `signature` it stands for. -/
structure Needle where
  signature : Signature
  bytes : List UInt8
  deriving DecidableEq, Repr

/-- One place where a needle is found: its number among the needles and the place `stop` behind its
last byte. -/
structure Occurrence where
  needle : Nat
  stop : Nat
  deriving DecidableEq, Repr

/-- The `needles` in the order of their numbers, and the signature that every line has, if any. -/
structure Matcher where
  needles : List Needle
  everywhere : Option Signature
  deriving DecidableEq, Repr

namespace Matcher

/-- Adds `text` as a needle for `signature`; of several empty texts the first counts. -/
def add (m : Matcher) (signature : Signature) (text : String) : Matcher :=
  if text.isEmpty then { m with everywhere := m.everywhere <|> some signature }
  else { m with needles := m.needles ++ [⟨signature, Text.bytes text⟩] }

/-- The matcher for the two signatures of the rules `r`. -/
def ofRules (r : Rules) : Matcher :=
  (Matcher.add ⟨[], none⟩ .putMethod r.putSignature).add .existsMethod r.existsSignature

/-- The signature of the needle with the number `needle`. -/
def signature? (m : Matcher) (needle : Nat) : Option Signature :=
  (m.needles[needle]?).map Needle.signature

/-- The occurrences of `needles` that start at `place`, with the bytes `ahead`. -/
def startingAt (needles : List (Needle × Nat)) (place : Nat) (ahead : List UInt8) :
    List Occurrence :=
  needles.filterMap fun (n, i) =>
    if n.bytes.isPrefixOf ahead then some ⟨i, place + n.bytes.length⟩ else none

/-- The occurrences of `needles` in the bytes ahead of `place`. -/
def occurrencesFrom (needles : List (Needle × Nat)) (place : Nat) :
    List UInt8 → List Occurrence
  | [] => []
  | b :: rest =>
    startingAt needles place (b :: rest) ++ occurrencesFrom needles (place + 1) rest

/-- All occurrences of all needles in `line`, overlapping ones included. -/
def occurrences (m : Matcher) (line : List UInt8) : List Occurrence :=
  occurrencesFrom m.needles.zipIdx 0 line

/-- The verdict on some occurrences: a put signature settles it, an exists signature is kept as
`best` until one comes. -/
def pick (m : Matcher) (best : Option Signature) : List Occurrence → Option Signature
  | [] => best
  | o :: rest =>
    match m.signature? o.needle with
    | some .putMethod => some .putMethod
    | some .existsMethod => m.pick (some .existsMethod) rest
    | none => m.pick best rest

/-- The verdict on all that was `found` in a line; the put method comes before the exists method,
and an empty put signature is in every line. -/
def verdict (m : Matcher) (found : List Occurrence) : Option Signature :=
  if m.everywhere = some .putMethod then some .putMethod
  else m.pick m.everywhere found

/-- The signature that `line` announces: the `verdict` on all its occurrences. -/
def classify (m : Matcher) (line : String) : Option Signature :=
  m.verdict (m.occurrences (Text.bytes line))

end Matcher

end LineLandmarks
