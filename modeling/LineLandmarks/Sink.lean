/-!
# Sinks

A sink holds bytes and may have a bound on them. What is written beyond the bound is lost, and the
write that went beyond it fails with the sink's own failure; a writer stops at the first failure.
A write that was only interrupted is begun again and is not a failure here.
-/

namespace LineLandmarks

/-- The bytes `held` so far, the `room` left, `none` without bound, and the `failure` of a write
that does not fit. -/
structure Sink (ε : Type) where
  room : Option Nat
  failure : ε
  held : ByteArray

namespace Sink

variable {ε : Type}

/-- An empty sink with room for `n` bytes. -/
def ofRoom (n : Nat) (failure : ε) : Sink ε := ⟨some n, failure, .empty⟩

/-- An empty sink without bound: its `room` is `none`. -/
def unbounded (failure : ε) : Sink ε := ⟨none, failure, .empty⟩

/-- Writes those of `bytes` that still fit. -/
def write (s : Sink ε) (bytes : ByteArray) : Except ε Unit × Sink ε :=
  match s.room with
  | none => (.ok (), { s with held := s.held ++ bytes })
  | some room =>
    if bytes.size ≤ room then
      (.ok (), { s with room := some (room - bytes.size), held := s.held ++ bytes })
    else
      (.error s.failure, { s with room := some 0, held := s.held ++ bytes.extract 0 room })

/-- Writes the pieces in order up to the first `failure`. -/
def writeAll (s : Sink ε) : List String → Except ε Unit × Sink ε
  | [] => (.ok (), s)
  | piece :: rest =>
    match s.write piece.toUTF8 with
    | (.ok _, s) => s.writeAll rest
    | (.error e, s) => (.error e, s)

end Sink

end LineLandmarks
