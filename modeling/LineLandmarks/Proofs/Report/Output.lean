import Mathlib.Data.Nat.Notation
import Mathlib.Tactic.Lemma
import LineLandmarks.Report.Output
import LineLandmarks.Sink

/-!
# Writing piece by piece

It does not matter how a text is cut into pieces: writing them in order up to the first failure
leaves a sink as writing the whole text at once does, and fails with it (`writeAll_eq`). So a sink
with room for some bytes receives that many first bytes of the text and no others, wherever the room
ends (`fillsUp_writeAll`).

Both reports are written so: what a sink holds in the end is a first part of the whole report, and
the failure that is handed on is the sink's own (`writes_fillUp`).
-/

namespace LineLandmarks

namespace Sink

variable {ε : Type} {s s' : Sink ε} {bytes : ByteArray} {room : ℕ}

/-- A sink whose `room` is `none` takes all bytes. -/
lemma write_of_none (hroom : s.room = none) :
    s.write bytes = (.ok (), { s with held := s.held ++ bytes }) := by
  rw [write, hroom]

/-- A `write` that fits takes all bytes and leaves less room. -/
lemma write_of_le (hroom : s.room = some room) (h : bytes.size ≤ room) :
    s.write bytes
      = (.ok (), { s with room := some (room - bytes.size), held := s.held ++ bytes }) := by
  rw [write, hroom]
  exact if_pos h

/-- A `write` that does not fit fills the room that is left and fails. -/
lemma write_of_lt (hroom : s.room = some room) (h : room < bytes.size) :
    s.write bytes
      = (.error s.failure, { s with room := some 0, held := s.held ++ bytes.extract 0 room }) := by
  rw [write, hroom]
  exact if_neg (Nat.not_le.mpr h)

/-- A `write` that succeeds has written all bytes. -/
lemma held_of_write_eq_ok (h : s.write bytes = (.ok (), s')) : s'.held = s.held ++ bytes := by
  cases hroom : s.room with
  | none =>
    rw [write_of_none hroom] at h
    rw [← (Prod.mk.inj h).2]
  | some room =>
    by_cases hfits : bytes.size ≤ room
    · rw [write_of_le hroom hfits] at h
      rw [← (Prod.mk.inj h).2]
    · rw [write_of_lt hroom (Nat.not_le.mp hfits)] at h
      exact nomatch (Prod.mk.inj h).1

private lemma write_empty (s : Sink ε) : s.write ByteArray.empty = (.ok (), s) := by
  obtain ⟨room, failure, held⟩ := s
  cases room with
  | none => rw [write_of_none rfl, ByteArray.append_empty]
  | some room =>
    rw [write_of_le rfl (Nat.zero_le room), ByteArray.append_empty, ByteArray.size_empty,
      Nat.sub_zero]

private lemma extract_zero_of_size_le {b : ByteArray} {n : ℕ} (h : b.size ≤ n) :
    b.extract 0 n = b := by
  have := ByteArray.extract_zero_max_size (a := b) (i := n)
  rw [Nat.max_eq_left h] at this
  exact this

/-- The texts `a` and `b` in a row are written as `a` and then, if it fits, `b`. -/
lemma write_append (s : Sink ε) (a b : ByteArray) :
    s.write (a ++ b) =
      match s.write a with
      | (.ok _, s) => s.write b
      | (.error e, s) => (.error e, s) := by
  obtain ⟨room, failure, held⟩ := s
  have hsize : (a ++ b).size = a.size + b.size := ByteArray.size_append
  cases room with
  | none =>
    rw [write_of_none rfl, write_of_none rfl]
    simp only [write_of_none, ByteArray.append_assoc]
  | some room =>
    by_cases ha : a.size ≤ room
    · rw [write_of_le rfl ha]
      by_cases hb : b.size ≤ room - a.size
      · rw [write_of_le rfl (by omega), hsize]
        show _ = Sink.write ⟨some (room - a.size), failure, held ++ a⟩ b
        rw [write_of_le rfl hb, Nat.sub_sub, ByteArray.append_assoc]
      · -- the room ends inside the second text
        have hextract : (a ++ b).extract 0 room = a ++ b.extract 0 (room - a.size) := by
          rw [ByteArray.extract_append, extract_zero_of_size_le ha, Nat.zero_sub]
        rw [write_of_lt rfl (by omega), hextract]
        show _ = Sink.write ⟨some (room - a.size), failure, held ++ a⟩ b
        rw [write_of_lt rfl (Nat.not_le.mp hb), ByteArray.append_assoc]
    · -- the room ends inside the first text
      have hextract : (a ++ b).extract 0 room = a.extract 0 room := by
        rw [ByteArray.extract_append, Nat.sub_eq_zero_of_le (by omega : room ≤ a.size),
          Nat.zero_sub, ByteArray.extract_same, ByteArray.append_empty]
      rw [write_of_lt rfl (by omega), write_of_lt rfl (by omega), hextract]

/-- The `pieces` are written as the text they make up. -/
theorem writeAll_eq (s : Sink ε) (pieces : List String) :
    s.writeAll pieces = s.write (String.join pieces).toUTF8 := by
  induction pieces generalizing s with
  | nil => exact (write_empty s).symm
  | cons piece rest ih =>
    have hbytes : (String.join (piece :: rest)).toUTF8
        = piece.toUTF8 ++ (String.join rest).toUTF8 := by
      rw [String.join_cons]
      exact String.toByteArray_append
    rw [writeAll, hbytes, write_append]
    cases s.write piece.toUTF8 with
    | mk result s =>
      cases result with
      | ok u => exact ih s
      | error e => rfl

/-! ## Sinks with room for some bytes -/

/-- A writer that leaves `report` in a sink without bound, fills a sink with room for `n` bytes with
the first of them that fit, succeeds exactly if all fit, and otherwise fails as the sink does. -/
structure FillsUp (writer : Sink ε → Except ε Unit × Sink ε) (report : ByteArray) (n : ℕ)
    (failure : ε) : Prop where
  unbounded : writer (.unbounded failure) = (.ok (), { unbounded failure with held := report })
  held : (writer (.ofRoom n failure)).2.held = report.extract 0 (min n report.size)
  result : (writer (.ofRoom n failure)).1 = if report.size ≤ n then .ok () else .error failure

private lemma fillsUp_write (n : ℕ) (failure : ε) (bytes : ByteArray) :
    FillsUp (·.write bytes) bytes n failure := by
  have hunbounded : (unbounded failure).write bytes
      = (.ok (), { unbounded failure with held := bytes }) := by
    rw [write_of_none rfl]
    exact congrArg (fun held => (_, { unbounded failure with held := held }))
      ByteArray.empty_append
  by_cases hfits : bytes.size ≤ n
  · have hwrite := write_of_le (s := ofRoom n failure) rfl hfits
    refine ⟨hunbounded, ?_, ?_⟩
    · rw [hwrite, Nat.min_eq_right hfits, extract_zero_of_size_le (Nat.le_refl _)]
      exact ByteArray.empty_append
    · rw [hwrite, if_pos hfits]
  · have hlt := Nat.not_le.mp hfits
    have hwrite := write_of_lt (s := ofRoom n failure) rfl hlt
    refine ⟨hunbounded, ?_, ?_⟩
    · rw [hwrite, Nat.min_eq_left (Nat.le_of_lt hlt)]
      exact ByteArray.empty_append
    · rw [hwrite, if_neg hfits]
      rfl

/-- However a text is cut into `pieces`, `writeAll` fills up a sink with the text. -/
theorem fillsUp_writeAll (pieces : List String) (n : ℕ) (failure : ε) :
    FillsUp (·.writeAll pieces) (String.join pieces).toUTF8 n failure := by
  have h := fillsUp_write n failure (String.join pieces).toUTF8
  constructor
  · rw [writeAll_eq]
    exact h.unbounded
  · rw [writeAll_eq]
    exact h.held
  · rw [writeAll_eq]
    exact h.result

end Sink

/-! ## Reports in a sink that fills up -/

namespace Report

variable {ε : Type}

/-- The `textPieces` as one text. -/
def wholeText (f : Inspection) : String :=
  String.join (textPieces f)

/-- The `jsonPieces` as one text. -/
def wholeJson (path : String) (f : Inspection) : String :=
  String.join (jsonPieces path f)

/-- A sink with room for `n` bytes holds the first `min n L` bytes of a report of `L` bytes in the
end, which are the bytes that a sink without bound holds of it. Writing succeeds exactly if
`L ≤ n`, and fails with the sink's own failure otherwise. -/
theorem writes_fillUp (path : String) (f : Inspection) (n : ℕ) (failure : ε) :
    Sink.FillsUp (writeText f) (wholeText f).toUTF8 n failure
      ∧ Sink.FillsUp (writeJson path f) (wholeJson path f).toUTF8 n failure :=
  ⟨Sink.fillsUp_writeAll (textPieces f) n failure,
    Sink.fillsUp_writeAll (jsonPieces path f) n failure⟩

end Report

end LineLandmarks
