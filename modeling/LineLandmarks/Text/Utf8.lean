/-!
# UTF-8

Texts as bytes and bytes as texts. `decode?` accepts exactly the well-formed encodings; `chunks`
reads any bytes, cutting out the ill-formed ones so that every byte is in exactly one chunk, and
`decodeLossy` puts one replacement character for each ill-formed chunk.
-/

namespace LineLandmarks.Text

/-- The UTF-8 encoding of `s`. -/
def bytes (s : String) : List UInt8 :=
  s.toUTF8.data.toList

/-- The text whose `bytes` are `b`, if these are well-formed. -/
def decode? (b : ByteArray) : Option String :=
  String.fromUTF8? b

/-- A piece of a byte sequence: one character, or bytes that belong to none, by `illFormed`. -/
inductive Chunk where
  | char (c : Char)
  | illFormed (bytes : List UInt8)
  deriving DecidableEq, Repr

/-- What a first byte announces: its part of the scalar value, the range of the second byte and the
number of bytes after the second. -/
structure Lead where
  bits : Nat
  low : Nat
  high : Nat
  more : Nat
  deriving DecidableEq, Repr

namespace Lead

/-- What `b` announces as the first byte of two to four; the ranges of the second byte rule out
overlong forms, surrogates and values above U+10FFFF. -/
def ofByte? (b : UInt8) : Option Lead :=
  let n := b.toNat
  if 0xC2 ≤ n ∧ n ≤ 0xDF then some ⟨n - 0xC0, 0x80, 0xBF, 0⟩
  else if n = 0xE0 then some ⟨0, 0xA0, 0xBF, 1⟩
  else if n = 0xED then some ⟨0xD, 0x80, 0x9F, 1⟩
  else if 0xE1 ≤ n ∧ n ≤ 0xEF then some ⟨n - 0xE0, 0x80, 0xBF, 1⟩
  else if n = 0xF0 then some ⟨0, 0x90, 0xBF, 2⟩
  else if 0xF1 ≤ n ∧ n ≤ 0xF3 then some ⟨n - 0xF0, 0x80, 0xBF, 2⟩
  else if n = 0xF4 then some ⟨4, 0x80, 0x8F, 2⟩
  else none

end Lead

/-- Reads continuation bytes, the first of them between `low` and `high`: the bytes taken and, if
none was missing or out of bounds, the value reached from `value` on. -/
def continuation (value low high : Nat) : Nat → List UInt8 → List UInt8 × Option Nat
  | more, b :: rest =>
    if low ≤ b.toNat ∧ b.toNat ≤ high then
      let value := value * 64 + (b.toNat - 0x80)
      match more with
      | 0 => ([b], some value)
      | more + 1 =>
        let (taken, last) := continuation value 0x80 0xBF more rest
        (b :: taken, last)
    else ([], none)
  | _, [] => ([], none)

/-- The first chunk of a sequence that starts with `b`, and how many bytes it has after that one. An
ill-formed chunk is as long as it could still have become a character. -/
def firstChunk (b : UInt8) (rest : List UInt8) : Chunk × Nat :=
  if b.toNat < 0x80 then (.char (Char.ofNat b.toNat), 0)
  else
    match Lead.ofByte? b with
    | none => (.illFormed [b], 0)
    | some lead =>
      match continuation lead.bits lead.low lead.high lead.more rest with
      | (taken, some value) => (.char (Char.ofNat value), taken.length)
      | (taken, none) => (.illFormed (b :: taken), taken.length)

/-- The chunks of a byte sequence; `skip` bytes belong to the chunk before. -/
def chunksFrom (skip : Nat) : List UInt8 → List Chunk
  | [] => []
  | b :: rest =>
    match skip with
    | skip + 1 => chunksFrom skip rest
    | 0 =>
      let (chunk, extra) := firstChunk b rest
      chunk :: chunksFrom extra rest

/-- The chunks of the byte sequence `b`, in order. -/
def chunks (b : List UInt8) : List Chunk :=
  chunksFrom 0 b

/-- The text of the byte sequence `b`, with U+FFFD for every `illFormed` chunk. -/
def decodeLossy (b : List UInt8) : String :=
  String.ofList ((chunks b).map fun
    | .char c => c
    | .illFormed _ => '\uFFFD')

end LineLandmarks.Text
