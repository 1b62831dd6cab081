import LineLandmarks.Text.Printable
import LineLandmarks.Text.Utf8

/-!
# Texts in messages

Texts between double quotes for messages and log lines. A backslash stands before the quote and
itself; the tab, the line ends and the null character have a letter; other characters that do not
show by themselves are given by their code point in braces.

From a message everything is left out that would drive a terminal: control characters other than
white space, and escape sequences.
-/

namespace LineLandmarks.Text

/-! ## Quoted texts -/

/-- The code point of `c` in lower-case hexadecimal between braces, behind `\u`. -/
def codePoint (c : Char) : List Char :=
  '\\' :: 'u' :: '\x7b' :: Nat.toDigits 16 c.toNat ++ ['\x7d']

/-- The character `c` as it stands between double quotes. -/
def quotedChar (c : Char) : List Char :=
  match c with
  | '\x00' => ['\\', '0']
  | '\t' => ['\\', 't']
  | '\r' => ['\\', 'r']
  | '\n' => ['\\', 'n']
  | '\\' => ['\\', '\\']
  | '"' => ['\\', '"']
  | c => if isExtending c || !isPrintable c then codePoint c else [c]

/-- The text `s` between double quotes. -/
def quoted (s : String) : String :=
  String.ofList ('"' :: s.toList.flatMap quotedChar ++ ['"'])

/-- The byte `b` in upper-case hexadecimal, behind `\x`. -/
def quotedByte (b : UInt8) : List Char :=
  let digit (n : Nat) : Char := (Nat.digitChar n).toUpper
  ['\\', 'x', digit (b.toNat / 16), digit (b.toNat % 16)]

/-- A `Chunk` of a name as it stands between double quotes; here the single quote is escaped too. -/
def quotedChunk : Chunk → List Char
  | .char '\'' => ['\\', '\'']
  | .char c => quotedChar c
  | .illFormed bytes => bytes.flatMap quotedByte

/-- The bytes `name`, which need not be UTF-8, between double quotes. -/
def quotedName (name : List UInt8) : String :=
  String.ofList ('"' :: (chunks name).flatMap quotedChunk ++ ['"'])

/-! ## Plain text -/

/-- Where a reader of a text stands: in plain text, behind the escape character, inside a control
sequence, which ends at its first letter or sign from `@` on, or inside a control string. -/
inductive TerminalState where
  | plain
  | escape
  | sequence
  | controlString
  deriving DecidableEq, Repr

namespace TerminalState

/-- The control character with the code `n` is white space. -/
def isLayout (n : Nat) : Bool :=
  n == 0x09 || n == 0x0A || n == 0x0C || n == 0x0D

/-- The state after a character with the code `n` that cancels or starts an escape sequence in every
state. -/
def anywhere? (n : Nat) : Option TerminalState :=
  if n = 0x1B then some escape
  else if n = 0x18 ∨ n = 0x1A then some plain
  else none

/-- The state after `c`, and whether `c` is plain. -/
def step (state : TerminalState) (c : Char) : TerminalState × Bool :=
  let n := c.toNat
  match anywhere? n with
  | some next => (next, false)
  | none =>
    match state with
    | plain => (plain, isLayout n || (0x20 ≤ n && n != 0x7F))
    | escape =>
      if isLayout n then (plain, true)
      else if c = '[' then (sequence, false)
      else if c = ']' ∨ c = 'P' ∨ c = 'X' ∨ c = '^' ∨ c = '_' then (controlString, false)
      else if 0x30 ≤ n ∧ n ≤ 0x7E then (plain, false)
      else (escape, false)
    | sequence =>
      if isLayout n then (plain, true)
      else if 0x40 ≤ n ∧ n ≤ 0x7E then (plain, false)
      else (sequence, false)
    | controlString => (if n = 0x07 then plain else controlString, false)

/-- The plain characters of a text that is read from `state` on. -/
def plainChars (state : TerminalState) : List Char → List Char
  | [] => []
  | c :: rest =>
    match state.step c with
    | (next, true) => c :: plainChars next rest
    | (next, false) => plainChars next rest

end TerminalState

/-- The text `s` without control characters and escape sequences. -/
def plain (s : String) : String :=
  String.ofList (TerminalState.plain.plainChars s.toList)

end LineLandmarks.Text
