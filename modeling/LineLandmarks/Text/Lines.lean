/-!
# Lines

A line ends at a line feed, at a carriage return, or at the two together; `splitLines` reads a
text once from left to right and drops the terminators. A terminator at the very end leaves one
more, empty line. `trim` removes from both ends of a line the blanks, which are the 25 characters
with the Unicode property `White_Space`, and touches nothing between.
-/

namespace LineLandmarks.Text

/-- The three ways to end a line: `\n`, `\r` and `\r\n`. -/
inductive Terminator where
  | lf
  | crlf
  | cr
  deriving DecidableEq, Repr

namespace Terminator

/-- The characters a `Terminator` is written with. -/
def chars : Terminator → List Char
  | lf => ['\n']
  | crlf => ['\r', '\n']
  | cr => ['\r']

end Terminator

/-- The character `c` is one that no line contains. -/
def isBreak (c : Char) : Bool :=
  c == '\n' || c == '\r'

/-- Splits at terminators; `line` holds the characters of the unfinished line, the latest first. -/
def splitFrom (line : List Char) : List Char → List (List Char)
  | [] => [line.reverse]
  | '\r' :: '\n' :: rest => line.reverse :: splitFrom [] rest
  | c :: rest =>
    if isBreak c then line.reverse :: splitFrom [] rest else splitFrom (c :: line) rest

/-- The lines of `text`; even the empty text has one. -/
def splitLines (text : List Char) : List (List Char) :=
  splitFrom [] text

/-- The line `first`, then each further line behind its own terminator. -/
def joinLines (first : List Char) (rest : List (Terminator × List Char)) : List Char :=
  first ++ (rest.map fun r => r.1.chars ++ r.2).flatten

/-! ## Blanks -/

/-- The character `c` has the Unicode property `White_Space`. -/
def isBlank (c : Char) : Bool :=
  let n := c.toNat
  (0x09 ≤ n && n ≤ 0x0D) || n == 0x20 || n == 0x85 || n == 0xA0 || n == 0x1680
    || (0x2000 ≤ n && n ≤ 0x200A) || n == 0x2028 || n == 0x2029 || n == 0x202F
    || n == 0x205F || n == 0x3000

/-- The characters of `s` from the first that is no blank to the last that is none. -/
def trimChars (s : List Char) : List Char :=
  ((s.dropWhile isBlank).reverse.dropWhile isBlank).reverse

/-- The text `s` without its leading and trailing blanks. -/
def trim (s : String) : String :=
  String.ofList (trimChars s.toList)

end LineLandmarks.Text
