/-!
# JSON values and their printer

The values of RFC 8259. A number is kept exactly, as a mantissa and a power of ten; the members of
an object keep their order.

The printer has the indented layout: each item and member on a row of its own, two blanks for every
level, nothing between the brackets of an empty array or object. In a string the quote, the
backslash and the control characters up to U+001F are escaped, the five with a short escape by that
one, and all else stands for itself.
-/

namespace LineLandmarks

/-- A JSON value; `number m e` is `m * 10 ^ e`. -/
inductive Json where
  | null
  | bool (b : Bool)
  | number (mantissa : Int) (exponent : Int)
  | string (s : String)
  | array (items : List Json)
  | object (members : List (String × Json))
  deriving Repr, Inhabited

namespace Json

/-- The natural number `n`. -/
def ofNat (n : Nat) : Json := number n 0

/-- A natural number, or `null`. -/
def ofNat? : Option Nat → Json
  | some n => ofNat n
  | none => null

end Json

/-! ## Printer -/

namespace Json

/-- The last digit of `n` in hexadecimal, in lower case. -/
def hexDigit (n : Nat) : Char :=
  Nat.digitChar (n % 16)

/-- The character `c` as it stands in a string. -/
def escapeChar (c : Char) : List Char :=
  match c with
  | '"' => ['\\', '"']
  | '\\' => ['\\', '\\']
  | '\x08' => ['\\', 'b']
  | '\x0c' => ['\\', 'f']
  | '\n' => ['\\', 'n']
  | '\r' => ['\\', 'r']
  | '\t' => ['\\', 't']
  | c =>
    if c.toNat < 0x20 then ['\\', 'u', '0', '0', hexDigit (c.toNat / 16), hexDigit c.toNat]
    else [c]

/-- The string `s` with its quotes. -/
def quote (s : String) : String :=
  String.ofList ('"' :: s.toList.flatMap escapeChar ++ ['"'])

/-- The number `mantissa * 10 ^ exponent`; an exponent of zero is left out. -/
def numberText (mantissa exponent : Int) : String :=
  if exponent = 0 then toString mantissa
  else toString mantissa ++ "e" ++ toString exponent

/-- A line feed and two blanks for each `level`. -/
def newRow (level : Nat) : String :=
  String.ofList ('\n' :: List.replicate (2 * level) ' ')

mutual

/-- The pieces of a value that starts at `level`. -/
def pieces (level : Nat) : Json → List String
  | null => ["null"]
  | bool true => ["true"]
  | bool false => ["false"]
  | number m e => [numberText m e]
  | string s => [quote s]
  | array [] => ["[]"]
  | array (v :: rest) =>
    "[" :: newRow (level + 1) :: pieces (level + 1) v ++ itemPieces (level + 1) rest
      ++ [newRow level, "]"]
  | object [] => ["\x7b\x7d"]
  | object ((k, v) :: rest) =>
    "\x7b" :: newRow (level + 1) :: quote k :: ": " :: pieces (level + 1) v
      ++ memberPieces (level + 1) rest ++ [newRow level, "\x7d"]

/-- The pieces of the items of an array after the first, each behind a comma and a `newRow`. -/
def itemPieces (level : Nat) : List Json → List String
  | [] => []
  | v :: rest => "," :: newRow level :: pieces level v ++ itemPieces level rest

/-- The pieces of the members of an object after the first, each behind a comma and a `newRow`. -/
def memberPieces (level : Nat) : List (String × Json) → List String
  | [] => []
  | (k, v) :: rest =>
    "," :: newRow level :: quote k :: ": " :: pieces level v ++ memberPieces level rest

end

/-- The pieces of `v` in the order they are written. -/
def pretty (v : Json) : List String :=
  pieces 0 v

end Json

end LineLandmarks
