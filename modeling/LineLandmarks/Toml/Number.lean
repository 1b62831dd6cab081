import LineLandmarks.Toml.Value

/-!
# Numbers of TOML

Integers in four bases and decimal fractions. Digits may be grouped by single underscores between
them. An integer has to fit 64 bits with a sign; a float is rounded to binary64 and must not round
to positive infinity.
-/

namespace LineLandmarks.Toml

open Decimal (Binary64)

/-- Digits behind a digit, each perhaps behind `_`, and what remains. -/
def moreDigits (isDigit : Char → Bool) : List Char → List Char × List Char
  | '_' :: c :: rest =>
    if isDigit c then
      let (ds, rest) := moreDigits isDigit rest
      (c :: ds, rest)
    else ([], '_' :: c :: rest)
  | c :: rest =>
    if isDigit c then
      let (ds, rest) := moreDigits isDigit rest
      (c :: ds, rest)
    else ([], c :: rest)
  | [] => ([], [])

/-- At least one digit, with `_` between digits left out. -/
def digitRun? (isDigit : Char → Bool) : List Char → Option (List Char × List Char)
  | c :: rest =>
    if isDigit c then
      let (ds, rest) := moreDigits isDigit rest
      some (c :: ds, rest)
    else none
  | [] => none

/-- A sign, which may be absent: whether it is `-`, and what remains. -/
def sign : List Char → Bool × List Char
  | '+' :: rest => (false, rest)
  | '-' :: rest => (true, rest)
  | s => (false, s)

/-- The digits of a decimal integer: `0` alone, or digits that do not start with it. -/
def wholeDigits? : List Char → Option (List Char × List Char)
  | '0' :: rest => some (['0'], rest)
  | s => digitRun? Char.isDigit s

/-- The value of `c` as a digit in any base up to sixteen. -/
def digitValue (c : Char) : Nat :=
  if c.isDigit then c.toNat - 48 else c.toNat % 32 + 9

/-- The value of `digits` in a base. -/
def digitsValue (base : Nat) (digits : List Char) : Nat :=
  digits.foldl (fun n c => n * base + digitValue c) 0

/-- The character `c` is a hexadecimal digit, in either case. -/
def isHexDigit (c : Char) : Bool :=
  c.isDigit || ('a' ≤ c && c ≤ 'f') || ('A' ≤ c && c ≤ 'F')

/-- The character `c` is an octal digit. -/
def isOctalDigit (c : Char) : Bool := '0' ≤ c && c ≤ '7'

/-- The character `c` is a binary digit. -/
def isBinaryDigit (c : Char) : Bool := c == '0' || c == '1'

/-- The integer `n`, if it fits 64 bits with a sign. -/
def inRange? (n : Int) : Option Int :=
  if Int64.minValue.toInt ≤ n ∧ n ≤ Int64.maxValue.toInt then some n else none

/-- An integer in a base other than ten, read behind the letter of its base. -/
def based? (base : Nat) (isDigit : Char → Bool) (s : List Char) : Option (Int × List Char) := do
  let (ds, rest) ← digitRun? isDigit s
  return (← inRange? (digitsValue base ds), rest)

/-- An integer in decimal, or behind `0x`, `0o` or `0b`. -/
def integer? : List Char → Option (Int × List Char)
  | '0' :: 'x' :: rest => based? 16 isHexDigit rest
  | '0' :: 'o' :: rest => based? 8 isOctalDigit rest
  | '0' :: 'b' :: rest => based? 2 isBinaryDigit rest
  | s => do
    let (negative, s) := sign s
    let (ds, rest) ← wholeDigits? s
    let n : Int := digitsValue 10 ds
    return (← inRange? (if negative then -n else n), rest)

/-- The digits behind `.`, if that comes first. -/
def fractionDigits? : List Char → Option (List Char × List Char)
  | '.' :: rest => digitRun? Char.isDigit rest
  | _ => none

/-- The exponent behind `e` or `E`. -/
def exponent? : List Char → Option (Int × List Char)
  | c :: rest =>
    if c = 'e' ∨ c = 'E' then do
      let (negative, rest) := sign rest
      let (ds, rest) ← digitRun? Char.isDigit rest
      let n : Int := digitsValue 10 ds
      return (if negative then -n else n, rest)
    else none
  | [] => none

/-- The whole and fraction digits and the exponent of a decimal fraction `s`, which has a fraction,
an exponent or both. -/
def floatParts? (s : List Char) : Option ((List Char × List Char × Int) × List Char) := do
  let (whole, s) ← wholeDigits? s
  match fractionDigits? s with
  | some (fraction, s) =>
    match exponent? s with
    | some (e, s) => some ((whole, fraction, e), s)
    | none => some ((whole, fraction, 0), s)
  | none =>
    let (e, s) ← exponent? s
    some ((whole, [], e), s)

/-- A decimal fraction, `inf` or `nan`; a fraction that rounds to `inf` is refused, one that rounds
to `-inf` is not. -/
def float? (s : List Char) : Option (Binary64 × List Char) :=
  let (negative, s) := sign s
  match s with
  | 'i' :: 'n' :: 'f' :: rest => some (.infinite negative, rest)
  | 'n' :: 'a' :: 'n' :: rest => some (.nan, rest)
  | s => do
    let ((whole, fraction, e), rest) ← floatParts? s
    let x := Binary64.ofDecimal negative (digitsValue 10 (whole ++ fraction)) (e - fraction.length)
    if x = .infinite false then none else some (x, rest)

end LineLandmarks.Toml
