import LineLandmarks.Toml.Value

/-!
# Dates and times of TOML

Days of the calendar and times of day with fixed numbers of digits. A month has its own number of
days, and a time may be followed by its distance from universal time.
-/

namespace LineLandmarks.Toml

/-- The number that a fixed number of decimal digits continue `value` to, and what remains. -/
def digits? (value : Nat) : Nat → List Char → Option (Nat × List Char)
  | 0, s => some (value, s)
  | count + 1, c :: rest =>
    if c.isDigit then digits? (value * 10 + (c.toNat - 48)) count rest else none
  | _ + 1, [] => none

/-- Two digits of a number from `low` to `high`. -/
def pair? (low high : Nat) (s : List Char) : Option (Nat × List Char) := do
  let (n, rest) ← digits? 0 2 s
  if low ≤ n ∧ n ≤ high then some (n, rest) else none

/-- The characters after the character `c`. -/
def expect? (c : Char) : List Char → Option (List Char)
  | d :: rest => if d = c then some rest else none
  | [] => none

/-- The `year` has a 29th of February. -/
def isLeapYear (year : Nat) : Bool :=
  (year % 4 == 0 && year % 100 != 0) || year % 400 == 0

/-- How many days the `month` has in the `year`. -/
def daysInMonth (year month : Nat) : Nat :=
  if month = 2 then if isLeapYear year then 29 else 28
  else if month = 4 ∨ month = 6 ∨ month = 9 ∨ month = 11 then 30
  else 31

namespace Date

/-- Reads a date, `YYYY-MM-DD`. -/
def read? (s : List Char) : Option (Date × List Char) := do
  let (year, s) ← digits? 0 4 s
  let s ← expect? '-' s
  let (month, s) ← pair? 1 12 s
  let s ← expect? '-' s
  let (day, s) ← pair? 1 (daysInMonth year month) s
  return (⟨year, month, day⟩, s)

end Date

namespace Time

/-- The nanoseconds of the `digits` behind the point; digits from the tenth on do not count. -/
def nanoseconds (digits : List Char) : Nat :=
  let counted := digits.take 9
  Nat.ofDigitChars 10 counted 0 * Nat.pow 10 (9 - counted.length)

/-- The nanoseconds of a fraction of a second at the start of `s`, which may be absent, and what
remains. -/
def fraction (s : List Char) : Nat × List Char :=
  match s with
  | '.' :: rest =>
    match rest.takeWhile Char.isDigit with
    | [] => (0, s)
    | digits => (nanoseconds digits, rest.dropWhile Char.isDigit)
  | _ => (0, s)

/-- Reads a time of day, `hh:mm:ss` with an optional fraction. -/
def read? (s : List Char) : Option (Time × List Char) := do
  let (hour, s) ← pair? 0 23 s
  let s ← expect? ':' s
  let (minute, s) ← pair? 0 59 s
  let s ← expect? ':' s
  let (second, s) ← pair? 0 60 s
  let (nanosecond, s) := fraction s
  return (⟨hour, minute, second, nanosecond⟩, s)

end Time

namespace DateTime

/-- Reads a distance from universal time in minutes: `Z`, or a sign and `hh:mm`. -/
def offset? : List Char → Option (Int × List Char)
  | 'Z' :: rest => some (0, rest)
  | 'z' :: rest => some (0, rest)
  | c :: rest =>
    if c = '+' ∨ c = '-' then do
      let (hours, rest) ← pair? 0 23 rest
      let rest ← expect? ':' rest
      let (minutes, rest) ← pair? 0 59 rest
      let total : Int := hours * 60 + minutes
      return (if c = '-' then -total else total, rest)
    else none
  | [] => none

/-- Reads a time behind a date and the character that joins them, if both are there. -/
def joinedTime? : List Char → Option (Time × List Char)
  | c :: rest => if c = 'T' ∨ c = 't' ∨ c = ' ' then Time.read? rest else none
  | [] => none

/-- Reads a date, a time, or both, from the start of `s`. -/
def read? (s : List Char) : Option (DateTime × List Char) :=
  match Date.read? s with
  | some (d, s) =>
    match joinedTime? s with
    | some (t, s) =>
      match offset? s with
      | some (o, s) => some (both d t (some o), s)
      | none => some (both d t none, s)
    | none => some (date d, s)
  | none =>
    match Time.read? s with
    | some (t, s) => some (time t, s)
    | none => none

end DateTime

end LineLandmarks.Toml
