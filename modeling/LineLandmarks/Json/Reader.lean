import LineLandmarks.Json.Printer
import LineLandmarks.Text.Hex

/-!
# JSON reader

Reads a text of RFC 8259 as a value: any layout, any spelling of numbers and strings. Surrogates in
escapes must come in pairs. Numbers are read exactly.
-/

namespace LineLandmarks.Json

/-- White space between words: the blank, `\t`, `\n` and `\r`. -/
def isSpace (c : Char) : Bool :=
  c == ' ' || c == '\t' || c == '\n' || c == '\r'

/-- The characters of `s` after white space. -/
def skipSpace (s : List Char) : List Char :=
  s.dropWhile isSpace

/-! ## Strings -/

/-- A value `n` between the bounds of the first half of a surrogate pair. -/
def isHighSurrogate (n : Nat) : Bool := 0xD800 ≤ n && n ≤ 0xDBFF

/-- A value `n` between the bounds of the second half of a surrogate pair. -/
def isLowSurrogate (n : Nat) : Bool := 0xDC00 ≤ n && n ≤ 0xDFFF

/-- The character of an escape by value, read behind its `u`; a high surrogate needs a low one
behind it. -/
def unicodeEscape? (s : List Char) : Option (Char × List Char) :=
  match Text.hexDigits? 0 4 s with
  | none => none
  | some (n, rest) =>
    if isHighSurrogate n then
      match rest with
      | '\\' :: 'u' :: rest =>
        match Text.hexDigits? 0 4 rest with
        | some (m, rest) =>
          if isLowSurrogate m then
            (Text.scalar? (0x10000 + (n - 0xD800) * 0x400 + (m - 0xDC00))).map (·, rest)
          else none
        | none => none
      | _ => none
    else (Text.scalar? n).map (·, rest)

/-- The character of an escape, read behind its backslash. -/
def unescape? : List Char → Option (Char × List Char)
  | '"' :: rest => some ('"', rest)
  | '\\' :: rest => some ('\\', rest)
  | '/' :: rest => some ('/', rest)
  | 'b' :: rest => some ('\x08', rest)
  | 'f' :: rest => some ('\x0c', rest)
  | 'n' :: rest => some ('\n', rest)
  | 'r' :: rest => some ('\r', rest)
  | 't' :: rest => some ('\t', rest)
  | 'u' :: rest => unicodeEscape? rest
  | _ => none

theorem length_unicodeEscape?_le {c : Char} {s rest : List Char}
    (h : unicodeEscape? s = some (c, rest)) : rest.length ≤ s.length := by
  unfold unicodeEscape? at h
  split at h
  · cases h
  · rename_i n after hn
    have hafter := Text.length_hexDigits?_le hn
    split at h
    · split at h
      · rename_i below
        split at h
        · rename_i m last hm
          have hlast := Text.length_hexDigits?_le hm
          split at h
          · simp only [Option.map_eq_some_iff, Prod.mk.injEq] at h
            obtain ⟨_, _, _, rfl⟩ := h
            simp only [List.length_cons] at hafter
            omega
          · cases h
        · cases h
      · cases h
    · simp only [Option.map_eq_some_iff, Prod.mk.injEq] at h
      obtain ⟨_, _, _, rfl⟩ := h
      exact hafter

theorem length_unescape?_lt {c : Char} {s rest : List Char} (h : unescape? s = some (c, rest)) :
    rest.length < s.length := by
  unfold unescape? at h
  split at h
  case h_9 => exact Nat.lt_succ_of_le (length_unicodeEscape?_le h)
  case h_10 => cases h
  all_goals
    cases h
    exact Nat.lt_succ_self _

/-- The rest of a string behind its opening quote: its characters, and what remains of `s` behind
the closing quote. -/
def stringBody? (s : List Char) : Option (List Char × List Char) :=
  match s with
  | [] => none
  | '"' :: rest => some ([], rest)
  | '\\' :: rest =>
    match _h : unescape? rest with
    | some (c, after) => (stringBody? after).map fun (cs, rest) => (c :: cs, rest)
    | none => none
  | c :: rest =>
    if c.toNat < 0x20 then none
    else (stringBody? rest).map fun (cs, rest) => (c :: cs, rest)
termination_by s.length
decreasing_by
  · have := length_unescape?_lt _h
    simp only [List.length_cons]
    omega
  · exact Nat.lt_succ_self _

/-- A string between quotes, and what remains. -/
def string? : List Char → Option (String × List Char)
  | '"' :: rest => (stringBody? rest).map fun (cs, rest) => (String.ofList cs, rest)
  | _ => none

/-! ## Numbers -/

/-- At least one decimal digit at the start of `s`, and what remains. -/
def digits? (s : List Char) : Option (List Char × List Char) :=
  match s.takeWhile Char.isDigit with
  | [] => none
  | ds => some (ds, s.dropWhile Char.isDigit)

/-- Whether there is a `-`, which may be absent, and what remains. -/
def minus : List Char → Bool × List Char
  | '-' :: rest => (true, rest)
  | s => (false, s)

/-- Whether there is a `-`; there may be a `+` or no sign as well. -/
def sign : List Char → Bool × List Char
  | '+' :: rest => (false, rest)
  | s => minus s

/-- The digits before the point: `0` alone, or digits that do not start with it. -/
def whole? : List Char → Option (List Char × List Char)
  | '0' :: rest => some (['0'], rest)
  | s => digits? s

/-- The digits behind the point, which may be absent with it. -/
def fraction? : List Char → Option (List Char × List Char)
  | '.' :: rest => digits? rest
  | s => some ([], s)

/-- The integer `-n` or `n`. -/
def signed (negative : Bool) (n : Nat) : Int :=
  if negative then -n else n

/-- The exponent behind `e` or `E`, zero if it is absent. -/
def exponent? : List Char → Option (Int × List Char)
  | c :: rest =>
    if c = 'e' ∨ c = 'E' then do
      let (negative, rest) := sign rest
      let (ds, rest) ← digits? rest
      return (signed negative (Nat.ofDigitChars 10 ds 0), rest)
    else some (0, c :: rest)
  | [] => some (0, [])

/-- The number at the start of `s`, and what remains. -/
def number? (s : List Char) : Option (Json × List Char) := do
  let (negative, s) := minus s
  let (ds, s) ← whole? s
  let (fs, s) ← fraction? s
  let (e, s) ← exponent? s
  return (.number (signed negative (Nat.ofDigitChars 10 (ds ++ fs) 0)) (e - fs.length), s)

/-! ## Values -/

/-- At most `bound` items of an array behind its bracket or a comma, each read by `item`. -/
def items? (item : List Char → Option (Json × List Char)) :
    (bound : Nat) → List Char → Option (List Json × List Char)
  | 0, _ => none
  | bound + 1, s =>
    match item s with
    | none => none
    | some (v, rest) =>
      match skipSpace rest with
      | ']' :: rest => some ([v], rest)
      | ',' :: rest => (items? item bound rest).map fun (vs, rest) => (v :: vs, rest)
      | _ => none

/-- One member of an object at the start of `s`, whose value is read by `item`. -/
def member? (item : List Char → Option (Json × List Char)) (s : List Char) :
    Option ((String × Json) × List Char) := do
  let (k, rest) ← string? (skipSpace s)
  match skipSpace rest with
  | ':' :: rest => do
    let (v, rest) ← item rest
    return ((k, v), rest)
  | _ => none

/-- At most `bound` members of an object behind its brace or a comma, whose values are read by
`item`. -/
def members? (item : List Char → Option (Json × List Char)) :
    (bound : Nat) → List Char → Option (List (String × Json) × List Char)
  | 0, _ => none
  | bound + 1, s =>
    match member? item s with
    | none => none
    | some (m, rest) =>
      match skipSpace rest with
      | '\x7d' :: rest => some ([m], rest)
      | ',' :: rest => (members? item bound rest).map fun (ms, rest) => (m :: ms, rest)
      | _ => none

/-- A value that contains no other, and what remains of `s`. -/
def simple? (s : List Char) : Option (Json × List Char) :=
  match s with
  | 'n' :: 'u' :: 'l' :: 'l' :: rest => some (null, rest)
  | 't' :: 'r' :: 'u' :: 'e' :: rest => some (bool true, rest)
  | 'f' :: 'a' :: 'l' :: 's' :: 'e' :: rest => some (bool false, rest)
  | '"' :: _ => (string? s).map fun (t, rest) => (string t, rest)
  | s => number? s

/-- A value nested at most `depth` deep, behind white space, in which nothing has more than `bound`
members. -/
def value? (bound : Nat) : (depth : Nat) → List Char → Option (Json × List Char)
  | 0, s => simple? (skipSpace s)
  | depth + 1, s =>
    match skipSpace s with
    | '[' :: rest =>
      match skipSpace rest with
      | ']' :: rest => some (array [], rest)
      | _ => (items? (value? bound depth) bound rest).map fun (vs, rest) => (array vs, rest)
    | '\x7b' :: rest =>
      match skipSpace rest with
      | '\x7d' :: rest => some (object [], rest)
      | _ => (members? (value? bound depth) bound rest).map fun (ms, rest) => (object ms, rest)
    | s => simple? s

/-- The value that is all of `text`, which has no room for deeper nesting or more members than it
has characters. -/
def read? (text : String) : Option Json :=
  match value? text.length text.length text.toList with
  | some (v, rest) => if (skipSpace rest).isEmpty then some v else none
  | none => none

end LineLandmarks.Json
