import LineLandmarks.Text.Hex
import LineLandmarks.Toml.Layout

/-!
# Strings of TOML

Basic strings with escapes and literal strings without, each on one line or on several. A reader
takes the characters behind the opening quotes and gives the content and the characters behind the
closing ones.
-/

namespace LineLandmarks.Toml

open Text (hexDigits? scalar? length_hexDigits?_le)

/-- The character that an escape stands for, read behind its backslash. -/
def escape? : List Char → Option (Char × List Char)
  | 'b' :: rest => some ('\x08', rest)
  | 't' :: rest => some ('\t', rest)
  | 'n' :: rest => some ('\n', rest)
  | 'f' :: rest => some ('\x0c', rest)
  | 'r' :: rest => some ('\r', rest)
  | '"' :: rest => some ('"', rest)
  | '\\' :: rest => some ('\\', rest)
  | 'u' :: rest => do
    let (n, rest) ← hexDigits? 0 4 rest
    return (← scalar? n, rest)
  | 'U' :: rest => do
    let (n, rest) ← hexDigits? 0 8 rest
    return (← scalar? n, rest)
  | _ => none

/-- The character `c` stands for itself in a string: no control character but the tab. -/
def isPlain (c : Char) : Bool :=
  isCommentChar c

theorem length_escape?_lt {c : Char} {s rest : List Char} (h : escape? s = some (c, rest)) :
    rest.length < s.length := by
  unfold escape? at h
  split at h
  all_goals first
    | simp only [Option.some.injEq, Prod.mk.injEq] at h
      obtain ⟨_, rfl⟩ := h
      simp
    | skip
  · simp only [bind, Option.bind_eq_some_iff, pure, Option.some.injEq, Prod.mk.injEq] at h
    obtain ⟨⟨n, r⟩, h, _, _, _, rfl⟩ := h
    have := length_hexDigits?_le h
    simp only [List.length_cons]
    omega
  · simp only [bind, Option.bind_eq_some_iff, pure, Option.some.injEq, Prod.mk.injEq] at h
    obtain ⟨⟨n, r⟩, h, _, _, _, rfl⟩ := h
    have := length_hexDigits?_le h
    simp only [List.length_cons]
    omega
  · simp at h

/-- Puts `c` before the content that was read. -/
def consContent (c : Char) (r : List Char × List Char) : List Char × List Char :=
  (c :: r.1, r.2)

/-- The rest of a basic string on one line, read behind its opening quote. -/
def basic? (s : List Char) : Option (List Char × List Char) :=
  match s with
  | [] => none
  | '"' :: rest => some ([], rest)
  | '\\' :: rest =>
    match _h : escape? rest with
    | some (c, after) => (basic? after).map (consContent c)
    | none => none
  | c :: rest => if isPlain c then (basic? rest).map (consContent c) else none
termination_by s.length
decreasing_by
  · have := length_escape?_lt _h
    simp only [List.length_cons]
    omega
  · simp

/-- The rest of a literal string on one line, read behind its opening quote. -/
def literal? : List Char → Option (List Char × List Char)
  | [] => none
  | '\'' :: rest => some ([], rest)
  | c :: rest => if isPlain c then (literal? rest).map (consContent c) else none

/-- The rest of a string on several lines from a run of its quotes on: up to two quotes before the
closing three belong to the content, fewer than three quotes are content altogether. -/
def closing? (quote : Char) (s : List Char) : Option (List Char × List Char) :=
  let count := (s.takeWhile (· == quote)).length
  if count < 3 then none
  else
    let content := min (count - 3) 2
    some (List.replicate content quote, s.drop (content + 3))

/-- The characters behind a backslash at the end of a line: what remains of `s` after all blanks and
line feeds, if nothing else is left on the line. -/
def lineJoin? (s : List Char) : Option (List Char) :=
  (newline? (skipBlanks s)).map skipBlankLines
where
  /-- The characters after blanks and line feeds. -/
  skipBlankLines : List Char → List Char
    | [] => []
    | '\r' :: '\n' :: rest => skipBlankLines rest
    | c :: rest => if isBlank c || c == '\n' then skipBlankLines rest else c :: rest

theorem length_skipBlankLines_le (s : List Char) :
    (lineJoin?.skipBlankLines s).length ≤ s.length := by
  fun_induction lineJoin?.skipBlankLines s with
  | case1 => exact Nat.le_refl _
  | case2 rest ih => exact Nat.le_succ_of_le (Nat.le_succ_of_le ih)
  | case3 c rest _ _ ih => exact Nat.le_succ_of_le ih
  | case4 => exact Nat.le_refl _

theorem length_lineJoin?_le {s rest : List Char} (h : lineJoin? s = some rest) :
    rest.length ≤ s.length := by
  simp only [lineJoin?, Option.map_eq_some_iff] at h
  obtain ⟨t, ht, rfl⟩ := h
  have h₁ := length_newline?_lt ht
  have h₂ := length_skipBlankLines_le t
  have h₃ := length_dropWhile_le isBlank s
  simp only [skipBlanks] at h₁
  omega

/-- The rest of a basic string on several lines. -/
def basicLines? (s : List Char) : Option (List Char × List Char) :=
  match closing? '"' s with
  | some closed => some closed
  | none =>
    match s with
    | [] => none
    | '\\' :: rest =>
      match _h : lineJoin? rest with
      | some after => basicLines? after
      | none =>
        match _h : escape? rest with
        | some (c, after) => (basicLines? after).map (consContent c)
        | none => none
    | '\n' :: rest => (basicLines? rest).map (consContent '\n')
    | '\r' :: '\n' :: rest => (basicLines? rest).map (consContent '\n')
    | c :: rest => if isPlain c then (basicLines? rest).map (consContent c) else none
termination_by s.length
decreasing_by
  · have := length_lineJoin?_le _h
    simp only [List.length_cons]
    omega
  · have := length_escape?_lt _h
    simp only [List.length_cons]
    omega
  all_goals simp only [List.length_cons]; omega

/-- The rest of a literal string on several lines. -/
def literalLines? (s : List Char) : Option (List Char × List Char) :=
  match closing? '\'' s with
  | some closed => some closed
  | none =>
    match s with
    | [] => none
    | '\n' :: rest => (literalLines? rest).map (consContent '\n')
    | '\r' :: '\n' :: rest => (literalLines? rest).map (consContent '\n')
    | c :: rest => if isPlain c then (literalLines? rest).map (consContent c) else none
termination_by s.length

/-- The characters after a line feed that directly follows the opening quotes. -/
def skipFirstNewline (s : List Char) : List Char :=
  (newline? s).getD s

/-- A string of any of the four forms. -/
def text? : List Char → Option (String × List Char)
  | '"' :: '"' :: '"' :: rest => (basicLines? (skipFirstNewline rest)).map asText
  | '"' :: rest => (basic? rest).map asText
  | '\'' :: '\'' :: '\'' :: rest => (literalLines? (skipFirstNewline rest)).map asText
  | '\'' :: rest => (literal? rest).map asText
  | _ => none
where
  /-- The content as a text. -/
  asText (r : List Char × List Char) : String × List Char := (String.ofList r.1, r.2)

end LineLandmarks.Toml
