/-!
# Layout of TOML

Blanks, line feeds and comments: what stands between the words of a document. Every function takes
the characters ahead and gives those that remain.
-/

namespace LineLandmarks.Toml

/-- The character `c` is a blank: a space or a tab. -/
def isBlank (c : Char) : Bool :=
  c == ' ' || c == '\t'

/-- The character `c` may stand in a comment: all but the control characters other than the tab. -/
def isCommentChar (c : Char) : Bool :=
  c == '\t' || (0x20 ≤ c.toNat && c.toNat != 0x7F)

/-- The characters of `s` after the blanks. -/
def skipBlanks (s : List Char) : List Char :=
  s.dropWhile isBlank

/-- The characters after `\n` or `\r\n`. -/
def newline? : List Char → Option (List Char)
  | '\n' :: rest => some rest
  | '\r' :: '\n' :: rest => some rest
  | _ => none

/-- The characters after the end of a line, by `newline?`, or of the document. -/
def lineEnd? : List Char → Option (List Char)
  | [] => some []
  | s => newline? s

/-- The characters after a comment, if `#` starts one here. -/
def skipComment : List Char → List Char
  | '#' :: rest => rest.dropWhile isCommentChar
  | s => s

/-- The rest of a line behind its last word: blanks, perhaps a comment, and the `lineEnd?`. -/
def trailing? (s : List Char) : Option (List Char) :=
  lineEnd? (skipComment (skipBlanks s))

theorem length_dropWhile_le (p : Char → Bool) (s : List Char) :
    (s.dropWhile p).length ≤ s.length :=
  (List.dropWhile_sublist p).length_le

theorem length_newline?_lt {s rest : List Char} (h : newline? s = some rest) :
    rest.length < s.length := by
  unfold newline? at h
  split at h
  · cases h
    exact Nat.lt_succ_self _
  · cases h
    exact Nat.lt_succ_of_lt (Nat.lt_succ_self _)
  · cases h

/-- The characters after blanks, line feeds and comments, between the items of an array. -/
def skipLayout : List Char → List Char
  | [] => []
  | '#' :: rest => skipLayout (rest.dropWhile isCommentChar)
  | '\r' :: '\n' :: rest => skipLayout rest
  | c :: rest => if isBlank c || c == '\n' then skipLayout rest else c :: rest
termination_by s => s.length
decreasing_by
  all_goals simp only [List.length_cons]
  · have := length_dropWhile_le isCommentChar rest
    omega
  · omega
  · omega

end LineLandmarks.Toml
