import LineLandmarks.Toml.Document
import Mathlib.Data.Int.Notation
import Mathlib.Data.Nat.Notation
import Mathlib.Tactic.Lemma

/-!
# What readers leave

A reader takes the characters ahead and gives those that remain. None of the readers of a document
gives more than it was given, and `line?` gives fewer (`length_line?_lt`). So a text has at most as
many lines as characters, and the number of lines that `readAll?` is given never ends a reading.

The bounds are tagged for `grind`, which follows them through the stages of a reader.
-/

namespace LineLandmarks.Toml

/-! ## Layout -/

attribute [grind →] length_newline?_lt length_escape?_lt length_lineJoin?_le
attribute [grind! .] length_dropWhile_le

@[grind! .]
lemma length_skipBlanks_le (s : List Char) : (skipBlanks s).length ≤ s.length :=
  length_dropWhile_le isBlank s

@[grind! .]
lemma length_skipComment_le (s : List Char) : (skipComment s).length ≤ s.length := by
  unfold skipComment
  grind

@[grind! .]
lemma length_skipLayout_le (s : List Char) : (skipLayout s).length ≤ s.length := by
  fun_induction skipLayout s <;> grind

@[grind! .]
lemma length_skipFirstNewline_le (s : List Char) : (skipFirstNewline s).length ≤ s.length := by
  unfold skipFirstNewline
  cases h : newline? s <;> grind

/-- The `lineEnd?` takes a line feed away, unless it is the end of the document. -/
@[grind →]
lemma length_lineEnd?_lt {s rest : List Char} (h : lineEnd? s = some rest) :
    rest = [] ∨ rest.length < s.length := by
  unfold lineEnd? at h
  grind

@[grind →]
lemma length_trailing?_lt {s rest : List Char} (h : trailing? s = some rest) :
    rest = [] ∨ rest.length < s.length := by
  unfold trailing? at h
  grind

/-! ## Strings -/

@[grind →]
lemma length_basic?_le {content s rest : List Char} (h : basic? s = some (content, rest)) :
    rest.length ≤ s.length := by
  fun_induction basic? s generalizing content rest <;>
    grind [consContent, Option.map_eq_some_iff]

@[grind →]
lemma length_literal?_le {content s rest : List Char} (h : literal? s = some (content, rest)) :
    rest.length ≤ s.length := by
  fun_induction literal? s generalizing content rest <;>
    grind [consContent, Option.map_eq_some_iff]

@[grind →]
lemma length_closing?_le {quote : Char} {content s rest : List Char}
    (h : closing? quote s = some (content, rest)) : rest.length ≤ s.length := by
  unfold closing? at h
  grind

@[grind →]
lemma length_basicLines?_le {content s rest : List Char}
    (h : basicLines? s = some (content, rest)) : rest.length ≤ s.length := by
  fun_induction basicLines? s generalizing content rest <;>
    grind [consContent, Option.map_eq_some_iff]

@[grind →]
lemma length_literalLines?_le {content s rest : List Char}
    (h : literalLines? s = some (content, rest)) : rest.length ≤ s.length := by
  fun_induction literalLines? s generalizing content rest <;>
    grind [consContent, Option.map_eq_some_iff]

@[grind →]
lemma length_text?_le {t : String} {s rest : List Char} (h : text? s = some (t, rest)) :
    rest.length ≤ s.length := by
  unfold text? at h
  grind [text?.asText, Option.map_eq_some_iff]

/-! ## Dates and times -/

@[grind →]
lemma length_digits?_le {value count n : ℕ} {s rest : List Char}
    (h : digits? value count s = some (n, rest)) : rest.length ≤ s.length := by
  fun_induction digits? value count s <;> grind

@[grind →]
lemma length_expect?_lt {c : Char} {s rest : List Char} (h : expect? c s = some rest) :
    rest.length < s.length := by
  unfold expect? at h
  grind

@[grind →]
lemma length_pair?_le {low high n : ℕ} {s rest : List Char}
    (h : pair? low high s = some (n, rest)) : rest.length ≤ s.length := by
  simp only [pair?, bind, Option.bind_eq_some_iff] at h
  grind

@[grind →]
lemma Date.length_read?_le {d : Date} {s rest : List Char} (h : Date.read? s = some (d, rest)) :
    rest.length ≤ s.length := by
  simp only [Date.read?, bind, Option.bind_eq_some_iff, pure] at h
  grind

@[grind →]
lemma Time.length_fraction_le {n : ℕ} {s rest : List Char} (h : Time.fraction s = (n, rest)) :
    rest.length ≤ s.length := by
  unfold Time.fraction at h
  grind

@[grind →]
lemma Time.length_read?_le {t : Time} {s rest : List Char} (h : Time.read? s = some (t, rest)) :
    rest.length ≤ s.length := by
  simp only [Time.read?, bind, Option.bind_eq_some_iff, pure] at h
  grind

namespace DateTime

@[grind →]
lemma length_offset?_le {minutes : ℤ} {s rest : List Char}
    (h : offset? s = some (minutes, rest)) : rest.length ≤ s.length := by
  unfold offset? at h
  simp only [bind, pure] at h
  grind [Option.bind_eq_some_iff]

@[grind →]
lemma length_joinedTime?_le {t : Time} {s rest : List Char}
    (h : joinedTime? s = some (t, rest)) : rest.length ≤ s.length := by
  unfold joinedTime? at h
  grind

@[grind →]
lemma length_read?_le {d : DateTime} {s rest : List Char} (h : read? s = some (d, rest)) :
    rest.length ≤ s.length := by
  unfold read? at h
  grind

end DateTime

/-! ## Numbers -/

@[grind →]
lemma length_moreDigits_le {isDigit : Char → Bool} {digits s rest : List Char}
    (h : moreDigits isDigit s = (digits, rest)) : rest.length ≤ s.length := by
  fun_induction moreDigits isDigit s generalizing digits <;> grind

@[grind →]
lemma length_digitRun?_le {isDigit : Char → Bool} {digits s rest : List Char}
    (h : digitRun? isDigit s = some (digits, rest)) : rest.length ≤ s.length := by
  unfold digitRun? at h
  grind

@[grind! .]
lemma length_sign_le (s : List Char) : (sign s).2.length ≤ s.length := by
  unfold sign
  grind

@[grind →]
lemma length_wholeDigits?_le {digits s rest : List Char}
    (h : wholeDigits? s = some (digits, rest)) : rest.length ≤ s.length := by
  unfold wholeDigits? at h
  grind

@[grind →]
lemma length_based?_le {base : ℕ} {isDigit : Char → Bool} {n : ℤ} {s rest : List Char}
    (h : based? base isDigit s = some (n, rest)) : rest.length ≤ s.length := by
  simp only [based?, bind, pure] at h
  grind [Option.bind_eq_some_iff]

@[grind →]
lemma length_integer?_le {n : ℤ} {s rest : List Char} (h : integer? s = some (n, rest)) :
    rest.length ≤ s.length := by
  unfold integer? at h
  simp only [bind, pure] at h
  grind [Option.bind_eq_some_iff]

@[grind →]
lemma length_fractionDigits?_le {digits s rest : List Char}
    (h : fractionDigits? s = some (digits, rest)) : rest.length ≤ s.length := by
  unfold fractionDigits? at h
  grind

@[grind →]
lemma length_exponent?_le {n : ℤ} {s rest : List Char} (h : exponent? s = some (n, rest)) :
    rest.length ≤ s.length := by
  unfold exponent? at h
  simp only [bind, pure] at h
  grind [Option.bind_eq_some_iff]

@[grind →]
lemma length_floatParts?_le {parts : List Char × List Char × ℤ} {s rest : List Char}
    (h : floatParts? s = some (parts, rest)) : rest.length ≤ s.length := by
  simp only [floatParts?, bind] at h
  grind [Option.bind_eq_some_iff]

@[grind →]
lemma length_float?_le {x : Decimal.Binary64} {s rest : List Char}
    (h : float? s = some (x, rest)) : rest.length ≤ s.length := by
  simp only [float?, bind] at h
  grind [Option.bind_eq_some_iff]

/-! ## Keys and values -/

@[grind →]
lemma length_keyPart?_le {part : String} {s rest : List Char}
    (h : keyPart? s = some (part, rest)) : rest.length ≤ s.length := by
  unfold keyPart? at h
  grind [text?.asText, Option.map_eq_some_iff]

@[grind →]
lemma length_keyParts?_le {count : ℕ} {parts : List String} {s rest : List Char}
    (h : keyParts? count s = some (parts, rest)) : rest.length ≤ s.length := by
  fun_induction keyParts? count s generalizing parts rest <;> grind [Option.map_eq_some_iff]

@[grind →]
lemma length_key?_le {key : Key} {s rest : List Char} (h : key? s = some (key, rest)) :
    rest.length ≤ s.length := by
  simp only [key?, bind, pure] at h
  grind [Option.bind_eq_some_iff]

@[grind →]
lemma length_simpleValue?_le {v : Value} {s rest : List Char}
    (h : simpleValue? s = some (v, rest)) : rest.length ≤ s.length := by
  unfold simpleValue? at h
  grind [Option.map_eq_some_iff]

section

variable {value : List Char → Option (Value × List Char)}
  (hvalue : ∀ {v s rest}, value s = some (v, rest) → rest.length ≤ s.length)

include hvalue

lemma length_items?_le {bound : ℕ} {items : List Value} {s rest : List Char}
    (h : items? value bound s = some (items, rest)) : rest.length ≤ s.length := by
  induction bound generalizing items s rest with
  | zero =>
    unfold items? at h
    grind
  | succ bound ih =>
    unfold items? at h
    grind [Option.map_eq_some_iff]

lemma length_assignment?_le {a : Assignment} {s rest : List Char}
    (h : assignment? value s = some (a, rest)) : rest.length ≤ s.length := by
  simp only [assignment?, bind, pure] at h
  grind [Option.bind_eq_some_iff]

lemma length_assignments?_le {bound : ℕ} {as : List Assignment} {s rest : List Char}
    (h : assignments? value bound s = some (as, rest)) : rest.length ≤ s.length := by
  have hassign {a : Assignment} {s rest : List Char}
      (ha : assignment? value s = some (a, rest)) : rest.length ≤ s.length :=
    length_assignment?_le hvalue ha
  fun_induction assignments? value bound s generalizing as rest <;>
    grind [Option.map_eq_some_iff]

lemma length_braces?_le {bound : ℕ} {as : List Assignment} {s rest : List Char}
    (h : braces? value bound s = some (as, rest)) : rest.length ≤ s.length := by
  unfold braces? at h
  split at h
  · grind
  · exact length_assignments?_le hvalue h

end

/-- A `value?` inside of another one leaves no more than the latter, down to any depth. -/
@[grind →]
lemma length_value?_le {bound depth : ℕ} {v : Value} {s rest : List Char}
    (h : value? bound depth s = some (v, rest)) : rest.length ≤ s.length := by
  induction depth generalizing v s rest with
  | zero => exact length_simpleValue?_le h
  | succ depth ih =>
    unfold value? at h
    split at h
    · obtain ⟨r, hitems, heq⟩ := Option.map_eq_some_iff.mp h
      have hrest := length_items?_le ih hitems
      grind
    · obtain ⟨r, hbraces, h⟩ := Option.bind_eq_some_iff.mp h
      obtain ⟨entries, -, heq⟩ := Option.bind_eq_some_iff.mp h
      have hrest := length_braces?_le ih hbraces
      grind
    · exact length_simpleValue?_le h

/-! ## Lines -/

namespace Statement

@[grind →]
lemma length_header?_le {statement : Statement} {s rest : List Char}
    (h : header? s = some (statement, rest)) : rest.length ≤ s.length := by
  unfold header? at h
  simp only [bind, pure] at h
  grind [Option.bind_eq_some_iff]

@[grind →]
lemma length_words?_le {bound : ℕ} {statement : Statement} {s rest : List Char}
    (h : words? bound s = some (statement, rest)) : rest.length ≤ s.length := by
  unfold words? at h
  split at h
  · grind
  · obtain ⟨r, hassign, heq⟩ := Option.map_eq_some_iff.mp h
    have hrest := length_assignment?_le length_value?_le hassign
    grind

/-- A `line?` that was read leaves fewer characters, if there was any. -/
theorem length_line?_lt {bound : ℕ} {first : Option Statement} {s rest : List Char}
    (h : line? bound s = some (first, rest)) (hs : s ≠ []) : rest.length < s.length := by
  have hpos : 0 < s.length := List.length_pos_iff.mpr hs
  unfold line? at h
  split at h
  · grind
  · obtain ⟨r, hwords, h⟩ := Option.bind_eq_some_iff.mp h
    obtain ⟨r', htrailing, heq⟩ := Option.bind_eq_some_iff.mp h
    grind

end Statement

end LineLandmarks.Toml
