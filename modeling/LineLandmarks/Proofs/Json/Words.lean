import Mathlib.Data.Int.Notation
import LineLandmarks.Json.Printer
import LineLandmarks.Json.Reader
import LineLandmarks.Proofs.Text.Run

/-!
# Strings and numbers of JSON read back

A string is read back character by character: whatever a character is printed as, the reader takes
exactly that and gives the character (`stringBody?_escapeChar`). A number is read back if what
follows it cannot belong to it (`number?_numberText`).
-/

namespace LineLandmarks.Json

open Text (decimal exists_decimal_eq_cons exists_decimal_eq_digit_cons isDigit_of_mem_decimal
  ne_of_isDigit value_decimal)

/-! ## Strings -/

private lemma stringBody?_escape {s rest : List Char} {c : Char}
    (h : unescape? s = some (c, rest)) :
    stringBody? ('\\' :: s) = (stringBody? rest).map fun (cs, rest) => (c :: cs, rest) := by
  rw [stringBody?, h]

private lemma stringBody?_plain {c : Char} (hquote : c ≠ '"') (hbackslash : c ≠ '\\')
    (hcontrol : ¬ c.toNat < 0x20) (rest : List Char) :
    stringBody? (c :: rest) = (stringBody? rest).map fun (cs, rest) => (c :: cs, rest) := by
  rw [stringBody?]
  · rw [if_neg hcontrol]
  · exact hquote
  · exact hbackslash

/-- The escape of a control character `c` is read by `unescape?` as `c`. -/
private lemma unescape?_control {c : Char} (h : c.toNat < 0x20) (rest : List Char) :
    unescape? ('u' :: '0' :: '0' :: hexDigit (c.toNat / 16) :: hexDigit c.toNat :: rest)
      = some (c, rest) := by
  have hdigits : Text.hexDigits? 0 4
      ('0' :: '0' :: hexDigit (c.toNat / 16) :: hexDigit c.toNat :: rest)
        = some (c.toNat, rest) := by
    have hhigh : c.toNat / 16 % 16 = c.toNat / 16 := Nat.mod_eq_of_lt (by omega)
    rw [hexDigit, hexDigit, hhigh]
    exact Text.hexDigits?_two (by omega) rest
  have hsurrogate : isHighSurrogate c.toNat = false := by
    simp only [isHighSurrogate, Bool.and_eq_false_iff, decide_eq_false_iff_not]
    omega
  rw [unescape?, unicodeEscape?, hdigits]
  simp [hsurrogate]

/-- The characters `escapeChar c` are read as `c`. -/
@[simp] theorem stringBody?_escapeChar (c : Char) (rest : List Char) :
    stringBody? (escapeChar c ++ rest)
      = (stringBody? rest).map fun (cs, rest) => (c :: cs, rest) := by
  unfold escapeChar
  split
  case h_8 _ hquote hbackslash _ _ _ _ _ =>
    by_cases hcontrol : c.toNat < 0x20
    · rw [if_pos hcontrol]
      exact stringBody?_escape (unescape?_control hcontrol rest)
    · rw [if_neg hcontrol]
      exact stringBody?_plain hquote hbackslash hcontrol rest
  all_goals exact stringBody?_escape rfl

/-- The characters `cs`, each by `escapeChar`, are read as `cs` up to the quote. -/
@[simp] theorem stringBody?_append (cs rest : List Char) :
    stringBody? (cs.flatMap escapeChar ++ '"' :: rest) = some (cs, rest) := by
  induction cs with
  | nil => rw [List.flatMap_nil, List.nil_append, stringBody?]
  | cons c cs ih =>
    rw [List.flatMap_cons, List.append_assoc, stringBody?_escapeChar, ih]
    rfl

lemma toList_quote (s : String) :
    (quote s).toList = '"' :: (s.toList.flatMap escapeChar ++ ['"']) := by
  rw [quote, String.toList_ofList, List.cons_append]

/-- The text `quote s` is read as `s`. -/
@[simp] theorem string?_quote (s : String) (rest : List Char) :
    string? ((quote s).toList ++ rest) = some (s, rest) := by
  rw [toList_quote, List.cons_append, List.append_assoc, List.singleton_append, string?,
    stringBody?_append]
  simp only [Option.map_some, String.ofList_toList]

/-! ## Numbers -/

/-- What follows a number, `rest`, cannot belong to it. -/
def EndsNumber (rest : List Char) : Prop :=
  ∀ c ∈ rest.head?, c.isDigit = false ∧ c ≠ '.' ∧ c ≠ 'e' ∧ c ≠ 'E'

lemma endsNumber_cons {c : Char} {rest : List Char}
    (h : c.isDigit = false ∧ c ≠ '.' ∧ c ≠ 'e' ∧ c ≠ 'E') : EndsNumber (c :: rest) := by
  intro d hd
  simp only [List.head?_cons, Option.mem_some_iff] at hd
  rw [← hd]
  exact h

/-- The characters of `i`: `-` below zero, and the digits of its magnitude. -/
def integerChars (i : ℤ) : List Char :=
  (if i < 0 then ['-'] else []) ++ decimal i.natAbs

lemma toList_toString_int (i : ℤ) : (toString i).toList = integerChars i := by
  cases i with
  | ofNat n =>
    have hnn : ¬ (Int.ofNat n < 0) := Int.not_lt.mpr (Int.natCast_nonneg n)
    rw [integerChars, if_neg hnn, List.nil_append]
    exact Nat.toList_repr
  | negSucc n =>
    rw [integerChars, if_pos (Int.negSucc_lt_zero n)]
    show ("-" ++ Nat.repr (n + 1)).toList = ['-'] ++ decimal (n + 1)
    rw [String.toList_append, Nat.toList_repr]
    rfl

@[simp] lemma signed_natAbs (i : ℤ) : signed (decide (i < 0)) i.natAbs = i := by
  by_cases h : i < 0
  · rw [signed, decide_eq_true h, if_pos rfl]
    omega
  · rw [signed, decide_eq_false h, if_neg (by decide)]
    omega

@[simp] lemma minus_integerChars (i : ℤ) (rest : List Char) :
    minus (integerChars i ++ rest) = (decide (i < 0), decimal i.natAbs ++ rest) := by
  by_cases h : i < 0
  · rw [integerChars, if_pos h, decide_eq_true h]
    rfl
  · rw [integerChars, if_neg h, decide_eq_false h, List.nil_append]
    obtain ⟨c, digits, hcons, hdigit⟩ := exists_decimal_eq_digit_cons i.natAbs
    rw [hcons, List.cons_append, minus]
    intro rest' heq
    exact ne_of_isDigit hdigit (by decide) (List.cons.inj heq).1

private lemma digits?_decimal (n : ℕ) {rest : List Char}
    (hrest : Text.StopsRun Char.isDigit rest) :
    digits? (decimal n ++ rest) = some (decimal n, rest) := by
  have hall : ∀ c ∈ decimal n, c.isDigit = true := fun _ h => isDigit_of_mem_decimal h
  obtain ⟨c, ds, hcons, -⟩ := exists_decimal_eq_digit_cons n
  rw [digits?, Text.takeWhile_append_of_stopsRun hall hrest,
    Text.dropWhile_append_of_stopsRun hall hrest, hcons]

private lemma whole?_decimal (n : ℕ) {rest : List Char}
    (hrest : Text.StopsRun Char.isDigit rest) :
    whole? (decimal n ++ rest) = some (decimal n, rest) := by
  by_cases hn : n = 0
  · rw [hn, Text.decimal_zero]
    rfl
  · rw [← digits?_decimal n hrest]
    obtain ⟨c, ds, hcons, -, hne⟩ := exists_decimal_eq_cons hn
    rw [hcons, List.cons_append, whole?]
    intro rest' heq
    exact hne (List.cons.inj heq).1

lemma EndsNumber.stopsRun {rest : List Char} (h : EndsNumber rest) :
    Text.StopsRun Char.isDigit rest :=
  fun c hc => (h c hc).1

private lemma fraction?_of_ne {rest : List Char} (h : ∀ c ∈ rest.head?, c ≠ '.') :
    fraction? rest = some ([], rest) := by
  rw [fraction?]
  intro rest' heq
  exact h '.' (by simp [heq]) rfl

private lemma exponent?_of_endsNumber {rest : List Char} (h : EndsNumber rest) :
    exponent? rest = some (0, rest) := by
  cases rest with
  | nil => rfl
  | cons c rest =>
    obtain ⟨-, -, he, hE⟩ := h c (by simp)
    rw [exponent?, if_neg (by simp [he, hE])]

private lemma sign_integerChars (i : ℤ) (rest : List Char) :
    sign (integerChars i ++ rest) = (decide (i < 0), decimal i.natAbs ++ rest) := by
  rw [← minus_integerChars, sign]
  intro rest' heq
  -- neither a minus sign nor a digit is a plus sign
  by_cases h : i < 0
  · rw [integerChars, if_pos h] at heq
    exact absurd (List.cons.inj heq).1 (by decide)
  · obtain ⟨c, digits, hcons, hdigit⟩ := exists_decimal_eq_digit_cons i.natAbs
    rw [integerChars, if_neg h, List.nil_append, hcons] at heq
    exact ne_of_isDigit hdigit (by decide) (List.cons.inj heq).1

private lemma exponent?_e (i : ℤ) {rest : List Char} (hrest : EndsNumber rest) :
    exponent? ('e' :: integerChars i ++ rest) = some (i, rest) := by
  rw [List.cons_append, exponent?, if_pos (Or.inl rfl), sign_integerChars]
  simp only [digits?_decimal i.natAbs hrest.stopsRun, bind, Option.bind_some, pure,
    value_decimal, signed_natAbs]

/-- The characters of a `numberText` behind its mantissa. -/
def exponentChars (e : ℤ) : List Char :=
  if e = 0 then [] else 'e' :: integerChars e

@[simp] lemma toList_numberText (m e : ℤ) :
    (numberText m e).toList = integerChars m ++ exponentChars e := by
  by_cases h : e = 0
  · rw [numberText, exponentChars, if_pos h, if_pos h, toList_toString_int, List.append_nil]
  · rw [numberText, exponentChars, if_neg h, if_neg h, String.toList_append,
      String.toList_append, toList_toString_int, toList_toString_int, List.append_assoc]
    rfl

private lemma exponent?_exponentChars (e : ℤ) {rest : List Char} (hrest : EndsNumber rest) :
    exponent? (exponentChars e ++ rest) = some (e, rest) := by
  by_cases h : e = 0
  · rw [exponentChars, if_pos h, List.nil_append, h]
    exact exponent?_of_endsNumber hrest
  · rw [exponentChars, if_neg h]
    exact exponent?_e e hrest

/-- Behind a mantissa stand the `exponentChars`: neither a digit nor a point comes first. -/
private lemma head_exponentChars (e : ℤ) {rest : List Char} (hrest : EndsNumber rest) :
    ∀ c ∈ (exponentChars e ++ rest).head?, c.isDigit = false ∧ c ≠ '.' := by
  intro c hc
  by_cases h : e = 0
  · rw [exponentChars, if_pos h, List.nil_append] at hc
    exact ⟨(hrest c hc).1, (hrest c hc).2.1⟩
  · rw [exponentChars, if_neg h, List.cons_append, List.head?_cons, Option.mem_some_iff] at hc
    rw [← hc]
    decide

/-- The text `numberText m e` is read as `number m e` if `rest` satisfies `EndsNumber`. -/
theorem number?_numberText (m e : ℤ) {rest : List Char} (hrest : EndsNumber rest) :
    number? ((numberText m e).toList ++ rest) = some (.number m e, rest) := by
  have hhead := head_exponentChars e hrest
  rw [toList_numberText, List.append_assoc, number?, minus_integerChars]
  simp only [whole?_decimal m.natAbs fun c hc => (hhead c hc).1,
    fraction?_of_ne fun c hc => (hhead c hc).2, exponent?_exponentChars e hrest, bind,
    Option.bind_some, pure, List.append_nil, value_decimal, signed_natAbs, List.length_nil,
    Int.natCast_zero, Int.sub_zero]

end LineLandmarks.Json
