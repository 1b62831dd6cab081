import Mathlib.Data.Int.Notation
import LineLandmarks.Proofs.Text.Run
import LineLandmarks.Toml.Document

/-!
# Plain words of a document

What the readers make of the simplest spelling of each thing: a key without quotes, an integer in
decimal digits, and a word with nothing but the end of its line behind it. A reader of values tries
its forms one after the other, so an integer is first shown to be no date and no float.
-/

namespace LineLandmarks.Toml

open Text (StopsRun decimal isDigit_of_mem_decimal exists_decimal_eq_cons
  exists_decimal_eq_digit_cons ne_of_isDigit stopsRun_cons value_decimal)

/-! ## Ends of lines -/

lemma skipBlanks_cons {c : Char} (h : isBlank c = false) (s : List Char) :
    skipBlanks (c :: s) = c :: s := by
  rw [skipBlanks, List.dropWhile_cons_of_neg]
  rw [h]
  exact Bool.false_ne_true

@[simp] lemma skipBlanks_blank (s : List Char) : skipBlanks (' ' :: s) = skipBlanks s := by
  rw [skipBlanks, List.dropWhile_cons_of_pos rfl, skipBlanks]

/-- The line feed `\n` ends a line. -/
@[simp] lemma trailing?_newline (rest : List Char) : trailing? ('\n' :: rest) = some rest := by
  rw [trailing?, skipBlanks_cons rfl]
  rfl

/-- A line does not end where a word starts with `c`. -/
lemma trailing?_eq_none {c : Char} (hblank : isBlank c = false) (hcomment : c ≠ '#')
    (hfeed : c ≠ '\n') (hreturn : c ≠ '\r') (s : List Char) : trailing? (c :: s) = none := by
  have hskip : skipComment (c :: s) = c :: s := by
    rw [skipComment]
    intro rest heq
    exact hcomment (List.cons.inj heq).1
  have hnewline : newline? (c :: s) = none := by
    unfold newline?
    split
    · next heq => exact absurd (List.cons.inj heq).1 hfeed
    · next heq => exact absurd (List.cons.inj heq).1 hreturn
    · rfl
  rw [trailing?, skipBlanks_cons hblank, hskip, lineEnd?, hnewline]
  intro h
  cases h

/-! ## Keys without quotes -/

/-- A word `name` of characters that need no quotes. -/
def IsBare (name : List Char) : Prop :=
  name ≠ [] ∧ name.all isBareKeyChar = true

lemma ne_of_isBareKeyChar {c d : Char} (hc : isBareKeyChar c = true)
    (hd : isBareKeyChar d = false) : c ≠ d := by
  intro h
  rw [h, hd] at hc
  exact Bool.false_ne_true hc

lemma isBlank_of_isBareKeyChar {c : Char} (hc : isBareKeyChar c = true) : isBlank c = false := by
  have hspace : c ≠ ' ' := ne_of_isBareKeyChar hc rfl
  have htab : c ≠ '\t' := ne_of_isBareKeyChar hc rfl
  rw [isBlank, beq_false_of_ne hspace, beq_false_of_ne htab]
  rfl

/-- The first character of a bare `name`. -/
lemma IsBare.exists_cons {name : List Char} (h : IsBare name) :
    ∃ c tail, name = c :: tail ∧ isBareKeyChar c = true := by
  cases name with
  | nil => exact absurd rfl h.1
  | cons c tail => exact ⟨c, tail, rfl, List.all_eq_true.mp h.2 c List.mem_cons_self⟩

private lemma keyPart?_bare {name rest : List Char} (hname : IsBare name)
    (hrest : StopsRun isBareKeyChar rest) :
    keyPart? (name ++ rest) = some (String.ofList name, rest) := by
  have hall := List.all_eq_true.mp hname.2
  obtain ⟨c, tail, hcons, hc⟩ := hname.exists_cons
  have htake := Text.takeWhile_append_of_stopsRun hall hrest
  have hdrop := Text.dropWhile_append_of_stopsRun hall hrest
  unfold keyPart?
  split
  · next heq =>
    rw [hcons] at heq
    exact absurd (List.cons.inj heq).1 (ne_of_isBareKeyChar hc rfl)
  · next heq =>
    rw [hcons] at heq
    exact absurd (List.cons.inj heq).1 (ne_of_isBareKeyChar hc rfl)
  · rw [htake, hdrop, hcons]

/-- A bare `name` with neither more of it nor a point behind it is a key by itself. -/
theorem key?_bare {name rest after : List Char} {d : Char} (hname : IsBare name)
    (hrest : StopsRun isBareKeyChar rest) (hafter : skipBlanks rest = d :: after) (hd : d ≠ '.') :
    key? (name ++ rest) = some (⟨[], String.ofList name⟩, d :: after) := by
  obtain ⟨c, tail, hcons, hc⟩ := hname.exists_cons
  have hskip : skipBlanks (name ++ rest) = name ++ rest := by
    rw [hcons, List.cons_append, skipBlanks_cons (isBlank_of_isBareKeyChar hc)]
  have hparts : keyParts? (depthLimit - 1) (name ++ rest)
      = some ([String.ofList name], d :: after) := by
    show keyParts? (78 + 1) (name ++ rest) = _
    rw [keyParts?, keyPart?_bare hname hrest]
    simp only [hafter]
    split
    · next heq => exact absurd (List.cons.inj heq).1 hd
    · rfl
  rw [key?, hskip, hparts]
  rfl

/-! ## Integers in decimal digits -/

/-- The characters `s` are digits with a line feed behind them. -/
private def IsNumberLine (s : List Char) : Prop :=
  ∃ digits rest, s = digits ++ '\n' :: rest ∧ ∀ c ∈ digits, c.isDigit = true

/-- The characters that remain behind some digits of an `IsNumberLine` form one. -/
private lemma IsNumberLine.of_digits? {count value n : ℕ} {s rest : List Char}
    (hs : IsNumberLine s) (h : digits? value count s = some (n, rest)) : IsNumberLine rest := by
  induction count generalizing value s with
  | zero =>
    rw [digits?, Option.some.injEq, Prod.mk.injEq] at h
    rw [← h.2]
    exact hs
  | succ count ih =>
    obtain ⟨digits, after, hcons, hall⟩ := hs
    cases digits with
    | nil =>
      rw [hcons] at h
      exact nomatch h
    | cons c digits =>
      have hc := hall c List.mem_cons_self
      rw [hcons, List.cons_append, digits?, if_pos hc] at h
      exact ih ⟨digits, after, rfl, fun d hd => hall d (List.mem_cons_of_mem c hd)⟩ h

/-- An `IsNumberLine` holds neither a dash nor a colon. -/
private lemma IsNumberLine.expect? {s : List Char} (hs : IsNumberLine s) {c : Char}
    (hdigit : c.isDigit = false) (hfeed : c ≠ '\n') : expect? c s = none := by
  obtain ⟨digits, rest, hcons, hall⟩ := hs
  cases digits with
  | nil => rw [hcons, List.nil_append, Toml.expect?, if_neg hfeed.symm]
  | cons d digits =>
    rw [hcons, List.cons_append, Toml.expect?,
      if_neg (ne_of_isDigit (hall d List.mem_cons_self) hdigit)]

private lemma IsNumberLine.date?_eq_none {s : List Char} (hs : IsNumberLine s) :
    Date.read? s = none := by
  cases hyear : digits? 0 4 s with
  | none => rw [Date.read?, hyear]; rfl
  | some r =>
    have hdash := (hs.of_digits? hyear).expect? (show '-'.isDigit = false by rfl) (by decide)
    rw [Date.read?, hyear]
    simp only [bind, Option.bind_some, hdash, Option.bind_none]

private lemma IsNumberLine.of_pair? {s rest : List Char} (hs : IsNumberLine s) {lo hi n : ℕ}
    (h : pair? lo hi s = some (n, rest)) : IsNumberLine rest := by
  cases hdigits : digits? 0 2 s with
  | none =>
    rw [pair?, hdigits] at h
    exact nomatch h
  | some r =>
    rw [pair?, hdigits] at h
    simp only [bind, Option.bind_some] at h
    split at h
    · rw [← (Prod.mk.inj (Option.some.inj h)).2]
      exact hs.of_digits? hdigits
    · exact nomatch h

private lemma IsNumberLine.time?_eq_none {s : List Char} (hs : IsNumberLine s) :
    Time.read? s = none := by
  cases hhour : pair? 0 23 s with
  | none => rw [Time.read?, hhour]; rfl
  | some r =>
    have hcolon := (hs.of_pair? hhour).expect? (show ':'.isDigit = false by rfl) (by decide)
    rw [Time.read?, hhour]
    simp only [bind, Option.bind_some, hcolon, Option.bind_none]

/-- Digits alone are no date and no time: `DateTime.read?` refuses them. -/
private lemma IsNumberLine.dateTime?_eq_none {s : List Char} (hs : IsNumberLine s) :
    DateTime.read? s = none := by
  rw [DateTime.read?, hs.date?_eq_none, hs.time?_eq_none]

/-- The digits `decimal n` start with a digit. -/
private lemma decimal_ne_cons (n : ℕ) {d : Char} (hd : d.isDigit = false) (rest s : List Char) :
    decimal n ++ rest ≠ d :: s := by
  intro heq
  obtain ⟨c, tail, hcons, hc⟩ := exists_decimal_eq_digit_cons n
  rw [hcons, List.cons_append] at heq
  exact ne_of_isDigit hc hd (List.cons.inj heq).1

private lemma moreDigits_append {digits rest : List Char}
    (hdigits : ∀ c ∈ digits, c.isDigit = true) :
    moreDigits Char.isDigit (digits ++ '\n' :: rest) = (digits, '\n' :: rest) := by
  induction digits with
  | nil => rfl
  | cons c digits ih =>
    have hc := hdigits c List.mem_cons_self
    rw [List.cons_append, moreDigits]
    · rw [if_pos hc, ih fun d hd => hdigits d (List.mem_cons_of_mem c hd)]
    · intro d rest' heq
      exact absurd heq (ne_of_isDigit hc rfl)

/-- The digits `decimal n` are whole digits. -/
private lemma wholeDigits?_decimal (n : ℕ) (rest : List Char) :
    wholeDigits? (decimal n ++ '\n' :: rest) = some (decimal n, '\n' :: rest) := by
  by_cases hn : n = 0
  · rw [hn, Text.decimal_zero]
    rfl
  · obtain ⟨c, tail, hcons, hc, hne⟩ := exists_decimal_eq_cons hn
    have hall : ∀ d ∈ tail, d.isDigit = true := by
      intro d hd
      exact isDigit_of_mem_decimal (by rw [hcons]; exact List.mem_cons_of_mem c hd)
    rw [hcons, List.cons_append, wholeDigits?]
    · rw [digitRun?, if_pos hc, moreDigits_append hall]
    · intro rest' heq
      exact hne (List.cons.inj heq).1

private lemma sign_decimal (n : ℕ) (rest : List Char) :
    sign (decimal n ++ rest) = (false, decimal n ++ rest) := by
  rw [sign]
  · exact decimal_ne_cons n rfl rest
  · exact decimal_ne_cons n rfl rest

private lemma digitsValue_decimal (n : ℕ) : digitsValue 10 (decimal n) = n := by
  have hfold : ∀ digits : List Char, (∀ c ∈ digits, c.isDigit = true) → ∀ value : ℕ,
      digits.foldl (fun n c => n * 10 + digitValue c) value
        = Nat.ofDigitChars 10 digits value := by
    intro digits
    induction digits with
    | nil =>
      intro _ value
      rfl
    | cons c digits ih =>
      intro hall value
      have hc : digitValue c = c.toNat - '0'.toNat := by
        rw [digitValue, if_pos (hall c List.mem_cons_self)]
        rfl
      rw [List.foldl_cons, Nat.ofDigitChars_cons, hc, Nat.mul_comm value 10]
      exact ih (fun d hd => hall d (List.mem_cons_of_mem c hd)) _
  rw [digitsValue, hfold _ (fun _ h => isDigit_of_mem_decimal h), value_decimal]

/-- The greatest integer that fits 64 bits with a sign, `2 ^ 63 - 1`. -/
def greatestInteger : ℕ := 9223372036854775807

/-- Digits with neither a point nor an exponent behind them are refused by `float?`. -/
private lemma float?_decimal (n : ℕ) (rest : List Char) :
    float? (decimal n ++ '\n' :: rest) = none := by
  have hparts : floatParts? (decimal n ++ '\n' :: rest) = none := by
    rw [floatParts?, wholeDigits?_decimal]
    rfl
  rw [float?, sign_decimal]
  simp only
  split
  · next heq => exact absurd heq (decimal_ne_cons n rfl _ _)
  · next heq => exact absurd heq (decimal_ne_cons n rfl _ _)
  · rw [hparts]
    rfl

/-- Behind the first digit of `decimal n` stands a digit or the line feed. -/
private lemma decimal_ne_based (n : ℕ) {d : Char} (hdigit : d.isDigit = false) (hfeed : d ≠ '\n')
    (rest s : List Char) : decimal n ++ '\n' :: rest ≠ '0' :: d :: s := by
  intro heq
  obtain ⟨c, tail, hcons, -⟩ := exists_decimal_eq_digit_cons n
  have hall : ∀ a ∈ tail, a.isDigit = true := by
    intro a ha
    exact isDigit_of_mem_decimal (by rw [hcons]; exact List.mem_cons_of_mem c ha)
  rw [hcons, List.cons_append] at heq
  have htail := (List.cons.inj heq).2
  cases tail with
  | nil => exact hfeed (List.cons.inj htail).1.symm
  | cons a tail =>
    exact ne_of_isDigit (hall a List.mem_cons_self) hdigit (List.cons.inj htail).1

/-- The digits `decimal n` of an integer that fits 64 bits are read as the integer. -/
private lemma integer?_decimal {n : ℕ} (hn : n ≤ greatestInteger) (rest : List Char) :
    integer? (decimal n ++ '\n' :: rest) = some ((n : ℤ), '\n' :: rest) := by
  have hrange : inRange? (n : ℤ) = some (n : ℤ) := by
    have hmin : Int64.minValue.toInt = -9223372036854775808 := by decide
    have hmax : Int64.maxValue.toInt = 9223372036854775807 := by decide
    rw [greatestInteger] at hn
    rw [inRange?, hmin, hmax, if_pos (by omega)]
  unfold integer?
  split
  · next heq => exact absurd heq (decimal_ne_based n rfl (by decide) rest _)
  · next heq => exact absurd heq (decimal_ne_based n rfl (by decide) rest _)
  · next heq => exact absurd heq (decimal_ne_based n rfl (by decide) rest _)
  · rw [sign_decimal]
    simp only [wholeDigits?_decimal, digitsValue_decimal, bind, Option.bind_some,
      Bool.false_eq_true, if_false, hrange]
    rfl

/-! ## Values without others inside -/

/-- What starts with neither `[` nor a brace is read by `simpleValue?`. -/
private lemma value?_of_ne {c : Char} (hbracket : c ≠ '[') (hbrace : c ≠ '\x7b')
    (bound depth : ℕ) (s : List Char) :
    value? bound depth (c :: s) = simpleValue? (c :: s) := by
  cases depth with
  | zero => rw [value?]
  | succ depth =>
    rw [value?]
    · intro rest heq
      exact hbracket (List.cons.inj heq).1
    · intro rest heq
      exact hbrace (List.cons.inj heq).1

private lemma text?_decimal (n : ℕ) (rest : List Char) : text? (decimal n ++ rest) = none := by
  unfold text?
  split
  · next heq => exact absurd heq (decimal_ne_cons n rfl _ _)
  · next heq => exact absurd heq (decimal_ne_cons n rfl _ _)
  · next heq => exact absurd heq (decimal_ne_cons n rfl _ _)
  · next heq => exact absurd heq (decimal_ne_cons n rfl _ _)
  · rfl

private lemma simpleValue?_decimal {n : ℕ} (hn : n ≤ greatestInteger) (rest : List Char) :
    simpleValue? (decimal n ++ '\n' :: rest) = some (.integer n, '\n' :: rest) := by
  have hdate : DateTime.read? (decimal n ++ '\n' :: rest) = none :=
    IsNumberLine.dateTime?_eq_none ⟨decimal n, rest, rfl, fun _ h => isDigit_of_mem_decimal h⟩
  -- every reader before that of integers refuses the digits
  unfold simpleValue?
  split
  · next heq => exact absurd heq (decimal_ne_cons n rfl _ _)
  · next heq => exact absurd heq (decimal_ne_cons n rfl _ _)
  · rw [text?_decimal, hdate, float?_decimal, integer?_decimal hn]
    rfl

/-- The digits `decimal n` at the end of a line are read as `n`. -/
theorem value?_decimal (bound depth : ℕ) {n : ℕ} (hn : n ≤ greatestInteger) (rest : List Char) :
    value? bound depth (decimal n ++ '\n' :: rest) = some (.integer n, '\n' :: rest) := by
  obtain ⟨c, tail, hcons, hc⟩ := exists_decimal_eq_digit_cons n
  rw [← simpleValue?_decimal hn, hcons, List.cons_append]
  exact value?_of_ne (ne_of_isDigit hc rfl) (ne_of_isDigit hc rfl) bound depth _

/-- A string that `basic?` reads on one line is read as its `content`. -/
theorem value?_basic (bound depth : ℕ) {s content rest : List Char}
    (hquotes : ∀ rest, s ≠ '"' :: '"' :: rest) (hs : basic? s = some (content, rest)) :
    value? bound depth ('"' :: s) = some (.string (String.ofList content), rest) := by
  have htext : text? ('"' :: s) = some (String.ofList content, rest) := by
    rw [text?, hs]
    · rfl
    · intro rest heq
      exact hquotes rest heq
  rw [value?_of_ne (by decide) (by decide), simpleValue?, htext]
  · intro rest heq
    exact absurd (List.cons.inj heq).1 (by decide)
  · intro rest heq
    exact absurd (List.cons.inj heq).1 (by decide)

/-! ## Basic strings -/

/-- An escape in a basic string is the character `c` it stands for. -/
lemma basic?_escape {s rest : List Char} {c : Char} (h : escape? s = some (c, rest)) :
    basic? ('\\' :: s) = (basic? rest).map (consContent c) := by
  rw [basic?, h]

/-- A character `c` that `isPlain` in a basic string stands for itself. -/
lemma basic?_plain {c : Char} (hquote : c ≠ '"') (hbackslash : c ≠ '\\')
    (hplain : isPlain c = true) (rest : List Char) :
    basic? (c :: rest) = (basic? rest).map (consContent c) := by
  rw [basic?]
  · rw [if_pos hplain]
  · exact hquote
  · exact hbackslash

end LineLandmarks.Toml
