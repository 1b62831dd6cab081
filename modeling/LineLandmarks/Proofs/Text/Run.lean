import Mathlib.Data.Nat.Notation
import Mathlib.Tactic.Lemma
import LineLandmarks.Text.Hex

/-!
# Runs of characters

A reader of a word takes the longest run of characters of a kind. It stops where the word was meant
to stop if what follows does not start with a character of that kind. Decimal digits are the runs
that numbers are made of: a number is written without a leading zero. A hexadecimal escape has a
fixed number of digits and is read back digit by digit.
-/

namespace LineLandmarks.Text

/-- The list `rest` does not start with a character of the kind `p`. -/
def StopsRun (p : Char → Bool) (rest : List Char) : Prop :=
  ∀ c ∈ rest.head?, p c = false

@[simp] lemma stopsRun_cons {p : Char → Bool} {c : Char} {rest : List Char} :
    StopsRun p (c :: rest) ↔ p c = false := by
  simp [StopsRun]

lemma StopsRun.takeWhile_eq_nil {p : Char → Bool} {rest : List Char} (h : StopsRun p rest) :
    rest.takeWhile p = [] := by
  cases rest with
  | nil => rfl
  | cons c rest => rw [List.takeWhile_cons_of_neg (by simp [stopsRun_cons.mp h])]

lemma StopsRun.dropWhile_eq_self {p : Char → Bool} {rest : List Char} (h : StopsRun p rest) :
    rest.dropWhile p = rest := by
  cases rest with
  | nil => rfl
  | cons c rest => rw [List.dropWhile_cons_of_neg (by simp [stopsRun_cons.mp h])]

/-- The run of the kind `p` at the front is the `word` that was put there. -/
theorem takeWhile_append_of_stopsRun {p : Char → Bool} {word rest : List Char}
    (hword : ∀ c ∈ word, p c = true) (hrest : StopsRun p rest) :
    (word ++ rest).takeWhile p = word := by
  rw [List.takeWhile_append_of_pos hword, hrest.takeWhile_eq_nil, List.append_nil]

/-- What remains behind the run of the kind `p` is the `rest` that was put behind the `word`. -/
theorem dropWhile_append_of_stopsRun {p : Char → Bool} {word rest : List Char}
    (hword : ∀ c ∈ word, p c = true) (hrest : StopsRun p rest) :
    (word ++ rest).dropWhile p = rest := by
  rw [List.dropWhile_append_of_pos hword, hrest.dropWhile_eq_self]

/-! ## Decimal digits -/

/-- The decimal digits of `n`. -/
abbrev decimal (n : ℕ) : List Char := Nat.toDigits 10 n

lemma isDigit_of_mem_decimal {n : ℕ} {c : Char} (h : c ∈ decimal n) : c.isDigit = true :=
  Nat.isDigit_of_mem_toDigits (by decide) (by decide) h

lemma decimal_zero : decimal 0 = ['0'] := Nat.toDigits_zero 10

private lemma digitChar_ne_zero : ∀ n < 10, n ≠ 0 → Nat.digitChar n ≠ '0' := by decide

/-- A positive `n` is not written with `0` in front. -/
theorem exists_decimal_eq_cons {n : ℕ} (hn : n ≠ 0) :
    ∃ c rest, decimal n = c :: rest ∧ c.isDigit = true ∧ c ≠ '0' := by
  induction n using Nat.strongRecOn with
  | ind n ih =>
    by_cases hlt : n < 10
    · have hone : decimal n = [Nat.digitChar n] := Nat.toDigits_of_lt_base hlt
      refine ⟨Nat.digitChar n, [], hone, ?_, digitChar_ne_zero n hlt hn⟩
      exact isDigit_of_mem_decimal (by rw [hone]; exact List.mem_singleton_self _)
    · have hmore : decimal n = decimal (n / 10) ++ [Nat.digitChar (n % 10)] :=
        Nat.toDigits_of_base_le (by decide) (Nat.le_of_not_lt hlt)
      obtain ⟨c, rest, hcons, hdigit, hne⟩ := ih (n / 10) (by omega) (by omega)
      refine ⟨c, rest ++ [Nat.digitChar (n % 10)], ?_, hdigit, hne⟩
      rw [hmore, hcons, List.cons_append]

/-- Every `n` is written with a digit in front. -/
theorem exists_decimal_eq_digit_cons (n : ℕ) :
    ∃ c rest, decimal n = c :: rest ∧ c.isDigit = true := by
  by_cases hn : n = 0
  · subst hn
    exact ⟨'0', [], decimal_zero, by decide⟩
  · obtain ⟨c, rest, hcons, hdigit, -⟩ := exists_decimal_eq_cons hn
    exact ⟨c, rest, hcons, hdigit⟩

lemma value_decimal (n : ℕ) : Nat.ofDigitChars 10 (decimal n) 0 = n :=
  Nat.ofDigitChars_ten_toDigits

lemma decimal_injective {m n : ℕ} (h : decimal m = decimal n) : m = n := by
  rw [← value_decimal m, h, value_decimal]

lemma toList_toString_nat (n : ℕ) : (toString n).toList = decimal n := Nat.toList_repr

/-- A decimal digit `c` is no character that `isDigit` refuses. -/
lemma ne_of_isDigit {c d : Char} (hc : c.isDigit = true) (hd : d.isDigit = false) : c ≠ d := by
  intro h
  rw [h, hd] at hc
  exact absurd hc (by decide)

/-! ## Characters that a text does not hold -/

/-- A character `c` that is no digit is not among `decimal n`. -/
lemma notMem_decimal {c : Char} (hc : c.isDigit = false) (n : ℕ) : c ∉ decimal n := by
  intro hmem
  rw [isDigit_of_mem_decimal hmem] at hc
  exact absurd hc (by decide)

lemma notMem_toString_nat {c : Char} (hc : c.isDigit = false) (n : ℕ) :
    c ∉ (toString n).toList := by
  rw [toList_toString_nat]
  exact notMem_decimal hc n

lemma notMem_append {c : Char} {s t : String} (hs : c ∉ s.toList) (ht : c ∉ t.toList) :
    c ∉ (s ++ t).toList := by
  rw [String.toList_append, List.mem_append, not_or]
  exact ⟨hs, ht⟩

/-! ## Hexadecimal escapes -/

lemma hexDigit?_digitChar : ∀ d < 16, hexDigit? (Nat.digitChar d) = some d := by decide

/-- The four hexadecimal digits of `n < 256` are read as `n`. -/
theorem hexDigits?_two {n : ℕ} (hn : n < 256) (rest : List Char) :
    hexDigits? 0 4 ('0' :: '0' :: Nat.digitChar (n / 16) :: Nat.digitChar (n % 16) :: rest)
      = some (n, rest) := by
  have hzero : hexDigit? '0' = some 0 := by decide
  have hhigh := hexDigit?_digitChar (n / 16) (by omega)
  have hlow := hexDigit?_digitChar (n % 16) (by omega)
  simp only [hexDigits?, hzero, hhigh, hlow, Nat.zero_mul, Nat.zero_add, Option.some.injEq,
    Prod.mk.injEq, and_true]
  omega

@[simp] lemma scalar?_toNat (c : Char) : scalar? c.toNat = some c := by
  have hvalid : c.toNat.isValidChar := c.valid
  rw [scalar?, dif_pos hvalid]
  rfl

end LineLandmarks.Text
