/-!
# Hexadecimal escapes

Hexadecimal digits of either case, a fixed number of them, and the character with a scalar value.
-/

namespace LineLandmarks.Text

/-- The value of `c` as a hexadecimal digit of either case. -/
def hexDigit? (c : Char) : Option Nat :=
  if '0' ≤ c ∧ c ≤ '9' then some (c.toNat - 48)
  else if 'a' ≤ c ∧ c ≤ 'f' then some (c.toNat - 87)
  else if 'A' ≤ c ∧ c ≤ 'F' then some (c.toNat - 55)
  else none

/-- The value of a fixed number of hexadecimal digits, which continue `value`, and what remains. -/
def hexDigits? (value : Nat) : Nat → List Char → Option (Nat × List Char)
  | 0, s => some (value, s)
  | count + 1, c :: rest =>
    match hexDigit? c with
    | some d => hexDigits? (value * 16 + d) count rest
    | none => none
  | _ + 1, [] => none

/-- The character with the scalar value `n`. -/
def scalar? (n : Nat) : Option Char :=
  if h : n.isValidChar then some (Char.ofNatAux n h) else none

theorem length_hexDigits?_le {value count n : Nat} {s rest : List Char}
    (h : hexDigits? value count s = some (n, rest)) : rest.length ≤ s.length := by
  induction count generalizing value s with
  | zero => simp_all [hexDigits?]
  | succ count ih =>
    cases s with
    | nil => simp [hexDigits?] at h
    | cons c s =>
      simp only [hexDigits?] at h
      split at h
      · have := ih h
        simp only [List.length_cons]
        omega
      · simp at h

end LineLandmarks.Text
