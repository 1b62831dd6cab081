import LineLandmarks.Text.Lines
import Mathlib.Data.List.DropRight

/-!
# Trimming

What trimming leaves is described by the text around it: blanks and nothing else are cut off, and
neither the first nor the last character of what is left is a blank (`trim_eq_iff`).
-/

namespace LineLandmarks.Text

/-- Neither the first nor the last character of `s` is a blank. -/
def IsTrimmed (s : String) : Prop :=
  ∀ h : s.toList ≠ [],
    isBlank (s.toList.head h) = false ∧ isBlank (s.toList.getLast h) = false

/-- The text `whole` is `core` with blanks before and behind it, and `core` has none at its ends. -/
def TrimsTo (whole core : String) : Prop :=
  IsTrimmed core ∧
    ∃ before after : List Char, whole.toList = before ++ core.toList ++ after ∧
      (∀ c ∈ before, isBlank c = true) ∧ ∀ c ∈ after, isBlank c = true

lemma trimChars_eq (s : List Char) :
    trimChars s = (s.dropWhile isBlank).rdropWhile isBlank := rfl

/-- Blanks `after` a list that ends in something else are all that `rdropWhile` drops. -/
private lemma rdropWhile_append_blanks {s after : List Char}
    (hs : ∀ h : s ≠ [], ¬ isBlank (s.getLast h) = true) (hafter : ∀ c ∈ after, isBlank c = true) :
    (s ++ after).rdropWhile isBlank = s := by
  rw [List.rdropWhile, List.reverse_append,
    List.dropWhile_append_of_pos (by simpa using hafter)]
  exact List.rdropWhile_eq_self_iff.mpr hs

/-- What `trimChars` cuts off `s` is blank. -/
private lemma exists_blanks (s : List Char) :
    ∃ before after, s = before ++ trimChars s ++ after ∧
      (∀ c ∈ before, isBlank c = true) ∧ ∀ c ∈ after, isBlank c = true := by
  refine ⟨s.takeWhile isBlank, (s.dropWhile isBlank).rtakeWhile isBlank, ?_, ?_, ?_⟩
  · rw [List.append_assoc, trimChars_eq, List.rdropWhile_append_rtakeWhile,
      List.takeWhile_append_dropWhile]
  · intro c hc
    exact List.mem_takeWhile_imp hc
  · intro c hc
    exact List.mem_rtakeWhile_imp hc

/-- What `trimChars` leaves starts with no blank. -/
private lemma head_trimChars {s : List Char} (h : trimChars s ≠ []) :
    isBlank ((trimChars s).head h) = false := by
  rw [trimChars_eq] at h
  have hrest : s.dropWhile isBlank ≠ [] := by
    intro hnil
    rw [hnil] at h
    exact h (List.rdropWhile_nil isBlank)
  -- cutting at the end leaves the first character where it is
  have hhead : ((s.dropWhile isBlank).rdropWhile isBlank).head h
      = (s.dropWhile isBlank).head hrest :=
    (List.rdropWhile_prefix isBlank _).head h
  calc isBlank ((trimChars s).head h)
      = isBlank ((s.dropWhile isBlank).head hrest) := congrArg isBlank hhead
    _ = false := List.head_dropWhile_not isBlank hrest

/-- What `trimChars` leaves ends in no blank. -/
private lemma getLast_trimChars {s : List Char} (h : trimChars s ≠ []) :
    isBlank ((trimChars s).getLast h) = false := by
  have hlast := List.rdropWhile_last_not isBlank (s.dropWhile isBlank) h
  exact Bool.eq_false_iff.mpr hlast

/-- What `trim` cuts off are the blanks at both ends, and nothing else. -/
theorem trim_eq_iff (s t : String) : trim s = t ↔ TrimsTo s t := by
  constructor
  · intro htrim
    subst htrim
    refine ⟨?_, ?_⟩
    · intro h
      simp only [trim, String.toList_ofList] at h ⊢
      exact ⟨head_trimChars h, getLast_trimChars h⟩
    · simp only [trim, String.toList_ofList]
      exact exists_blanks s.toList
  · intro htrims
    obtain ⟨htrimmed, before, after, hs, hbefore, hafter⟩ := htrims
    apply String.toList_inj.mp
    rw [trim, String.toList_ofList, trimChars_eq, hs, List.append_assoc,
      List.dropWhile_append_of_pos hbefore]
    by_cases ht : t.toList = []
    · rw [ht, List.nil_append, List.dropWhile_eq_nil_iff.mpr hafter]
      exact List.rdropWhile_nil isBlank
    · obtain ⟨hhead, hlast⟩ := htrimmed ht
      have hkeep : (t.toList ++ after).dropWhile isBlank = t.toList ++ after := by
        obtain ⟨c, rest, hc⟩ := List.exists_cons_of_ne_nil ht
        simp only [hc, List.head_cons] at hhead
        rw [hc, List.cons_append, List.dropWhile_cons_of_neg (by simp [hhead])]
      rw [hkeep]
      exact rdropWhile_append_blanks (fun _ => by simp [hlast]) hafter

instance (whole core : String) : Decidable (TrimsTo whole core) :=
  decidable_of_iff (trim whole = core) (trim_eq_iff whole core)

/-- What `trim` leaves has no blank at its ends. -/
@[simp] lemma isTrimmed_trim (s : String) : IsTrimmed (trim s) :=
  ((trim_eq_iff s (trim s)).mp rfl).1

/-- A text `s` without blanks at its ends trims to itself. -/
lemma trimsTo_self {s : String} (h : IsTrimmed s) : TrimsTo s s := by
  refine ⟨h, [], [], ?_, ?_, ?_⟩ <;> simp

/-- The texts without blanks at their ends are those that `trim` leaves as they are. -/
lemma trim_eq_self_iff (s : String) : trim s = s ↔ IsTrimmed s := by
  constructor
  · intro h
    rw [← h]
    exact isTrimmed_trim s
  · intro h
    exact (trim_eq_iff s s).mpr (trimsTo_self h)

@[simp] lemma trim_trim (s : String) : trim (trim s) = trim s :=
  (trim_eq_self_iff (trim s)).mpr (isTrimmed_trim s)

instance (s : String) : Decidable (IsTrimmed s) :=
  decidable_of_iff (trim s = s) (trim_eq_self_iff s)

end LineLandmarks.Text
