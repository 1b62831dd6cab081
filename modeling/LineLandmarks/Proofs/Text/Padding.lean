import LineLandmarks.Proofs.Text.Containment
import LineLandmarks.Proofs.Text.Run
import LineLandmarks.Proofs.Text.Trim

/-!
# Blanks around a text

Of a text that neither starts nor ends in a blank no part lies in the blanks around another text: it
is contained in that one with its blanks exactly if it is contained in it without
(`contains_trim_iff`).
-/

namespace LineLandmarks.Text

/-- The text `whole` contains what is left of it between its blanks. -/
lemma TrimsTo.contains {whole core : String} (h : TrimsTo whole core) : Contains whole core := by
  obtain ⟨-, before, after, hwhole, -⟩ := h
  exact ⟨before, after, hwhole.symm⟩

/-! ## Ends that are no blanks -/

lemma IsTrimmed.stopsRun {s : String} (h : IsTrimmed s) : StopsRun isBlank s.toList := by
  intro c hc
  have hne : s.toList ≠ [] := by
    intro hnil
    simp [hnil] at hc
  rw [List.head?_eq_some_head hne, Option.mem_some_iff] at hc
  rw [← hc]
  exact (h hne).1

lemma IsTrimmed.stopsRun_reverse {s : String} (h : IsTrimmed s) :
    StopsRun isBlank s.toList.reverse := by
  intro c hc
  rw [List.head?_reverse] at hc
  have hne : s.toList ≠ [] := by
    intro hnil
    simp [hnil] at hc
  rw [List.getLast?_eq_some_getLast hne, Option.mem_some_iff] at hc
  rw [← hc]
  exact (h hne).2

/-! ## Containment -/

/-- A `part` that does not start with a blank does not start among the blanks `before`. -/
lemma infix_append_iff_of_stopsRun {part before rest : List Char} (hpart : StopsRun isBlank part)
    (hbefore : ∀ c ∈ before, isBlank c = true) : part <:+: before ++ rest ↔ part <:+: rest := by
  induction before with
  | nil => rfl
  | cons b before ih =>
    have hrest := ih fun c hc => hbefore c (List.mem_cons_of_mem b hc)
    rw [List.cons_append, List.infix_cons_iff, hrest]
    constructor
    · intro h
      rcases h with hfront | h
      · -- only the empty list starts at this blank
        cases part with
        | nil => exact List.nil_infix
        | cons c part =>
          have hblank := hbefore b List.mem_cons_self
          rw [← (List.cons_prefix_cons.mp hfront).1, stopsRun_cons.mp hpart] at hblank
          exact absurd hblank (by decide)
      · exact h
    · intro h
      exact Or.inr h

/-- A `part` that does not end in a blank does not end among the blanks `after`. -/
lemma infix_append_blanks_iff {part rest after : List Char}
    (hpart : StopsRun isBlank part.reverse) (hafter : ∀ c ∈ after, isBlank c = true) :
    part <:+: rest ++ after ↔ part <:+: rest := by
  rw [← List.reverse_infix, List.reverse_append,
    infix_append_iff_of_stopsRun hpart (by simpa using hafter), List.reverse_infix]

/-- A `part` without blanks at its ends is in `whole` exactly if it is in `trim whole`. -/
theorem contains_trim_iff {part : String} (hpart : IsTrimmed part) (whole : String) :
    Contains (trim whole) part ↔ Contains whole part := by
  obtain ⟨-, before, after, hwhole, hbefore, hafter⟩ := (trim_eq_iff whole (trim whole)).mp rfl
  rw [Contains, Contains, hwhole, infix_append_blanks_iff hpart.stopsRun_reverse hafter,
    infix_append_iff_of_stopsRun hpart.stopsRun hbefore]

end LineLandmarks.Text
