import LineLandmarks.Landmarks
import LineLandmarks.Proofs.Matcher
import LineLandmarks.Proofs.Text.Trim

/-!
# Landmarks are the last lines of their kind

Each landmark is the greatest number of a line that its rule holds of (`scan_isLast`). The
invariant is that this is so of the lines read so far: one more line takes its own number to the
landmark it is, and leaves the others alone.
-/

namespace LineLandmarks

open Text (Contains TrimsTo trim_eq_iff)

/-! ## Greatest numbers -/

/-- The number `found` is the greatest with `p`, or `none` where no number has `p`. -/
def IsLast (p : ℕ → Prop) (found : Option ℕ) : Prop :=
  (∀ i, found = some i ↔ p i ∧ ∀ j, p j → j ≤ i) ∧ (found = none ↔ ∀ i, ¬ p i)

lemma isLast_none {p : ℕ → Prop} (h : ∀ i, ¬ p i) : IsLast p none := by
  refine ⟨fun i => ⟨fun hi => by simp at hi, fun hi => absurd hi.1 (h i)⟩, ?_⟩
  simp [h]

lemma isLast_some {p : ℕ → Prop} {n : ℕ} (hn : p n) (h : ∀ i, p i → i ≤ n) :
    IsLast p (some n) := by
  refine ⟨fun i => ⟨?_, ?_⟩, ?_⟩
  · intro hi
    cases hi
    exact ⟨hn, h⟩
  · intro hi
    rw [Nat.le_antisymm (h i hi.1) (hi.2 n hn)]
  · constructor
    · intro hnone
      cases hnone
    · intro hall
      exact absurd hn (hall n)

lemma IsLast.of_eq_some {p : ℕ → Prop} {found : Option ℕ} (h : IsLast p found) {n : ℕ}
    (hn : found = some n) : p n ∧ ∀ i, p i → i ≤ n :=
  (h.1 n).mp hn

lemma IsLast.of_eq_none {p : ℕ → Prop} {found : Option ℕ} (h : IsLast p found)
    (hnone : found = none) (i : ℕ) : ¬ p i :=
  h.2.mp hnone i

lemma IsLast.congr {p q : ℕ → Prop} {found : Option ℕ} (h : IsLast p found)
    (hpq : ∀ i, q i ↔ p i) : IsLast q found := by
  simpa only [IsLast, hpq] using h

/-- A number `n` above all with `p` becomes the last one if it has the property itself. -/
lemma IsLast.extend {p q : ℕ → Prop} {found : Option ℕ} {n : ℕ} {b : Prop} [Decidable b]
    (h : IsLast p found) (hlt : ∀ i, p i → i < n) (hq : ∀ i, q i ↔ p i ∨ (i = n ∧ b)) :
    IsLast q (if b then some n else found) := by
  by_cases hb : b
  · rw [if_pos hb]
    apply isLast_some ((hq n).mpr (Or.inr ⟨rfl, hb⟩))
    intro i hi
    rcases (hq i).mp hi with hp | ⟨rfl, -⟩
    · exact Nat.le_of_lt (hlt i hp)
    · exact Nat.le_refl i
  · rw [if_neg hb]
    apply h.congr
    intro i
    simp [hq, hb]

/-! ## Lines with a property -/

/-- The document `d` has a line with the number `i`, and the two have `p`. -/
def Document.HasLine (d : Document) (p : ℕ → String → Prop) (i : ℕ) : Prop :=
  ∃ line, d.line? i = some line ∧ p i line

private lemma hasLine_append_iff (p : ℕ → String → Prop) (lines : List String) (line : String)
    (i : ℕ) :
    (Document.mk (lines ++ [line])).HasLine p i ↔
      (Document.mk lines).HasLine p i ∨ (i = lines.length ∧ p lines.length line) := by
  simp only [Document.HasLine, Document.line?, List.getElem?_append, List.getElem?_singleton]
  by_cases hi : i < lines.length
  · have hne : i ≠ lines.length := Nat.ne_of_lt hi
    simp [hi, hne]
  · by_cases heq : i = lines.length
    · subst heq
      simp
    · have hsub : i - lines.length ≠ 0 := by omega
      simp [hi, heq, hsub]

private lemma lt_of_hasLine {p : ℕ → String → Prop} {lines : List String} {i : ℕ}
    (h : (Document.mk lines).HasLine p i) : i < lines.length := by
  obtain ⟨line, hline, -⟩ := h
  exact (List.getElem?_eq_some_iff.mp hline).1

/-- One more `line`: it is the last one with `p`, or the last one stays what it is. -/
private lemma IsLast.append_line {p : ℕ → String → Prop} {lines : List String}
    {found : Option ℕ} (h : IsLast ((Document.mk lines).HasLine p) found) (line : String)
    [Decidable (p lines.length line)] :
    IsLast ((Document.mk (lines ++ [line])).HasLine p)
      (if p lines.length line then some lines.length else found) :=
  h.extend (fun _ => lt_of_hasLine) (hasLine_append_iff p lines line)

/-! ## What makes a line a landmark -/

namespace Rules

@[simp] lemma inBlockEndWindow_iff (r : Rules) (i : ℕ) :
    r.inBlockEndWindow i = true ↔ r.blockEndAfter.toNat < i ∧ i < r.blockEndBefore.toNat := by
  simp [inBlockEndWindow]

/-- The line announces the put method: it contains `putSignature`. -/
def AnnouncesPut (r : Rules) (_ : ℕ) (line : String) : Prop :=
  Contains line r.putSignature

/-- The line announces the exists method: it contains `existsSignature`, and not `putSignature`. -/
def AnnouncesExists (r : Rules) (_ : ℕ) (line : String) : Prop :=
  Contains line r.existsSignature ∧ ¬ Contains line r.putSignature

/-- The line ends the block: its number `i` lies strictly between the bounds, it announces no
method, and it is `blockEndLine` between blanks. -/
def EndsBlock (r : Rules) (i : ℕ) (line : String) : Prop :=
  (r.blockEndAfter.toNat < i ∧ i < r.blockEndBefore.toNat)
    ∧ (¬ Contains line r.putSignature ∧ ¬ Contains line r.existsSignature)
    ∧ TrimsTo line r.blockEndLine

instance (r : Rules) (i : ℕ) (line : String) : Decidable (r.AnnouncesPut i line) :=
  inferInstanceAs (Decidable (Contains line r.putSignature))

instance (r : Rules) (i : ℕ) (line : String) : Decidable (r.AnnouncesExists i line) :=
  inferInstanceAs (Decidable (Contains line r.existsSignature ∧ ¬ Contains line r.putSignature))

instance (r : Rules) (i : ℕ) (line : String) : Decidable (r.EndsBlock i line) :=
  inferInstanceAs (Decidable ((r.blockEndAfter.toNat < i ∧ i < r.blockEndBefore.toNat)
    ∧ (¬ Contains line r.putSignature ∧ ¬ Contains line r.existsSignature)
    ∧ TrimsTo line r.blockEndLine))

end Rules

/-! ## One line -/

namespace Scanner

@[simp] lemma rules_ofRules (r : Rules) : (ofRules r).rules = r := rfl

@[simp] lemma matcher_ofRules (r : Rules) : (ofRules r).matcher = .ofRules r := rfl

/-- The step `mark` sets the landmark that `line` is to `i`, and no other. -/
theorem mark_ofRules (r : Rules) (marks : Landmarks) (line : String) (i : ℕ) :
    (ofRules r).mark marks line i =
      { putStart := if r.AnnouncesPut i line then some i else marks.putStart
        existsStart := if r.AnnouncesExists i line then some i else marks.existsStart
        blockEnd := if r.EndsBlock i line then some i else marks.blockEnd } := by
  rw [mark, matcher_ofRules, rules_ofRules, Matcher.classify_ofRules]
  simp only [Rules.AnnouncesPut, Rules.AnnouncesExists, Rules.EndsBlock]
  -- the first rule that holds of a line rules the others out
  by_cases hput : Contains line r.putSignature
  · simp [hput]
  · by_cases hexists : Contains line r.existsSignature
    · simp [hput, hexists]
    · simp only [hput, hexists, if_false, Bool.and_eq_true, Rules.inBlockEndWindow_iff, beq_iff_eq,
        trim_eq_iff, not_false_eq_true, and_self, true_and, and_true]
      split <;> rfl

/-- A `scan` of one line more is a `mark` of it, with its number, behind the others. -/
lemma scan_append_line (s : Scanner) (lines : List String) (line : String) :
    s.scan ⟨lines ++ [line]⟩ = s.mark (s.scan ⟨lines⟩) line lines.length := by
  simp [scan, List.zipIdx_append]

end Scanner

/-! ## A document -/

/-- Each of `marks` is the number of the last line of its kind in `d`. -/
structure Landmarks.AreLast (marks : Landmarks) (r : Rules) (d : Document) : Prop where
  putStart : IsLast (d.HasLine r.AnnouncesPut) marks.putStart
  existsStart : IsLast (d.HasLine r.AnnouncesExists) marks.existsStart
  blockEnd : IsLast (d.HasLine r.EndsBlock) marks.blockEnd

/-- The step `mark` keeps `AreLast` when one line comes to the document. -/
lemma Landmarks.AreLast.append_line {marks : Landmarks} {r : Rules} {lines : List String}
    (h : marks.AreLast r ⟨lines⟩) (line : String) :
    ((Scanner.ofRules r).mark marks line lines.length).AreLast r ⟨lines ++ [line]⟩ := by
  rw [Scanner.mark_ofRules]
  exact ⟨h.putStart.append_line line, h.existsStart.append_line line,
    h.blockEnd.append_line line⟩

/-- A `scan` finds the last lines of each kind. -/
lemma areLast_scan (r : Rules) (d : Document) : (scan r d).AreLast r d := by
  obtain ⟨lines⟩ := d
  -- the invariant of the lines read so far, by induction on how many there are
  induction lines using List.reverseRecOn with
  | nil =>
    have hno : ∀ (p : ℕ → String → Prop) (i : ℕ), ¬ (Document.mk []).HasLine p i := by
      intro p i h
      obtain ⟨line, hline, -⟩ := h
      simp [Document.line?] at hline
    exact ⟨isLast_none (hno _), isLast_none (hno _), isLast_none (hno _)⟩
  | append_singleton lines line ih =>
    rw [scan, Scanner.scan_append_line]
    exact ih.append_line line

/-- A `scan` sets each landmark to the number of the last line of its kind, and leaves it `none`
where there is no such line. -/
theorem scan_isLast (r : Rules) (d : Document) :
    IsLast (d.HasLine r.AnnouncesPut) (scan r d).putStart
      ∧ IsLast (d.HasLine r.AnnouncesExists) (scan r d).existsStart
      ∧ IsLast (d.HasLine r.EndsBlock) (scan r d).blockEnd := by
  obtain ⟨hput, hexists, hend⟩ := areLast_scan r d
  exact ⟨hput, hexists, hend⟩

/-- A line with both signatures counts as a put line. -/
example :
    scan { Rules.default with putSignature := "put", existsSignature := "exists" }
      ⟨["put", "exists", "exists put"]⟩ = ⟨some 2, some 1, none⟩ := by
  decide

end LineLandmarks
