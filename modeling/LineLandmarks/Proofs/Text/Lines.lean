import LineLandmarks.Text.Lines
import Mathlib.Tactic.Lemma

/-!
# Splitting undoes joining

A text is its lines with their terminators between them, and splitting finds exactly these lines
(`splitLines_eq_iff`). Which terminators stand between them does not matter, as long as no carriage
return that ends a line by itself has a line feed behind it: those two would be one terminator.
Reading a text once from left to right finds what replacing the terminators all over the text and
then splitting at line feeds would (`splitLines_eq_splitOn`).
-/

namespace LineLandmarks.Text

/-- The `line` holds no carriage return and no line feed. -/
def IsLine (line : List Char) : Prop :=
  ∀ c ∈ line, isBreak c = false

/-- Lines with the terminators between them, of which no `cr` that ends a line by itself is directly
followed by a line feed in the joined text. -/
structure AreLines (first : List Char) (rest : List (Terminator × List Char)) : Prop where
  isLine : ∀ line ∈ first :: rest.map Prod.snd, IsLine line
  cr_alone : ∀ before line after, rest = before ++ (.cr, line) :: after →
    (joinLines line after).head? ≠ some '\n'

/-! ## Lines and joined texts -/

@[simp] lemma isBreak_eq_true_iff (c : Char) : isBreak c = true ↔ c = '\n' ∨ c = '\r' := by
  simp [isBreak]

@[simp] lemma isLine_cons {c : Char} {line : List Char} :
    IsLine (c :: line) ↔ isBreak c = false ∧ IsLine line := by
  simp [IsLine]

@[simp] lemma isLine_reverse {line : List Char} : IsLine line.reverse ↔ IsLine line := by
  simp [IsLine]

@[simp] lemma joinLines_nil (first : List Char) : joinLines first [] = first := by
  simp [joinLines]

@[simp] lemma joinLines_cons (first : List Char) (t : Terminator) (line : List Char)
    (rest : List (Terminator × List Char)) :
    joinLines first ((t, line) :: rest) = first ++ (t.chars ++ joinLines line rest) := by
  simp [joinLines]

@[simp] lemma areLines_nil {first : List Char} : AreLines first [] ↔ IsLine first := by
  constructor
  · intro h
    exact h.isLine first (by simp)
  · intro h
    exact ⟨by simpa using h, by simp⟩

/-- One more line `first` in front, behind whose terminator `t` the others stand. -/
@[simp] lemma areLines_cons {first line : List Char} {t : Terminator}
    {rest : List (Terminator × List Char)} :
    AreLines first ((t, line) :: rest) ↔
      IsLine first ∧ (t = .cr → (joinLines line rest).head? ≠ some '\n') ∧ AreLines line rest := by
  constructor
  · intro h
    refine ⟨h.isLine first (by simp), ?_, ?_, ?_⟩
    · intro ht
      exact h.cr_alone [] line rest (by rw [ht, List.nil_append])
    · intro other hother
      exact h.isLine other (List.mem_cons_of_mem _ hother)
    · intro before other after hrest
      exact h.cr_alone ((t, line) :: before) other after (by rw [hrest, List.cons_append])
  · intro h
    obtain ⟨hfirst, hcr, hrest⟩ := h
    refine ⟨?_, ?_⟩
    · intro other hother
      rcases List.mem_cons.mp hother with rfl | hother
      · exact hfirst
      · exact hrest.isLine other hother
    · intro before other after heq
      -- the carriage return is the first terminator or one of the others
      cases before with
      | nil =>
        obtain ⟨hhead, htail⟩ := List.cons.inj heq
        obtain ⟨ht, hline⟩ := Prod.mk.inj hhead
        rw [← hline, ← htail]
        exact hcr ht
      | cons r before =>
        exact hrest.cr_alone before other after (List.cons.inj heq).2

/-! ## One step of splitting -/

/-- At a `Terminator` the unfinished `line` ends and the next one starts. -/
lemma splitFrom_terminator (line : List Char) (t : Terminator) {rest : List Char}
    (h : t = .cr → rest.head? ≠ some '\n') :
    splitFrom line (t.chars ++ rest) = line.reverse :: splitFrom [] rest := by
  cases t with
  | lf => simp [Terminator.chars, splitFrom, isBreak]
  | crlf => simp [Terminator.chars, splitFrom]
  | cr =>
    rw [Terminator.chars, List.singleton_append, splitFrom]
    · simp [isBreak]
    · intro rest' _ hrest
      exact h rfl (by rw [hrest, List.head?_cons])

/-- A character that is not `isBreak` belongs to the unfinished `line`. -/
lemma splitFrom_cons_of_not_isBreak (line : List Char) {c : Char} (rest : List Char)
    (hc : isBreak c = false) : splitFrom line (c :: rest) = splitFrom (c :: line) rest := by
  rw [splitFrom]
  · rw [hc, if_neg Bool.false_ne_true]
  · intro rest' hcr _
    rw [hcr] at hc
    exact absurd hc (by decide)

lemma splitFrom_append (line : List Char) {more : List Char} (rest : List Char)
    (hmore : IsLine more) :
    splitFrom line (more ++ rest) = splitFrom (more.reverse ++ line) rest := by
  induction more generalizing line with
  | nil => rfl
  | cons c more ih =>
    obtain ⟨hc, hmore⟩ := isLine_cons.mp hmore
    rw [List.cons_append, splitFrom_cons_of_not_isBreak line _ hc, ih _ hmore, List.reverse_cons,
      List.append_assoc, List.singleton_append]

/-! ## Splitting what was joined -/

/-- Lines that were joined by `joinLines` are found again by `splitLines`. -/
theorem splitLines_joinLines {first : List Char} {rest : List (Terminator × List Char)}
    (h : AreLines first rest) :
    splitLines (joinLines first rest) = first :: rest.map Prod.snd := by
  induction rest generalizing first with
  | nil =>
    have hfirst := splitFrom_append [] [] (areLines_nil.mp h)
    rw [List.append_nil, List.append_nil] at hfirst
    rw [splitLines, joinLines_nil, hfirst, splitFrom, List.reverse_reverse, List.map_nil]
  | cons r rest ih =>
    obtain ⟨t, line⟩ := r
    obtain ⟨hfirst, hcr, hrest⟩ := areLines_cons.mp h
    rw [splitLines, joinLines_cons, splitFrom_append [] _ hfirst, splitFrom_terminator _ t hcr,
      List.append_nil, List.reverse_reverse, List.map_cons]
    exact congrArg _ (ih hrest)

/-! ## Joining what was split -/

/-- The lines that `splitFrom` finds in `text`, the first of them begun as `line`, make up the text
again. -/
private def Rejoins (line text : List Char) : Prop :=
  ∃ first rest, AreLines first rest ∧ line.reverse ++ text = joinLines first rest
    ∧ splitFrom line text = first :: rest.map Prod.snd

/-- Where the begun `line` ends, the lines behind it are those of the text behind its terminator. -/
private lemma Rejoins.terminator {line text : List Char} (h : Rejoins [] text) (hline : IsLine line)
    (t : Terminator) (hcr : t = .cr → text.head? ≠ some '\n') :
    Rejoins line (t.chars ++ text) := by
  obtain ⟨next, rest, hrest, htext, hsplit⟩ := h
  rw [List.reverse_nil, List.nil_append] at htext
  refine ⟨line.reverse, (t, next) :: rest,
    areLines_cons.mpr ⟨isLine_reverse.mpr hline, htext ▸ hcr, hrest⟩, ?_, ?_⟩
  · rw [joinLines_cons, ← htext]
  · rw [splitFrom_terminator line t hcr, hsplit, List.map_cons]

private lemma rejoins (line text : List Char) (hline : IsLine line) : Rejoins line text := by
  -- the induction follows the reader
  fun_induction splitFrom line text with
  | case1 line =>
    refine ⟨line.reverse, [], areLines_nil.mpr (isLine_reverse.mpr hline), ?_, rfl⟩
    rw [joinLines_nil, List.append_nil]
  | case2 line text ih =>
    exact (ih (by simp [IsLine])).terminator hline .crlf nofun
  | case3 line c text hcrlf hc ih =>
    have hnext := ih (by simp [IsLine])
    rcases (isBreak_eq_true_iff c).mp hc with rfl | rfl
    · exact hnext.terminator hline .lf nofun
    · refine hnext.terminator hline .cr fun _ hhead => ?_
      obtain ⟨text', htext'⟩ := List.head?_eq_some_iff.mp hhead
      exact hcrlf text' rfl htext'
  | case4 line c text hcrlf hc ih =>
    have hc : isBreak c = false := Bool.eq_false_iff.mpr hc
    obtain ⟨first, rest, hrest, htext, hsplit⟩ := ih (isLine_cons.mpr ⟨hc, hline⟩)
    refine ⟨first, rest, hrest, ?_, ?_⟩
    · rw [← htext, List.reverse_cons, List.append_assoc, List.singleton_append]
    · rw [splitFrom_cons_of_not_isBreak line text hc, hsplit]

/-- The lines that `splitLines` finds in `text` are those that it is joined from. -/
theorem splitLines_eq_iff (text : List Char) (lines : List (List Char)) :
    splitLines text = lines ↔
      ∃ first rest, AreLines first rest ∧ text = joinLines first rest
        ∧ lines = first :: rest.map Prod.snd := by
  constructor
  · intro h
    obtain ⟨first, rest, hlines, htext, hsplit⟩ := rejoins [] text (by simp [IsLine])
    exact ⟨first, rest, hlines, htext, h ▸ hsplit⟩
  · intro h
    obtain ⟨first, rest, hlines, htext, heq⟩ := h
    rw [htext, heq]
    exact splitLines_joinLines hlines

/-- What `splitLines` gives are lines. -/
lemma isLine_of_mem_splitLines {text line : List Char} (h : line ∈ splitLines text) :
    IsLine line := by
  obtain ⟨first, rest, hlines, -, heq⟩ := (splitLines_eq_iff text _).mp rfl
  rw [heq] at h
  exact hlines.isLine line h

/-- A character `c` that is no terminator belongs to the first line of a text that starts with
it. -/
lemma splitLines_cons {c : Char} (hc : isBreak c = false) (text : List Char) :
    ∃ first more, splitLines text = first :: more
      ∧ splitLines (c :: text) = (c :: first) :: more := by
  obtain ⟨first, rest, hlines, htext, heq⟩ := (splitLines_eq_iff text _).mp rfl
  have hfirst : ∀ line ∈ (c :: first) :: rest.map Prod.snd, IsLine line := by
    intro line hline
    rcases List.mem_cons.mp hline with rfl | hline
    · exact isLine_cons.mpr ⟨hc, hlines.isLine first List.mem_cons_self⟩
    · exact hlines.isLine line (List.mem_cons_of_mem first hline)
  have hjoined : AreLines (c :: first) rest := ⟨hfirst, hlines.cr_alone⟩
  refine ⟨first, rest.map Prod.snd, heq, ?_⟩
  rw [htext, ← splitLines_joinLines hjoined, joinLines, joinLines, List.cons_append]

/-! ## Replacing terminators before splitting -/

/-- The pair `\r\n` becomes one `\n`. -/
def uniteCrlf : List Char → List Char
  | [] => []
  | '\r' :: '\n' :: rest => '\n' :: uniteCrlf rest
  | c :: rest => c :: uniteCrlf rest

/-- The character `\r` becomes `\n`. -/
def crToLf (c : Char) : Char :=
  if c = '\r' then '\n' else c

/-- The text with each terminator replaced by `\n`: the pairs first, then what is left of the
carriage returns. -/
def normalize (text : List Char) : List Char :=
  (uniteCrlf text).map crToLf

private lemma normalize_terminator (t : Terminator) {rest : List Char}
    (h : t = .cr → rest.head? ≠ some '\n') :
    normalize (t.chars ++ rest) = '\n' :: normalize rest := by
  cases t with
  | lf => simp [Terminator.chars, normalize, uniteCrlf, crToLf]
  | crlf => simp [Terminator.chars, normalize, uniteCrlf, crToLf]
  | cr =>
    rw [Terminator.chars, List.singleton_append, normalize, uniteCrlf]
    · simp [normalize, crToLf]
    · intro rest' _ hrest
      exact h rfl (by rw [hrest, List.head?_cons])

private lemma normalize_append {line : List Char} (hline : IsLine line) (rest : List Char) :
    normalize (line ++ rest) = line ++ normalize rest := by
  induction line with
  | nil => rfl
  | cons c line ih =>
    obtain ⟨hc, hline⟩ := isLine_cons.mp hline
    have hcr : c ≠ '\r' := by
      intro hcr
      rw [hcr] at hc
      exact absurd hc (by decide)
    rw [List.cons_append, normalize, uniteCrlf]
    · rw [List.map_cons, crToLf, if_neg hcr, List.cons_append, ← ih hline]
      rfl
    · intro rest' heq _
      exact hcr heq

/-- Lines that were joined by any terminators are joined by `\n` in `normalize`. -/
private lemma normalize_joinLines {first : List Char} {rest : List (Terminator × List Char)}
    (h : AreLines first rest) :
    normalize (joinLines first rest) = ['\n'].intercalate (first :: rest.map Prod.snd) := by
  induction rest generalizing first with
  | nil =>
    have hfirst := normalize_append (areLines_nil.mp h) []
    rw [List.append_nil] at hfirst
    rw [joinLines_nil, hfirst]
    simp [normalize, uniteCrlf]
  | cons r rest ih =>
    obtain ⟨t, line⟩ := r
    obtain ⟨hfirst, hcr, hrest⟩ := areLines_cons.mp h
    rw [joinLines_cons, normalize_append hfirst, normalize_terminator t hcr, ih hrest]
    simp [List.intercalate]

/-- The lines of `text` stand between the line feeds of `normalize text`. -/
theorem splitLines_eq_splitOn (text : List Char) :
    splitLines text = (normalize text).splitOn '\n' := by
  obtain ⟨first, rest, hlines, htext, heq⟩ := (splitLines_eq_iff text _).mp rfl
  have hlf : ∀ line ∈ first :: rest.map Prod.snd, '\n' ∉ line := by
    intro line hline hmem
    have := hlines.isLine line hline '\n' hmem
    exact absurd this (by decide)
  rw [heq, htext, normalize_joinLines hlines,
    List.splitOn_intercalate '\n' hlf (List.cons_ne_nil _ _)]

/-! ## Rows of an output -/

/-- A `word` without line feeds stands at the front of the first row. -/
theorem splitOn_append_of_notMem {word : List Char} (h : '\n' ∉ word) (rest : List Char) :
    (word ++ rest).splitOn '\n' = (rest.splitOn '\n').modifyHead (word ++ ·) := by
  induction word with
  | nil =>
    rw [List.nil_append]
    cases rest.splitOn '\n' <;> rfl
  | cons c word ih =>
    obtain ⟨hc, hword⟩ := not_or.mp (mt List.mem_cons.mpr h)
    rw [List.cons_append, List.splitOn_cons_eq_if_modifyHead, if_neg (by simpa using Ne.symm hc),
      ih hword, List.modifyHead_modifyHead]
    rfl

/-- The `rows` that hold no line feed are found between those behind them; nothing stands behind the
last. -/
theorem splitOn_join_rows {rows : List String} (h : ∀ row ∈ rows, '\n' ∉ row.toList) :
    (String.join (rows.map (· ++ "\n"))).toList.splitOn '\n' = rows.map String.toList ++ [[]] := by
  rw [String.toList_join]
  induction rows with
  | nil => rfl
  | cons row rows ih =>
    obtain ⟨hrow, hrows⟩ := List.forall_mem_cons.mp h
    rw [List.map_cons, List.flatMap_cons, String.toList_append, List.append_assoc,
      List.map_cons, List.cons_append, ← ih hrows]
    exact List.splitOn_append_cons_self_of_not_mem hrow _

end LineLandmarks.Text
