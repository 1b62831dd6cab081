import LineLandmarks.Proofs.Document
import LineLandmarks.Proofs.Excerpt
import LineLandmarks.Proofs.Report.Output
import LineLandmarks.Proofs.Text.Run

/-!
# The text report read back

A text report has no escapes. It can be read back all the same, since no line of a document that was
made of a text holds a line feed: the rows of the report are what stands between its line feeds, and
in the row of an excerpt line the first colon with a blank behind it ends the number. So two reports
with the same text are on the same landmarks and the same excerpt (`writeText_readable`).
-/

namespace LineLandmarks.Report

open Text (decimal decimal_injective notMem_append notMem_decimal notMem_toString_nat
  splitOn_join_rows toList_toString_nat value_decimal)

/-! ## Line numbers -/

/-- The `indexText` of a line number is not `none`, and not that of another line number. -/
lemma indexText_injective {a b : Option ℕ} (h : indexText a = indexText b) : a = b := by
  have hnone : ∀ n : ℕ, indexText none ≠ indexText (some n) := by
    intro n hn
    have hmem : 'n' ∈ decimal n := by
      rw [← toList_toString_nat]
      show 'n' ∈ (indexText (some n)).toList
      rw [← hn]
      decide
    exact notMem_decimal (by decide) n hmem
  cases a with
  | none =>
    cases b with
    | none => rfl
    | some n => exact absurd h (hnone n)
  | some m =>
    cases b with
    | none => exact absurd h.symm (hnone m)
    | some n =>
      have hdecimal := congrArg String.toList h
      simp only [indexText, toList_toString_nat] at hdecimal
      rw [decimal_injective hdecimal]

lemma landmarkRows_injective {a b : Landmarks} (h : landmarkRows a = landmarkRows b) : a = b := by
  obtain ⟨put, exist, block⟩ := a
  obtain ⟨put', exist', block'⟩ := b
  simp only [landmarkRows, List.cons.injEq, String.append_right_inj, and_true] at h
  obtain ⟨hput, hexists, hblock⟩ := h
  rw [indexText_injective hput, indexText_injective hexists, indexText_injective hblock]

/-! ## Rows of excerpt lines -/

/-- What stands before the first colon that has a blank behind it, and what stands behind the
blank. -/
def cutAtColon : List Char → Option (List Char × List Char)
  | [] => none
  | ':' :: ' ' :: rest => some ([], rest)
  | c :: rest => (cutAtColon rest).map fun (before, after) => (c :: before, after)

/-- The line of an excerpt that `row` is about. -/
def readExcerptRow? (row : String) : Option ExcerptLine :=
  (cutAtColon row.toList).map fun (index, text) =>
    ⟨Nat.ofDigitChars 10 index 0, String.ofList text⟩

private lemma cutAtColon_append {before : List Char} (hbefore : ':' ∉ before)
    (rest : List Char) : cutAtColon (before ++ ':' :: ' ' :: rest) = some (before, rest) := by
  induction before with
  | nil => rfl
  | cons c before ih =>
    obtain ⟨hc, hbefore⟩ := not_or.mp (mt List.mem_cons.mpr hbefore)
    rw [List.cons_append, cutAtColon]
    · rw [ih hbefore]
      rfl
    · intro rest' heq _
      exact hc heq.symm

/-- The `excerptRow` of a line is read as the line, whatever its text. -/
@[simp] theorem readExcerptRow?_excerptRow (line : ExcerptLine) :
    readExcerptRow? (excerptRow line) = some line := by
  have hrow : (excerptRow line).toList = decimal line.index ++ ':' :: ' ' :: line.text.toList := by
    rw [excerptRow, String.toList_append, String.toList_append, toList_toString_nat,
      List.append_assoc]
    rfl
  rw [readExcerptRow?, hrow, cutAtColon_append (notMem_decimal (by decide) _), Option.map_some]
  simp only [value_decimal, String.ofList_toList]

/-! ## Rows of a report -/

lemma excerptRows_of_some {f : Inspection} {put exist : ℕ} (hput : f.landmarks.putStart = some put)
    (hexists : f.landmarks.existsStart = some exist) :
    excerptRows f = "" :: headingRow put exist :: f.excerpt.map excerptRow := by
  rw [excerptRows, hput, hexists]

lemma excerptRows_of_none {f : Inspection}
    (h : f.landmarks.putStart = none ∨ f.landmarks.existsStart = none) : excerptRows f = [] := by
  rw [excerptRows]
  rcases h with h | h
  · rw [h]
  · rw [h]
    cases f.landmarks.putStart <;> rfl

/-- Both `putStart` and `existsStart` are known, or one of them is not and there is no excerpt. -/
lemma known_or_unknown (marks : Landmarks) :
    (∃ put exist, marks.putStart = some put ∧ marks.existsStart = some exist)
      ∨ (marks.putStart = none ∨ marks.existsStart = none) := by
  cases hput : marks.putStart with
  | none => exact Or.inr (Or.inl rfl)
  | some put =>
    cases hexists : marks.existsStart with
    | none => exact Or.inr (Or.inr rfl)
    | some exist => exact Or.inl ⟨put, exist, rfl, rfl⟩

private lemma newline_notMem_indexText (i : Option ℕ) : '\n' ∉ (indexText i).toList := by
  cases i with
  | none => decide
  | some i => exact notMem_toString_nat (by decide) i

private lemma newline_notMem_landmarkRows (marks : Landmarks) :
    ∀ row ∈ landmarkRows marks, '\n' ∉ row.toList := by
  have hrow : ∀ (words : String) (i : Option ℕ), '\n' ∉ words.toList →
      '\n' ∉ (words ++ indexText i).toList :=
    fun _ i hwords => notMem_append hwords (newline_notMem_indexText i)
  rw [landmarkRows, List.forall_mem_cons, List.forall_mem_cons, List.forall_mem_singleton]
  exact ⟨hrow _ _ (by decide), hrow _ _ (by decide), hrow _ _ (by decide)⟩

private lemma newline_notMem_headingRow (put exist : ℕ) :
    '\n' ∉ (headingRow put exist).toList := by
  have hput : '\n' ∉ ("Lines between put and exists (" ++ toString put).toList :=
    notMem_append (by decide) (notMem_toString_nat (by decide) put)
  have hto : '\n' ∉ ("Lines between put and exists (" ++ toString put ++ " to ").toList :=
    notMem_append hput (by decide)
  exact notMem_append (notMem_append hto (notMem_toString_nat (by decide) exist)) (by decide)

private lemma newline_notMem_excerptRow {line : ExcerptLine} (h : '\n' ∉ line.text.toList) :
    '\n' ∉ (excerptRow line).toList := by
  have hindex : '\n' ∉ (toString line.index ++ ": ").toList :=
    notMem_append (notMem_toString_nat (by decide) line.index) (by decide)
  exact notMem_append hindex h

/-- None of the `textRows` on lines without line feeds holds one. -/
lemma newline_notMem_textRows {f : Inspection}
    (h : ∀ line ∈ f.excerpt, '\n' ∉ line.text.toList) : ∀ row ∈ textRows f, '\n' ∉ row.toList := by
  have hexcerpt : ∀ row ∈ excerptRows f, '\n' ∉ row.toList := by
    rcases known_or_unknown f.landmarks with ⟨put, exist, hput, hexists⟩ | hnone
    · rw [excerptRows_of_some hput hexists]
      refine List.forall_mem_cons.mpr ⟨by decide, List.forall_mem_cons.mpr
        ⟨newline_notMem_headingRow put exist, ?_⟩⟩
      intro row hrow
      obtain ⟨line, hline, rfl⟩ := List.mem_map.mp hrow
      exact newline_notMem_excerptRow (h line hline)
    · rw [excerptRows_of_none hnone]
      exact nofun
  intro row hrow
  rcases List.mem_append.mp hrow with hrow | hrow
  · exact newline_notMem_landmarkRows f.landmarks row hrow
  · exact hexcerpt row hrow

/-- A line of the excerpt of `ofText text` holds no line feed. -/
lemma newline_notMem_of_mem_excerpt {f : Inspection} {text : String}
    (hf : f.document = .ofText text) : ∀ line ∈ f.excerpt, '\n' ∉ line.text.toList := by
  intro line hline hmem
  have hlines : line.text ∈ f.document.lines := text_mem_of_mem_excerpt hline
  rw [hf] at hlines
  have hbreak := Document.isLine_of_mem_ofText hlines '\n' hmem
  exact absurd hbreak (by decide)

/-- The `textRows` on a document `ofText text` stand between the line feeds of the report. -/
lemma splitOn_wholeText {f : Inspection} {text : String} (hf : f.document = .ofText text) :
    (wholeText f).toList.splitOn '\n' = (textRows f).map String.toList ++ [[]] :=
  splitOn_join_rows (newline_notMem_textRows (newline_notMem_of_mem_excerpt hf))

/-- There are three `landmarkRows` and, where both lines are known, two rows before those of the
excerpt lines. -/
lemma length_textRows (f : Inspection) :
    (textRows f).length =
      if f.landmarks.putStart.isSome && f.landmarks.existsStart.isSome then 5 + f.excerpt.length
      else 3 := by
  rw [textRows, List.length_append]
  rcases known_or_unknown f.landmarks with ⟨put, exist, hput, hexists⟩ | hnone
  · rw [excerptRows_of_some hput hexists, hput, hexists]
    simp [landmarkRows]
    omega
  · rw [excerptRows_of_none hnone, if_neg]
    · rfl
    · rcases hnone with h | h <;> simp [h]

/-- Row `5 + k` is on the line `k` of the excerpt. -/
lemma getElem?_textRows (f : Inspection) (k : ℕ) :
    (textRows f)[5 + k]?.bind readExcerptRow? = f.excerpt[k]? := by
  rcases known_or_unknown f.landmarks with ⟨put, exist, hput, hexists⟩ | hnone
  · have hrow : (textRows f)[5 + k]? = (f.excerpt.map excerptRow)[k]? := by
      rw [textRows, excerptRows_of_some hput hexists, Nat.add_comm]
      rfl
    rw [hrow, List.getElem?_map]
    cases f.excerpt[k]? with
    | none => rfl
    | some line => exact readExcerptRow?_excerptRow line
  · have hnil : f.excerpt = [] := excerpt_eq_nil hnone
    have hrow : (textRows f)[5 + k]? = none := by
      rw [textRows, excerptRows_of_none hnone, List.append_nil]
      exact List.getElem?_eq_none (by simp [landmarkRows]; omega)
    rw [hrow, hnil, List.getElem?_nil]
    rfl

/-! ## Reading a report back -/

/-- The `textRows` tell the landmarks and the excerpt. -/
lemma textRows_injective {f g : Inspection} (h : textRows f = textRows g) :
    f.landmarks = g.landmarks ∧ f.excerpt = g.excerpt := by
  obtain ⟨hlandmarks, -⟩ := List.append_inj h rfl
  refine ⟨landmarkRows_injective hlandmarks, List.ext_getElem? ?_⟩
  intro k
  rw [← getElem?_textRows, ← getElem?_textRows, h]

/-- A text report on a document `ofText text` splits at its line feeds into three terminated rows,
or into five and one for each line of the excerpt where the put line and the exists line are known;
row `5 + k` cut at its first colon with a blank behind it is line `k` of the excerpt. Two such
reports with the same text are on the same landmarks and the same excerpt. -/
theorem writeText_readable {f : Inspection} {text : String} (hf : f.document = .ofText text) :
    (∃ (report : String) (rows : List String),
        writeText f (.unbounded ()) = (.ok (), { Sink.unbounded () with held := report.toUTF8 })
          ∧ report.toList.splitOn '\n' = rows.map String.toList ++ [[]]
          ∧ rows.length =
              (if f.landmarks.putStart.isSome && f.landmarks.existsStart.isSome then
                5 + f.excerpt.length
              else 3)
          ∧ ∀ k, rows[5 + k]?.bind readExcerptRow? = f.excerpt[k]?)
      ∧ ∀ (g : Inspection) (text' : String), g.document = .ofText text' →
          (writeText f (.unbounded ())).2.held = (writeText g (.unbounded ())).2.held →
          f.landmarks = g.landmarks ∧ f.excerpt = g.excerpt := by
  have hwrite : ∀ f : Inspection, writeText f (.unbounded ())
      = (.ok (), { Sink.unbounded () with held := (wholeText f).toUTF8 }) :=
    fun f => (Sink.fillsUp_writeAll (textPieces f) 0 ()).unbounded
  refine ⟨⟨wholeText f, textRows f, hwrite f, splitOn_wholeText hf, length_textRows f,
    getElem?_textRows f⟩, ?_⟩
  intro g text' hg hsame
  rw [hwrite f, hwrite g] at hsame
  have hwhole : wholeText f = wholeText g := String.toByteArray_inj.mp hsame
  have hsplit : (textRows f).map String.toList ++ [[]]
      = (textRows g).map String.toList ++ [[]] := by
    rw [← splitOn_wholeText hf, hwhole, splitOn_wholeText hg]
  have hrows : textRows f = textRows g :=
    (List.map_inj_right fun _ _ => String.toList_inj.mp).mp (List.append_cancel_right hsplit)
  exact textRows_injective hrows

/-- Two documents that differ in their terminators and behind the excerpt, whose first line holds a
colon with a blank behind it. -/
theorem writeText_readable_colon :
    let f : Inspection :=
      ⟨.ofText "none: 1: 2\nb\nc", ⟨some 0, some 2, none⟩, { Rules.default with excerpt := ⟨0, 2⟩ }⟩
    let g : Inspection :=
      ⟨.ofText "none: 1: 2\r\nb\rd\n", ⟨some 0, some 2, none⟩,
        { Rules.default with excerpt := ⟨0, 9⟩ }⟩
    (f.document = .ofText "none: 1: 2\nb\nc" ∧ g.document = .ofText "none: 1: 2\r\nb\rd\n"
        ∧ (writeText f (.unbounded ())).2.held = (writeText g (.unbounded ())).2.held)
      ∧ (∃ (report : String) (rows : List String),
          (writeText f (.unbounded ())).2.held = report.toUTF8
            ∧ report.toList.splitOn '\n' = rows.map String.toList ++ [[]]
            ∧ rows.length = 7 ∧ rows[5]?.bind readExcerptRow? = some ⟨0, "none: 1: 2"⟩)
      ∧ f.landmarks = g.landmarks ∧ f.excerpt = g.excerpt := by
  intro f g
  have hf : f.document = .ofText "none: 1: 2\nb\nc" := rfl
  have hg : g.document = .ofText "none: 1: 2\r\nb\rd\n" := rfl
  have hsame : (writeText f (.unbounded ())).2.held = (writeText g (.unbounded ())).2.held := by
    have hpieces : textPieces f = textPieces g := by decide
    rw [writeText, writeText, hpieces]
  obtain ⟨⟨report, rows, hwrite, hsplit, hlength, hrows⟩, hunique⟩ :=
    writeText_readable hf
  refine ⟨⟨hf, hg, hsame⟩, ⟨report, rows, by rw [hwrite], hsplit, ?_, ?_⟩, ?_⟩
  · rw [hlength]
    decide
  · rw [hrows 0]
    decide
  · exact hunique g _ hg hsame

end LineLandmarks.Report
