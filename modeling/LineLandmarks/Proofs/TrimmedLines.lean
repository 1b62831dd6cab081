import LineLandmarks.Proofs.Landmarks
import LineLandmarks.Proofs.Text.Padding

/-!
# Landmarks of indented lines

Under signatures that have no blanks at their ends a line is the same landmark whatever blanks stand
around it: a scan finds in a document what it finds in the document of its trimmed lines. So two
documents whose lines differ only in the blanks around them have the same landmarks
(`scan_eq_of_trim_eq`).
-/

namespace LineLandmarks

open Text (IsTrimmed TrimsTo contains_trim_iff trim trim_eq_iff trim_trim)

variable {r : Rules}

/-! ## One line -/

namespace Rules

lemma announcesPut_trim_iff (hput : IsTrimmed r.putSignature) (i : ℕ) (line : String) :
    r.AnnouncesPut i (trim line) ↔ r.AnnouncesPut i line := by
  unfold AnnouncesPut
  exact contains_trim_iff hput line

lemma announcesExists_trim_iff (hput : IsTrimmed r.putSignature)
    (hexists : IsTrimmed r.existsSignature) (i : ℕ) (line : String) :
    r.AnnouncesExists i (trim line) ↔ r.AnnouncesExists i line := by
  unfold AnnouncesExists
  rw [contains_trim_iff hput, contains_trim_iff hexists]

lemma endsBlock_trim_iff (hput : IsTrimmed r.putSignature) (hexists : IsTrimmed r.existsSignature)
    (i : ℕ) (line : String) : r.EndsBlock i (trim line) ↔ r.EndsBlock i line := by
  have htrims : TrimsTo (trim line) r.blockEndLine ↔ TrimsTo line r.blockEndLine := by
    rw [← trim_eq_iff, ← trim_eq_iff, trim_trim]
  unfold EndsBlock
  rw [contains_trim_iff hput, contains_trim_iff hexists, htrims]

end Rules

/-- The line `trim line` sets the landmarks that `line` sets. -/
lemma Scanner.mark_trim (hput : IsTrimmed r.putSignature) (hexists : IsTrimmed r.existsSignature)
    (marks : Landmarks) (line : String) (i : ℕ) :
    (ofRules r).mark marks (trim line) i = (ofRules r).mark marks line i := by
  rw [mark_ofRules, mark_ofRules]
  simp only [Rules.announcesPut_trim_iff hput, Rules.announcesExists_trim_iff hput hexists,
    Rules.endsBlock_trim_iff hput hexists]

/-! ## A document -/

/-- Each line of `d` without the blanks around it. -/
def Document.trimLines (d : Document) : Document :=
  .ofLines (d.lines.map trim)

/-- The document `d.trimLines` has the landmarks of `d`. -/
theorem scan_trimLines (hput : IsTrimmed r.putSignature) (hexists : IsTrimmed r.existsSignature)
    (d : Document) : scan r d.trimLines = scan r d := by
  obtain ⟨lines⟩ := d
  -- the scan of the lines read so far, by induction on how many there are
  induction lines using List.reverseRecOn with
  | nil => rfl
  | append_singleton lines line ih =>
    have htrim : (Document.mk (lines ++ [line])).trimLines
        = ⟨(Document.mk lines).trimLines.lines ++ [trim line]⟩ := by
      simp [Document.trimLines, Document.ofLines]
    have hsize : (Document.mk lines).trimLines.lines.length = lines.length := by
      simp [Document.trimLines, Document.ofLines]
    rw [htrim, scan, scan, Scanner.scan_append_line, Scanner.scan_append_line, hsize,
      Scanner.mark_trim hput hexists]
    exact congrArg (fun marks => (Scanner.ofRules r).mark marks line lines.length) ih

/-- Documents of one size whose lines are equal once trimmed have the same `trimLines`. -/
lemma Document.trimLines_eq {d d' : Document} (hsize : d.size = d'.size)
    (hlines : ∀ i line line', d.line? i = some line → d'.line? i = some line' →
      trim line = trim line') :
    d.trimLines = d'.trimLines := by
  have hmap : d.lines.map trim = d'.lines.map trim := by
    apply List.ext_getElem
    · rw [List.length_map, List.length_map]
      exact hsize
    · intro i hi hi'
      rw [List.getElem_map, List.getElem_map]
      exact hlines i _ _ (List.getElem?_eq_getElem _) (List.getElem?_eq_getElem _)
  rw [trimLines, trimLines, hmap]

/-- Under signatures without blanks at their ends, two documents with as many lines, each of which
differs from the other's only in what `trim` cuts off, have the same landmarks. -/
theorem scan_eq_of_trim_eq (hput : IsTrimmed r.putSignature)
    (hexists : IsTrimmed r.existsSignature) {d d' : Document} (hsize : d.size = d'.size)
    (hlines : ∀ i line line', d.line? i = some line → d'.line? i = some line' →
      trim line = trim line') :
    scan r d = scan r d' := by
  rw [← scan_trimLines hput hexists d, ← scan_trimLines hput hexists d',
    Document.trimLines_eq hsize hlines]

/-- A put line with a tab before it, an exists line with an ideographic space behind it, and a block
end between a no-break space and a carriage return stay what they are. -/
theorem scan_eq_of_trim_eq_blanks :
    let r : Rules :=
      { Rules.default with
        putSignature := "fn put", existsSignature := "fn exists", blockEndAfter := 0 }
    let d := Document.ofLines ["fn put", "fn exists", "\x7d", "fn put(a)"]
    let d' := Document.ofLines ["\tfn put", "fn exists\u3000", "\u00a0\x7d\r", "   fn put(a)"]
    (IsTrimmed r.putSignature ∧ IsTrimmed r.existsSignature)
      ∧ d.size = d'.size
      ∧ (∀ i line line', d.line? i = some line → d'.line? i = some line' → trim line = trim line')
      ∧ scan r d = scan r d'
      ∧ scan r d = ⟨some 3, some 1, some 2⟩ := by
  intro r d d'
  have hput : IsTrimmed r.putSignature := by decide
  have hexists : IsTrimmed r.existsSignature := by decide
  have hsize : d.size = d'.size := rfl
  have hlines : ∀ i line line', d.line? i = some line → d'.line? i = some line' →
      trim line = trim line' := by
    intro i line line' hline hline'
    have htrim : (d.line? i).map trim = (d'.line? i).map trim := by
      rw [Document.line?, Document.line?, ← List.getElem?_map, ← List.getElem?_map]
      exact congrArg (fun lines : List String => lines[i]?) (by decide)
    rw [hline, hline'] at htrim
    exact Option.some.inj htrim
  exact ⟨⟨hput, hexists⟩, hsize, hlines, scan_eq_of_trim_eq hput hexists hsize hlines, by decide⟩

/-- A signature with a blank at its front is lost where a line is not indented. -/
example :
    let r : Rules := { Rules.default with putSignature := " put" }
    (scan r ⟨["a", "  put"]⟩).putStart = some 1 ∧ (scan r ⟨["a", "put"]⟩).putStart = none := by
  decide

end LineLandmarks
