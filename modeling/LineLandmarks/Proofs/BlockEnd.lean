import LineLandmarks.Proofs.Landmarks
import LineLandmarks.Proofs.RuleFile.Outcome
import LineLandmarks.Proofs.RuleFile.RoundTrip
import LineLandmarks.Proofs.Text.Padding

/-!
# Rules that can find a block end

Some rules find no block end in any document: the bounds may leave no line number between them, the
line that is looked for may have blanks at its ends, which no trimmed line has, or it may hold a
signature, which comes first. Rules that are none of this find it in a document that is made for
them (`blockEnd_reachable_iff`). Reading a rule file gives a warning for the first of these reasons
only.
-/

namespace LineLandmarks

open Text (Contains IsTrimmed TrimsTo trimsTo_self)

lemma toNat_le_maxIndex (w : UInt64) : w.toNat ≤ maxIndex := by
  have hlt := w.toNat_lt
  simp only [maxIndex, UInt64.size]
  omega

namespace Rules

variable {r : Rules}

/-! ## The window -/

/-- The window is empty exactly if `blockEndAfter + 1` reaches `blockEndBefore`. That `addCapped`
stops at the greatest word does no harm, as the upper bound is a word. -/
lemma blockEndWindowIsEmpty_eq_true_iff (r : Rules) :
    r.blockEndWindowIsEmpty = true ↔ r.blockEndBefore.toNat ≤ r.blockEndAfter.toNat + 1 := by
  have hbefore := toNat_le_maxIndex r.blockEndBefore
  rw [blockEndWindowIsEmpty, decide_eq_true_eq, addCapped]
  omega

lemma blockEndWindowIsEmpty_eq_false_iff (r : Rules) :
    r.blockEndWindowIsEmpty = false ↔ r.blockEndAfter.toNat + 1 < r.blockEndBefore.toNat := by
  rw [Bool.eq_false_iff, ne_eq, blockEndWindowIsEmpty_eq_true_iff, Nat.not_le]

/-- The check `blockEndWindowIsEmpty` holds exactly if no word lies in the window. -/
lemma blockEndWindowIsEmpty_iff (r : Rules) :
    r.blockEndWindowIsEmpty = true ↔ ∀ i : UInt64, r.inBlockEndWindow i.toNat = false := by
  constructor
  · intro h i
    have hle := r.blockEndWindowIsEmpty_eq_true_iff.mp h
    rw [Bool.eq_false_iff, ne_eq, inBlockEndWindow_iff]
    omega
  · intro h
    by_contra hfull
    have hlt := r.blockEndWindowIsEmpty_eq_false_iff.mp (Bool.eq_false_iff.mpr hfull)
    -- the number behind the lower bound is a word, and in the window
    have hword : (UInt64.ofNat (r.blockEndAfter.toNat + 1)).toNat = r.blockEndAfter.toNat + 1 := by
      have hbefore := r.blockEndBefore.toNat_lt
      exact UInt64.toNat_ofNat_of_lt (by simp only [UInt64.size]; omega)
    have hin : r.inBlockEndWindow (UInt64.ofNat (r.blockEndAfter.toNat + 1)).toNat = true := by
      rw [hword, inBlockEndWindow_iff]
      omega
    rw [h] at hin
    exact absurd hin (by decide)

/-! ## What makes a block end possible -/

/-- Nothing keeps a line from ending the block: some number lies in the window, `blockEndLine` can
be the result of trimming, and no signature in it comes first. -/
structure CanEndBlock (r : Rules) : Prop where
  window : r.blockEndWindowIsEmpty = false
  isTrimmed : IsTrimmed r.blockEndLine
  noPut : ¬ Contains r.blockEndLine r.putSignature
  noExists : ¬ Contains r.blockEndLine r.existsSignature

/-- A line that `EndsBlock` shows that nothing keeps it from doing so. -/
lemma EndsBlock.canEndBlock {i : ℕ} {line : String} (h : r.EndsBlock i line) :
    r.CanEndBlock := by
  obtain ⟨hwindow, ⟨hput, hexists⟩, htrims⟩ := h
  refine ⟨?_, htrims.1, ?_, ?_⟩
  · rw [blockEndWindowIsEmpty_eq_false_iff]
    omega
  · intro hcontains
    exact hput (htrims.contains.trans hcontains)
  · intro hcontains
    exact hexists (htrims.contains.trans hcontains)

/-- A document that has `blockEndLine` as its last line, at the first number in the window. -/
def blockEndDocument (r : Rules) : Document :=
  .ofLines (List.replicate (r.blockEndAfter.toNat + 1) "" ++ [r.blockEndLine])

@[simp] lemma size_blockEndDocument (r : Rules) :
    r.blockEndDocument.size = r.blockEndAfter.toNat + 2 := by
  simp [blockEndDocument, Document.ofLines, Document.size]

/-- The last line of `blockEndDocument` is one that `EndsBlock`. -/
lemma CanEndBlock.hasLine_endsBlock (h : r.CanEndBlock) :
    r.blockEndDocument.HasLine r.EndsBlock (r.blockEndAfter.toNat + 1) := by
  have hlt := r.blockEndWindowIsEmpty_eq_false_iff.mp h.window
  refine ⟨r.blockEndLine, ?_, ?_, ⟨h.noPut, h.noExists⟩, trimsTo_self h.isTrimmed⟩
  · simp [Document.line?, blockEndDocument, Document.ofLines]
  · omega

/-! ## Block ends of scans -/

/-- A `scan` that finds a block end has seen a line that `EndsBlock`. -/
lemma canEndBlock_of_scan {d : Document} (h : (scan r d).blockEnd ≠ none) : r.CanEndBlock := by
  obtain ⟨i, hi⟩ := Option.ne_none_iff_exists'.mp h
  obtain ⟨⟨line, -, hline⟩, -⟩ := (areLast_scan r d).blockEnd.of_eq_some hi
  exact hline.canEndBlock

/-- If `CanEndBlock`, a block end is found in a document with fewer lines than there are words. -/
lemma CanEndBlock.exists_document (h : r.CanEndBlock) :
    ∃ d : Document, d.size ≤ maxIndex ∧ (scan r d).blockEnd ≠ none := by
  have hlt := r.blockEndWindowIsEmpty_eq_false_iff.mp h.window
  have hbefore := toNat_le_maxIndex r.blockEndBefore
  refine ⟨r.blockEndDocument, ?_, ?_⟩
  · rw [size_blockEndDocument]
    omega
  · intro hnone
    have hunset := (areLast_scan r r.blockEndDocument).blockEnd.of_eq_none hnone
    exact hunset _ h.hasLine_endsBlock

/-- If `blockEndWindowIsEmpty`, no document has a block end. -/
lemma blockEnd_eq_none (h : r.blockEndWindowIsEmpty = true) (d : Document) :
    (scan r d).blockEnd = none := by
  by_contra hset
  have hwindow := (canEndBlock_of_scan hset).window
  rw [h] at hwindow
  exact absurd hwindow (by decide)

end Rules

/-! ## Warnings -/

namespace RuleFile

/-- Rules that `parse` accepts come with the `warnings` about them and no others. -/
lemma warnings_of_parse {text : String} {parsed : Parsed} (h : parse text = .ok parsed) :
    parsed.warnings = parsed.rules.warnings := by
  rcases parse_cases text with ⟨-, hparse⟩ | ⟨_, _, -, -, hparse⟩ | ⟨_, r, -, -, hparse⟩
  · rw [h] at hparse
    cases hparse
  · rw [h] at hparse
    cases hparse
  · rw [h] at hparse
    rw [Except.ok.inj hparse]
    rfl

/-- The warning `emptyBlockEndWindow` is among those that came with the rules of `parsed`. -/
def Parsed.WarnsOfBlockEnd (parsed : Parsed) : Prop :=
  ∃ w ∈ parsed.warnings, w.message = "block end window is empty; block_end will never be set"

/-- The rules that `parse` accepts come with this warning exactly if `blockEndWindowIsEmpty`. -/
lemma warnsOfBlockEnd_iff {text : String} {parsed : Parsed} (h : parse text = .ok parsed) :
    parsed.WarnsOfBlockEnd ↔ parsed.rules.blockEndWindowIsEmpty = true := by
  rw [Parsed.WarnsOfBlockEnd, warnings_of_parse h, Rules.warnings]
  by_cases hempty : parsed.rules.blockEndWindowIsEmpty = true
  · simp [hempty, Warning.message]
  · simp [hempty]

end RuleFile

/-- Under the rules `r` a document of at most `maxIndex` lines has a block end exactly if
`blockEndWindowIsEmpty` fails and `blockEndLine` has no blanks at its ends and neither signature in
it, so that no signature is empty. The window is empty exactly if no word lies in it. A rule file
that `parse` accepts gives the warning exactly if no word lies in the window of its rules, and then
no document at all has a block end under them. -/
theorem blockEnd_reachable_iff (r : Rules) :
    ((∃ d : Document, d.size ≤ maxIndex ∧ (scan r d).blockEnd ≠ none) ↔
        r.blockEndWindowIsEmpty = false ∧ IsTrimmed r.blockEndLine
          ∧ ¬ Contains r.blockEndLine r.putSignature
          ∧ ¬ Contains r.blockEndLine r.existsSignature)
      ∧ (¬ Contains r.blockEndLine r.putSignature ∧ ¬ Contains r.blockEndLine r.existsSignature →
          r.putSignature ≠ "" ∧ r.existsSignature ≠ "")
      ∧ (r.blockEndWindowIsEmpty = true ↔ ∀ i : UInt64, r.inBlockEndWindow i.toNat = false)
      ∧ ∀ text parsed, RuleFile.parse text = .ok parsed →
          (parsed.WarnsOfBlockEnd ↔
            ∀ i : UInt64, parsed.rules.inBlockEndWindow i.toNat = false)
          ∧ (parsed.WarnsOfBlockEnd → ∀ d, (scan parsed.rules d).blockEnd = none) := by
  refine ⟨⟨?_, ?_⟩, ?_, r.blockEndWindowIsEmpty_iff, ?_⟩
  · intro h
    obtain ⟨d, -, hset⟩ := h
    obtain ⟨hwindow, htrimmed, hput, hexists⟩ := Rules.canEndBlock_of_scan hset
    exact ⟨hwindow, htrimmed, hput, hexists⟩
  · intro h
    obtain ⟨hwindow, htrimmed, hput, hexists⟩ := h
    have hcan : r.CanEndBlock := ⟨hwindow, htrimmed, hput, hexists⟩
    exact hcan.exists_document
  · intro h
    exact ⟨Text.ne_empty_of_not_contains h.1, Text.ne_empty_of_not_contains h.2⟩
  · intro text parsed hparse
    rw [RuleFile.warnsOfBlockEnd_iff hparse]
    exact ⟨parsed.rules.blockEndWindowIsEmpty_iff, Rules.blockEnd_eq_none⟩

/-- The `default` rules with other bounds of the block end. -/
def Rules.ofBounds (after before : UInt64) : Rules :=
  { Rules.default with blockEndAfter := after, blockEndBefore := before }

/-- Bounds in the wrong order, as settings of a rule file. -/
private def invertedSections : List (RuleFile.Section × List RuleFile.Setting) :=
  [(.landmarks, [.count .blockEndAfter 720, .count .blockEndBefore 700])]

private lemma isFile_invertedSections : RuleFile.IsFile invertedSections := by
  refine ⟨by decide, ?_, ?_, ?_⟩ <;> simp only [invertedSections, List.forall_mem_singleton]
  · decide
  · decide
  · simp [RuleFile.Setting.IsWritable, Toml.greatestInteger]

private lemma parse_inverted :
    RuleFile.parse "[landmarks]\nblock_end_after = 720\nblock_end_before = 700\n"
      = .ok (.ofRules (.ofBounds 720 700)) := by
  have hwrite : RuleFile.write invertedSections
      = "[landmarks]\nblock_end_after = 720\nblock_end_before = 700\n" := by decide
  rw [← hwrite]
  exact RuleFile.parse_write_eq isFile_invertedSections

/-- A rule file with its bounds in the wrong order is accepted with the warning. The `default` rules
have a document with a block end. Between neighbours at the top of the words no window is left. -/
theorem blockEnd_reachable_iff_inverted :
    (∃ parsed,
        RuleFile.parse "[landmarks]\nblock_end_after = 720\nblock_end_before = 700\n" = .ok parsed
          ∧ parsed.WarnsOfBlockEnd ∧ ∀ d, (scan parsed.rules d).blockEnd = none)
      ∧ (∃ d : Document, d.size ≤ maxIndex ∧ (scan .default d).blockEnd ≠ none)
      ∧ ∀ i : UInt64,
          (Rules.ofBounds 18446744073709551614 18446744073709551615).inBlockEndWindow i.toNat
            = false := by
  have hwarns : (RuleFile.Parsed.ofRules (.ofBounds 720 700)).WarnsOfBlockEnd :=
    ⟨.emptyBlockEndWindow 720 700, List.mem_singleton_self _, rfl⟩
  obtain ⟨-, hnone⟩ := (blockEnd_reachable_iff .default).2.2.2 _ _ parse_inverted
  have hfound := (blockEnd_reachable_iff .default).1.mpr
    ⟨by decide, by decide, by decide, by decide⟩
  have hempty := (blockEnd_reachable_iff
    (.ofBounds 18446744073709551614 18446744073709551615)).2.2.1.mp (by decide)
  exact ⟨⟨_, parse_inverted, hwarns, hnone hwarns⟩, hfound, hempty⟩

end LineLandmarks
