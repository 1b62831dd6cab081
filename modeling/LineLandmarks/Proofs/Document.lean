import LineLandmarks.Document
import LineLandmarks.Proofs.Text.Lines

/-!
# Documents of texts

The lines of a document made of a text are the ones that the text is joined from, whatever the
terminators between them (`lines_ofText`); the empty text alone has no line. So nothing but
terminators is lost, and no line of such a document has one inside it.
-/

namespace LineLandmarks.Document

open Text (AreLines IsLine joinLines normalize splitLines splitLines_eq_iff splitLines_eq_splitOn
  isLine_of_mem_splitLines)

@[simp] lemma ofText_empty : ofText "" = empty := rfl

lemma ofText_of_ne {text : String} (h : text ≠ "") :
    ofText text = ⟨(splitLines text.toList).map String.ofList⟩ := by
  rw [ofText, if_neg]
  rwa [String.isEmpty_iff]

/-- No line of `ofText text` holds a carriage return or a line feed. -/
theorem isLine_of_mem_ofText {text line : String} (h : line ∈ (ofText text).lines) :
    IsLine line.toList := by
  by_cases hempty : text = ""
  · rw [hempty, ofText_empty] at h
    exact absurd h List.not_mem_nil
  · rw [ofText_of_ne hempty] at h
    obtain ⟨chars, hchars, rfl⟩ := List.mem_map.mp h
    rw [String.toList_ofList]
    exact isLine_of_mem_splitLines hchars

/-- The empty text has no lines. Any other `text` has the lines that `joinLines` joins to it: one,
and each further one behind a terminator of its own, where by `AreLines` none of them holds a
carriage return or a line feed and no carriage return that ends a line by itself has a line feed
behind it. They are also found by replacing each pair of carriage return and line feed by a line
feed, then each carriage return left, and splitting at the line feeds. -/
theorem lines_ofText (text : String) :
    (∀ lines : List String, (ofText text).lines = lines ↔
        (text = "" ∧ lines = []) ∨
        (text ≠ "" ∧ ∃ first rest, AreLines first rest ∧ text.toList = joinLines first rest
          ∧ lines = (first :: rest.map Prod.snd).map String.ofList))
      ∧ (ofText text).lines =
          if text = "" then [] else ((normalize text.toList).splitOn '\n').map String.ofList := by
  by_cases hempty : text = ""
  · rw [if_pos hempty, hempty, ofText_empty]
    refine ⟨?_, rfl⟩
    intro lines
    constructor
    · intro h
      exact Or.inl ⟨rfl, h.symm⟩
    · intro h
      rcases h with ⟨-, hlines⟩ | ⟨hne, -⟩
      · rw [hlines]
        rfl
      · exact absurd rfl hne
  · rw [if_neg hempty, ofText_of_ne hempty, ← splitLines_eq_splitOn]
    refine ⟨?_, rfl⟩
    intro lines
    constructor
    · intro h
      obtain ⟨first, rest, hlines, htext, hsplit⟩ := (splitLines_eq_iff text.toList _).mp rfl
      exact Or.inr ⟨hempty, first, rest, hlines, htext, by rw [← h, ← hsplit]⟩
    · intro h
      rcases h with ⟨htext, -⟩ | ⟨-, first, rest, hlines, htext, heq⟩
      · exact absurd htext hempty
      · rw [heq, (splitLines_eq_iff text.toList _).mpr ⟨first, rest, hlines, htext, rfl⟩]

/-- A line feed before a carriage return ends a line of its own, and a terminator at the end leaves
an empty line. -/
example : (ofText "a\n\r\r\n\nb\r").lines = ["a", "", "", "", "b", ""] := by
  decide

end LineLandmarks.Document
