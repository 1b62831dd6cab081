import Mathlib.Data.Int.Notation
import LineLandmarks.Proofs.Excerpt
import LineLandmarks.Proofs.Landmarks

/-!
# Excerpts at the landmarks of a scan

The landmarks that a scan finds are lines of the document, so no number between the bounds of an
excerpt is one without a line: how many lines an excerpt has follows from the numbers alone. Since
the put line is the last one with the put signature, an excerpt holds that signature in its first
line or nowhere (`excerpt_scan`).
-/

namespace LineLandmarks

open Text (Contains)

variable {r : Rules} {d : Document} {p e : ℕ}

/-! ## Landmarks of a scan -/

/-- No line behind `putStart` has the put signature. -/
lemma le_putStart_of_contains (hput : (scan r d).putStart = some p) {i : ℕ} {line : String}
    (hline : d.line? i = some line) (h : Contains line r.putSignature) : i ≤ p := by
  obtain ⟨-, hlast⟩ := (areLast_scan r d).putStart.of_eq_some hput
  exact hlast i ⟨line, hline, h⟩

/-- The line with the number `putStart` has the put signature. -/
lemma contains_of_putStart (hput : (scan r d).putStart = some p) {line : String}
    (hline : d.line? p = some line) : Contains line r.putSignature := by
  obtain ⟨⟨put, hp, hcontains⟩, -⟩ := (areLast_scan r d).putStart.of_eq_some hput
  rw [hline] at hp
  rwa [Option.some.inj hp]

/-- The line with the number `existsStart` is a line of the document. -/
lemma existsStart_lt_size (hexists : (scan r d).existsStart = some e) : e < d.size := by
  obtain ⟨⟨line, hline, -⟩, -⟩ := (areLast_scan r d).existsStart.of_eq_some hexists
  exact Document.lt_size_of_line? hline

/-! ## The range of an excerpt -/

namespace ExcerptWindow

variable (w : ExcerptWindow)

/-- The numbers of `w.range p e` stop before the exists line. -/
lemma range_le_existsStart (p e : ℕ) : (w.range p e).2 ≤ e := by
  simp only [range]
  omega

/-- How many numbers are in `w.range p e`: `width`, or what is left before the exists line. -/
lemma length_range (p : ℕ) (he : e ≤ maxIndex) :
    (((w.range p e).2 - (w.range p e).1 : ℕ) : ℤ)
      = max 0 (min (w.width.toNat : ℤ) (e - (p + w.offset.toNat))) := by
  simp only [range, addCapped]
  omega

/-- If there is a number in `w.range p e`, the first one is `p + offset`. -/
lemma range_fst (p : ℕ) (he : e ≤ maxIndex) (h : (w.range p e).1 < (w.range p e).2) :
    (w.range p e).1 = p + w.offset.toNat := by
  simp only [range, addCapped] at h ⊢
  omega

end ExcerptWindow

/-! ## The excerpt -/

/-- An excerpt whose exists line is inside the document has a line for each number of its
`range`. -/
lemma map_index_excerpt {marks : Landmarks} (hput : marks.putStart = some p)
    (hexists : marks.existsStart = some e) (he : e ≤ d.size) :
    (excerpt d marks r).map ExcerptLine.index
      = List.range' (r.excerpt.range p e).1
        ((r.excerpt.range p e).2 - (r.excerpt.range p e).1) := by
  have hstop := r.excerpt.range_le_existsStart p e
  rw [excerpt_of_some hput hexists, Document.map_index_slice]
  congr 1
  omega

/-- An excerpt at the landmarks of a scan has `width` lines, or as many as there are from `offset`
lines after the put line on to the exists line. Their numbers follow one another from there on; the
document has a line for each number of the `range`, so none is left out. All of them lie before the
exists line, and the put signature is in none of the lines but the put line itself, which is there
only if `offset` is zero. -/
theorem excerpt_scan (hd : d.size ≤ maxIndex) (hput : (scan r d).putStart = some p)
    (hexists : (scan r d).existsStart = some e) :
    ((excerpt d (scan r d) r).length : ℤ)
        = max 0 (min (r.excerpt.width.toNat : ℤ) (e - (p + r.excerpt.offset.toNat)))
      ∧ (excerpt d (scan r d) r).map ExcerptLine.index
        = List.range' (p + r.excerpt.offset.toNat) (excerpt d (scan r d) r).length
      ∧ (∀ i, (r.excerpt.range p e).1 ≤ i → i < (r.excerpt.range p e).2 →
          i < d.size ∧ ∃ line ∈ excerpt d (scan r d) r, line.index = i)
      ∧ ∀ line ∈ excerpt d (scan r d) r,
          line.index < e
            ∧ d.line? line.index = some line.text
            ∧ (Contains line.text r.putSignature ↔ line.index = p)
            ∧ (line.index = p → r.excerpt.offset = 0) := by
  have hlt := existsStart_lt_size hexists
  have he : e ≤ maxIndex := by omega
  have hindex := map_index_excerpt (r := r) hput hexists (Nat.le_of_lt hlt)
  have hlength : (excerpt d (scan r d) r).length
      = (r.excerpt.range p e).2 - (r.excerpt.range p e).1 := by
    rw [← List.length_map ExcerptLine.index, hindex, List.length_range']
  refine ⟨?_, ?_, ?_, ?_⟩
  · rw [hlength, r.excerpt.length_range p he]
  · rw [hindex, hlength]
    by_cases hrange : (r.excerpt.range p e).1 < (r.excerpt.range p e).2
    · rw [r.excerpt.range_fst p he hrange]
    · -- an empty range may start anywhere
      rw [Nat.sub_eq_zero_of_le (Nat.le_of_not_lt hrange), List.range'_zero, List.range'_zero]
  · intro i hstart hstop
    have hbefore := r.excerpt.range_le_existsStart p e
    have hmem : i ∈ (excerpt d (scan r d) r).map ExcerptLine.index := by
      rw [hindex, List.mem_range'_1]
      omega
    exact ⟨by omega, List.mem_map.mp hmem⟩
  · intro line hline
    have hlookup := line?_of_mem_excerpt hline
    rw [excerpt_of_some hput hexists, Document.mem_slice_iff,
      r.excerpt.mem_range_iff p he] at hline
    obtain ⟨⟨hstart, hstop⟩, -⟩ := hline
    refine ⟨by omega, hlookup, ⟨?_, ?_⟩, ?_⟩
    · intro hcontains
      -- not behind the put line, and not before it either, where no excerpt starts
      have hle := le_putStart_of_contains hput hlookup hcontains
      omega
    · intro hline
      rw [hline] at hlookup
      exact contains_of_putStart hput hlookup
    · intro hline
      have hzero : r.excerpt.offset.toNat = 0 := by omega
      exact UInt64.toNat_inj.mp hzero

/-- With an `offset` of zero the last put line is the first line of the excerpt, and no other put
line is in it; an exists line before the put line leaves nothing. -/
theorem excerpt_scan_noOffset :
    let r : Rules :=
      { Rules.default with putSignature := "put", existsSignature := "exists", excerpt := ⟨0, 2⟩ }
    let d := Document.ofLines ["put", "a", "put", "b", "c", "exists"]
    let reversed := Document.ofLines ["exists", "a", "put"]
    (d.size ≤ maxIndex ∧ (scan r d).putStart = some 2 ∧ (scan r d).existsStart = some 5)
      ∧ (reversed.size ≤ maxIndex ∧ (scan r reversed).putStart = some 2
        ∧ (scan r reversed).existsStart = some 0)
      ∧ (excerpt d (scan r d) r).map ExcerptLine.index = [2, 3]
      ∧ (∀ line ∈ excerpt d (scan r d) r, Contains line.text "put" ↔ line.index = 2)
      ∧ excerpt reversed (scan r reversed) r = [] := by
  intro r d reversed
  have hd : d.size ≤ maxIndex := by decide
  have hput : (scan r d).putStart = some 2 := by decide
  have hexists : (scan r d).existsStart = some 5 := by decide
  have hd' : reversed.size ≤ maxIndex := by decide
  have hput' : (scan r reversed).putStart = some 2 := by decide
  have hexists' : (scan r reversed).existsStart = some 0 := by decide
  obtain ⟨hlength, hindex, -, hlines⟩ := excerpt_scan hd hput hexists
  obtain ⟨hnone, -⟩ := excerpt_scan hd' hput' hexists'
  refine ⟨⟨hd, hput, hexists⟩, ⟨hd', hput', hexists'⟩, ?_, ?_, ?_⟩
  · have htwo : (excerpt d (scan r d) r).length = 2 := Int.natCast_inj.mp hlength
    rw [hindex, htwo]
    rfl
  · intro line hline
    exact (hlines line hline).2.2.1
  · exact List.length_eq_zero_iff.mp (Int.natCast_inj.mp hnone)

end LineLandmarks
