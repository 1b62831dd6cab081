import LineLandmarks.Landmarks
import Mathlib.Data.Nat.Notation
import Mathlib.Tactic.Lemma

/-!
# Lines of an excerpt

A slice of a document holds the lines with numbers between its bounds, each under its own number,
so the lines of an excerpt are lines of the document. The bounds are sums that stop at the greatest
word. Since no line number goes beyond it either, they bound the same lines as sums without end
(`mem_excerpt_iff_between`).
-/

namespace LineLandmarks

/-! ## Slices -/

lemma Document.lt_size_of_line? {d : Document} {i : ℕ} {line : String}
    (h : d.line? i = some line) : i < d.size :=
  (List.getElem?_eq_some_iff.mp h).1

/-- The lines of `d.slice start stop` are those from `start` to before `stop`, with their own
numbers. -/
@[simp] theorem Document.mem_slice_iff (d : Document) (start stop : ℕ) (line : ExcerptLine) :
    line ∈ d.slice start stop ↔
      (start ≤ line.index ∧ line.index < stop) ∧ d.line? line.index = some line.text := by
  obtain ⟨index, text⟩ := line
  have hmem : (⟨index, text⟩ : ExcerptLine) ∈ d.slice start stop ↔
      (text, index) ∈ ((d.lines.drop start).take (stop - start)).zipIdx start := by
    simp only [slice, List.mem_map, Prod.exists, ExcerptLine.mk.injEq]
    constructor
    · intro h
      obtain ⟨text, index, h, rfl, rfl⟩ := h
      exact h
    · intro h
      exact ⟨text, index, h, rfl, rfl⟩
  rw [hmem, List.mk_mem_zipIdx_iff_le_and_getElem?_sub, List.getElem?_take, List.getElem?_drop,
    Option.ite_none_right_eq_some, line?]
  dsimp only
  constructor
  · intro h
    obtain ⟨hstart, hlt, hget⟩ := h
    rw [Nat.add_sub_cancel' hstart] at hget
    exact ⟨⟨hstart, by omega⟩, hget⟩
  · intro h
    obtain ⟨⟨hstart, hstop⟩, hget⟩ := h
    rw [Nat.add_sub_cancel' hstart]
    exact ⟨hstart, by omega, hget⟩

/-- The numbers of `d.slice start stop` run from `start` on without a gap, up to `stop` or to the
end of the document. -/
@[simp] theorem Document.map_index_slice (d : Document) (start stop : ℕ) :
    (d.slice start stop).map ExcerptLine.index
      = List.range' start (min (stop - start) (d.size - start)) := by
  have hindex : ExcerptLine.index ∘ (fun p : String × ℕ => ⟨p.2, p.1⟩) = Prod.snd := by
    ext p
    rfl
  have hlength : ((d.lines.drop start).take (stop - start)).length
      = min (stop - start) (d.size - start) := by
    rw [List.length_take, List.length_drop, size]
  unfold slice
  rw [List.map_map]
  show List.map (ExcerptLine.index ∘ fun p : String × ℕ => ⟨p.2, p.1⟩) _ = _
  rw [hindex, List.zipIdx_map_snd, hlength]

/-! ## Lines of an excerpt -/

/-- An excerpt is the `slice` between the bounds that `range` sets for its put line and its exists
line. -/
lemma excerpt_of_some {d : Document} {marks : Landmarks} {p e : ℕ} (hput : marks.putStart = some p)
    (hexists : marks.existsStart = some e) (r : Rules) :
    excerpt d marks r = d.slice (r.excerpt.range p e).1 (r.excerpt.range p e).2 := by
  unfold excerpt
  rw [hput, hexists]

/-- Each line of an `excerpt` is the line of the document with its `index`. -/
lemma line?_of_mem_excerpt {d : Document} {marks : Landmarks} {r : Rules} {line : ExcerptLine}
    (h : line ∈ excerpt d marks r) : d.line? line.index = some line.text := by
  unfold excerpt at h
  split at h
  · exact ((d.mem_slice_iff _ _ line).mp h).2
  · exact absurd h List.not_mem_nil

/-- The `text` of a line of an `excerpt` is a line of the document. -/
lemma text_mem_of_mem_excerpt {d : Document} {marks : Landmarks} {r : Rules} {line : ExcerptLine}
    (h : line ∈ excerpt d marks r) : line.text ∈ d.lines :=
  List.mem_of_getElem? (line?_of_mem_excerpt h)

/-- Without a put line or an exists line the `excerpt` is empty. -/
lemma excerpt_eq_nil {d : Document} {marks : Landmarks} {r : Rules}
    (h : marks.putStart = none ∨ marks.existsStart = none) : excerpt d marks r = [] := by
  unfold excerpt
  rcases h with h | h
  · rw [h]
  · rw [h]
    cases marks.putStart <;> rfl

/-! ## Bounds -/

namespace ExcerptWindow

variable (w : ExcerptWindow)

/-- Neither bound of `w.range p e` goes beyond `maxIndex`. -/
lemma range_le_maxIndex (p e : ℕ) : (w.range p e).1 ≤ maxIndex ∧ (w.range p e).2 ≤ maxIndex := by
  simp only [range, addCapped]
  omega

/-- The bounds of `w.range p e` are those of sums without end, as long as `e ≤ maxIndex`: a sum that
stops early is beyond that line either way. -/
lemma mem_range_iff (p : ℕ) {e : ℕ} (he : e ≤ maxIndex) (i : ℕ) :
    ((w.range p e).1 ≤ i ∧ i < (w.range p e).2) ↔
      p + w.offset.toNat ≤ i ∧ i < min (p + w.offset.toNat + w.width.toNat) e := by
  simp only [range, addCapped]
  -- if the first sum stops early, the range is empty, and no number from it on is below `e`
  omega

end ExcerptWindow

/-! ## Excerpts at any landmarks -/

/-- Whatever words the landmarks are, an `excerpt` holds the lines of the document from `offset`
lines after the put line on, at most `width` of them and none from the exists line on, where no sum
of line numbers is cut short. They come in ascending order, each once. There are none if the put
line or the exists line is unset, and no bound on the way is greater than `maxIndex`. -/
theorem mem_excerpt_iff_between (d : Document) {marks : Landmarks}
    (hmarks : ∀ e, marks.existsStart = some e → e ≤ maxIndex) (r : Rules) :
    (∀ line, line ∈ excerpt d marks r ↔
        ∃ p e, (marks.putStart = some p ∧ marks.existsStart = some e)
          ∧ (p + r.excerpt.offset.toNat ≤ line.index
            ∧ line.index < min (p + r.excerpt.offset.toNat + r.excerpt.width.toNat) e)
          ∧ d.line? line.index = some line.text)
      ∧ ((excerpt d marks r).map ExcerptLine.index).Pairwise (· < ·)
      ∧ (marks.putStart = none ∨ marks.existsStart = none → excerpt d marks r = [])
      ∧ ∀ p e, (r.excerpt.range p e).1 ≤ maxIndex ∧ (r.excerpt.range p e).2 ≤ maxIndex := by
  by_cases hunset : marks.putStart = none ∨ marks.existsStart = none
  · have hnil := excerpt_eq_nil (d := d) (r := r) hunset
    rw [hnil]
    refine ⟨?_, List.Pairwise.nil, fun _ => rfl, r.excerpt.range_le_maxIndex⟩
    intro line
    constructor
    · intro h
      exact absurd h List.not_mem_nil
    · intro h
      obtain ⟨p, e, ⟨hput, hexists⟩, -⟩ := h
      simp [hput, hexists] at hunset
  · rw [not_or] at hunset
    obtain ⟨p, hput⟩ := Option.ne_none_iff_exists'.mp hunset.1
    obtain ⟨e, hexists⟩ := Option.ne_none_iff_exists'.mp hunset.2
    have he := hmarks e hexists
    rw [excerpt_of_some hput hexists]
    refine ⟨?_, ?_, ?_, r.excerpt.range_le_maxIndex⟩
    · intro line
      rw [Document.mem_slice_iff, r.excerpt.mem_range_iff p he, hput, hexists]
      constructor
      · intro h
        exact ⟨p, e, ⟨rfl, rfl⟩, h⟩
      · intro h
        obtain ⟨_, _, ⟨hp, he'⟩, h⟩ := h
        cases hp
        cases he'
        exact h
    · rw [Document.map_index_slice]
      exact List.pairwise_lt_range'
    · intro h
      exact absurd h (not_or.mpr hunset)

/-- Where the sums would go beyond `maxIndex`, a great `width` reaches as far as the document does,
and a great `offset` leaves nothing. -/
theorem mem_excerpt_iff_between_greatest :
    let d := Document.ofLines ["a", "b", "c", "d"]
    let marks : Landmarks := ⟨some 1, some maxIndex, none⟩
    let wide : Rules := { Rules.default with excerpt := ⟨1, 18446744073709551615⟩ }
    let far : Rules := { Rules.default with excerpt := ⟨18446744073709551615, 1⟩ }
    (∀ e, marks.existsStart = some e → e ≤ maxIndex)
      ∧ (∀ line, line ∈ excerpt d marks wide ↔ line = ⟨2, "c"⟩ ∨ line = ⟨3, "d"⟩)
      ∧ ((excerpt d marks wide).map ExcerptLine.index).Pairwise (· < ·)
      ∧ ∀ line, line ∉ excerpt d marks far := by
  intro d marks wide far
  have hmarks : ∀ e, marks.existsStart = some e → e ≤ maxIndex := by
    intro e he
    exact Nat.le_of_eq (Option.some.inj he).symm
  have hwide : excerpt d marks wide = [⟨2, "c"⟩, ⟨3, "d"⟩] := by decide
  obtain ⟨-, hsorted, -⟩ := mem_excerpt_iff_between d hmarks wide
  obtain ⟨hfar, -⟩ := mem_excerpt_iff_between d hmarks far
  refine ⟨hmarks, ?_, hsorted, ?_⟩
  · intro line
    rw [hwide]
    simp
  · intro line h
    obtain ⟨p, e, ⟨hput, -⟩, ⟨hstart, -⟩, hline⟩ := (hfar line).mp h
    have hp : p = 1 := (Option.some.inj hput).symm
    have hlt : line.index < 4 := Document.lt_size_of_line? hline
    have hoffset : far.excerpt.offset.toNat = 18446744073709551615 := rfl
    omega

end LineLandmarks
