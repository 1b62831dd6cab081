import LineLandmarks.Text.Utf8
import Mathlib.Tactic.Lemma

/-!
# Containment

A text contains another if the other's characters stand in it in one run. The encoding of a text is
self-synchronizing: the bytes of a text are found among those of another exactly where its
characters are, so a search in bytes finds the same texts as a search in characters
(`bytes_isInfix_iff`).
-/

namespace LineLandmarks.Text

/-- The characters of `part` stand in `whole` in one run; the empty text is in every text. -/
def Contains (whole part : String) : Prop :=
  part.toList <:+: whole.toList

/-- What is contained in `part` is contained in `whole`. -/
lemma Contains.trans {whole part piece : String} (h : Contains whole part)
    (hpiece : Contains part piece) : Contains whole piece :=
  List.IsInfix.trans hpiece h

/-- What is not contained in `whole` is not empty. -/
lemma ne_empty_of_not_contains {whole part : String} (h : ¬ Contains whole part) :
    part ≠ "" := by
  intro hpart
  apply h
  rw [hpart, Contains, String.toList_empty]
  exact List.nil_infix

/-! ## Bytes of texts -/

lemma bytes_eq (s : String) : bytes s = s.toByteArray.data.toList := rfl

@[simp] lemma bytes_append (s t : String) : bytes (s ++ t) = bytes s ++ bytes t := by
  simp [bytes_eq]

lemma length_bytes (s : String) : (bytes s).length = s.utf8ByteSize := by
  rw [bytes_eq, Array.length_toList]
  exact String.size_toByteArray

lemma bytes_injective {s t : String} (h : bytes s = bytes t) : s = t := by
  apply String.toByteArray_inj.mp
  apply ByteArray.ext
  exact Array.toList_inj.mp h

/-- The bytes of `part` that stand behind `before` are a range of the bytes of `whole`. -/
private lemma extract_of_bytes_eq {whole part : String} {before after : List UInt8}
    (h : bytes whole = before ++ bytes part ++ after) :
    whole.toByteArray.extract before.length (before.length + (bytes part).length)
      = part.toByteArray := by
  apply ByteArray.ext
  apply Array.toList_inj.mp
  rw [ByteArray.data_extract, Array.toList_extract, ← bytes_eq, ← bytes_eq, h, List.append_assoc,
    List.extract_eq_take_drop]
  simp

/-! ## Containment in bytes and in characters -/

/-- The text `whole` up to a valid place behind `before` has exactly these bytes. -/
private lemma bytes_eq_of_isValid {whole : String} {before rest : List UInt8}
    (h : bytes whole = before ++ rest) (hvalid : String.Pos.Raw.IsValid whole ⟨before.length⟩) :
    ∃ s t, whole = s ++ t ∧ bytes s = before := by
  obtain ⟨s, t, hst, hlen⟩ := String.Pos.Raw.isValid_iff_exists_append.mp hvalid
  have hsize : before.length = s.utf8ByteSize := congrArg String.Pos.Raw.byteIdx hlen
  refine ⟨s, t, hst, ?_⟩
  rw [hst, bytes_append] at h
  exact (List.append_inj h (by rw [length_bytes, hsize])).1

/-- The bytes of `part`, if it is not empty, start and stop between two characters of `whole`. -/
private lemma isValid_of_bytes_eq {whole part : String} {before after : List UInt8}
    (hpart : part ≠ "") (h : bytes whole = before ++ bytes part ++ after) :
    String.Pos.Raw.IsValid whole ⟨before.length⟩
      ∧ String.Pos.Raw.IsValid whole ⟨before.length + (bytes part).length⟩ := by
  have hsize : whole.utf8ByteSize = before.length + (bytes part).length + after.length := by
    rw [← length_bytes, h, List.length_append, List.length_append]
  have hpos : 0 < (bytes part).length := by
    rw [length_bytes]
    exact Nat.pos_of_ne_zero (by simpa using hpart)
  have hvalid : (whole.toByteArray.extract before.length
      (before.length + (bytes part).length)).IsValidUTF8 := by
    rw [extract_of_bytes_eq h]
    exact part.isValidUTF8
  have hcases := (String.Pos.Raw.isValidUTF8_extract_iff ⟨before.length⟩
    ⟨before.length + (bytes part).length⟩ (by simp [String.Pos.Raw.le_iff])
    (by simp [String.Pos.Raw.le_iff]; omega)).mp hvalid
  rcases hcases with heq | hboth
  · rw [String.Pos.Raw.ext_iff] at heq
    simp only at heq
    omega
  · exact hboth

/-- Where the bytes of `part` stand in those of `whole`, its characters stand, and what is before
and behind them are texts. -/
lemma exists_append_of_bytes_eq {whole part : String} {before after : List UInt8}
    (hpart : part ≠ "")
    (h : bytes whole = before ++ bytes part ++ after) :
    ∃ s t, whole = s ++ part ++ t ∧ bytes s = before := by
  obtain ⟨hstart, hstop⟩ := isValid_of_bytes_eq hpart h
  obtain ⟨s, -, -, hbefore⟩ := bytes_eq_of_isValid (by rw [h, List.append_assoc]) hstart
  obtain ⟨through, t, hthrough, hbytes⟩ := bytes_eq_of_isValid h (by simpa using hstop)
  -- the text up to the end of the part is the text before it and the part
  have heq : through = s ++ part := by
    apply bytes_injective
    rw [hbytes, bytes_append, hbefore]
  exact ⟨s, t, by rw [hthrough, heq], hbefore⟩

/-- The bytes of `part` are found in those of `whole` exactly if `Contains whole part`. -/
theorem bytes_isInfix_iff (whole part : String) :
    bytes part <:+: bytes whole ↔ Contains whole part := by
  constructor
  · intro hbytes
    obtain ⟨before, after, h⟩ := hbytes
    by_cases hpart : part = ""
    · rw [Contains, hpart]
      exact List.nil_infix
    · obtain ⟨s, t, hwhole, -⟩ := exists_append_of_bytes_eq hpart h.symm
      refine ⟨s.toList, t.toList, ?_⟩
      rw [hwhole, String.toList_append, String.toList_append]
  · intro hcontains
    obtain ⟨before, after, h⟩ := hcontains
    refine ⟨bytes (String.ofList before), bytes (String.ofList after), ?_⟩
    rw [← bytes_append, ← bytes_append]
    congr 1
    apply String.toList_inj.mp
    simpa using h

end LineLandmarks.Text
