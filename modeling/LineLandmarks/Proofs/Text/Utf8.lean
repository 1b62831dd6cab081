import LineLandmarks.Proofs.Text.Containment
import Mathlib.Data.Nat.Notation

/-!
# Well-formed UTF-8

Which bytes are the encoding of a text. By the ranges of the bytes it is seen that no character has
a second, longer encoding, that surrogates and values above U+10FFFF have none, and that no
character is cut short; `isUtf8_iff` says that exactly the encodings of texts are of this form, and
`decode?_eq_some_iff` that reading bytes finds the text they encode.
-/

namespace LineLandmarks.Text

/-- The byte `b` may stand behind the first byte of a character. -/
def IsTail (b : UInt8) : Prop :=
  0x80 ≤ b.toNat ∧ b.toNat ≤ 0xBF

/-- The bytes of one character. The bounds on the second byte exclude what would be an overlong
form, a surrogate, or a value above U+10FFFF. -/
inductive IsCharacter : List UInt8 → Prop
  | one {a : UInt8} (ha : a.toNat ≤ 0x7F) : IsCharacter [a]
  | two {a b : UInt8} (ha : 0xC2 ≤ a.toNat ∧ a.toNat ≤ 0xDF) (hb : IsTail b) :
    IsCharacter [a, b]
  | three {a b c : UInt8} (ha : 0xE0 ≤ a.toNat ∧ a.toNat ≤ 0xEF) (hb : IsTail b) (hc : IsTail c)
    (hoverlong : a.toNat = 0xE0 → 0xA0 ≤ b.toNat)
    (hsurrogate : a.toNat = 0xED → b.toNat ≤ 0x9F) :
    IsCharacter [a, b, c]
  | four {a b c d : UInt8} (ha : 0xF0 ≤ a.toNat ∧ a.toNat ≤ 0xF4) (hb : IsTail b) (hc : IsTail c)
    (hd : IsTail d) (hoverlong : a.toNat = 0xF0 → 0x90 ≤ b.toNat)
    (hgreatest : a.toNat = 0xF4 → b.toNat ≤ 0x8F) :
    IsCharacter [a, b, c, d]

/-- The bytes of characters, each by `IsCharacter`, one after another. -/
inductive IsUtf8 : List UInt8 → Prop
  | nil : IsUtf8 []
  | append {character rest : List UInt8} (h : IsCharacter character) (hrest : IsUtf8 rest) :
    IsUtf8 (character ++ rest)

/-! ## Characters -/

/-- The encoding of `c` satisfies `IsCharacter`. -/
theorem isCharacter_encode (c : Char) : IsCharacter (String.utf8EncodeChar c) := by
  have hvalid : c.val.toNat < 0xD800 ∨ 0xDFFF < c.val.toNat ∧ c.val.toNat < 0x110000 := c.valid
  -- the ranges are those of the digits to base 64 of the four ranges of values
  simp only [String.utf8EncodeChar]
  split
  · refine .one ?_
    simp only [UInt8.toNat_ofNat']
    omega
  · split
    · refine .two ?_ ?_ <;> simp only [IsTail, UInt8.toNat_ofNat'] <;> omega
    · split
      · refine .three ?_ ?_ ?_ ?_ ?_ <;> simp only [IsTail, UInt8.toNat_ofNat'] <;> omega
      · refine .four ?_ ?_ ?_ ?_ ?_ ?_ <;> simp only [IsTail, UInt8.toNat_ofNat'] <;> omega

/-- A number `n` that satisfies `isValidChar` is that of a character. -/
private lemma exists_toNat_eq {n : ℕ} (h : n.isValidChar) : ∃ c : Char, c.val.toNat = n := by
  refine ⟨Char.ofNat n, ?_⟩
  rw [Char.ofNat, dif_pos h]
  rfl

private lemma ofNat_eq {n : ℕ} {b : UInt8} (h : n = b.toNat) : UInt8.ofNat n = b := by
  rw [h, UInt8.ofNat_toNat]

/-- Bytes `l` that satisfy `IsCharacter` are the encoding of a character. -/
theorem exists_encode_eq {l : List UInt8} (h : IsCharacter l) :
    ∃ c, String.utf8EncodeChar c = l := by
  cases h with
  | @one a ha =>
    have hvalid : a.toNat.isValidChar := Or.inl (by omega)
    obtain ⟨char, hchar⟩ := exists_toNat_eq hvalid
    refine ⟨char, ?_⟩
    simp only [String.utf8EncodeChar, hchar]
    rw [if_pos ha, UInt8.ofNat_toNat]
  | @two a b ha hb =>
    obtain ⟨hb, hb'⟩ := hb
    have hvalid : ((a.toNat - 0xC0) * 64 + (b.toNat - 0x80)).isValidChar := Or.inl (by omega)
    obtain ⟨char, hchar⟩ := exists_toNat_eq hvalid
    refine ⟨char, ?_⟩
    simp only [String.utf8EncodeChar, hchar]
    rw [if_neg (by omega), if_pos (by omega)]
    simp only [List.cons.injEq, and_true]
    exact ⟨ofNat_eq (by omega), ofNat_eq (by omega)⟩
  | @three a b c ha hb hc hoverlong hsurrogate =>
    obtain ⟨⟨hb, hb'⟩, ⟨hc, hc'⟩⟩ := And.intro hb hc
    have hvalid : ((a.toNat - 0xE0) * 4096 + (b.toNat - 0x80) * 64
        + (c.toNat - 0x80)).isValidChar := by
      rw [Nat.isValidChar]
      omega
    obtain ⟨char, hchar⟩ := exists_toNat_eq hvalid
    refine ⟨char, ?_⟩
    simp only [String.utf8EncodeChar, hchar]
    rw [if_neg (by omega), if_neg (by omega), if_pos (by omega)]
    simp only [List.cons.injEq, and_true]
    exact ⟨ofNat_eq (by omega), ofNat_eq (by omega), ofNat_eq (by omega)⟩
  | @four a b c d ha hb hc hd hoverlong hgreatest =>
    obtain ⟨⟨hb, hb'⟩, ⟨hc, hc'⟩, ⟨hd, hd'⟩⟩ := And.intro hb (And.intro hc hd)
    have hvalid : ((a.toNat - 0xF0) * 262144 + (b.toNat - 0x80) * 4096 + (c.toNat - 0x80) * 64
        + (d.toNat - 0x80)).isValidChar := Or.inr (by omega)
    obtain ⟨char, hchar⟩ := exists_toNat_eq hvalid
    refine ⟨char, ?_⟩
    simp only [String.utf8EncodeChar, hchar]
    rw [if_neg (by omega), if_neg (by omega), if_neg (by omega)]
    simp only [List.cons.injEq, and_true]
    exact ⟨ofNat_eq (by omega), ofNat_eq (by omega), ofNat_eq (by omega), ofNat_eq (by omega)⟩

/-! ## Texts -/

/-- The `bytes` of `t` are those of its characters. -/
theorem bytes_eq_flatMap (t : String) : bytes t = t.toList.flatMap String.utf8EncodeChar := by
  rw [bytes_eq, ← String.utf8Encode_toList, List.utf8Encode, List.data_toByteArray]

/-- The bytes `l` are well-formed exactly if they are the `bytes` of a text. -/
theorem isUtf8_iff (l : List UInt8) : IsUtf8 l ↔ ∃ t, bytes t = l := by
  constructor
  · intro h
    induction h with
    | nil => exact ⟨"", rfl⟩
    | append hcharacter _ ih =>
      obtain ⟨c, hc⟩ := exists_encode_eq hcharacter
      obtain ⟨t, ht⟩ := ih
      refine ⟨String.ofList (c :: t.toList), ?_⟩
      rw [bytes_eq_flatMap, String.toList_ofList, List.flatMap_cons, ← bytes_eq_flatMap, hc, ht]
  · intro h
    obtain ⟨t, ht⟩ := h
    rw [← ht, bytes_eq_flatMap]
    induction t.toList with
    | nil => exact .nil
    | cons c cs ih =>
      rw [List.flatMap_cons]
      exact .append (isCharacter_encode c) ih

/-- What `decode?` finds is the text that has these bytes. -/
theorem decode?_eq_some_iff (b : ByteArray) (t : String) :
    decode? b = some t ↔ bytes t = b.data.toList := by
  constructor
  · intro h
    rw [decode?, String.fromUTF8?] at h
    split at h
    · rw [← Option.some.inj h]
      rfl
    · cases h
  · intro h
    have hb : b = t.toByteArray := ByteArray.ext (Array.toList_inj.mp h.symm)
    rw [hb, decode?, String.fromUTF8?, dif_pos t.isValidUTF8]
    rfl

end LineLandmarks.Text
