import Mathlib.Data.Int.Notation
import LineLandmarks.Proofs.Json.Words

/-!
# Values in print read back

Every value in print, at any level, is read as the value. The induction is on the depth that the
reader allows: each item of an array and each member of an object is shorter in print than the
whole, and the blanks and brackets the printer puts around it are skipped.
-/

namespace LineLandmarks.Json

open Text (exists_decimal_eq_digit_cons ne_of_isDigit)

/-! ## White space -/

lemma skipSpace_append {ws : List Char} (hws : ∀ c ∈ ws, isSpace c = true) (s : List Char) :
    skipSpace (ws ++ s) = skipSpace s := by
  rw [skipSpace, skipSpace, List.dropWhile_append_of_pos hws]

lemma skipSpace_cons {c : Char} (h : isSpace c = false) (s : List Char) :
    skipSpace (c :: s) = c :: s := by
  rw [skipSpace, List.dropWhile_cons_of_neg]
  rw [h]
  exact Bool.false_ne_true

/-- White space `ws` that stands alone is skipped to its end. -/
lemma skipSpace_eq_nil {ws : List Char} (hws : ∀ c ∈ ws, isSpace c = true) :
    skipSpace ws = [] := by
  have h := skipSpace_append hws []
  rw [List.append_nil] at h
  exact h

/-! ## The characters of a value -/

/-- The characters of `newRow level`. -/
def rowChars (level : ℕ) : List Char :=
  '\n' :: List.replicate (2 * level) ' '

/-- The characters of `pieces level v`. -/
def chars (level : ℕ) (v : Json) : List Char :=
  (pieces level v).flatMap String.toList

/-- The characters of `itemPieces level vs`. -/
def itemChars (level : ℕ) (vs : List Json) : List Char :=
  (itemPieces level vs).flatMap String.toList

/-- The characters of `memberPieces level ms`. -/
def memberChars (level : ℕ) (ms : List (String × Json)) : List Char :=
  (memberPieces level ms).flatMap String.toList

/-- The characters of one member of an object at `level`. -/
def pairChars (level : ℕ) (m : String × Json) : List Char :=
  (quote m.1).toList ++ ':' :: ' ' :: chars level m.2

lemma isSpace_of_mem_rowChars (level : ℕ) : ∀ c ∈ rowChars level, isSpace c = true := by
  intro c h
  rw [rowChars, List.mem_cons, List.mem_replicate] at h
  rcases h with h | h
  · rw [h]
    rfl
  · rw [h.2]
    rfl

private lemma toList_newRow (level : ℕ) : (newRow level).toList = rowChars level :=
  String.toList_ofList

@[simp] lemma chars_array_cons (level : ℕ) (v : Json) (vs : List Json) :
    chars level (.array (v :: vs))
      = '[' :: (rowChars (level + 1) ++ (chars (level + 1) v
        ++ (itemChars (level + 1) vs ++ (rowChars level ++ [']'])))) := by
  simp [chars, itemChars, pieces, toList_newRow]

@[simp] lemma chars_object_cons (level : ℕ) (m : String × Json) (ms : List (String × Json)) :
    chars level (.object (m :: ms))
      = '\x7b' :: (rowChars (level + 1) ++ (pairChars (level + 1) m
        ++ (memberChars (level + 1) ms ++ (rowChars level ++ ['\x7d'])))) := by
  simp [chars, memberChars, pairChars, pieces, toList_newRow]

@[simp] lemma itemChars_cons (level : ℕ) (v : Json) (vs : List Json) :
    itemChars level (v :: vs)
      = ',' :: (rowChars level ++ (chars level v ++ itemChars level vs)) := by
  simp [chars, itemChars, itemPieces, toList_newRow]

@[simp] lemma memberChars_cons (level : ℕ) (m : String × Json) (ms : List (String × Json)) :
    memberChars level (m :: ms)
      = ',' :: (rowChars level ++ (pairChars level m ++ memberChars level ms)) := by
  simp [chars, memberChars, pairChars, memberPieces, toList_newRow]

@[simp] lemma chars_number (level : ℕ) (m e : ℤ) :
    chars level (.number m e) = (numberText m e).toList := by
  rw [chars, pieces, List.flatMap_singleton]

@[simp]
lemma chars_string (level : ℕ) (s : String) : chars level (.string s) = (quote s).toList := by
  rw [chars, pieces, List.flatMap_singleton]

/-- Items are no longer in `itemChars` than the array they stand in. -/
lemma length_le_itemChars (level : ℕ) (vs : List Json) :
    vs.length ≤ (itemChars level vs).length
      ∧ ∀ v ∈ vs, (chars level v).length ≤ (itemChars level vs).length := by
  induction vs with
  | nil => simp
  | cons v vs ih =>
    obtain ⟨hcount, hlength⟩ := ih
    rw [itemChars_cons]
    simp only [List.length_cons, List.length_append]
    refine ⟨by omega, ?_⟩
    intro u hu
    rcases List.mem_cons.mp hu with rfl | hu
    · omega
    · have := hlength u hu
      omega

/-- Values of members are no longer in `memberChars` than the object they stand in. -/
lemma length_le_memberChars (level : ℕ) (ms : List (String × Json)) :
    ms.length ≤ (memberChars level ms).length
      ∧ ∀ m ∈ ms, (chars level m.2).length ≤ (memberChars level ms).length := by
  induction ms with
  | nil => simp
  | cons m ms ih =>
    obtain ⟨hcount, hlength⟩ := ih
    rw [memberChars_cons, pairChars]
    simp only [List.length_cons, List.length_append]
    refine ⟨by omega, ?_⟩
    intro u hu
    rcases List.mem_cons.mp hu with rfl | hu
    · omega
    · have := hlength u hu
      omega

/-- The `chars` of an array are more than its items, and more than those of each item. -/
private lemma length_le_chars_array (level : ℕ) (vs : List Json) :
    vs.length < (chars level (.array vs)).length
      ∧ ∀ v ∈ vs, (chars (level + 1) v).length < (chars level (.array vs)).length := by
  cases vs with
  | nil => simp [chars, pieces]
  | cons v vs =>
    obtain ⟨hcount, hlength⟩ := length_le_itemChars (level + 1) vs
    rw [chars_array_cons]
    simp only [List.length_cons, List.length_append]
    refine ⟨by omega, ?_⟩
    intro u hu
    rcases List.mem_cons.mp hu with rfl | hu
    · omega
    · have := hlength u hu
      omega

/-- The `chars` of an object are more than its members, and more than those of each value. -/
private lemma length_le_chars_object (level : ℕ) (ms : List (String × Json)) :
    ms.length < (chars level (.object ms)).length
      ∧ ∀ m ∈ ms, (chars (level + 1) m.2).length < (chars level (.object ms)).length := by
  cases ms with
  | nil => simp [chars, pieces]
  | cons m ms =>
    obtain ⟨hcount, hlength⟩ := length_le_memberChars (level + 1) ms
    rw [chars_object_cons, pairChars]
    simp only [List.length_cons, List.length_append]
    refine ⟨by omega, ?_⟩
    intro u hu
    rcases List.mem_cons.mp hu with rfl | hu
    · omega
    · have := hlength u hu
      omega

/-- A `numberText` starts with `-` or a digit. -/
private lemma exists_numberText_eq_cons (m e : ℤ) :
    ∃ c tail, (numberText m e).toList = c :: tail ∧ (c = '-' ∨ c.isDigit = true) := by
  rw [toList_numberText, integerChars]
  by_cases h : m < 0
  · rw [if_pos h]
    exact ⟨'-', _, rfl, Or.inl rfl⟩
  · rw [if_neg h]
    obtain ⟨c, digits, hcons, hdigit⟩ := exists_decimal_eq_digit_cons m.natAbs
    exact ⟨c, _, by rw [hcons]; rfl, Or.inr hdigit⟩

private lemma ne_of_startsNumber {c d : Char} (h : c = '-' ∨ c.isDigit = true) (hd : d ≠ '-')
    (hdigit : d.isDigit = false) : c ≠ d := by
  rcases h with h | h
  · rw [h]
    exact hd.symm
  · exact ne_of_isDigit h hdigit

private lemma isSpace_of_startsNumber {c : Char} (h : c = '-' ∨ c.isDigit = true) :
    isSpace c = false := by
  have hne : ∀ d, d ≠ '-' → d.isDigit = false → (c == d) = false := fun d hd hdigit =>
    beq_false_of_ne (ne_of_startsNumber h hd hdigit)
  rw [isSpace, hne ' ' (by decide) rfl, hne '\t' (by decide) rfl, hne '\n' (by decide) rfl,
    hne '\r' (by decide) rfl]
  rfl

/-- The `chars` of a value start with neither white space nor `]`. -/
lemma exists_chars_eq_cons (level : ℕ) (v : Json) :
    ∃ c tail, chars level v = c :: tail ∧ isSpace c = false ∧ c ≠ ']' := by
  cases v with
  | null => exact ⟨'n', _, rfl, by decide, by decide⟩
  | bool b => cases b <;> exact ⟨_, _, rfl, by decide, by decide⟩
  | number m e =>
    obtain ⟨c, tail, hcons, hc⟩ := exists_numberText_eq_cons m e
    exact ⟨c, tail, by rw [chars_number, hcons], isSpace_of_startsNumber hc,
      ne_of_startsNumber hc (by decide) rfl⟩
  | string s => exact ⟨'"', _, by rw [chars_string, toList_quote], by decide, by decide⟩
  | array vs =>
    cases vs with
    | nil => exact ⟨'[', _, rfl, by decide, by decide⟩
    | cons v vs => exact ⟨'[', _, chars_array_cons level v vs, by decide, by decide⟩
  | object ms =>
    cases ms with
    | nil => exact ⟨'\x7b', _, rfl, by decide, by decide⟩
    | cons m ms => exact ⟨'\x7b', _, chars_object_cons level m ms, by decide, by decide⟩

/-! ## Readers of a single value -/

/-- The reader `item` takes white space and the `chars` of `v`, and leaves what cannot belong to a
number. -/
def ReadsBack (item : List Char → Option (Json × List Char)) (level : ℕ) (v : Json) : Prop :=
  ∀ ws rest : List Char, (∀ c ∈ ws, isSpace c = true) → EndsNumber rest →
    item (ws ++ (chars level v ++ rest)) = some (v, rest)

/-- No number goes on in white space: `ws` satisfies `EndsNumber`. -/
private lemma endsNumber_space {ws : List Char} (hws : ∀ c ∈ ws, isSpace c = true) :
    EndsNumber ws := by
  intro c hc
  have hspace := hws c (List.mem_of_mem_head? hc)
  simp only [isSpace, Bool.or_eq_true, beq_iff_eq] at hspace
  rcases hspace with ((rfl | rfl) | rfl) | rfl <;> decide

private lemma endsNumber_rowChars (level : ℕ) (rest : List Char) :
    EndsNumber (rowChars level ++ rest) :=
  endsNumber_cons (by decide)

private lemma endsNumber_itemChars (level : ℕ) (vs : List Json) {rest : List Char}
    (hrest : EndsNumber rest) : EndsNumber (itemChars level vs ++ rest) := by
  cases vs with
  | nil => exact hrest
  | cons v vs =>
    rw [itemChars_cons]
    exact endsNumber_cons (by decide)

private lemma endsNumber_memberChars (level : ℕ) (ms : List (String × Json)) {rest : List Char}
    (hrest : EndsNumber rest) : EndsNumber (memberChars level ms ++ rest) := by
  cases ms with
  | nil => exact hrest
  | cons m ms =>
    rw [memberChars_cons]
    exact endsNumber_cons (by decide)

private lemma skipSpace_row_cons (level : ℕ) {c : Char} (hc : isSpace c = false)
    (rest : List Char) : skipSpace (rowChars level ++ c :: rest) = c :: rest := by
  rw [skipSpace_append (isSpace_of_mem_rowChars level) _, skipSpace_cons hc]

/-- The items of an array are read back by `items?` from their `chars`. -/
lemma items?_chars {item : List Char → Option (Json × List Char)} {level : ℕ} (outer : ℕ)
    (rest : List Char) {vs : List Json} (hvs : ∀ v ∈ vs, ReadsBack item level v) {v : Json}
    (hv : ReadsBack item level v) {bound : ℕ} (hbound : vs.length < bound)
    {ws : List Char} (hws : ∀ c ∈ ws, isSpace c = true) :
    items? item bound
        (ws ++ (chars level v ++ (itemChars level vs ++ (rowChars outer ++ ']' :: rest))))
      = some (v :: vs, rest) := by
  induction vs generalizing v bound ws with
  | nil =>
    obtain ⟨bound, rfl⟩ := Nat.exists_eq_succ_of_ne_zero (Nat.ne_zero_of_lt hbound)
    have hitem := hv _ _ hws (endsNumber_rowChars outer (']' :: rest))
    rw [items?, itemChars, itemPieces, List.flatMap_nil, List.nil_append, hitem]
    simp only [skipSpace_row_cons outer (show isSpace ']' = false by rfl)]
  | cons u vs ih =>
    obtain ⟨bound, rfl⟩ := Nat.exists_eq_succ_of_ne_zero (Nat.ne_zero_of_lt hbound)
    have hrest := endsNumber_itemChars level (u :: vs) (endsNumber_rowChars outer (']' :: rest))
    have htail := ih (fun w hw => hvs w (List.mem_cons_of_mem u hw)) (hvs u List.mem_cons_self)
      (by simpa using hbound) (isSpace_of_mem_rowChars level)
    rw [items?, hv _ _ hws hrest]
    simp only [itemChars_cons, List.cons_append, List.append_assoc,
      skipSpace_cons (show isSpace ',' = false by rfl), htail, Option.map_some]

/-- The member `m` of an object is read back by `member?` from `pairChars level m`. -/
private lemma member?_pairChars {item : List Char → Option (Json × List Char)} {level : ℕ}
    {m : String × Json} (hm : ReadsBack item level m.2) {ws rest : List Char}
    (hws : ∀ c ∈ ws, isSpace c = true) (hrest : EndsNumber rest) :
    member? item (ws ++ (pairChars level m ++ rest)) = some (m, rest) := by
  have hvalue : item ([' '] ++ (chars level m.2 ++ rest)) = some (m.2, rest) :=
    hm _ _ (by simp [isSpace]) hrest
  have hkey : skipSpace (ws ++ (pairChars level m ++ rest)) = pairChars level m ++ rest := by
    rw [skipSpace_append hws, pairChars, toList_quote]
    exact skipSpace_cons rfl _
  rw [member?, hkey, pairChars, List.append_assoc, string?_quote]
  simp only [bind, Option.bind_some, List.cons_append,
    skipSpace_cons (show isSpace ':' = false by rfl)]
  rw [List.singleton_append] at hvalue
  rw [hvalue]
  rfl

/-- The members of an object are read back by `members?` from their `pairChars`. -/
lemma members?_chars {item : List Char → Option (Json × List Char)} {level : ℕ} (outer : ℕ)
    (rest : List Char) {ms : List (String × Json)} (hms : ∀ m ∈ ms, ReadsBack item level m.2)
    {m : String × Json} (hm : ReadsBack item level m.2) {bound : ℕ} (hbound : ms.length < bound)
    {ws : List Char} (hws : ∀ c ∈ ws, isSpace c = true) :
    members? item bound
        (ws ++ (pairChars level m ++ (memberChars level ms ++ (rowChars outer ++ '}' :: rest))))
      = some (m :: ms, rest) := by
  induction ms generalizing m bound ws with
  | nil =>
    obtain ⟨bound, rfl⟩ := Nat.exists_eq_succ_of_ne_zero (Nat.ne_zero_of_lt hbound)
    have hmember := member?_pairChars hm hws (endsNumber_rowChars outer ('}' :: rest))
    rw [members?, memberChars, memberPieces, List.flatMap_nil, List.nil_append, hmember]
    simp only [skipSpace_row_cons outer (show isSpace '}' = false by rfl)]
  | cons u ms ih =>
    obtain ⟨bound, rfl⟩ := Nat.exists_eq_succ_of_ne_zero (Nat.ne_zero_of_lt hbound)
    have hrest := endsNumber_memberChars level (u :: ms)
      (endsNumber_rowChars outer ('}' :: rest))
    have htail := ih (fun w hw => hms w (List.mem_cons_of_mem u hw)) (hms u List.mem_cons_self)
      (by simpa using hbound) (isSpace_of_mem_rowChars level)
    rw [members?, member?_pairChars hm hws hrest]
    simp only [memberChars_cons, List.cons_append, List.append_assoc,
      skipSpace_cons (show isSpace ',' = false by rfl), htail, Option.map_some]

/-! ## Values -/

/-- What starts with neither `[` nor a brace is read by `simple?`. -/
private lemma value?_of_ne {c : Char} {s tail : List Char} (hs : skipSpace s = c :: tail)
    (hbracket : c ≠ '[') (hbrace : c ≠ '{') (bound depth : ℕ) :
    value? bound depth s = simple? (c :: tail) := by
  cases depth with
  | zero => rw [value?, hs]
  | succ depth =>
    rw [value?, hs]
    split
    · next heq => exact absurd (List.cons.inj heq).1 hbracket
    · next heq => exact absurd (List.cons.inj heq).1 hbrace
    · rfl

private lemma simple?_number (m e : ℤ) {rest : List Char} (hrest : EndsNumber rest) :
    simple? ((numberText m e).toList ++ rest) = some (.number m e, rest) := by
  obtain ⟨c, tail, hcons, hc⟩ := exists_numberText_eq_cons m e
  rw [← number?_numberText m e hrest, hcons, List.cons_append]
  have hne : ∀ d, d ≠ '-' → d.isDigit = false → ∀ {s s' : List Char}, c :: s = d :: s' → False :=
    fun d hd hdigit _ _ heq => ne_of_startsNumber hc hd hdigit (List.cons.inj heq).1
  unfold simple?
  split
  · next heq => exact (hne 'n' (by decide) rfl heq).elim
  · next heq => exact (hne 't' (by decide) rfl heq).elim
  · next heq => exact (hne 'f' (by decide) rfl heq).elim
  · next heq => exact (hne '"' (by decide) rfl heq).elim
  · rfl

/-- A value that `simple?` reads back is read back by `value?` at any depth. -/
private lemma readsBack_of_simple {level : ℕ} {v : Json} {c : Char} {tail : List Char}
    (hcons : chars level v = c :: tail) (hspace : isSpace c = false) (hbracket : c ≠ '[')
    (hbrace : c ≠ '\x7b')
    (hsimple : ∀ rest, EndsNumber rest → simple? (chars level v ++ rest) = some (v, rest))
    (bound depth : ℕ) : ReadsBack (value? bound depth) level v := by
  intro ws rest hws hrest
  have hskip : skipSpace (ws ++ (chars level v ++ rest)) = c :: (tail ++ rest) := by
    rw [skipSpace_append hws, hcons]
    exact skipSpace_cons hspace _
  rw [value?_of_ne hskip hbracket hbrace, ← List.cons_append, ← hcons]
  exact hsimple rest hrest

/-- The reader `value?` behind `[` reads items one level deeper. -/
private lemma value?_bracket {ws s : List Char} {c : Char} (hws : ∀ c ∈ ws, isSpace c = true)
    (hs : (skipSpace s).head? = some c) (hc : c ≠ ']') (bound depth : ℕ) :
    value? bound (depth + 1) (ws ++ '[' :: s)
      = (items? (value? bound depth) bound s).map fun (vs, rest) => (array vs, rest) := by
  rw [value?, skipSpace_append hws, skipSpace_cons rfl]
  simp only
  split
  · next heq =>
    rw [heq, List.head?_cons, Option.some.injEq] at hs
    exact absurd hs.symm hc
  · rfl

/-- The reader `value?` behind an opening brace reads members one level deeper. -/
private lemma value?_brace {ws s : List Char} {c : Char} (hws : ∀ c ∈ ws, isSpace c = true)
    (hs : (skipSpace s).head? = some c) (hc : c ≠ '\x7d') (bound depth : ℕ) :
    value? bound (depth + 1) (ws ++ '\x7b' :: s)
      = (members? (value? bound depth) bound s).map fun (ms, rest) => (object ms, rest) := by
  rw [value?, skipSpace_append hws, skipSpace_cons rfl]
  simp only
  split
  · next heq =>
    rw [heq, List.head?_cons, Option.some.injEq] at hs
    exact absurd hs.symm hc
  · rfl

/-- An array `ReadsBack` one level deeper than its items. -/
private lemma readsBack_array {bound depth level : ℕ} {vs : List Json}
    (hvs : ∀ v ∈ vs, ReadsBack (value? bound depth) (level + 1) v) (hbound : vs.length ≤ bound) :
    ReadsBack (value? bound (depth + 1)) level (.array vs) := by
  intro ws rest hws _
  cases vs with
  | nil =>
    rw [show chars level (array []) = ['[', ']'] by rfl, List.cons_append, value?,
      skipSpace_append hws, skipSpace_cons rfl]
    rfl
  | cons v vs =>
    obtain ⟨c, tail, hcons, hspace, hc⟩ := exists_chars_eq_cons (level + 1) v
    have hrow := isSpace_of_mem_rowChars (level + 1)
    have hitems := items?_chars level rest
      (fun u hu => hvs u (List.mem_cons_of_mem v hu)) (hvs v List.mem_cons_self) hbound hrow
    rw [chars_array_cons]
    simp only [List.cons_append, List.append_assoc, List.nil_append]
    rw [value?_bracket hws _ hc, hitems]
    · rfl
    · rw [skipSpace_append hrow, hcons, List.cons_append, skipSpace_cons hspace, List.head?_cons]

/-- An object `ReadsBack` one level deeper than the values of its members. -/
private lemma readsBack_object {bound depth level : ℕ} {ms : List (String × Json)}
    (hms : ∀ m ∈ ms, ReadsBack (value? bound depth) (level + 1) m.2)
    (hbound : ms.length ≤ bound) :
    ReadsBack (value? bound (depth + 1)) level (.object ms) := by
  intro ws rest hws _
  cases ms with
  | nil =>
    rw [show chars level (object []) = ['\x7b', '\x7d'] by rfl, List.cons_append, value?,
      skipSpace_append hws, skipSpace_cons rfl]
    rfl
  | cons m ms =>
    have hrow := isSpace_of_mem_rowChars (level + 1)
    have hmembers := members?_chars level rest
      (fun u hu => hms u (List.mem_cons_of_mem m hu)) (hms m List.mem_cons_self) hbound hrow
    rw [chars_object_cons]
    simp only [List.cons_append, List.append_assoc, List.nil_append]
    rw [value?_brace hws _ (show '"' ≠ '\x7d' by decide), hmembers]
    · rfl
    · rw [skipSpace_append hrow, pairChars, toList_quote, List.cons_append, List.cons_append,
        skipSpace_cons rfl, List.head?_cons]

private lemma readsBack_number (bound depth level : ℕ) (m e : ℤ) :
    ReadsBack (value? bound depth) level (.number m e) := by
  obtain ⟨c, tail, hcons, hc⟩ := exists_numberText_eq_cons m e
  rw [← chars_number level] at hcons
  refine readsBack_of_simple hcons (isSpace_of_startsNumber hc)
    (ne_of_startsNumber hc (by decide) rfl) (ne_of_startsNumber hc (by decide) rfl) ?_ _ _
  intro rest hrest
  rw [chars_number]
  exact simple?_number m e hrest

private lemma readsBack_string (bound depth level : ℕ) (s : String) :
    ReadsBack (value? bound depth) level (.string s) := by
  have hcons := (chars_string level s).trans (toList_quote s)
  refine readsBack_of_simple hcons rfl (by decide) (by decide) ?_ _ _
  intro rest _
  have hstring := string?_quote s rest
  rw [chars_string, toList_quote, List.cons_append] at *
  rw [simple?, hstring]
  rfl

/-- The `chars` of `v` are read by `value?` as `v` if they fit `bound` and `depth`. -/
theorem readsBack_chars (bound depth level : ℕ) (v : Json)
    (hbound : (chars level v).length ≤ bound) (hdepth : (chars level v).length ≤ depth) :
    ReadsBack (value? bound depth) level v := by
  -- a value inside another is shorter in print, so the length bounds the depth
  induction depth generalizing level v with
  | zero =>
    obtain ⟨c, tail, hcons, -⟩ := exists_chars_eq_cons level v
    rw [hcons, List.length_cons] at hdepth
    omega
  | succ depth ih =>
    cases v with
    | null => exact readsBack_of_simple rfl rfl (by decide) (by decide) (fun _ _ => rfl) _ _
    | bool b =>
      cases b
      · exact readsBack_of_simple rfl rfl (by decide) (by decide) (fun _ _ => rfl) _ _
      · exact readsBack_of_simple rfl rfl (by decide) (by decide) (fun _ _ => rfl) _ _
    | number m e => exact readsBack_number bound (depth + 1) level m e
    | string s => exact readsBack_string bound (depth + 1) level s
    | array vs =>
      obtain ⟨hcount, hlength⟩ := length_le_chars_array level vs
      refine readsBack_array ?_ (by omega)
      intro v hv
      have := hlength v hv
      exact ih (level + 1) v (by omega) (by omega)
    | object ms =>
      obtain ⟨hcount, hlength⟩ := length_le_chars_object level ms
      refine readsBack_object ?_ (by omega)
      intro m hm
      have := hlength m hm
      exact ih (level + 1) m.2 (by omega) (by omega)

/-- The text `pretty v`, with any white space behind it, is read as `v`. -/
theorem read?_pretty (v : Json) (ws : List Char) (hws : ∀ c ∈ ws, isSpace c = true) :
    read? (String.join (pretty v) ++ String.ofList ws) = some v := by
  have hlist : (String.join (pretty v) ++ String.ofList ws).toList = chars 0 v ++ ws := by
    rw [String.toList_append, String.toList_join, String.toList_ofList]
    rfl
  have hlength : (chars 0 v).length
      ≤ (String.join (pretty v) ++ String.ofList ws).length := by
    rw [← String.length_toList, hlist, List.length_append]
    exact Nat.le_add_right _ _
  have hvalue := readsBack_chars _ _ 0 v hlength hlength [] ws (by simp) (endsNumber_space hws)
  rw [List.nil_append] at hvalue
  rw [read?, hlist, hvalue]
  simp only [skipSpace_eq_nil hws, List.isEmpty_nil, if_true]

end LineLandmarks.Json
