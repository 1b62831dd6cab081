import LineLandmarks.Proofs.Toml.Words

/-!
# Rows of a document

A row is a line that is read as one statement whatever stands below it. A document of such rows is
read as their statements, one after the other (`parse?_rows`). Arrays around arrays are read as deep
as the limit (`value?_nested`) and no deeper (`value?_brackets`).
-/

namespace LineLandmarks.Toml

open Text (StopsRun stopsRun_cons)

/-- A bare `name` is the key of the value behind it. -/
private lemma key?_assigned {name : List Char} (hname : IsBare name) (rest : List Char) :
    key? (name ++ ' ' :: '=' :: rest) = some (⟨[], String.ofList name⟩, '=' :: rest) := by
  refine key?_bare hname (stopsRun_cons.mpr rfl) ?_ (by decide)
  rw [skipBlanks_blank, skipBlanks_cons rfl]

namespace Statement

/-- The characters `row` are a line with `statement`, whatever is below. -/
def IsRow (bound : ℕ) (row : List Char) (statement : Statement) : Prop :=
  ∀ rest, line? bound (row ++ rest) = some (some statement, rest)

/-- The line of a word that starts with no blank, up to the line feed behind it, by `words?`. -/
private lemma line?_eq {bound : ℕ} {c : Char} {s rest : List Char} {statement : Statement}
    (hblank : isBlank c = false) (hcomment : c ≠ '#') (hfeed : c ≠ '\n') (hreturn : c ≠ '\r')
    (hwords : words? bound (c :: s) = some (statement, '\n' :: rest)) :
    line? bound (c :: s) = some (some statement, rest) := by
  rw [line?, trailing?_eq_none hblank hcomment hfeed hreturn, skipBlanks_cons hblank, hwords]
  simp only [bind, Option.bind_some, trailing?_newline]
  rfl

/-- A header with a bare `name` is a row. -/
theorem isRow_header (bound : ℕ) {name : List Char} (hname : IsBare name) :
    IsRow bound ('[' :: (name ++ [']', '\n'])) (.table ⟨[], String.ofList name⟩) := by
  intro rest
  have hkey : key? (name ++ ']' :: '\n' :: rest)
      = some (⟨[], String.ofList name⟩, ']' :: '\n' :: rest) :=
    key?_bare hname (stopsRun_cons.mpr rfl) (skipBlanks_cons rfl _) (by decide)
  have hheader : header? (name ++ ']' :: '\n' :: rest)
      = some (.table ⟨[], String.ofList name⟩, '\n' :: rest) := by
    rw [header?, hkey]
    · rfl
    · intro s heq
      obtain ⟨c, tail, hcons, hc⟩ := hname.exists_cons
      rw [hcons] at heq
      exact absurd (List.cons.inj heq).1 (ne_of_isBareKeyChar hc rfl)
  rw [List.cons_append, List.append_assoc]
  exact line?_eq rfl (by decide) (by decide) (by decide) hheader

/-- An assignment of the value of `text` to a bare `name` is a row. -/
theorem isRow_assign {bound : ℕ} {name text : List Char} {v : Value} (hname : IsBare name)
    (htext : ∀ c ∈ text.head?, isBlank c = false)
    (hvalue : ∀ rest, value? bound (depthLimit - 1) (text ++ '\n' :: rest)
      = some (v, '\n' :: rest)) :
    IsRow bound (name ++ ([' ', '=', ' '] ++ (text ++ ['\n'])))
      (.assign ⟨⟨[], String.ofList name⟩, v⟩) := by
  intro rest
  obtain ⟨c, tail, hcons, hc⟩ := hname.exists_cons
  have hskip : skipBlanks (' ' :: (text ++ '\n' :: rest)) = text ++ '\n' :: rest := by
    rw [skipBlanks_blank]
    cases text with
    | nil => exact skipBlanks_cons rfl _
    | cons d text => exact skipBlanks_cons (htext d rfl) _
  have hwords : words? bound (name ++ ' ' :: '=' :: ' ' :: (text ++ '\n' :: rest))
      = some (.assign ⟨⟨[], String.ofList name⟩, v⟩, '\n' :: rest) := by
    rw [words?, assignment?, key?_assigned hname]
    · simp only [bind, Option.bind_some, expect?, if_true, hskip, hvalue]
      rfl
    · intro s heq
      rw [hcons] at heq
      exact absurd (List.cons.inj heq).1 (ne_of_isBareKeyChar hc rfl)
  have hline := line?_eq (isBlank_of_isBareKeyChar hc) (ne_of_isBareKeyChar hc rfl)
    (ne_of_isBareKeyChar hc rfl) (ne_of_isBareKeyChar hc rfl)
    (by rw [← List.cons_append, ← hcons]; exact hwords)
  rw [← List.cons_append, ← hcons] at hline
  simp only [List.append_assoc, List.cons_append, List.nil_append]
  exact hline

/-- A row is not empty: `line?` reads no statement where nothing is left. -/
lemma IsRow.ne_nil {bound : ℕ} {row : List Char} {statement : Statement}
    (h : IsRow bound row statement) : row ≠ [] := by
  intro hnil
  have hline := h []
  rw [hnil] at hline
  exact nomatch hline

/-- A text of `rows` is read row by row, if `lines` are not fewer. -/
theorem readAll?_rows {bound : ℕ} {rows : List (List Char × Statement)}
    (hrows : ∀ r ∈ rows, IsRow bound r.1 r.2) {lines : ℕ} (hlines : rows.length ≤ lines) :
    readAll? bound lines (rows.flatMap Prod.fst) = some (rows.map Prod.snd) := by
  induction rows generalizing lines with
  | nil => rw [List.flatMap_nil, readAll?, List.map_nil]
  | cons r rows ih =>
    obtain ⟨lines, rfl⟩ := Nat.exists_eq_succ_of_ne_zero (Nat.ne_zero_of_lt hlines)
    have hline := hrows r List.mem_cons_self (rows.flatMap Prod.fst)
    have hrest := ih (fun s hs => hrows s (List.mem_cons_of_mem r hs))
      (show rows.length ≤ lines by simpa using hlines)
    rw [List.flatMap_cons, List.map_cons]
    rw [readAll?, hline]
    · simp only [hrest, Option.map_some]
      rfl
    · exact List.append_ne_nil_of_left_ne_nil (hrows r List.mem_cons_self).ne_nil _

/-- There are no more `rows` than characters. -/
private lemma length_rows_le {bound : ℕ} {rows : List (List Char × Statement)}
    (hrows : ∀ r ∈ rows, IsRow bound r.1 r.2) :
    rows.length ≤ (rows.flatMap Prod.fst).length := by
  induction rows with
  | nil => exact Nat.zero_le _
  | cons r rows ih =>
    have hrow := List.length_pos_iff.mpr (hrows r List.mem_cons_self).ne_nil
    have hrest := ih fun s hs => hrows s (List.mem_cons_of_mem r hs)
    rw [List.flatMap_cons, List.length_cons, List.length_append]
    omega

end Statement

/-- A text of `rows`, which starts with no byte order mark, is put together from their
statements. -/
theorem parse?_rows {rows : List (List Char × Statement)}
    (hrows : ∀ r ∈ rows, Statement.IsRow (rows.flatMap Prod.fst).length r.1 r.2)
    (hmark : ∀ c ∈ (rows.flatMap Prod.fst).head?, c ≠ '\uFEFF') :
    parse? (String.ofList (rows.flatMap Prod.fst)) = Entries.ofStatements? (rows.map Prod.snd) := by
  have hskip : skipByteOrderMark (rows.flatMap Prod.fst) = rows.flatMap Prod.fst := by
    rw [skipByteOrderMark]
    intro rest heq
    exact hmark '\uFEFF' (by rw [heq]; rfl) rfl
  have hread := Statement.readAll?_rows hrows (Statement.length_rows_le hrows)
  rw [parse?, String.toList_ofList, hskip]
  simp only [hread, bind, Option.bind_some]

/-! ## Arrays around arrays -/

/-- Brackets around brackets, `depth` pairs of them. -/
def brackets (depth : ℕ) : List Char :=
  List.replicate depth '[' ++ List.replicate depth ']'

/-- An array around an array, and so on; the innermost is empty. -/
def Value.nested : ℕ → Value
  | 0 => .array []
  | depth + 1 => .array [nested depth]

private lemma skipLayout_bracket (s : List Char) : skipLayout ('[' :: s) = '[' :: s := by
  unfold skipLayout
  rfl

private lemma skipLayout_closing (s : List Char) : skipLayout (']' :: s) = ']' :: s := by
  unfold skipLayout
  rfl

/-- One pair of brackets is put around `brackets depth`. -/
@[simp] lemma brackets_succ (depth : ℕ) (s : List Char) :
    brackets (depth + 1) ++ s = '[' :: (brackets depth ++ ']' :: s) := by
  have hclosing : List.replicate (depth + 1) ']' = List.replicate depth ']' ++ [']'] :=
    List.replicate_succ'
  rw [brackets, brackets, List.replicate_succ, hclosing]
  simp only [List.cons_append, List.append_assoc, List.nil_append]

/-- One `item` between brackets is read as such, if it starts with a bracket itself. -/
private lemma items?_singleton {item : List Char → Option (Value × List Char)} {s rest : List Char}
    {v : Value} (h : item ('[' :: s) = some (v, ']' :: rest)) (bound : ℕ) :
    items? item (bound + 1) ('[' :: s) = some ([v], rest) := by
  unfold items?
  rw [skipLayout_bracket]
  split
  · next heq => exact absurd (List.cons.inj heq).1 (by decide)
  · simp only [h, skipLayout_closing]

/-- The `brackets` are read down to `limit`, if any array may have an item at all. -/
theorem value?_nested {depth limit : ℕ} (h : depth < limit) (bound : ℕ) (rest : List Char) :
    value? (bound + 1) limit (brackets (depth + 1) ++ rest)
      = some (Value.nested depth, rest) := by
  obtain ⟨limit, rfl⟩ := Nat.exists_eq_add_one_of_ne_zero (Nat.ne_zero_of_lt h)
  rw [brackets_succ]
  induction depth generalizing limit rest with
  | zero =>
    have hitems : items? (value? (bound + 1) limit) (bound + 1) (']' :: rest)
        = some ([], rest) := by
      unfold items?
      simp only [skipLayout_closing]
    have hnone : brackets 0 ++ ']' :: rest = ']' :: rest := rfl
    rw [hnone, value?, hitems]
    rfl
  | succ depth ih =>
    obtain ⟨limit, rfl⟩ := Nat.exists_eq_add_one_of_ne_zero (by omega : limit ≠ 0)
    have hitem := ih (']' :: rest) limit (by omega)
    rw [brackets_succ, value?, items?_singleton hitem]
    rfl

private lemma items?_bracket {item : List Char → Option (Value × List Char)} {s : List Char}
    (h : item ('[' :: s) = none) (bound : ℕ) : items? item bound ('[' :: s) = none := by
  unfold items?
  rw [skipLayout_bracket]
  split
  · next heq => exact absurd (List.cons.inj heq).1 (by decide)
  · split
    · next hitem =>
      rw [h] at hitem
      cases hitem
    · rfl

/-- More brackets than `depth` are not read, whatever follows them. -/
theorem value?_brackets (bound depth : ℕ) (s : List Char) :
    value? bound depth (List.replicate (depth + 1) '[' ++ s) = none := by
  induction depth with
  | zero => rfl
  | succ depth ih =>
    rw [List.replicate_succ, List.cons_append] at ih ⊢
    rw [List.replicate_succ, List.cons_append, value?, items?_bracket ih]
    rfl

namespace Statement

private lemma words?_brackets {name : List Char} (hname : IsBare name) (bound : ℕ) (s : List Char) :
    words? bound (name ++ ' ' :: '=' :: ' ' :: (List.replicate depthLimit '[' ++ s)) = none := by
  have hskip : skipBlanks (' ' :: (List.replicate depthLimit '[' ++ s))
      = List.replicate depthLimit '[' ++ s := by
    rw [skipBlanks_blank]
    exact skipBlanks_cons rfl _
  have hvalue : value? bound (depthLimit - 1) (List.replicate depthLimit '[' ++ s) = none :=
    value?_brackets bound _ s
  rw [words?, assignment?, key?_assigned hname]
  · simp only [bind, Option.bind_some, expect?, if_true, hskip, hvalue]
    rfl
  · intro s heq
    obtain ⟨c, tail, hcons, hc⟩ := hname.exists_cons
    rw [hcons] at heq
    exact absurd (List.cons.inj heq).1 (ne_of_isBareKeyChar hc rfl)

/-- Nothing is read from a line in which `words?` finds no statement. -/
private lemma readAll?_eq_none {bound : ℕ} {c : Char} {s : List Char} (hc : isBareKeyChar c = true)
    (hwords : words? bound (c :: s) = none) (lines : ℕ) : readAll? bound lines (c :: s) = none := by
  have hne {d : Char} (hd : isBareKeyChar d = false) : c ≠ d := ne_of_isBareKeyChar hc hd
  have hblank := isBlank_of_isBareKeyChar hc
  have hline : line? bound (c :: s) = none := by
    rw [line?, trailing?_eq_none hblank (hne rfl) (hne rfl) (hne rfl), skipBlanks_cons hblank,
      hwords]
    rfl
  -- a line that is not read ends the reading, however many may follow
  cases lines with
  | zero => rfl
  | succ lines =>
    rw [readAll?, hline]
    exact List.cons_ne_nil c s

end Statement

/-- A document whose first value is nested as deep as `depthLimit` is not read, whatever follows the
brackets. -/
theorem parse?_brackets {name : List Char} (hname : IsBare name) (s : List Char) :
    parse? (String.ofList (name ++ ' ' :: '=' :: ' ' :: (List.replicate depthLimit '[' ++ s)))
      = none := by
  obtain ⟨c, tail, hcons, hc⟩ := hname.exists_cons
  have hwords := fun bound => Statement.words?_brackets hname bound s
  rw [hcons, List.cons_append] at hwords ⊢
  have hmark (s : List Char) : skipByteOrderMark (c :: s) = c :: s := by
    rw [skipByteOrderMark]
    intro rest heq
    exact absurd (List.cons.inj heq).1 (ne_of_isBareKeyChar hc rfl)
  rw [parse?, String.toList_ofList, hmark]
  simp only [Statement.readAll?_eq_none hc (hwords _)]
  rfl

end LineLandmarks.Toml
