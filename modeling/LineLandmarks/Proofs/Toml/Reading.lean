import LineLandmarks.Proofs.Toml.DocumentOrder
import LineLandmarks.Toml.Document

/-!
# Documents that were read

A document is read into statements, which are then put together (`parse?_eq_bind`). A table that was
read between braces is itself put together from assignments, so the entries of a document, and those
of the tables at its top, stand in the order of their places however the tables were written.
-/

namespace LineLandmarks.Toml

/-! ## Tables between braces -/

/-- The reader `simpleValue?` gives no table. -/
private lemma simpleValue?_ne_table {s rest : List Char} {v : Value}
    (h : simpleValue? s = some (v, rest)) (origin : TableOrigin) (e : Entries) :
    v ≠ .table origin e := by
  intro hv
  rw [hv] at h
  unfold simpleValue? at h
  split at h
  · exact nomatch h
  · exact nomatch h
  · split at h
    · exact nomatch h
    · split at h
      · exact nomatch h
      · split at h
        · exact nomatch h
        · obtain ⟨r, -, heq⟩ := Option.map_eq_some_iff.mp h
          exact nomatch heq

/-- A table that `value?` gives was put together from assignments. -/
lemma isAssembled_of_value? {bound depth : ℕ} {s rest : List Char} {v : Value}
    (h : value? bound depth s = some (v, rest)) : v.IsAssembled := by
  intro origin e hv
  -- only braces are read as a table
  cases depth with
  | zero => exact absurd hv (simpleValue?_ne_table h origin e)
  | succ depth =>
    unfold value? at h
    split at h
    · obtain ⟨r, -, heq⟩ := Option.map_eq_some_iff.mp h
      rw [← (Prod.mk.inj heq).1] at hv
      exact nomatch hv
    · obtain ⟨r, -, h⟩ := Option.bind_eq_some_iff.mp h
      obtain ⟨entries, hentries, heq⟩ := Option.bind_eq_some_iff.mp h
      have heq := (Prod.mk.inj (Option.some.inj heq)).1
      rw [hv] at heq
      rw [← (Value.table.inj heq).2]
      exact ⟨r.1, hentries⟩
    · exact absurd hv (simpleValue?_ne_table h origin e)

/-! ## Statements -/

/-- The value of an assignment satisfies `IsAssembled`. -/
def Statement.IsAssembled : Statement → Prop
  | .assign a => a.value.IsAssembled
  | .table _ => True
  | .arrayTable _ => True

private lemma isAssembled_of_assignment? {bound depth : ℕ} {s rest : List Char} {a : Assignment}
    (h : assignment? (value? bound depth) s = some (a, rest)) : a.value.IsAssembled := by
  obtain ⟨k, -, h⟩ := Option.bind_eq_some_iff.mp h
  obtain ⟨r, -, h⟩ := Option.bind_eq_some_iff.mp h
  obtain ⟨v, hv, heq⟩ := Option.bind_eq_some_iff.mp h
  rw [← (Prod.mk.inj (Option.some.inj heq)).1]
  exact isAssembled_of_value? hv

private lemma isAssembled_of_header? {s rest : List Char} {statement : Statement}
    (h : Statement.header? s = some (statement, rest)) : statement.IsAssembled := by
  unfold Statement.header? at h
  split at h
  · obtain ⟨k, -, h⟩ := Option.bind_eq_some_iff.mp h
    obtain ⟨r, -, h⟩ := Option.bind_eq_some_iff.mp h
    obtain ⟨r', -, heq⟩ := Option.bind_eq_some_iff.mp h
    rw [← (Prod.mk.inj (Option.some.inj heq)).1]
    trivial
  · obtain ⟨k, -, h⟩ := Option.bind_eq_some_iff.mp h
    obtain ⟨r, -, heq⟩ := Option.bind_eq_some_iff.mp h
    rw [← (Prod.mk.inj (Option.some.inj heq)).1]
    trivial

private lemma isAssembled_of_line? {bound : ℕ} {s rest : List Char} {statement : Statement}
    (h : Statement.line? bound s = some (some statement, rest)) : statement.IsAssembled := by
  unfold Statement.line? at h
  split at h
  · exact nomatch h
  · obtain ⟨r, hwords, h⟩ := Option.bind_eq_some_iff.mp h
    obtain ⟨r', -, heq⟩ := Option.bind_eq_some_iff.mp h
    have hstatement := Option.some.inj (Prod.mk.inj (Option.some.inj heq)).1
    rw [← hstatement]
    unfold Statement.words? at hwords
    split at hwords
    · exact isAssembled_of_header? hwords
    · obtain ⟨r'', ha, heq⟩ := Option.map_eq_some_iff.mp hwords
      rw [← heq]
      exact isAssembled_of_assignment? ha

/-- Every statement that `readAll?` gives stands on some line. -/
lemma exists_line?_of_mem_readAll? {bound lines : ℕ} {s : List Char} {statements : List Statement}
    (h : Statement.readAll? bound lines s = some statements) {statement : Statement}
    (hmem : statement ∈ statements) :
    ∃ line rest, Statement.line? bound line = some (some statement, rest) := by
  induction lines, s using Statement.readAll?.induct bound generalizing statements with
  | case1 lines =>
    rw [Statement.readAll?] at h
    rw [← Option.some.inj h] at hmem
    exact nomatch hmem
  | case2 c s => exact nomatch h
  | case3 lines s hs hline =>
    rw [Statement.readAll?, hline] at h
    · exact nomatch h
    · exact hs
  | case4 lines s hs first rest hline ih =>
    rw [Statement.readAll?, hline] at h
    · obtain ⟨later, hlater, heq⟩ := Option.map_eq_some_iff.mp h
      rw [← heq] at hmem
      rcases List.mem_append.mp hmem with hmem | hmem
      · rw [Option.mem_toList.mp hmem] at hline
        exact ⟨s, rest, hline⟩
      · exact ih hlater hmem
    · exact hs

/-- Every statement that `readAll?` gives satisfies `IsAssembled`. -/
lemma isAssembled_of_readAll? {bound lines : ℕ} {s : List Char} {statements : List Statement}
    (h : Statement.readAll? bound lines s = some statements) :
    ∀ statement ∈ statements, statement.IsAssembled := by
  intro statement hmem
  obtain ⟨line, rest, hline⟩ := exists_line?_of_mem_readAll? h hmem
  exact isAssembled_of_line? hline

/-- The statements of the document `text`. -/
def statements? (text : String) : Option (List Statement) :=
  let s := skipByteOrderMark text.toList
  Statement.readAll? s.length s.length s

/-- A document is read by `statements?` and then put together by `ofStatements?`. -/
theorem parse?_eq_bind (text : String) :
    parse? text = (statements? text).bind Entries.ofStatements? := rfl

private lemma mem_of_mem_blocks {statements : List Statement} {a : Assignment}
    (h : a ∈ (blocks statements).1) : .assign a ∈ statements := by
  induction statements with
  | nil => exact nomatch h
  | cons statement statements ih =>
    cases statement with
    | assign b =>
      rcases List.mem_cons.mp h with h | h
      · rw [h]
        exact List.mem_cons_self
      · exact List.mem_cons_of_mem _ (ih h)
    | table key => exact nomatch h
    | arrayTable key => exact nomatch h

/-- In a document that was read, the entries at the top and those of every table there stand in the
order of their places among the `mentions`. -/
theorem traces_of_statements? {text : String} {statements : List Statement} {e : Entries}
    (hread : statements? text = some statements) (h : Entries.ofStatements? statements = some e) :
    Traces (mentions [] statements) e
      ∧ ∀ name, TracesBelow name (mentions [name] statements) e := by
  refine ⟨traces_ofStatements? h, tracesBelow_ofStatements? h ?_⟩
  intro a ha
  exact isAssembled_of_readAll? hread _ (mem_of_mem_blocks ha)

end LineLandmarks.Toml
