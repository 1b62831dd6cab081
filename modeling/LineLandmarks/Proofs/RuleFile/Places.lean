import LineLandmarks.Proofs.RuleFile.Settings
import LineLandmarks.Proofs.Toml.Lines
import LineLandmarks.RuleFile.Parse

/-!
# Sections given as arrays

A section may be given as an array: its items are the values of the fields in their order. It is
read as the table with these entries would be, item by item, so both have the same outcome, down to
the first item that does not fit; items beyond the last field are not looked at
(`parse_array_eq_table`). An array nests its items one level deeper than a table does, so the limit
on nesting can refuse the array alone (`parse_array_ne_table`).
-/

namespace LineLandmarks.RuleFile

open Toml (Entries TableOrigin)

/-- The value `v` is an array of `items`, made by brackets or by headers. -/
def IsArrayOf (items : List Toml.Value) (v : Toml.Value) : Prop :=
  v = .array items ∨ v = .tableArray items

namespace Section

/-- The value `v` is a table of the section `s` in which the fields in their order have the `items`,
as far as there are both. -/
def IsTableOf (s : Section) (items : List Toml.Value) (v : Toml.Value) : Prop :=
  ∃ (origin : TableOrigin) (t : Entries), v = .table origin t
    ∧ t.map Prod.fst = (s.fields.map Field.name).take items.length
    ∧ t.map Prod.snd = items.take s.fields.length

variable {s : Section}

/-! ## Entries by name and by place -/

/-- The `items` beyond the last field have no place. -/
private lemma zip_take (items : List Toml.Value) :
    s.fields.zip (items.take s.fields.length) = s.fields.zip items := by
  rw [List.zip_eq_zip_take_min, @List.zip_eq_zip_take_min _ _ s.fields items]
  simp [List.take_take]

/-- The keys of such a table `t` stand beside the `items`, in the order of both. -/
private lemma eq_zip_of_map {items : List Toml.Value} {t : Entries}
    (hkeys : t.map Prod.fst = (s.fields.map Field.name).take items.length)
    (hvalues : t.map Prod.snd = items.take s.fields.length) :
    t = (s.fields.zip items).map (Prod.map Field.name id) := by
  rw [← List.zip_map_left, List.zip_of_prod hkeys hvalues, List.zip_eq_zip_take_min,
    @List.zip_eq_zip_take_min _ _ (s.fields.map Field.name) items]
  simp [List.take_take, Nat.min_comm]

/-- Fields with values are read by `readEntry` under their keys as by `readItem` at their places. -/
private lemma foldlM_readEntry_eq {l : List (Field × Toml.Value)}
    (hl : ∀ p ∈ l, p.1 ∈ s.fields) (r : Rules) :
    (l.map (Prod.map Field.name id)).foldlM s.readEntry r = l.foldlM readItem r := by
  induction l generalizing r with
  | nil => rfl
  | cons p l ih =>
    have hread : s.readEntry r (Prod.map Field.name id p) = readItem r p := by
      rw [readEntry, Prod.map_fst, field?_name (hl p List.mem_cons_self)]
      rfl
    rw [List.map_cons, List.foldlM_cons, List.foldlM_cons, hread]
    -- the rules differ after each item, so the rest is compared from any rules on
    congr 1
    funext r'
    exact ih (fun q hq => hl q (List.mem_cons_of_mem p hq)) r'

/-- An `array` is read item by item, each as the field of its place. -/
private lemma read_array {items : List Toml.Value} {array : Toml.Value}
    (h : IsArrayOf items array) (r : Rules) :
    s.read array r = (s.fields.zip items).foldlM readItem r := by
  rcases h with h | h
  · rw [h, read]
  · rw [h, read]

/-- A section is read the same as `array` and as the `table` with its items. -/
theorem read_array_eq_table {items : List Toml.Value} {array table : Toml.Value}
    (harray : IsArrayOf items array) (htable : s.IsTableOf items table) (r : Rules) :
    s.read array r = s.read table r := by
  obtain ⟨origin, t, htable, hkeys, hvalues⟩ := htable
  have hfields : ∀ p ∈ s.fields.zip items, p.1 ∈ s.fields := by
    intro p hp
    exact (List.of_mem_zip hp).1
  calc s.read array r
      = (s.fields.zip items).foldlM readItem r := read_array harray r
    _ = ((s.fields.zip items).map (Prod.map Field.name id)).foldlM s.readEntry r :=
        (foldlM_readEntry_eq hfields r).symm
    _ = s.read table r := by rw [htable, eq_zip_of_map hkeys hvalues, read]

/-- Two arrays with the same items as far as there are fields are `read` the same. -/
theorem read_array_congr {items items' : List Toml.Value} {array array' : Toml.Value}
    (h : IsArrayOf items array) (h' : IsArrayOf items' array')
    (hitems : items'.take s.fields.length = items.take s.fields.length) (r : Rules) :
    s.read array r = s.read array' r := by
  rw [read_array h, read_array h', ← zip_take items, ← hitems, zip_take items']

end Section

/-! ## Whole files -/

/-- Two files that differ in the section `s` alone, which is read the same in both, have the same
outcome of `parse`. -/
private lemma parse_congr {s : Section} {v v' : Toml.Value} (h : ∀ r, s.read v r = s.read v' r)
    {before after : Entries} {text text' : String}
    (htext : Toml.parse? text = some (before ++ (s.name, v) :: after))
    (htext' : Toml.parse? text' = some (before ++ (s.name, v') :: after)) :
    parse text = parse text' := by
  have hsection : ∀ r, readSection r (s.name, v) = readSection r (s.name, v') := by
    intro r
    rw [readSection, readSection, Section.ofName?_name]
    exact h r
  have hdecode : decode (before ++ (s.name, v) :: after)
      = decode (before ++ (s.name, v') :: after) := by
    simp only [decode, List.foldlM_append, List.foldlM_cons, hsection]
  rw [parse, parse, htext, htext']
  simp only [hdecode]

/-- A file that gives the section `s` as an array has the outcome of every file that is like it but
gives `s` as the table with these items under the names of the fields in their order: the same rules
and warnings, or the same error. It has the outcome of every file that is like it but gives `s` as
an array whose items are the same as far as there are fields. -/
theorem parse_array_eq_table {s : Section} {items : List Toml.Value} {array : Toml.Value}
    (harray : IsArrayOf items array) {before after : Entries} {text : String}
    (htext : Toml.parse? text = some (before ++ (s.name, array) :: after)) :
    (∀ table text', s.IsTableOf items table →
        Toml.parse? text' = some (before ++ (s.name, table) :: after) →
        parse text = parse text')
      ∧ ∀ items' array' text', IsArrayOf items' array' →
        items'.take s.fields.length = items.take s.fields.length →
        Toml.parse? text' = some (before ++ (s.name, array') :: after) →
        parse text = parse text' := by
  refine ⟨?_, ?_⟩
  · intro table text' htable htext'
    exact parse_congr (Section.read_array_eq_table harray htable) htext htext'
  · intro items' array' text' harray' hitems htext'
    exact parse_congr (Section.read_array_congr harray harray' hitems) htext htext'

/-- A file with both sections given as arrays, `excerpt` with more items than it has fields. -/
def placedSections : String := "landmarks = ['put']\nexcerpt = [2, 3, -1, 'more']\n"

/-- The file `placedSections` with `excerpt` given as a table. -/
def namedSection : String := "landmarks = ['put']\n[excerpt]\noffset = 2\nwidth = 3\n"

/-- Both `placedSections` and `namedSection` are accepted with the same rules, and so is the file
without the items beyond the last field. -/
theorem parse_array_eq_table_surplus :
    parse placedSections = parse namedSection
      ∧ parse placedSections = parse "landmarks = ['put']\nexcerpt = [2, 3]\n"
      ∧ parse placedSections
        = .ok (.ofRules { Rules.default with putSignature := "put", excerpt := ⟨2, 3⟩ }) := by
  let landmarks : Entries := [("landmarks", .array [.string "put"])]
  -- the layout between items is skipped by a recursion that is closed to plain unfolding
  have hplaced : Toml.parse? placedSections
      = some (landmarks ++ (Section.excerpt.name,
          .array [.integer 2, .integer 3, .integer (-1), .string "more"]) :: []) := by
    with_unfolding_all rfl
  have hfirst : Toml.parse? "landmarks = ['put']\nexcerpt = [2, 3]\n"
      = some (landmarks ++ (Section.excerpt.name, .array [.integer 2, .integer 3]) :: []) := by
    with_unfolding_all rfl
  have hnamed : Toml.parse? namedSection
      = some (landmarks ++ (Section.excerpt.name,
          .table .header [("offset", .integer 2), ("width", .integer 3)]) :: []) := by
    with_unfolding_all rfl
  have haccepted : parse namedSection
      = .ok (.ofRules { Rules.default with putSignature := "put", excerpt := ⟨2, 3⟩ }) := by
    rw [parse, hnamed]
    rfl
  obtain ⟨htables, harrays⟩ := parse_array_eq_table (Or.inl rfl) hplaced
  have htable := htables _ _ ⟨.header, _, rfl, rfl, rfl⟩ hnamed
  have harray := harrays [.integer 2, .integer 3] _ _ (Or.inl rfl) rfl hfirst
  exact ⟨htable, harray, htable.trans haccepted⟩

/-! ## The limit on nesting -/

/-- A value nested less deep than `depthLimit` is read as that of a field, which it does not fit. -/
private lemma parse_nested {depth : ℕ} (h : depth < Toml.depthLimit - 1) :
    parse ("[landmarks]\nput_signature = " ++ String.ofList (Toml.brackets (depth + 1)) ++ "\n")
      = .error (.schema (.wrongType .sequence .text)) := by
  let rows : List (List Char × Toml.Statement) :=
    [('[' :: ("landmarks".toList ++ [']', '\n']), .table ⟨[], "landmarks"⟩),
      ("put_signature".toList ++ ([' ', '=', ' '] ++ (Toml.brackets (depth + 1) ++ ['\n'])),
        .assign ⟨⟨[], "put_signature"⟩, Toml.Value.nested depth⟩)]
  have htext : "[landmarks]\nput_signature = " ++ String.ofList (Toml.brackets (depth + 1)) ++ "\n"
      = String.ofList (rows.flatMap Prod.fst) := by
    rw [← String.toList_inj]
    simp [rows]
  have hrows : ∀ r ∈ rows, Toml.Statement.IsRow (rows.flatMap Prod.fst).length r.1 r.2 := by
    refine List.forall_mem_cons.mpr ⟨?_, List.forall_mem_singleton.mpr ?_⟩
    · exact Toml.Statement.isRow_header _ ⟨by decide, by decide⟩
    · refine Toml.Statement.isRow_assign ⟨by decide, by decide⟩ ?_ ?_
      · intro c hc
        cases hc
        rfl
      · exact fun rest => Toml.value?_nested h _ _
  have hparse : Toml.parse? (String.ofList (rows.flatMap Prod.fst))
      = some [("landmarks", .table .header [("put_signature", Toml.Value.nested depth)])] := by
    rw [Toml.parse?_rows hrows]
    · rfl
    · intro c hc
      cases hc
      decide
  rw [parse, htext, hparse]
  cases depth <;> rfl

/-- As an item of the array that gives the section, the value is nested too deep for
`depthLimit`. -/
private lemma parse_nested_item {depth : ℕ} (h : depth + 1 = Toml.depthLimit) :
    parse ("landmarks = [" ++ String.ofList (Toml.brackets depth) ++ "]\n")
      = .error .malformed := by
  have htext : "landmarks = [" ++ String.ofList (Toml.brackets depth) ++ "]\n"
      = String.ofList ("landmarks".toList ++ ' ' :: '=' :: ' ' ::
        (List.replicate Toml.depthLimit '['
          ++ (List.replicate Toml.depthLimit ']' ++ ['\n']))) := by
    rw [← String.toList_inj, ← List.append_assoc, ← Toml.brackets, ← h, Toml.brackets_succ]
    simp
  have hbare : Toml.IsBare "landmarks".toList := ⟨by decide, by decide⟩
  rw [parse, htext, Toml.parse?_brackets hbare]

/-- An array nested as deep as `depthLimit` allows is a value of a field, which does not fit. As the
item of an array it is nested too deep to be read at all. -/
theorem parse_array_ne_table :
    parse ("landmarks = [" ++ String.ofList (Toml.brackets 79) ++ "]\n") = .error .malformed
      ∧ parse ("[landmarks]\nput_signature = " ++ String.ofList (Toml.brackets 79) ++ "\n")
        = .error (.schema (.wrongType .sequence .text)) :=
  ⟨parse_nested_item rfl, parse_nested (by decide)⟩

end LineLandmarks.RuleFile
