import Mathlib.Tactic.Lemma
import LineLandmarks.Toml.Entries

/-!
# Statements that add up

Assignments without parents add their entries one after the other, and headers without parents add
their tables, as long as no name comes twice. So the entries of a document that is made of such
headers and assignments are its tables in the order they are written (`ofStatements?_plain`).
-/

namespace LineLandmarks.Toml

namespace Assignment

/-- The entry that the assignment `a`, without parents, makes. -/
def entry (a : Assignment) : String × Value :=
  (a.key.name, a.value)

end Assignment

namespace Block

/-- The statements of the block `b`: its header and its assignments. -/
def statements (b : Block) : List Statement :=
  (if b.repeated then .arrayTable b.key else .table b.key) :: b.body.map .assign

/-- A table under a header without parents, of assignments without parents and with distinct
names. -/
structure IsPlain (b : Block) : Prop where
  repeated : b.repeated = false
  parents : b.key.parents = []
  body : ∀ a ∈ b.body, a.key.parents = []
  nodup : (b.body.map fun a => a.key.name).Nodup

/-- The entry that the block `b` makes if it `IsPlain`. -/
def entry (b : Block) : String × Value :=
  (b.key.name, .table .header (b.body.map Assignment.entry))

end Block

/-! ## Blocks of statements -/

@[simp] lemma blocks_assigns (as : List Assignment) (rest : List Statement) :
    blocks (as.map .assign ++ rest) = (as ++ (blocks rest).1, (blocks rest).2) := by
  induction as with
  | nil => rfl
  | cons a as ih =>
    rw [List.map_cons, List.cons_append, blocks, ih]
    rfl

/-- The `statements` of the blocks `bs` are grouped into `bs`. -/
@[simp]
theorem blocks_statements (bs : List Block) : blocks (bs.flatMap Block.statements) = ([], bs) := by
  induction bs with
  | nil => rfl
  | cons b bs ih =>
    obtain ⟨repeated, key, body⟩ := b
    have hbody : blocks (body.map .assign ++ bs.flatMap Block.statements) = (body, bs) := by
      rw [blocks_assigns, ih, List.append_nil]
    rw [List.flatMap_cons, Block.statements, List.cons_append]
    cases repeated with
    | false => simp only [Bool.false_eq_true, if_false, blocks, hbody]
    | true => simp only [if_true, blocks, hbody]

namespace Entries

/-! ## Names and look-ups -/

/-- The names of the entries `e` in their order. -/
abbrev names (e : Entries) : List String := e.map Prod.fst

lemma lookup_eq_none_iff_notMem {e : Entries} {name : String} :
    e.lookup name = none ↔ name ∉ names e := by
  rw [List.lookup_eq_none_iff, List.mem_map]
  constructor
  · intro h hmem
    obtain ⟨p, hp, hname⟩ := hmem
    exact bne_iff_ne.mp (h p hp) hname.symm
  · intro h p hp
    rw [bne_iff_ne]
    intro hname
    exact h ⟨p, hp, hname.symm⟩

lemma mem_names_of_lookup {e : Entries} {name : String} {v : Value}
    (h : e.lookup name = some v) : name ∈ names e := by
  by_cases hmem : name ∈ names e
  · exact hmem
  · rw [lookup_eq_none_iff_notMem.mpr hmem] at h
    exact nomatch h

lemma lookup_of_mem {e : Entries} (h : (names e).Nodup) {name : String} {v : Value}
    (hmem : (name, v) ∈ e) : e.lookup name = some v := by
  induction e with
  | nil => exact nomatch hmem
  | cons p e ih =>
    obtain ⟨k, w⟩ := p
    obtain ⟨hk, htail⟩ := List.nodup_cons.mp h
    rcases List.mem_cons.mp hmem with heq | hmem
    · rw [(Prod.mk.inj heq).1, (Prod.mk.inj heq).2]
      exact List.lookup_cons_self
    · have hne : name ≠ k := by
        intro hname
        rw [← hname] at hk
        exact hk (List.mem_map.mpr ⟨_, hmem, rfl⟩)
      rw [List.lookup_cons, beq_false_of_ne hne]
      exact ih htail hmem

@[simp] lemma names_append (e : Entries) (name : String) (v : Value) :
    names (append e name v) = names e ++ [name] := by
  rw [append, names, List.map_append]
  rfl

@[simp] lemma names_replace (e : Entries) (name : String) (v : Value) :
    names (replace name v e) = names e := by
  induction e with
  | nil => rfl
  | cons p e ih =>
    obtain ⟨k, w⟩ := p
    rw [replace]
    split
    · rfl
    · exact congrArg (k :: ·) ih

@[simp]
lemma names_erase (e : Entries) (name : String) : names (erase name e) = (names e).erase name := by
  induction e with
  | nil => rfl
  | cons p e ih =>
    obtain ⟨k, w⟩ := p
    rw [erase]
    by_cases hk : k = name
    · rw [if_pos hk, hk]
      exact (List.erase_cons_head ..).symm
    · rw [if_neg hk]
      show k :: names (erase name e) = (k :: names e).erase name
      rw [List.erase_cons_tail (by simpa using hk), ih]

@[simp] lemma lookup_append_self {e : Entries} {name : String} (h : name ∉ names e) (v : Value) :
    (append e name v).lookup name = some v := by
  rw [append, List.lookup_append, lookup_eq_none_iff_notMem.mpr h, Option.none_or]
  exact List.lookup_cons_self

@[simp]
lemma lookup_append_of_ne {e : Entries} {name other : String} (h : other ≠ name) (v : Value) :
    (append e name v).lookup other = e.lookup other := by
  rw [append, List.lookup_append, List.lookup_cons, beq_false_of_ne h]
  exact Option.or_none

@[simp] lemma lookup_replace_self {e : Entries} {name : String} (h : name ∈ names e) (v : Value) :
    (replace name v e).lookup name = some v := by
  induction e with
  | nil => exact nomatch h
  | cons p e ih =>
    obtain ⟨k, w⟩ := p
    rw [replace]
    by_cases hk : k = name
    · rw [if_pos hk, hk, List.lookup_cons_self]
    · have hmem : name ∈ names e := by
        rcases List.mem_cons.mp h with h | h
        · exact absurd h.symm hk
        · exact h
      rw [if_neg hk, List.lookup_cons, beq_false_of_ne (Ne.symm hk)]
      exact ih hmem

@[simp]
lemma lookup_replace_of_ne {e : Entries} {name other : String} (h : other ≠ name) (v : Value) :
    (replace name v e).lookup other = e.lookup other := by
  induction e with
  | nil => rfl
  | cons p e ih =>
    obtain ⟨k, w⟩ := p
    rw [replace]
    by_cases hk : k = name
    · rw [if_pos hk, hk, List.lookup_cons, List.lookup_cons, beq_false_of_ne h]
    · rw [if_neg hk, List.lookup_cons, List.lookup_cons, ih]

@[simp] lemma lookup_erase_of_ne {e : Entries} {name other : String} (h : other ≠ name) :
    (erase name e).lookup other = e.lookup other := by
  induction e with
  | nil => rfl
  | cons p e ih =>
    obtain ⟨k, w⟩ := p
    rw [erase]
    by_cases hk : k = name
    · rw [if_pos hk, hk, List.lookup_cons, beq_false_of_ne h]
    · rw [if_neg hk, List.lookup_cons, List.lookup_cons, ih]

/-! ## What a step can do -/

/-- A step `within` a table by `name` makes the table, changes it, or changes an array of tables. -/
theorem within_cons_cases {made : TableOrigin} {enter : TableOrigin → Bool}
    {change : TableOrigin → Entries → Option Entries} {name : String} {path : List String}
    {origin : TableOrigin} {e e' : Entries}
    (h : within made enter change (name :: path) origin e = some e') :
    (e.lookup name = none
        ∧ ∃ t', within made enter change path made [] = some t'
          ∧ e' = append e name (.table made t'))
      ∨ (∃ o t t', e.lookup name = some (.table o t)
        ∧ within made enter change path o t = some t' ∧ e' = replace name (.table o t') e)
      ∨ ∃ tables tables', e.lookup name = some (.tableArray tables)
        ∧ e' = replace name (.tableArray tables') e := by
  rw [within] at h
  cases hlookup : e.lookup name with
  | none =>
    rw [hlookup] at h
    obtain ⟨t', ht', heq⟩ := Option.bind_eq_some_iff.mp h
    exact Or.inl ⟨rfl, t', ht', (Option.some.inj heq).symm⟩
  | some v =>
    rw [hlookup] at h
    cases v with
    | table o t =>
      simp only at h
      split at h
      · obtain ⟨t', ht', heq⟩ := Option.bind_eq_some_iff.mp h
        exact Or.inr (Or.inl ⟨o, t, t', rfl, ht', (Option.some.inj heq).symm⟩)
      · exact nomatch h
    | tableArray tables =>
      simp only at h
      split at h
      · obtain ⟨t', -, heq⟩ := Option.bind_eq_some_iff.mp h
        exact Or.inr (Or.inr ⟨tables, _, rfl, (Option.some.inj heq).symm⟩)
      · exact nomatch h
    | _ => exact nomatch h

/-- The step `assignHere` adds a new entry. -/
theorem assignHere_cases {a : Assignment} {origin : TableOrigin} {e e' : Entries}
    (h : assignHere a origin e = some e') :
    e.lookup a.key.name = none ∧ e' = append e a.key.name a.value := by
  rw [assignHere] at h
  split at h
  · exact nomatch h
  · cases hlookup : e.lookup a.key.name with
    | none =>
      rw [hlookup] at h
      exact ⟨rfl, (Option.some.inj h).symm⟩
    | some v =>
      rw [hlookup] at h
      exact nomatch h

/-- The step `openTable` opens a new table, or one that is only a `parent` so far and moves to the
end. -/
theorem openTable_cases {b : Block} {e e' : Entries} (h : openTable b e = some e') :
    (e.lookup b.key.name = none
        ∧ ∃ t, assignAll [] b.body = some t ∧ e' = append e b.key.name (.table .header t))
      ∨ ∃ t t', e.lookup b.key.name = some (.table .parent t) ∧ assignAll t b.body = some t'
        ∧ e' = append (erase b.key.name e) b.key.name (.table .header t') := by
  rw [openTable] at h
  cases hlookup : e.lookup b.key.name with
  | none =>
    rw [hlookup] at h
    obtain ⟨t, ht, heq⟩ := Option.bind_eq_some_iff.mp h
    exact Or.inl ⟨rfl, t, ht, (Option.some.inj heq).symm⟩
  | some v =>
    rw [hlookup] at h
    cases v with
    | table o t =>
      -- a table with a header, a dotted name or braces of its own is not opened again
      cases o with
      | parent =>
        obtain ⟨t', ht', heq⟩ := Option.bind_eq_some_iff.mp h
        exact Or.inr ⟨t, t', rfl, ht', (Option.some.inj heq).symm⟩
      | _ => exact nomatch h
    | _ => exact nomatch h

/-- The step `openArrayTable` makes the array or adds to it. -/
theorem openArrayTable_cases {b : Block} {e e' : Entries} (h : openArrayTable b e = some e') :
    (e.lookup b.key.name = none ∧ ∃ tables, e' = append e b.key.name (.tableArray tables))
      ∨ ∃ tables tables', e.lookup b.key.name = some (.tableArray tables)
        ∧ e' = replace b.key.name (.tableArray tables') e := by
  rw [openArrayTable] at h
  cases hlookup : e.lookup b.key.name with
  | none =>
    rw [hlookup] at h
    obtain ⟨t, -, heq⟩ := Option.bind_eq_some_iff.mp h
    exact Or.inl ⟨rfl, _, (Option.some.inj heq).symm⟩
  | some v =>
    rw [hlookup] at h
    cases v with
    | tableArray tables =>
      obtain ⟨t, -, heq⟩ := Option.bind_eq_some_iff.mp h
      exact Or.inr ⟨tables, _, rfl, (Option.some.inj heq).symm⟩
    | _ => exact nomatch h

/-! ## New names -/

/-- If each `step` adds an entry behind those of other names, steps with distinct names add their
entries in order. -/
private lemma foldlM_of_new {α : Type} {step : Entries → α → Option Entries}
    {entry : α → String × Value} {e : Entries} {as : List α}
    (hstep : ∀ a ∈ as, ∀ e : Entries, (entry a).1 ∉ e.map Prod.fst →
      step e a = some (e ++ [entry a]))
    (hnodup : (e.map Prod.fst ++ as.map fun a => (entry a).1).Nodup) :
    as.foldlM step e = some (e ++ as.map entry) := by
  -- the names so far are those of `e`, which grows with every step
  induction as generalizing e with
  | nil =>
    rw [List.map_nil, List.append_nil]
    rfl
  | cons a as ih =>
    rw [List.map_cons, List.append_cons] at hnodup
    have hnew : (entry a).1 ∉ e.map Prod.fst := by
      intro hmem
      have hleft := (List.nodup_append.mp hnodup).1
      exact (List.nodup_append.mp hleft).2.2 _ hmem _ (List.mem_singleton_self _) rfl
    have hrest : as.foldlM step (e ++ [entry a]) = some (e ++ [entry a] ++ as.map entry) := by
      refine ih (fun b hb => hstep b (List.mem_cons_of_mem a hb)) ?_
      rw [List.map_append]
      exact hnodup
    rw [List.foldlM_cons, hstep a List.mem_cons_self e hnew]
    show as.foldlM step (e ++ [entry a]) = _
    rw [hrest, List.append_assoc]
    rfl

/-- Assignments without parents add each its `entry`, in order. -/
theorem assignAll_plain {as : List Assignment} (hparents : ∀ a ∈ as, a.key.parents = [])
    (hnodup : (as.map fun a => a.key.name).Nodup) :
    assignAll [] as = some (as.map Assignment.entry) := by
  refine foldlM_of_new ?_ hnodup
  intro a ha e hnew
  have hlookup : e.lookup a.key.name = none := lookup_eq_none_iff_notMem.mpr hnew
  rw [assign, hparents a ha, within, assignHere, if_neg (fun h => h.1 (hparents a ha)), hlookup]
  rfl

/-- Blocks that are `IsPlain`, with distinct names, make each its `entry`, in order. -/
theorem ofStatements?_plain {bs : List Block} (hbs : ∀ b ∈ bs, b.IsPlain)
    (hnodup : (bs.map fun b => b.key.name).Nodup) :
    ofStatements? (bs.flatMap Block.statements) = some (bs.map Block.entry) := by
  rw [ofStatements?, blocks_statements]
  refine foldlM_of_new (e := []) ?_ hnodup
  intro b hb e hnew
  have hplain := hbs b hb
  have hlookup : e.lookup b.key.name = none := lookup_eq_none_iff_notMem.mpr hnew
  rw [openBlock, hplain.parents, within, hplain.repeated]
  simp only [Bool.false_eq_true, if_false]
  rw [openTable, hlookup, assignAll_plain hplain.body hplain.nodup]
  rfl

end Entries

end LineLandmarks.Toml
