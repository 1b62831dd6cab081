import Mathlib.Data.Int.Notation
import Mathlib.Data.Nat.Notation
import Mathlib.Tactic.Lemma
import LineLandmarks.Proofs.RuleFile.Settings
import LineLandmarks.RuleFile.Schema

/-!
# What fits the schema

Which entries a rule file may have, and what is wrong with any other. Reading stops at the first
entry that offends, whatever was read before it, so the outcome is a matter of the entries in their
order alone (`decode_eq_error_iff`).
-/

namespace LineLandmarks.RuleFile

open Toml (Entries TableOrigin)

/-! ## Entries that offend -/

/-- An entry that is looked at: one at the `top` of the file, or one in a section. -/
inductive Visit where
  | top (key : String) (v : Toml.Value)
  | field (s : Section) (key : String) (v : Toml.Value)

/-- The visits to an entry `p` at the top of the file and, if it is a section, to the entries in
it. -/
def visitsOf (p : String × Toml.Value) : List Visit :=
  .top p.1 p.2 ::
    match Section.ofName? p.1, p.2 with
    | some s, .table _ t => t.map fun q => .field s q.1 q.2
    | _, _ => []

/-- The entries of `e` in the order in which they are looked at. -/
def visits (e : Entries) : List Visit :=
  e.flatMap visitsOf

/-- An entry `Offends` with what is wrong with it. -/
inductive Offends : Visit → SchemaError → Prop
  | unknownSection {key v} (h : ∀ s : Section, key ≠ s.name) :
    Offends (.top key v) (.unknownField key ["landmarks", "excerpt"])
  | notTable {s v} (h : ∀ origin t, v ≠ .table origin t) :
    Offends (.top (Section.name s) v) (.wrongType (.ofValue v) (.block s))
  | unknownField {s : Section} {key v} (h : ∀ f ∈ s.fields, key ≠ f.name) :
    Offends (.field s key v) (.unknownField key (s.fields.map Field.name))
  | notText {s : Section} {f v} (hf : .text f ∈ s.fields) (h : ∀ t, v ≠ .string t) :
    Offends (.field s f.name v) (.wrongType (.ofValue v) .text)
  | notCount {s : Section} {f v} (hf : .count f ∈ s.fields) (h : ∀ n, v ≠ .integer n) :
    Offends (.field s f.name v) (.wrongType (.ofValue v) .count)
  | negative {s : Section} {f n} (hf : .count f ∈ s.fields) (h : n < 0) :
    Offends (.field s f.name (.integer n)) (.negative n)

namespace Field

/-- The values that a field `Takes`. -/
def Takes : Field → Toml.Value → Prop
  | text _, v => ∃ s, v = .string s
  | count _, v => ∃ n : ℕ, v = .integer n

end Field

/-- Every entry of `e` is a section with a table of fields of the section, each with a value that it
`Takes`. -/
def Fits (e : Entries) : Prop :=
  ∀ p ∈ e, ∃ s : Section, p.1 = s.name ∧ ∃ origin t, p.2 = .table origin t
    ∧ ∀ q ∈ t, ∃ f ∈ s.fields, q.1 = f.name ∧ f.Takes q.2

/-- No section in `e` is an array or a date or time. -/
def IsPlain (e : Entries) : Prop :=
  ∀ p ∈ e, ∀ s : Section, p.1 = s.name →
    (∀ items, p.2 ≠ .array items) ∧ (∀ tables, p.2 ≠ .tableArray tables)
      ∧ ∀ d, p.2 ≠ .dateTime d

/-! ## Errors of single entries -/

namespace Section

lemma ofName?_eq_some_iff {key : String} {s : Section} : ofName? key = some s ↔ key = s.name := by
  constructor
  · intro h
    rw [ofName?] at h
    have hname := List.find?_some h
    exact (beq_iff_eq.mp hname).symm
  · intro h
    rw [h]
    exact ofName?_name s

lemma ofName?_eq_none_iff {key : String} : ofName? key = none ↔ ∀ s : Section, key ≠ s.name := by
  constructor
  · intro h s hs
    rw [hs, ofName?_name] at h
    exact nomatch h
  · intro h
    cases hs : ofName? key with
    | none => rfl
    | some s => exact absurd (ofName?_eq_some_iff.mp hs) (h s)

lemma field?_eq_some_iff {s : Section} {key : String} {f : Field} :
    s.field? key = some f ↔ f ∈ s.fields ∧ key = f.name := by
  constructor
  · intro h
    rw [field?] at h
    have hname := List.find?_some h
    exact ⟨List.mem_of_find?_eq_some h, (beq_iff_eq.mp hname).symm⟩
  · intro h
    rw [h.2]
    exact field?_name h.1

lemma field?_eq_none_iff {s : Section} {key : String} :
    s.field? key = none ↔ ∀ f ∈ s.fields, key ≠ f.name := by
  constructor
  · intro h f hf hname
    rw [hname, field?_name hf] at h
    exact nomatch h
  · intro h
    cases hf : s.field? key with
    | none => rfl
    | some f => exact absurd (field?_eq_some_iff.mp hf).2 (h f (field?_eq_some_iff.mp hf).1)

end Section

/-- Two fields of one `name` in a section are one field. -/
private lemma eq_of_name_eq {s : Section} {f g : Field} (hf : f ∈ s.fields) (hg : g ∈ s.fields)
    (h : f.name = g.name) : f = g := by
  have := Section.field?_name hf
  rw [h, Section.field?_name hg, Option.some.injEq] at this
  exact this.symm

/-- A field is read with an error exactly if the value `Offends` with it. -/
private lemma read_eq_error_iff {s : Section} {f : Field} (hf : f ∈ s.fields) (v : Toml.Value)
    (r : Rules) (err : SchemaError) :
    f.read v r = .error err ↔ Offends (.field s f.name v) err := by
  constructor
  · intro h
    cases f with
    | text f =>
      cases v with
      | string t => cases h
      | _ =>
        rw [← Except.error.inj h]
        exact .notText hf fun t ht => by cases ht
    | count f =>
      cases v with
      | integer n =>
        rw [Field.read] at h
        split at h
        · next hn =>
          rw [← Except.error.inj h]
          exact .negative hf hn
        · cases h
      | _ =>
        rw [← Except.error.inj h]
        exact .notCount hf fun n hn => by cases hn
  · intro h
    -- the offence names a field by its key, and the key is that of `f` alone
    generalize hname : f.name = key at h
    cases h with
    | unknownField hkey => exact absurd hname.symm (hkey f hf)
    | notText hg hv =>
      rw [eq_of_name_eq hf hg hname]
      cases v with
      | string t => exact absurd rfl (hv t)
      | _ => rfl
    | notCount hg hv =>
      rw [eq_of_name_eq hf hg hname]
      cases v with
      | integer n => exact absurd rfl (hv n)
      | _ => rfl
    | negative hg hn =>
      rw [eq_of_name_eq hf hg hname]
      exact if_pos hn

/-- The step `readEntry` gives an error exactly if the entry `Offends` with it. -/
private lemma readEntry_eq_error_iff (s : Section) (r : Rules) (q : String × Toml.Value)
    (err : SchemaError) :
    s.readEntry r q = .error err ↔ Offends (.field s q.1 q.2) err := by
  obtain ⟨key, v⟩ := q
  rw [Section.readEntry]
  cases hfield : s.field? key with
  | some f =>
    obtain ⟨hf, hname⟩ := Section.field?_eq_some_iff.mp hfield
    rw [hname]
    exact read_eq_error_iff hf v r err
  | none =>
    have hunknown := Section.field?_eq_none_iff.mp hfield
    constructor
    · intro h
      rw [← Except.error.inj h]
      exact .unknownField hunknown
    · intro h
      cases h with
      | unknownField _ => rfl
      | notText hg _ => exact absurd rfl (hunknown _ hg)
      | notCount hg _ => exact absurd rfl (hunknown _ hg)
      | negative hg _ => exact absurd rfl (hunknown _ hg)

/-! ## The first entry that offends -/

/-- The first of `l` that `Offends`, and what is wrong with it. -/
def FirstOffence (l : List Visit) (err : SchemaError) : Prop :=
  ∃ before visit after, l = before ++ visit :: after ∧ Offends visit err
    ∧ ∀ x ∈ before, ∀ c, ¬ Offends x c

lemma firstOffence_cons {x : Visit} {l : List Visit} {err : SchemaError} :
    FirstOffence (x :: l) err ↔ Offends x err ∨ (∀ c, ¬ Offends x c) ∧ FirstOffence l err := by
  constructor
  · intro h
    obtain ⟨before, visit, after, heq, hvisit, hbefore⟩ := h
    cases before with
    | nil =>
      rw [(List.cons.inj heq).1]
      exact Or.inl hvisit
    | cons y before =>
      obtain ⟨hhead, htail⟩ := List.cons.inj heq
      rw [hhead]
      exact Or.inr ⟨hbefore y List.mem_cons_self, before, visit, after, htail, hvisit,
        fun z hz => hbefore z (List.mem_cons_of_mem y hz)⟩
  · intro h
    rcases h with h | h
    · exact ⟨[], x, l, rfl, h, fun y hy => nomatch hy⟩
    · obtain ⟨hx, before, visit, after, heq, hvisit, hbefore⟩ := h
      refine ⟨x :: before, visit, after, by rw [heq, List.cons_append], hvisit, ?_⟩
      intro y hy
      rcases List.mem_cons.mp hy with hy | hy
      · rw [hy]
        exact hx
      · exact hbefore y hy

@[simp] lemma firstOffence_nil {err : SchemaError} : ¬ FirstOffence [] err := by
  intro h
  obtain ⟨before, visit, after, heq, -⟩ := h
  exact absurd heq (by simp)

lemma firstOffence_append {l l' : List Visit} {err : SchemaError} :
    FirstOffence (l ++ l') err
      ↔ FirstOffence l err ∨ (∀ x ∈ l, ∀ c, ¬ Offends x c) ∧ FirstOffence l' err := by
  induction l with
  | nil => simp
  | cons x l ih =>
    rw [List.cons_append, firstOffence_cons, firstOffence_cons, ih]
    simp only [List.mem_cons, forall_eq_or_imp]
    constructor
    · intro h
      rcases h with h | h
      · exact Or.inl (Or.inl h)
      · obtain ⟨hx, h | h⟩ := h
        · exact Or.inl (Or.inr ⟨hx, h⟩)
        · exact Or.inr ⟨⟨hx, h.1⟩, h.2⟩
    · intro h
      rcases h with h | h
      · rcases h with h | h
        · exact Or.inl h
        · exact Or.inr ⟨h.1, Or.inl h.2⟩
      · exact Or.inr ⟨h.1.1, Or.inr ⟨h.1.2, h.2⟩⟩

/-- If any of `l` offends, there is a `FirstOffence`. -/
lemma exists_firstOffence {l : List Visit} {x : Visit} (hx : x ∈ l) {c : SchemaError}
    (h : Offends x c) : ∃ err, FirstOffence l err := by
  induction l with
  | nil => exact nomatch hx
  | cons y l ih =>
    by_cases hy : ∃ err, Offends y err
    · obtain ⟨err, hy⟩ := hy
      exact ⟨err, firstOffence_cons.mpr (Or.inl hy)⟩
    · have hnone : ∀ err, ¬ Offends y err := fun err herr => hy ⟨err, herr⟩
      rcases List.mem_cons.mp hx with hx | hx
      · rw [hx] at h
        exact absurd h (hnone c)
      · obtain ⟨err, herr⟩ := ih hx
        exact ⟨err, firstOffence_cons.mpr (Or.inr ⟨hnone, herr⟩)⟩

/-- None of `l` offends exactly if there is no `FirstOffence`. -/
lemma forall_not_firstOffence_iff {l : List Visit} :
    (∀ err, ¬ FirstOffence l err) ↔ ∀ x ∈ l, ∀ c, ¬ Offends x c := by
  constructor
  · intro h x hx c hc
    obtain ⟨err, herr⟩ := exists_firstOffence hx hc
    exact h err herr
  · intro h err herr
    obtain ⟨before, visit, after, heq, hvisit, -⟩ := herr
    exact h visit (by simp [heq]) err hvisit

/-- If every `step` fails with the `FirstOffence` among its entries, whatever the rules are by then,
all steps together fail with that of all entries. -/
private lemma foldlM_eq_error_iff {α : Type} {step : Rules → α → Except SchemaError Rules}
    {entries : α → List Visit} {l : List α}
    (hstep : ∀ a ∈ l, ∀ r err, step r a = .error err ↔ FirstOffence (entries a) err)
    (r : Rules) (err : SchemaError) :
    l.foldlM step r = .error err ↔ FirstOffence (l.flatMap entries) err := by
  -- the rules differ from step to step, so the induction is over all of them
  induction l generalizing r with
  | nil =>
    rw [List.flatMap_nil]
    exact ⟨fun h => (nomatch h), fun h => absurd h firstOffence_nil⟩
  | cons a l ih =>
    have ih := ih fun b hb => hstep b (List.mem_cons_of_mem a hb)
    have ha := hstep a List.mem_cons_self r
    rw [List.foldlM_cons, List.flatMap_cons, firstOffence_append, ← ha,
      ← forall_not_firstOffence_iff]
    simp only [← ha]
    cases hr : step r a with
    | error c =>
      have hstops : ¬ ∀ err, ¬ (Except.error c : Except SchemaError Rules) = .error err :=
        fun h => h c rfl
      simp only [hstops, false_and, or_false]
      rfl
    | ok r' =>
      show l.foldlM step r' = .error err ↔ _
      rw [ih r']
      simp

/-- A section that is a `table` does not offend. -/
lemma not_offends_table (s : Section) (origin : TableOrigin) (t : Entries)
    (err : SchemaError) : ¬ Offends (.top s.name (.table origin t)) err := by
  intro h
  generalize hkey : s.name = key at h
  cases h with
  | unknownSection h => exact h s hkey.symm
  | notTable h => exact h origin t rfl

/-- A section that is no table, array, date or time offends as a `wrongType`. -/
private lemma offends_section_iff (s : Section) {v : Toml.Value}
    (hv : ∀ origin t, v ≠ .table origin t) (err : SchemaError) :
    Offends (.top s.name v) err ↔ err = .wrongType (.ofValue v) (.block s) := by
  constructor
  · intro h
    generalize hkey : s.name = key at h
    cases h with
    | unknownSection h => exact absurd hkey.symm (h s)
    | notTable _ => rw [Section.name_injective hkey]
  · intro h
    rw [h]
    exact .notTable hv

private lemma firstOffence_singleton {x : Visit} {err : SchemaError} :
    FirstOffence [x] err ↔ Offends x err := by
  rw [firstOffence_cons]
  constructor
  · intro h
    rcases h with h | h
    · exact h
    · exact absurd h.2 firstOffence_nil
  · exact Or.inl

/-- The step `readSection` gives an error exactly if it is the `FirstOffence` of the entry and those
in it. -/
private lemma readSection_eq_error_iff {e : Entries} (hplain : IsPlain e)
    {p : String × Toml.Value} (hp : p ∈ e) (r : Rules) (err : SchemaError) :
    readSection r p = .error err ↔ FirstOffence (visitsOf p) err := by
  obtain ⟨key, v⟩ := p
  rw [readSection, visitsOf]
  cases hsection : Section.ofName? key with
  | none =>
    have hunknown := Section.ofName?_eq_none_iff.mp hsection
    rw [firstOffence_singleton]
    constructor
    · intro h
      rw [← Except.error.inj h]
      exact .unknownSection hunknown
    · intro h
      cases h with
      | unknownSection _ => rfl
      | notTable _ => exact absurd rfl (hunknown _)
  | some s =>
    have hname := Section.ofName?_eq_some_iff.mp hsection
    obtain ⟨harray, htableArray, hdateTime⟩ := hplain (key, v) hp s hname
    rw [hname]
    cases v with
    -- these are read by place or as a map of one key, and are excluded
    | array items => exact absurd rfl (harray items)
    | tableArray tables => exact absurd rfl (htableArray tables)
    | dateTime d => exact absurd rfl (hdateTime d)
    | table origin t =>
      have hnot := not_offends_table s origin t
      have hfields : t.foldlM s.readEntry r = .error err
          ↔ FirstOffence (t.flatMap fun q => [.field s q.1 q.2]) err :=
        foldlM_eq_error_iff (fun q _ r err =>
          (readEntry_eq_error_iff s r q err).trans firstOffence_singleton.symm) r err
      rw [firstOffence_cons]
      simp only [hnot, false_or, not_false_eq_true, implies_true, true_and]
      rw [List.map_eq_flatMap]
      exact hfields
    | _ =>
      rw [firstOffence_singleton]
      refine Iff.trans ?_ (offends_section_iff s (fun origin t ht => by cases ht) err).symm
      exact ⟨fun h => (Except.error.inj h).symm, fun h => by rw [h]; rfl⟩

/-- The entries `e` are decoded with an error exactly if it is the `FirstOffence` of their
`visits`. -/
theorem decode_eq_error_iff {e : Entries} (hplain : IsPlain e) (err : SchemaError) :
    decode e = .error err ↔ FirstOffence (visits e) err :=
  foldlM_eq_error_iff (fun _ hp r err => readSection_eq_error_iff hplain hp r err) .default err

/-! ## Entries that fit -/

/-- A field `Takes` a value exactly if the value offends in no way. -/
private lemma takes_iff {s : Section} {f : Field} (hf : f ∈ s.fields) (v : Toml.Value) :
    f.Takes v ↔ ∀ err, ¬ Offends (.field s f.name v) err := by
  constructor
  · intro h err herr
    have hread := (read_eq_error_iff hf v .default err).mpr herr
    cases f with
    | text f =>
      obtain ⟨t, ht⟩ := h
      rw [ht] at hread
      exact nomatch hread
    | count f =>
      obtain ⟨n, hn⟩ := h
      have hok := Setting.read_tomlValue (.count f n) .default
      rw [hn] at hread
      exact nomatch hread.symm.trans hok
  · intro h
    cases f with
    | text f =>
      cases v with
      | string t => exact ⟨t, rfl⟩
      | _ => exact absurd (.notText hf fun t ht => by cases ht) (h _)
    | count f =>
      cases v with
      | integer n =>
        have hn : ¬ n < 0 := fun hn => h _ (.negative hf hn)
        exact ⟨n.toNat, by rw [Int.toNat_of_nonneg (Int.not_lt.mp hn)]⟩
      | _ => exact absurd (.notCount hf fun n hn => by cases hn) (h _)

lemma top_mem_visits {e : Entries} {p : String × Toml.Value} (hp : p ∈ e) :
    .top p.1 p.2 ∈ visits e :=
  List.mem_flatMap.mpr ⟨p, hp, List.mem_cons_self⟩

@[simp] lemma visitsOf_table (s : Section) (origin : TableOrigin) (t : Entries) :
    visitsOf (s.name, .table origin t)
      = .top s.name (.table origin t) :: t.map fun q => .field s q.1 q.2 := by
  rw [visitsOf, Section.ofName?_name]

/-- An entry that is no section given as a `table` is looked at alone. -/
lemma visitsOf_cases (p : String × Toml.Value) :
    (∃ (s : Section) (origin : TableOrigin) (t : Entries), p = (s.name, .table origin t))
      ∨ visitsOf p = [.top p.1 p.2] := by
  obtain ⟨key, v⟩ := p
  rw [visitsOf]
  cases hsection : Section.ofName? key with
  | none => exact Or.inr rfl
  | some s =>
    cases v with
    | table origin t =>
      rw [Section.ofName?_eq_some_iff.mp hsection]
      exact Or.inl ⟨s, origin, t, rfl⟩
    | _ => exact Or.inr rfl

lemma field_mem_visits {e t : Entries} {s : Section} {origin : TableOrigin}
    (ht : (s.name, .table origin t) ∈ e) {q : String × Toml.Value} (hq : q ∈ t) :
    .field s q.1 q.2 ∈ visits e := by
  refine List.mem_flatMap.mpr ⟨_, ht, ?_⟩
  rw [visitsOf_table]
  exact List.mem_cons_of_mem _ (List.mem_map.mpr ⟨q, hq, rfl⟩)

/-- The entries `e` fit exactly if none of their `visits` offends. -/
theorem fits_iff {e : Entries} : Fits e ↔ ∀ x ∈ visits e, ∀ err, ¬ Offends x err := by
  constructor
  · intro h x hx err
    obtain ⟨⟨key, v⟩, hp, hx⟩ := List.mem_flatMap.mp hx
    obtain ⟨s, hname, origin, t, hv, ht⟩ := h _ hp
    rw [show key = s.name from hname, show v = .table origin t from hv, visitsOf_table] at hx
    rcases List.mem_cons.mp hx with hx | hx
    · rw [hx]
      exact not_offends_table s origin t err
    · obtain ⟨q, hq, hx⟩ := List.mem_map.mp hx
      obtain ⟨f, hf, hname, htakes⟩ := ht q hq
      rw [← hx, hname]
      exact (takes_iff hf q.2).mp htakes err
  · intro h p hp
    have htop := h _ (top_mem_visits hp)
    obtain ⟨key, v⟩ := p
    cases hsection : Section.ofName? key with
    | none => exact absurd (.unknownSection (Section.ofName?_eq_none_iff.mp hsection)) (htop _)
    | some s =>
      have hname := Section.ofName?_eq_some_iff.mp hsection
      rw [hname] at hp htop
      refine ⟨s, hname, ?_⟩
      cases v with
      | table origin t =>
        refine ⟨origin, t, rfl, ?_⟩
        intro q hq
        have hentry := h _ (field_mem_visits hp hq)
        cases hfield : s.field? q.1 with
        | none => exact absurd (.unknownField (Section.field?_eq_none_iff.mp hfield)) (hentry _)
        | some f =>
          obtain ⟨hf, hkey⟩ := Section.field?_eq_some_iff.mp hfield
          rw [hkey] at hentry
          exact ⟨f, hf, hkey, (takes_iff hf q.2).mpr hentry⟩
      | _ => exact absurd (.notTable fun origin t ht => by cases ht) (htop _)

/-- The entries `e` are decoded without an error exactly if they fit. -/
theorem exists_decode_eq_ok_iff {e : Entries} (hplain : IsPlain e) :
    (∃ r, decode e = .ok r) ↔ Fits e := by
  rw [fits_iff, ← forall_not_firstOffence_iff]
  simp only [← decode_eq_error_iff hplain]
  cases decode e with
  | ok r => simp
  | error err => simp

end LineLandmarks.RuleFile
