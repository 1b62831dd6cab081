import LineLandmarks.Proofs.Toml.Order

/-!
# The order of a document

What the statements of a document mention in the table at a path, and that the entries there stand
in the order of their places: at the top of the document (`traces_ofStatements?`) and in every table
among its entries (`tracesBelow_ofStatements?`). Each step of the making of a document is followed
once, for any table; the two statements differ only in which table is looked at.
-/

namespace LineLandmarks.Toml

namespace Key

/-- The names of `k`, outermost first. -/
def path (k : Key) : List String :=
  k.parents ++ [k.name]

/-- The outermost name of `k`. -/
def top (k : Key) : String :=
  k.parents.headD k.name

lemma path_eq_cons (k : Key) :
    ∃ tail, k.path = k.top :: tail ∧ tail.isEmpty = k.parents.isEmpty := by
  obtain ⟨parents, name⟩ := k
  cases parents with
  | nil => exact ⟨[], rfl, rfl⟩
  | cons first parents => exact ⟨parents ++ [name], rfl, by cases parents <;> rfl⟩

end Key

/-! ## What statements mention -/

/-- What remains of a path below a table, if it leads there. -/
def below : List String → List String → Option (List String)
  | [], path => some path
  | name :: table, first :: path => if first = name then below table path else none
  | _ :: _, [] => none

/-- What the header of `path` mentions in `table`: the entry it leads to, which is the one of the
header itself if the path ends there. -/
def headerMentions (table path : List String) (own : Bool) : List Mention :=
  match below table path with
  | some (name :: more) => [⟨name, own && more.isEmpty⟩]
  | _ => []

/-- What the assignment of `v` to `path` mentions in `table`: the entry it leads to, or the entries
of `v` if it is the table. -/
def valueMentions (table path : List String) (v : Value) : List Mention :=
  match below table path, v with
  | some (name :: _), _ => [⟨name, false⟩]
  | some [], .table _ e => (Entries.names e).map fun name => ⟨name, false⟩
  | _, _ => []

/-- What the header of `b` and the assignments below it mention in `table`. -/
def Block.mentions (table : List String) (b : Block) : List Mention :=
  headerMentions table b.key.path (!b.repeated)
    ++ b.body.flatMap fun a => valueMentions table (b.key.path ++ a.key.path) a.value

/-- What `statements` mention in the table at the path `table`. -/
def mentions (table : List String) (statements : List Statement) : List Mention :=
  (blocks statements).1.flatMap (fun a => valueMentions table a.key.path a.value)
    ++ (blocks statements).2.flatMap (Block.mentions table)

section

variable {name : String}

lemma valueMentions_of_ne {first : String} (hne : name ≠ first) (path : List String) (v : Value) :
    valueMentions [name] (first :: path) v = [] := by
  simp [valueMentions, below, hne.symm]

@[simp] lemma valueMentions_cons (first : String) (path : List String) (v : Value) :
    valueMentions [name] (name :: first :: path) v = [⟨first, false⟩] := by
  simp [valueMentions, below]

@[simp] lemma valueMentions_table (origin : TableOrigin) (t : Entries) :
    valueMentions [name] [name] (.table origin t)
      = (Entries.names t).map fun name => ⟨name, false⟩ := by
  simp [valueMentions, below]

lemma headerMentions_of_ne {first : String} (hne : name ≠ first) (path : List String)
    (own : Bool) : headerMentions [name] (first :: path) own = [] := by
  simp [headerMentions, below, hne.symm]

@[simp] lemma headerMentions_cons (first : String) (path : List String) (own : Bool) :
    headerMentions [name] (name :: first :: path) own = [⟨first, own && path.isEmpty⟩] := by
  simp [headerMentions, below]

@[simp] lemma headerMentions_self (own : Bool) : headerMentions [name] [name] own = [] := by
  simp [headerMentions, below]

namespace Block

variable (b : Block)

/-- A block of another table mentions nothing in the table `name`. -/
lemma mentions_of_ne {first : String} {path : List String} (hpath : b.key.path = first :: path)
    (hne : name ≠ first) : b.mentions [name] = [] := by
  rw [mentions, hpath, headerMentions_of_ne hne, List.nil_append, List.flatMap_eq_nil_iff]
  intro a _
  exact valueMentions_of_ne hne _ _

/-- The block of the table `name` mentions what it assigns. -/
lemma mentions_self (hpath : b.key.path = [name]) :
    b.mentions [name] = b.body.flatMap fun a => [⟨a.key.top, false⟩] := by
  rw [mentions, hpath, headerMentions_self, List.nil_append]
  congr 1
  funext a
  obtain ⟨tail, htail, -⟩ := a.key.path_eq_cons
  rw [htail]
  exact valueMentions_cons _ _ _

/-- A block below the table `name` mentions one name, at its header and at all assignments. -/
lemma mentions_cons {first : String} {path : List String}
    (hpath : b.key.path = name :: first :: path) :
    b.mentions [name]
      = [⟨first, !b.repeated && path.isEmpty⟩] ++ b.body.flatMap fun _ => [⟨first, false⟩] := by
  rw [mentions, hpath, headerMentions_cons]
  congr 2
  funext a
  exact valueMentions_cons _ _ _

end Block

end

/-! ## One table -/

namespace Entries

/-- Opens what the header of `b` opens, in the table it belongs to. -/
def openHere (b : Block) (_ : TableOrigin) (e : Entries) : Option Entries :=
  if b.repeated then openArrayTable b e else openTable b e

lemma openBlock_eq (e : Entries) (b : Block) :
    openBlock e b = within .parent (· != .braces) (openHere b) b.key.parents .header e := rfl

end Entries

open Entries

namespace Traces

variable {ms : List Mention} {e e' : Entries} {name : String}

/-- A step `within` a table by `name` mentions the name. -/
lemma within_cons {made : TableOrigin} {enter : TableOrigin → Bool}
    {change : TableOrigin → Entries → Option Entries} {path : List String} {origin : TableOrigin}
    (h : Traces ms e) (hstep : within made enter change (name :: path) origin e = some e') :
    Traces (ms ++ [⟨name, false⟩]) e' := by
  rcases within_cons_cases hstep with hcase | hcase | hcase
  · obtain ⟨hlookup, t', -, heq⟩ := hcase
    rw [heq]
    exact h.append hlookup fun hown => absurd hown Bool.false_ne_true
  · obtain ⟨o, t, t', hlookup, -, heq⟩ := hcase
    rw [heq]
    refine h.replace hlookup ?_
    intro u hu
    exact ⟨t', by rw [(Value.table.inj hu).1]⟩
  · obtain ⟨tables, tables', hlookup, heq⟩ := hcase
    rw [heq]
    exact h.replace hlookup fun u hu => by cases hu

/-- An assignment below a table mentions the outermost name of its `path`. -/
lemma assignAt {enter : TableOrigin → Bool} {a : Assignment} {path : List String}
    {origin : TableOrigin} (h : Traces ms e)
    (hstep : within .dotted enter (assignHere a) path origin e = some e') :
    Traces (ms ++ [⟨path.headD a.key.name, false⟩]) e' := by
  cases path with
  | nil =>
    obtain ⟨hlookup, heq⟩ := assignHere_cases hstep
    rw [heq]
    exact h.append hlookup fun hown => absurd hown Bool.false_ne_true
  | cons name path => exact h.within_cons hstep

/-- A header below a table mentions the outermost name of its `path`, by its own table's header if
it is the only one. -/
lemma openAt {enter : TableOrigin → Bool} {b : Block} {path : List String} {origin : TableOrigin}
    (h : Traces ms e) (hstep : within .parent enter (openHere b) path origin e = some e') :
    Traces (ms ++ [⟨path.headD b.key.name, !b.repeated && path.isEmpty⟩]) e' := by
  cases path with
  | nil =>
    rw [within, openHere] at hstep
    cases hrepeated : b.repeated with
    | false =>
      rw [hrepeated] at hstep
      rcases openTable_cases hstep with hcase | hcase
      · obtain ⟨hlookup, t, -, heq⟩ := hcase
        rw [heq]
        exact h.append hlookup fun _ => ⟨t, rfl⟩
      · obtain ⟨t, t', hlookup, -, heq⟩ := hcase
        rw [heq]
        exact h.move hlookup t'
    | true =>
      rw [hrepeated] at hstep
      rcases openArrayTable_cases hstep with hcase | hcase
      · obtain ⟨hlookup, tables, heq⟩ := hcase
        rw [heq]
        exact h.append hlookup fun hown => absurd hown Bool.false_ne_true
      · obtain ⟨tables, tables', hlookup, heq⟩ := hcase
        rw [heq]
        exact h.replace hlookup fun t ht => by cases ht
  | cons name path =>
    rw [List.isEmpty_cons, Bool.and_false]
    exact h.within_cons hstep

/-- A `name` that is there already is mentioned any number of times. -/
lemma againAll {α : Type} (h : Traces ms e) (hname : name ∈ names e) (as : List α) :
    Traces (ms ++ as.flatMap fun _ => [⟨name, false⟩]) e := by
  induction as generalizing ms with
  | nil =>
    rw [List.flatMap_nil, List.append_nil]
    exact h
  | cons a as ih =>
    rw [List.flatMap_cons, ← List.append_assoc]
    exact ih (h.again hname)

/-- The entries `t`, with new and distinct names, are added at the end. -/
private lemma appendAll (h : Traces ms e) {t : Entries} (hnodup : (names (e ++ t)).Nodup) :
    Traces (ms ++ (names t).map fun name => ⟨name, false⟩) (e ++ t) := by
  induction t generalizing ms e with
  | nil =>
    show Traces (ms ++ []) (e ++ [])
    rw [List.append_nil, List.append_nil]
    exact h
  | cons p t ih =>
    obtain ⟨k, v⟩ := p
    have hnot : k ∉ names e := by
      intro hmem
      rw [names, List.map_append, List.nodup_append] at hnodup
      exact hnodup.2.2 k hmem k List.mem_cons_self rfl
    have hstep : Traces (ms ++ [⟨k, false⟩]) (Entries.append e k v) :=
      h.append (lookup_eq_none_iff_notMem.mpr hnot) fun hown => absurd hown Bool.false_ne_true
    rw [List.append_cons] at hnodup ⊢
    show Traces (ms ++ ⟨k, false⟩ :: (names t).map fun name => ⟨name, false⟩) _
    rw [List.append_cons]
    exact ih hstep hnodup

/-- The entries `t`, with distinct names, trace their own names. -/
lemma of_nodup {t : Entries} (h : (names t).Nodup) :
    Traces ((names t).map fun name => ⟨name, false⟩) t :=
  nil.appendAll h

end Traces

/-- What every `step` keeps is kept by all steps together. -/
private lemma foldlM_induction {α : Type} {P : List Mention → Entries → Prop}
    {step : Entries → α → Option Entries} {mentioned : α → List Mention} {as : List α}
    (hstep : ∀ a ∈ as, ∀ {ms e e'}, P ms e → step e a = some e' → P (ms ++ mentioned a) e')
    {ms : List Mention} {e e' : Entries} (h : P ms e) (hrun : as.foldlM step e = some e') :
    P (ms ++ as.flatMap mentioned) e' := by
  induction as generalizing ms e with
  | nil =>
    rw [List.flatMap_nil, List.append_nil, ← Option.some.inj hrun]
    exact h
  | cons a as ih =>
    rw [List.foldlM_cons] at hrun
    obtain ⟨e₁, hfirst, hrest⟩ := Option.bind_eq_some_iff.mp hrun
    rw [List.flatMap_cons, ← List.append_assoc]
    exact ih (fun b hb => hstep b (List.mem_cons_of_mem a hb))
      (hstep a List.mem_cons_self h hfirst) hrest

/-- The step `assignAll` mentions the outermost names of the keys. -/
lemma Traces.assignAll {ms : List Mention} {e e' : Entries} {as : List Assignment}
    (h : Traces ms e) (hrun : Entries.assignAll e as = some e') :
    Traces (ms ++ as.flatMap fun a => [⟨a.key.top, false⟩]) e' :=
  foldlM_induction (fun _ _ _ _ _ h hstep => h.assignAt hstep) h hrun

/-! ## The top of a document -/

/-- The entries that `ofStatements?` puts together stand in the order of their places. -/
theorem traces_ofStatements? {statements : List Statement} {e : Entries}
    (h : ofStatements? statements = some e) : Traces (mentions [] statements) e := by
  obtain ⟨top, htop, hrun⟩ := Option.bind_eq_some_iff.mp h
  have hbody : Traces ([] ++ (blocks statements).1.flatMap
      fun a => valueMentions [] a.key.path a.value) top := by
    refine foldlM_induction ?_ Traces.nil htop
    intro a _ ms e e' h hstep
    obtain ⟨tail, htail, -⟩ := a.key.path_eq_cons
    rw [htail]
    exact h.assignAt hstep
  refine foldlM_induction ?_ hbody hrun
  intro b _ ms e e' h hstep
  obtain ⟨tail, htail, hempty⟩ := b.key.path_eq_cons
  have hopen := h.openAt hstep
  -- the assignments under the header mention again what the header mentions
  have hname : b.key.top ∈ names e' :=
    (hopen.mem_iff _).mpr ⟨_, List.mem_append_right ms (List.mem_singleton_self _), rfl⟩
  rw [Block.mentions, htail, ← List.append_assoc]
  rw [← hempty] at hopen
  exact hopen.againAll hname b.body

/-! ## Tables at the top of a document -/

namespace Value

/-- A `table` that is given as a value is put together by `assignAll`. -/
def IsAssembled (v : Value) : Prop :=
  ∀ origin t, v = .table origin t → ∃ as, Entries.assignAll [] as = some t

end Value

/-- The entries of the table `name`, if it is one, trace the mentions `ms`; what is not there is not
mentioned. -/
def TracesBelow (name : String) (ms : List Mention) (e : Entries) : Prop :=
  match e.lookup name with
  | none => ms = []
  | some (.table _ t) => Traces ms t
  | some _ => True

namespace TracesBelow

variable {ms ns : List Mention} {e e' : Entries} {name : String}

lemma nil (name : String) : TracesBelow name [] [] := rfl

lemma of_lookup_eq (h : TracesBelow name ms e) (hlookup : e'.lookup name = e.lookup name) :
    TracesBelow name ms e' := by
  rw [TracesBelow, hlookup]
  exact h

lemma of_none (h : TracesBelow name ms e) (hlookup : e.lookup name = none) : ms = [] := by
  rw [TracesBelow, hlookup] at h
  exact h

lemma of_table (h : TracesBelow name ms e) {origin : TableOrigin} {t : Entries}
    (hlookup : e.lookup name = some (.table origin t)) : Traces ms t := by
  rw [TracesBelow, hlookup] at h
  exact h

lemma table {origin : TableOrigin} {t : Entries} (h : Traces ms t)
    (hlookup : e.lookup name = some (.table origin t)) : TracesBelow name ms e := by
  rw [TracesBelow, hlookup]
  exact h

lemma tableArray {tables : List Value} (hlookup : e.lookup name = some (.tableArray tables)) :
    TracesBelow name ms e := by
  rw [TracesBelow, hlookup]
  trivial

/-- A step `within` another table changes nothing in the table `name`. -/
private lemma within_cons_of_ne {made : TableOrigin} {enter : TableOrigin → Bool}
    {change : TableOrigin → Entries → Option Entries} {first : String} {path : List String}
    {origin : TableOrigin} (h : TracesBelow name ms e) (hne : name ≠ first)
    (hstep : within made enter change (first :: path) origin e = some e') :
    TracesBelow name ms e' := by
  refine h.of_lookup_eq ?_
  rcases within_cons_cases hstep with hcase | hcase | hcase
  · obtain ⟨-, t', -, heq⟩ := hcase
    rw [heq, lookup_append_of_ne hne]
  · obtain ⟨o, t, t', -, -, heq⟩ := hcase
    rw [heq, lookup_replace_of_ne hne]
  · obtain ⟨tables, tables', -, heq⟩ := hcase
    rw [heq, lookup_replace_of_ne hne]

/-- A step `within` the table `name` is a step of the table. -/
private lemma within_cons_self {made : TableOrigin} {enter : TableOrigin → Bool}
    {change : TableOrigin → Entries → Option Entries} {path : List String} {origin : TableOrigin}
    (h : TracesBelow name ms e)
    (hstep : within made enter change (name :: path) origin e = some e')
    (hbelow : ∀ {ms o t t'}, Traces ms t → within made enter change path o t = some t' →
      Traces (ms ++ ns) t') : TracesBelow name (ms ++ ns) e' := by
  rcases within_cons_cases hstep with hcase | hcase | hcase
  · obtain ⟨hlookup, t', ht', heq⟩ := hcase
    rw [h.of_none hlookup, heq]
    exact table (hbelow Traces.nil ht')
      (lookup_append_self (lookup_eq_none_iff_notMem.mp hlookup) _)
  · obtain ⟨o, t, t', hlookup, ht', heq⟩ := hcase
    rw [heq]
    exact table (hbelow (h.of_table hlookup) ht')
      (lookup_replace_self (mem_names_of_lookup hlookup) _)
  · obtain ⟨tables, tables', hlookup, heq⟩ := hcase
    rw [heq]
    exact tableArray (lookup_replace_self (mem_names_of_lookup hlookup) _)

/-- The step `assign` at the top keeps `TracesBelow`. -/
private lemma assign {a : Assignment} (ha : a.value.IsAssembled) (h : TracesBelow name ms e)
    (hstep : Entries.assign e a = some e') :
    TracesBelow name (ms ++ valueMentions [name] a.key.path a.value) e' := by
  obtain ⟨⟨parents, own⟩, v⟩ := a
  cases parents with
  | nil =>
    have hhere : assignHere ⟨⟨[], own⟩, v⟩ .header e = some e' := hstep
    obtain ⟨hlookup, heq⟩ := assignHere_cases hhere
    rw [heq]
    show TracesBelow name (ms ++ valueMentions [name] [own] v) _
    -- the value is the table itself, or it stands elsewhere
    by_cases hne : name = own
    · simp only [← hne] at hlookup ⊢
      have hvalue := lookup_append_self (lookup_eq_none_iff_notMem.mp hlookup) v
      rw [h.of_none hlookup, List.nil_append]
      cases v with
      | table origin t =>
        obtain ⟨as, has⟩ := ha origin t rfl
        rw [valueMentions_table]
        exact table (Traces.of_nodup (Traces.nil.assignAll has).nodup) hvalue
      | _ =>
        rw [TracesBelow, hvalue]
        trivial
    · rw [valueMentions_of_ne hne, List.append_nil]
      exact h.of_lookup_eq (lookup_append_of_ne hne v)
  | cons first parents =>
    show TracesBelow name (ms ++ valueMentions [name] (first :: (Key.mk parents own).path) v) e'
    by_cases hne : name = first
    · obtain ⟨tail, htail, -⟩ := (Key.mk parents own).path_eq_cons
      rw [htail, ← hne, valueMentions_cons]
      rw [← hne] at hstep
      exact h.within_cons_self hstep fun h hbelow => h.assignAt hbelow
    · rw [valueMentions_of_ne hne, List.append_nil]
      exact h.within_cons_of_ne hne hstep

/-- The header of the table `b.key.name` at the top keeps `TracesBelow`. -/
private lemma openHere {b : Block} {origin : TableOrigin} (h : TracesBelow b.key.name ms e)
    (hnodup : (names e).Nodup) (hstep : Entries.openHere b origin e = some e') :
    TracesBelow b.key.name (ms ++ b.body.flatMap fun a => [⟨a.key.top, false⟩]) e' := by
  rw [Entries.openHere] at hstep
  split at hstep
  · rcases openArrayTable_cases hstep with hcase | hcase
    · obtain ⟨hlookup, tables, heq⟩ := hcase
      rw [heq]
      exact tableArray (lookup_append_self (lookup_eq_none_iff_notMem.mp hlookup) _)
    · obtain ⟨tables, tables', hlookup, heq⟩ := hcase
      rw [heq]
      exact tableArray (lookup_replace_self (mem_names_of_lookup hlookup) _)
  · rcases openTable_cases hstep with hcase | hcase
    · obtain ⟨hlookup, t, ht, heq⟩ := hcase
      rw [h.of_none hlookup, heq]
      exact table (Traces.nil.assignAll ht)
        (lookup_append_self (lookup_eq_none_iff_notMem.mp hlookup) _)
    · obtain ⟨t, t', hlookup, ht', heq⟩ := hcase
      have hnot : b.key.name ∉ names (erase b.key.name e) := by
        rw [names_erase]
        exact hnodup.not_mem_erase
      rw [heq]
      exact table ((h.of_table hlookup).assignAll ht') (lookup_append_self hnot _)

/-- The header of another table at the top keeps `TracesBelow`. -/
private lemma openHere_of_ne {b : Block} {origin : TableOrigin} (h : TracesBelow name ms e)
    (hne : name ≠ b.key.name) (hstep : Entries.openHere b origin e = some e') :
    TracesBelow name ms e' := by
  refine h.of_lookup_eq ?_
  rw [Entries.openHere] at hstep
  split at hstep
  · rcases openArrayTable_cases hstep with hcase | hcase
    · obtain ⟨-, tables, heq⟩ := hcase
      rw [heq, lookup_append_of_ne hne]
    · obtain ⟨tables, tables', -, heq⟩ := hcase
      rw [heq, lookup_replace_of_ne hne]
  · rcases openTable_cases hstep with hcase | hcase
    · obtain ⟨-, t, -, heq⟩ := hcase
      rw [heq, lookup_append_of_ne hne]
    · obtain ⟨t, t', -, -, heq⟩ := hcase
      rw [heq, lookup_append_of_ne hne, lookup_erase_of_ne hne]

/-- The step `openBlock` keeps `TracesBelow`. -/
private lemma openBlock {b : Block} (h : TracesBelow name ms e) (hnodup : (names e).Nodup)
    (hstep : Entries.openBlock e b = some e') :
    TracesBelow name (ms ++ b.mentions [name]) e' := by
  rw [openBlock_eq] at hstep
  cases hparents : b.key.parents with
  | nil =>
    have hpath : b.key.path = [b.key.name] := by rw [Key.path, hparents, List.nil_append]
    rw [hparents, within] at hstep
    by_cases hne : name = b.key.name
    · rw [hne] at h ⊢
      rw [b.mentions_self hpath]
      exact h.openHere hnodup hstep
    · rw [b.mentions_of_ne hpath hne, List.append_nil]
      exact h.openHere_of_ne hne hstep
  | cons first parents =>
    -- all assignments under this header lead to the entry that the header leads to
    obtain ⟨tail, htail, hempty⟩ := (Key.mk parents b.key.name).path_eq_cons
    have hpath : b.key.path = first :: parents.headD b.key.name :: tail := by
      rw [Key.path, hparents]
      exact congrArg (first :: ·) htail
    rw [hparents] at hstep
    by_cases hne : name = first
    · rw [← hne] at hstep hpath
      rw [b.mentions_cons hpath, hempty]
      refine h.within_cons_self hstep ?_
      intro ms o t t' h hbelow
      have hopen := h.openAt hbelow
      have hname : parents.headD b.key.name ∈ names t' :=
        (hopen.mem_iff _).mpr ⟨_, List.mem_append_right ms (List.mem_singleton_self _), rfl⟩
      rw [← List.append_assoc]
      exact hopen.againAll hname b.body
    · rw [b.mentions_of_ne hpath hne, List.append_nil]
      exact h.within_cons_of_ne hne hstep

end TracesBelow

/-- What every step of the making of a document keeps: `TracesBelow`, and the names at the top are
distinct, since they come from mentions too. -/
private structure TracesTable (name : String) (ms : List Mention) (e : Entries) : Prop where
  below : TracesBelow name ms e
  top : ∃ ns, Traces ns e

namespace TracesTable

variable {ms : List Mention} {e e' : Entries} {name : String}

private lemma assign {a : Assignment} (ha : a.value.IsAssembled) (h : TracesTable name ms e)
    (hstep : Entries.assign e a = some e') :
    TracesTable name (ms ++ valueMentions [name] a.key.path a.value) e' := by
  obtain ⟨ns, htop⟩ := h.top
  exact ⟨h.below.assign ha hstep, _, htop.assignAt hstep⟩

private lemma openBlock {b : Block} (h : TracesTable name ms e)
    (hstep : Entries.openBlock e b = some e') :
    TracesTable name (ms ++ b.mentions [name]) e' := by
  obtain ⟨ns, htop⟩ := h.top
  exact ⟨h.below.openBlock htop.nodup hstep, _, htop.openAt hstep⟩

end TracesTable

/-- The entries of every table at the top that `ofStatements?` puts together stand in the order of
their places. -/
theorem tracesBelow_ofStatements? {statements : List Statement} {e : Entries}
    (h : ofStatements? statements = some e)
    (hvalues : ∀ a ∈ (blocks statements).1, a.value.IsAssembled) (name : String) :
    TracesBelow name (mentions [name] statements) e := by
  obtain ⟨top, htop, hrun⟩ := Option.bind_eq_some_iff.mp h
  have hstart : TracesTable name [] [] := ⟨TracesBelow.nil name, [], Traces.nil⟩
  have hbody : TracesTable name ([] ++ (blocks statements).1.flatMap
      fun a => valueMentions [name] a.key.path a.value) top :=
    foldlM_induction (fun a ha _ _ _ h hstep => h.assign (hvalues a ha) hstep) hstart htop
  exact (foldlM_induction (fun _ _ _ _ _ h hstep => h.openBlock hstep) hbody hrun).below

end LineLandmarks.Toml
