import LineLandmarks.Proofs.RuleFile.Schema
import LineLandmarks.Proofs.Toml.Refusal
import LineLandmarks.RuleFile.Parse

/-!
# The outcome of reading a rule file

Whether a text is accepted, and which of its entries is reported if it is not. A text with a bad
spot is malformed, whatever is wrong with its entries. In any other several entries may offend at
once; the one reported is the first in the document, where a table stands at its own header if it
has one and where it is first mentioned otherwise (`parse_outcome`).
-/

namespace LineLandmarks.RuleFile

open Toml (Entries Mention Statement TableOrigin Traces TracesBelow firstPlace mentions place)

/-! ## Positions -/

/-- Where an entry stands among `statements`: the place of its name among the `mentions` at the top,
or that of its section and then that of its name among the `mentions` in the section. -/
def Visit.position (placing : List Mention → String → ℕ) (statements : List Statement) :
    Visit → List ℕ
  | .top key _ => [placing (mentions [] statements) key]
  | .field s key _ =>
    [placing (mentions [] statements) s.name, placing (mentions [s.name] statements) key]

section

variable {statements : List Statement}

/-- What is looked at for the entry `p` at the top stands at the place of its name or behind it. -/
private lemma position_of_mem_visitsOf {placing : List Mention → String → ℕ}
    {p : String × Toml.Value} {x : Visit} (hx : x ∈ visitsOf p) :
    ∃ tail, x.position placing statements = placing (mentions [] statements) p.1 :: tail := by
  rcases visitsOf_cases p with hp | hp
  · obtain ⟨s, origin, t, hp⟩ := hp
    rw [hp, visitsOf_table] at hx
    rw [hp]
    rcases List.mem_cons.mp hx with hx | hx
    · rw [hx]
      exact ⟨[], rfl⟩
    · obtain ⟨q, -, hx⟩ := List.mem_map.mp hx
      rw [← hx]
      exact ⟨_, rfl⟩
  · rw [hp] at hx
    rw [List.mem_singleton.mp hx]
    exact ⟨[], rfl⟩

/-- The `visitsOf` a table are in the order of their positions: the section comes before its
entries, and these come in the order of their places. -/
private lemma pairwise_position_table {s : Section} {origin : TableOrigin} {t : Entries}
    (h : Traces (mentions [s.name] statements) t) :
    (visitsOf (s.name, .table origin t)).Pairwise
      fun a b => a.position place statements < b.position place statements := by
  rw [visitsOf_table]
  refine List.pairwise_cons.mpr ⟨?_, ?_⟩
  · intro x hx
    obtain ⟨q, -, hx⟩ := List.mem_map.mp hx
    rw [← hx]
    exact List.cons_lt_cons_iff.mpr (Or.inr ⟨rfl, List.nil_lt_cons _ _⟩)
  · refine List.pairwise_map.mpr ((List.pairwise_map.mp h.sorted).imp ?_)
    intro q q' hlt
    have htail : [place (mentions [s.name] statements) q.1]
        < [place (mentions [s.name] statements) q'.1] := List.cons_lt_cons_iff.mpr (Or.inl hlt)
    exact List.cons_lt_cons_iff.mpr (Or.inr ⟨rfl, htail⟩)

/-- The `visits` of a document are in the order of their positions. -/
theorem pairwise_position {text : String} {e : Entries}
    (hread : Toml.statements? text = some statements)
    (h : Entries.ofStatements? statements = some e) :
    (visits e).Pairwise fun a b => a.position place statements < b.position place statements := by
  obtain ⟨htop, hbelow⟩ := Toml.traces_of_statements? hread h
  -- the order within one entry at the top comes from its table, that between two from the top
  refine List.pairwise_flatMap.mpr ⟨?_, ?_⟩
  · intro p hp
    rcases visitsOf_cases p with hcase | hcase
    · obtain ⟨s, origin, t, heq⟩ := hcase
      rw [heq] at hp ⊢
      have hlookup := Entries.lookup_of_mem htop.nodup hp
      exact pairwise_position_table ((hbelow s.name).of_table hlookup)
    · rw [hcase]
      exact List.pairwise_singleton _ _
  · refine (List.pairwise_map.mp htop.sorted).imp ?_
    intro p p' hlt x hx y hy
    obtain ⟨xs, hx⟩ := position_of_mem_visitsOf hx
    obtain ⟨ys, hy⟩ := position_of_mem_visitsOf hy
    rw [hx, hy]
    exact List.cons_lt_cons_iff.mpr (Or.inl hlt)

end

/-! ## The entry that is reported -/

/-- The error `cause` is about the one of `l` with the least `position` among those that offend. -/
def LeastOffence (position : Visit → List ℕ) (l : List Visit) (cause : SchemaError) : Prop :=
  ∃ visit ∈ l, Offends visit cause
    ∧ ∀ other ∈ l, other ≠ visit → (∃ c, Offends other c) → position visit < position other

/-- In a list in the order of `position`, the `FirstOffence` is the `LeastOffence`. -/
private lemma firstOffence_iff_leastOffence {position : Visit → List ℕ} {l : List Visit}
    (hsorted : l.Pairwise fun a b => position a < position b) {cause : SchemaError} :
    FirstOffence l cause ↔ LeastOffence position l cause := by
  constructor
  · intro h
    obtain ⟨before, visit, after, heq, hvisit, hbefore⟩ := h
    rw [heq] at hsorted ⊢
    obtain ⟨-, hafter, -⟩ := List.pairwise_append.mp hsorted
    refine ⟨visit, List.mem_append_right _ List.mem_cons_self, hvisit, ?_⟩
    intro other hother hne hoffends
    obtain ⟨c, hc⟩ := hoffends
    -- what stands before does not offend, what stands behind has a greater position
    rcases List.mem_append.mp hother with hother | hother
    · exact absurd hc (hbefore other hother c)
    · rcases List.mem_cons.mp hother with hother | hother
      · exact absurd hother hne
      · exact (List.pairwise_cons.mp hafter).1 other hother
  · intro h
    obtain ⟨visit, hmem, hvisit, hleast⟩ := h
    obtain ⟨before, after, heq⟩ := List.append_of_mem hmem
    refine ⟨before, visit, after, heq, hvisit, ?_⟩
    intro x hx c hc
    rw [heq] at hsorted hleast
    have hlt := (List.pairwise_append.mp hsorted).2.2 x hx visit List.mem_cons_self
    have hne : x ≠ visit := by
      intro hxv
      rw [hxv] at hlt
      exact List.lt_irrefl _ hlt
    exact List.lt_asymm hlt (hleast x (List.mem_append_left _ hx) hne ⟨c, hc⟩)

/-- A `text` that the reader of TOML takes but that is not accepted is reported for the first of the
entries that offend, where `placing` says in which order they stand. -/
def ReportsFirst (placing : List Mention → String → ℕ) (text : String) : Prop :=
  ∀ cause, parse text = .error (.schema cause) ↔
    ∃ statements e, Toml.statements? text = some statements
      ∧ Entries.ofStatements? statements = some e
      ∧ LeastOffence (Visit.position placing statements) (visits e) cause

/-! ## The outcome -/

/-- A text is refused by `Toml.parse?`, or its entries by `decode`, or it is accepted. -/
lemma parse_cases (text : String) :
    Toml.parse? text = none ∧ parse text = .error .malformed
      ∨ (∃ e cause, Toml.parse? text = some e ∧ decode e = .error cause
        ∧ parse text = .error (.schema cause))
      ∨ ∃ e r, Toml.parse? text = some e ∧ decode e = .ok r ∧ parse text = .ok (.ofRules r) := by
  rw [parse]
  cases Toml.parse? text with
  | none => exact Or.inl ⟨rfl, rfl⟩
  | some e =>
    refine Or.inr ?_
    cases hdecode : decode e with
    | error cause => exact Or.inl ⟨e, cause, rfl, hdecode, by simp only [hdecode]⟩
    | ok r => exact Or.inr ⟨e, r, rfl, hdecode, by simp only [hdecode]⟩

private lemma parse_eq_malformed_iff {text : String} :
    parse text = .error .malformed ↔ Toml.parse? text = none := by
  rcases parse_cases text with h | h | h
  · simp [h.1, h.2]
  · obtain ⟨e, cause, hparse, -, h⟩ := h
    simp [hparse, h]
  · obtain ⟨e, r, hparse, -, h⟩ := h
    simp [hparse, h]

private lemma parse_eq_schema_iff {text : String} {cause : SchemaError} :
    parse text = .error (.schema cause)
      ↔ ∃ e, Toml.parse? text = some e ∧ decode e = .error cause := by
  rcases parse_cases text with h | h | h
  · simp [h.1, h.2]
  · obtain ⟨e, cause, hparse, hdecode, h⟩ := h
    simp [hparse, hdecode, h]
  · obtain ⟨e, r, hparse, hdecode, h⟩ := h
    simp [hparse, hdecode, h]

private lemma exists_parse_eq_ok_iff {text : String} :
    (∃ parsed, parse text = .ok parsed)
      ↔ ∃ e, Toml.parse? text = some e ∧ ∃ r, decode e = .ok r := by
  rcases parse_cases text with h | h | h
  · simp [h.1, h.2]
  · obtain ⟨e, cause, hparse, hdecode, h⟩ := h
    simp [hparse, hdecode, h]
  · obtain ⟨e, r, hparse, hdecode, h⟩ := h
    simp [hparse, hdecode, h]

/-- A text in which no section is an array, date or time is `malformed` exactly if it has a bad
spot, at which the reader of TOML refuses it, whatever entries stand before and behind the spot. A
text that `Toml.parse?` reads is accepted exactly if its entries fit, and any other is reported for
the first of the entries that offend, where a table stands at its own header if it has one and where
it is first mentioned otherwise. -/
theorem parse_outcome (text : String) (hplain : ∀ e, Toml.parse? text = some e → IsPlain e) :
    (parse text = .error .malformed ↔ Toml.HasBadSpot text)
      ∧ ((∃ parsed, parse text = .ok parsed) ↔ ∃ e, Toml.parse? text = some e ∧ Fits e)
      ∧ ReportsFirst place text := by
  refine ⟨parse_eq_malformed_iff.trans (Toml.parse?_eq_none_iff text), ?_, ?_⟩
  · rw [exists_parse_eq_ok_iff]
    constructor
    · intro h
      obtain ⟨e, hparse, hdecode⟩ := h
      exact ⟨e, hparse, (exists_decode_eq_ok_iff (hplain e hparse)).mp hdecode⟩
    · intro h
      obtain ⟨e, hparse, hfits⟩ := h
      exact ⟨e, hparse, (exists_decode_eq_ok_iff (hplain e hparse)).mpr hfits⟩
  · intro cause
    rw [parse_eq_schema_iff]
    constructor
    · intro h
      obtain ⟨e, hparse, hdecode⟩ := h
      have hfirst := (decode_eq_error_iff (hplain e hparse) cause).mp hdecode
      rw [Toml.parse?_eq_bind] at hparse
      obtain ⟨statements, hread, hmade⟩ := Option.bind_eq_some_iff.mp hparse
      have hsorted := pairwise_position hread hmade
      exact ⟨statements, e, hread, hmade, (firstOffence_iff_leastOffence hsorted).mp hfirst⟩
    · intro h
      obtain ⟨statements, e, hread, hmade, hleast⟩ := h
      have hparse : Toml.parse? text = some e := by
        rw [Toml.parse?_eq_bind, hread]
        exact hmade
      have hfirst := (firstOffence_iff_leastOffence (pairwise_position hread hmade)).mpr hleast
      exact ⟨e, hparse, (decode_eq_error_iff (hplain e hparse) cause).mpr hfirst⟩

/-- A text in which a section is first mentioned before another one and has its header after it. -/
def movedSection : String := "[landmarks.x]\n[excerpt.foo]\n[landmarks]\n"

/-- The entries of `movedSection`. -/
private def movedEntries : Entries :=
  [ ("excerpt", .table .parent [("foo", .table .header [])]),
    ("landmarks", .table .header [("x", .table .header [])]) ]

private lemma isPlain_movedSection (e : Entries) (h : Toml.parse? movedSection = some e) :
    IsPlain e := by
  have hparse : Toml.parse? movedSection = some movedEntries := by rfl
  rw [hparse] at h
  rw [← Option.some.inj h]
  simp [IsPlain, movedEntries]

private lemma parse_movedSection :
    parse movedSection = .error (.schema (.unknownField "foo" ["offset", "width"])) := by rfl

/-- A text with a line that is no statement between entries that do not fit. -/
def brokenHeader : String := "x = 1\n[landmarks\nexcerpt = 2\n"

/-- The text `movedSection` has no bad spot and does not fit. The entry of the other section stands
first in it and is the one that is reported. `brokenHeader` has a bad spot, and nothing else is
reported. -/
theorem parse_outcome_movedSection :
    (∀ e, Toml.parse? movedSection = some e → IsPlain e)
      ∧ ¬ Toml.HasBadSpot movedSection
      ∧ (∀ e, Toml.parse? movedSection = some e → ¬ Fits e)
      ∧ parse movedSection = .error (.schema (.unknownField "foo" ["offset", "width"]))
      ∧ (∃ statements e, Toml.statements? movedSection = some statements
        ∧ Entries.ofStatements? statements = some e
        ∧ LeastOffence (Visit.position place statements) (visits e)
          (.unknownField "foo" ["offset", "width"]))
      ∧ parse brokenHeader = .error .malformed
      ∧ Toml.HasBadSpot brokenHeader := by
  obtain ⟨hmalformed, haccepted, hreported⟩ := parse_outcome movedSection isPlain_movedSection
  have hrefused : Toml.parse? brokenHeader = none := rfl
  have hbroken : parse brokenHeader = .error .malformed := by
    rw [parse, hrefused]
  obtain ⟨hspot, -⟩ := parse_outcome brokenHeader fun e h => by
    rw [hrefused] at h
    exact nomatch h
  refine ⟨isPlain_movedSection, ?_, ?_, parse_movedSection, (hreported _).mp parse_movedSection,
    hbroken, hspot.mp hbroken⟩
  · intro hbad
    have hmoved := hmalformed.mpr hbad
    rw [parse_movedSection] at hmoved
    cases hmoved
  · intro e hparse hfits
    obtain ⟨parsed, hparsed⟩ := haccepted.mpr ⟨e, hparse, hfits⟩
    rw [parse_movedSection] at hparsed
    cases hparsed

/-- The entry that `firstPlace` puts first is not always the one that is reported: here it is that
of the other section, which no header follows. -/
theorem not_reportsFirst_firstPlace :
    (∀ e, Toml.parse? movedSection = some e → IsPlain e)
      ∧ ¬ ReportsFirst firstPlace movedSection := by
  refine ⟨isPlain_movedSection, ?_⟩
  intro h
  have hx : parse movedSection
      = .error (.schema (.unknownField "x" (Section.landmarks.fields.map Field.name))) := by
    refine (h _).mpr ⟨_, movedEntries, rfl, rfl, ?_⟩
    refine ⟨.field .landmarks "x" (.table .header []), ?_, ?_, ?_⟩
    · show _ ∈ [Visit.top _ _, .field _ _ _, .top _ _, .field _ _ _]
      simp
    · exact .unknownField (by simp [Section.fields, Field.name, TextField.name, CountField.name])
    · intro other hother hne hoffends
      obtain ⟨c, hc⟩ := hoffends
      change other ∈ [Visit.top _ _, .field _ _ _, .top _ _, .field _ _ _] at hother
      simp only [List.mem_cons, List.not_mem_nil, or_false] at hother
      rcases hother with hother | hother | hother | hother
      · rw [hother] at hc
        exact absurd hc (not_offends_table .excerpt _ _ c)
      · rw [hother]
        decide
      · rw [hother] at hc
        exact absurd hc (not_offends_table .landmarks _ _ c)
      · exact absurd hother hne
  rw [parse_movedSection] at hx
  have hname := (SchemaError.unknownField.inj (Error.schema.inj (Except.error.inj hx))).1
  exact absurd hname (by decide)

end LineLandmarks.RuleFile
