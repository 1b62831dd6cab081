import LineLandmarks.Proofs.RuleFile.Settings
import LineLandmarks.Proofs.Text.Run
import LineLandmarks.Proofs.Toml.Entries
import LineLandmarks.Proofs.Toml.Lines
import LineLandmarks.RuleFile.Parse

/-!
# Rule files read back

A written rule file is read row by row: the header of each section, and each setting as an
assignment of its value. Whatever is chosen for each field, and in whatever order the sections and
the settings of each are written, the rules say in each field what was chosen for it, and elsewhere
what the default rules say.
-/

namespace LineLandmarks.RuleFile

open Toml (basic? consContent escape? greatestInteger value?)

/-! ## Texts -/

/-- The escape of a code point below 256 is read by `escape?` as the character `c`. -/
private lemma escape?_code {c : Char} (h : c.toNat < 256) (rest : List Char) :
    escape? ('u' :: '0' :: '0' :: Nat.digitChar (c.toNat / 16) :: Nat.digitChar (c.toNat % 16)
      :: rest) = some (c, rest) := by
  simp only [escape?, bind, Text.hexDigits?_two h, Option.bind_some, Text.scalar?_toNat]
  rfl

/-- The characters `writeChar c` are read as `c`. -/
theorem basic?_writeChar (c : Char) (rest : List Char) :
    basic? (writeChar c ++ rest) = (basic? rest).map (consContent c) := by
  rw [writeChar]
  by_cases hquote : c = '"'
  · rw [if_pos hquote, hquote]
    exact Toml.basic?_escape rfl
  · rw [if_neg hquote]
    by_cases hbackslash : c = '\\'
    · rw [if_pos hbackslash, hbackslash]
      exact Toml.basic?_escape rfl
    · rw [if_neg hbackslash]
      by_cases hcontrol : c.toNat < 0x20 ∨ c.toNat = 0x7F
      · rw [if_pos hcontrol]
        exact Toml.basic?_escape (escape?_code (by omega) rest)
      · rw [if_neg hcontrol]
        refine Toml.basic?_plain hquote hbackslash ?_ rest
        rw [Toml.isPlain, Toml.isCommentChar, Bool.or_eq_true, Bool.and_eq_true,
          decide_eq_true_iff, bne_iff_ne]
        omega

/-- The characters `cs`, each by `writeChar`, are read as `cs` up to the quote. -/
theorem basic?_flatMap_writeChar (cs rest : List Char) :
    basic? (cs.flatMap writeChar ++ '"' :: rest) = some (cs, rest) := by
  induction cs with
  | nil => rw [List.flatMap_nil, List.nil_append, basic?]
  | cons c cs ih =>
    rw [List.flatMap_cons, List.append_assoc, basic?_writeChar, ih]
    rfl

/-- The characters `writeChar c` do not start with a quote. -/
private lemma head_writeChar (c : Char) : ∃ d tail, writeChar c = d :: tail ∧ d ≠ '"' := by
  unfold writeChar
  split
  · exact ⟨'\\', _, rfl, by decide⟩
  · next hquote =>
    split
    · exact ⟨'\\', _, rfl, by decide⟩
    · split
      · exact ⟨'\\', _, rfl, by decide⟩
      · exact ⟨c, _, rfl, hquote⟩

/-- The characters `cs`, each by `writeChar`, are not taken for the start of a string on several
lines. -/
private lemma writeChars_ne_quotes (cs rest s : List Char) :
    cs.flatMap writeChar ++ '"' :: '\n' :: rest ≠ '"' :: '"' :: s := by
  intro heq
  cases cs with
  | nil => exact absurd (List.cons.inj (List.cons.inj heq).2).1 (by decide)
  | cons c cs =>
    obtain ⟨d, tail, hcons, hd⟩ := head_writeChar c
    rw [List.flatMap_cons, hcons] at heq
    exact hd (List.cons.inj heq).1

/-! ## Rows -/

namespace Setting

/-- A setting whose count can be written as an integer: it is at most `greatestInteger`. -/
def IsWritable : Setting → Prop
  | text _ _ => True
  | count _ n => n ≤ greatestInteger

lemma IsWritable.fits {t : Setting} (h : t.IsWritable) : t.Fits := by
  cases t with
  | text f s => trivial
  | count f n => exact Nat.lt_of_le_of_lt h (by decide)

/-- The text `row.value t` is read as the `tomlValue` of `t`. -/
private lemma value?_value {t : Setting} (h : t.IsWritable) (bound depth : ℕ)
    (rest : List Char) :
    value? bound depth (row.value t ++ '\n' :: rest) = some (t.tomlValue, '\n' :: rest) := by
  cases t with
  | text f s =>
    have hbody := basic?_flatMap_writeChar s.toList ('\n' :: rest)
    have hvalue := Toml.value?_basic bound depth (writeChars_ne_quotes s.toList rest) hbody
    rw [String.ofList_toList] at hvalue
    rw [row.value, writeText, List.cons_append, List.cons_append, List.append_assoc]
    exact hvalue
  | count f n => exact Toml.value?_decimal bound depth h rest

private lemma head_value (t : Setting) :
    ∀ c ∈ (row.value t).head?, Toml.isBlank c = false := by
  intro c hc
  cases t with
  | text f s =>
    rw [row.value, writeText, List.cons_append, List.head?_cons, Option.mem_some_iff] at hc
    rw [← hc]
    rfl
  | count f n =>
    obtain ⟨d, tail, hcons, hd⟩ := Text.exists_decimal_eq_digit_cons n
    rw [Text.decimal] at hcons
    rw [row.value, hcons, List.head?_cons, Option.mem_some_iff] at hc
    rw [← hc]
    exact Toml.isBlank_of_isBareKeyChar (by simp [Toml.isBareKeyChar, Char.isAlphanum, hd])

/-- The assignment of the setting `t`. -/
def assignment (t : Setting) : Toml.Assignment :=
  ⟨⟨[], t.field.name⟩, t.tomlValue⟩

/-- The `name` of a field is a key that needs no quotes. -/
private lemma isBare_name (f : Field) : Toml.IsBare f.name.toList := by
  rcases f with f | f <;> cases f <;> exact ⟨by decide, by decide⟩

/-- The `row` of the setting `t` is read as its `assignment`. -/
theorem isRow_row {t : Setting} (h : t.IsWritable) (bound : ℕ) :
    Toml.Statement.IsRow bound t.row (.assign t.assignment) := by
  have hrow := Toml.Statement.isRow_assign (isBare_name t.field) (head_value t)
    (value?_value h bound (Toml.depthLimit - 1))
  rw [String.ofList_toList] at hrow
  rw [row, List.append_assoc, List.append_assoc]
  exact hrow

end Setting

/-- The `headerRow` of a section is read as the header of a table. -/
theorem isRow_headerRow (bound : ℕ) (s : Section) :
    Toml.Statement.IsRow bound (headerRow s) (.table ⟨[], s.name⟩) := by
  have hname : Toml.IsBare s.name.toList := by
    cases s <;> exact ⟨by decide, by decide⟩
  have hrow := Toml.Statement.isRow_header bound hname
  rw [String.ofList_toList] at hrow
  exact hrow

/-! ## Files -/

/-- The rows of a section with the statements they are read as. -/
private def sectionRows (p : Section × List Setting) : List (List Char × Toml.Statement) :=
  (headerRow p.1, .table ⟨[], p.1.name⟩) :: p.2.map fun t => (t.row, .assign t.assignment)

/-- The header of a section with the `assignment` of each of its settings. -/
private def sectionBlock (p : Section × List Setting) : Toml.Block :=
  ⟨false, ⟨[], p.1.name⟩, p.2.map Setting.assignment⟩

variable {sections : List (Section × List Setting)}

private lemma write_eq (sections : List (Section × List Setting)) :
    write sections = String.ofList ((sections.flatMap sectionRows).flatMap Prod.fst) := by
  rw [write, List.flatMap_assoc]
  congr 2
  funext p
  rw [sectionRows, List.flatMap_cons, List.flatMap_map]

private lemma map_snd_sectionRows (sections : List (Section × List Setting)) :
    (sections.flatMap sectionRows).map Prod.snd
      = (sections.map sectionBlock).flatMap Toml.Block.statements := by
  rw [List.map_flatMap, List.flatMap_map]
  congr 1
  funext p
  simp [sectionRows, sectionBlock, Toml.Block.statements]

/-- Sections and settings that make up one file: no section twice, in every section settings of
different fields of the section, and counts that satisfy `IsWritable`. -/
structure IsFile (sections : List (Section × List Setting)) : Prop where
  sections_nodup : (sections.map Prod.fst).Nodup
  fields_mem : ∀ p ∈ sections, ∀ t ∈ p.2, t.field ∈ p.1.fields
  names_nodup : ∀ p ∈ sections, (p.2.map fun t => t.field.name).Nodup
  writable : ∀ p ∈ sections, ∀ t ∈ p.2, t.IsWritable

/-- Each of the `sectionRows` of a file is read as its statement. -/
private lemma isRow_of_mem_sectionRows (h : IsFile sections) (bound : ℕ) :
    ∀ r ∈ sections.flatMap sectionRows, Toml.Statement.IsRow bound r.1 r.2 := by
  intro r hr
  obtain ⟨p, hp, hr⟩ := List.mem_flatMap.mp hr
  rcases List.mem_cons.mp hr with hr | hr
  · rw [hr]
    exact isRow_headerRow bound p.1
  · obtain ⟨t, ht, hr⟩ := List.mem_map.mp hr
    rw [← hr]
    exact Setting.isRow_row (h.writable p hp t ht) bound

/-- The rows of a file start with `[`, if with anything. -/
private lemma head_sectionRows (sections : List (Section × List Setting)) :
    ∀ c ∈ ((sections.flatMap sectionRows).flatMap Prod.fst).head?, c = '[' := by
  intro c hc
  cases sections with
  | nil => exact nomatch hc
  | cons p sections =>
    rw [List.flatMap_cons, sectionRows, List.cons_append, List.flatMap_cons, headerRow] at hc
    simp only [List.cons_append, List.head?_cons, Option.mem_some_iff] at hc
    exact hc.symm

private lemma isPlain_sectionBlock (h : IsFile sections) :
    ∀ b ∈ sections.map sectionBlock, b.IsPlain := by
  intro b hb
  obtain ⟨p, hp, hb⟩ := List.mem_map.mp hb
  rw [← hb]
  refine ⟨rfl, rfl, ?_, ?_⟩
  · intro a ha
    obtain ⟨t, -, ha⟩ := List.mem_map.mp ha
    rw [← ha]
    rfl
  · have hnames := h.names_nodup p hp
    rw [sectionBlock, List.map_map]
    exact hnames

private lemma nodup_names_sectionBlock (h : IsFile sections) :
    ((sections.map sectionBlock).map fun b => b.key.name).Nodup := by
  have hnames : (sections.map sectionBlock).map (fun b => b.key.name)
      = (sections.map Prod.fst).map Section.name := by
    rw [List.map_map, List.map_map]
    rfl
  rw [hnames]
  exact List.pairwise_map.mpr (h.sections_nodup.imp fun hne heq =>
    hne (Section.name_injective heq))

/-- The text `write sections` is read as the tables of its sections. -/
theorem parse?_write (h : IsFile sections) :
    Toml.parse? (write sections) = some (sections.map sectionEntry) := by
  have hmark : ∀ c ∈ ((sections.flatMap sectionRows).flatMap Prod.fst).head?, c ≠ '\uFEFF' := by
    intro c hc
    rw [head_sectionRows sections c hc]
    decide
  rw [write_eq, Toml.parse?_rows (isRow_of_mem_sectionRows h _) hmark, map_snd_sectionRows,
    Toml.Entries.ofStatements?_plain (isPlain_sectionBlock h) (nodup_names_sectionBlock h),
    List.map_map]
  congr 2
  funext p
  simp [sectionBlock, sectionEntry, Toml.Block.entry, Setting.entry, Setting.assignment,
    Toml.Assignment.entry]

/-- The text `write sections` is accepted, and its settings are applied to the `default` rules in
order. -/
theorem parse_write_eq (h : IsFile sections) :
    parse (write sections)
      = .ok (.ofRules (Setting.applyAll (sections.flatMap Prod.snd) .default)) := by
  rw [parse, parse?_write h]
  simp only [decode_sections h.fields_mem]

/-! ## Choices -/

/-- What is chosen for each field: `none`, or a value that can be written. -/
structure Choice where
  text : TextField → Option String
  count : CountField → Option ℕ
  count_le : ∀ f, ∀ n ∈ count f, n ≤ greatestInteger

namespace Choice

variable (c : Choice)

/-- The setting that `c` chooses for a field. -/
def setting? : Field → Option Setting
  | .text f => (c.text f).map (.text f)
  | .count f => (c.count f).map (.count f)

/-- The settings that `c` chooses for the fields of the section `s`. -/
def settings (s : Section) : List Setting :=
  s.fields.filterMap c.setting?

/-- The chosen settings under the headers of their sections, the `sections` and the settings of each
in any order. A section for which nothing is chosen may be left out. -/
structure IsArrangement (sections : List (Section × List Setting)) : Prop where
  nodup : (sections.map Prod.fst).Nodup
  perm : ∀ p ∈ sections, p.2.Perm (c.settings p.1)
  complete : ∀ s, c.settings s ≠ [] → s ∈ sections.map Prod.fst

variable {c}

lemma setting?_eq_some {f : Field} {t : Setting} (h : c.setting? f = some t) :
    t.field = f ∧ t.IsWritable := by
  cases f with
  | text f =>
    obtain ⟨s, -, ht⟩ := Option.map_eq_some_iff.mp h
    rw [← ht]
    exact ⟨rfl, trivial⟩
  | count f =>
    obtain ⟨n, hn, ht⟩ := Option.map_eq_some_iff.mp h
    rw [← ht]
    exact ⟨rfl, c.count_le f n hn⟩

/-- The `settings` of a section are those chosen for its fields. -/
lemma mem_settings_iff {s : Section} {t : Setting} :
    t ∈ c.settings s ↔ t.field ∈ s.fields ∧ c.setting? t.field = some t := by
  rw [settings, List.mem_filterMap]
  constructor
  · intro h
    obtain ⟨f, hf, ht⟩ := h
    have hfield := (setting?_eq_some ht).1
    rw [hfield]
    exact ⟨hf, ht⟩
  · intro h
    exact ⟨t.field, h.1, h.2⟩

/-- The `settings` of a section have the distinct keys of its fields. -/
lemma nodup_names_settings (s : Section) : ((c.settings s).map fun t => t.field.name).Nodup := by
  have hsublist : ∀ fs : List Field,
      ((fs.filterMap c.setting?).map fun t => t.field.name).Sublist (fs.map Field.name) := by
    intro fs
    induction fs with
    | nil => exact List.Sublist.refl _
    | cons f fs ih =>
      cases hf : c.setting? f with
      | none =>
        rw [List.filterMap_cons_none hf]
        exact ih.cons _
      | some t =>
        rw [List.filterMap_cons_some hf, List.map_cons, List.map_cons, (setting?_eq_some hf).1]
        exact ih.cons_cons _
  exact (hsublist s.fields).nodup s.nodup_names

/-- An `IsArrangement` is a file. -/
lemma IsArrangement.isFile (h : c.IsArrangement sections) : IsFile sections := by
  have hmem : ∀ p ∈ sections, ∀ t ∈ p.2, t.field ∈ p.1.fields ∧ c.setting? t.field = some t :=
    fun p hp t ht => mem_settings_iff.mp ((h.perm p hp).mem_iff.mp ht)
  refine ⟨h.nodup, fun p hp t ht => (hmem p hp t ht).1, ?_, ?_⟩
  · intro p hp
    exact ((h.perm p hp).map fun t => t.field.name).nodup_iff.mpr (nodup_names_settings p.1)
  · intro p hp t ht
    exact (setting?_eq_some (hmem p hp t ht).2).2

/-- A setting stands in an `IsArrangement` exactly if it is chosen for its field. -/
lemma IsArrangement.mem_iff (h : c.IsArrangement sections) {t : Setting} :
    t ∈ sections.flatMap Prod.snd ↔ c.setting? t.field = some t := by
  rw [List.mem_flatMap]
  constructor
  · intro ht
    obtain ⟨p, hp, ht⟩ := ht
    exact (mem_settings_iff.mp ((h.perm p hp).mem_iff.mp ht)).2
  · intro ht
    obtain ⟨s, hs⟩ := t.field.exists_mem_fields
    have hsettings : t ∈ c.settings s := mem_settings_iff.mpr ⟨hs, ht⟩
    obtain ⟨p, hp, hfst⟩ := List.mem_map.mp (h.complete s (List.ne_nil_of_mem hsettings))
    refine ⟨p, hp, (h.perm p hp).mem_iff.mpr ?_⟩
    rw [hfst]
    exact hsettings

/-- The rules of an `IsArrangement` say in each field what is chosen for it, or else what the
`default` rules say. -/
theorem IsArrangement.setting_applyAll (h : c.IsArrangement sections) (f : Field) :
    f.setting (Setting.applyAll (sections.flatMap Prod.snd) .default)
      = (c.setting? f).getD (f.setting .default) := by
  have hfits : ∀ t ∈ sections.flatMap Prod.snd, t.Fits :=
    fun t ht => (setting?_eq_some (h.mem_iff.mp ht)).2.fits
  cases hf : c.setting? f with
  | none =>
    -- no setting of the field stands in the file
    refine Setting.setting_applyAll_of_forall_ne hfits ?_ .default
    intro t ht heq
    have hchosen := h.mem_iff.mp ht
    rw [heq, hf] at hchosen
    exact nomatch hchosen
  | some t =>
    -- every setting of the field in the file is the chosen one
    have hfield := (setting?_eq_some hf).1
    rw [← hfield] at hf ⊢
    refine Setting.setting_applyAll_of_mem hfits (h.mem_iff.mpr hf) ?_ .default
    intro u hu heq
    have hchosen := h.mem_iff.mp hu
    rw [heq, hf] at hchosen
    exact (Option.some.inj hchosen).symm

end Choice

/-- Whatever `c` chooses for the fields and in whatever order it is written, the file is accepted by
`parse`. The rules have in each field the value that is chosen for it, or the value of `default`. -/
theorem parse_write (c : Choice) (sections : List (Section × List Setting))
    (h : c.IsArrangement sections) :
    ∃ r, parse (write sections) = .ok (.ofRules r)
      ∧ (∀ f : TextField, f.get r = (c.text f).getD (f.get .default))
      ∧ ∀ f : CountField, (f.get r).toNat = (c.count f).getD (f.get .default).toNat := by
  refine ⟨_, parse_write_eq h.isFile, ?_, ?_⟩
  · intro f
    have hsetting := h.setting_applyAll (.text f)
    rw [Choice.setting?, Field.setting, Field.setting] at hsetting
    cases hf : c.text f with
    | none =>
      rw [hf] at hsetting
      exact (Setting.text.inj hsetting).2
    | some s =>
      rw [hf] at hsetting
      exact (Setting.text.inj hsetting).2
  · intro f
    have hsetting := h.setting_applyAll (.count f)
    rw [Choice.setting?, Field.setting, Field.setting] at hsetting
    cases hf : c.count f with
    | none =>
      rw [hf] at hsetting
      exact (Setting.count.inj hsetting).2
    | some n =>
      rw [hf] at hsetting
      exact (Setting.count.inj hsetting).2

/-- The sections and the settings of one of them in reverse, a text of characters that need escapes,
and counts at both ends of their range. -/
theorem parse_write_reversed :
    let c : Choice :=
      { text := fun f => if f = .putSignature then some "\"\\\x00\x7f\né" else none
        count := fun f =>
          if f = .blockEndBefore then some 9223372036854775807
          else if f = .width then some 0 else none
        count_le := by
          intro f n hn
          cases f
          · exact nomatch hn
          · exact Nat.le_of_eq (Option.some.inj hn).symm
          · exact nomatch hn
          · rw [← Option.some.inj hn]
            exact Nat.zero_le _ }
    let sections : List (Section × List Setting) :=
      [ (.excerpt, [.count .width 0]),
        (.landmarks,
          [.count .blockEndBefore 9223372036854775807, .text .putSignature "\"\\\x00\x7f\né"]) ]
    c.IsArrangement sections
      ∧ ∃ r, parse (write sections) = .ok (.ofRules r)
        ∧ r.putSignature = "\"\\\x00\x7f\né"
        ∧ r.existsSignature = Rules.default.existsSignature
        ∧ r.blockEndLine = Rules.default.blockEndLine
        ∧ r.blockEndAfter.toNat = 700
        ∧ r.blockEndBefore.toNat = 9223372036854775807
        ∧ r.excerpt.offset.toNat = 10
        ∧ r.excerpt.width.toNat = 0 := by
  intro c sections
  have harranged : c.IsArrangement sections := by
    refine ⟨by decide, ?_, ?_⟩
    · intro p hp
      rcases List.mem_cons.mp hp with hp | hp
      · rw [hp]
        exact List.Perm.refl _
      · rw [List.mem_singleton.mp hp]
        exact List.Perm.swap _ _ _
    · intro s _
      cases s <;> decide
  obtain ⟨r, hparse, htext, hcount⟩ := parse_write c sections harranged
  exact ⟨harranged, r, hparse, htext .putSignature, htext .existsSignature, htext .blockEndLine,
    hcount .blockEndAfter, hcount .blockEndBefore, hcount .offset, hcount .width⟩

end LineLandmarks.RuleFile
