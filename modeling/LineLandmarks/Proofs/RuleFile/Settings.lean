import Mathlib.Data.Int.Notation
import Mathlib.Data.Nat.Notation
import Mathlib.Tactic.Lemma
import LineLandmarks.RuleFile.Schema
import LineLandmarks.RuleFile.Writer

/-!
# Settings

What rules say in each field, and what becomes of it when settings are applied: the field that is
set changes, and no other. Tables of settings are read by applying the settings in order.
-/

namespace LineLandmarks.RuleFile

namespace TextField

/-- The text that the rules `r` have in a field. -/
def get : TextField → Rules → String
  | putSignature, r => r.putSignature
  | existsSignature, r => r.existsSignature
  | blockEndLine, r => r.blockEndLine

end TextField

namespace CountField

/-- The count that the rules `r` have in a field. -/
def get : CountField → Rules → UInt64
  | blockEndAfter, r => r.blockEndAfter
  | blockEndBefore, r => r.blockEndBefore
  | offset, r => r.excerpt.offset
  | width, r => r.excerpt.width

end CountField

namespace Field

/-- What the rules `r` say in a field, as a `Setting` of the field. -/
def setting : Field → Rules → Setting
  | text f, r => .text f (f.get r)
  | count f, r => .count f (f.get r).toNat

/-- Every field is among the `fields` of some section. -/
lemma exists_mem_fields (f : Field) : ∃ s : Section, f ∈ s.fields := by
  rcases f with f | f
  · exact ⟨.landmarks, by cases f <;> decide⟩
  · cases f
    · exact ⟨.landmarks, by decide⟩
    · exact ⟨.landmarks, by decide⟩
    · exact ⟨.excerpt, by decide⟩
    · exact ⟨.excerpt, by decide⟩

end Field

namespace Section

/-- The `fields` of a section have distinct keys. -/
lemma nodup_names (s : Section) : (s.fields.map Field.name).Nodup := by
  cases s <;> decide

/-- A field is found by its `name` in its section. -/
lemma field?_name {s : Section} {f : Field} (h : f ∈ s.fields) : s.field? f.name = some f := by
  cases s <;> simp only [fields, List.mem_cons, List.not_mem_nil, or_false] at h
  · rcases h with rfl | rfl | rfl | rfl | rfl <;> rfl
  · rcases h with rfl | rfl <;> rfl

@[simp] lemma ofName?_name (s : Section) : ofName? s.name = some s := by
  cases s <;> rfl

lemma name_injective {s t : Section} (h : s.name = t.name) : s = t := by
  have := ofName?_name s
  rw [h, ofName?_name, Option.some.injEq] at this
  exact this.symm

end Section

namespace Setting

/-! ## Applying settings -/

/-- A setting whose count is less than `UInt64.size`. -/
def Fits : Setting → Prop
  | text _ _ => True
  | count _ n => n < UInt64.size

/-- The setting `t` changes its own field and no other. -/
theorem setting_apply {t : Setting} (h : t.Fits) (f : Field) (r : Rules) :
    f.setting (t.apply r) = if t.field = f then t else f.setting r := by
  cases t with
  | text g s => cases g <;> rcases f with f | f <;> cases f <;> rfl
  | count g n =>
    have hn : (UInt64.ofNat n).toNat = n := UInt64.toNat_ofNat_of_lt h
    cases g <;> rcases f with f | f <;> cases f <;>
      simp [apply, field, Field.setting, CountField.get, CountField.set, TextField.get, hn]

/-- The rules after the settings `ts` in order. -/
def applyAll (ts : List Setting) (r : Rules) : Rules :=
  ts.foldl (fun r t => t.apply r) r

@[simp] lemma applyAll_cons (t : Setting) (ts : List Setting) (r : Rules) :
    applyAll (t :: ts) r = applyAll ts (t.apply r) := rfl

@[simp] lemma applyAll_append (ts us : List Setting) (r : Rules) :
    applyAll (ts ++ us) r = applyAll us (applyAll ts r) :=
  List.foldl_append

/-- A field that is not set by `ts` keeps what it says. -/
lemma setting_applyAll_of_forall_ne {ts : List Setting} (hfits : ∀ t ∈ ts, t.Fits) {f : Field}
    (hf : ∀ t ∈ ts, t.field ≠ f) (r : Rules) : f.setting (applyAll ts r) = f.setting r := by
  induction ts generalizing r with
  | nil => rfl
  | cons t ts ih =>
    have htail := ih (fun u hu => hfits u (List.mem_cons_of_mem t hu))
      (fun u hu => hf u (List.mem_cons_of_mem t hu)) (t.apply r)
    rw [applyAll_cons, htail, setting_apply (hfits t List.mem_cons_self),
      if_neg (hf t List.mem_cons_self)]

/-- The field of `t` says `t` after `ts`, if no setting of `ts` says anything else of it. -/
lemma setting_applyAll_of_mem {ts : List Setting} (hfits : ∀ t ∈ ts, t.Fits) {t : Setting}
    (ht : t ∈ ts) (hsame : ∀ u ∈ ts, u.field = t.field → u = t) (r : Rules) :
    t.field.setting (applyAll ts r) = t := by
  induction ts generalizing r with
  | nil => exact nomatch ht
  | cons u ts ih =>
    have hfits' : ∀ v ∈ ts, v.Fits := fun v hv => hfits v (List.mem_cons_of_mem u hv)
    have hsame' : ∀ v ∈ ts, v.field = t.field → v = t :=
      fun v hv => hsame v (List.mem_cons_of_mem u hv)
    rw [applyAll_cons]
    by_cases hmem : t ∈ ts
    · exact ih hfits' hmem hsame' (u.apply r)
    · -- the first setting is the last one of this field
      have hu : u = t := by
        rcases List.mem_cons.mp ht with h | h
        · exact h.symm
        · exact absurd h hmem
      have hne : ∀ v ∈ ts, v.field ≠ t.field := by
        intro v hv heq
        rw [hsame' v hv heq] at hv
        exact hmem hv
      rw [setting_applyAll_of_forall_ne hfits' hne, hu, setting_apply (hfits t ht), if_pos rfl]

/-! ## Reading settings -/

/-- The value of a setting in a document. -/
def tomlValue : Setting → Toml.Value
  | text _ s => .string s
  | count _ n => .integer n

/-- The entry of the setting `t` in a document. -/
def entry (t : Setting) : String × Toml.Value :=
  (t.field.name, t.tomlValue)

@[simp]
lemma read_tomlValue (t : Setting) (r : Rules) : t.field.read t.tomlValue r = .ok (t.apply r) := by
  cases t with
  | text f s => rfl
  | count f n =>
    have hn : ¬ (n : ℤ) < 0 := Int.not_lt.mpr (Int.natCast_nonneg n)
    simp only [field, tomlValue, Field.read, if_neg hn]
    rfl

/-- The entries of settings of a section are read by `applyAll` of the settings in order. -/
lemma foldlM_readEntry {s : Section} {ts : List Setting} (hts : ∀ t ∈ ts, t.field ∈ s.fields)
    (r : Rules) : (ts.map entry).foldlM s.readEntry r = .ok (applyAll ts r) := by
  induction ts generalizing r with
  | nil => rfl
  | cons t ts ih =>
    have hread : s.readEntry r t.entry = .ok (t.apply r) := by
      rw [Section.readEntry, entry, Section.field?_name (hts t List.mem_cons_self)]
      exact read_tomlValue t r
    rw [List.map_cons, List.foldlM_cons, hread]
    exact ih (fun u hu => hts u (List.mem_cons_of_mem t hu)) (t.apply r)

end Setting

/-- The entry of a section that is written under its header. -/
def sectionEntry (p : Section × List Setting) : String × Toml.Value :=
  (p.1.name, .table .header (p.2.map Setting.entry))

/-- The entries of `sections` are decoded by `applyAll` of all their settings in order. -/
theorem decode_sections {sections : List (Section × List Setting)}
    (hfields : ∀ p ∈ sections, ∀ t ∈ p.2, t.field ∈ p.1.fields) :
    decode (sections.map sectionEntry)
      = .ok (Setting.applyAll (sections.flatMap Prod.snd) .default) := by
  have hfold : ∀ r, (sections.map sectionEntry).foldlM readSection r
      = .ok (Setting.applyAll (sections.flatMap Prod.snd) r) := by
    induction sections with
    | nil =>
      intro r
      rfl
    | cons p sections ih =>
      intro r
      have hread : readSection r (sectionEntry p) = .ok (Setting.applyAll p.2 r) := by
        rw [readSection, sectionEntry, Section.ofName?_name]
        exact Setting.foldlM_readEntry (hfields p List.mem_cons_self) r
      rw [List.map_cons, List.foldlM_cons, hread]
      rw [List.flatMap_cons, Setting.applyAll_append]
      exact ih (fun q hq => hfields q (List.mem_cons_of_mem p hq)) (Setting.applyAll p.2 r)
  exact hfold .default

end LineLandmarks.RuleFile
