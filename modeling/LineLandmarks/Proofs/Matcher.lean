import LineLandmarks.Matcher
import LineLandmarks.Proofs.Text.Containment
import Mathlib.Data.Nat.Notation

/-!
# Verdicts of the matcher

The search finds every place of every needle and nothing else (`mem_occurrences_iff`). The verdict
on a list of occurrences depends on which needles are among them and not on their order, so every
list that holds the occurrences of a line, in whatever order and however often, leads to the same
verdict: put if the line contains the put signature, otherwise exists if it contains the exists
signature (`verdict_ofRules`). Of any other search it need only be known which places it reports
(`verdict_of_isSearch`).
-/

namespace LineLandmarks

open Text (Contains bytes_isInfix_iff)

instance (whole part : String) : Decidable (Contains whole part) :=
  inferInstanceAs (Decidable (part.toList <:+: whole.toList))

/-- The text in the rules `r` that stands for a signature. -/
def Rules.textOf (r : Rules) : Signature → String
  | .putMethod => r.putSignature
  | .existsMethod => r.existsSignature

namespace Matcher

/-- The occurrence `o` is a place in `line` where the bytes of the needle with its number stand. -/
def Occurs (m : Matcher) (line : List UInt8) (o : Occurrence) : Prop :=
  ∃ (n : Needle) (before after : List UInt8),
    m.needles[o.needle]? = some n ∧ line = before ++ n.bytes ++ after
      ∧ o.stop = before.length + n.bytes.length

/-! ## Occurrences -/

private lemma mem_startingAt_iff (needles : List (Needle × ℕ)) (place : ℕ) (ahead : List UInt8)
    (o : Occurrence) :
    o ∈ startingAt needles place ahead ↔
      ∃ n after, (n, o.needle) ∈ needles ∧ ahead = n.bytes ++ after
        ∧ o.stop = place + n.bytes.length := by
  simp only [startingAt, List.mem_filterMap]
  constructor
  · intro h
    obtain ⟨⟨n, i⟩, hmem, hsome⟩ := h
    simp only [Option.ite_none_right_eq_some, Option.some.injEq] at hsome
    obtain ⟨hstarts, rfl⟩ := hsome
    obtain ⟨after, hafter⟩ := List.isPrefixOf_iff_prefix.mp hstarts
    exact ⟨n, after, hmem, hafter.symm, rfl⟩
  · intro h
    obtain ⟨n, after, hmem, hahead, hstop⟩ := h
    refine ⟨(n, o.needle), hmem, ?_⟩
    have hstarts : n.bytes.isPrefixOf ahead = true :=
      List.isPrefixOf_iff_prefix.mpr ⟨after, hahead.symm⟩
    simp only [hstarts, if_true, ← hstop]

private lemma mem_occurrencesFrom_iff (needles : List (Needle × ℕ))
    (hneedles : ∀ n i, (n, i) ∈ needles → n.bytes ≠ []) (place : ℕ) (ahead : List UInt8)
    (o : Occurrence) :
    o ∈ occurrencesFrom needles place ahead ↔
      ∃ n before after, (n, o.needle) ∈ needles ∧ ahead = before ++ n.bytes ++ after
        ∧ o.stop = place + before.length + n.bytes.length := by
  induction ahead generalizing place with
  | nil =>
    simp only [occurrencesFrom, List.not_mem_nil, false_iff]
    intro h
    obtain ⟨n, before, after, hmem, hahead, -⟩ := h
    have hnil : n.bytes = [] := by
      have := List.append_eq_nil_iff.mp hahead.symm
      exact (List.append_eq_nil_iff.mp this.1).2
    exact hneedles n o.needle hmem hnil
  | cons b rest ih =>
    rw [occurrencesFrom, List.mem_append, mem_startingAt_iff, ih]
    constructor
    · intro h
      rcases h with ⟨n, after, hmem, hahead, hstop⟩ | ⟨n, before, after, hmem, hrest, hstop⟩
      · exact ⟨n, [], after, hmem, by simpa using hahead, by simpa using hstop⟩
      · refine ⟨n, b :: before, after, hmem, by simp [hrest], ?_⟩
        rw [hstop, List.length_cons]
        omega
    · intro h
      obtain ⟨n, before, after, hmem, hahead, hstop⟩ := h
      -- a needle starts at this byte or behind it
      cases before with
      | nil => exact Or.inl ⟨n, after, hmem, by simpa using hahead, by simpa using hstop⟩
      | cons c before =>
        simp only [List.cons_append, List.cons.injEq] at hahead
        refine Or.inr ⟨n, before, after, hmem, hahead.2, ?_⟩
        rw [hstop, List.length_cons]
        omega

/-- The search `occurrences` finds every place that `Occurs`, and nothing else. -/
theorem mem_occurrences_iff (m : Matcher) (hm : ∀ n ∈ m.needles, n.bytes ≠ [])
    (line : List UInt8) (o : Occurrence) : o ∈ m.occurrences line ↔ m.Occurs line o := by
  have hneedles : ∀ n i, (n, i) ∈ m.needles.zipIdx → n.bytes ≠ [] := by
    intro n i hmem
    exact hm n (List.fst_mem_of_mem_zipIdx hmem)
  rw [occurrences, mem_occurrencesFrom_iff m.needles.zipIdx hneedles]
  simp only [Occurs, List.mk_mem_zipIdx_iff_getElem?, Nat.zero_add]

/-! ## Verdicts -/

/-- Among `found` there is an occurrence of a needle of `s`. -/
def Finds (m : Matcher) (found : List Occurrence) (s : Signature) : Prop :=
  ∃ o ∈ found, m.signature? o.needle = some s

instance (m : Matcher) (found : List Occurrence) (s : Signature) : Decidable (m.Finds found s) :=
  inferInstanceAs (Decidable (∃ o ∈ found, m.signature? o.needle = some s))

private lemma finds_cons (m : Matcher) (o : Occurrence) (found : List Occurrence)
    (s : Signature) :
    m.Finds (o :: found) s ↔ m.signature? o.needle = some s ∨ m.Finds found s := by
  simp [Finds]

/-- What `pick` gives depends only on which signatures are among `found`. -/
theorem pick_eq (m : Matcher) (best : Option Signature) (found : List Occurrence) :
    m.pick best found =
      if m.Finds found .putMethod then some .putMethod
      else if m.Finds found .existsMethod then some .existsMethod
      else best := by
  induction found generalizing best with
  | nil => simp [pick, Finds]
  | cons o found ih =>
    simp only [pick, finds_cons]
    cases h : m.signature? o.needle with
    | none => simp [ih]
    | some s =>
      cases s with
      | putMethod => simp
      | existsMethod => simp [ih]

/-! ## The matcher of some rules -/

private lemma ofRules_eq (r : Rules) :
    ofRules r =
      { needles :=
          (if r.putSignature = "" then [] else [⟨.putMethod, Text.bytes r.putSignature⟩])
            ++ (if r.existsSignature = "" then []
                else [⟨.existsMethod, Text.bytes r.existsSignature⟩])
        everywhere :=
          if r.putSignature = "" then some .putMethod
          else if r.existsSignature = "" then some .existsMethod
          else none } := by
  simp only [ofRules, add, String.isEmpty_iff]
  by_cases hput : r.putSignature = "" <;> by_cases hexists : r.existsSignature = "" <;>
    simp [hput, hexists]

/-- The needles of `ofRules r` are the signatures that are not empty, with the bytes of their
texts. -/
theorem mem_needles_ofRules_iff (r : Rules) (n : Needle) :
    n ∈ (ofRules r).needles ↔
      r.textOf n.signature ≠ "" ∧ n.bytes = Text.bytes (r.textOf n.signature) := by
  obtain ⟨s, bytes⟩ := n
  rw [ofRules_eq]
  cases s <;> by_cases hput : r.putSignature = "" <;> by_cases hexists : r.existsSignature = "" <;>
    simp [Rules.textOf, hput, hexists]

private lemma bytes_ne_nil_of_mem_ofRules {r : Rules} {n : Needle}
    (h : n ∈ (ofRules r).needles) : n.bytes ≠ [] := by
  obtain ⟨hne, hbytes⟩ := (mem_needles_ofRules_iff r n).mp h
  intro hnil
  apply hne
  apply Text.bytes_injective
  rw [← hbytes, hnil]
  rfl

/-- The search with the needles of `ofRules r` finds exactly the places that `Occurs`. -/
theorem mem_occurrences_ofRules_iff (r : Rules) (line : List UInt8) (o : Occurrence) :
    o ∈ (ofRules r).occurrences line ↔ (ofRules r).Occurs line o :=
  mem_occurrences_iff (ofRules r) (fun _ h => bytes_ne_nil_of_mem_ofRules h) line o

/-- A signature `s` is found in `line` if its text is not empty and `line` contains it. -/
private lemma finds_iff_contains {r : Rules} {line : String} {found : List Occurrence}
    (hfound : ∀ o, o ∈ found ↔ (ofRules r).Occurs (Text.bytes line) o) (s : Signature) :
    (ofRules r).Finds found s ↔ r.textOf s ≠ "" ∧ Contains line (r.textOf s) := by
  constructor
  · intro h
    obtain ⟨o, ho, hs⟩ := h
    obtain ⟨n, before, after, hn, hline, -⟩ := (hfound o).mp ho
    rw [signature?, hn, Option.map_some, Option.some.injEq] at hs
    obtain ⟨hne, hbytes⟩ := (mem_needles_ofRules_iff r n).mp (List.mem_of_getElem? hn)
    rw [hs] at hne hbytes
    refine ⟨hne, (bytes_isInfix_iff line _).mp ⟨before, after, ?_⟩⟩
    rw [← hbytes, hline]
  · intro h
    obtain ⟨hne, hcontains⟩ := h
    obtain ⟨before, after, hline⟩ := (bytes_isInfix_iff line _).mpr hcontains
    have hmem : (⟨s, Text.bytes (r.textOf s)⟩ : Needle) ∈ (ofRules r).needles :=
      (mem_needles_ofRules_iff r _).mpr ⟨hne, rfl⟩
    obtain ⟨i, hi⟩ := List.mem_iff_getElem?.mp hmem
    refine ⟨⟨i, before.length + (Text.bytes (r.textOf s)).length⟩, ?_, ?_⟩
    · exact (hfound _).mpr ⟨_, before, after, hi, hline.symm, rfl⟩
    · rw [signature?, hi]
      rfl

/-- Whatever order the occurrences in `line` are `found` in, the `verdict` on them is the first
signature that `line` contains. -/
theorem verdict_ofRules {r : Rules} {line : String} {found : List Occurrence}
    (hfound : ∀ o, o ∈ found ↔ (ofRules r).Occurs (Text.bytes line) o) :
    (ofRules r).verdict found =
      if Contains line r.putSignature then some .putMethod
      else if Contains line r.existsSignature then some .existsMethod
      else none := by
  have hput := finds_iff_contains hfound .putMethod
  have hexists := finds_iff_contains hfound .existsMethod
  have hempty : ∀ part : String, part = "" → Contains line part := by
    intro part hpart
    rw [Contains, hpart]
    exact List.nil_infix
  simp only [Rules.textOf] at hput hexists
  have heverywhere : (ofRules r).everywhere =
      if r.putSignature = "" then some .putMethod
      else if r.existsSignature = "" then some .existsMethod
      else none := by
    rw [ofRules_eq]
  rw [verdict, pick_eq, heverywhere]
  simp only [hput, hexists]
  -- an empty signature is in every line and no needle
  by_cases h : r.putSignature = ""
  · simp [h, hempty]
  · by_cases h' : r.existsSignature = ""
    · simp [h, h', hempty]
    · simp [h, h']

/-- The signature that `classify` gives is the first one that `line` contains. -/
theorem classify_ofRules (r : Rules) (line : String) :
    (ofRules r).classify line =
      if Contains line r.putSignature then some .putMethod
      else if Contains line r.existsSignature then some .existsMethod
      else none :=
  verdict_ofRules fun o => mem_occurrences_ofRules_iff r (Text.bytes line) o

/-! ## Any search -/

/-- What a search for `patterns` may report of `line`: every place of every pattern, in any order
and however often, and nothing else. -/
def IsSearch (patterns : List (List UInt8)) (line : List UInt8) (found : List Occurrence) : Prop :=
  ∀ o, o ∈ found ↔ ∃ pattern before after,
    patterns[o.needle]? = some pattern ∧ line = before ++ pattern ++ after
      ∧ o.stop = before.length + pattern.length

/-- The patterns of `m` by their numbers. -/
def patterns (m : Matcher) : List (List UInt8) :=
  m.needles.map Needle.bytes

/-- The signatures that the `patterns` stand for, by the same numbers. -/
def kinds (m : Matcher) : List Signature :=
  m.needles.map Needle.signature

/-- An `IsSearch` for the `patterns` of `m` reports what `Occurs`. -/
lemma isSearch_patterns_iff (m : Matcher) (line : List UInt8) (found : List Occurrence) :
    IsSearch m.patterns line found ↔ ∀ o, o ∈ found ↔ m.Occurs line o := by
  have hplace : ∀ o : Occurrence, m.Occurs line o ↔ ∃ pattern before after,
      m.patterns[o.needle]? = some pattern ∧ line = before ++ pattern ++ after
        ∧ o.stop = before.length + pattern.length := by
    intro o
    rw [patterns, List.getElem?_map]
    constructor
    · intro h
      obtain ⟨n, before, after, hn, hline, hstop⟩ := h
      exact ⟨n.bytes, before, after, by rw [hn, Option.map_some], hline, hstop⟩
    · intro h
      obtain ⟨pattern, before, after, hpattern, hline, hstop⟩ := h
      obtain ⟨n, hn, rfl⟩ := Option.map_eq_some_iff.mp hpattern
      exact ⟨n, before, after, hn, hline, hstop⟩
  simp only [IsSearch, hplace]

/-- What `occurrences` finds is what a search reports, and may come in any order. -/
lemma isSearch_of_perm {r : Rules} {line : List UInt8} {found : List Occurrence}
    (h : found.Perm ((ofRules r).occurrences line)) : IsSearch (ofRules r).patterns line found := by
  rw [isSearch_patterns_iff]
  intro o
  rw [h.mem_iff, mem_occurrences_ofRules_iff]

/-- The number of every place that is reported is that of one of the `kinds`, and at this place the
text of the signature stands in `line`. -/
theorem exists_kind_of_mem {r : Rules} {line : String} {found : List Occurrence}
    (h : IsSearch (ofRules r).patterns (Text.bytes line) found) {o : Occurrence} (ho : o ∈ found) :
    ∃ s, (ofRules r).kinds[o.needle]? = some s ∧ r.textOf s ≠ ""
      ∧ ∃ before after, line = before ++ r.textOf s ++ after
        ∧ o.stop = (Text.bytes (before ++ r.textOf s)).length := by
  obtain ⟨n, before, after, hn, hline, hstop⟩ := ((isSearch_patterns_iff _ _ _).mp h o).mp ho
  obtain ⟨hne, hbytes⟩ := (mem_needles_ofRules_iff r n).mp (List.mem_of_getElem? hn)
  rw [hbytes] at hline hstop
  obtain ⟨s, t, hwhole, hs⟩ := Text.exists_append_of_bytes_eq hne hline
  refine ⟨n.signature, by rw [kinds, List.getElem?_map, hn, Option.map_some], hne, s, t, hwhole, ?_⟩
  rw [hstop, Text.bytes_append, List.length_append, hs]

/-- Whatever a search reports of `line`, in whatever order, the `verdict` on it is put if the line
contains `putSignature`, otherwise exists if it contains `existsSignature`, and otherwise none.
Every number it reports is that of the signature that stands in the line there. -/
theorem verdict_of_isSearch {r : Rules} {line : String} {found : List Occurrence}
    (h : IsSearch (ofRules r).patterns (Text.bytes line) found) :
    ((ofRules r).verdict found =
        if Contains line r.putSignature then some .putMethod
        else if Contains line r.existsSignature then some .existsMethod
        else none)
      ∧ (ofRules r).classify line = (ofRules r).verdict found
      ∧ ∀ o ∈ found, ∃ s, (ofRules r).kinds[o.needle]? = some s ∧ r.textOf s ≠ ""
        ∧ ∃ before after, line = before ++ r.textOf s ++ after
          ∧ o.stop = (Text.bytes (before ++ r.textOf s)).length := by
  have hoccurs := (isSearch_patterns_iff (ofRules r) (Text.bytes line) found).mp h
  have hverdict := verdict_ofRules hoccurs
  refine ⟨hverdict, ?_, fun o ho => exists_kind_of_mem h ho⟩
  rw [hverdict, classify_ofRules]

/-- The put signature wins among overlapping places of the exists signature, however these are
ordered. If one signature is empty, the other is the only one of the `patterns`: the exists
signature then has the number that the put signature has otherwise. -/
theorem verdict_of_isSearch_anyOrder :
    let both := { Rules.default with putSignature := "ab", existsSignature := "a" }
    let onlyPut := { Rules.default with putSignature := "b", existsSignature := "" }
    let onlyExists := { Rules.default with putSignature := "", existsSignature := "a" }
    (ofRules both).verdict [⟨1, 2⟩, ⟨0, 3⟩, ⟨1, 1⟩] = some .putMethod
      ∧ (ofRules both).kinds = [.putMethod, .existsMethod]
      ∧ (ofRules onlyPut).verdict [] = some .existsMethod
      ∧ (ofRules onlyPut).kinds = [.putMethod]
      ∧ (ofRules onlyExists).verdict [⟨0, 2⟩, ⟨0, 1⟩] = some .putMethod
      ∧ (ofRules onlyExists).kinds = [.existsMethod] := by
  intro both onlyPut onlyExists
  have hboth : IsSearch (ofRules both).patterns (Text.bytes "aab") [⟨1, 2⟩, ⟨0, 3⟩, ⟨1, 1⟩] :=
    isSearch_of_perm (by decide)
  have honlyPut : IsSearch (ofRules onlyPut).patterns (Text.bytes "aa") [] :=
    isSearch_of_perm (by decide)
  have honlyExists : IsSearch (ofRules onlyExists).patterns (Text.bytes "aab") [⟨0, 2⟩, ⟨0, 1⟩] :=
    isSearch_of_perm (by decide)
  refine ⟨?_, rfl, ?_, rfl, ?_, rfl⟩
  · rw [(verdict_of_isSearch hboth).1]
    decide
  · rw [(verdict_of_isSearch honlyPut).1]
    decide
  · rw [(verdict_of_isSearch honlyExists).1]
    decide

end Matcher

end LineLandmarks
