import Mathlib.Data.Nat.Notation
import LineLandmarks.Proofs.Toml.Entries

/-!
# The order of entries

Statements mention the entries of a table: each names the entry it leads to, and one statement at
most is the header of that entry's own table. The entries of a table stand in the order of their
places: an entry with a header of its own has its place there, any other where it is first
mentioned (`Traces`). This is shown for the entries at the top of a document and for those of the
tables among them.
-/

namespace LineLandmarks.Toml

/-! ## Mentions and places -/

/-- An entry mentioned by `name`, perhaps by the header of its `own` table. -/
structure Mention where
  name : String
  own : Bool
  deriving DecidableEq, Repr

/-- Where `name` is mentioned first in `ms`. -/
def firstPlace (ms : List Mention) (name : String) : ℕ :=
  ms.findIdx fun m => m.name == name

/-- Where the header of the own table of `name` is in `ms`, or else where `name` is mentioned
first. -/
def place (ms : List Mention) (name : String) : ℕ :=
  if ⟨name, true⟩ ∈ ms then ms.idxOf ⟨name, true⟩ else firstPlace ms name

/-- Some mention in `ms` is of `name`. -/
def Mentions (ms : List Mention) (name : String) : Prop :=
  ∃ m ∈ ms, m.name = name

@[simp] lemma mentions_append {ms ns : List Mention} {name : String} :
    Mentions (ms ++ ns) name ↔ Mentions ms name ∨ Mentions ns name := by
  simp only [Mentions, List.mem_append]
  constructor
  · intro h
    obtain ⟨m, hm | hm, hname⟩ := h
    · exact Or.inl ⟨m, hm, hname⟩
    · exact Or.inr ⟨m, hm, hname⟩
  · intro h
    rcases h with h | h
    · obtain ⟨m, hm, hname⟩ := h
      exact ⟨m, Or.inl hm, hname⟩
    · obtain ⟨m, hm, hname⟩ := h
      exact ⟨m, Or.inr hm, hname⟩

@[simp]
lemma mentions_singleton {m : Mention} {name : String} : Mentions [m] name ↔ m.name = name := by
  simp [Mentions]

private lemma firstPlace_lt {ms : List Mention} {name : String} (h : Mentions ms name) :
    firstPlace ms name < ms.length := by
  obtain ⟨m, hm, hname⟩ := h
  exact List.findIdx_lt_length_of_exists ⟨m, hm, by simpa using hname⟩

lemma place_lt {ms : List Mention} {name : String} (h : Mentions ms name) :
    place ms name < ms.length := by
  rw [place]
  split
  · next hown => exact List.idxOf_lt_length_iff.mpr hown
  · exact firstPlace_lt h

/-- The `place` of a name that was mentioned before stays, unless its own header follows. -/
lemma place_append_of_mentions {ms : List Mention} {name : String} (h : Mentions ms name)
    {m : Mention} (hm : m ≠ ⟨name, true⟩) : place (ms ++ [m]) name = place ms name := by
  -- the header of the name's own table was there before, or it is still missing
  by_cases hown : ⟨name, true⟩ ∈ ms
  · rw [place, place, if_pos (List.mem_append_left _ hown), if_pos hown, List.idxOf_append,
      if_pos hown]
  · have hnot : ⟨name, true⟩ ∉ ms ++ [m] := by
      rw [List.mem_append, List.mem_singleton]
      intro hmem
      rcases hmem with hmem | hmem
      · exact hown hmem
      · exact hm hmem.symm
    have hlt := firstPlace_lt h
    rw [place, place, if_neg hnot, if_neg hown, firstPlace, List.findIdx_append]
    exact if_pos hlt

/-- The header of its own table is the `place` of a name. -/
lemma place_append_own {ms : List Mention} {name : String} (h : ⟨name, true⟩ ∉ ms) :
    place (ms ++ [⟨name, true⟩]) name = ms.length := by
  have hmem : (⟨name, true⟩ : Mention) ∈ ms ++ [⟨name, true⟩] := by simp
  rw [place, if_pos hmem, List.idxOf_append, if_neg h, List.idxOf_cons_self, Nat.zero_add]

/-- A new name has its `place` where it is mentioned. -/
lemma place_append_new {ms : List Mention} {name : String} (h : ¬ Mentions ms name) (own : Bool) :
    place (ms ++ [⟨name, own⟩]) name = ms.length := by
  have hnot : ⟨name, true⟩ ∉ ms := fun hmem => h ⟨_, hmem, rfl⟩
  cases own with
  | true => exact place_append_own hnot
  | false =>
    have hlength : firstPlace ms name = ms.length := by
      rw [firstPlace, List.findIdx_eq_length]
      intro m hm
      rw [beq_eq_false_iff_ne]
      intro hname
      exact h ⟨m, hm, hname⟩
    have hnot' : (⟨name, true⟩ : Mention) ∉ ms ++ [⟨name, false⟩] := by simpa using hnot
    rw [place, if_neg hnot', firstPlace, List.findIdx_append]
    rw [firstPlace] at hlength
    rw [hlength, if_neg (Nat.lt_irrefl _)]
    simp

/-! ## Entries in the order of their places -/

open Entries

/-- The entries `e` come from the mentions `ms`: they have the names that are mentioned, in the
order of their `place`, and a name whose own header is among the mentions has a table made by it. -/
structure Traces (ms : List Mention) (e : Entries) : Prop where
  mem_iff : ∀ name, name ∈ names e ↔ Mentions ms name
  sorted : (names e).Pairwise fun a b => place ms a < place ms b
  headed : ∀ name, ⟨name, true⟩ ∈ ms → ∃ t, e.lookup name = some (.table .header t)

namespace Traces

variable {ms : List Mention} {e : Entries} {name : String}

lemma nil : Traces [] [] where
  mem_iff name := by simp [Mentions]
  sorted := List.Pairwise.nil
  headed name h := nomatch h

/-- No two entries of `e` have one name. -/
lemma nodup (h : Traces ms e) : (names e).Nodup :=
  h.sorted.imp fun hlt heq => by
    rw [heq] at hlt
    exact Nat.lt_irrefl _ hlt

/-- The mention `⟨name, true⟩` is not in `ms` if `name` has no table made by its own header. -/
private lemma notMem_of_lookup (h : Traces ms e)
    (hlookup : ∀ t, e.lookup name ≠ some (.table .header t)) : ⟨name, true⟩ ∉ ms := by
  intro hmem
  obtain ⟨t, ht⟩ := h.headed name hmem
  exact hlookup t ht

/-- The order by `place` of names `l` in `e` stays when a mention `m` follows that is no own header
of theirs. -/
private lemma sorted_append (h : Traces ms e) {m : Mention} {l : List String}
    (hl : l.Sublist (names e)) (hm : ∀ a ∈ l, m ≠ ⟨a, true⟩) :
    l.Pairwise fun a b => place (ms ++ [m]) a < place (ms ++ [m]) b := by
  refine (h.sorted.sublist hl).imp_of_mem ?_
  intro a b ha hb hlt
  have hmentions : ∀ a ∈ l, Mentions ms a := fun a ha => (h.mem_iff a).mp (hl.subset ha)
  rw [place_append_of_mentions (hmentions a ha) (hm a ha),
    place_append_of_mentions (hmentions b hb) (hm b hb)]
  exact hlt

/-- A `name` at the end of `l`, with its `place` at the last mention, keeps the order. -/
private lemma sorted_concat (h : Traces ms e) {m : Mention} {l : List String}
    (hl : l.Sublist (names e)) (hm : ∀ a ∈ l, m ≠ ⟨a, true⟩)
    (hplace : place (ms ++ [m]) name = ms.length) :
    (l ++ [name]).Pairwise fun a b => place (ms ++ [m]) a < place (ms ++ [m]) b := by
  refine List.pairwise_append.mpr ⟨h.sorted_append hl hm, List.pairwise_singleton _ _, ?_⟩
  intro a ha b hb
  have hmentions := (h.mem_iff a).mp (hl.subset ha)
  rw [List.mem_singleton.mp hb, hplace, place_append_of_mentions hmentions (hm a ha)]
  exact place_lt hmentions

private lemma mentions_append_iff (h : Traces ms e) {own : Bool} {other : String} :
    Mentions (ms ++ [⟨name, own⟩]) other ↔ other ∈ names e ∨ other = name := by
  rw [mentions_append, mentions_singleton, ← h.mem_iff]
  exact or_congr Iff.rfl eq_comm

/-- A new `name` is added at the end. -/
lemma append (h : Traces ms e) (hlookup : e.lookup name = none) {own : Bool} {v : Value}
    (hv : own = true → ∃ t, v = .table .header t) :
    Traces (ms ++ [⟨name, own⟩]) (Entries.append e name v) := by
  have hnot : name ∉ names e := lookup_eq_none_iff_notMem.mp hlookup
  have hnew : ¬ Mentions ms name := fun hmem => hnot ((h.mem_iff name).mpr hmem)
  refine ⟨?_, ?_, ?_⟩
  · intro other
    rw [names_append, List.mem_append, List.mem_singleton, h.mentions_append_iff]
  · rw [names_append]
    -- the new name has the last place
    refine h.sorted_concat (List.Sublist.refl _) ?_ (place_append_new hnew own)
    intro a ha heq
    rw [← (Mention.mk.inj heq).1] at ha
    exact hnot ha
  · intro other hmem
    rw [List.mem_append, List.mem_singleton] at hmem
    rcases hmem with hmem | hmem
    · have hne : other ≠ name := by
        intro heq
        rw [heq] at hmem
        exact hnew ⟨_, hmem, rfl⟩
      rw [lookup_append_of_ne hne]
      exact h.headed other hmem
    · obtain ⟨hname, hown⟩ := Mention.mk.inj hmem
      obtain ⟨t, ht⟩ := hv hown.symm
      rw [hname, lookup_append_self hnot, ht]
      exact ⟨t, rfl⟩

/-- A `name` that is there already is mentioned once more. -/
lemma again (h : Traces ms e) (hname : name ∈ names e) : Traces (ms ++ [⟨name, false⟩]) e := by
  have hne : ∀ a, (⟨name, false⟩ : Mention) ≠ ⟨a, true⟩ := by
    intro a heq
    exact nomatch (Mention.mk.inj heq).2
  refine ⟨?_, h.sorted_append (List.Sublist.refl _) fun a _ => hne a, ?_⟩
  · intro other
    rw [h.mentions_append_iff]
    constructor
    · exact Or.inl
    · intro hother
      rcases hother with hother | hother
      · exact hother
      · rw [hother]
        exact hname
  · intro other hmem
    rw [List.mem_append, List.mem_singleton] at hmem
    rcases hmem with hmem | hmem
    · exact h.headed other hmem
    · exact absurd hmem.symm (hne other)

/-- The value of a `name` that is there already is changed. -/
lemma replace (h : Traces ms e) {v w : Value} (hlookup : e.lookup name = some w)
    (hv : ∀ t, w = .table .header t → ∃ t, v = .table .header t) :
    Traces (ms ++ [⟨name, false⟩]) (Entries.replace name v e) := by
  have hname : name ∈ names e := mem_names_of_lookup hlookup
  have hagain := h.again hname
  refine ⟨?_, ?_, ?_⟩
  · rw [names_replace]
    exact hagain.mem_iff
  · rw [names_replace]
    exact hagain.sorted
  · intro other hmem
    obtain ⟨t, ht⟩ := hagain.headed other hmem
    by_cases heq : other = name
    · rw [heq] at ht ⊢
      rw [hlookup] at ht
      obtain ⟨u, hu⟩ := hv t (Option.some.inj ht)
      rw [lookup_replace_self hname, hu]
      exact ⟨u, rfl⟩
    · rw [lookup_replace_of_ne heq]
      exact ⟨t, ht⟩

/-- A table that is only a `parent` so far moves to the end at its own header. -/
lemma move (h : Traces ms e) {t : Entries} (hlookup : e.lookup name = some (.table .parent t))
    (u : Entries) :
    Traces (ms ++ [⟨name, true⟩])
      (Entries.append (erase name e) name (.table .header u)) := by
  have hname : name ∈ names e := mem_names_of_lookup hlookup
  have hown : ⟨name, true⟩ ∉ ms := by
    refine h.notMem_of_lookup fun t heq => ?_
    rw [hlookup] at heq
    exact nomatch heq
  have hnot : name ∉ names (erase name e) := by
    rw [names_erase]
    exact h.nodup.not_mem_erase
  refine ⟨?_, ?_, ?_⟩
  · intro other
    rw [names_append, names_erase, List.mem_append, List.mem_singleton, h.mentions_append_iff]
    by_cases heq : other = name
    · exact ⟨fun _ => Or.inr heq, fun _ => Or.inr heq⟩
    · rw [List.mem_erase_of_ne heq]
  · rw [names_append]
    -- the other names keep their places, and the last place is the header's
    refine h.sorted_concat ?_ ?_ (place_append_own hown)
    · rw [names_erase]
      exact List.erase_sublist
    · intro a ha heq
      rw [← (Mention.mk.inj heq).1] at ha
      exact hnot ha
  · intro other hmem
    rw [List.mem_append, List.mem_singleton] at hmem
    rcases hmem with hmem | hmem
    · have hne : other ≠ name := by
        intro heq
        rw [heq] at hmem
        exact hown hmem
      rw [lookup_append_of_ne hne, lookup_erase_of_ne hne]
      exact h.headed other hmem
    · rw [(Mention.mk.inj hmem).1, lookup_append_self hnot]
      exact ⟨u, rfl⟩

end Traces

end LineLandmarks.Toml
