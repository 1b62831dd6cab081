import LineLandmarks.Proofs.Toml.Reading
import LineLandmarks.Proofs.Toml.Remainder

/-!
# Refused documents

A document is refused for one spot in it: the lines before the spot are read, and the line there is
no statement or contradicts the statements before it. What those statements are about does not
matter, and whatever follows the spot is not looked at (`parse?_eq_none_iff`).
-/

namespace LineLandmarks.Toml

/-! ## Lines up to a spot -/

namespace Statement

/-- The relation `ReadsTo bound s before spot` holds if the lines of `s` up to `spot` are read, and
`before` are the statements on them. -/
inductive ReadsTo (bound : ℕ) : List Char → List Statement → List Char → Prop
  | start (s : List Char) : ReadsTo bound s [] s
  | line {s rest spot : List Char} {first : Option Statement} {later : List Statement}
    (hs : s ≠ []) (hline : line? bound s = some (first, rest))
    (h : ReadsTo bound rest later spot) : ReadsTo bound s (first.toList ++ later) spot

namespace ReadsTo

variable {bound : ℕ} {s spot : List Char} {before statements : List Statement}

/-- Lines up to the end go through every spot on the way. -/
lemma exists_later (h : ReadsTo bound s before spot) (hall : ReadsTo bound s statements []) :
    ∃ later, statements = before ++ later ∧ ReadsTo bound spot later [] := by
  induction h generalizing statements with
  | start s => exact ⟨statements, rfl, hall⟩
  | line hs hline h ih =>
    cases hall with
    | start => exact absurd rfl hs
    | line _ hline' hrest =>
      -- a line is read in one way
      obtain ⟨rfl, rfl⟩ := Prod.mk.inj (Option.some.inj (hline.symm.trans hline'))
      obtain ⟨later, hlater, hspot⟩ := ih hrest
      exact ⟨later, by rw [hlater, List.append_assoc], hspot⟩

end ReadsTo

/-- The reader `readAll?` reads to the end or to a line that it cannot read; more lines than
characters are not needed. -/
lemma readAll?_cases (bound : ℕ) {lines : ℕ} {s : List Char} (h : s.length ≤ lines) :
    (∃ statements, readAll? bound lines s = some statements ∧ ReadsTo bound s statements [])
      ∨ readAll? bound lines s = none
        ∧ ∃ before spot, ReadsTo bound s before spot ∧ spot ≠ [] ∧ line? bound spot = none := by
  induction lines, s using readAll?.induct bound with
  | case1 lines => exact Or.inl ⟨[], by rw [readAll?], .start []⟩
  | case2 c s => exact absurd h (Nat.not_succ_le_zero _)
  | case3 lines s hs hline =>
    have hread : readAll? bound (lines + 1) s = none := by
      rw [readAll?, hline]
      exact hs
    exact Or.inr ⟨hread, [], s, .start s, hs, hline⟩
  | case4 lines s hs first rest hline ih =>
    have hread : readAll? bound (lines + 1) s
        = (readAll? bound lines rest).map fun later => first.toList ++ later := by
      rw [readAll?, hline]
      exact hs
    have hrest : rest.length ≤ lines := by
      have hlt := length_line?_lt hline hs
      omega
    rw [hread]
    rcases ih hrest with ⟨later, hsome, hall⟩ | ⟨hnone, before, spot, hbefore, hspot⟩
    · exact Or.inl ⟨first.toList ++ later, by rw [hsome, Option.map_some], .line hs hline hall⟩
    · exact Or.inr ⟨by rw [hnone, Option.map_none], _, spot, .line hs hline hbefore, hspot⟩

end Statement

/-! ## Statements that contradict -/

/-- The block `b` with `more` assignments below it. -/
def Block.extend (b : Block) (more : List Assignment) : Block :=
  { b with body := b.body ++ more }

@[simp] lemma Block.key_extend (b : Block) (more : List Assignment) :
    (b.extend more).key = b.key := rfl

@[simp] lemma Block.repeated_extend (b : Block) (more : List Assignment) :
    (b.extend more).repeated = b.repeated := rfl

@[simp] lemma Block.body_extend (b : Block) (more : List Assignment) :
    (b.extend more).body = b.body ++ more := rfl

/-- Statements `more` behind `l` extend the last block of `l` up to the next header, or the
assignments at the top if there is no block yet. -/
lemma blocks_append (l more : List Statement) :
    ((blocks l).2 = [] ∧ blocks (l ++ more) = ((blocks l).1 ++ (blocks more).1, (blocks more).2))
      ∨ ∃ init last, (blocks l).2 = init ++ [last]
        ∧ blocks (l ++ more)
          = ((blocks l).1, init ++ last.extend (blocks more).1 :: (blocks more).2) := by
  induction l with
  | nil => exact Or.inl ⟨rfl, rfl⟩
  | cons statement l ih =>
    -- a header makes a block of the assignments so far, which is the last one or stands before it
    have hblock (repeated : Bool) (key : Key) :
        ∃ init last, ⟨repeated, key, (blocks l).1⟩ :: (blocks l).2 = init ++ [last]
          ∧ ⟨repeated, key, (blocks (l ++ more)).1⟩ :: (blocks (l ++ more)).2
            = init ++ last.extend (blocks more).1 :: (blocks more).2 := by
      rcases ih with ⟨hnil, happend⟩ | ⟨init, last, hlast, happend⟩
      · exact ⟨[], ⟨repeated, key, (blocks l).1⟩, by rw [hnil]; rfl, by rw [happend]; rfl⟩
      · exact ⟨⟨repeated, key, (blocks l).1⟩ :: init, last, by rw [hlast]; rfl,
          by rw [happend]; rfl⟩
    cases statement with
    | assign a =>
      rcases ih with ⟨hnil, happend⟩ | ⟨init, last, hlast, happend⟩
      · exact Or.inl ⟨hnil, by rw [List.cons_append, blocks, happend]; rfl⟩
      · exact Or.inr ⟨init, last, hlast, by rw [List.cons_append, blocks, happend]; rfl⟩
    | table key =>
      obtain ⟨init, last, hlast, happend⟩ := hblock false key
      exact Or.inr ⟨init, last, hlast, by rw [List.cons_append, blocks, ← happend]; rfl⟩
    | arrayTable key =>
      obtain ⟨init, last, hlast, happend⟩ := hblock true key
      exact Or.inr ⟨init, last, hlast, by rw [List.cons_append, blocks, ← happend]; rfl⟩

namespace Entries

lemma assignAll_append_eq_none {e : Entries} {as : List Assignment} (h : assignAll e as = none)
    (more : List Assignment) : assignAll e (as ++ more) = none := by
  rw [assignAll] at h ⊢
  rw [List.foldlM_append, h]
  rfl

private lemma bind_eq_none_of_imp {α β : Type} {x y : Option α} {f : α → β}
    (hxy : x = none → y = none) (h : (x.bind fun a => some (f a)) = none) :
    (y.bind fun a => some (f a)) = none := by
  cases x with
  | none => rw [hxy rfl, Option.bind_none]
  | some a => exact nomatch h

/-- Where `change` cannot be made, `change'` cannot either if it fails wherever `change` does. -/
lemma within_eq_none {made : TableOrigin} {enter : TableOrigin → Bool}
    {change change' : TableOrigin → Entries → Option Entries}
    (hchange : ∀ origin e, change origin e = none → change' origin e = none)
    {path : List String} {origin : TableOrigin} {e : Entries}
    (h : within made enter change path origin e = none) :
    within made enter change' path origin e = none := by
  induction path generalizing origin e with
  | nil => exact hchange origin e h
  | cons name path ih =>
    rw [within] at h ⊢
    cases hlookup : e.lookup name with
    | none =>
      rw [hlookup] at h
      exact bind_eq_none_of_imp ih h
    | some v =>
      rw [hlookup] at h
      cases v with
      | table o t =>
        simp only at h ⊢
        split at h
        · next henter =>
          rw [if_pos henter]
          exact bind_eq_none_of_imp ih h
        · next henter => rw [if_neg henter]
      | tableArray tables =>
        simp only at h ⊢
        split at h
        · exact bind_eq_none_of_imp ih h
        · rfl
      | _ => rfl

lemma openTable_extend_eq_none {e : Entries} {b : Block} (h : openTable b e = none)
    (more : List Assignment) : openTable (b.extend more) e = none := by
  rw [openTable] at h ⊢
  rw [Block.key_extend, Block.body_extend]
  split
  · next hlookup =>
    rw [hlookup] at h
    exact bind_eq_none_of_imp (assignAll_append_eq_none · more) h
  · next hlookup =>
    rw [hlookup] at h
    exact bind_eq_none_of_imp (assignAll_append_eq_none · more) h
  · rfl

lemma openArrayTable_extend_eq_none {e : Entries} {b : Block} (h : openArrayTable b e = none)
    (more : List Assignment) : openArrayTable (b.extend more) e = none := by
  rw [openArrayTable] at h ⊢
  rw [Block.key_extend, Block.body_extend]
  split
  · next hlookup =>
    rw [hlookup] at h
    exact bind_eq_none_of_imp (assignAll_append_eq_none · more) h
  · next hlookup =>
    rw [hlookup] at h
    exact bind_eq_none_of_imp (assignAll_append_eq_none · more) h
  · rfl

/-- A header that `openBlock` cannot open with some assignments cannot be opened with more of
them. -/
lemma openBlock_extend_eq_none {e : Entries} {b : Block} (h : openBlock e b = none)
    (more : List Assignment) : openBlock e (b.extend more) = none := by
  refine within_eq_none ?_ h
  intro origin e hnone
  rw [Block.repeated_extend]
  split
  · next hb =>
    rw [if_pos hb] at hnone
    exact openArrayTable_extend_eq_none hnone more
  · next hb =>
    rw [if_neg hb] at hnone
    exact openTable_extend_eq_none hnone more

/-- Statements that `ofStatements?` refuses are refused whatever statements follow. -/
theorem ofStatements?_append_eq_none {l : List Statement} (h : ofStatements? l = none)
    (more : List Statement) : ofStatements? (l ++ more) = none := by
  have heq (l : List Statement) : ofStatements? l
      = (assignAll [] (blocks l).1).bind fun top => (blocks l).2.foldlM openBlock top := rfl
  rw [heq] at h ⊢
  cases hbody : assignAll [] (blocks l).1 with
  | none =>
    rcases blocks_append l more with ⟨-, happend⟩ | ⟨init, last, -, happend⟩
    · rw [happend, assignAll_append_eq_none hbody, Option.bind_none]
    · rw [happend, hbody, Option.bind_none]
  | some top =>
    rw [hbody, Option.bind_some] at h
    -- assignments at the top cannot fail any more, so it is a header that cannot be opened
    rcases blocks_append l more with ⟨hnil, -⟩ | ⟨init, last, hlast, happend⟩
    · rw [hnil] at h
      exact nomatch h
    · rw [happend, hbody, Option.bind_some, List.foldlM_append]
      rw [hlast, List.foldlM_append] at h
      cases hinit : init.foldlM openBlock top with
      | none => rfl
      | some e =>
        rw [hinit] at h
        have hopen : openBlock e last = none := by
          cases hopen : openBlock e last with
          | none => rfl
          | some e' => simp [List.foldlM_cons, hopen] at h
        simp only [bind, Option.bind_some, List.foldlM_cons, openBlock_extend_eq_none hopen,
          Option.bind_none]

end Entries

/-! ## Bad spots -/

/-- A `text` has a bad spot if the lines up to the spot are read, and the one there is not a line of
a document, or the statement on it contradicts those before, so that `ofStatements?` refuses them
together. -/
def HasBadSpot (text : String) : Prop :=
  let s := skipByteOrderMark text.toList
  ∃ before spot, Statement.ReadsTo s.length s before spot ∧ spot ≠ []
    ∧ ∀ first rest, Statement.line? s.length spot = some (first, rest) →
      Entries.ofStatements? (before ++ first.toList) = none

open Statement (ReadsTo line?)

/-- If statements contradict, there is a first one that contradicts those `before` and `between`. -/
private lemma exists_contradiction {bound : ℕ} {s spot : List Char} {later : List Statement}
    (h : ReadsTo bound s later spot) {before : List Statement}
    (hbefore : Entries.ofStatements? before ≠ none)
    (hlater : Entries.ofStatements? (before ++ later) = none) :
    ∃ between line first rest, ReadsTo bound s between line ∧ line ≠ []
      ∧ line? bound line = some (first, rest)
      ∧ Entries.ofStatements? (before ++ (between ++ first.toList)) = none := by
  induction h generalizing before with
  | start s =>
    rw [List.append_nil] at hlater
    exact absurd hlater hbefore
  | @line s rest spot first later hs hline h ih =>
    cases hfirst : Entries.ofStatements? (before ++ first.toList) with
    | none => exact ⟨[], s, first, rest, .start s, hs, hline, hfirst⟩
    | some e =>
      rw [← List.append_assoc] at hlater
      obtain ⟨between, line, next, rest', hread, hne, hline', hnone⟩ :=
        ih (by rw [hfirst]; exact nofun) hlater
      refine ⟨first.toList ++ between, line, next, rest', .line hs hline hread, hne, hline', ?_⟩
      rw [List.append_assoc] at hnone ⊢
      exact hnone

/-- The reader `parse?` refuses `text` exactly if it has a bad spot. -/
theorem parse?_eq_none_iff (text : String) : parse? text = none ↔ HasBadSpot text := by
  rw [parse?_eq_bind, statements?, HasBadSpot]
  generalize skipByteOrderMark text.toList = s
  constructor
  · intro hnone
    rcases Statement.readAll?_cases s.length (Nat.le_refl s.length)
      with ⟨statements, hread, hall⟩ | ⟨-, before, spot, hbefore, hspot, hline⟩
    · rw [hread, Option.bind_some] at hnone
      have hstart : Entries.ofStatements? [] ≠ none := Option.some_ne_none []
      obtain ⟨before, line, first, rest, hbefore, hne, hline, hcontradicts⟩ :=
        exists_contradiction hall hstart (by rwa [List.nil_append])
      refine ⟨before, line, hbefore, hne, ?_⟩
      intro first' rest' hline'
      obtain ⟨rfl, -⟩ := Prod.mk.inj (Option.some.inj (hline.symm.trans hline'))
      exact hcontradicts
    · refine ⟨before, spot, hbefore, hspot, ?_⟩
      intro first rest hsome
      rw [hline] at hsome
      exact nomatch hsome
  · intro hbad
    obtain ⟨before, spot, hbefore, hne, hspot⟩ := hbad
    rcases Statement.readAll?_cases s.length (Nat.le_refl s.length)
      with ⟨statements, hread, hall⟩ | ⟨hread, -⟩
    · rw [hread, Option.bind_some]
      -- the lines to the end go through the spot, so the statements start with those there
      obtain ⟨later, hlater, hrest⟩ := hbefore.exists_later hall
      cases hrest with
      | start => exact absurd rfl hne
      | line _ hline hrest =>
        rw [hlater, ← List.append_assoc]
        exact Entries.ofStatements?_append_eq_none (hspot _ _ hline) _
    · rw [hread, Option.bind_none]

end LineLandmarks.Toml
