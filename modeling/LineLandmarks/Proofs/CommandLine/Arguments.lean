import LineLandmarks.Main
import Mathlib.Data.List.Nodup
import Mathlib.Data.List.Perm.Basic
import Mathlib.Data.Nat.Notation

/-!
# Arguments in any order

A command line gives some of the arguments, each with a value of its own, in some order and
spelling. What the reader holds after each of them is decided by which ones were given: no value is
taken for anything else, and the one that is not checked yet is as good as stored (`StandsFor`). So
the options do not depend on order and spelling, and an argument that is given once more is refused,
whatever follows (`run_commandLine`).
-/

namespace LineLandmarks.CommandLine

/-- A `Setting` is an argument with its value. -/
inductive Setting where
  | path (p : Path)
  | rules (p : Path)
  | format (f : Format)
  deriving DecidableEq, Repr

/-- How the value of an option is written: `apart`, as the next word, or `attached`, behind `=`. -/
inductive Spelling where
  | apart
  | attached
  deriving DecidableEq, Repr

/-- The name `p` is not taken for an option. -/
def IsName (p : Path) : Prop :=
  p.bytes ≠ [] ∧ p.bytes.head? ≠ some Word.hyphen
  deriving Decidable

namespace Setting

/-- The `argument` that a setting gives. -/
def argument : Setting → Argument
  | path _ => .path
  | rules _ => .rules
  | format _ => .format

/-- The `value` of a setting as it is written. -/
def value : Setting → List UInt8
  | path p => p.bytes
  | rules p => p.bytes
  | format f => Text.bytes f.name

/-- The names in a setting satisfy `IsName`. -/
def IsNamed : Setting → Prop
  | path p => IsName p
  | rules p => IsName p
  | format _ => True

instance : DecidablePred IsNamed
  | path p => inferInstanceAs (Decidable (IsName p))
  | rules p => inferInstanceAs (Decidable (IsName p))
  | format _ => inferInstanceAs (Decidable True)

/-- The `words` of a setting in a `Spelling`. -/
def words : Setting → Spelling → List (List UInt8)
  | path p, _ => [p.bytes]
  | rules p, .apart => [Text.bytes "--rules", p.bytes]
  | rules p, .attached => [Text.bytes "--rules=" ++ p.bytes]
  | format f, .apart => [Text.bytes "--format", Text.bytes f.name]
  | format f, .attached => [Text.bytes "--format=" ++ Text.bytes f.name]

end Setting

/-- The `words` of the settings `l` in their order. -/
def commandLine (l : List (Setting × Spelling)) : List (List UInt8) :=
  l.flatMap fun s => s.1.words s.2

@[simp] lemma commandLine_cons (s : Setting) (spelling : Spelling) (l : List (Setting × Spelling)) :
    commandLine ((s, spelling) :: l) = s.words spelling ++ commandLine l :=
  List.flatMap_cons

/-- The arguments that are chosen, each with a value or left to its default by `none`. -/
structure Choice where
  path : Option Path
  rules : Option Path
  format : Option Format
  deriving DecidableEq, Repr

namespace Choice

/-- The `settings` of the arguments that `c` chooses. -/
def settings (c : Choice) : List Setting :=
  c.path.toList.map .path ++ (c.rules.toList.map .rules ++ c.format.toList.map .format)

/-- The `options` that the choice `c` comes to. -/
def options (c : Choice) : Options where
  path := c.path.getD (.ofString "crates/mediagit-storage/src/s3.rs")
  rules := c.rules
  format := c.format.getD .text

end Choice

/-! ## Forms of words -/

namespace Setting

/-- The `value` of a setting is `plain`: it is not taken for an option. -/
private lemma ofBytes_value {s : Setting} (h : s.IsNamed) :
    Word.ofBytes s.value = .plain s.value := by
  have hname : ∀ {p : Path}, IsName p → Word.ofBytes p.bytes = .plain p.bytes := by
    intro p hp
    obtain ⟨hne, hhead⟩ := hp
    match hbytes : p.bytes with
    | [] => exact absurd hbytes hne
    | [b] => rfl
    | first :: second :: rest =>
      have hfirst : first ≠ Word.hyphen := by
        intro heq
        exact hhead (by rw [hbytes, heq, List.head?_cons])
      rw [Word.ofBytes, if_neg hfirst]
  cases s with
  | path p => exact hname h
  | rules p => exact hname h
  | format f => cases f <;> rfl

/-- The `words` of a setting by their forms: its `value` alone, or an option with the value. -/
private lemma words_cases (s : Setting) :
    (s.argument = .path ∧ ∀ spelling, s.words spelling = [s.value])
      ∨ ∃ option attached name, s.words .apart = [option, s.value] ∧ s.words .attached = [attached]
        ∧ Word.ofBytes option = .long name none ∧ Word.ofBytes attached = .long name (some s.value)
        ∧ ∀ (r : Reading) value, r.long name value = r.option s.argument value := by
  cases s with
  | path p => exact Or.inl ⟨rfl, fun _ => rfl⟩
  | rules p =>
    exact Or.inr ⟨Text.bytes "--rules", Text.bytes "--rules=" ++ p.bytes, Text.bytes "rules",
      rfl, rfl, rfl, rfl, fun _ _ => rfl⟩
  | format f =>
    exact Or.inr ⟨Text.bytes "--format", Text.bytes "--format=" ++ Text.bytes f.name,
      Text.bytes "format", rfl, rfl, rfl, rfl, fun _ _ => rfl⟩

end Setting

namespace Reading

variable {r q : Reading} {l : List Setting} {s : Setting}

/-! ## Stored values -/

/-- The value of a setting is stored in `q`. -/
def Holds (q : Reading) : Setting → Prop
  | .path p => q.path = some p
  | .rules p => q.rules = some p
  | .format f => q.format = some f

private lemma has_iff (q : Reading) (a : Argument) :
    q.has a = true ↔ ∃ s, q.Holds s ∧ s.argument = a := by
  constructor
  · intro h
    cases a with
    | path =>
      obtain ⟨p, hp⟩ := Option.isSome_iff_exists.mp h
      exact ⟨.path p, hp, rfl⟩
    | rules =>
      obtain ⟨p, hp⟩ := Option.isSome_iff_exists.mp h
      exact ⟨.rules p, hp, rfl⟩
    | format =>
      obtain ⟨f, hf⟩ := Option.isSome_iff_exists.mp h
      exact ⟨.format f, hf, rfl⟩
  · intro h
    obtain ⟨s, hs, rfl⟩ := h
    cases s <;> exact Option.isSome_iff_exists.mpr ⟨_, hs⟩

private lemma store_of_has {a : Argument} (h : q.has a = true) (value : List UInt8) :
    q.store a value = .error (.repeated a) := by
  unfold store
  rw [if_pos h]

/-- A value that is stored is added to those that `q` holds already. -/
private lemma exists_store_eq (hs : s.IsNamed) (hnew : q.has s.argument = false) :
    ∃ q', q.store s.argument s.value = .ok q' ∧ q'.pending = q.pending
      ∧ ∀ t, q'.Holds t ↔ q.Holds t ∨ t = s := by
  have hnone : ∀ {α : Type} {o : Option α}, o.isSome = false → o = none :=
    fun ho => Option.isNone_iff_eq_none.mp (Option.isSome_eq_false_iff.mp ho)
  have hfits : s.value.isEmpty = false := by
    cases s with
    | path p => exact List.isEmpty_eq_false_iff.mpr hs.1
    | rules p => exact List.isEmpty_eq_false_iff.mpr hs.1
    | format f => cases f <;> rfl
  unfold store
  rw [if_neg (by rw [hnew]; exact Bool.false_ne_true),
    if_neg (by rw [hfits]; exact Bool.false_ne_true)]
  -- the place of the value was empty, so no setting of the argument was held before
  cases s with
  | path p =>
    refine ⟨{ q with path := some p }, rfl, rfl, ?_⟩
    intro t
    cases t <;> simp [Holds, hnone hnew, eq_comm]
  | rules p =>
    refine ⟨{ q with rules := some p }, rfl, rfl, ?_⟩
    intro t
    cases t <;> simp [Holds, hnone hnew, eq_comm]
  | format f =>
    refine ⟨{ q with format := some f }, by cases f <;> rfl, rfl, ?_⟩
    intro t
    cases t <;> simp [Holds, hnone hnew, eq_comm]

/-- The step `store` leaves alone what is pending and stores a path if the value is one. -/
private lemma pending_of_store {q' : Reading} {a : Argument} {value : List UInt8}
    (h : q.store a value = .ok q') :
    q'.pending = q.pending ∧ q'.has .path = (q.has .path || a == .path) := by
  unfold store at h
  split at h
  · cases h
  · split at h
    · cases h
    · split at h
      · rw [← Except.ok.inj h]
        exact ⟨rfl, by simp [has]⟩
      · rw [← Except.ok.inj h]
        exact ⟨rfl, by simp [has]⟩
      · split at h
        · rw [← Except.ok.inj h]
          exact ⟨rfl, by simp [has]⟩
        · cases h

/-- The step `settle` leaves nothing pending, and a path is stored then if it was stored or
pending. -/
private lemma pending_of_settle (h : r.settle = .ok q) :
    q.pending = none ∧ r.hasPath = q.has .path := by
  rw [settle] at h
  rw [hasPath]
  split at h
  · next hpending =>
    rw [← Except.ok.inj h, hpending]
    exact ⟨rfl, Bool.or_false _⟩
  · cases h
  · next a value hpending =>
    obtain ⟨hnone, hpath⟩ := pending_of_store h
    rw [hpath, hpending]
    refine ⟨hnone, ?_⟩
    cases a <;> rfl

/-! ## What a reading stands for -/

/-- The reading `r` stands for the settings `l` if exactly these are stored once it is settled. -/
def StandsFor (r : Reading) (l : List Setting) : Prop :=
  ∃ q, r.settle = .ok q ∧ ∀ s, q.Holds s ↔ s ∈ l

/-- The arguments that `q` has are those of the settings that it holds. -/
private lemma has_iff_mem (hq : ∀ s, q.Holds s ↔ s ∈ l) (a : Argument) :
    q.has a = true ↔ a ∈ l.map Setting.argument := by
  rw [has_iff, List.mem_map]
  simp only [hq]

/-- A setting whose argument is not among those of `l` can be stored. -/
private lemma exists_store_eq_of_notMem (hr : r.settle = .ok q) (hq : ∀ s, q.Holds s ↔ s ∈ l)
    (hs : s.IsNamed) (hnew : s.argument ∉ l.map Setting.argument) :
    ∃ q', q.store s.argument s.value = .ok q' ∧ q'.pending = none
      ∧ ∀ t, q'.Holds t ↔ t ∈ l ++ [s] := by
  have hhas : q.has s.argument = false := by
    rw [Bool.eq_false_iff, ne_eq, has_iff_mem hq]
    exact hnew
  obtain ⟨q', hstore, hpending, hholds⟩ := exists_store_eq hs hhas
  refine ⟨q', hstore, hpending.trans (pending_of_settle hr).1, ?_⟩
  intro t
  rw [hholds, hq, List.mem_append, List.mem_singleton]

/-- The value that is pending is settled by `store`. -/
private lemma settle_holding (hr : r.settle = .ok q) (a : Argument) (value : List UInt8) :
    ({ q with pending := some (.holding a value) } : Reading).settle = q.store a value := by
  have hnone := (pending_of_settle hr).1
  obtain ⟨path, rules, format, pending⟩ := q
  rw [settle]
  simp only at hnone
  rw [hnone]

/-! ## A value that cannot be stored -/

section

variable {e : UsageError} (he : r.settle = .error e)

include he

private lemma finish_of_error (stop : Stop) : r.finish stop = .error (.usage e) := by
  rw [finish, he]

private lemma flag_of_error (shown : String) (stop : Stop) (value : Option (List UInt8)) :
    ∃ e', r.flag shown stop value = .error (.usage e') := by
  cases value with
  | none => exact ⟨e, finish_of_error he stop⟩
  | some value => exact ⟨_, rfl⟩

private lemma option_of_error (a : Argument) (value : Option (List UInt8)) :
    r.option a value = .error (.usage e) := by
  rw [option, he]
  rfl

private lemma long_of_error (name : List UInt8) (value : Option (List UInt8)) :
    ∃ e', r.long name value = .error (.usage e') := by
  unfold long
  split
  · exact flag_of_error he _ _ value
  · split
    · exact flag_of_error he _ _ value
    · split
      · exact ⟨e, option_of_error he _ value⟩
      · split
        · exact ⟨e, option_of_error he _ value⟩
        · exact ⟨_, rfl⟩

private lemma short_of_error (flags : List UInt8) :
    ∃ e', r.short flags = .error (.usage e') := by
  unfold short
  split
  · exact ⟨e, finish_of_error he _⟩
  · exact ⟨e, finish_of_error he _⟩
  · exact ⟨_, rfl⟩
  · exact ⟨_, rfl⟩

private lemma positional_of_error (value : List UInt8) :
    ∃ e', r.positional value = .error (.usage e') := by
  rw [positional, he]
  split
  · exact ⟨_, rfl⟩
  · exact ⟨e, rfl⟩

/-- A pending value that `store` refuses ends the reading, whatever `words` follow it. -/
private lemma readAll_of_error {a : Argument} {value : List UInt8}
    (hpending : r.pending = some (.holding a value)) (words : List (List UInt8)) :
    ∃ e', r.readAll words = .error (.usage e') := by
  cases words with
  | nil => exact ⟨e, by rw [readAll, he]; rfl⟩
  | cons word rest =>
    rw [readAll]
    -- the next word decides only which error it is
    cases Word.ofBytes word with
    | escape =>
      cases rest with
      | nil => exact ⟨e, by simp [he, Except.mapError, bind, pure, Except.bind, Except.pure]⟩
      | cons path rest =>
        obtain ⟨e', he'⟩ := positional_of_error he path
        exact ⟨e', by simp only [List.foldlM_cons, he']; rfl⟩
    | long name value =>
      obtain ⟨e', he'⟩ := long_of_error he name value
      exact ⟨e', by simp only [he']; rfl⟩
    | short flags =>
      obtain ⟨e', he'⟩ := short_of_error he flags
      exact ⟨e', by simp only [he']; rfl⟩
    | plain path =>
      obtain ⟨e', he'⟩ := positional_of_error he path
      exact ⟨e', by simp only [plain, hpending, he']; rfl⟩

end

/-! ## One more argument -/

/-- A `plain` value that no option waits for is the path, of which there is only one. -/
private lemma plain_of_settle (hr : r.settle = .ok q) (value : List UInt8) :
    r.plain value = if q.has .path
      then .error (.usage (.unexpectedArgument (Text.decodeLossy value)))
      else .ok { q with pending := some (.holding .path value) } := by
  unfold plain
  split
  · next a hpending =>
    rw [settle, hpending] at hr
    cases hr
  · rw [positional, (pending_of_settle hr).2, hr]

/-- An option with its value as the next word leaves the value `holding`. -/
private lemma readAll_apart (hr : r.settle = .ok q) {a : Argument} {option name value : List UInt8}
    (hoption : Word.ofBytes option = .long name none)
    (hname : ∀ (r : Reading) value, r.long name value = r.option a value)
    (hvalue : Word.ofBytes value = .plain value) (rest : List (List UInt8)) :
    r.readAll (option :: value :: rest)
      = ({ q with pending := some (.holding a value) } : Reading).readAll rest := by
  have hawait : r.option a none = .ok { q with pending := some (.awaiting a) } := by
    rw [Reading.option, hr]
    rfl
  simp only [readAll, hoption, hname, hawait, hvalue]
  rfl

/-- An option with its value behind `=` stores the value. -/
private lemma readAll_attached (hr : r.settle = .ok q) {a : Argument}
    {attached name value : List UInt8} (hattached : Word.ofBytes attached = .long name (some value))
    (hname : ∀ (r : Reading) value, r.long name value = r.option a value)
    (rest : List (List UInt8)) :
    r.readAll (attached :: rest)
      = ((q.store a value).mapError .usage).bind fun r' => r'.readAll rest := by
  simp only [readAll, hattached, hname, Reading.option, hr]
  rfl

/-- The words of a setting whose argument is new lead from a reading that `StandsFor l` to one that
`StandsFor (l ++ [s])`. -/
theorem readAll_words (hr : StandsFor r l) (hs : s.IsNamed)
    (hnew : s.argument ∉ l.map Setting.argument) (spelling : Spelling) (rest : List (List UInt8)) :
    ∃ r', StandsFor r' (l ++ [s]) ∧ r.readAll (s.words spelling ++ rest) = r'.readAll rest := by
  obtain ⟨q, hr, hq⟩ := hr
  obtain ⟨q', hstore, hnone, hholds⟩ := exists_store_eq_of_notMem hr hq hs hnew
  have hpending : StandsFor { q with pending := some (.holding s.argument s.value) } (l ++ [s]) :=
    ⟨q', (settle_holding hr _ _).trans hstore, hholds⟩
  have hstored : StandsFor q' (l ++ [s]) := ⟨q', by rw [settle, hnone], hholds⟩
  obtain ⟨hpath, hwords⟩ | ⟨option, attached, name, happart, hattached, hoption, hequals, hname⟩ :=
    s.words_cases
  · refine ⟨_, hpending, ?_⟩
    have hhas : q.has .path = false := by
      rw [Bool.eq_false_iff, ne_eq, has_iff_mem hq, ← hpath]
      exact hnew
    rw [hwords, List.singleton_append, readAll, Setting.ofBytes_value hs, hpath]
    simp only [plain_of_settle hr, hhas]
    rfl
  · cases spelling with
    | apart =>
      refine ⟨_, hpending, ?_⟩
      rw [happart]
      exact readAll_apart hr hoption hname (Setting.ofBytes_value hs) rest
    | attached =>
      refine ⟨q', hstored, ?_⟩
      rw [hattached, List.singleton_append, readAll_attached hr hequals hname, hstore]
      rfl

/-- The words of a setting whose argument is one of `l` end the reading, whatever follows them. -/
theorem readAll_words_repeated (hr : StandsFor r l) (hs : s.IsNamed)
    (hrepeated : s.argument ∈ l.map Setting.argument) (spelling : Spelling)
    (rest : List (List UInt8)) :
    ∃ e, r.readAll (s.words spelling ++ rest) = .error (.usage e) := by
  obtain ⟨q, hr, hq⟩ := hr
  have hhas : q.has s.argument = true := (has_iff_mem hq _).mpr hrepeated
  have hstore := store_of_has hhas s.value
  obtain ⟨hpath, hwords⟩ | ⟨option, attached, name, happart, hattached, hoption, hequals, hname⟩ :=
    s.words_cases
  · rw [hpath] at hhas
    refine ⟨.unexpectedArgument (Text.decodeLossy s.value), ?_⟩
    rw [hwords, List.singleton_append, readAll, Setting.ofBytes_value hs]
    simp only [plain_of_settle hr, hhas, if_true]
    rfl
  · cases spelling with
    | apart =>
      rw [happart, List.cons_append, List.singleton_append,
        readAll_apart hr hoption hname (Setting.ofBytes_value hs)]
      exact readAll_of_error ((settle_holding hr _ _).trans hstore) rfl rest
    | attached =>
      refine ⟨.repeated s.argument, ?_⟩
      rw [hattached, List.singleton_append, readAll_attached hr hequals hname, hstore]
      rfl

/-! ## All arguments -/

/-- Settings that give every argument once are all added to those that `r` stands for. -/
theorem readAll_commandLine {given : List (Setting × Spelling)} (hr : StandsFor r l)
    (hgiven : ∀ s ∈ given, s.1.IsNamed)
    (hnodup : ((l ++ given.map Prod.fst).map Setting.argument).Nodup) (rest : List (List UInt8)) :
    ∃ r', StandsFor r' (l ++ given.map Prod.fst)
      ∧ r.readAll (commandLine given ++ rest) = r'.readAll rest := by
  induction given generalizing r l with
  | nil => exact ⟨r, by rw [List.map_nil, List.append_nil]; exact hr, rfl⟩
  | cons s given ih =>
    obtain ⟨s, spelling⟩ := s
    obtain ⟨hs, hgiven⟩ := List.forall_mem_cons.mp hgiven
    rw [List.map_cons, List.append_cons] at hnodup ⊢
    have hnew : s.argument ∉ l.map Setting.argument := by
      rw [List.map_append, List.map_append, List.map_singleton] at hnodup
      have hbefore := (List.nodup_append.mp hnodup).1
      rw [← List.concat_eq_append, List.nodup_concat] at hbefore
      exact hbefore.1
    obtain ⟨r₁, hr₁, hread⟩ := readAll_words hr hs hnew spelling (commandLine given ++ rest)
    obtain ⟨r₂, hr₂, hread₂⟩ := ih hr₁ hgiven hnodup
    exact ⟨r₂, hr₂, by rw [commandLine_cons, List.append_assoc, hread, hread₂]⟩

/-- Settings that give an argument twice end the reading, whatever follows them. -/
theorem readAll_commandLine_repeated {given : List (Setting × Spelling)} (hr : StandsFor r l)
    (hgiven : ∀ s ∈ given, s.1.IsNamed) (hl : (l.map Setting.argument).Nodup)
    (hrepeated : ¬ ((l ++ given.map Prod.fst).map Setting.argument).Nodup)
    (rest : List (List UInt8)) :
    ∃ e, r.readAll (commandLine given ++ rest) = .error (.usage e) := by
  induction given generalizing r l with
  | nil => exact absurd hl (by rwa [List.map_nil, List.append_nil] at hrepeated)
  | cons s given ih =>
    obtain ⟨s, spelling⟩ := s
    obtain ⟨hs, hgiven⟩ := List.forall_mem_cons.mp hgiven
    rw [List.map_cons, List.append_cons] at hrepeated
    rw [commandLine_cons, List.append_assoc]
    -- the first argument that was given before is where the reading ends
    by_cases hmem : s.argument ∈ l.map Setting.argument
    · exact readAll_words_repeated hr hs hmem spelling _
    · obtain ⟨r', hr', hread⟩ := readAll_words hr hs hmem spelling (commandLine given ++ rest)
      rw [hread]
      have hl' : ((l ++ [s]).map Setting.argument).Nodup := by
        rw [List.map_append, List.map_singleton, ← List.concat_eq_append, List.nodup_concat]
        exact ⟨hmem, hl⟩
      exact ih hr' hgiven hl' hrepeated

private lemma standsFor_start : StandsFor start [] :=
  ⟨start, rfl, fun s => by cases s <;> simp [Holds, start]⟩

/-- Where the settings of `c` were given, `ofReading` comes to the options of `c` and nothing
else. -/
private lemma ofReading_of_standsFor {c : Choice} (hr : StandsFor r l) (hl : l.Perm c.settings) :
    ∃ q, r.readAll [] = .ok q ∧ Options.ofReading q = c.options := by
  obtain ⟨q, hr, hq⟩ := hr
  refine ⟨q, by rw [readAll, hr]; rfl, ?_⟩
  simp only [hl.mem_iff] at hq
  have hpath : q.path = c.path := by
    refine Option.ext fun p => (hq (.path p)).trans ?_
    simp [Choice.settings]
  have hrules : q.rules = c.rules := by
    refine Option.ext fun p => (hq (.rules p)).trans ?_
    simp [Choice.settings]
  have hformat : q.format = c.format := by
    refine Option.ext fun f => (hq (.format f)).trans ?_
    simp [Choice.settings]
  rw [Options.ofReading, hpath, hrules, hformat]
  rfl

end Reading

variable {l : List (Setting × Spelling)}

private lemma Choice.nodup_settings (c : Choice) : (c.settings.map Setting.argument).Nodup := by
  obtain ⟨path, rules, format⟩ := c
  cases path <;> cases rules <;> cases format <;> simp [settings, Setting.argument]

/-- The `commandLine` of the settings of `c`, in any order and spelling, is read as `c.options`. -/
theorem read_commandLine {c : Choice} (hl : ∀ s ∈ l, s.1.IsNamed)
    (hc : (l.map Prod.fst).Perm c.settings) :
    Options.read (commandLine l) = .ok c.options := by
  have hnodup : ((l.map Prod.fst).map Setting.argument).Nodup :=
    (hc.map Setting.argument).nodup_iff.mpr c.nodup_settings
  obtain ⟨r, hr, hread⟩ := Reading.readAll_commandLine Reading.standsFor_start hl hnodup []
  obtain ⟨q, hq, hoptions⟩ := Reading.ofReading_of_standsFor hr hc
  rw [List.append_nil] at hread
  rw [Options.read, hread, hq, ← hoptions]

/-- A `commandLine` that gives an argument twice is refused, whatever follows it. -/
theorem read_commandLine_repeated (hl : ∀ s ∈ l, s.1.IsNamed)
    (hrepeated : ¬ (l.map fun s => s.1.argument).Nodup) (rest : List (List UInt8)) :
    ∃ e, Options.read (commandLine l ++ rest) = .error (.usage e) := by
  have hmap : ¬ ((l.map Prod.fst).map Setting.argument).Nodup := by
    rw [List.map_map]
    exact hrepeated
  obtain ⟨e, he⟩ := Reading.readAll_commandLine_repeated Reading.standsFor_start hl
    List.nodup_nil hmap rest
  exact ⟨e, by rw [Options.read, he]⟩

/-- A run on options that `Options.read` accepts does not end with the exit code 2 of a run whose
arguments cannot be used. -/
theorem exitCode_ne_two {args : List (List UInt8)} {o : Options} (h : Options.read args = .ok o)
    (words : RuleFile.Words) (files : Files) (log : Option String) :
    (runWith words files log args).exitCode ≠ 2 := by
  rw [runWith, h]
  dsimp only
  cases (inspect files o).1 with
  | ok text => exact (by decide : (0 : UInt32) ≠ 2)
  | error t => exact (by decide : (1 : UInt32) ≠ 2)

/-- The `commandLine` of the settings of a choice, in any order and with the options in any
spelling, is accepted: it is read as the `options` of the choice and does not end with exit code 2,
and every other one comes to the same run. If some argument is given twice, the run ends with exit
code 2, writes no report and does not look at any file, whatever follows on the command line. -/
theorem run_commandLine (hl : ∀ s ∈ l, s.1.IsNamed) (words : RuleFile.Words) :
    (∀ c : Choice, (l.map Prod.fst).Perm c.settings →
        Options.read (commandLine l) = .ok c.options
          ∧ (∀ files log, (runWith words files log (commandLine l)).exitCode ≠ 2)
          ∧ ∀ l' : List (Setting × Spelling), (l'.map Prod.fst).Perm c.settings → ∀ files log,
            runWith words files log (commandLine l') = runWith words files log (commandLine l))
      ∧ (¬ (l.map fun s => s.1.argument).Nodup → ∀ rest files log,
        (runWith words files log (commandLine l ++ rest)).exitCode = 2
          ∧ (runWith words files log (commandLine l ++ rest)).stdout = ""
          ∧ neededFiles (commandLine l ++ rest) = []
          ∧ ∀ files', runWith words files' log (commandLine l ++ rest)
            = runWith words files log (commandLine l ++ rest)) := by
  constructor
  · intro c hc
    have hread := read_commandLine hl hc
    refine ⟨hread, exitCode_ne_two hread words, ?_⟩
    intro l' hc' files log
    have hl' : ∀ s ∈ l', s.1.IsNamed := by
      have hmem : ∀ s ∈ l.map Prod.fst, s.IsNamed := List.forall_mem_map.mpr hl
      refine List.forall_mem_map.mp ?_
      intro s hs
      exact hmem s ((hc'.trans hc.symm).mem_iff.mp hs)
    rw [runWith, runWith, hread, read_commandLine hl' hc']
  · intro hrepeated rest files log
    obtain ⟨e, he⟩ := read_commandLine_repeated hl hrepeated rest
    have hrun : ∀ files', runWith words files' log (commandLine l ++ rest)
        = ⟨2, "", usageText e, []⟩ := by
      intro files'
      rw [runWith, he]
    refine ⟨?_, ?_, ?_, ?_⟩
    · rw [hrun]
    · rw [hrun]
    · rw [neededFiles, he]
    · intro files'
      rw [hrun, hrun]

/-- A name with `=` in it, a path that is no text, and a second path in front of `--help`. -/
theorem run_commandLine_equalsSign :
    Options.read
          [Text.bytes "--rules=k=v.toml", [0xFF, 0x20], Text.bytes "--format", Text.bytes "json"]
        = .ok ⟨⟨[0xFF, 0x20]⟩, some (.ofString "k=v.toml"), .json⟩
      ∧ (run (fun _ => .error .notFound) none
          [Text.bytes "--rules=k=v.toml", [0xFF, 0x20], Text.bytes "--format",
            Text.bytes "json"]).exitCode ≠ 2
      ∧ run (fun _ => .error .notFound) none
          [Text.bytes "--format=json", [0xFF, 0x20], Text.bytes "--rules", Text.bytes "k=v.toml"]
        = run (fun _ => .error .notFound) none
          [Text.bytes "--rules=k=v.toml", [0xFF, 0x20], Text.bytes "--format", Text.bytes "json"]
      ∧ (run (fun _ => .error .notFound) none
          [Text.bytes "a.rs", Text.bytes "--rules", Text.bytes "r", Text.bytes "b.rs",
            Text.bytes "--help"]).exitCode = 2 := by
  have hnamed : ∀ s ∈ [(Setting.rules (.ofString "k=v.toml"), Spelling.attached),
      (.path ⟨[0xFF, 0x20]⟩, .apart), (.format .json, .apart)], s.1.IsNamed := by
    decide
  have htwice : ∀ s ∈ [(Setting.path (.ofString "a.rs"), Spelling.apart),
      (.rules (.ofString "r"), .apart), (.path (.ofString "b.rs"), .apart)], s.1.IsNamed := by
    decide
  obtain ⟨hread, haccepted, hrun⟩ := (run_commandLine hnamed fun _ _ => none).1
    ⟨some ⟨[0xFF, 0x20]⟩, some (.ofString "k=v.toml"), some .json⟩ (by decide)
  obtain ⟨hexit, -⟩ := (run_commandLine htwice fun _ _ => none).2 (by decide)
    [Text.bytes "--help"] (fun _ => .error .notFound) none
  refine ⟨hread, haccepted _ _, ?_, hexit⟩
  exact hrun [(.format .json, .attached), (.path ⟨[0xFF, 0x20]⟩, .apart),
    (.rules (.ofString "k=v.toml"), .apart)] (by decide) _ _

end LineLandmarks.CommandLine
