import LineLandmarks.CommandLine.Run
import LineLandmarks.Proofs.Loading
import LineLandmarks.Proofs.Report.Output
import LineLandmarks.Proofs.Text.Lines
import LineLandmarks.Proofs.Text.Run

/-!
# Outcomes of a run

Of a run whose arguments can be used, the first step that fails decides: the rules are loaded first,
then the source file, and a run that fails in either writes no report. A run that fails in none
writes the whole report, byte for byte (`run_outcome`). The log setting decides on log lines only.
What is written about a failure stands in rows that no message can disturb.
-/

namespace LineLandmarks.CommandLine

open Text (notMem_append notMem_toString_nat splitOn_append_of_notMem)

/-! ## Rows about a failure -/

/-- What a row about a message starts with, unless it is the first one. -/
def indentation : List Char := "       ".toList

/-- Rows of which all but the first start with `indentation`. -/
def hangingRows : List (List Char) → List (List Char)
  | [] => []
  | first :: more => first :: more.map (indentation ++ ·)

/-- The `hangingRows` of a message, with its number before the first one. -/
def messageRows (message : String × ℕ) : List (List Char) :=
  (hangingRows (message.1.toList.splitOn '\n')).modifyHead
    (("    " ++ toString message.2 ++ ": ").toList ++ ·)

/-- The rows about a failure: `Error: ` and its context, an empty row, `Caused by:`, and the
`messageRows` of the chain, which are numbered from zero. -/
def failureRows (context : String) (chain : List String) : List (List Char) :=
  ("Error: " ++ context).toList :: [] :: "Caused by:".toList :: chain.zipIdx.flatMap messageRows

private lemma splitOn_hanging (message : String) :
    (Trouble.hanging message).toList.splitOn '\n' = hangingRows (message.toList.splitOn '\n') := by
  have hstart : "\n       ".toList = '\n' :: indentation := rfl
  rw [Trouble.hanging, String.toList_ofList, hstart]
  induction message.toList with
  | nil => rfl
  | cons c cs ih =>
    rw [List.flatMap_cons, List.splitOn_cons_eq_if_modifyHead c]
    by_cases hc : c = '\n'
    · rw [if_pos hc, if_pos (by simpa using hc), List.cons_append,
        List.splitOn_cons_eq_if_modifyHead, if_pos (by decide),
        splitOn_append_of_notMem (by decide), ih]
      cases cs.splitOn '\n' <;> rfl
    · rw [if_neg hc, if_neg (by simpa using hc), List.singleton_append,
        List.splitOn_cons_eq_if_modifyHead, if_neg (by simpa using hc), ih]
      cases cs.splitOn '\n' <;> rfl

private lemma splitOn_causeRow (cause : String × ℕ) (rest : List Char) :
    ((Trouble.causeRow cause).toList ++ rest).splitOn '\n'
      = messageRows cause ++ rest.splitOn '\n' := by
  obtain ⟨message, n⟩ := cause
  have hnumber : '\n' ∉ ("    " ++ toString n ++ ": ").toList :=
    notMem_append (notMem_append (by decide) (notMem_toString_nat (by decide) n)) (by decide)
  have hrow : (Trouble.causeRow (message, n)).toList ++ rest
      = ("    " ++ toString n ++ ": ").toList
        ++ ((Trouble.hanging message).toList ++ '\n' :: rest) := by
    rw [Trouble.causeRow, String.toList_append, String.toList_append, List.append_assoc,
      List.append_assoc]
    rfl
  rw [hrow, splitOn_append_of_notMem hnumber, List.splitOn_append_cons_self, splitOn_hanging,
    messageRows]
  -- the number stands before the first row, which there always is
  cases hsplit : message.toList.splitOn '\n' with
  | nil => exact absurd hsplit (List.splitOn_ne_nil _ _)
  | cons first more => rfl

private lemma splitOn_causeRows (causes : List (String × ℕ)) :
    (String.join (causes.map Trouble.causeRow)).toList.splitOn '\n'
      = causes.flatMap messageRows ++ [[]] := by
  rw [String.toList_join]
  induction causes with
  | nil => rfl
  | cons cause causes ih =>
    rw [List.map_cons, List.flatMap_cons, splitOn_causeRow, ih, List.flatMap_cons,
      List.append_assoc]

/-- The `text` of trouble is split at its line feeds into the `failureRows` of its `context` and of
the `chain` of its `failure`, behind which nothing is left. -/
theorem splitOn_text (words : RuleFile.Words) (t : Trouble) :
    (t.text words).toList.splitOn '\n'
      = failureRows t.context (t.failure.chain words) ++ [[]] := by
  have hcontext : '\n' ∉ ("Error: " ++ t.context).toList := by
    cases t with
    | loadingRules e => exact (by decide : '\n' ∉ ("Error: " ++ "load landmark rules").toList)
    | inspecting e => exact (by decide : '\n' ∉ ("Error: " ++ "inspect source file").toList)
  have htext : (t.text words).toList = ("Error: " ++ t.context).toList ++ '\n' :: '\n' ::
      ("Caused by:".toList ++ '\n' ::
        (String.join ((t.failure.chain words).zipIdx.map Trouble.causeRow)).toList) := by
    rw [Trouble.text, String.toList_append, String.toList_append, List.append_assoc]
    rfl
  rw [htext, List.splitOn_append_cons_self_of_not_mem hcontext, List.splitOn_cons_eq_if_modifyHead,
    if_pos (by decide), List.splitOn_append_cons_self_of_not_mem (by decide), splitOn_causeRows,
    failureRows]
  rfl

/-! ## The run -/

/-- Writes the report on `f` in the form that `o` asks for. -/
def writeReport {ε : Type} (o : Options) (f : Inspection) (s : Sink ε) :
    Except ε Unit × Sink ε :=
  match o.format with
  | .text => Report.writeText f s
  | .json => Report.writeJson o.path.display f s

/-- A run `Fails`: it writes no report, and standard error holds the `failureRows` of what was being
done and of a chain of causes. -/
structure Fails (out : Outcome) (context : String) (chain : List String) : Prop where
  exitCode : out.exitCode = 1
  stdout : out.stdout = ""
  stderr : out.stderr.toList.splitOn '\n' = failureRows context chain ++ [[]]

/-- A run `Reports` on the inspection `f`: it writes what a sink without bound receives from
`writeReport`. -/
structure Reports (out : Outcome) (o : Options) (f : Inspection) : Prop where
  exitCode : out.exitCode = 0
  stdout : writeReport o f (.unbounded ())
    = (.ok (), { Sink.unbounded () with held := out.stdout.toUTF8 })
  stderr : out.stderr = ""

variable {words : RuleFile.Words} {files : Files} {args : List (List UInt8)} {o : Options}

lemma writeReport_unbounded (o : Options) (f : Inspection) :
    writeReport o f (.unbounded ())
      = (.ok (), { Sink.unbounded () with held := (report o f).toUTF8 }) := by
  rw [writeReport, report]
  cases o.format with
  | text => exact (Sink.fillsUp_writeAll (Report.textPieces f) 0 ()).unbounded
  | json => exact (Sink.fillsUp_writeAll (Report.jsonPieces o.path.display f) 0 ()).unbounded

/-- A run on options for which `inspect` comes to trouble fails with its chain. -/
lemma runWith_of_error (h : Options.read args = .ok o) {t : Trouble}
    (ht : (inspect files o).1 = .error t) (log : Option String) :
    Fails (runWith words files log args) t.context (t.failure.chain words) := by
  have hrun : ∃ lines, runWith words files log args = ⟨1, "", t.text words, lines⟩ := by
    rw [runWith, h]
    simp only [ht]
    exact ⟨_, rfl⟩
  obtain ⟨lines, hrun⟩ := hrun
  rw [hrun]
  exact ⟨rfl, rfl, splitOn_text words t⟩

/-- A run on options for which `inspect` comes to the `report` on an inspection reports on it. -/
lemma runWith_of_ok (h : Options.read args = .ok o) {f : Inspection}
    (hf : (inspect files o).1 = .ok (report o f)) (log : Option String) :
    Reports (runWith words files log args) o f := by
  have hrun : ∃ lines, runWith words files log args = ⟨0, report o f, "", lines⟩ := by
    rw [runWith, h]
    simp only [hf]
    exact ⟨_, rfl⟩
  obtain ⟨lines, hrun⟩ := hrun
  rw [hrun]
  exact ⟨rfl, writeReport_unbounded o f, rfl⟩

/-- The log setting decides on the `log` lines of the outcome only. -/
lemma runWith_congr_log (words : RuleFile.Words) (files : Files) (log log' : Option String)
    (args : List (List UInt8)) :
    (runWith words files log args).stdout = (runWith words files log' args).stdout
      ∧ (runWith words files log args).exitCode = (runWith words files log' args).exitCode := by
  rw [runWith, runWith]
  cases Options.read args with
  | error stop => cases stop <;> exact ⟨rfl, rfl⟩
  | ok o =>
    dsimp only
    cases (inspect files o).1 <;> exact ⟨rfl, rfl⟩

/-- The rules are loaded first. If `RuleFile.load` fails, the run fails with the chain of that
failure, whatever the source file is; the words for an error in the rule file end the chain. If it
succeeds and the source file cannot be read, the run fails with the chain of `sourceAccess`.
Otherwise it reports, in the form asked for, on the document of the file's text with the landmarks
that `scan` finds in it by the rules. The log setting changes neither `stdout` nor `exitCode`. -/
theorem run_outcome (h : Options.read args = .ok o) (words : RuleFile.Words) (files : Files)
    (log : Option String) :
    (∀ e, RuleFile.load files o.rules = .error e →
        (inspect files o).1 = .error (.loadingRules e)
          ∧ Fails (runWith words files log args) "load landmark rules" (e.chain words))
      ∧ (∀ parsed cause, RuleFile.load files o.rules = .ok parsed →
          files.readText o.path = .error cause →
          (inspect files o).1 = .error (.inspecting (.sourceAccess o.path cause))
            ∧ Fails (runWith words files log args) "inspect source file"
              ((Failure.sourceAccess o.path cause).chain words))
      ∧ (∀ parsed text, RuleFile.load files o.rules = .ok parsed →
          files.readText o.path = .ok text →
          Reports (runWith words files log args) o
            ⟨.ofText text, scan parsed.rules (.ofText text), parsed.rules⟩)
      ∧ ∀ log', (runWith words files log' args).stdout = (runWith words files log args).stdout
          ∧ (runWith words files log' args).exitCode
            = (runWith words files log args).exitCode := by
  refine ⟨?_, ?_, ?_, fun log' => runWith_congr_log words files log' log args⟩
  · intro e hrules
    have hinspect : (inspect files o).1 = .error (.loadingRules e) := by
      rw [inspect, hrules]
    exact ⟨hinspect, runWith_of_error h hinspect log⟩
  · intro parsed cause hrules hread
    have hinspect :
        (inspect files o).1 = .error (.inspecting (.sourceAccess o.path cause)) := by
      rw [inspect, hrules]
      simp only [Inspection.load, Document.load_of_error hread]
    exact ⟨hinspect, runWith_of_error h hinspect log⟩
  · intro parsed text hrules hread
    apply runWith_of_ok h
    rw [inspect, hrules]
    simp only [Inspection.load, Document.load_of_ok hread]
    rfl

/-- A tree with a source file, and a rule file in a directory that ends within a header. -/
def smallTree : FileTree :=
  FileTree.insert (.file "a\r\nb".toUTF8) (FileTree.parts (.ofString "s.rs"))
    (FileTree.insert (.file "[landmarks\n".toUTF8) (FileTree.parts (.ofString "conf/r.toml"))
      .empty)

/-- Neither the rules nor the source file named are in `smallTree`, then the rules are invalid, then
only the source file is missing, then it is there. -/
theorem run_outcome_smallTree :
    let words : RuleFile.Words := fun _ _ => some "TOML parse error at line 1, column 11\n"
    let run := runWith words smallTree.read
    let first := ["--rules=r.toml", "t.rs", "--format", "json"].map Text.bytes
    let second := ["--rules", "conf/r.toml", "s.rs"].map Text.bytes
    let third := ["t.rs"].map Text.bytes
    let fourth := ["--format", "json", "s.rs"].map Text.bytes
    (Options.read first = .ok ⟨.ofString "t.rs", some (.ofString "r.toml"), .json⟩
        ∧ Options.read second = .ok ⟨.ofString "s.rs", some (.ofString "conf/r.toml"), .text⟩
        ∧ Options.read third = .ok ⟨.ofString "t.rs", none, .text⟩
        ∧ Options.read fourth = .ok ⟨.ofString "s.rs", none, .json⟩)
      ∧ Fails (run none first) "load landmark rules"
        ["failed to read rules file r.toml", "No such file or directory (os error 2)"]
      ∧ Fails (run none second) "load landmark rules"
        ["invalid rules file conf/r.toml", "TOML parse error at line 1, column 11\n"]
      ∧ Fails (run (some "debug") third) "inspect source file"
        ["failed to read source file t.rs", "No such file or directory (os error 2)"]
      ∧ Reports (run (some "off") fourth) ⟨.ofString "s.rs", none, .json⟩
        ⟨.ofLines ["a", "b"], .unset, .default⟩
      ∧ (run (some "trace") fourth).stdout = (run (some "off") fourth).stdout := by
  intro words run first second third fourth
  have hfirst : Options.read first
      = .ok ⟨.ofString "t.rs", some (.ofString "r.toml"), .json⟩ := rfl
  have hsecond : Options.read second
      = .ok ⟨.ofString "s.rs", some (.ofString "conf/r.toml"), .text⟩ := rfl
  have hthird : Options.read third = .ok ⟨.ofString "t.rs", none, .text⟩ := rfl
  have hfourth : Options.read fourth = .ok ⟨.ofString "s.rs", none, .json⟩ := rfl
  have hmissing : smallTree.read.readText (.ofString "t.rs") = .error .notFound := rfl
  have hpresent : smallTree.read.readText (.ofString "s.rs") = .ok "a\r\nb" := rfl
  refine ⟨⟨hfirst, hsecond, hthird, hfourth⟩, ?_, ?_, ?_, ?_, ?_⟩
  · have hrules : RuleFile.load smallTree.read (some (.ofString "r.toml"))
        = .error (.rulesAccess (.ofString "r.toml") .notFound) := rfl
    exact ((run_outcome hfirst words smallTree.read none).1 _ hrules).2
  · have hrules : RuleFile.load smallTree.read (some (.ofString "conf/r.toml"))
        = .error (.rulesInvalid (.ofString "conf/r.toml") .malformed) := rfl
    exact ((run_outcome hsecond words smallTree.read none).1 _ hrules).2
  · exact ((run_outcome hthird words smallTree.read (some "debug")).2.1
      ⟨.default, []⟩ _ rfl hmissing).2
  · exact (run_outcome hfourth words smallTree.read (some "off")).2.2.1
      ⟨.default, []⟩ _ rfl hpresent
  · exact ((run_outcome hfourth words smallTree.read (some "off")).2.2.2 (some "trace")).1

end LineLandmarks.CommandLine
