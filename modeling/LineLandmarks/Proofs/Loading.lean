import LineLandmarks.Failure
import LineLandmarks.Proofs.Text.Lines
import LineLandmarks.Proofs.Text.Utf8

/-!
# Loading files by their bytes

A file is loaded if its bytes are well-formed UTF-8, from the first to the last, and what is loaded
is decided by the text they encode; otherwise nothing of it is. The same bytes that cannot be read
are a failure of the access to a source file or of the access to a rule file, and not of the rules
in it (`load_of_content`).
-/

namespace LineLandmarks

open Text (IsUtf8)

variable {files : Files} {p : Path} {content : ByteArray}

/-! ## Texts of files -/

namespace Files

/-- The bytes of the text `t` are read as `t`. -/
lemma readText_of_bytes (h : files p = .ok content) {t : String}
    (ht : Text.bytes t = content.data.toList) : files.readText p = .ok t := by
  simp only [readText, h, (Text.decode?_eq_some_iff content t).mpr ht]

/-- Bytes that are not `IsUtf8` are not read. -/
lemma readText_of_not_isUtf8 (h : files p = .ok content) (hbytes : ¬ IsUtf8 content.data.toList) :
    files.readText p = .error .notUtf8 := by
  have hnone : Text.decode? content = none := by
    rw [Option.eq_none_iff_forall_ne_some]
    intro t ht
    exact hbytes ((Text.isUtf8_iff _).mpr ⟨t, (Text.decode?_eq_some_iff content t).mp ht⟩)
  simp only [readText, h, hnone]

end Files

/-! ## Source files -/

namespace Document

lemma load_of_ok {text : String} (h : files.readText p = .ok text) :
    load files p = .ok (.ofText text) := by
  rw [load, h]

lemma load_of_error {cause : AccessFailure} (h : files.readText p = .error cause) :
    load files p = .error (.sourceAccess p cause) := by
  rw [load, h]

/-- What `load` gives is `ofText` of the text that the bytes encode. -/
lemma load_eq_ok_iff (h : files p = .ok content) (d : Document) :
    load files p = .ok d ↔ ∃ t, Text.bytes t = content.data.toList ∧ d = .ofText t := by
  constructor
  · intro hd
    by_cases hbytes : IsUtf8 content.data.toList
    · obtain ⟨t, ht⟩ := (Text.isUtf8_iff _).mp hbytes
      rw [load_of_ok (Files.readText_of_bytes h ht)] at hd
      exact ⟨t, ht, (Except.ok.inj hd).symm⟩
    · rw [load_of_error (Files.readText_of_not_isUtf8 h hbytes)] at hd
      cases hd
  · intro hd
    obtain ⟨t, ht, hd⟩ := hd
    rw [hd, load_of_ok (Files.readText_of_bytes h ht)]

/-- The `load` of a document fails exactly if the bytes are not `IsUtf8`. -/
lemma load_eq_error_iff (h : files p = .ok content) (e : Failure) :
    load files p = .error e ↔ ¬ IsUtf8 content.data.toList ∧ e = .sourceAccess p .notUtf8 := by
  by_cases hbytes : IsUtf8 content.data.toList
  · obtain ⟨t, ht⟩ := (Text.isUtf8_iff _).mp hbytes
    rw [load_of_ok (Files.readText_of_bytes h ht)]
    exact iff_of_false nofun (fun he => he.1 hbytes)
  · rw [load_of_error (Files.readText_of_not_isUtf8 h hbytes)]
    simp only [hbytes, not_false_eq_true, true_and, Except.error.injEq, eq_comm]

/-- A byte order mark is a character of the first line, which is there also if `rest` is empty. -/
lemma ofText_byteOrderMark (rest : String) :
    ∃ first more, Text.splitLines rest.toList = first :: more
      ∧ ofText ("\uFEFF" ++ rest)
        = ⟨("\uFEFF" ++ String.ofList first) :: more.map String.ofList⟩ := by
  have hchars : ("\uFEFF" ++ rest).toList = '\uFEFF' :: rest.toList := by
    rw [String.toList_append]
    rfl
  have hne : "\uFEFF" ++ rest ≠ "" := by
    intro heq
    rw [heq] at hchars
    cases hchars
  obtain ⟨first, more, hrest, hsplit⟩ :=
    Text.splitLines_cons (by decide : Text.isBreak '\uFEFF' = false) rest.toList
  refine ⟨first, more, hrest, ?_⟩
  rw [ofText, if_neg (by rwa [String.isEmpty_iff]), hchars, hsplit, List.map_cons,
    String.ofList_cons]
  rfl

end Document

/-! ## Rule files -/

namespace RuleFile

/-- The rules of a file `p` are those that `parse` reads in its text, and what is wrong with the
text is told of `p`. -/
lemma load_of_ok {text : String} (h : files.readText p = .ok text) :
    load files (some p) = (parse text).mapError (.rulesInvalid p) := by
  simp only [load, h]
  cases parse text <;> rfl

lemma load_of_error {cause : AccessFailure} (h : files.readText p = .error cause) :
    load files (some p) = .error (.rulesAccess p cause) := by
  simp only [load, h]

/-- The `load` of rules fails for the access exactly if the bytes are not `IsUtf8`, whatever the
rules are. -/
lemma load_eq_rulesAccess_iff (h : files p = .ok content) (cause : AccessFailure) :
    load files (some p) = .error (.rulesAccess p cause)
      ↔ ¬ IsUtf8 content.data.toList ∧ cause = .notUtf8 := by
  by_cases hbytes : IsUtf8 content.data.toList
  · obtain ⟨t, ht⟩ := (Text.isUtf8_iff _).mp hbytes
    rw [load_of_ok (Files.readText_of_bytes h ht)]
    refine iff_of_false ?_ (fun hcause => hcause.1 hbytes)
    cases parse t <;> exact nofun
  · rw [load_of_error (Files.readText_of_not_isUtf8 h hbytes)]
    simp only [hbytes, not_false_eq_true, true_and, Except.error.injEq, Failure.rulesAccess.injEq,
      eq_comm]

end RuleFile

/-! ## Both -/

/-- A file with the bytes `content` is loaded as a source file exactly if these are `IsUtf8`, as
`ofText` of the text they encode, in which a byte order mark at the start is a character of the
first line; otherwise the access to the file fails for the bytes. As a rule file it fails the access
exactly if the bytes are not `IsUtf8`, and otherwise has the outcome of `parse` on the text. -/
theorem load_of_content (h : files p = .ok content) :
    ((∃ d, Document.load files p = .ok d) ↔ IsUtf8 content.data.toList)
      ∧ (∀ d, Document.load files p = .ok d ↔
          ∃ t, Text.bytes t = content.data.toList ∧ d = .ofText t)
      ∧ (∀ rest : String, content.data.toList = 0xEF :: 0xBB :: 0xBF :: Text.bytes rest →
          ∃ first more, Text.splitLines rest.toList = first :: more
            ∧ Document.load files p
              = .ok ⟨("\uFEFF" ++ String.ofList first) :: more.map String.ofList⟩)
      ∧ (∀ e, Document.load files p = .error e ↔
          ¬ IsUtf8 content.data.toList ∧ e = .sourceAccess p .notUtf8)
      ∧ (∀ cause, RuleFile.load files (some p) = .error (.rulesAccess p cause) ↔
          ¬ IsUtf8 content.data.toList ∧ cause = .notUtf8)
      ∧ ∀ t, Text.bytes t = content.data.toList →
          RuleFile.load files (some p) = (RuleFile.parse t).mapError (.rulesInvalid p) := by
  refine ⟨?_, Document.load_eq_ok_iff h, ?_, Document.load_eq_error_iff h,
    RuleFile.load_eq_rulesAccess_iff h, ?_⟩
  · rw [Text.isUtf8_iff]
    simp only [Document.load_eq_ok_iff h]
    constructor
    · intro hd
      obtain ⟨d, t, ht, -⟩ := hd
      exact ⟨t, ht⟩
    · intro ht
      obtain ⟨t, ht⟩ := ht
      exact ⟨.ofText t, t, ht, rfl⟩
  · intro rest hrest
    obtain ⟨first, more, hsplit, hlines⟩ := Document.ofText_byteOrderMark rest
    refine ⟨first, more, hsplit,
      (Document.load_eq_ok_iff h _).mpr ⟨"\uFEFF" ++ rest, ?_, hlines.symm⟩⟩
    rw [Text.bytes_append, hrest]
    rfl
  · intro t ht
    exact RuleFile.load_of_ok (Files.readText_of_bytes h ht)

/-- Two files, one of which starts with a byte order mark; the other is cut short within its last
character and is neither a document nor rules. -/
theorem load_of_content_twoFiles :
    let mark : Path := .ofString "mark"
    let short : Path := .ofString "short"
    let files : Files := fun p =>
      if p = mark then .ok ⟨#[0xEF, 0xBB, 0xBF, 0x61, 0x0A]⟩ else .ok ⟨#[0x61, 0x0A, 0xE2, 0x82]⟩
    Document.load files mark = .ok ⟨["\uFEFFa", ""]⟩
      ∧ RuleFile.load files (some mark) = .error (.rulesInvalid mark .malformed)
      ∧ ¬ IsUtf8 [0x61, 0x0A, 0xE2, 0x82]
      ∧ Document.load files short = .error (.sourceAccess short .notUtf8)
      ∧ RuleFile.load files (some short) = .error (.rulesAccess short .notUtf8) := by
  intro mark short files
  have hmark : files mark = .ok ⟨#[0xEF, 0xBB, 0xBF, 0x61, 0x0A]⟩ := rfl
  have hshort : files short = .ok ⟨#[0x61, 0x0A, 0xE2, 0x82]⟩ := rfl
  obtain ⟨-, hdocument, -, -, -, hrules⟩ := load_of_content hmark
  obtain ⟨hloaded, -, -, hfailed, hrefused, -⟩ := load_of_content hshort
  have hbytes : ¬ IsUtf8 [0x61, 0x0A, 0xE2, 0x82] := by
    intro h
    obtain ⟨d, hd⟩ := hloaded.mpr h
    cases hd
  refine ⟨?_, ?_, hbytes, (hfailed _).mpr ⟨hbytes, rfl⟩, (hrefused _).mpr ⟨hbytes, rfl⟩⟩
  · exact (hdocument _).mpr ⟨"\uFEFFa\n", rfl, rfl⟩
  · exact hrules "\uFEFFa\n" rfl

end LineLandmarks
