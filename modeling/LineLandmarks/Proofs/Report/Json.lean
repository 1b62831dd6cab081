import LineLandmarks.Proofs.Json.RoundTrip
import LineLandmarks.Proofs.Report.Output
import LineLandmarks.Report.Output

/-!
# The JSON report read back

What a sink receives of a JSON report is one value and a line feed, and the value is read as the
path, the landmarks and the excerpt that the report was made of.
-/

namespace LineLandmarks.Report

variable {ε : Type}

private lemma ofNat?_eq (n : Option ℕ) :
    Json.ofNat? n = n.elim .null fun i => .number i 0 := by
  cases n <;> rfl

/-- An `object` with members ends with its brace. -/
lemma getLast?_pretty_object (m : String × Json) (ms : List (String × Json)) :
    (String.join (Json.object (m :: ms)).pretty).toList.getLast? = some '\x7d' := by
  rw [String.toList_join]
  show (Json.chars 0 (.object (m :: ms))).getLast? = some '\x7d'
  rw [Json.chars_object_cons]
  simp [List.getLast?_append, List.getLast?_cons]

/-- What a sink holds of a report that `writeJson` wrote to its end. -/
lemma held_writeJson {path : String} {f : Inspection} {s s' : Sink ε}
    (h : writeJson path f s = (.ok (), s')) :
    s'.held = s.held ++ (String.join (json path f).pretty ++ "\n").toUTF8 := by
  rw [writeJson, Sink.writeAll_eq] at h
  rw [Sink.held_of_write_eq_ok h, jsonPieces, String.join_append, String.join_cons,
    String.join_nil, String.append_empty]

/-- A report that `writeJson` wrote to its end is a text that ends with a brace and then a line
feed. The text is read by `Json.read?` as an object of five members: the path, the three landmarks,
which are `null` where they are unset and exact numbers elsewhere, and the lines of the excerpt in
order. -/
theorem read?_writeJson (path : String) (f : Inspection) (s s' : Sink ε)
    (h : writeJson path f s = (.ok (), s')) :
    ∃ text : String,
      s'.held = s.held ++ (text ++ "\n").toUTF8
        ∧ text.toList.getLast? = some '\x7d'
        ∧ ∀ whole, whole = text ∨ whole = text ++ "\n" → Json.read? whole = some (.object
            [ ("path", .string path),
              ("put_start", f.landmarks.putStart.elim .null fun i => .number i 0),
              ("exists_start", f.landmarks.existsStart.elim .null fun i => .number i 0),
              ("block_end", f.landmarks.blockEnd.elim .null fun i => .number i 0),
              ("excerpt", .array ((excerpt f.document f.landmarks f.rules).map fun line =>
                .object [("index", .number line.index 0), ("text", .string line.text)])) ]) := by
  refine ⟨String.join (json path f).pretty, held_writeJson h, getLast?_pretty_object _ _, ?_⟩
  have hjson : json path f = .object
      [ ("path", .string path),
        ("put_start", f.landmarks.putStart.elim .null fun i => .number i 0),
        ("exists_start", f.landmarks.existsStart.elim .null fun i => .number i 0),
        ("block_end", f.landmarks.blockEnd.elim .null fun i => .number i 0),
        ("excerpt", .array ((excerpt f.document f.landmarks f.rules).map fun line =>
          .object [("index", .number line.index 0), ("text", .string line.text)])) ] := by
    rw [json, ofNat?_eq, ofNat?_eq, ofNat?_eq]
    rfl
  rw [← hjson]
  intro whole hwhole
  rcases hwhole with hwhole | hwhole
  · have hnone := Json.read?_pretty (json path f) [] (by simp)
    rw [String.ofList_nil, String.append_empty] at hnone
    rw [hwhole, hnone]
  · rw [hwhole]
    exact Json.read?_pretty (json path f) ['\n'] (by simp [Json.isSpace])

/-- A path and lines that need escapes, and the greatest index. -/
theorem read?_writeJson_escapes :
    let f : Inspection :=
      ⟨.ofLines ["say \"a\\b\"", "\x01\x7f\r\né😀"], ⟨some 0, some 18446744073709551615, none⟩,
        { Rules.default with excerpt := ⟨0, 2⟩ }⟩
    writeJson "\t\"" f (.unbounded ()) = (.ok (), (writeJson "\t\"" f (.unbounded ())).2)
      ∧ ∃ text : String,
        (writeJson "\t\"" f (.unbounded ())).2.held = (text ++ "\n").toUTF8
          ∧ Json.read? text = some (.object
            [ ("path", .string "\t\""),
              ("put_start", .number 0 0),
              ("exists_start", .number 18446744073709551615 0),
              ("block_end", .null),
              ("excerpt", .array
                [ .object [("index", .number 0 0), ("text", .string "say \"a\\b\"")],
                  .object [("index", .number 1 0), ("text", .string "\x01\x7f\r\né😀")] ]) ]) := by
  intro f
  have hwritten : writeJson "\t\"" f (.unbounded ())
      = (.ok (), (writeJson "\t\"" f (.unbounded ())).2) := by
    rw [writeJson, Sink.writeAll_eq, Sink.write_of_none rfl]
  obtain ⟨text, hheld, -, hread⟩ := read?_writeJson "\t\"" f _ _ hwritten
  refine ⟨hwritten, text, ?_, hread text (Or.inl rfl)⟩
  rw [hheld]
  exact ByteArray.empty_append

end LineLandmarks.Report
