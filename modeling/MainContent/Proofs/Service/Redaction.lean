import MainContent.Proofs.Text.Form
import MainContent.Service.Redaction

/-!
# Redaction hides what the parameters read as keys

The log and the parameters read the name of a pair by themselves: redaction reads it strictly and
falls back on the raw name (`Redaction.readName`), the parameters read it lossily (`Form.name`).
`readName_eq_keyName_iff` says that both find `key` in the same pairs, since a name with an
ill-formed part is `key` to neither.

A redacted query therefore has the pieces of the query in their order (`pieces_redact`), and each of
them shows the placeholder exactly where the parameters read a key (`pieces_redact_getElem`).
-/

namespace MainContent.Service.Redaction

open MainContent.Text

/-- The raw name `key` is read as itself. -/
theorem decode?_keyName : Form.decode? Query.keyName.toList = some Query.keyName.toList := by
  rw [Form.decode?, Utf8.decode?_eq_some_iff]
  simp [Query.keyName, Form.plusToSpace, Utf8.encode, String.utf8EncodeChar, Percent.decode,
    Utf8.read, Utf8.readOnto, Utf8.next]

/-- Redaction and the parameters find the same pairs to be keys. -/
theorem readName_eq_keyName_iff (piece : List Char) :
    readName piece = Query.keyName.toList ↔ Form.name piece = Query.keyName.toList := by
  rw [readName, Form.name, Form.decode_eq_iff _ _ (by decide)]
  cases hread : Form.decode? (Form.rawName piece) with
  | some text => simp
  | none =>
    -- The raw name is not `key` here, since `key` itself can be read.
    have hraw : Form.rawName piece ≠ Query.keyName.toList := by
      intro h
      rw [h, decode?_keyName] at hread
      exact absurd hread (by simp)
    simp [hraw]

/-- A piece that the parameters read as a key shows its raw name and the placeholder. -/
theorem redactPiece_of_name_eq (piece : List Char) (h : Form.name piece = Query.keyName.toList) :
    redactPiece piece = Form.rawName piece ++ '=' :: placeholder.toList := by
  rw [redactPiece, if_pos ((readName_eq_keyName_iff piece).2 h)]

/-- Every other piece is shown as it is written. -/
theorem redactPiece_of_name_ne (piece : List Char) (h : Form.name piece ≠ Query.keyName.toList) :
    redactPiece piece = piece := by
  rw [redactPiece, if_neg (fun hread => h ((readName_eq_keyName_iff piece).1 hread))]

/-- What a piece is shown as contains no `&`. -/
theorem ampersand_not_mem_redactPiece (piece : List Char) (h : '&' ∉ piece) :
    '&' ∉ redactPiece piece := by
  by_cases hname : Form.name piece = Query.keyName.toList
  · rw [redactPiece_of_name_eq piece hname, List.mem_append]
    rintro (hraw | hplaceholder)
    · exact h ((List.takeWhile_prefix _).subset hraw)
    · exact absurd hplaceholder (by decide)
  · rwa [redactPiece_of_name_ne piece hname]

/-- The pieces of a redacted query are what the pieces of the query are shown as, in their order. -/
theorem pieces_redact (query : String) :
    Form.pieces (redact query).toList = (Form.pieces query.toList).map redactPiece := by
  unfold redact
  rw [String.toList_ofList]
  apply List.splitOn_intercalate
  · intro shown hshown
    obtain ⟨piece, hpiece, rfl⟩ := List.mem_map.1 hshown
    exact ampersand_not_mem_redactPiece piece (Form.ampersand_not_mem_pieces _ piece hpiece)
  · intro hnil
    exact List.splitOn_ne_nil '&' query.toList (List.map_eq_nil_iff.1 hnil)

/-- A redacted query has as many pieces as the query. The piece at each place is the raw name with
the placeholder where the parameters read the name as `key`, and the query's own piece elsewhere; so
it has the redacted form there, and elsewhere only if it was written so. -/
theorem pieces_redact_getElem (query : String) :
    (Form.pieces (redact query).toList).length = (Form.pieces query.toList).length ∧
      ∀ (i : Nat) (piece : List Char), (Form.pieces query.toList)[i]? = some piece →
        ∃ shown, (Form.pieces (redact query).toList)[i]? = some shown ∧
          (Form.name piece = "key".toList →
            shown = Form.rawName piece ++ "=[REDACTED]".toList) ∧
          (Form.name piece ≠ "key".toList → shown = piece) ∧
          (shown = Form.rawName piece ++ "=[REDACTED]".toList ↔
            Form.name piece = "key".toList ∨
              piece = Form.rawName piece ++ "=[REDACTED]".toList) := by
  rw [pieces_redact]
  refine ⟨List.length_map _, ?_⟩
  intro i piece hpiece
  refine ⟨redactPiece piece, by rw [List.getElem?_map, hpiece, Option.map_some], ?_⟩
  by_cases hname : Form.name piece = "key".toList
  · have hshown : redactPiece piece = Form.rawName piece ++ "=[REDACTED]".toList :=
      redactPiece_of_name_eq piece hname
    exact ⟨fun _ => hshown, fun hne => absurd hname hne, fun _ => Or.inl hname, fun _ => hshown⟩
  · have hshown : redactPiece piece = piece := redactPiece_of_name_ne piece hname
    rw [hshown]
    refine ⟨fun h => absurd h hname, fun _ => rfl, fun h => Or.inr h, ?_⟩
    rintro (h | h)
    · exact absurd h hname
    · exact h

-- A name with a malformed escape or with ill-formed bytes is no key to either reader.
example : redact "%6Bey=a&k%FFey=b&ke%79%=c&key" =
    "%6Bey=[REDACTED]&k%FFey=b&ke%79%=c&key=[REDACTED]" := by decide +kernel

end MainContent.Service.Redaction
