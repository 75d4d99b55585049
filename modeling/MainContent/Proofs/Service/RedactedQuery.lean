import MainContent.Proofs.Service.Query
import MainContent.Proofs.Service.Redaction
import Mathlib.Data.List.TakeWhile

/-!
# What a redacted query says

A redacted query can be read again. Each of its pieces has the name that it had before
(`name_redactPiece`), and a piece that is no key is left as it was, so the parameters that are read of
it are those of the query, with the placeholder for the key (`ofText_redact_stable`).

Redaction works piece by piece, and the pieces of a text determine it (`Form.pieces_injective`). So a
redacted query has nothing left to redact, and queries that are joined may be redacted one by one.
-/

namespace MainContent.Text.Form

/-- A text is determined by its pieces. -/
theorem pieces_injective {cs ds : List Char} (h : pieces cs = pieces ds) : cs = ds := by
  have hjoined : ∀ es : List Char, ['&'].intercalate (pieces es) = es := fun _ =>
    List.intercalate_splitOn '&'
  rw [← hjoined cs, ← hjoined ds, h]

/-- The raw name has no `=`. -/
theorem equals_not_mem_rawName (piece : List Char) : '=' ∉ rawName piece := by
  intro h
  have hname := List.mem_takeWhile_imp h
  exact absurd rfl (of_decide_eq_true hname)

end MainContent.Text.Form

namespace MainContent.Service.Redaction

open MainContent.Text

/-! ## One piece -/

/-- A piece that shows the placeholder has its raw name in front of it. -/
theorem rawName_redactPiece (piece : List Char) :
    Form.rawName (redactPiece piece) = Form.rawName piece := by
  by_cases hname : Form.name piece = Query.keyName.toList
  · rw [redactPiece_of_name_eq piece hname,
      Form.rawName_append (Form.equals_not_mem_rawName piece)]
  · rw [redactPiece_of_name_ne piece hname]

/-- A piece is shown under the name that it has. -/
theorem name_redactPiece (piece : List Char) : Form.name (redactPiece piece) = Form.name piece := by
  rw [Form.name, rawName_redactPiece, Form.name]

/-- The placeholder is read as itself. -/
theorem decode_placeholder : Form.decode placeholder.toList = placeholder.toList :=
  Form.decode_of_spells (.of_literal (by decide +kernel))

/-- A key is shown with the placeholder for its value. -/
theorem value_redactPiece {piece : List Char} (h : Form.name piece = Query.keyName.toList) :
    Form.value (redactPiece piece) = placeholder.toList := by
  rw [redactPiece_of_name_eq piece h, Form.value,
    Form.rawValue_append (Form.equals_not_mem_rawName piece), decode_placeholder]

/-- A piece as it is shown has nothing to redact. -/
theorem redactPiece_redactPiece (piece : List Char) :
    redactPiece (redactPiece piece) = redactPiece piece := by
  by_cases hname : Form.name piece = Query.keyName.toList
  · have hshown := (name_redactPiece piece).trans hname
    rw [redactPiece_of_name_eq _ hshown, rawName_redactPiece, redactPiece_of_name_eq piece hname]
  · rw [redactPiece_of_name_ne piece hname, redactPiece_of_name_ne piece hname]

/-! ## All pieces -/

/-- What the pieces of a query say of a name is said by the same piece of the redacted query. -/
theorem valueIn_map_redactPiece (name : String) (pieces : List (List Char)) :
    Query.valueIn name (pieces.map redactPiece) =
      (pieces.find? fun p => Form.name p == name.toList).map fun p =>
        String.ofList (Form.value (redactPiece p)) := by
  have hsame : (fun p => Form.name p == name.toList) ∘ redactPiece =
      fun p => Form.name p == name.toList :=
    funext fun p => congrArg (· == name.toList) (name_redactPiece p)
  rw [Query.valueIn, List.find?_map, hsame, Option.map_map]
  rfl

/-- Of the key, a redacted query says the placeholder where the query says anything. -/
theorem valueIn_keyName_map_redactPiece (pieces : List (List Char)) :
    Query.valueIn Query.keyName (pieces.map redactPiece) =
      (Query.valueIn Query.keyName pieces).map fun _ => placeholder := by
  rw [valueIn_map_redactPiece, Query.valueIn, Option.map_map]
  refine Option.map_congr fun p hp => ?_
  have hname := List.find?_some hp
  rw [beq_iff_eq] at hname
  rw [Function.comp, value_redactPiece hname, String.ofList_toList]

/-- Of any other name, a redacted query says what the query says. -/
theorem valueIn_map_redactPiece_of_ne {name : String} (h : name.toList ≠ Query.keyName.toList)
    (pieces : List (List Char)) :
    Query.valueIn name (pieces.map redactPiece) = Query.valueIn name pieces := by
  rw [valueIn_map_redactPiece, Query.valueIn]
  refine Option.map_congr fun p hp => ?_
  have hname := List.find?_some hp
  rw [beq_iff_eq] at hname
  rw [redactPiece_of_name_ne p (hname ▸ h)]

/-- A redacted query says the same page as the query, and the placeholder for the key exactly where
the query says a key. To redact it once more changes nothing, and of queries that are joined each is
redacted by itself. -/
theorem ofText_redact_stable :
    (∀ query : String, Query.ofText (redact query) =
      ⟨(Query.ofText query).key.map fun _ => "[REDACTED]", (Query.ofText query).url⟩) ∧
    (∀ query : String, redact (redact query) = redact query) ∧
    (∀ query query' : String,
      redact (query ++ "&" ++ query') = redact query ++ "&" ++ redact query') := by
  refine ⟨fun query => ?_, fun query => ?_, fun query query' => ?_⟩
  · rw [Query.ofText_eq, Query.ofText_eq, pieces_redact, valueIn_keyName_map_redactPiece,
      valueIn_map_redactPiece_of_ne (by decide)]
    rfl
  · have hpieces : Form.pieces (redact (redact query)).toList =
        Form.pieces (redact query).toList := by
      rw [pieces_redact, pieces_redact, List.map_map]
      exact List.map_congr_left fun piece _ => redactPiece_redactPiece piece
    exact String.toList_inj.1 (Form.pieces_injective hpieces)
  · have happend (s t : String) : Form.pieces (s ++ "&" ++ t).toList =
        Form.pieces s.toList ++ Form.pieces t.toList := by
      rw [String.toList_append, String.toList_append, List.append_assoc]
      exact Form.pieces_append _ _
    have hpieces : Form.pieces (redact (query ++ "&" ++ query')).toList =
        Form.pieces (redact query ++ "&" ++ redact query').toList := by
      rw [happend, pieces_redact, pieces_redact, pieces_redact, happend, List.map_append]
    exact String.toList_inj.1 (Form.pieces_injective hpieces)

-- The name stays as it was written, and a key without a value has one afterwards.
example : redact (redact "k%65y&url=a%26b&key=x=y") =
    "k%65y=[REDACTED]&url=a%26b&key=[REDACTED]" := by decide +kernel

end MainContent.Service.Redaction
