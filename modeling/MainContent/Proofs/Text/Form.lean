import MainContent.Proofs.Text.Part
import MainContent.Proofs.Text.Utf8
import MainContent.Text.Form

/-!
# The two readings of a form-encoded text agree

A form-encoded text is read in two ways: the lossy reading always exists and shows U+FFFD for every
ill-formed part (`decode`), the strict one exists only where no part is ill-formed (`decode?`).
`decode_eq_iff` says that they agree on every text without U+FFFD: one of them reads the text exactly
when the other one does.

The pieces of a text are what stands between the `&` (`ampersand_not_mem_pieces`, `pieces_append`), and
the first `=` of a piece divides its name from its value (`rawName_append`, `rawValue_append`).
-/

namespace MainContent.Text.Form

/-- The lossy and the strict reading agree on which form-encoded texts stand for a text without
U+FFFD. -/
theorem decode_eq_iff (cs text : List Char) (h : '\uFFFD' ∉ text) :
    decode cs = text ↔ decode? cs = some text := by
  unfold decode decode?
  constructor
  · intro hd
    rw [← hd] at h ⊢
    exact Utf8.decode?_of_decodeLossy _ h
  · intro hd
    exact Utf8.decodeLossy_of_decode? _ _ hd

/-- The empty text is read as the empty text. -/
theorem decode_nil : decode [] = [] := by
  simp [decode, plusToSpace, Utf8.encode, Percent.decode, Utf8.decodeLossy, Utf8.read, Utf8.readOnto]

/-- The pieces of a text contain no `&`. -/
theorem ampersand_not_mem_pieces (cs piece : List Char) (h : piece ∈ pieces cs) : '&' ∉ piece :=
  not_mem_of_mem_splitOn h

/-- The pieces of two texts with an `&` between them are the pieces of both. -/
theorem pieces_append (cs ds : List Char) : pieces (cs ++ '&' :: ds) = pieces cs ++ pieces ds :=
  List.splitOn_append_cons_self cs ds

/-- A text without an `&` is one piece. -/
theorem pieces_of_ampersand_not_mem {cs : List Char} (h : '&' ∉ cs) : pieces cs = [cs] :=
  List.splitOn_eq_singleton h

/-- The name ends at the first `=`. -/
theorem rawName_append {cs : List Char} (h : '=' ∉ cs) (ds : List Char) :
    rawName (cs ++ '=' :: ds) = cs :=
  takeWhile_ne_append h

/-- The value begins after the first `=`, and has the others. -/
theorem rawValue_append {cs : List Char} (h : '=' ∉ cs) (ds : List Char) :
    rawValue (cs ++ '=' :: ds) = ds := by
  rw [rawValue, dropWhile_ne_append h, List.drop_one, List.tail_cons]

end MainContent.Text.Form
