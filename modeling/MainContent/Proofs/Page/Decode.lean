import MainContent.Proofs.Encoding.Utf16
import MainContent.Proofs.Page.Charset
import MainContent.Proofs.Text.IllFormed

/-!
# The text of a page

A page is read from behind its byte-order mark, in the encoding of the mark, or else in the encoding
that has been named for it (`decode_of_splitMark`, `decode_of_no_mark`).

Behind a mark, the bytes of a text are read as that text, whatever the content type or the text itself
names (`decode_marked`). In UTF-8, a page that is no text is read part by part, with U+FFFD for each
ill-formed part, and this is reported once (`decode_of_utf8`).
-/

namespace MainContent.Page

open MainContent.Encoding (splitMark readings)

/-- The byte-order marks. -/
def marks : List (List UInt8) :=
  [[0xEF, 0xBB, 0xBF], [0xFF, 0xFE], [0xFE, 0xFF]]

/-- Bytes that begin with no mark have none to be split off. -/
theorem splitMark_eq_none {bs : List UInt8} (h : ∀ mark ∈ marks, ¬ mark <+: bs) :
    splitMark bs = none := by
  unfold splitMark
  split
  · rename_i rest
    exact absurd ⟨rest, rfl⟩ (h [0xEF, 0xBB, 0xBF] (by decide))
  · rename_i rest
    exact absurd ⟨rest, rfl⟩ (h [0xFF, 0xFE] (by decide))
  · rename_i rest
    exact absurd ⟨rest, rfl⟩ (h [0xFE, 0xFF] (by decide))
  · rfl

/-- A page with a mark is read in the encoding of the mark, from behind it. -/
theorem decode_of_splitMark (contentType : Option String) {body rest : List UInt8} {e : Encoding}
    (h : splitMark body = some (e, rest)) : decode contentType body = readIn e rest := by
  rw [decode_eq_readIn, encodingOf_eq, unmarked, h]
  rfl

/-- A page without a mark is read in the encoding that is named for it. -/
theorem decode_of_no_mark (contentType : Option String) {body : List UInt8}
    (h : splitMark body = none) :
    decode contentType body = readIn (namedEncoding contentType body) body := by
  rw [decode_eq_readIn, encodingOf_eq, unmarked, namedEncoding_eq, h]
  rfl

/-- Bytes that are read as the characters of a text have that text, and nothing is reported. -/
theorem readIn_of_text {e : Encoding} {bs : List UInt8} {s : String}
    (h : readings e bs = s.toList.map some) : readIn e bs = (s, []) := by
  have htext : (readings e bs).map (·.getD '\uFFFD') = s.toList := by
    rw [h, List.map_map]
    exact List.map_id s.toList
  have hwhole : (readings e bs).any Option.isNone = false := by
    rw [h, List.any_map, List.any_eq_false]
    exact fun _ _ => Bool.false_ne_true
  rw [readIn, htext, hwhole, String.ofList_toList]
  rfl

/-- Behind a byte-order mark, the bytes of a text are read as that text, whatever else names an
encoding, and nothing is reported. -/
theorem decode_marked (contentType : Option String) (s : String) :
    decode contentType ([0xEF, 0xBB, 0xBF] ++ Text.Utf8.encode s.toList) = (s, []) ∧
      decode contentType ([0xFF, 0xFE] ++ Encoding.Utf16.encode .little s.toList) = (s, []) ∧
      decode contentType ([0xFE, 0xFF] ++ Encoding.Utf16.encode .big s.toList) = (s, []) := by
  refine ⟨?_, ?_, ?_⟩
  · rw [decode_of_splitMark contentType (e := .utf8) rfl]
    exact readIn_of_text (Text.Utf8.read_encode s.toList)
  · rw [decode_of_splitMark contentType (e := .utf16 .little) rfl]
    exact readIn_of_text (Encoding.Utf16.readings_encode .little s.toList)
  · rw [decode_of_splitMark contentType (e := .utf16 .big) rfl]
    exact readIn_of_text (Encoding.Utf16.readings_encode .big s.toList)

-- A second mark is a character of the text, and so is a pair of surrogates.
example : decode (some "text/html; charset=koi8-r") [0xFF, 0xFE, 0xFF, 0xFE, 0x3D, 0xD8, 0x00, 0xDE] =
    ("\uFEFF😀", []) := by
  decide +kernel

/-- A page that is read as UTF-8, since its mark says so, or since that is named for it and it has no
mark: where its bytes are those of a text, it has that text, and nothing is reported. Otherwise its
bytes fall in exactly one way into characters and ill-formed parts, its text has U+FFFD for each of
these parts, and the damage is reported once. -/
theorem decode_of_utf8 (contentType : Option String) (body bytes : List UInt8)
    (h : body = [0xEF, 0xBB, 0xBF] ++ bytes ∨
      body = bytes ∧ namedEncoding contentType body = .utf8 ∧ ∀ mark ∈ marks, ¬ mark <+: body) :
    (∀ s : String, bytes = Text.Utf8.encode s.toList → decode contentType body = (s, [])) ∧
    ((∀ s : String, bytes ≠ Text.Utf8.encode s.toList) →
      ∃ parts : List (Option Char), (∀ os, Text.Utf8.Segments bytes os ↔ os = parts) ∧
        decode contentType body =
          (String.ofList (parts.map (·.getD '\uFFFD')),
            [{ level := .debug, target := "article_extractor_lib::services::extractor",
               message := "Page contained undecodable bytes",
               fields := [("encoding", "UTF-8")] }])) := by
  have hread : decode contentType body = readIn .utf8 bytes := by
    rcases h with rfl | ⟨rfl, hnamed, hunmarked⟩
    · exact decode_of_splitMark contentType rfl
    · rw [decode_of_no_mark contentType (splitMark_eq_none hunmarked), hnamed]
  rw [hread]
  refine ⟨fun s hs => ?_, fun hdamaged => ?_⟩
  · rw [hs]
    exact readIn_of_text (Text.Utf8.read_encode s.toList)
  · refine ⟨Text.Utf8.read bytes, fun os => Text.Utf8.segments_iff, ?_⟩
    have hnone : none ∈ Text.Utf8.read bytes := by
      refine Decidable.of_not_not fun hwhole => ?_
      obtain ⟨cs, hcs⟩ := (Text.Utf8.exists_eq_encode_iff bytes).2 hwhole
      exact hdamaged (String.ofList cs) (by rw [String.toList_ofList, hcs])
    have hany : (Text.Utf8.read bytes).any Option.isNone = true :=
      List.any_eq_true.2 ⟨none, hnone, rfl⟩
    rw [readIn]
    exact congrArg (Prod.mk _) (if_pos hany)

/-- A page whose label is not known, and that breaks off a character beside a U+FFFD of its own, and
one whose mark has more say than its label. -/
theorem decode_of_utf8_broken :
    decode (some "text/html; charset=none") [0x61, 0xE2, 0x82, 0x62, 0xEF, 0xBF, 0xBD] =
      ("a\uFFFDb\uFFFD", [damageEvent .utf8]) ∧
    decode (some "text/html; charset=koi8-r") [0xEF, 0xBB, 0xBF, 0xC3, 0xA9] = ("é", []) := by
  have hnamed : namedEncoding (some "text/html; charset=none")
      [0x61, 0xE2, 0x82, 0x62, 0xEF, 0xBF, 0xBD] = .utf8 := by
    decide +kernel
  have hread : Text.Utf8.read [0x61, 0xE2, 0x82, 0x62, 0xEF, 0xBF, 0xBD] =
      [some 'a', none, some 'b', some '\uFFFD'] := by
    decide +kernel
  obtain ⟨-, hbroken⟩ := decode_of_utf8 (some "text/html; charset=none")
    [0x61, 0xE2, 0x82, 0x62, 0xEF, 0xBF, 0xBD] _ (.inr ⟨rfl, hnamed, by decide⟩)
  obtain ⟨htext, -⟩ := decode_of_utf8 (some "text/html; charset=koi8-r")
    [0xEF, 0xBB, 0xBF, 0xC3, 0xA9] [0xC3, 0xA9] (.inl rfl)
  refine ⟨?_, htext "é" (by decide +kernel)⟩
  obtain ⟨parts, hparts, hdecode⟩ := hbroken fun s hs => by
    have hwhole := (Text.Utf8.exists_eq_encode_iff _).1 ⟨s.toList, hs⟩
    rw [hread] at hwhole
    exact hwhole (by decide)
  rw [← (hparts _).1 (Text.Utf8.segments_iff.2 rfl), hread] at hdecode
  rw [hdecode]
  decide +kernel

end MainContent.Page
