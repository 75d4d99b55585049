import MainContent.Proofs.Text.Spelling
import MainContent.Service.Query

/-!
# What a query says

A parameter has the value of the first piece of the query that has its name (`ofText_eq`). So of two
queries that are joined by an `&`, the second has a say only in what the first does not say, and this
for each parameter by itself; `ofText_first_wins` says so together with what a single piece says. It
is the same to read the pieces one after the other, each into the slot of its name (`fill`), where a
slot that is filled stays as it is.

A caller may write a parameter in any spelling and put any other pieces around it: the query says what
has been written (`ofText_of_spellings`).
-/

namespace MainContent.Service.Query

open MainContent.Text

/-! ## The first piece of a name -/

/-- The value of the first piece that has the name. -/
def valueIn (name : String) (pieces : List (List Char)) : Option String :=
  (pieces.find? fun p => Form.name p == name.toList).map fun p => String.ofList (Form.value p)

/-- An empty piece has no part in finding a name, unless that is empty as well. -/
theorem first?_pairs {name : String} (hname : name.toList ≠ []) (cs : List Char) :
    first? name (Form.pairs cs) = valueIn name (Form.pieces cs) := by
  have hnil : Form.name [] = [] := Form.decode_nil
  have hsome (p : List Char) (hp : Form.name p = name.toList) : p ≠ [] := by
    rintro rfl
    exact hname (hp.symm.trans hnil)
  rw [first?, Form.pairs, List.find?_map, List.find?_filter, Option.map_map, valueIn]
  congr 2
  funext p
  by_cases hp : Form.name p = name.toList <;> simp [hp, hsome]

/-- A query says what its pieces say. -/
theorem ofText_eq (query : String) :
    ofText query =
      ⟨valueIn keyName (Form.pieces query.toList), valueIn urlName (Form.pieces query.toList)⟩ := by
  rw [ofText, first?_pairs (by decide), first?_pairs (by decide)]

/-- Of two lists of pieces, the first one is asked first. -/
theorem valueIn_append (name : String) (ps qs : List (List Char)) :
    valueIn name (ps ++ qs) = (valueIn name ps).or (valueIn name qs) := by
  rw [valueIn, List.find?_append, Option.map_or, valueIn, valueIn]

/-- A single piece says the value of its name, and nothing else. -/
theorem valueIn_singleton (name : String) (p : List Char) :
    valueIn name [p] =
      if Form.name p = name.toList then some (String.ofList (Form.value p)) else none := by
  rw [valueIn, List.find?_singleton]
  simp only [beq_iff_eq]
  split_ifs <;> rfl

/-- Nothing is said of a name exactly where no piece has it. -/
theorem valueIn_eq_none_iff (name : String) (ps : List (List Char)) :
    valueIn name ps = none ↔ ∀ p ∈ ps, Form.name p ≠ name.toList := by
  rw [valueIn, Option.map_eq_none_iff, List.find?_eq_none]
  simp only [beq_iff_eq, ne_eq]

/-! ## Reading pair by pair -/

/-- A pair fills the slot of its name, unless that has been filled. -/
def fill (q : Query) (pair : List Char × List Char) : Query :=
  if pair.1 = keyName.toList ∧ q.key = none then { q with key := some (String.ofList pair.2) }
  else if pair.1 = urlName.toList ∧ q.url = none then
    { q with url := some (String.ofList pair.2) }
  else q

/-- One pair fills at most the slot of its name, and only if that is empty. -/
theorem fill_eq (q : Query) (pair : List Char × List Char) :
    fill q pair = ⟨q.key.or (first? keyName [pair]), q.url.or (first? urlName [pair])⟩ := by
  have hnames : keyName.toList ≠ urlName.toList := by decide
  obtain ⟨key, url⟩ := q
  obtain ⟨name, value⟩ := pair
  unfold fill first?
  by_cases hkey : name = keyName.toList
  · -- A repeated key goes to no slot at all.
    have hurl : name ≠ urlName.toList := hkey ▸ hnames
    cases key <;> simp [hkey, hnames]
  · by_cases hurl : name = urlName.toList
    · cases url <;> simp [hurl, hnames.symm]
    · simp [hkey, hurl]

/-- All pairs together fill the empty slots with what the first pairs of their names say. -/
theorem foldl_fill (q : Query) (pairs : List (List Char × List Char)) :
    pairs.foldl fill q = ⟨q.key.or (first? keyName pairs), q.url.or (first? urlName pairs)⟩ := by
  have hcons (name : String) (pair : List Char × List Char) (pairs : List (List Char × List Char)) :
      first? name (pair :: pairs) = (first? name [pair]).or (first? name pairs) := by
    rw [first?, ← List.singleton_append, List.find?_append, Option.map_or, first?, first?]
  induction pairs generalizing q with
  | nil => simp [first?]
  | cons pair pairs ih =>
    rw [List.foldl_cons, ih, fill_eq, hcons keyName pair pairs, hcons urlName pair pairs]
    simp only [Option.or_assoc]

/-- A query is read pair by pair into two empty slots. Of two queries that are joined, the first wins,
for each parameter by itself; a single piece says its value of its name; and no query is read as if it
had no parameters: one is missing only where no piece has its name. -/
theorem ofText_first_wins :
    (∀ query : String, ofText query = (Form.pairs query.toList).foldl fill ⟨none, none⟩) ∧
    (∀ query query' : String, ofText (query ++ "&" ++ query') =
      ⟨(ofText query).key.or (ofText query').key, (ofText query).url.or (ofText query').url⟩) ∧
    (∀ piece : String, '&' ∉ piece.toList →
      let value := String.ofList (Form.value piece.toList)
      ofText piece = ⟨if Form.name piece.toList = "key".toList then some value else none,
        if Form.name piece.toList = "url".toList then some value else none⟩) ∧
    (∀ query : String,
      ((ofText query).key = none ↔
        ∀ piece ∈ Form.pieces query.toList, Form.name piece ≠ "key".toList) ∧
      ((ofText query).url = none ↔
        ∀ piece ∈ Form.pieces query.toList, Form.name piece ≠ "url".toList)) := by
  refine ⟨fun query => ?_, fun query query' => ?_, fun piece hpiece => ?_, fun query => ?_⟩
  · rw [foldl_fill, Option.none_or, Option.none_or]
    rfl
  · have hpieces : Form.pieces (query ++ "&" ++ query').toList =
        Form.pieces query.toList ++ Form.pieces query'.toList := by
      rw [String.toList_append, String.toList_append, List.append_assoc]
      exact Form.pieces_append _ _
    rw [ofText_eq, ofText_eq, ofText_eq, hpieces, valueIn_append, valueIn_append]
  · intro value
    rw [ofText_eq, Form.pieces_of_ampersand_not_mem hpiece, valueIn_singleton, valueIn_singleton]
    rfl
  · rw [ofText_eq]
    exact ⟨valueIn_eq_none_iff keyName _, valueIn_eq_none_iff urlName _⟩

/-- An empty first query and a repeated key leave what comes first, and a single piece may have any
spelling of its name. -/
theorem ofText_first_wins_repeated :
    ofText ("%6Bey=a&url=u" ++ "&" ++ "key=b&url=v") = ⟨some "a", some "u"⟩ ∧
      ofText "k%65y=a%26b" = ⟨some "a&b", none⟩ := by
  obtain ⟨-, hjoined, hsingle, -⟩ := ofText_first_wins
  have hfirst : ofText "%6Bey=a&url=u" = ⟨some "a", some "u"⟩ := by decide +kernel
  refine ⟨by rw [hjoined, hfirst]; rfl, ?_⟩
  rw [hsingle "k%65y=a%26b" (by decide)]
  decide +kernel

/-! ## Spellings -/

/-- The pieces that have been joined by `&` are the pieces of the query. -/
theorem pieces_intercalate {pieces : List String} (hsome : pieces ≠ [])
    (h : ∀ piece ∈ pieces, '&' ∉ piece.toList) :
    Form.pieces ("&".intercalate pieces).toList = pieces.map String.toList := by
  rw [String.toList_intercalate]
  apply List.splitOn_intercalate
  · intro piece hpiece
    obtain ⟨text, htext, rfl⟩ := List.mem_map.1 hpiece
    exact h text htext
  · exact fun hnil => hsome (List.map_eq_nil_iff.1 hnil)

/-- A piece that begins with a plain name and `=` has that name, and what is spelled behind it. -/
structure IsParameter (name text : String) (piece : List Char) : Prop where
  name_eq : Form.name piece = name.toList
  value_eq : String.ofList (Form.value piece) = text
  ampersand_not_mem : '&' ∉ piece

theorem isParameter_of_spells {name text written : String}
    (hname : ∀ b ∈ Utf8.encode name.toList, b ≠ 0x26 ∧ b ≠ 0x2B ∧ b ≠ 0x25)
    (hequals : '=' ∉ name.toList)
    (h : Form.Spells (Utf8.encode written.toList) (Utf8.encode text.toList)) :
    IsParameter name text (name.toList ++ '=' :: written.toList) where
  name_eq := by
    rw [Form.name, Form.rawName_append hequals, Form.decode_of_spells (.of_literal hname)]
  value_eq := by
    rw [Form.value, Form.rawValue_append hequals, Form.decode_of_spells h, String.ofList_toList]
  ampersand_not_mem := by
    have hplain := (Form.Spells.of_literal hname).ampersand_not_mem
    simp [hplain, h.ampersand_not_mem]

/-- A parameter is found among pieces of which no other one has its name. -/
theorem valueIn_of_only {name text : String} {pieces : List String} {piece : String}
    (hmem : piece ∈ pieces) (h : IsParameter name text piece.toList)
    (hothers : ∀ other ∈ pieces, other = piece ∨ Form.name other.toList ≠ name.toList) :
    valueIn name (pieces.map String.toList) = some text := by
  have hfound : ((pieces.map String.toList).find? fun p => Form.name p == name.toList).isSome = true :=
    List.find?_isSome.2 ⟨piece.toList, List.mem_map_of_mem hmem, beq_iff_eq.2 h.name_eq⟩
  obtain ⟨p, hp⟩ := Option.isSome_iff_exists.1 hfound
  have hname := List.find?_some hp
  rw [beq_iff_eq] at hname
  obtain ⟨other, hother, rfl⟩ := List.mem_map.1 (List.mem_of_find?_eq_some hp)
  rcases hothers other hother with rfl | hne
  · rw [valueIn, hp, Option.map_some, h.value_eq]
  · exact absurd hname hne

/-- A query in which the caller has spelled a key and a page, in any order, and in which all other
pieces have other names, says the key and the page. -/
theorem ofText_of_spellings (k u key url : String)
    (hkey : Form.Spells (Utf8.encode key.toList) (Utf8.encode k.toList))
    (hurl : Form.Spells (Utf8.encode url.toList) (Utf8.encode u.toList)) (pieces : List String)
    (hkeyMem : "key=" ++ key ∈ pieces) (hurlMem : "url=" ++ url ∈ pieces)
    (hothers : ∀ piece ∈ pieces, piece = "key=" ++ key ∨ piece = "url=" ++ url ∨
      '&' ∉ piece.toList ∧ Form.name piece.toList ≠ "key".toList ∧
        Form.name piece.toList ≠ "url".toList) :
    ofText ("&".intercalate pieces) = ⟨some k, some u⟩ := by
  have hkeyPiece : IsParameter keyName k ("key=" ++ key).toList := by
    rw [String.toList_append]
    exact isParameter_of_spells (by decide +kernel) (by decide) hkey
  have hurlPiece : IsParameter urlName u ("url=" ++ url).toList := by
    rw [String.toList_append]
    exact isParameter_of_spells (by decide +kernel) (by decide) hurl
  have hpieces : Form.pieces ("&".intercalate pieces).toList = pieces.map String.toList := by
    refine pieces_intercalate (List.ne_nil_of_mem hkeyMem) fun piece hpiece => ?_
    rcases hothers piece hpiece with rfl | rfl | hother
    · exact hkeyPiece.ampersand_not_mem
    · exact hurlPiece.ampersand_not_mem
    · exact hother.1
  have hnames : "key".toList ≠ "url".toList := by decide
  have hk : valueIn keyName (pieces.map String.toList) = some k := by
    refine valueIn_of_only hkeyMem hkeyPiece fun piece hpiece => ?_
    refine (hothers piece hpiece).imp_right ?_
    rintro (rfl | hother)
    · rw [hurlPiece.name_eq]
      exact hnames.symm
    · exact hother.2.1
  have hu : valueIn urlName (pieces.map String.toList) = some u := by
    refine valueIn_of_only hurlMem hurlPiece fun piece hpiece => ?_
    rcases hothers piece hpiece with rfl | hurl | hother
    · rw [hkeyPiece.name_eq]
      exact .inr hnames
    · exact .inl hurl
    · exact .inr hother.2.2
  rw [ofText_eq, hpieces, hk, hu]

/-- A key with escapes of both cases and a `+`, behind a page that is written as it is, among an empty
piece and pieces whose names are ill-formed. -/
theorem ofText_of_spellings_mixed :
    ofText "&url=http://[::1]/é?a=b&k%FFey=x&key=%C3%a9+%26&%" =
      ⟨some "é &", some "http://[::1]/é?a=b"⟩ := by
  have hkey : Form.Spells (Utf8.encode "%C3%a9+%26".toList) (Utf8.encode "é &".toList) := by
    have hwritten : Utf8.encode "%C3%a9+%26".toList =
        [0x25, 0x43, 0x33, 0x25, 0x61, 0x39, 0x2B, 0x25, 0x32, 0x36] := by decide +kernel
    have htext : Utf8.encode "é &".toList = [0xC3, 0xA9, 0x20, 0x26] := by decide +kernel
    rw [hwritten, htext]
    have hdecimal (d : UInt8) (h : 0x30 ≤ d.toNat ∧ d.toNat ≤ 0x39) :
        Form.HexDigit d (d.toNat - 0x30) := .decimal h.1 h.2 rfl
    refine .escape (.capital (by decide) (by decide) rfl) (hdecimal _ (by decide)) rfl ?_
    refine .escape (.small (by decide) (by decide) rfl) (hdecimal _ (by decide)) rfl (.plus ?_)
    exact .escape (hdecimal _ (by decide)) (hdecimal _ (by decide)) rfl .nil
  have hurl : Form.Spells (Utf8.encode "http://[::1]/é?a=b".toList)
      (Utf8.encode "http://[::1]/é?a=b".toList) := .of_literal (by decide +kernel)
  exact ofText_of_spellings "é &" "http://[::1]/é?a=b" _ _ hkey hurl
    ["", "url=http://[::1]/é?a=b", "k%FFey=x", "key=%C3%a9+%26", "%"] (by decide) (by decide)
    (by decide +kernel)

end MainContent.Service.Query
