import MainContent.Proofs.Text.Strip
import MainContent.Proofs.Url.Authority

/-!
# What a text says by its scheme

A text that begins with a scheme of the web and its slashes is read as an authority (`ofText_web`). In
any case the scheme of what is read is the one that the text begins with (`exists_of_ofText`), in lower
case (`exists_of_splitScheme?`).
-/

namespace MainContent.Url

/-! ## Schemes of the web -/

/-- There are five schemes of the web. -/
theorem eq_of_schemeKind_web {scheme : String} (h : schemeKind scheme = .web) :
    scheme = "http" ∨ scheme = "https" ∨ scheme = "ws" ∨ scheme = "wss" ∨ scheme = "ftp" := by
  unfold schemeKind at h
  split at h
  · decide
  · decide
  · decide
  · decide
  · decide
  · cases h
  · cases h

/-- Behind a scheme of the web, what follows its colon is found. -/
theorem splitScheme?_append {scheme : String} (h : schemeKind scheme = .web) (rest : List Char) :
    splitScheme? (scheme.toList ++ ':' :: rest) = some (scheme, rest) := by
  rcases eq_of_schemeKind_web h with rfl | rfl | rfl | rfl | rfl <;> rfl

/-- The characters of a scheme of the web are visible. -/
theorem visible_of_mem_scheme {scheme : String} (h : schemeKind scheme = .web) :
    ∀ c ∈ scheme.toList, isVisible c = true := by
  rw [← List.all_eq_true]
  rcases eq_of_schemeKind_web h with rfl | rfl | rfl | rfl | rfl <;> decide

/-- A visible character is no control and no space. -/
theorem not_controlOrSpace_of_isVisible {c : Char} (h : isVisible c = true) :
    isControlOrSpace c = false := by
  simp only [isVisible, Bool.and_eq_true, decide_eq_true_eq] at h
  simpa [isControlOrSpace] using h.1

/-- A text without controls and spaces is read as it is. -/
theorem clean_eq_self {cs : List Char} (h : ∀ c ∈ cs, isControlOrSpace c = false) :
    clean cs = cs := by
  have hstrip : clean cs =
      (Text.strip isControlOrSpace cs).filter fun c => c != '\t' && c != '\n' && c != '\r' := rfl
  rw [hstrip, Text.strip_eq_self h, List.filter_eq_self]
  intro c hc
  have hne {d : Char} (hd : isControlOrSpace d = true) : c ≠ d := by
    rintro rfl
    rw [h c hc] at hd
    cases hd
  simp [hne (d := '\t') (by decide), hne (d := '\n') (by decide), hne (d := '\r') (by decide)]

/-- Behind a scheme of the web and its slashes stands an authority. -/
theorem ofText_web {scheme : String} (hscheme : schemeKind scheme = .web) {text tail : List Char}
    (hne : text ≠ []) (hkept : ∀ c ∈ text, endsAuthority .web c = false)
    (hclean : ∀ c ∈ text ++ tail, isControlOrSpace c = false) :
    ofText (String.ofList (scheme.toList ++ ':' :: '/' :: '/' :: (text ++ tail))) =
      readAuthority .web scheme (text ++ tail) := by
  have hall : ∀ c ∈ scheme.toList ++ ':' :: '/' :: '/' :: (text ++ tail),
      isControlOrSpace c = false := by
    refine List.forall_mem_append.2 ⟨fun c hc =>
      not_controlOrSpace_of_isVisible (visible_of_mem_scheme hscheme c hc), ?_⟩
    simp only [List.forall_mem_cons]
    exact ⟨by decide, by decide, by decide, hclean⟩
  have hslashes : ('/' :: '/' :: (text ++ tail)).dropWhile (isSlash .web) = text ++ tail := by
    obtain ⟨c, rest, rfl⟩ := List.exists_cons_of_ne_nil hne
    have hends := hkept c List.mem_cons_self
    simp only [endsAuthority, Bool.or_eq_false_iff] at hends
    rw [List.dropWhile_cons_of_pos (by decide), List.dropWhile_cons_of_pos (by decide),
      List.cons_append, List.dropWhile_cons_of_neg (Bool.eq_false_iff.1 hends.1.1)]
  rw [ofText, read, String.toList_ofList, clean_eq_self hall]
  simp only [splitScheme?_append hscheme]
  rw [readAbsolute, hscheme]
  simp only [hslashes]

/-! ## The scheme of what is read -/

/-- The scheme of what is read behind `//`. -/
theorem scheme_of_readAuthority {kind : SchemeKind} {scheme : String} {cs : List Char} {u : Url}
    (h : readAuthority kind scheme cs = .ok u) : u.scheme = scheme := by
  obtain ⟨userinfo, hostText, host, port, left, tail, -, rfl⟩ := exists_of_readAuthority h
  rfl

/-- The scheme of what is read as a file. -/
theorem scheme_of_readFile {cs : List Char} {u : Url} (h : readFile none cs = .ok u) :
    u.scheme = "file" := by
  have hstep {cs : List Char} (h : readFile.step none cs = .ok u) : u.scheme = "file" := by
    unfold readFile.step at h
    dsimp only at h
    split at h
    · split at h <;> obtain rfl := Except.ok.inj h <;> rfl
    · rename_i hbase
      cases hbase
    · obtain rfl := Except.ok.inj h
      rfl
  unfold readFile at h
  dsimp only at h
  split at h
  · split at h
    · split at h
      · obtain rfl := Except.ok.inj h
        rfl
      · obtain ⟨host, -, h⟩ := (Failure.bind_eq_ok_iff _ _ _).1 h
        obtain rfl := Except.ok.inj h
        rfl
    · exact hstep h
  · exact hstep h

/-- The scheme of what is read under a scheme that is not special. -/
theorem scheme_of_readOther {scheme : String} {cs : List Char} {u : Url}
    (h : readOther scheme cs = .ok u) : u.scheme = scheme := by
  unfold readOther at h
  split at h
  · exact scheme_of_readAuthority h
  · obtain rfl := Except.ok.inj h
    rfl
  · obtain rfl := Except.ok.inj h
    rfl

/-- Only the scheme of files is read as such. -/
theorem eq_file_of_schemeKind {scheme : String} (h : schemeKind scheme = .file) :
    scheme = "file" := by
  unfold schemeKind at h
  split at h <;> first | rfl | cases h

/-- What a text with a scheme is read as has the scheme. -/
theorem scheme_of_readAbsolute {scheme : String} {cs : List Char} {u : Url}
    (h : readAbsolute none scheme cs = .ok u) : u.scheme = scheme := by
  unfold readAbsolute at h
  split at h
  · rename_i hkind
    rw [eq_file_of_schemeKind hkind]
    exact scheme_of_readFile h
  · exact scheme_of_readOther h
  · exact scheme_of_readAuthority h

/-- What a text is read as by itself has the scheme that the text begins with. -/
theorem exists_of_ofText {text : String} {u : Url} (h : ofText text = .ok u) :
    ∃ rest, splitScheme? (clean text.toList) = some (u.scheme, rest) ∧
      readAbsolute none u.scheme rest = .ok u := by
  unfold ofText read at h
  dsimp only at h
  split at h
  · rename_i scheme rest hsplit
    obtain rfl := scheme_of_readAbsolute h
    exact ⟨rest, hsplit, h⟩
  · cases h

/-- The scheme of a text is what stands before its first colon, in lower case. -/
theorem exists_of_splitScheme? {cs rest : List Char} {scheme : String}
    (h : splitScheme? cs = some (scheme, rest)) :
    ∃ written, cs = written ++ ':' :: rest ∧ ':' ∉ written ∧
      scheme = String.ofList (Text.toLowerAscii written) := by
  unfold splitScheme? at h
  split at h
  · cases h
  · split at h
    · split at h
      · rename_i tail htail
        obtain ⟨rfl, rfl⟩ := Prod.mk.inj (Option.some.inj h)
        refine ⟨_, ?_, fun hmem => ?_, rfl⟩
        · rw [← htail, List.takeWhile_append_dropWhile]
        · exact absurd (List.mem_takeWhile_imp hmem) (by decide)
      · cases h
    · cases h

end MainContent.Url
