import MainContent.Proofs.Url.Authority
import MainContent.Proofs.Url.Path
import MainContent.Proofs.Url.Scheme

/-!
# URLs of the web are read as they are written

What is read under a scheme of the web is a URL in normal form (`web_of_ofText`). The text of such a
URL is read as the URL, unless its host has a label that is too long to be read (`Web.ofText_shown`):
each of its parts is found in the text where it was written, and kept as it is. `ofText_of_host` is
about texts that are not in normal form, but name no more than a host.
-/

namespace MainContent.Url

/-- A URL of the web in the form in which it is written. -/
structure Web (u : Url) : Prop where
  /-- The scheme is one of the web. -/
  scheme : schemeKind u.scheme = .web
  /-- The user's name needs no escape. -/
  username : ∀ c ∈ u.username.toList, inUserinfoSet c = false
  /-- Neither does the password. -/
  password : ∀ c ∈ u.password.toList, inUserinfoSet c = false
  /-- There is a host. -/
  host : ∃ h, u.host = some h ∧ h.Canonical
  /-- The port is not the scheme's usual one. -/
  port : ∀ p, u.port = some p → p ≤ 65535 ∧ defaultPort? u.scheme ≠ some p
  /-- The path is settled. -/
  path : SettledPath u.path
  /-- The query needs no escape. -/
  query : ∀ q, u.query = some q → ∀ c ∈ q.toList, inSpecialQuerySet c = false
  /-- Neither does the fragment. -/
  fragment : ∀ f, u.fragment = some f → ∀ c ∈ f.toList, inFragmentSet c = false

/-- What is read behind the slashes of a scheme of the web is in normal form. -/
theorem web_of_readAuthority {scheme : String} {cs : List Char} {u : Url}
    (hscheme : schemeKind scheme = .web) (h : readAuthority .web scheme cs = .ok u) : Web u := by
  obtain ⟨userinfo, hostText, host, port, left, tail, hread, rfl⟩ := exists_of_readAuthority h
  obtain ⟨hhost, hport⟩ := canonical_of_readHostAndPort hread
  have huserinfo (cs : List Char) : ∀ c ∈ (keepUserinfo cs).toList, inUserinfoSet c = false := by
    rw [keepUserinfo, String.toList_ofList]
    exact escaping_userinfo.not_mem_percentEncode cs
  constructor
  · exact hscheme
  · exact huserinfo _
  · exact huserinfo _
  · exact ⟨host, rfl, hhost⟩
  · exact hport
  · exact settledPath_readPath _
  · intro q hq
    obtain ⟨cs, -, rfl⟩ := Option.map_eq_some_iff.1 hq
    rw [keepQuery, String.toList_ofList]
    exact escaping_specialQuery.not_mem_percentEncode cs
  · intro f hf
    obtain ⟨cs, -, rfl⟩ := Option.map_eq_some_iff.1 hf
    rw [keepFragment, String.toList_ofList]
    exact escaping_fragment.not_mem_percentEncode cs

/-- What a text is read as under a scheme of the web is in normal form. -/
theorem web_of_ofText {text : String} {u : Url} (h : ofText text = .ok u)
    (hscheme : schemeKind u.scheme = .web) : Web u := by
  obtain ⟨rest, -, hread⟩ := exists_of_ofText h
  rw [readAbsolute, hscheme] at hread
  exact web_of_readAuthority hscheme hread

/-! ## Users -/

/-- The text of the user's name and password, without what separates it from the host. -/
def userinfo (u : Url) : List Char :=
  if u.password.isEmpty then u.username.toList else u.username.toList ++ ':' :: u.password.toList

/-- The credentials are nothing, or the user's name and password before an `@`. -/
theorem credentials_cases (u : Url) :
    (u.credentials.toList = [] ∧ u.username = "" ∧ u.password = "") ∨
      u.credentials.toList = u.userinfo ++ ['@'] := by
  have hat : "@".toList = ['@'] := rfl
  have hcolon : ":".toList = [':'] := rfl
  unfold credentials userinfo
  by_cases hpassword : u.password.isEmpty = true
  · by_cases husername : u.username.isEmpty = true
    · rw [husername, hpassword]
      exact .inl ⟨rfl, String.isEmpty_iff.1 husername, String.isEmpty_iff.1 hpassword⟩
    · exact .inr (by simp [husername, hpassword, hat])
  · exact .inr (by simp [hpassword, hat, hcolon])

/-- The characters of the credentials. -/
theorem Web.of_mem_credentials {u : Url} (hu : Web u) :
    ∀ c ∈ u.credentials.toList, endsAuthority .web c = false ∧ isVisible c = true := by
  have hkept {c : Char} (hc : inUserinfoSet c = false) :
      endsAuthority .web c = false ∧ isVisible c = true :=
    ⟨(ne_of_not_userinfo hc).2.2,
      visible_of_not_fragment (not_fragment_of_not_path (not_path_of_not_userinfo hc))⟩
  intro c hmem
  rcases u.credentials_cases with ⟨hcredentials, -⟩ | hcredentials
  · rw [hcredentials] at hmem
    cases hmem
  · rw [hcredentials] at hmem
    rcases List.mem_append.1 hmem with hmem | hmem
    · unfold userinfo at hmem
      split at hmem
      · exact hkept (hu.username c hmem)
      · rcases List.mem_append.1 hmem with hmem | hmem
        · exact hkept (hu.username c hmem)
        · rcases List.mem_cons.1 hmem with rfl | hmem
          · decide
          · exact hkept (hu.password c hmem)
    · rw [List.mem_singleton.1 hmem]
      decide

/-- The user's name is what stands before the colon. -/
theorem Web.keepUserinfo_name {u : Url} (hu : Web u) :
    keepUserinfo (u.userinfo.takeWhile (· ≠ ':')) = u.username := by
  have hplain : ':' ∉ u.username.toList := fun hmem =>
    (ne_of_not_userinfo (hu.username ':' hmem)).1 rfl
  unfold userinfo
  split
  · rw [Text.takeWhile_ne_eq_self hplain, keepUserinfo_eq_self hu.username]
  · rw [Text.takeWhile_ne_append hplain, keepUserinfo_eq_self hu.username]

/-- The password is what follows the colon. -/
theorem Web.keepUserinfo_password {u : Url} (hu : Web u) :
    keepUserinfo ((u.userinfo.dropWhile (· ≠ ':')).drop 1) = u.password := by
  have hplain : ':' ∉ u.username.toList := fun hmem =>
    (ne_of_not_userinfo (hu.username ':' hmem)).1 rfl
  unfold userinfo
  split
  · rename_i hempty
    rw [Text.dropWhile_ne_eq_nil hplain, String.isEmpty_iff.1 hempty]
    rfl
  · rw [Text.dropWhile_ne_append hplain, List.drop_one, List.tail_cons,
      keepUserinfo_eq_self hu.password]

/-! ## Tails -/

/-- The text of a query, with its mark. -/
def queryText : Option String → List Char
  | some q => '?' :: q.toList
  | none => []

/-- The text of a fragment, with its mark. -/
def fragmentText : Option String → List Char
  | some f => '#' :: f.toList
  | none => []

/-- A text from its path on is cut into its parts. -/
theorem splitTail_append {path : List Char} {query fragment : Option String}
    (hpath : '?' ∉ path ∧ '#' ∉ path) (hquery : ∀ q, query = some q → '#' ∉ q.toList) :
    splitTail (path ++ (queryText query ++ fragmentText fragment)) =
      { path, query := query.map String.toList, fragment := fragment.map String.toList } := by
  have hhash : '#' ∉ path ++ queryText query := by
    intro hmem
    rcases List.mem_append.1 hmem with hmem | hmem
    · exact hpath.2 hmem
    · cases query with
      | none => cases hmem
      | some q =>
        rcases List.mem_cons.1 hmem with hmark | hmem
        · cases hmark
        · exact hquery q rfl hmem
  -- The fragment is cut off first, so that a question mark in it divides nothing.
  have hbody : (path ++ (queryText query ++ fragmentText fragment)).takeWhile (· ≠ '#') =
      path ++ queryText query := by
    rw [← List.append_assoc]
    cases fragment with
    | none => rw [fragmentText, List.append_nil, Text.takeWhile_ne_eq_self hhash]
    | some f => rw [fragmentText, Text.takeWhile_ne_append hhash]
  have hend : (path ++ (queryText query ++ fragmentText fragment)).dropWhile (· ≠ '#') =
      fragmentText fragment := by
    rw [← List.append_assoc]
    cases fragment with
    | none => rw [fragmentText, List.append_nil, Text.dropWhile_ne_eq_nil hhash]
    | some f => rw [fragmentText, Text.dropWhile_ne_append hhash]
  have hfront : (path ++ queryText query).takeWhile (· ≠ '?') = path := by
    cases query with
    | none => rw [queryText, List.append_nil, Text.takeWhile_ne_eq_self hpath.1]
    | some q => rw [queryText, Text.takeWhile_ne_append hpath.1]
  have hbehind : (path ++ queryText query).dropWhile (· ≠ '?') = queryText query := by
    cases query with
    | none => rw [queryText, List.append_nil, Text.dropWhile_ne_eq_nil hpath.1]
    | some q => rw [queryText, Text.dropWhile_ne_append hpath.1]
  unfold splitTail
  simp only [hbody, hend, hfront, hbehind]
  cases query <;> cases fragment <;> rfl

/-! ## Whole URLs -/

/-- The text of a URL between its slashes and its path, with its host. -/
def authorityText (u : Url) (h : Host) : List Char :=
  u.credentials.toList ++ (h.shown.toList ++ portText u.port)

/-- The text of a URL from its path on. -/
def tailText (u : Url) : List Char :=
  u.path.shown.toList ++ (queryText u.query ++ fragmentText u.fragment)

/-- The text of a URL with a host is made of a scheme, an authority and what follows from its path
on. -/
theorem toList_shown {u : Url} {h : Host} (hh : u.host = some h) :
    u.shown.toList =
      u.scheme.toList ++ ':' :: '/' :: '/' :: (u.authorityText h ++ u.tailText) := by
  have hguard : u.pathGuard = "" := by
    rw [pathGuard, hh]
  have hmarks : ":".toList = [':'] ∧ "//".toList = ['/', '/'] ∧ "?".toList = ['?'] ∧
      "#".toList = ['#'] := ⟨rfl, rfl, rfl, rfl⟩
  obtain ⟨hcolon, hslashes, hquestion, hhash⟩ := hmarks
  rw [shown, authority, hh, hguard, authorityText, tailText]
  cases u.port <;> cases u.query <;> cases u.fragment <;>
    simp [portText, queryText, fragmentText, hcolon, hslashes, hquestion, hhash, Nat.toList_repr]

/-- The text from the path on is cut into the parts of the URL. -/
theorem Web.splitTail_tailText {u : Url} (hu : Web u) : splitTail u.tailText =
    { path := u.path.shown.toList, query := u.query.map String.toList,
      fragment := u.fragment.map String.toList } := by
  obtain ⟨text, hshown, htext⟩ := hu.path.exists_shown_eq_cons
  refine splitTail_append ?_ fun q hq hhash => absurd (hu.query q hq '#' hhash) (by decide)
  rw [hshown]
  constructor
  · intro hmem
    exact absurd (htext '?' (List.mem_of_ne_of_mem (by decide) hmem)) (by decide)
  · intro hmem
    exact absurd (htext '#' (List.mem_of_ne_of_mem (by decide) hmem)) (by decide)

/-- The parts of the URL are kept as they are. -/
theorem Web.withTail_eq {u : Url} (hu : Web u) {h : Host} (hh : u.host = some h) :
    withTail .web
      { scheme := u.scheme, username := u.username, password := u.password, host := some h,
        port := u.port, path := readPath .web u.path.shown.toList, query := none, fragment := none }
      { path := u.path.shown.toList, query := u.query.map String.toList,
        fragment := u.fragment.map String.toList } = u := by
  have hquery : (u.query.map String.toList).map (keepQuery .web) = u.query := by
    cases hq : u.query with
    | none => rfl
    | some q =>
      rw [Option.map_some, Option.map_some, keepQuery]
      simp only [SchemeKind.isSpecial, if_true]
      rw [percentEncode_eq_self (hu.query q hq), String.ofList_toList]
  have hfragment : (u.fragment.map String.toList).map keepFragment = u.fragment := by
    cases hf : u.fragment with
    | none => rfl
    | some f =>
      rw [Option.map_some, Option.map_some, keepFragment, percentEncode_eq_self (hu.fragment f hf),
        String.ofList_toList]
  rw [withTail, hu.path.readPath_shown, hquery, hfragment, ← hh]

/-- The authority does not end before its path. -/
theorem Web.of_mem_authorityText {u : Url} (hu : Web u) {h : Host} (hc : h.Canonical) :
    ∀ c ∈ u.authorityText h, endsAuthority .web c = false ∧ isVisible c = true := by
  intro c hmem
  rcases List.mem_append.1 hmem with hmem | hmem
  · exact hu.of_mem_credentials c hmem
  · exact (hc.of_mem_shown_port hmem).2

/-- The credentials are found before the last `@`. -/
theorem divided_authorityText (u : Url) {h : Host} (hc : h.Canonical) :
    Divided (u.authorityText h) u.userinfo (h.shown.toList ++ portText u.port) := by
  have hat : '@' ∉ h.shown.toList ++ portText u.port := fun hmem =>
    (hc.of_mem_shown_port hmem).1 rfl
  rcases u.credentials_cases with ⟨hcredentials, husername, hpassword⟩ | hcredentials
  · have hnone : u.userinfo = [] := by
      rw [userinfo, husername, hpassword]
      rfl
    rw [authorityText, hcredentials, List.nil_append, hnone]
    exact .host hat
  · rw [authorityText, hcredentials, List.append_assoc, List.singleton_append]
    exact .user hat

/-- What follows the slashes of a URL of the web is read as the URL, if its host is readable. -/
theorem Web.readAuthority_shown {u : Url} (hu : Web u) {h : Host} (hh : u.host = some h)
    (hc : h.Canonical) : readAuthority .web u.scheme (u.authorityText h ++ u.tailText) =
      if h.Readable then .ok u else .error .domainName := by
  have hne : h.shown.toList ++ portText u.port ≠ [] := fun hnil =>
    hc.shown_ne_nil (List.append_eq_nil_iff.1 hnil).1
  have hname : decide (h = .name "") = false := decide_eq_false hc.ne_empty
  obtain ⟨text, hshown, -⟩ := hu.path.exists_shown_eq_cons
  have htail : u.tailText = '/' :: (text ++ (queryText u.query ++ fragmentText u.fragment)) := by
    rw [tailText, hshown, List.cons_append]
  have hparts := hu.splitTail_tailText
  rw [htail] at hparts ⊢
  rw [readAuthority_of_divided (u.divided_authorityText hc) hne fun c hmem =>
    (hu.of_mem_authorityText hc c hmem).1, readHostAndPort_shown hc hu.port]
  by_cases hreadable : h.Readable
  · rw [if_pos hreadable, if_pos hreadable]
    simp only [Except.bind, hname, Bool.false_and, Bool.false_eq_true, if_false, List.nil_append,
      hu.keepUserinfo_name, hu.keepUserinfo_password, hparts, hu.withTail_eq hh]
  · rw [if_neg hreadable, if_neg hreadable]
    rfl

/-- The text of a URL of the web from its path on is visible. -/
theorem Web.visible_tailText {u : Url} (hu : Web u) :
    ∀ c ∈ u.tailText, isVisible c = true := by
  obtain ⟨text, hshown, htext⟩ := hu.path.exists_shown_eq_cons
  intro c hc
  rw [tailText, hshown, List.cons_append, List.mem_cons, List.mem_append, List.mem_append] at hc
  rcases hc with rfl | hc | hc | hc
  · decide
  · exact visible_of_not_fragment (not_fragment_of_not_path (htext c hc))
  · cases hq : u.query with
    | none =>
      rw [hq] at hc
      cases hc
    | some q =>
      rw [hq] at hc
      rcases List.mem_cons.1 hc with rfl | hc
      · decide
      · exact visible_of_not_specialQuery (hu.query q hq c hc)
  · cases hf : u.fragment with
    | none =>
      rw [hf] at hc
      cases hc
    | some f =>
      rw [hf] at hc
      rcases List.mem_cons.1 hc with rfl | hc
      · decide
      · exact visible_of_not_fragment (hu.fragment f hf c hc)

/-- The text of a URL of the web is visible. -/
theorem Web.visible_shown {u : Url} (hu : Web u) :
    ∀ c ∈ u.shown.toList, isVisible c = true := by
  obtain ⟨h, hh, hc⟩ := hu.host
  intro c hmem
  rw [toList_shown hh, List.mem_append, List.mem_cons, List.mem_cons, List.mem_cons,
    List.mem_append] at hmem
  rcases hmem with hmem | rfl | rfl | rfl | hmem | hmem
  · exact visible_of_mem_scheme hu.scheme c hmem
  · decide
  · decide
  · decide
  · exact (hu.of_mem_authorityText hc c hmem).2
  · exact hu.visible_tailText c hmem

/-- The text of a URL of the web is read as the URL, if its host is readable. -/
theorem Web.ofText_shown {u : Url} (hu : Web u) {h : Host} (hh : u.host = some h) :
    ofText u.shown = if h.Readable then .ok u else .error .domainName := by
  obtain ⟨host, hhost, hc⟩ := hu.host
  obtain rfl : h = host := Option.some.inj (hh.symm.trans hhost)
  have hshown := toList_shown hh
  have hne : u.authorityText h ≠ [] := fun hnil =>
    hc.shown_ne_nil (List.append_eq_nil_iff.1 (List.append_eq_nil_iff.1 hnil).2).1
  have hclean : ∀ c ∈ u.authorityText h ++ u.tailText, isControlOrSpace c = false := by
    intro c hmem
    refine not_controlOrSpace_of_isVisible (hu.visible_shown c ?_)
    rw [hshown]
    simp only [List.mem_append, List.mem_cons] at hmem ⊢
    tauto
  calc ofText u.shown
      = ofText (String.ofList (u.scheme.toList ++ ':' :: '/' :: '/' ::
          (u.authorityText h ++ u.tailText))) := by rw [← hshown, String.ofList_toList]
    _ = readAuthority .web u.scheme (u.authorityText h ++ u.tailText) :=
        ofText_web hu.scheme hne (fun c hmem => (hu.of_mem_authorityText hc c hmem).1) hclean
    _ = if h.Readable then .ok u else .error .domainName := hu.readAuthority_shown hh hc

/-! ## Texts that name a host -/

/-- A character that stands for nothing but itself in the text of a host. -/
structure Separate (c : Char) : Prop where
  /-- It is kept. -/
  kept : isControlOrSpace c = false
  /-- It does not end the authority. -/
  authority : endsAuthority .web c = false
  /-- It does not divide a user from the host. -/
  user : c ≠ '@'
  /-- It does not divide the host from a port. -/
  colon : c ≠ ':'
  /-- It does not begin an address in brackets. -/
  bracket : c ≠ '['

/-- What names only a host is read as the host. -/
theorem ofText_of_host {scheme : String} (hscheme : schemeKind scheme = .web) {cs : List Char}
    {h : Host} (hread : readSpecialHost cs = .ok h) (hne : cs ≠ []) (hcs : ∀ c ∈ cs, Separate c) :
    ofText (String.ofList (scheme.toList ++ ':' :: '/' :: '/' :: (cs ++ ['/']))) =
      .ok { scheme, username := "", password := "", host := some h, port := none,
            path := .segments [""], query := none, fragment := none } := by
  have hclean : ∀ c ∈ cs ++ ['/'], isControlOrSpace c = false :=
    List.forall_mem_append.2 ⟨fun c hc => (hcs c hc).kept, by simp [isControlOrSpace]⟩
  have hsplit : splitHost false cs = (cs, []) := by
    have happend := splitHost_append (fun c hc => ⟨(hcs c hc).colon, (hcs c hc).bracket⟩) []
    rwa [List.append_nil, splitHost, List.append_nil] at happend
  have hhost : readHostAndPort .web scheme cs = .ok (h, none, []) := by
    have hempty : cs.isEmpty = false := by simpa using hne
    unfold readHostAndPort
    simp only [hsplit, SchemeKind.isSpecial, Bool.true_and, hempty, if_true, Bool.false_and,
      Bool.false_eq_true, if_false, hread]
    rfl
  have hname : decide (h = .name "") = false :=
    decide_eq_false (canonical_of_readSpecialHost hread).ne_empty
  have hdivided : Divided cs [] cs := .host fun hmem => (hcs '@' hmem).user rfl
  have hkept : ∀ c ∈ cs, endsAuthority .web c = false := fun c hc => (hcs c hc).authority
  rw [ofText_web hscheme hne hkept hclean, readAuthority_of_divided hdivided hne hkept, hhost]
  simp only [Except.bind, hname, Bool.false_and, Bool.false_eq_true, if_false]
  rfl

end MainContent.Url
