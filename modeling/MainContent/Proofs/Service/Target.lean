import MainContent.Proofs.Page.Render
import MainContent.Proofs.Url.Overlong
import MainContent.Proofs.Url.Web
import MainContent.Service.Target

/-!
# Targets are URLs in normal form

Blanks around a target do not matter, and what a target is read as is an address of the web with a
host. `readTarget_normal_form` says that its text is read as the same address again, so that a page
does not fail because of its address, unless the host has a label in Punycode that is too long to be
read; and it says why any other text is no target.
-/

namespace MainContent

/-- No label of the host is too long to be read. -/
def Url.HostReadable (u : Url) : Prop :=
  ∀ h, u.host = some h → h.Readable

namespace Service

/-! ## Targets -/

/-- Blanks around a target do not matter. -/
theorem readTarget_blanks {before after : String}
    (hbefore : ∀ c ∈ before.toList, Text.isBlank c = true)
    (hafter : ∀ c ∈ after.toList, Text.isBlank c = true) (raw : String) :
    readTarget (some (before ++ raw ++ after)) = readTarget (some raw) := by
  have htrim : Text.trim (before ++ raw ++ after).toList = Text.trim raw.toList := by
    rw [String.toList_append, String.toList_append, Text.trim, Text.strip_append_right hafter,
      Text.strip_append_left hbefore, Text.trim]
  rw [readTarget, htrim, readTarget]

/-- The schemes of targets are schemes of the web. -/
theorem schemeKind_of_target {scheme : String} (h : scheme = "http" ∨ scheme = "https") :
    Url.schemeKind scheme = .web := by
  rcases h with rfl | rfl <;> rfl

/-- The text of an address of the web is read as the address, if its host is readable. -/
theorem readTarget_shown {u : Url} (hu : u.Web) (hscheme : u.scheme = "http" ∨ u.scheme = "https")
    {h : Url.Host} (hh : u.host = some h) :
    readTarget (some u.shown) = if h.Readable then .ok u else .error (.invalidUrl .domainName) := by
  have htrim : Text.trim u.shown.toList = u.shown.toList := by
    refine Text.strip_eq_self fun c hc => ?_
    have hvisible := hu.visible_shown c hc
    simp only [Url.isVisible, Bool.and_eq_true, decide_eq_true_eq] at hvisible
    simp [Text.isBlank]
    omega
  rw [readTarget, htrim, String.ofList_toList, hu.ofText_shown hh]
  by_cases hreadable : h.Readable
  · rw [if_pos hreadable, if_pos hreadable]
    exact if_pos hscheme
  · rw [if_neg hreadable, if_neg hreadable]

/-- What a target is read as. -/
theorem readTarget_eq_ok_iff (raw : String) (u : Url) :
    readTarget (some raw) = .ok u ↔
      Url.ofText (String.ofList (Text.trim raw.toList)) = .ok u ∧
        (u.scheme = "http" ∨ u.scheme = "https") := by
  rw [readTarget]
  cases Url.ofText (String.ofList (Text.trim raw.toList)) with
  | error cause => simp
  | ok v =>
    simp only [Except.ok.injEq]
    split
    · simp only [Except.ok.injEq]
      constructor
      · rintro rfl
        exact ⟨rfl, by assumption⟩
      · exact And.left
    · simp only [reduceCtorEq, false_iff, not_and]
      rintro rfl
      assumption

/-- A target is an address of the web with a host. -/
theorem web_of_readTarget {raw : String} {u : Url} (h : readTarget (some raw) = .ok u) : u.Web := by
  obtain ⟨hread, hscheme⟩ := (readTarget_eq_ok_iff raw u).1 h
  exact Url.web_of_ofText hread (schemeKind_of_target hscheme)

/-- Under any other scheme, the scheme is named in lower case. -/
theorem readTarget_of_other {raw : String} {u : Url}
    (h : Url.ofText (String.ofList (Text.trim raw.toList)) = .ok u)
    (hscheme : ¬ (u.scheme = "http" ∨ u.scheme = "https")) :
    readTarget (some raw) = .error (.unsupportedScheme u.scheme) ∧
      ∃ written rest, Url.clean (Text.trim raw.toList) = written ++ ':' :: rest ∧ ':' ∉ written ∧
        u.scheme = String.ofList (Text.toLowerAscii written) := by
  obtain ⟨rest, hsplit, -⟩ := Url.exists_of_ofText h
  rw [String.toList_ofList] at hsplit
  obtain ⟨written, hwritten⟩ := Url.exists_of_splitScheme? hsplit
  refine ⟨?_, written, rest, hwritten⟩
  rw [readTarget, h]
  exact if_neg hscheme

/-- Whatever blanks stand around a target, what it is read as is an address under `http` or `https`
with a host. The text of the address is read as the address again, and no page fails because of the
address, unless the host has a label that is too long to be read; then the text is no address, and
every page fails because of it. A text that is an address under another scheme is refused with that
scheme in lower case, and any other text for the cause for which it is no address. -/
theorem readTarget_normal_form (raw : String) :
    (∀ before after : String, (∀ c ∈ before.toList, Text.isBlank c = true) →
      (∀ c ∈ after.toList, Text.isBlank c = true) →
      readTarget (some (before ++ raw ++ after)) = readTarget (some raw)) ∧
    (∀ u, readTarget (some raw) = .ok u →
      (u.scheme = "http" ∨ u.scheme = "https") ∧ u.hostText ≠ "" ∧
      (u.HostReadable → readTarget (some u.shown) = .ok u ∧ ∀ html maxElements cause,
        Page.render html u maxElements ≠ .error (Page.unreadableAddress cause)) ∧
      (¬ u.HostReadable → readTarget (some u.shown) = .error (.invalidUrl .domainName) ∧
        ∀ html maxElements,
          Page.render html u maxElements = .error (Page.unreadableAddress .domainName))) ∧
    (∀ u, Url.ofText (String.ofList (Text.trim raw.toList)) = .ok u →
      if u.scheme = "http" ∨ u.scheme = "https" then readTarget (some raw) = .ok u
      else readTarget (some raw) = .error (.unsupportedScheme u.scheme) ∧
        ∃ written rest, Url.clean (Text.trim raw.toList) = written ++ ':' :: rest ∧ ':' ∉ written ∧
          u.scheme = String.ofList (Text.toLowerAscii written)) ∧
    (∀ cause, Url.ofText (String.ofList (Text.trim raw.toList)) = .error cause →
      readTarget (some raw) = .error (.invalidUrl cause)) := by
  refine ⟨fun before after hbefore hafter => readTarget_blanks hbefore hafter raw,
    fun u hu => ?_, fun u hu => ?_, fun cause hcause => ?_⟩
  · -- Everything about the address follows from its text being read as it was written.
    have hweb := web_of_readTarget hu
    have hscheme := ((readTarget_eq_ok_iff raw u).1 hu).2
    obtain ⟨h, hh, hc⟩ := hweb.host
    have hiff : u.HostReadable ↔ h.Readable :=
      ⟨fun hall => hall h hh, fun hreadable h' hh' => Option.some.inj (hh.symm.trans hh') ▸ hreadable⟩
    have hagain := readTarget_shown hweb hscheme hh
    have htext := hweb.ofText_shown hh
    refine ⟨hscheme, fun hempty => ?_, fun hreadable => ?_, fun hreadable => ?_⟩
    · rw [Url.hostText, hh] at hempty
      have hshown : h.shown = "" := hempty
      exact hc.shown_ne_nil (hshown ▸ rfl)
    · rw [hiff] at hreadable
      rw [if_pos hreadable] at hagain htext
      exact ⟨hagain, fun html n cause => Page.render_ne_unreadableAddress html u u n htext cause⟩
    · rw [hiff] at hreadable
      rw [if_neg hreadable] at hagain htext
      refine ⟨hagain, fun html n => ?_⟩
      rw [Page.render, htext]
  · split
    · rename_i hscheme
      exact (readTarget_eq_ok_iff raw u).2 ⟨hu, hscheme⟩
    · rename_i hscheme
      exact readTarget_of_other hu hscheme
  · rw [readTarget, hcause]

/-! ## An address whose text is no address -/

/-- Ideographs that lie apart. -/
@[irreducible] def ideographs : List Char :=
  (List.range 800).map fun i => Char.ofNat (0x20000 + 40 * i)

/-- The address of the host that ideographs name. -/
def ideographAddress : Url where
  scheme := "http"
  username := ""
  password := ""
  host := some (.name (String.ofList (Url.Domain.writeLabel ideographs)))
  port := none
  path := .segments [""]
  query := none
  fragment := none

/-- What is true of the ideographs. -/
structure IdeographsFacts : Prop where
  /-- They are ideographs. -/
  all : ideographs.all Url.Domain.isIdeograph = true
  /-- They lie apart. -/
  spaced : Url.Domain.Punycode.isSpaced 38 0x80 ideographs = true
  /-- They are many. -/
  length : ideographs.length = 800

theorem ideographsFacts : IdeographsFacts where
  all := by decide +kernel
  spaced := by decide +kernel
  length := by decide +kernel

theorem isIdeograph_of_mem : ∀ c ∈ ideographs, Url.Domain.isIdeograph c = true :=
  List.all_eq_true.1 ideographsFacts.all

/-- Ideographs separate nothing. -/
theorem separate_of_ideograph {c : Char} (h : Url.Domain.isIdeograph c = true) : Url.Separate c := by
  rw [Url.Domain.isIdeograph_iff] at h
  have hne {d : Char} (hd : d.toNat < 0x80) : c ≠ d := by
    rintro rfl
    omega
  constructor
  · simp [Url.isControlOrSpace]
    omega
  · simp [Url.endsAuthority, Url.isSlash, hne (d := '/'), hne (d := '\\'), hne (d := '?'), hne (d := '#')]
  · exact hne (by decide)
  · exact hne (by decide)
  · exact hne (by decide)

/-- The host that the ideographs name. -/
theorem readSpecialHost_ideographs : Url.readSpecialHost ideographs =
    .ok (.name (String.ofList (Url.Domain.writeLabel ideographs))) :=
  Url.readSpecialHost_of_ideographs isIdeograph_of_mem
    (List.ne_nil_of_length_pos (by rw [ideographsFacts.length]; decide))
    (by rw [ideographsFacts.length]; decide)

/-- The address of the ideographs is a target, but the text of what it is read as is none, and every
page fails because of it. -/
theorem readTarget_ideographs :
    readTarget (some (String.ofList ("http://".toList ++ ideographs ++ ['/']))) = .ok ideographAddress ∧
      readTarget (some ideographAddress.shown) = .error (.invalidUrl .domainName) ∧
      ∀ html maxElements, Page.render html ideographAddress maxElements =
        .error (Page.unreadableAddress .domainName) := by
  have htext : "http://".toList ++ ideographs ++ ['/'] =
      "http".toList ++ ':' :: '/' :: '/' :: (ideographs ++ ['/']) := by
    rw [List.append_assoc]
    rfl
  have hblank : ∀ c ∈ "http://".toList ++ ideographs ++ ['/'], Text.isBlank c = false := by
    have hsign : "http://".toList.any Text.isBlank = false := by decide
    refine List.forall_mem_append.2 ⟨List.forall_mem_append.2 ⟨?_, fun c hc => ?_⟩, ?_⟩
    · simpa using hsign
    · have := (Url.Domain.isIdeograph_iff c).1 (isIdeograph_of_mem c hc)
      simp [Text.isBlank]
      omega
    · simp [Text.isBlank]
  have hread : Url.ofText (String.ofList ("http://".toList ++ ideographs ++ ['/'])) =
      .ok ideographAddress := by
    rw [htext]
    exact Url.ofText_of_host rfl readSpecialHost_ideographs
      (List.ne_nil_of_length_pos (by rw [ideographsFacts.length]; decide))
      fun c hc => separate_of_ideograph (isIdeograph_of_mem c hc)
  have hweb : ideographAddress.Web := Url.web_of_ofText hread rfl
  have hhost : ideographAddress.host =
      some (.name (String.ofList (Url.Domain.writeLabel ideographs))) := rfl
  have hlong : ¬ (Url.Host.name (String.ofList (Url.Domain.writeLabel ideographs))).Readable := by
    rw [Url.Host.Readable, String.toList_ofList]
    exact Url.Domain.not_readable_of_spaced isIdeograph_of_mem
      (by rw [ideographsFacts.length]; decide) ideographsFacts.spaced
      (by rw [ideographsFacts.length]; decide)
  refine ⟨?_, ?_, fun html maxElements => ?_⟩
  · rw [readTarget_eq_ok_iff, String.toList_ofList, Text.trim, Text.strip_eq_self hblank]
    exact ⟨hread, .inl rfl⟩
  · rw [readTarget_shown hweb (.inl rfl) hhost, if_neg hlong]
  · rw [Page.render, hweb.ofText_shown hhost, if_neg hlong]

end Service

end MainContent
