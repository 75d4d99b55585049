import MainContent.Proofs.Article.Unlabelled
import MainContent.Proofs.Service.Target

/-!
# A limit on elements only refuses

A page is rendered under a limit as it is without one, or it is refused because of the number of its
elements. `render_budget` says when: exactly if the document has more elements than the limit, provided
that the address of the page can be read from its text. So a limit that is large enough may be raised or
lifted without a change.

The address is read before the elements are counted. A page whose address cannot be read fails because
of the address under every limit, also where there are too many elements
(`render_over_budget_unreadable`).
-/

namespace MainContent.Page

open Html (Dom)

/-- A page is refused because of the number of its elements. -/
def Refused (r : Except Failure String) : Prop :=
  ∃ found most, r = .error (tooManyElements found most)

/-- The address of a page can be read from its text. -/
def ReadableAddress (base : Url) : Prop :=
  ∃ v, Url.ofText base.shown = .ok v

/-! ## Refusals -/

/-- A limit is exceeded by documents with more elements. -/
theorem exceeds_iff {n : Nat} (hn : 0 < n) (d : Dom) : exceeds n d = true ↔ n < elementCount d := by
  simp [exceeds, hn]

/-- The wording of a refusal begins with its own letter. -/
theorem ne_tooManyElements {detail : String} (hdetail : detail.toList.head? ≠ some 't')
    (found most : Nat) : Failure.extraction detail ≠ tooManyElements found most := by
  intro heq
  rw [tooManyElements, Failure.extraction.injEq] at heq
  apply hdetail
  rw [heq]
  simp only [String.toList_append]
  rfl

/-- What becomes of the article of a document is no refusal. -/
theorem not_refused_article (d : Dom) (base : Url) (shown : Article → String) :
    ¬ Refused ((article d base).map shown) := by
  rintro ⟨found, most, h⟩
  unfold article at h
  split at h
  · exact ne_tooManyElements (by decide) found most (Except.error.inj h)
  · split at h
    · exact ne_tooManyElements (by decide) found most (Except.error.inj h)
    · cases h

/-- Without a limit no page is refused. -/
theorem not_refused_render_zero (html : String) (base : Url) : ¬ Refused (render html base 0) := by
  cases hread : Url.ofText base.shown with
  | error cause =>
    rw [render, hread]
    rintro ⟨found, most, h⟩
    exact tooManyElements_ne_unreadableAddress found most cause (Except.error.inj h).symm
  | ok v =>
    rw [render_of_readable html base v 0 hread, exceeds_zero, if_neg Bool.false_ne_true]
    exact not_refused_article _ _ _

/-! ## Rendering under a limit -/

/-- A page with a readable address and too many elements is refused, with both numbers. -/
theorem render_of_exceeded (html : String) {base : Url} {n : Nat} (hn : 0 < n)
    (hread : ReadableAddress base) (hmany : n < elementCount (Dom.ofText html)) :
    render html base n = .error (tooManyElements (elementCount (Dom.ofText html)) n) := by
  obtain ⟨v, hv⟩ := hread
  rw [render_of_readable html base v n hv, (exceeds_iff hn _).2 hmany, if_pos rfl]

/-- A page without too many elements is rendered as without a limit. -/
theorem render_of_not_exceeded (html : String) (base : Url) {n : Nat} (hn : 0 < n)
    (hfew : ¬ n < elementCount (Dom.ofText html)) : render html base n = render html base 0 := by
  have hexceeds : exceeds n (Dom.ofText html) = false := by
    rw [← Bool.not_eq_true, exceeds_iff hn]
    exact hfew
  unfold render
  dsimp only
  rw [hexceeds, exceeds_zero]
  rfl

/-- A page with an unreadable address is rendered as without a limit. -/
theorem render_of_unreadable (html : String) {base : Url} (n : Nat) (hread : ¬ ReadableAddress base) :
    render html base n = render html base 0 := by
  unfold render
  cases haddress : Url.ofText base.shown with
  | error cause => rfl
  | ok v => exact absurd ⟨v, haddress⟩ hread

/-- What a limit on the elements of a page does. If the address of the page can be read from its text,
the page is rendered as without a limit or is refused, and it is refused exactly if the document has more
elements than the limit; both numbers are then reported. If the address cannot be read, the limit does
nothing. In either case a limit that does not refuse the page may be raised or lifted without a change. -/
theorem render_budget (html : String) (base : Url) {n : Nat} (hn : 0 < n) :
    (ReadableAddress base →
      (render html base n = render html base 0 ∨ render html base n =
        .error (tooManyElements (elementCount (Dom.ofText html)) n)) ∧
      (Refused (render html base n) ↔ n < elementCount (Dom.ofText html))) ∧
    (¬ ReadableAddress base → ∃ cause, ∀ m, render html base m = .error (unreadableAddress cause)) ∧
    ∀ m, n ≤ m → ¬ Refused (render html base n) →
      render html base m = render html base n ∧ render html base 0 = render html base n := by
  refine ⟨fun hread => ?_, fun hread => ?_, fun m hm hnot => ?_⟩
  · by_cases hmany : n < elementCount (Dom.ofText html)
    · have hrefused := render_of_exceeded html hn hread hmany
      exact ⟨.inr hrefused, iff_of_true ⟨_, _, hrefused⟩ hmany⟩
    · have hrendered := render_of_not_exceeded html base hn hmany
      refine ⟨.inl hrendered, iff_of_false ?_ hmany⟩
      rw [hrendered]
      exact not_refused_render_zero html base
  · cases haddress : Url.ofText base.shown with
    | error cause =>
      refine ⟨cause, fun m => ?_⟩
      rw [render, haddress]
    | ok v => exact absurd ⟨v, haddress⟩ hread
  · by_cases hread : ReadableAddress base
    · -- What is not refused has no more elements than the limit, and so than a larger one.
      have hfew : ¬ n < elementCount (Dom.ofText html) := fun hmany =>
        hnot ⟨_, _, render_of_exceeded html hn hread hmany⟩
      rw [render_of_not_exceeded html base hn hfew,
        render_of_not_exceeded html base (by omega : 0 < m) (by omega)]
      exact ⟨rfl, rfl⟩
    · rw [render_of_unreadable html n hread, render_of_unreadable html m hread]
      exact ⟨rfl, rfl⟩

/-- A paragraph has four elements with those around it: a limit of three refuses it, and a limit of four
does what no limit does. -/
theorem render_budget_paragraph :
    let base := Article.place "x"
    0 < 3 ∧ ReadableAddress base ∧ 3 < elementCount (Dom.ofText "<p>x</p>") ∧
      Refused (render "<p>x</p>" base 3) ∧ 0 < 4 ∧ ¬ Refused (render "<p>x</p>" base 4) ∧
      render "<p>x</p>" base 9 = render "<p>x</p>" base 4 := by
  intro base
  have hread : ReadableAddress base := ⟨_, Article.ofText_shown_place "x" (by decide)⟩
  have hcount : elementCount (Dom.ofText "<p>x</p>") = 4 := by decide +kernel
  have hthree := ((render_budget "<p>x</p>" base (n := 3) (by decide)).1 hread).2
  obtain ⟨hreadable, -, hraised⟩ := render_budget "<p>x</p>" base (n := 4) (by decide)
  have hfour := (hreadable hread).2
  rw [hcount] at hthree hfour
  have hnot : ¬ Refused (render "<p>x</p>" base 4) := fun hrefused => absurd (hfour.1 hrefused) (by decide)
  refine ⟨by decide, hread, ?_, hthree.2 (by decide), by decide, hnot, ?_⟩
  · rw [hcount]
    decide
  · exact (hraised 9 (by decide) hnot).1

/-! ## An address that cannot be read -/

/-- The address of the ideographs is read from a text. -/
theorem ofText_ideographs :
    Url.ofText (String.ofList ("http".toList ++ ':' :: '/' :: '/' :: (Service.ideographs ++ ['/']))) =
      .ok Service.ideographAddress :=
  Url.ofText_of_host rfl Service.readSpecialHost_ideographs
    (List.ne_nil_of_length_pos (by rw [Service.ideographsFacts.length]; decide))
    fun _ hc => Service.separate_of_ideograph (Service.isIdeograph_of_mem _ hc)

/-- The address of the ideographs cannot be read from its own text. -/
theorem not_readableAddress_ideographs : ¬ ReadableAddress Service.ideographAddress := by
  have hweb : Service.ideographAddress.Web := Url.web_of_ofText ofText_ideographs rfl
  have hlong : ¬ Url.Domain.Readable (Url.Domain.writeLabel Service.ideographs) :=
    Url.Domain.not_readable_of_spaced Service.isIdeograph_of_mem
      (by rw [Service.ideographsFacts.length]; decide) Service.ideographsFacts.spaced
      (by rw [Service.ideographsFacts.length]; decide)
  rintro ⟨v, hv⟩
  rw [hweb.ofText_shown rfl, if_neg] at hv
  · cases hv
  · rwa [Url.Host.Readable, String.toList_ofList]

/-- An address that is read from a text, and a document with more elements than the limit that is not
refused: even an empty text makes three elements, but the address is not read a second time. -/
theorem render_over_budget_unreadable :
    Url.ofText (String.ofList ("http".toList ++ ':' :: '/' :: '/' :: (Service.ideographs ++ ['/']))) =
      .ok Service.ideographAddress ∧
    0 < 1 ∧ 1 < elementCount (Dom.ofText "") ∧ ¬ Refused (render "" Service.ideographAddress 1) := by
  have hcount : elementCount (Dom.ofText "") = 3 := by decide +kernel
  refine ⟨ofText_ideographs, by decide, ?_, ?_⟩
  · rw [hcount]
    decide
  · rw [render_of_unreadable "" 1 not_readableAddress_ideographs]
    exact not_refused_render_zero "" _

end MainContent.Page
