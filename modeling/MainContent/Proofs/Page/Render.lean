import MainContent.Page.Render
import Mathlib.Data.List.Infix

/-!
# What a rendered page is

The markup in which an article is answered begins with the heading of its title, or with the
container of its content where the title is blank, and ends with the end of the container
(`highlight_begins`, `highlight_ends`). So no title and no content can make it begin like anything
else.

A page is rendered exactly when its address can be read from its text, there are not too many
elements in it, and there is an article with text that is not blank (`render_eq_ok_iff`); every other
page fails as one in which no article can be found (`render_error`).
-/

namespace MainContent.Page

open Html (Dom)

/-! ## Markup around an article -/

/-- A title that is not blank has a heading. -/
theorem heading_begins (title : List Char) (h : Text.trim title ≠ []) :
    "<h1 class=\"x-extracted-title\">".toList <+: heading title := by
  have hshown : (Text.trim title).isEmpty = false := by simpa using h
  have hstart : "<h1 class=\"".toList ++ titleClass.toList ++ "\">".toList =
      "<h1 class=\"x-extracted-title\">".toList := by decide
  unfold heading
  dsimp only
  rw [if_neg (by simp [hshown]), hstart, List.append_assoc]
  exact List.prefix_append _ _

/-- A blank title has none. -/
theorem heading_of_blank (title : List Char) (h : Text.trim title = []) : heading title = [] := by
  unfold heading
  rw [h]
  rfl

/-- The container begins with its tag. -/
theorem container_begins (content : List Char) :
    "<div class=\"x-extracted-content\">".toList <+: container content := by
  have hstart : "<div class=\"".toList ++ contentClass.toList ++ "\">\n".toList =
      "<div class=\"x-extracted-content\">".toList ++ ['\n'] := by decide
  unfold container
  rw [hstart, List.append_assoc, List.append_assoc]
  exact List.prefix_append _ _

/-- The container ends with its end, on a line of its own. -/
theorem container_ends (content : List Char) : "\n</div>".toList <:+ container content := by
  unfold container
  exact List.suffix_append _ _

/-- The characters of an article's markup. -/
theorem toList_highlight (title content : String) :
    (highlight title content).toList = heading title.toList ++ container content.toList :=
  String.toList_ofList

/-- The markup of an article begins with the heading or with the container. -/
theorem highlight_begins (title content : String) :
    "<h1 class=\"x-extracted-title\">".toList <+: (highlight title content).toList ∨
      "<div class=\"x-extracted-content\">".toList <+: (highlight title content).toList := by
  rw [toList_highlight]
  by_cases hblank : Text.trim title.toList = []
  · rw [heading_of_blank _ hblank, List.nil_append]
    exact Or.inr (container_begins content.toList)
  · exact Or.inl ((heading_begins _ hblank).trans (List.prefix_append _ _))

/-- The markup of an article ends with the end of the container. -/
theorem highlight_ends (title content : String) :
    "\n</div>".toList <:+ (highlight title content).toList := by
  rw [toList_highlight]
  exact (container_ends content.toList).trans (List.suffix_append _ _)

/-- The markup of an article begins with a tag. -/
theorem head?_highlight (title content : String) :
    (highlight title content).toList.head? = some '<' := by
  rcases highlight_begins title content with ⟨rest, hrest⟩ | ⟨rest, hrest⟩
  · rw [← hrest]
    rfl
  · rw [← hrest]
    rfl

/-! ## Rendering -/

/-- A text is blank unless there is a character in it that is not. -/
theorem allBlank_eq_false_iff (cs : List Char) :
    Text.allBlank cs = false ↔ ∃ c ∈ cs, Text.isBlank c = false := by
  simp [Text.allBlank]

/-- The article of a document is the one that is found in it, if its text is not blank. -/
theorem article_eq_ok_iff (d : Dom) (base : Url) (a : Article) :
    article d base = .ok a ↔
      Article.ofDom? d base = some a ∧ Text.allBlank a.text.toList = false := by
  unfold article
  cases Article.ofDom? d base with
  | none => simp
  | some b =>
    cases hblank : Text.allBlank b.text.toList with
    | true =>
      simp only [hblank, if_true, reduceCtorEq, Option.some.injEq, false_iff, not_and]
      rintro rfl
      simp [hblank]
    | false =>
      simp only [hblank, Bool.false_eq_true, if_false, Except.ok.injEq, Option.some.injEq]
      constructor
      · rintro rfl
        exact ⟨rfl, hblank⟩
      · exact And.left

/-- A document without an article fails as one in which none can be found. -/
theorem article_error (d : Dom) (base : Url) (f : Failure) (h : article d base = .error f) :
    ∃ detail, f = .extraction detail := by
  unfold article at h
  split at h
  · cases h
    exact ⟨_, rfl⟩
  · split at h
    · cases h
      exact ⟨_, rfl⟩
    · cases h

/-- The limit zero allows any number of elements. -/
@[simp] theorem exceeds_zero (d : Dom) : exceeds 0 d = false := rfl

/-- A page whose address can be read is rendered by the markup of its article, if there are not too
many elements. -/
theorem render_of_readable (html : String) (base v : Url) (maxElements : Nat)
    (hread : Url.ofText base.shown = .ok v) :
    render html base maxElements =
      if exceeds maxElements (Dom.ofText html) then
        .error (tooManyElements (elementCount (Dom.ofText html)) maxElements)
      else (article (Dom.ofText html) base).map fun a => highlight a.title a.content := by
  unfold render
  rw [hread]

/-- A page without too many elements is rendered by the markup of its article. -/
theorem render_of_article (html : String) (base v : Url) (maxElements : Nat) (a : Article)
    (hread : Url.ofText base.shown = .ok v)
    (hsmall : exceeds maxElements (Dom.ofText html) = false)
    (h : article (Dom.ofText html) base = .ok a) :
    render html base maxElements = .ok (highlight a.title a.content) := by
  rw [render_of_readable html base v maxElements hread, hsmall, if_neg Bool.false_ne_true, h]
  rfl

/-- A page yields an article: its address can be read from its text, it has no more elements than
the limit allows, and the article that is found in it has text that is not blank. -/
structure Yields (html : String) (base : Url) (maxElements : Nat) (a : Article) : Prop where
  /-- The text of the address is a URL. -/
  readable : ∃ v, Url.ofText base.shown = .ok v
  /-- There are not too many elements. -/
  small : exceeds maxElements (Dom.ofText html) = false
  /-- The article is found. -/
  found : Article.ofDom? (Dom.ofText html) base = some a
  /-- Its text is not blank. -/
  text : ∃ c ∈ a.text.toList, Text.isBlank c = false

/-- A page is rendered exactly when it yields an article, by the markup of that article. -/
theorem render_eq_ok_iff (html : String) (base : Url) (maxElements : Nat) (out : String) :
    render html base maxElements = .ok out ↔
      ∃ a, Yields html base maxElements a ∧ out = highlight a.title a.content := by
  constructor
  · intro h
    cases hread : Url.ofText base.shown with
    | error cause => simp [render, hread] at h
    | ok v =>
      rw [render_of_readable html base v maxElements hread] at h
      split at h
      · cases h
      · rename_i hsmall
        cases harticle : article (Dom.ofText html) base with
        | error f => simp [harticle, Except.map] at h
        | ok a =>
          obtain ⟨hfound, htext⟩ := (article_eq_ok_iff _ _ a).1 harticle
          simp only [harticle, Except.map, Except.ok.injEq] at h
          exact ⟨a, ⟨⟨v, hread⟩, Bool.eq_false_iff.2 hsmall, hfound,
            (allBlank_eq_false_iff _).1 htext⟩, h.symm⟩
  · rintro ⟨a, ⟨⟨v, hread⟩, hsmall, hfound, htext⟩, rfl⟩
    have harticle := (article_eq_ok_iff _ _ a).2 ⟨hfound, (allBlank_eq_false_iff _).2 htext⟩
    exact render_of_article html base v maxElements a hread hsmall harticle

/-- A page that is not rendered fails as one in which no article can be found. -/
theorem render_error (html : String) (base : Url) (maxElements : Nat) (f : Failure)
    (h : render html base maxElements = .error f) : ∃ detail, f = .extraction detail := by
  cases hread : Url.ofText base.shown with
  | error cause =>
    simp only [render, hread, Except.error.injEq] at h
    exact ⟨_, h.symm⟩
  | ok v =>
    rw [render_of_readable html base v maxElements hread] at h
    split at h
    · cases h
      exact ⟨_, rfl⟩
    · cases harticle : article (Dom.ofText html) base with
      | error g =>
        simp only [harticle, Except.map, Except.error.injEq] at h
        rw [← h]
        exact article_error _ _ g harticle
      | ok a => simp [harticle, Except.map] at h

/-- No cause for which a text is no URL is worded like another failure of rendering, which begins with
another letter. -/
theorem ne_unreadableAddress {detail : String} {c : Char} (hdetail : detail.toList.head? = some c)
    (hc : c ∈ ['f', 'n', 't']) (cause : Url.Error) :
    Failure.extraction detail ≠ unreadableAddress cause := by
  intro heq
  rw [unreadableAddress, Failure.extraction.injEq] at heq
  have hother : cause.message.toList.head?.any (['f', 'n', 't'].contains ·) = false := by
    cases cause <;> decide
  rw [← heq, hdetail, Option.any_some, List.contains_iff_mem.2 hc] at hother
  cases hother

/-- Nor is it worded like a refusal because of the number of elements. -/
theorem tooManyElements_ne_unreadableAddress (found most : Nat) (cause : Url.Error) :
    tooManyElements found most ≠ unreadableAddress cause := by
  refine ne_unreadableAddress (c := 't') ?_ (by decide) cause
  simp only [String.toList_append]
  rfl

/-- A page whose address can be read does not fail because of its address. -/
theorem render_ne_unreadableAddress (html : String) (base v : Url) (maxElements : Nat)
    (hread : Url.ofText base.shown = .ok v) (cause : Url.Error) :
    render html base maxElements ≠ .error (unreadableAddress cause) := by
  rw [render_of_readable html base v maxElements hread]
  split
  · rw [ne_eq, Except.error.injEq]
    exact tooManyElements_ne_unreadableAddress _ _ cause
  · unfold article
    split
    · rw [ne_eq, Except.map, Except.error.injEq]
      exact ne_unreadableAddress (c := 'f') rfl (by decide) cause
    · split
      · rw [ne_eq, Except.map, Except.error.injEq]
        exact ne_unreadableAddress (c := 'n') rfl (by decide) cause
      · exact nofun

/-- A page fails as one in which no article can be found exactly when it yields none. -/
theorem render_cases (html : String) (base : Url) (maxElements : Nat) :
    (∃ f, render html base maxElements = .error f ∧ f.kind = .extraction ∧
      ∀ a, ¬ Yields html base maxElements a) ∨
    ∃ out, render html base maxElements = .ok out ∧ ∃ a, Yields html base maxElements a := by
  cases hrender : render html base maxElements with
  | error f =>
    refine .inl ⟨f, rfl, ?_, fun a ha => ?_⟩
    · obtain ⟨detail, rfl⟩ := render_error html base maxElements f hrender
      rfl
    · rw [(render_eq_ok_iff html base maxElements _).2 ⟨a, ha, rfl⟩] at hrender
      cases hrender
  | ok out =>
    obtain ⟨a, ha, -⟩ := (render_eq_ok_iff html base maxElements out).1 hrender
    exact .inr ⟨out, rfl, a, ha⟩

/-- Where the links of a page lead from does not matter for whether there is an article in it, and
for its title. -/
theorem map_title_ofDom? (d : Dom) (base base' : Url) :
    (Article.ofDom? d base).map (·.title) = (Article.ofDom? d base').map (·.title) := by
  have htitle : ∀ b t, (fun a : Article => a.title) ∘ Article.finished b t = fun _ => t :=
    fun b t => funext fun _ => rfl
  unfold Article.ofDom?
  simp only [Option.map_map, htitle]

end MainContent.Page
