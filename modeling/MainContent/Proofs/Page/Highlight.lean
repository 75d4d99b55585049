import MainContent.Proofs.Page.Render
import MainContent.Proofs.Text.Part

/-!
# The markup around an article can be read back

An article is answered as one text, made of a title and a content that a page is free to choose.
`highlight_readable` says that nothing is confused in it: whether there is a title, the title and the
content are read off the text, whatever markup they imitate, so two articles have the same markup only
if they have the same title and the same content, blanks around them apart. It also says that a title
stays text: within the heading it has no character of a tag or of an attribute, and every `&` of it
begins a reference.

Two facts carry this. References are undone by reading them (`unescape_escapeText`), and the escaped
title has no `<`, so the first end of a heading is that of its own (`before_headingEnd`).
-/

namespace MainContent.Page

open MainContent.Text (trim)

/-! ## Reading markup back -/

/-- A text whose references of the five special characters are read as these. -/
def unescape : List Char → List Char
  | '&' :: 'a' :: 'm' :: 'p' :: ';' :: cs => '&' :: unescape cs
  | '&' :: 'l' :: 't' :: ';' :: cs => '<' :: unescape cs
  | '&' :: 'g' :: 't' :: ';' :: cs => '>' :: unescape cs
  | '&' :: 'q' :: 'u' :: 'o' :: 't' :: ';' :: cs => '"' :: unescape cs
  | '&' :: '#' :: '3' :: '9' :: ';' :: cs => '\'' :: unescape cs
  | c :: cs => c :: unescape cs
  | [] => []

/-- The tag that begins a heading. -/
def headingStart : List Char := "<h1 class=\"x-extracted-title\">".toList

/-- The tag that ends a heading. -/
def headingEnd : List Char := "</h1>".toList

/-- The tag that begins a container, with the end of its line. -/
def containerStart : List Char := "<div class=\"x-extracted-content\">\n".toList

/-- The tag that ends a container, on its own line. -/
def containerEnd : List Char := "\n</div>".toList

/-- What stands before the first occurrence of a mark, or all of the text. -/
def before (mark : List Char) : List Char → List Char
  | [] => []
  | c :: cs => if mark.isPrefixOf (c :: cs) then [] else c :: before mark cs

/-- The content of a container. -/
def readContainer (cs : List Char) : List Char :=
  (cs.drop containerStart.length).take
    (cs.length - containerStart.length - containerEnd.length)

/-- The title, if there is one, and the content that the markup of an article shows. -/
def readMarkup (cs : List Char) : Option (List Char) × List Char :=
  if headingStart.isPrefixOf cs then
    let shown := before headingEnd (cs.drop headingStart.length)
    (some (unescape shown),
      readContainer (cs.drop (headingStart.length + shown.length + headingEnd.length + 1)))
  else (none, readContainer cs)

/-! ## Titles as markup -/

/-- The references of the five special characters, without the `&`. -/
def references : List (List Char) :=
  ["amp;".toList, "lt;".toList, "gt;".toList, "quot;".toList, "#39;".toList]

/-- Behind its `&`, a reference holds none of the five special characters. -/
theorem not_mem_of_mem_references :
    ∀ name ∈ references, ∀ d ∈ ['&', '<', '>', '"', '\''], d ∉ name := by
  simp [references]

/-- A character stands for itself, or is one of the five and is written as a reference. -/
theorem escapeChar_cases (c : Char) :
    (escapeChar c = [c] ∧ c ∉ ['&', '<', '>', '"', '\'']) ∨
      ∃ name ∈ references, escapeChar c = '&' :: name := by
  by_cases h : c ∈ ['&', '<', '>', '"', '\'']
  · right
    simp only [List.mem_cons, List.not_mem_nil, or_false] at h
    rcases h with rfl | rfl | rfl | rfl | rfl
    · exact ⟨"amp;".toList, by decide, by decide⟩
    · exact ⟨"lt;".toList, by decide, by decide⟩
    · exact ⟨"gt;".toList, by decide, by decide⟩
    · exact ⟨"quot;".toList, by decide, by decide⟩
    · exact ⟨"#39;".toList, by decide, by decide⟩
  · refine .inl ⟨?_, h⟩
    simp only [List.mem_cons, List.not_mem_nil, or_false, not_or] at h
    obtain ⟨hand, hless, hgreater, hquote, happos⟩ := h
    simp only [escapeChar, hand, hless, hgreater, hquote, happos, if_false]

/-- A reference is read as its character, and any other character as itself. -/
theorem unescape_escapeChar_append (c : Char) (cs : List Char) :
    unescape (escapeChar c ++ cs) = c :: unescape cs := by
  by_cases h : c ∈ ['&', '<', '>', '"', '\'']
  · simp only [List.mem_cons, List.not_mem_nil, or_false] at h
    rcases h with rfl | rfl | rfl | rfl | rfl <;> rfl
  · simp only [List.mem_cons, List.not_mem_nil, or_false, not_or] at h
    obtain ⟨hand, hless, hgreater, hquote, happos⟩ := h
    simp only [escapeChar, hand, hless, hgreater, hquote, happos, if_false, List.singleton_append]
    rw [unescape]
    all_goals exact fun _ hc => absurd hc hand

/-- References are undone by reading them. -/
theorem unescape_escapeText (cs : List Char) : unescape (escapeText cs) = cs := by
  induction cs with
  | nil => rfl
  | cons c cs ih =>
    rw [escapeText, List.flatMap_cons, unescape_escapeChar_append]
    exact congrArg _ ih

/-- A text as markup has no character of a tag or of an attribute. -/
theorem not_mem_escapeText {d : Char} (hd : d ∈ ['<', '>', '"', '\'']) (cs : List Char) :
    d ∉ escapeText cs := by
  intro h
  obtain ⟨c, -, hc⟩ := List.mem_flatMap.1 h
  rcases escapeChar_cases c with ⟨heq, hplain⟩ | ⟨name, hname, heq⟩
  · rw [heq, List.mem_singleton] at hc
    exact hplain (hc ▸ List.mem_cons_of_mem _ hd)
  · rw [heq, List.mem_cons] at hc
    rcases hc with rfl | hc
    · exact absurd hd (by decide)
    · exact not_mem_of_mem_references name hname d (List.mem_cons_of_mem _ hd) hc

/-- Every `&` of a text as markup begins a reference. -/
theorem reference_of_escapeText (cs start rest : List Char)
    (h : escapeText cs = start ++ '&' :: rest) : ∃ name ∈ references, name <+: rest := by
  induction cs generalizing start with
  | nil => exact absurd h (by simp [escapeText])
  | cons c cs ih =>
    rw [escapeText, List.flatMap_cons] at h
    rcases escapeChar_cases c with ⟨heq, hplain⟩ | ⟨name, hname, heq⟩
    · rw [heq] at h
      cases start with
      | nil =>
        have hc : c = '&' := (List.cons.inj h).1
        exact absurd (hc ▸ List.mem_cons_self) hplain
      | cons s start => exact ih start (List.cons.inj h).2
    · rw [heq, List.cons_append] at h
      cases start with
      | nil => exact ⟨name, hname, _, (List.cons.inj h).2⟩
      | cons s start =>
        have hnone := not_mem_of_mem_references name hname '&' List.mem_cons_self
        -- The `&` is not in the reference, so it stands in what follows.
        obtain ⟨start', hrest⟩ :=
          Text.exists_of_append_eq_append_cons (List.cons.inj h).2 hnone
        exact ih start' hrest

/-! ## The parts of the markup -/

/-- A heading has the escaped title between its tags. -/
theorem heading_of_not_blank {title : List Char} (h : trim title ≠ []) :
    heading title = headingStart ++ escapeText (trim title) ++ headingEnd ++ ['\n'] := by
  have hshown : (trim title).isEmpty = false := by simpa using h
  have hstart : "<h1 class=\"".toList ++ titleClass.toList ++ "\">".toList = headingStart := by
    decide
  have hend : "</h1>\n".toList = headingEnd ++ ['\n'] := by decide
  unfold heading
  dsimp only
  rw [if_neg (by simp [hshown]), hstart, hend, List.append_assoc _ headingEnd]

/-- A container has the content between its tags. -/
theorem container_eq (content : List Char) :
    container content = containerStart ++ trim content ++ containerEnd := by
  have hstart : "<div class=\"".toList ++ contentClass.toList ++ "\">\n".toList = containerStart := by
    decide
  exact congrArg (· ++ trim content ++ containerEnd) hstart

/-- The content of a container is read back. -/
theorem readContainer_container (content : List Char) :
    readContainer (container content) = trim content := by
  have hlength : (containerStart ++ trim content ++ containerEnd).length - containerStart.length -
      containerEnd.length = (trim content).length := by
    simp only [List.length_append]
    omega
  rw [readContainer, container_eq, hlength, List.append_assoc, List.drop_left, List.take_left]

/-- A container does not begin like a heading. -/
theorem not_headingStart_prefix_container (content : List Char) :
    headingStart.isPrefixOf (container content) = false := by
  rw [container_eq, List.append_assoc]
  rfl

/-- The first end of a heading is the one behind a text that has no `<`. -/
theorem before_headingEnd {shown : List Char} (h : '<' ∉ shown) (rest : List Char) :
    before headingEnd (shown ++ headingEnd ++ rest) = shown := by
  induction shown with
  | nil => rfl
  | cons c shown ih =>
    obtain ⟨hc, hshown⟩ := List.ne_and_not_mem_of_not_mem_cons h
    have hno : headingEnd.isPrefixOf (c :: (shown ++ headingEnd ++ rest)) = false := by
      simp [headingEnd, List.isPrefixOf, hc]
    rw [List.cons_append, List.cons_append, before, hno, if_neg Bool.false_ne_true, ih hshown]

/-- The markup of an article is read as what it was made of. -/
theorem readMarkup_highlight (title content : String) :
    readMarkup (highlight title content).toList =
      (if trim title.toList = [] then none else some (trim title.toList), trim content.toList) := by
  rw [toList_highlight]
  by_cases hblank : trim title.toList = []
  · rw [heading_of_blank _ hblank, List.nil_append, if_pos hblank, readMarkup,
      not_headingStart_prefix_container, if_neg Bool.false_ne_true, readContainer_container]
  · have hno := not_mem_escapeText (d := '<') (by decide) (trim title.toList)
    have hparts : heading title.toList ++ container content.toList =
        headingStart ++ (escapeText (trim title.toList) ++ headingEnd ++
          ('\n' :: container content.toList)) := by
      rw [heading_of_not_blank hblank]
      simp only [List.append_assoc, List.singleton_append]
    have hrest : (headingStart ++ (escapeText (trim title.toList) ++ headingEnd ++
        ('\n' :: container content.toList))).drop
        (headingStart.length + (escapeText (trim title.toList)).length + headingEnd.length + 1) =
        container content.toList := by
      have hcut : headingStart ++ (escapeText (trim title.toList) ++ headingEnd ++
          ('\n' :: container content.toList)) =
          (headingStart ++ escapeText (trim title.toList) ++ headingEnd ++ ['\n']) ++
            container content.toList := by
        simp only [List.append_assoc, List.singleton_append]
      rw [hcut]
      exact List.drop_left' (by simp only [List.length_append, List.length_singleton])
    have hpre : headingStart.isPrefixOf (headingStart ++ (escapeText (trim title.toList) ++
        headingEnd ++ ('\n' :: container content.toList))) = true :=
      List.isPrefixOf_iff_prefix.2 (List.prefix_append _ _)
    rw [hparts, readMarkup, hpre, if_pos rfl, if_neg hblank]
    dsimp only
    rw [List.drop_left, before_headingEnd hno, unescape_escapeText, hrest, readContainer_container]

/-- Two articles have the same markup exactly when their titles and their contents are the same but
for blanks around them. Whether there is a title, the title, by undoing the references up to the first
end of a heading, and the content are read off the markup. And a title adds no markup: between the tags
of its heading there is no character of a tag or an attribute, and every `&` begins a reference. -/
theorem highlight_readable :
    (∀ title content title' content' : String,
      highlight title content = highlight title' content' ↔
        trim title.toList = trim title'.toList ∧ trim content.toList = trim content'.toList) ∧
    (∀ title content : String, readMarkup (highlight title content).toList =
      (if trim title.toList = [] then none else some (trim title.toList), trim content.toList)) ∧
    ∀ title content : String, ∃ shown : List Char,
      (highlight title content).toList =
        (if trim title.toList = [] then []
          else "<h1 class=\"x-extracted-title\">".toList ++ shown ++ "</h1>\n".toList) ++
        "<div class=\"x-extracted-content\">\n".toList ++ trim content.toList ++
        "\n</div>".toList ∧
      unescape shown = trim title.toList ∧
      (∀ c ∈ ['<', '>', '"', '\''], c ∉ shown) ∧
      ∀ start rest, shown = start ++ '&' :: rest →
        ∃ name ∈ ["amp;", "lt;", "gt;", "quot;", "#39;"], name.toList <+: rest := by
  refine ⟨fun title content title' content' => ⟨fun hsame => ?_, ?_⟩, readMarkup_highlight,
    fun title content => ⟨escapeText (trim title.toList), ?_, unescape_escapeText _,
      fun c hc => not_mem_escapeText hc _, fun start rest hshown => ?_⟩⟩
  · have hread := congrArg (fun out => readMarkup out.toList) hsame
    simp only [readMarkup_highlight, Prod.mk.injEq] at hread
    obtain ⟨htitle, hcontent⟩ := hread
    refine ⟨?_, hcontent⟩
    split_ifs at htitle with hblank hblank'
    · rw [hblank, hblank']
    · exact Option.some.inj htitle
  · rintro ⟨htitle, hcontent⟩
    have hheading : heading title.toList = heading title'.toList := by
      unfold heading
      rw [htitle]
    rw [highlight, highlight, hheading, container_eq, container_eq, hcontent]
  · rw [toList_highlight, container_eq]
    have hcontainer : ∀ start : List Char, start ++ (containerStart ++ trim content.toList ++
        containerEnd) = start ++ containerStart ++ trim content.toList ++ containerEnd :=
      fun start => by simp only [List.append_assoc]
    by_cases hblank : trim title.toList = []
    · rw [heading_of_blank _ hblank, if_pos hblank]
      exact hcontainer []
    · have hend : "</h1>\n".toList = headingEnd ++ ['\n'] := by decide
      rw [heading_of_not_blank hblank, if_neg hblank, hend, hcontainer, ← List.append_assoc _ headingEnd]
      rfl
  · obtain ⟨name, hname, hprefix⟩ := reference_of_escapeText _ start rest hshown
    have hnames : ∀ name ∈ references,
        ∃ text ∈ ["amp;", "lt;", "gt;", "quot;", "#39;"], text.toList = name := by decide
    obtain ⟨text, htext, rfl⟩ := hnames name hname
    exact ⟨text, htext, hprefix⟩

-- A title that imitates the end of its heading, and one that is escaped already.
example : highlight " </h1><div> " "&amp;" ≠ highlight "&lt;/h1&gt;&lt;div&gt;" "&amp;" := by
  decide +kernel

end MainContent.Page
