import MainContent.Proofs.Page.Render

/-!
# Pages that every way of judging agrees on

Parts with buttons for sharing are found by their labels, so that nothing is taken out for sharing
where no element has a class or an identifier (`withoutSharing_of_label`). A page in which every way
of judging finds the same article has that article (`search_of_attempt`).

Both hold of the specimen, a small page whose title reads like a failure, and whose article is a
word and an image with a relative address. Its tree is followed through the stages of the
extraction, up to the markup for two places of the page (`render_specimen`).
-/

namespace MainContent.Article

open Html (Dom NodeId)

deriving instance DecidableEq for Html.Node, Html.Dom, Metadata, Gathering, Draft

/-- The label of an element without a class and an identifier has no word for sharing, whether or
not the blank in it counts as a letter. -/
theorem namesSharing_blank : namesSharing [' '] = false := by
  unfold namesSharing
  cases hletter : Text.lettersAndNumbers.contains ' ' with
  | true =>
    have hwords : [' '].splitOnP (fun c => !Text.lettersAndNumbers.contains c) = [[' ']] := by
      simp [List.splitOnP_cons_eq_if_modifyHead, hletter]
    rw [hwords]
    decide
  | false =>
    have hwords : [' '].splitOnP (fun c => !Text.lettersAndNumbers.contains c) = [[], []] := by
      simp [List.splitOnP_cons_eq_if_modifyHead, hletter]
    rw [hwords]
    decide

/-- Where no element has a class or an identifier, nothing is taken out for sharing. -/
theorem withoutSharing_of_label (holder : NodeId) (d : Dom)
    (h : ∀ i ∈ (d.elements holder).flatMap d.descendants, label d i = [' ']) :
    withoutSharing holder d = d := by
  have hnone : ((d.elements holder).flatMap d.descendants).filter (isSharing d) = [] := by
    rw [List.filter_eq_nil_iff]
    intro i hi
    rw [isSharing, h i hi, namesSharing_blank]
    simp
  rw [withoutSharing, hnone]
  rfl

/-- An article that all further ways of judging find again stays the longest one. -/
theorem search_of_longest (d : Dom) (m : Metadata) (f : Draft) (hlength : 0 < f.length)
    (ways : List Rigor) (h : ∀ r ∈ ways, attempt r m d = (some f, m.author)) :
    search d ways m (some f) = some f := by
  induction ways with
  | nil => simp [search, hlength]
  | cons r rest ih =>
    have hrest : search d rest m (some f) = some f :=
      ih fun r' hr' => h r' (List.mem_cons_of_mem _ hr')
    rw [search, h r List.mem_cons_self]
    dsimp only
    split
    · rfl
    · -- As long as the longest one is not longer.
      rw [Option.elim_some, longer, if_neg (Nat.lt_irrefl _)]
      exact hrest

/-- A page in which every way of judging finds the same article has that article. -/
theorem search_of_attempt (d : Dom) (m : Metadata) (f : Draft) (hlength : 0 < f.length)
    (first : Rigor) (rest : List Rigor)
    (h : ∀ r ∈ first :: rest, attempt r m d = (some f, m.author)) :
    search d (first :: rest) m none = some f := by
  have hrest : search d rest m (some f) = some f :=
    search_of_longest d m f hlength rest fun r hr => h r (List.mem_cons_of_mem _ hr)
  rw [search, h first List.mem_cons_self]
  dsimp only
  split
  · rfl
  · exact hrest

/-! ## The specimen -/

/-- A page whose title reads like a failure, with a word and an image. -/
def specimen : String := "<title>ERROR: x</title>x<img src=a>"

/-- The tree of the specimen. -/
def specimenTree : Dom :=
  ⟨#[{ content := .root, children := #[1] },
    { content := .element .html "html" [], parent := some 0, children := #[2, 5] },
    { content := .element .html "head" [], parent := some 1, children := #[3] },
    { content := .element .html "title" [], parent := some 2, children := #[4] },
    { content := .text "ERROR: x", parent := some 3 },
    { content := .element .html "body" [], parent := some 1, children := #[6, 7] },
    { content := .text "x", parent := some 5 },
    { content := .element .html "img" [⟨"src", "a"⟩], parent := some 5 }]⟩

/-- What the specimen tells about its article. -/
def specimenMetadata : Metadata := ⟨"ERROR: x", none⟩

/-- The tree of the specimen when all that its body holds has been gathered. -/
def specimenGathered : Dom :=
  ⟨#[{ content := .root, children := #[1] },
    { content := .element .html "html" [], parent := some 0, children := #[2, 5] },
    { content := .element .html "head" [], parent := some 1, children := #[3] },
    { content := .element .html "title" [], parent := some 2, children := #[4] },
    { content := .text "ERROR: x", parent := some 3 },
    { content := .element .html "body" [], parent := some 1 },
    { content := .text "x", parent := some 8 },
    { content := .element .html "img" [⟨"src", "a"⟩], parent := some 8 },
    { content := .element .html "div" [], parent := some 9, children := #[6, 7] },
    { content := .element .html "div" [], children := #[8] }]⟩

/-- The article of the specimen before its links are resolved. -/
def specimenDraft : Draft := ⟨asPage specimenGathered 8, 9⟩

/-- The URL of the place with a name on this machine. -/
def place (name : String) : Url :=
  { scheme := "http", username := "", password := "",
    host := some (.ipv6 [0, 0, 0, 0, 0, 0, 0, 1]), port := none, path := .segments [name, ""],
    query := none, fragment := none }

/-- The markup of the specimen for the place with a name, from where its image is found. -/
def specimenMarkup (name : String) : String :=
  "<h1 class=\"x-extracted-title\">ERROR: x</h1>\n<div class=\"x-extracted-content\">\n" ++
    "<div id=\"readability-page-1\" class=\"page\">x<img src=\"http://[::1]/" ++ name ++
    "/a\"></div>\n</div>"

/-- The markup shows the place. -/
theorem specimenMarkup_injective {name name' : String}
    (h : specimenMarkup name = specimenMarkup name') : name = name' := by
  unfold specimenMarkup at h
  exact (String.append_right_inj _).1 ((String.append_left_inj _).1 h)

/-- The article of the specimen at a place. -/
def specimenArticle (page : Url) : Article :=
  finished (Base.ofDom specimenTree page) "ERROR: x" specimenDraft

/-- What each stage of the extraction makes of the specimen. -/
structure SpecimenStages : Prop where
  /-- The specimen is read as its tree. -/
  read : Dom.ofText specimen = specimenTree
  /-- There is nothing to prepare in it. -/
  prepared : prepared specimenTree = specimenTree
  /-- It tells its title, and no author. -/
  metadata : metadata specimenTree (linkedDescription specimenTree) = specimenMetadata
  /-- Nothing of it is sifted out, and there is nothing in it to be scored. -/
  sifted : ∀ r ∈ Rigor.inTurn,
    let s := sift r specimenMetadata.title.toList none specimenTree
    s.dom = specimenTree ∧ s.found = [] ∧ s.author = none
  /-- All that its body holds is gathered. -/
  gathered : ∀ r ∈ Rigor.inTurn, gather? r specimenTree [] = some ⟨specimenGathered, 9, true⟩
  /-- Attributes of style, wrapped images, headings and cells are as they shall be. -/
  plain : plain specimenGathered 9 = specimenGathered ∧
    loadImages specimenGathered 9 = specimenGathered ∧
    lowerHeadings 9 specimenGathered = specimenGathered ∧
    unwrapCells 9 specimenGathered = specimenGathered
  /-- There is no table of data in it. -/
  tables : dataTables specimenGathered 9 = []
  /-- No box of it is pruned. -/
  boxes : ∀ r ∈ Rigor.inTurn, ∀ names ∈ [["form", "fieldset"], ["table", "ul", "div"]],
    names.foldl (fun d name => prune r [] 9 name d) specimenGathered = specimenGathered
  /-- No element of it has a class or an identifier. -/
  unlabelled : ∀ i ∈ (specimenGathered.elements 9).flatMap specimenGathered.descendants,
    label specimenGathered i = [' ']
  /-- What has been gathered is the article, and is not empty. -/
  drafted : draftOf specimenGathered ⟨specimenGathered, 9, true⟩ = specimenDraft ∧
    0 < specimenDraft.length
  /-- The article has a text and its markup for both places. -/
  finished : ∀ name ∈ ["x", "y"],
    Text.allBlank (specimenArticle (place name)).text.toList = false ∧
    Page.highlight (specimenArticle (place name)).title (specimenArticle (place name)).content =
      specimenMarkup name

/-- The stages of the extraction make that of the specimen. -/
theorem specimenStages : SpecimenStages where
  read := by decide +kernel
  prepared := by decide +kernel
  metadata := by decide +kernel
  sifted := by decide +kernel
  gathered := by decide +kernel
  plain := by decide +kernel
  tables := by decide +kernel
  boxes := by decide +kernel
  unlabelled := by decide +kernel
  drafted := by decide +kernel
  finished := by decide +kernel

/-- Elements of a name that the gathered article does not hold are not taken out. -/
theorem remove_specimen (names : List String) (p : Dom → NodeId → Bool)
    (h : specimenGathered.named 9 names = []) :
    remove 9 names p specimenGathered = specimenGathered := by
  rw [remove, h]
  rfl

/-- Nothing of the gathered article is pruned. -/
theorem pruned_specimen (r : Rigor) (hr : r ∈ Rigor.inTurn) :
    pruned r specimenGathered 9 = specimenGathered := by
  obtain ⟨hplain, himages, hheadings, hcells⟩ := specimenStages.plain
  have hforms := specimenStages.boxes r hr ["form", "fieldset"] List.mem_cons_self
  have hboxes := specimenStages.boxes r hr ["table", "ul", "div"] (by decide)
  -- Labels are split at all that is no letter or number of any script, a table too large to be
  -- looked through here, so that the lemma on blank labels stands in for a computation.
  have hsharing : withoutSharing 9 specimenGathered = specimenGathered :=
    withoutSharing_of_label 9 _ specimenStages.unlabelled
  have hbreaks : specimenGathered.named 9 ["br"] = [] := rfl
  unfold pruned
  dsimp only
  rw [hplain, specimenStages.tables, himages, hforms, remove_specimen _ _ rfl,
    remove_specimen _ _ rfl, hsharing, remove_specimen _ _ rfl, remove_specimen _ _ rfl,
    remove_specimen _ _ rfl, hboxes, hheadings, remove_specimen _ _ rfl, hbreaks]
  exact hcells

/-- Every way of judging finds the article of the specimen. -/
theorem attempt_specimen (r : Rigor) (hr : r ∈ Rigor.inTurn) :
    attempt r specimenMetadata specimenTree = (some specimenDraft, none) := by
  obtain ⟨hdom, hfound, hauthor⟩ := specimenStages.sifted r hr
  unfold attempt
  dsimp only [specimenMetadata] at *
  rw [hdom, hfound, hauthor, List.reverse_nil, specimenStages.gathered r hr, Option.map_some,
    pruned_specimen r hr, specimenStages.drafted.1]

theorem ofDom?_specimen (page : Url) : ofDom? specimenTree page = some (specimenArticle page) := by
  have hsearch : search specimenTree Rigor.inTurn specimenMetadata none = some specimenDraft :=
    search_of_attempt _ _ _ specimenStages.drafted.2 _ _ attempt_specimen
  unfold ofDom?
  dsimp only
  rw [specimenStages.prepared, specimenStages.metadata, hsearch]
  exact Option.map_some ..

/-- The two places can be read from their texts. -/
theorem ofText_shown_place :
    ∀ name ∈ ["x", "y"], Url.ofText (place name).shown = .ok (place name) := by
  decide +kernel

/-- The specimen is rendered with an image whose address leads from the place of the page. -/
theorem render_specimen (name : String) (hname : name ∈ ["x", "y"]) :
    Page.render specimen (place name) 0 = .ok (specimenMarkup name) := by
  obtain ⟨htext, hmarkup⟩ := specimenStages.finished name hname
  have harticle : Page.article specimenTree (place name) = .ok (specimenArticle (place name)) :=
    (Page.article_eq_ok_iff _ _ _).2 ⟨ofDom?_specimen _, htext⟩
  rw [← hmarkup]
  refine Page.render_of_article specimen (place name) (place name) 0 _ (ofText_shown_place name hname)
    (Page.exceeds_zero _) ?_
  rw [specimenStages.read, harticle]

end MainContent.Article
