import MainContent.Proofs.Text.Part
import MainContent.Proofs.Url.Encode

/-!
# A path is read as it is written

The names of a path of the web are settled: nothing in them is escaped any more, and none of them
leads a step up or nowhere (`settled_of_mem_follow`). Following settled names puts them down one
after the other (`follow_settled`), so a path is read from its text as it was (`readPath_shown`).
-/

namespace MainContent.Url

/-- A name that is kept as it is. -/
structure Settled (name : String) : Prop where
  /-- It needs no escape. -/
  kept : ∀ c ∈ name.toList, inPathSet c = false
  /-- It has no slash. -/
  slash : ∀ c ∈ name.toList, isSlash .web c = false
  /-- It does not lead nowhere. -/
  here : readDots name.toList ≠ ['.']
  /-- It does not lead up. -/
  up : readDots name.toList ≠ ['.', '.']

theorem settled_empty : Settled "" :=
  ⟨nofun, nofun, nofun, nofun⟩

/-- Under a scheme of the web a name is kept with its escapes and nothing else. -/
theorem toList_keepName (atRoot : Bool) (piece : List Char) :
    (keepName .web atRoot piece).toList = percentEncode inPathSet piece := by
  simp [keepName]

theorem escaping_slash : Escaping (isSlash .web) := ⟨by decide, by decide⟩

/-- A piece of a path that leads to a name is settled when it is kept. -/
theorem settled_keepName {piece : List Char} (hslash : ∀ c ∈ piece, isSlash .web c = false)
    (hhere : readDots piece ≠ ['.']) (hup : readDots piece ≠ ['.', '.']) (atRoot : Bool) :
    Settled (keepName .web atRoot piece) := by
  -- A name that reads as dots when it is kept would have read so before.
  have hdots {ds : List Char} (h : ∀ d ∈ ds, d = '.') (hpiece : readDots piece ≠ ds) :
      readDots (percentEncode inPathSet piece) ≠ ds := by
    rintro rfl
    rw [percentEncode_eq_self_of_dots (by decide) h] at hpiece
    exact hpiece rfl
  constructor <;> rw [toList_keepName]
  · exact escaping_path.not_mem_percentEncode piece
  · exact escaping_slash.of_mem_percentEncode fun c hc _ => hslash c hc
  · exact hdots (by simp) hhere
  · exact hdots (by simp) hup

/-- A settled name is kept as it is. -/
theorem Settled.keepName_eq {name : String} (h : Settled name) (atRoot : Bool) :
    keepName .web atRoot name.toList = name := by
  rw [← String.toList_inj, toList_keepName, percentEncode_eq_self h.kept]

/-! ## Following a path -/

theorem mem_of_mem_stepUp {names : List String} {n : String} (h : n ∈ stepUp names) : n ∈ names := by
  unfold stepUp at h
  split at h
  · exact h
  · split at h
    · exact h
    · exact List.mem_cons_of_mem _ h

/-- All names that a path leads to are settled. -/
theorem settled_of_mem_follow {names : List String} {pieces : List (List Char)}
    (hnames : ∀ n ∈ names, Settled n)
    (hpieces : ∀ piece ∈ pieces, ∀ c ∈ piece, isSlash .web c = false) :
    ∀ n ∈ follow .web names pieces, Settled n := by
  have hup (names : List String) (h : ∀ n ∈ names, Settled n) : ∀ n ∈ stepUp names, Settled n :=
    fun n hn => h n (mem_of_mem_stepUp hn)
  fun_induction follow SchemeKind.web names pieces with
  | case1 names => exact hnames
  | case2 names last hlast => exact List.forall_mem_cons.2 ⟨settled_empty, hup names hnames⟩
  | case3 names last hup hhere => exact List.forall_mem_cons.2 ⟨settled_empty, hnames⟩
  | case4 names last hup hhere =>
    exact List.forall_mem_cons.2
      ⟨settled_keepName (hpieces last List.mem_cons_self) hhere hup _, hnames⟩
  | case5 names piece more hmore hpiece ih =>
    exact ih (hup names hnames) fun p hp => hpieces p (List.mem_cons_of_mem _ hp)
  | case6 names piece more hmore hup hhere ih =>
    exact ih hnames fun p hp => hpieces p (List.mem_cons_of_mem _ hp)
  | case7 names piece more hmore hup hhere ih =>
    exact ih (List.forall_mem_cons.2
      ⟨settled_keepName (hpieces piece List.mem_cons_self) hhere hup _, hnames⟩)
      fun p hp => hpieces p (List.mem_cons_of_mem _ hp)

/-- A path leads to a name at least. -/
theorem follow_ne_nil {names : List String} {pieces : List (List Char)} (h : pieces ≠ []) :
    follow .web names pieces ≠ [] := by
  fun_induction follow SchemeKind.web names pieces with
  | case1 => exact absurd rfl h
  | case2 => simp
  | case3 => simp
  | case4 => simp
  | case5 names piece more hmore hpiece ih => exact ih (by simpa using hmore)
  | case6 names piece more hmore hup hhere ih => exact ih (by simpa using hmore)
  | case7 names piece more hmore hup hhere ih => exact ih (by simpa using hmore)

/-- Following settled names puts them down one after the other. -/
theorem follow_settled {names : List String} (h : ∀ n ∈ names, Settled n) (start : List String) :
    follow .web start (names.map String.toList) = names.reverse ++ start := by
  induction names generalizing start with
  | nil => rfl
  | cons n names ih =>
    obtain ⟨hn, hnames⟩ := List.forall_mem_cons.1 h
    rw [List.reverse_cons, List.append_assoc, List.singleton_append, ← ih hnames]
    cases names with
    | nil =>
      simp only [List.map_cons, List.map_nil, follow, hn.up, hn.here, if_false, hn.keepName_eq]
    | cons m names =>
      rw [List.map_cons, follow, if_neg hn.up, if_neg hn.here, hn.keepName_eq]
      simp

/-! ## The text of a path -/

/-- The names of a path without its first slash, with slashes between them. -/
def joined (first : String) (names : List String) : List Char :=
  first.toList ++ names.flatMap fun n => '/' :: n.toList

/-- A path is written as its names with slashes before them. -/
theorem toList_shown_segments (first : String) (names : List String) :
    (Path.segments (first :: names)).shown.toList = '/' :: joined first names := by
  have hjoin (ns : List String) : (String.join (ns.map ("/" ++ ·))).toList =
      ns.flatMap fun n => '/' :: n.toList := by
    induction ns with
    | nil => rfl
    | cons n ns ih =>
      rw [List.map_cons, String.join_cons, String.toList_append, ih, String.toList_append]
      rfl
  rw [Path.shown, hjoin, joined, List.flatMap_cons, List.cons_append]

/-- The pieces of the text are the names. -/
theorem splitOnP_joined {first : String} {names : List String} (hfirst : Settled first)
    (hnames : ∀ n ∈ names, Settled n) :
    (joined first names).splitOnP (isSlash .web) = (first :: names).map String.toList := by
  induction names generalizing first with
  | nil =>
    rw [joined, List.flatMap_nil, List.append_nil]
    exact List.splitOnP_eq_singleton hfirst.slash
  | cons n names ih =>
    obtain ⟨hn, hrest⟩ := List.forall_mem_cons.1 hnames
    have hjoined : joined first (n :: names) = first.toList ++ '/' :: joined n names := by
      rw [joined, List.flatMap_cons, joined, List.cons_append]
    rw [hjoined, List.splitOnP_append_cons_of_forall_mem hfirst.slash '/' (by decide), ih hn hrest]
    rfl

/-- The path of a URL of the web: one or more settled names. -/
def SettledPath (path : Path) : Prop :=
  ∃ first names, path = .segments (first :: names) ∧ ∀ n ∈ first :: names, Settled n

/-- What is read as a path is settled. -/
theorem settledPath_readPath (cs : List Char) : SettledPath (readPath .web cs) := by
  have hfollow (text : List Char) : SettledPath (followText .web [] text) := by
    have hsettled : ∀ n ∈ follow .web [] (text.splitOnP (isSlash .web)), Settled n :=
      settled_of_mem_follow nofun fun piece hpiece c hc => (Text.mem_of_mem_splitOnP hpiece c hc).2
    have hne : follow .web [] (text.splitOnP (isSlash .web)) ≠ [] :=
      follow_ne_nil (List.splitOnP_ne_nil (isSlash .web) text)
    obtain ⟨first, names, heq⟩ := List.exists_cons_of_ne_nil (List.reverse_ne_nil_iff.2 hne)
    refine ⟨first, names, ?_, fun n hn => hsettled n ?_⟩
    · rw [followText, List.reverse_nil, heq]
    · rwa [← List.mem_reverse, heq]
  unfold readPath
  split
  · exact ⟨"", [], rfl, by simpa using settled_empty⟩
  · split
    · exact hfollow _
    · exact hfollow _

/-- The text of a settled path begins with a slash, and needs no escape. -/
theorem SettledPath.exists_shown_eq_cons {path : Path} (h : SettledPath path) :
    ∃ text, path.shown.toList = '/' :: text ∧ ∀ c ∈ text, inPathSet c = false := by
  obtain ⟨first, names, rfl, hsettled⟩ := h
  refine ⟨joined first names, toList_shown_segments first names, fun c hc => ?_⟩
  rcases List.mem_append.1 hc with hc | hc
  · exact (hsettled first List.mem_cons_self).kept c hc
  · obtain ⟨n, hn, hc⟩ := List.mem_flatMap.1 hc
    rcases List.mem_cons.1 hc with rfl | hc
    · decide
    · exact (hsettled n (List.mem_cons_of_mem _ hn)).kept c hc

/-- A settled path is read from its text as it is. -/
theorem SettledPath.readPath_shown {path : Path} (h : SettledPath path) :
    readPath .web path.shown.toList = path := by
  obtain ⟨first, names, rfl, hsettled⟩ := h
  obtain ⟨hfirst, hnames⟩ := List.forall_mem_cons.1 hsettled
  have hslash : isSlash .web '/' = true := by decide
  rw [toList_shown_segments, readPath, if_pos hslash, followText, splitOnP_joined hfirst hnames,
    List.reverse_nil, follow_settled hsettled, List.append_nil, List.reverse_reverse]

end MainContent.Url
