import MainContent.Proofs.Text.Utf8
import MainContent.Service.RequestTarget
import Mathlib.Data.List.TakeWhile

/-!
# Where the path and the query of a target stand

The text of a target with a query is its head, a `?`, the query, and a tail, which is empty or a
fragment with its `#`. `ofText?_of_question` says that the target has the query as it is written and
the path that it would have if nothing followed the `?`, so that the path does not depend on the
query.

The proof is about bytes. A target that is only a path is cut at the first `?` (`readPath?_append`);
in one with a scheme, the scheme and the authority end before the `?`, since a `?` is a byte of
neither (`readFull?_append`).
-/

namespace MainContent.Service.RequestTarget

open MainContent.Text

/-- What is taken while a condition holds ends before the first byte that breaks it. -/
theorem takeWhile_append_stop (p : UInt8 → Bool) (bs rest : List UInt8) (b : UInt8)
    (hb : p b = false) : (bs ++ b :: rest).takeWhile p = bs.takeWhile p := by
  induction bs with
  | nil => simp [hb]
  | cons a bs ih =>
    rw [List.cons_append, List.takeWhile_cons, List.takeWhile_cons, ih]

/-- What is left after a condition has held still has the first byte that breaks it. -/
theorem dropWhile_append_stop (p : UInt8 → Bool) (bs rest : List UInt8) (b : UInt8)
    (hb : p b = false) : (bs ++ b :: rest).dropWhile p = bs.dropWhile p ++ b :: rest := by
  induction bs with
  | nil => simp [hb]
  | cons a bs ih =>
    rw [List.cons_append, List.dropWhile_cons, List.dropWhile_cons, ih]
    split <;> rfl

/-- A byte that does not occur is passed over to the end. -/
theorem takeWhile_ne_of_not_mem (bs : List UInt8) (b : UInt8) (h : b ∉ bs) :
    bs.takeWhile (· != b) = bs := by
  rw [List.takeWhile_eq_self_iff]
  intro a ha
  have hne : a ≠ b := fun heq => h (heq ▸ ha)
  simp [hne]

/-- The bytes that may follow a query: none, or a fragment. -/
def EndsQuery (tail : List UInt8) : Prop :=
  tail = [] ∨ ∃ rest, tail = 0x23 :: rest

/-- What stands before the fragment is a target without its tail. -/
theorem takeWhile_fragment (bs tail : List UInt8) (h : (0x23 : UInt8) ∉ bs) (htail : EndsQuery tail) :
    (bs ++ tail).takeWhile (· != 0x23) = bs := by
  rcases htail with rfl | ⟨rest, rfl⟩
  · rw [List.append_nil]
    exact takeWhile_ne_of_not_mem bs 0x23 h
  · rw [takeWhile_append_stop _ _ _ _ (by decide)]
    exact takeWhile_ne_of_not_mem bs 0x23 h

/-- A path with a query is cut at the first `?`, and a fragment is left out. -/
theorem readPath?_append (path query tail : List UInt8) (hpath : (0x3F : UInt8) ∉ path)
    (hpath' : (0x23 : UInt8) ∉ path) (hquery : (0x23 : UInt8) ∉ query) (htail : EndsQuery tail) :
    readPath? (path ++ 0x3F :: (query ++ tail)) =
      if path.all inPath && query.all inQuery then some (asciiText path, asciiText query)
      else none := by
  have hbody : (path ++ 0x3F :: (query ++ tail)).takeWhile (· != 0x23) = path ++ 0x3F :: query := by
    rw [← List.cons_append, ← List.append_assoc]
    apply takeWhile_fragment _ _ _ htail
    simp [hpath', hquery]
  have hbefore : (path ++ 0x3F :: query).takeWhile (· != 0x3F) = path := by
    rw [takeWhile_append_stop _ _ _ _ (by decide)]
    exact takeWhile_ne_of_not_mem path 0x3F hpath
  have hafter : (path ++ 0x3F :: query).dropWhile (· != 0x3F) = 0x3F :: query := by
    rw [dropWhile_append_stop _ _ _ _ (by decide), List.dropWhile_eq_nil_iff.2, List.nil_append]
    intro a ha
    have hne : a ≠ 0x3F := fun heq => hpath (heq ▸ ha)
    simp [hne]
  simp only [readPath?, hbody, hbefore, hafter, List.drop_one, List.tail_cons]

/-- A target that is read as a path with a query has the query as it is written, and it has the same
path when nothing follows the `?`, whatever is made of the path. -/
theorem map_readPath?_append (f : String → String) (path query tail : List UInt8)
    (hpath : (0x3F : UInt8) ∉ path) (hpath' : (0x23 : UInt8) ∉ path)
    (hquery : (0x23 : UInt8) ∉ query) (htail : EndsQuery tail) (r : RequestTarget)
    (h : (readPath? (path ++ 0x3F :: (query ++ tail))).map
      (fun p => (⟨f p.1, p.2⟩ : RequestTarget)) = some r) :
    query.all inQuery = true ∧ r.query = asciiText query ∧
      (readPath? (path ++ [0x3F])).map (fun p => (⟨f p.1, p.2⟩ : RequestTarget)) =
        some { r with query := "" } := by
  have hempty := readPath?_append path [] [] hpath hpath' (by simp) (Or.inl rfl)
  rw [List.append_nil] at hempty
  rw [readPath?_append path query tail hpath hpath' hquery htail] at h
  rw [hempty]
  by_cases hbytes : (path.all inPath && query.all inQuery) = true
  · rw [if_pos hbytes, Option.map_some, Option.some.injEq] at h
    rw [Bool.and_eq_true] at hbytes
    rw [← h]
    exact ⟨hbytes.2, rfl, by rw [hbytes.1]; rfl⟩
  · rw [if_neg hbytes] at h
    exact absurd h (by simp)

/-! ## Targets with a scheme -/

/-- A scan that has met a byte out of place stays broken. -/
theorem AuthorityScan.broken_next (s : AuthorityScan) (b : UInt8) (h : s.broken = true) :
    (s.next b).broken = true := by
  simp [AuthorityScan.next, apply_ite AuthorityScan.broken, h]

/-- A scan that has met a byte out of place ends broken. -/
theorem AuthorityScan.broken_foldl (bs : List UInt8) (s : AuthorityScan) (h : s.broken = true) :
    (bs.foldl AuthorityScan.next s).broken = true := by
  induction bs generalizing s with
  | nil => exact h
  | cons b bs ih => exact ih (s.next b) (AuthorityScan.broken_next s b h)

/-- Bytes with a `?` are no authority. -/
theorem isAuthority_question (bs rest : List UInt8) : isAuthority (bs ++ 0x3F :: rest) = false := by
  have hbroken : ((bs ++ 0x3F :: rest).foldl AuthorityScan.next {}).broken = true := by
    rw [List.foldl_append, List.foldl_cons]
    apply AuthorityScan.broken_foldl
    have hout : inAuthority 0x3F = false := by decide +kernel
    simp [AuthorityScan.next, hout]
  simp only [isAuthority, hbroken, Bool.not_true, Bool.false_and]

/-- What follows a scheme and `://` is what is left after them. -/
theorem afterScheme_eq_some_iff (bs rest : List UInt8) :
    afterScheme bs = some rest ↔ bs.dropWhile inScheme = 0x3A :: 0x2F :: 0x2F :: rest := by
  unfold afterScheme
  split
  · next found hfound => simp [hfound]
  · next hnone =>
    constructor
    · intro h
      exact absurd h (by simp)
    · intro h
      exact absurd h (hnone rest)

/-- What follows the scheme of a target with a `?` is what follows the scheme of its head, and the
`?` with the rest after it. -/
theorem afterScheme_append (head rest : List UInt8) :
    afterScheme (head ++ 0x3F :: rest) = (afterScheme head).map (· ++ 0x3F :: rest) := by
  apply Option.ext
  intro found
  rw [afterScheme_eq_some_iff, Option.map_eq_some_iff, dropWhile_append_stop _ _ _ _ (by decide)]
  simp only [afterScheme_eq_some_iff]
  constructor
  · intro h
    -- The `?` is none of the three bytes after the scheme, so these stand in the head.
    match head.dropWhile inScheme, h with
    | [], h => simp at h
    | [_], h => simp at h
    | [_, _], h => simp at h
    | a :: b :: c :: more, h =>
      simp only [List.cons_append, List.cons.injEq] at h
      obtain ⟨rfl, rfl, rfl, hmore⟩ := h
      exact ⟨more, rfl, hmore⟩
  · rintro ⟨more, hmore, rfl⟩
    rw [hmore]
    rfl

/-- The path and the query of a full target with a `?`, where its scheme and its authority are found
before the `?`. -/
theorem readFull?_append (head query tail : List UInt8) (hhead : (0x3F : UInt8) ∉ head)
    (hhead' : (0x23 : UInt8) ∉ head) (hquery : (0x23 : UInt8) ∉ query) (htail : EndsQuery tail)
    (r : RequestTarget) (h : readFull? (head ++ 0x3F :: (query ++ tail)) = some r) :
    query.all inQuery = true ∧ r.query = asciiText query ∧
      readFull? (head ++ [0x3F]) = some { r with query := "" } := by
  unfold readFull? at h ⊢
  rw [afterScheme_append] at h ⊢
  cases hscheme : afterScheme head with
  | none =>
    rw [hscheme] at h
    simp [isAuthority_question] at h
  | some rest =>
    -- The path is what is left of the head when the authority has been taken.
    have hsub : ∀ b ∈ rest.dropWhile (!endsAuthority ·), b ∈ head := by
      intro b hb
      apply (List.dropWhile_suffix inScheme).subset
      rw [(afterScheme_eq_some_iff head rest).1 hscheme]
      simp [(List.dropWhile_suffix _).subset hb]
    rw [hscheme] at h
    simp only [Option.map_some, takeWhile_append_stop _ _ _ 0x3F (by decide : inScheme 0x3F = false),
      takeWhile_append_stop (!endsAuthority ·) _ _ 0x3F (by decide),
      dropWhile_append_stop (!endsAuthority ·) _ _ 0x3F (by decide)] at h ⊢
    generalize rest.dropWhile (!endsAuthority ·) = path at h hsub ⊢
    have hpath : (0x3F : UInt8) ∉ path := fun hmem => hhead (hsub _ hmem)
    have hpath' : (0x23 : UInt8) ∉ path := fun hmem => hhead' (hsub _ hmem)
    split at h
    · exact absurd h (by simp)
    · next hauthority =>
      rw [if_neg hauthority]
      exact map_readPath?_append (fun p => if p.isEmpty then "/" else p) path query tail hpath
        hpath' hquery htail r h

/-! ## Texts of targets -/

/-- Bytes of a query are ASCII, so they are the text that was written. -/
theorem asciiText_encode (cs : List Char) (h : (Utf8.encode cs).all inQuery = true) :
    asciiText (Utf8.encode cs) = String.ofList cs := by
  rw [asciiText, Utf8.map_ofNat_encode]
  intro b hb
  have hquery := List.all_eq_true.1 h b hb
  simp only [inQuery, Bool.or_eq_true, beq_iff_eq, Bool.and_eq_true, decide_eq_true_eq,
    UInt8.le_iff_toNat_le] at hquery
  rcases hquery with ((rfl | hb) | rfl) | hb
  · decide
  · exact Nat.lt_of_le_of_lt hb.2 (by decide)
  · decide
  · exact Nat.lt_of_le_of_lt hb.2 (by decide)

/-- The bytes of a text with a `?` in it are cut where the text is. -/
theorem encode_question (head rest : List Char) :
    Utf8.encode (head ++ '?' :: rest) = Utf8.encode head ++ 0x3F :: Utf8.encode rest := by
  rw [Utf8.encode_append, Utf8.encode_cons]
  rfl

/-- A tail of a text is a tail of its bytes. -/
theorem endsQuery_encode (tail : List Char) (h : tail = [] ∨ ∃ rest, tail = '#' :: rest) :
    EndsQuery (Utf8.encode tail) := by
  rcases h with rfl | ⟨rest, rfl⟩
  · exact Or.inl rfl
  · exact Or.inr ⟨Utf8.encode rest, by rw [Utf8.encode_cons]; rfl⟩

/-- The query of a target is what stands between the first `?` and the fragment, as it is written.
The path is what it would be if the text ended with that `?`. -/
theorem ofText?_of_question (head query tail : List Char) (hhead : '?' ∉ head) (hhead' : '#' ∉ head)
    (hquery : '#' ∉ query) (htail : tail = [] ∨ ∃ rest, tail = '#' :: rest) (r : RequestTarget)
    (h : ofText? (String.ofList (head ++ '?' :: (query ++ tail))) = some r) :
    r.query = String.ofList query ∧
      ofText? (String.ofList (head ++ ['?'])) = some { r with query := "" } := by
  have hH : (0x3F : UInt8) ∉ Utf8.encode head :=
    fun hmem => hhead (Utf8.ofNat_mem_of_mem_encode head 0x3F (by decide) hmem)
  have hH' : (0x23 : UInt8) ∉ Utf8.encode head :=
    fun hmem => hhead' (Utf8.ofNat_mem_of_mem_encode head 0x23 (by decide) hmem)
  have hQ : (0x23 : UInt8) ∉ Utf8.encode query :=
    fun hmem => hquery (Utf8.ofNat_mem_of_mem_encode query 0x23 (by decide) hmem)
  have hT := endsQuery_encode tail htail
  unfold ofText? at h ⊢
  rw [String.toList_ofList, encode_question, Utf8.encode_append] at h
  rw [String.toList_ofList, encode_question]
  have hstar : ∀ rest, Utf8.encode head ++ 0x3F :: rest ≠ [0x2A] := by
    intro rest hrest
    have hmem : (0x3F : UInt8) ∈ [0x2A] := by
      rw [← hrest]
      simp
    simp at hmem
  have hfirst : ∀ rest, (Utf8.encode head ++ 0x3F :: rest).head? =
      (Utf8.encode head ++ [0x3F]).head? := by
    intro rest
    cases Utf8.encode head <;> rfl
  rw [show Utf8.encode [] = [] from rfl]
  dsimp only at h ⊢
  rw [if_neg (hstar _), hfirst] at h
  rw [if_neg (hstar _)]
  -- What is read is short enough, and so is the part of it that ends with the `?`.
  split at h
  · exact absurd h (by simp)
  · next hsize =>
    have hsize' : ¬ (decide (largest < (Utf8.encode head ++ [0x3F]).length) ||
        (Utf8.encode head ++ [0x3F]).isEmpty) = true := by
      simp only [Bool.or_eq_true, decide_eq_true_eq, List.length_append, List.length_cons,
        List.length_nil, not_or, List.isEmpty_iff] at hsize ⊢
      exact ⟨by omega, by simp⟩
    rw [if_neg hsize']
    split at h
    · next hslash =>
      rw [if_pos hslash]
      obtain ⟨hbytes, hq, hp⟩ := map_readPath?_append id _ _ _ hH hH' hQ hT r h
      exact ⟨by rw [hq, asciiText_encode query hbytes], hp⟩
    · next hslash =>
      rw [if_neg hslash]
      obtain ⟨hbytes, hq, hp⟩ := readFull?_append _ _ _ hH hH' hQ hT r h
      exact ⟨by rw [hq, asciiText_encode query hbytes], hp⟩

end MainContent.Service.RequestTarget
