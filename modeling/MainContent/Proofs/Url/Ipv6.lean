import MainContent.Proofs.Text.Ascii
import MainContent.Proofs.Text.Part
import MainContent.Proofs.Text.Utf8
import MainContent.Url.Ipv6
import Mathlib.Data.List.TakeWhile
import Mathlib.Data.Nat.Digits.Defs

/-!
# IPv6 addresses are read as they are written

What is read as an address is eight pieces of sixteen bits (`whole_of_read?`), and the shortest
writing of eight such pieces is read as the pieces (`read?_shown`). Of the run that is left out it
matters only that it is a run of zeros (`exists_run`), not that it is the first longest one.
-/

namespace MainContent.Url.Ipv6

/-- The pieces of an address. -/
structure Whole (ns : List Nat) : Prop where
  /-- They are eight. -/
  length_eq : ns.length = 8
  /-- They have sixteen bits. -/
  lt : ∀ n ∈ ns, n < 65536

/-! ## What is read -/

theorem hexValue?_lt {c : Char} {d : Nat} (h : Text.hexValue? c = some d) : d < 16 := by
  unfold Text.hexValue? at h
  simp only [Text.isDigit_iff, Text.between_iff, Char.reduceToNat] at h
  split_ifs at h <;> obtain rfl := Option.some.inj h <;> omega

/-- Reads one more hexadecimal digit. -/
def push (acc : Option Nat) (c : Char) : Option Nat := do
  return (← acc) * 16 + (← Text.hexValue? c)

/-- Digits make up a number with as many digits. -/
theorem lt_of_foldl_push {cs : List Char} {start n : Nat} (h : cs.foldl push (some start) = some n) :
    n < (start + 1) * 16 ^ cs.length := by
  induction cs generalizing start with
  | nil =>
    obtain rfl := Option.some.inj h
    simp
  | cons c cs ih =>
    rw [List.foldl_cons] at h
    cases hc : Text.hexValue? c with
    | none =>
      -- Once a character is no digit, the others do not bring a number back.
      have hnone : cs.foldl push none = none := by
        clear h ih
        induction cs with
        | nil => rfl
        | cons _ _ ih => exact ih
      rw [push, hc] at h
      exact absurd (hnone.symm.trans h) nofun
    | some d =>
      have hd := hexValue?_lt hc
      rw [push, hc] at h
      calc n < (start * 16 + d + 1) * 16 ^ cs.length := ih h
        _ ≤ ((start + 1) * 16) * 16 ^ cs.length := Nat.mul_le_mul_right _ (by omega)
        _ = (start + 1) * 16 ^ (c :: cs).length := by
          rw [List.length_cons, Nat.mul_assoc, ← Nat.pow_succ']

theorem pieceValue?_lt {cs : List Char} {n : Nat} (h : pieceValue? cs = some n) : n < 65536 := by
  unfold pieceValue? at h
  split at h
  · cases h
  · rename_i hlength
    rw [Bool.or_eq_true, decide_eq_true_eq, not_or, Nat.not_lt] at hlength
    calc n < (0 + 1) * 16 ^ cs.length := lt_of_foldl_push h
      _ ≤ (0 + 1) * 16 ^ 4 := Nat.mul_le_mul_left _ (Nat.pow_le_pow_right (by omega) hlength.2)
      _ = 65536 := rfl

theorem byteValue?_lt {cs : List Char} {n : Nat} (h : byteValue? cs = some n) : n < 256 := by
  unfold byteValue? at h
  split at h
  · cases h
  · dsimp only at h
    split at h
    · rename_i hlt
      exact Option.some.inj h ▸ hlt
    · cases h

theorem lt_of_mem_ending? {cs : List Char} {ns : List Nat} (h : ending? cs = some ns) :
    ∀ n ∈ ns, n < 65536 := by
  unfold ending? at h
  split at h
  · rename_i a b c d hbytes
    have hread := Text.Utf8.mapM_eq_some_iff.1 hbytes
    have hlt : ∀ x ∈ [a, b, c, d], x < 256 := by
      intro x hx
      have hmem : some x ∈ (cs.splitOn '.').map byteValue? := by
        rw [hread]
        exact List.mem_map_of_mem hx
      obtain ⟨piece, -, hpiece⟩ := List.mem_map.1 hmem
      exact byteValue?_lt hpiece
    obtain rfl := Option.some.inj h
    simp only [List.mem_cons, List.not_mem_nil, or_false, forall_eq_or_imp, forall_eq] at hlt ⊢
    omega
  · cases h

theorem lt_of_mem_pieces? {atEnd : Bool} {ps : List (List Char)} {ns : List Nat}
    (h : pieces? atEnd ps = some ns) : ∀ n ∈ ns, n < 65536 := by
  fun_induction pieces? atEnd ps generalizing ns with
  | case1 =>
    obtain rfl := Option.some.inj h
    simp
  | case2 p hending => exact lt_of_mem_ending? h
  | case3 p hending =>
    obtain ⟨n, hn, rfl⟩ := Option.map_eq_some_iff.1 h
    simpa using pieceValue?_lt hn
  | case4 p ps hps ih =>
    simp only [Option.pure_def, Option.bind_eq_bind, Option.bind_eq_some_iff, Option.some.injEq] at h
    obtain ⟨n, hn, ms, hms, rfl⟩ := h
    exact List.forall_mem_cons.2 ⟨pieceValue?_lt hn, ih hms⟩

theorem lt_of_mem_part? {atEnd : Bool} {cs : List Char} {ns : List Nat}
    (h : part? atEnd cs = some ns) : ∀ n ∈ ns, n < 65536 := by
  unfold part? at h
  split at h
  · obtain rfl := Option.some.inj h
    simp
  · exact lt_of_mem_pieces? h

/-- What is read as an address is one. -/
theorem whole_of_read? {cs : List Char} {ns : List Nat} (h : read? cs = some ns) : Whole ns := by
  unfold read? at h
  split at h
  · simp only [Option.bind_eq_bind, Option.bind_eq_some_iff] at h
    obtain ⟨ms, hms, h⟩ := h
    split at h
    · rename_i hlength
      obtain rfl := Option.some.inj h
      exact ⟨hlength, lt_of_mem_part? hms⟩
    · cases h
  · simp only [Option.bind_eq_bind, Option.bind_eq_some_iff] at h
    obtain ⟨ls, hls, rs, hrs, h⟩ := h
    split at h
    · rename_i hlength
      obtain rfl := Option.some.inj h
      refine ⟨by simp only [List.length_append, List.length_replicate]; omega, fun n hn => ?_⟩
      rw [List.mem_append, List.mem_append, List.mem_replicate] at hn
      rcases hn with (hn | hn) | hn
      · exact lt_of_mem_part? hls n hn
      · omega
      · exact lt_of_mem_part? hrs n hn
    · cases h

/-! ## Pieces in hexadecimal -/

/-- The digits of a piece. -/
theorem exists_eq_digitChar {n : Nat} : ∀ c ∈ Text.lowerHex n, ∃ d < 16, c = d.digitChar := by
  induction n using Nat.strongRecOn with
  | ind n ih =>
    intro c hc
    by_cases hlt : n < 16
    · rw [Text.lowerHex, Nat.toDigits_of_lt_base hlt, List.mem_singleton] at hc
      exact ⟨n, hlt, hc⟩
    · rw [Text.lowerHex, Nat.toDigits_of_base_le (by omega) (by omega), List.mem_append,
        List.mem_singleton] at hc
      rcases hc with hc | hc
      · exact ih (n / 16) (by omega) c hc
      · exact ⟨n % 16, Nat.mod_lt _ (by omega), hc⟩

/-- A piece has no colon and no dot. -/
theorem not_mem_lowerHex (n : Nat) : ':' ∉ Text.lowerHex n ∧ '.' ∉ Text.lowerHex n := by
  have hdigit : ∀ d < 16, ':' ≠ d.digitChar ∧ '.' ≠ d.digitChar := by decide
  constructor <;> intro hmem <;> obtain ⟨d, hd, heq⟩ := exists_eq_digitChar _ hmem
  · exact (hdigit d hd).1 heq
  · exact (hdigit d hd).2 heq

/-- The digits of a number are read as the number. -/
theorem foldl_push_lowerHex (n : Nat) : (Text.lowerHex n).foldl push (some 0) = some n := by
  have hpush : ∀ d < 16, ∀ m, push (some m) d.digitChar = some (m * 16 + d) := by
    have hvalue : ∀ d < 16, Text.hexValue? d.digitChar = some d := by decide
    intro d hd m
    rw [push, hvalue d hd]
    rfl
  induction n using Nat.strongRecOn with
  | ind n ih =>
    by_cases hlt : n < 16
    · rw [Text.lowerHex, Nat.toDigits_of_lt_base hlt, List.foldl_cons, hpush n hlt, List.foldl_nil,
        Nat.zero_mul, Nat.zero_add]
    · have hrest := ih (n / 16) (by omega)
      rw [Text.lowerHex] at hrest ⊢
      rw [Nat.toDigits_of_base_le (by omega) (by omega), List.foldl_append, hrest, List.foldl_cons,
        hpush _ (Nat.mod_lt _ (by omega)), List.foldl_nil, Nat.div_add_mod']

/-- A written piece is read as the piece. -/
theorem pieceValue?_lowerHex {n : Nat} (h : n < 65536) : pieceValue? (Text.lowerHex n) = some n := by
  have hlength : (Text.lowerHex n).length ≤ 4 := Nat.toDigits_length 16 n 4 (by omega) h
  rw [pieceValue?, if_neg]
  · exact foldl_push_lowerHex n
  · rw [Bool.or_eq_true, List.isEmpty_iff, decide_eq_true_eq, not_or, Nat.not_lt]
    exact ⟨Nat.toDigits_ne_nil, hlength⟩

/-- Written pieces are read as the pieces. -/
theorem pieces?_map_lowerHex (atEnd : Bool) {ns : List Nat} (h : ∀ n ∈ ns, n < 65536) :
    pieces? atEnd (ns.map Text.lowerHex) = some ns := by
  induction ns with
  | nil => rfl
  | cons n ns ih =>
    obtain ⟨hn, hns⟩ := List.forall_mem_cons.1 h
    cases ns with
    | nil =>
      have hdot : (Text.lowerHex n).contains '.' = false := by
        simpa using (not_mem_lowerHex n).2
      rw [List.map_singleton, pieces?, hdot, Bool.and_false, if_neg Bool.false_ne_true,
        pieceValue?_lowerHex hn]
      rfl
    | cons m ms =>
      rw [List.map_cons, pieces?, pieceValue?_lowerHex hn, ih hns]
      · rfl
      · simp

/-- Behind its first piece, a writing of pieces goes on with a colon. -/
theorem showPieces_cons_cons (n m : Nat) (ms : List Nat) :
    showPieces (n :: m :: ms) = Text.lowerHex n ++ ':' :: showPieces (m :: ms) := by
  rw [showPieces, List.map_cons, List.map_cons, List.intercalate_cons_cons, List.append_assoc,
    List.singleton_append]
  rfl

/-- A writing of pieces does not begin with a colon. -/
theorem exists_showPieces_eq_cons (n : Nat) (ns : List Nat) :
    ∃ d digits, showPieces (n :: ns) = d :: digits ∧ d ≠ ':' := by
  obtain ⟨d, digits, hdigits⟩ := List.exists_cons_of_ne_nil (Nat.toDigits_ne_nil (n := n) (b := 16))
  have hd : d ≠ ':' := by
    rintro rfl
    refine (not_mem_lowerHex n).1 ?_
    rw [Text.lowerHex, hdigits]
    exact List.mem_cons_self
  cases ns with
  | nil =>
    refine ⟨d, digits, ?_, hd⟩
    rw [showPieces, List.map_singleton, List.intercalate_singleton, Text.lowerHex, hdigits]
  | cons m ms =>
    refine ⟨d, digits ++ ':' :: showPieces (m :: ms), ?_, hd⟩
    rw [showPieces_cons_cons, Text.lowerHex, hdigits, List.cons_append]

/-- Pieces with colons between them are read as the pieces. -/
theorem part?_showPieces (atEnd : Bool) {ns : List Nat} (h : ∀ n ∈ ns, n < 65536) :
    part? atEnd (showPieces ns) = some ns := by
  cases ns with
  | nil => rfl
  | cons n ns =>
    have hsplit : (showPieces (n :: ns)).splitOn ':' = (n :: ns).map Text.lowerHex := by
      refine List.splitOn_intercalate ':' (fun piece hpiece => ?_) (by simp)
      obtain ⟨m, -, rfl⟩ := List.mem_map.1 hpiece
      exact (not_mem_lowerHex m).1
    have hne : (showPieces (n :: ns)).isEmpty = false := by
      obtain ⟨d, digits, hshow, -⟩ := exists_showPieces_eq_cons n ns
      rw [hshow]
      rfl
    rw [part?, hne, if_neg Bool.false_ne_true, hsplit, pieces?_map_lowerHex atEnd h]

/-! ## The gap -/

/-- A text without colons is passed over. -/
theorem splitAtGap_append {cs : List Char} (h : ':' ∉ cs) (before rest : List Char) :
    splitAtGap before (cs ++ rest) = splitAtGap (cs.reverse ++ before) rest := by
  induction cs generalizing before with
  | nil => rfl
  | cons c cs ih =>
    rw [List.mem_cons, not_or] at h
    rw [List.cons_append, splitAtGap, ih h.2, List.reverse_cons, List.append_assoc,
      List.singleton_append]
    exact fun _ hc => absurd hc.symm h.1

/-- Pieces with colons between them are passed over. -/
theorem splitAtGap_showPieces (ns : List Nat) (before rest : List Char) :
    splitAtGap before (showPieces ns ++ rest) = splitAtGap ((showPieces ns).reverse ++ before) rest := by
  induction ns generalizing before with
  | nil => rfl
  | cons n ns ih =>
    cases ns with
    | nil =>
      rw [showPieces, List.map_singleton, List.intercalate_singleton]
      exact splitAtGap_append (not_mem_lowerHex n).1 before rest
    | cons m ms =>
      have hcolon (front : List Char) : splitAtGap front (':' :: (showPieces (m :: ms) ++ rest)) =
          splitAtGap (':' :: front) (showPieces (m :: ms) ++ rest) := by
        obtain ⟨d, digits, hshow, hd⟩ := exists_showPieces_eq_cons m ms
        rw [hshow, List.cons_append, splitAtGap]
        exact fun tail _ heq => hd (List.cons.inj heq).1
      rw [showPieces_cons_cons, List.append_assoc, splitAtGap_append (not_mem_lowerHex n).1,
        List.cons_append, hcolon, ih, List.reverse_append, List.reverse_cons, List.append_assoc,
        List.append_assoc, List.singleton_append]

/-! ## What is written -/

/-- The run of zeros that is left out stands in the address. -/
theorem exists_run (ns : List Nat) (i : Nat) : ∃ front behind,
    ns = front ++ List.replicate (longestRun i ns).2 0 ++ behind ∧
      (longestRun i ns).1 = i + front.length := by
  induction ns generalizing i with
  | nil => exact ⟨[], [], rfl, rfl⟩
  | cons n ns ih =>
    rw [longestRun]
    split
    · obtain ⟨front, behind, hns, hplace⟩ := ih (i + 1)
      refine ⟨n :: front, behind, ?_, ?_⟩
      · rw [List.cons_append, List.cons_append, ← hns]
      · rw [hplace, List.length_cons]
        omega
    · have hzeros : (n :: ns).takeWhile (· == 0) = List.replicate (leadingZeros (n :: ns)) 0 :=
        List.eq_replicate_of_mem fun m hm => by simpa using List.mem_takeWhile_imp hm
      refine ⟨[], (n :: ns).dropWhile (· == 0), ?_, rfl⟩
      rw [List.nil_append]
      dsimp only
      rw [← hzeros, List.takeWhile_append_dropWhile]

/-- A written address is made of digits and colons. -/
theorem mem_shown {ns : List Nat} {c : Char} (h : c ∈ (shown ns).toList) :
    c = ':' ∨ ∃ d < 16, c = d.digitChar := by
  have hpieces (ms : List Nat) (hc : c ∈ showPieces ms) : c = ':' ∨ ∃ d < 16, c = d.digitChar := by
    rcases Text.mem_intercalate hc with hcolon | ⟨piece, hpiece, hc⟩
    · exact .inl (List.mem_singleton.1 hcolon)
    · obtain ⟨m, -, rfl⟩ := List.mem_map.1 hpiece
      exact .inr (exists_eq_digitChar c hc)
  have hcolons : "::".toList = [':', ':'] := rfl
  unfold shown at h
  dsimp only at h
  split at h
  · rw [String.toList_ofList, List.mem_append, List.mem_append, hcolons] at h
    rcases h with (h | h) | h
    · exact hpieces _ h
    · exact .inl (by simpa using h)
    · exact hpieces _ h
  · rw [String.toList_ofList] at h
    exact hpieces _ h

/-- A written address is read as the address. -/
theorem read?_shown {ns : List Nat} (h : Whole ns) : read? (shown ns).toList = some ns := by
  obtain ⟨front, behind, hns, hplace⟩ := exists_run ns 0
  rw [Nat.zero_add] at hplace
  unfold shown
  dsimp only
  rw [hplace]
  generalize (longestRun 0 ns).2 = size at hns
  split
  · -- The run is left out: the two colons stand between what is before it and what is behind it.
    rename_i hsize
    have hfront : ns.take front.length = front := by
      rw [hns, List.append_assoc, List.take_left]
    have hbehind : ns.drop (front.length + size) = behind := by
      rw [hns]
      exact List.drop_left' (by rw [List.length_append, List.length_replicate])
    have hlt : ∀ m, m ∈ front ∨ m ∈ behind → m < 65536 := fun m hm => h.lt m (by
      rw [hns, List.mem_append, List.mem_append]
      exact hm.imp .inl id)
    have hlength : front.length + size + behind.length = 8 := by
      rw [← h.length_eq, hns, List.length_append, List.length_append, List.length_replicate]
    have hgap : splitAtGap [] (showPieces front ++ "::".toList ++ showPieces behind) =
        some (showPieces front, showPieces behind) := by
      rw [List.append_assoc, splitAtGap_showPieces, List.append_nil]
      have hcolons : "::".toList = [':', ':'] := rfl
      rw [hcolons, List.cons_append, List.singleton_append, splitAtGap, List.reverse_reverse]
    rw [hfront, hbehind, String.toList_ofList, read?, hgap]
    dsimp only
    rw [part?_showPieces false fun m hm => hlt m (.inl hm),
      part?_showPieces true fun m hm => hlt m (.inr hm)]
    simp only [Option.bind_eq_bind, Option.bind_some]
    rw [if_pos (by omega)]
    -- As many zeros are put in as the address lacks, which are those of the run.
    have hsize' : 8 - front.length - behind.length = size := by omega
    rw [hsize', ← hns]
  · have hgap : splitAtGap [] (showPieces ns) = none := by
      have hpass := splitAtGap_showPieces ns [] []
      rwa [List.append_nil] at hpass
    rw [String.toList_ofList, read?, hgap]
    dsimp only
    rw [part?_showPieces true h.lt]
    simp only [Option.bind_eq_bind, Option.bind_some]
    rw [if_pos h.length_eq]

end MainContent.Url.Ipv6
