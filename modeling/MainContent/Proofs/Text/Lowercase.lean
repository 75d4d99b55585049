import MainContent.Proofs.Text.Ascii
import MainContent.Proofs.Text.Sequence
import MainContent.Proofs.Text.Strip
import MainContent.Text.Lowercase
import Mathlib.Data.List.Forall2

/-!
# Lower case and ASCII

The lower case of a text follows the case mappings of Unicode. Even so, of all characters outside
ASCII only the Kelvin sign has a small letter in ASCII, which is a `k`; every other one leaves a
character outside ASCII behind (`exists_outside_lowerBetween`), also the capital I with a dot, whose
lower case begins with an `i`, and a sigma wherever it stands. The runs of capitals are looked through
once for this (`caseRuns_lead_outside`).

So a text in ASCII is the lower case of another one exactly if it is that in ASCII alone, with a `k`
for each Kelvin sign (`toLower_eq_iff`). If it has no `k`, the other text differs from it in the case
of ASCII letters alone (`toLower_eq_iff_sameButCase`).
-/

namespace MainContent.Text

/-! ## Equality but for case -/

/-- Two characters are the same but for case: they are equal, or the one is a capital of ASCII and the
other its small letter, 32 code points further on. -/
def SameLetter (c d : Char) : Prop :=
  c = d ∨ ('A' ≤ c ∧ c ≤ 'Z' ∧ d.toNat = c.toNat + 32) ∨
    ('A' ≤ d ∧ d ≤ 'Z' ∧ c.toNat = d.toNat + 32)

/-- Two texts are the same but for the case of ASCII letters. -/
def SameButCase (cs ds : List Char) : Prop :=
  List.Forall₂ SameLetter cs ds

/-- Two characters have one small letter in ASCII exactly if they are the same but for case. -/
theorem lowerAscii_eq_lowerAscii_iff (c d : Char) : lowerAscii c = lowerAscii d ↔ SameLetter c d := by
  have hA : 'A'.toNat = 0x41 := rfl
  have hZ : 'Z'.toNat = 0x5A := rfl
  have hle (a b : Char) : a ≤ b ↔ a.toNat ≤ b.toNat := Iff.rfl
  rw [← Char.toNat_inj, toNat_lowerAscii, toNat_lowerAscii, SameLetter, ← Char.toNat_inj, hle, hle, hle,
    hle, hA, hZ]
  split_ifs <;> omega

/-- Two texts have one lower case in ASCII exactly if they are the same but for case. -/
theorem toLowerAscii_eq_toLowerAscii_iff (cs ds : List Char) :
    toLowerAscii cs = toLowerAscii ds ↔ SameButCase cs ds := by
  rw [toLowerAscii, toLowerAscii, ← List.forall₂_eq_eq_eq, List.forall₂_map_left_iff,
    List.forall₂_map_right_iff]
  simp only [lowerAscii_eq_lowerAscii_iff]
  exact Iff.rfl

/-- What is a letter but for case is a letter. -/
theorem SameLetter.isLetter {c d : Char} (h : SameLetter c d) (hd : isLetter d = true) :
    isLetter c = true := by
  rw [isLetter_iff] at hd ⊢
  rcases h with rfl | ⟨hA, hZ, -⟩ | ⟨hA, hZ, hc⟩
  · exact hd
  · exact .inr ⟨hA, hZ⟩
  · have hcapital : 0x41 ≤ d.toNat ∧ d.toNat ≤ 0x5A := ⟨hA, hZ⟩
    omega

/-- A text that is the same as one of letters, but for case, has letters only. -/
theorem SameButCase.all_isLetter {cs ds : List Char} (h : SameButCase cs ds)
    (hds : ds.all isLetter = true) : cs.all isLetter = true := by
  induction h with
  | nil => rfl
  | cons hletter _ ih =>
    rw [List.all_cons, Bool.and_eq_true] at hds ⊢
    exact ⟨hletter.isLetter hds.1, ih hds.2⟩

/-! ## The lower case of a character -/

/-- The Kelvin sign, a capital of the letter `k` outside ASCII. -/
def kelvin : Char := '\u212A'

/-- The small letters of a run are characters outside ASCII. -/
def CaseRun.leadsOutside (r : CaseRun) : Bool :=
  0x80 ≤ r.first + r.offset &&
    (r.last + r.offset < 0xD800 || (0xDFFF < r.first + r.offset && r.last + r.offset < 0x110000))

/-- The small letters of capitals outside ASCII are characters outside ASCII, but for the one of the
Kelvin sign. -/
theorem caseRuns_lead_outside :
    caseRuns.all (fun r => r.last < 0x80 || (r.first == 0x212A && r.last == 0x212A) ||
      r.leadsOutside) = true := by
  decide

/-- The small letter of a capital in a run that leads outside ASCII is there. -/
theorem CaseRun.le_toNat_of_leadsOutside {r : CaseRun} (hr : r.leadsOutside = true) {n : Nat}
    (hn : r.covers n = true) : 0x80 ≤ (Char.ofNat (n + r.offset).toNat).toNat := by
  simp only [leadsOutside, covers, Bool.and_eq_true, Bool.or_eq_true, decide_eq_true_eq] at hr hn
  obtain ⟨⟨hfirst, hlast⟩, -⟩ := hn
  have hvalid : (n + r.offset).toNat.isValidChar := by
    rw [Nat.isValidChar]
    omega
  rw [Utf8.toNat_ofNat hvalid]
  omega

theorem lowerChar_of_ascii {c : Char} (hc : c.toNat < 0x80) : lowerChar c = [lowerAscii c] :=
  if_pos hc

theorem lowerChar_kelvin : lowerChar kelvin = ['k'] := by
  decide

/-- A run that holds a character outside ASCII leads outside it, unless the character is the Kelvin
sign. -/
theorem CaseRun.leadsOutside_of_covers {r : CaseRun} (hr : r ∈ caseRuns) {c : Char}
    (hcovers : r.covers c.toNat = true) (hc : 0x80 ≤ c.toNat) (hk : c ≠ kelvin) :
    r.leadsOutside = true := by
  have hchecked := List.all_eq_true.1 caseRuns_lead_outside r hr
  simp only [Bool.or_eq_true, Bool.and_eq_true, decide_eq_true_eq, beq_iff_eq] at hchecked
  simp only [covers, Bool.and_eq_true, decide_eq_true_eq] at hcovers
  rcases hchecked with (hascii | ⟨hfirst, hlast⟩) | hleads
  · omega
  · -- The run of the Kelvin sign holds nothing else.
    have hkelvin : kelvin.toNat = 0x212A := rfl
    exact absurd (Char.toNat_inj.1 (by omega)) hk
  · exact hleads

/-- A character outside ASCII that is not the Kelvin sign has a lower case that is not all in ASCII. -/
theorem exists_outside_lowerChar {c : Char} (hc : 0x80 ≤ c.toNat) (hk : c ≠ kelvin) :
    ∃ d ∈ lowerChar c, 0x80 ≤ d.toNat := by
  rw [lowerChar, if_neg (Nat.not_lt.2 hc)]
  by_cases hdot : c.toNat = 0x130
  · -- The `i` of the dotted capital is followed by its dot.
    rw [if_pos hdot]
    exact ⟨'\u0307', by simp, by decide⟩
  · rw [if_neg hdot]
    cases hfind : caseRuns.find? (·.covers c.toNat) with
    | none => exact ⟨c, List.mem_singleton_self c, hc⟩
    | some r =>
      have hmem : r ∈ caseRuns := List.mem_of_find?_eq_some hfind
      have hcovers : r.covers c.toNat = true := by simpa using List.find?_some hfind
      have houtside := CaseRun.leadsOutside_of_covers hmem hcovers hc hk
      exact ⟨_, List.mem_singleton_self _, CaseRun.le_toNat_of_leadsOutside houtside hcovers⟩

/-! ## The lower case of a text -/

/-- What the lower case of a character is does not depend on its place, if it is no sigma. -/
theorem lowerBetween_of_ne {c : Char} (hc : c ≠ '\u03A3') (before after : List Char) :
    lowerBetween before c after = lowerChar c :=
  if_neg hc

/-- A Kelvin sign as a `k`, and any other character as it is. -/
def kelvinAsK (c : Char) : Char :=
  if c = kelvin then 'k' else c

/-- A character of ASCII has its lower case there, and a Kelvin sign that of a `k`. -/
theorem lowerBetween_of_ascii {c : Char} (hc : c.toNat < 0x80 ∨ c = kelvin) (before after : List Char) :
    lowerBetween before c after = [lowerAscii (kelvinAsK c)] := by
  rcases hc with hascii | rfl
  · have hsigma : c ≠ '\u03A3' := by
      rintro rfl
      exact absurd hascii (by decide)
    have hkelvin : c ≠ kelvin := by
      rintro rfl
      exact absurd hascii (by decide)
    rw [lowerBetween_of_ne hsigma, lowerChar_of_ascii hascii, kelvinAsK, if_neg hkelvin]
  · rw [lowerBetween_of_ne (by decide), lowerChar_kelvin, kelvinAsK, if_pos rfl]
    rfl

/-- Any other character leaves one outside ASCII behind, wherever it stands. -/
theorem exists_outside_lowerBetween {c : Char} (hc : 0x80 ≤ c.toNat) (hk : c ≠ kelvin)
    (before after : List Char) : ∃ d ∈ lowerBetween before c after, 0x80 ≤ d.toNat := by
  by_cases hsigma : c = '\u03A3'
  · -- Both small forms of a sigma are outside ASCII.
    rw [lowerBetween, if_pos hsigma]
    refine ⟨_, List.mem_singleton_self _, ?_⟩
    split_ifs <;> decide
  · rw [lowerBetween_of_ne hsigma]
    exact exists_outside_lowerChar hc hk

/-- What is done already stays as it is. -/
theorem toList_lowerOnto (small : Array Char) (before cs : List Char) :
    (lowerOnto small before cs).toList = small.toList ++ (lowerOnto #[] before cs).toList := by
  induction cs generalizing small before with
  | nil => simp [lowerOnto]
  | cons c rest ih =>
    rw [lowerOnto, lowerOnto, ih (small ++ lowerBetween before c rest),
      ih (#[] ++ lowerBetween before c rest)]
    simp

/-- The lower case of a text begins with that of its first character. -/
theorem toList_lowerOnto_cons (before : List Char) (c : Char) (rest : List Char) :
    (lowerOnto #[] before (c :: rest)).toList =
      lowerBetween before c rest ++ (lowerOnto #[] (c :: before) rest).toList := by
  rw [lowerOnto, toList_lowerOnto]
  simp

/-- The lower case of a text of ASCII characters and Kelvin signs is taken in ASCII. -/
theorem lowerOnto_of_ascii {cs : List Char} (hcs : ∀ c ∈ cs, c.toNat < 0x80 ∨ c = kelvin)
    (before : List Char) :
    (lowerOnto #[] before cs).toList = toLowerAscii (cs.map kelvinAsK) := by
  induction cs generalizing before with
  | nil => rfl
  | cons c rest ih =>
    rw [List.forall_mem_cons] at hcs
    rw [toList_lowerOnto_cons, lowerBetween_of_ascii hcs.1, ih hcs.2, List.map_cons, toLowerAscii_cons]
    rfl

/-- The lower case of a text with any other character is not all in ASCII. -/
theorem exists_outside_lowerOnto {c : Char} {cs : List Char} (hmem : c ∈ cs) (hc : 0x80 ≤ c.toNat)
    (hk : c ≠ kelvin) (before : List Char) :
    ∃ d ∈ (lowerOnto #[] before cs).toList, 0x80 ≤ d.toNat := by
  induction cs generalizing before with
  | nil => cases hmem
  | cons first rest ih =>
    rw [toList_lowerOnto_cons]
    rcases List.mem_cons.1 hmem with rfl | hrest
    · obtain ⟨d, hd, houtside⟩ := exists_outside_lowerBetween hc hk before rest
      exact ⟨d, List.mem_append_left _ hd, houtside⟩
    · obtain ⟨d, hd, houtside⟩ := ih hrest (first :: before)
      exact ⟨d, List.mem_append_right _ hd, houtside⟩

/-- A text in ASCII is the lower case of another one exactly if it is its lower case in ASCII, with a
`k` for each Kelvin sign. -/
theorem toLower_eq_iff {small : List Char} (hsmall : ∀ d ∈ small, d.toNat < 0x80) (cs : List Char) :
    toLower cs = small ↔ toLowerAscii (cs.map kelvinAsK) = small := by
  by_cases hcs : ∀ c ∈ cs, c.toNat < 0x80 ∨ c = kelvin
  · rw [toLower, lowerOnto_of_ascii hcs]
  · -- A character from outside stays outside on both sides, so neither is the text in ASCII.
    push Not at hcs
    obtain ⟨c, hmem, hc, hk⟩ := hcs
    obtain ⟨d, hd, houtside⟩ := exists_outside_lowerOnto hmem hc hk []
    have hstays : lowerAscii (kelvinAsK c) = c := by
      rw [kelvinAsK, if_neg hk, lowerAscii_eq_self_iff]
      omega
    have hascii : c ∈ toLowerAscii (cs.map kelvinAsK) := by
      rw [← hstays]
      exact List.mem_map_of_mem (List.mem_map_of_mem hmem)
    constructor
    · rintro rfl
      exact absurd (hsmall d hd) (Nat.not_lt.2 houtside)
    · rintro rfl
      exact absurd (hsmall c hascii) (Nat.not_lt.2 hc)

/-- A Kelvin sign becomes a letter of ASCII. -/
example : toLower "\u212Aelvin".toList = "kelvin".toList := by
  decide

/-- For a text in ASCII without a `k`, Kelvin signs do not matter. -/
theorem toLowerAscii_map_kelvinAsK_eq_iff {small : List Char} (hsmall : ∀ d ∈ small, d.toNat < 0x80)
    (hk : 'k' ∉ small) (cs : List Char) :
    toLowerAscii (cs.map kelvinAsK) = small ↔ toLowerAscii cs = small := by
  by_cases hmem : kelvin ∈ cs
  · -- The Kelvin sign gives a `k` on the one side, and stays outside ASCII on the other.
    refine iff_of_false ?_ ?_
    · rintro rfl
      exact hk (List.mem_map_of_mem (f := lowerAscii) (List.mem_map_of_mem (f := kelvinAsK) hmem))
    · rintro rfl
      have hkelvin : kelvin ∈ toLowerAscii cs := List.mem_map_of_mem (f := lowerAscii) hmem
      exact absurd (hsmall kelvin hkelvin) (by decide)
  · have hmap : cs.map kelvinAsK = cs := by
      refine (List.map_congr_left fun c hc => ?_).trans (List.map_id cs)
      rw [id, kelvinAsK, if_neg]
      rintro rfl
      exact hmem hc
    rw [hmap]

/-- A small letter of ASCII that is not the lower case of a character outside it. -/
def isPlainSmall (d : Char) : Bool :=
  'a' ≤ d && d ≤ 'z' && d != 'k'

theorem isPlainSmall_iff (d : Char) :
    isPlainSmall d = true ↔ (0x61 ≤ d.toNat ∧ d.toNat ≤ 0x7A) ∧ d ≠ 'k' := by
  rw [isPlainSmall, Bool.and_eq_true, between_iff, bne_iff_ne]
  exact Iff.rfl

/-- A text of small letters without a `k` is the lower case of exactly the texts that are the same but
for the case of ASCII letters. -/
theorem toLower_eq_iff_sameButCase {small : List Char} (hsmall : small.all isPlainSmall = true)
    (cs : List Char) : toLower cs = small ↔ SameButCase cs small := by
  simp only [List.all_eq_true, isPlainSmall_iff] at hsmall
  have hascii : ∀ d ∈ small, d.toNat < 0x80 := fun d hd => by
    obtain ⟨⟨-, hz⟩, -⟩ := hsmall d hd
    omega
  have hk : 'k' ∉ small := fun hmem => (hsmall 'k' hmem).2 rfl
  have hself : toLowerAscii small = small := by
    refine (List.map_congr_left fun d hd => ?_).trans (List.map_id small)
    obtain ⟨⟨ha, -⟩, -⟩ := hsmall d hd
    rw [id, lowerAscii_eq_self_iff]
    omega
  calc toLower cs = small ↔ toLowerAscii (cs.map kelvinAsK) = small := toLower_eq_iff hascii cs
    _ ↔ toLowerAscii cs = small := toLowerAscii_map_kelvinAsK_eq_iff hascii hk cs
    _ ↔ toLowerAscii cs = toLowerAscii small := by rw [hself]
    _ ↔ SameButCase cs small := toLowerAscii_eq_toLowerAscii_iff cs small

end MainContent.Text
