import MainContent.Text.Ascii
import Mathlib.Tactic.SplitIfs

/-!
# Facts about ASCII

What is true of the 128 characters of ASCII is checked for each of them (`forall_ascii`).
-/

namespace MainContent.Text

/-- What is true of the first 128 characters is true of every character of ASCII. -/
theorem forall_ascii {P : Char → Prop} (h : ∀ n < 0x80, P (Char.ofNat n)) {c : Char}
    (hc : c.toNat < 0x80) : P c := by
  have hchar := h c.toNat hc
  rwa [Char.ofNat_toNat] at hchar

/-- Characters are ordered by their code points. -/
theorem between_iff (a b c : Char) :
    (a ≤ c && c ≤ b) = true ↔ a.toNat ≤ c.toNat ∧ c.toNat ≤ b.toNat := by
  rw [Bool.and_eq_true, decide_eq_true_eq, decide_eq_true_eq]
  exact Iff.rfl

theorem isDigit_iff (c : Char) : isDigit c = true ↔ 0x30 ≤ c.toNat ∧ c.toNat ≤ 0x39 :=
  between_iff '0' '9' c

theorem isLetter_iff (c : Char) : isLetter c = true ↔
    (0x61 ≤ c.toNat ∧ c.toNat ≤ 0x7A) ∨ (0x41 ≤ c.toNat ∧ c.toNat ≤ 0x5A) := by
  rw [isLetter, Bool.or_eq_true, between_iff, between_iff]
  exact Iff.rfl

/-- Exactly the characters that are no capitals stay as they are in lower case. -/
theorem lowerAscii_eq_self_iff (c : Char) :
    lowerAscii c = c ↔ ¬ (0x41 ≤ c.toNat ∧ c.toNat ≤ 0x5A) := by
  by_cases hc : c.toNat < 0x80
  · exact forall_ascii (P := fun c => lowerAscii c = c ↔ ¬ (0x41 ≤ c.toNat ∧ c.toNat ≤ 0x5A))
      (by decide) hc
  · have hcapital : ¬ ('A' ≤ c && c ≤ 'Z') = true := by
      simp only [between_iff, Char.reduceToNat]
      omega
    rw [lowerAscii, if_neg hcapital]
    simp only [true_iff]
    omega

/-- A capital is 32 code points before its small letter. -/
theorem toNat_lowerAscii (c : Char) :
    (lowerAscii c).toNat = if 0x41 ≤ c.toNat ∧ c.toNat ≤ 0x5A then c.toNat + 32 else c.toNat := by
  split_ifs with hcapital
  · exact forall_ascii (P := fun c => 0x41 ≤ c.toNat ∧ c.toNat ≤ 0x5A →
      (lowerAscii c).toNat = c.toNat + 32) (by decide) (by omega) hcapital
  · rw [(lowerAscii_eq_self_iff c).2 hcapital]

end MainContent.Text
