import MainContent.Proofs.Settings.Described
import MainContent.Proofs.Text.Strip

/-!
# Variables of numbers

A variable of a number is set to a number if its text is a numeral with blanks around it: perhaps a plus
sign, and one or more decimal digits (`Writes`). `Config.number_reads` says that the variable is read as
that number exactly if the number is one of its type, and that every other text is refused with the error
of this variable and no other.

Nothing is cut off and nothing wraps around, however long the text is, since `Writes` speaks of the
decimal value of all the digits. The text is divided into blanks, numeral and blanks in one way only
(`writes_iff_denotes_trim`), and the numeral is what `Numeral.read?_eq_some_iff` is about.
-/

namespace MainContent.Settings

open MainContent.Text (isBlank isDigit trim)
open MainContent.Text.Numeral (Denotes)

/-! ## Texts that write a number -/

/-- A text writes a number: it is a numeral of that number, with or without blanks before and after. -/
def Writes (text : List Char) (n : Nat) : Prop :=
  ∃ before numeral after, text = before ++ numeral ++ after ∧
    (∀ c ∈ before, isBlank c = true) ∧ (∀ c ∈ after, isBlank c = true) ∧ Denotes numeral n

/-- A character of a numeral is a plus sign or a digit. -/
theorem eq_plus_or_isDigit_of_denotes {numeral : List Char} {n : Nat} (h : Denotes numeral n) :
    ∀ c ∈ numeral, c = '+' ∨ isDigit c = true := by
  obtain ⟨digits, hnumeral, -, hdigits, -⟩ := h
  have hdigit : ∀ c ∈ digits, isDigit c = true := fun c hc => by
    simpa [isDigit] using hdigits c hc
  intro c hc
  rcases hnumeral with rfl | rfl
  · exact .inr (hdigit c hc)
  · exact (List.mem_cons.1 hc).imp_right (hdigit c)

/-- A numeral has a digit. -/
theorem exists_isDigit_of_denotes {numeral : List Char} {n : Nat} (h : Denotes numeral n) :
    ∃ c ∈ numeral, isDigit c = true := by
  obtain ⟨digits, hnumeral, hne, hdigits, -⟩ := h
  obtain ⟨c, hc⟩ := List.exists_mem_of_ne_nil digits hne
  refine ⟨c, ?_, by simpa [isDigit] using hdigits c hc⟩
  rcases hnumeral with rfl | rfl
  · exact hc
  · exact List.mem_cons_of_mem '+' hc

/-- No digit is blank, and no plus sign. -/
theorem isBlank_eq_false_of_numeral {c : Char} (h : c = '+' ∨ isDigit c = true) : isBlank c = false := by
  rcases h with rfl | hdigit
  · decide
  · have hbounds : 0x30 ≤ c.toNat ∧ c.toNat ≤ 0x39 := by
      simpa [isDigit, Char.le_def, UInt32.le_iff_toNat_le] using hdigit
    simp [isBlank]
    omega

/-- A text writes the number that is left of it without the blanks at its ends. -/
theorem writes_iff_denotes_trim (text : List Char) (n : Nat) :
    Writes text n ↔ Denotes (trim text) n := by
  constructor
  · rintro ⟨before, numeral, after, rfl, hbefore, hafter, hdenotes⟩
    have hnumeral : trim numeral = numeral :=
      Text.strip_eq_self fun c hc =>
        isBlank_eq_false_of_numeral (eq_plus_or_isDigit_of_denotes hdenotes c hc)
    have htrim : trim (before ++ numeral ++ after) = numeral := by
      rw [trim, Text.strip_append_right hafter, Text.strip_append_left hbefore]
      exact hnumeral
    rwa [htrim]
  · intro hdenotes
    refine ⟨Text.lead isBlank text, trim text, Text.trail isBlank text, ?_, ?_, ?_, hdenotes⟩
    · rw [List.append_assoc]
      exact (Text.lead_strip_trail isBlank text).symm
    · exact fun c hc => Text.of_mem_lead hc
    · exact fun c hc => Text.of_mem_trail hc

/-- A text writes at most one number. -/
theorem Writes.unique {text : List Char} {n m : Nat} (hn : Writes text n) (hm : Writes text m) :
    n = m :=
  ((writes_iff_denotes_trim text n).1 hn).unique ((writes_iff_denotes_trim text m).1 hm)

/-- A text that writes a number has a digit, and no minus sign. -/
theorem Writes.digit_and_no_minus {text : List Char} {n : Nat} (h : Writes text n) :
    (∃ c ∈ text, isDigit c = true) ∧ '-' ∉ text := by
  obtain ⟨before, numeral, after, rfl, hbefore, hafter, hdenotes⟩ := h
  constructor
  · obtain ⟨c, hc, hdigit⟩ := exists_isDigit_of_denotes hdenotes
    exact ⟨c, List.mem_append_left _ (List.mem_append_right _ hc), hdigit⟩
  · -- A minus sign is neither blank nor part of a numeral.
    rw [List.mem_append, List.mem_append]
    rintro ((hmem | hmem) | hmem)
    · exact absurd (hbefore _ hmem) (by decide)
    · exact absurd (eq_plus_or_isDigit_of_denotes hdenotes _ hmem) (by decide)
    · exact absurd (hafter _ hmem) (by decide)

/-! ## Reading -/

/-- The errors of two variables of numbers differ in their wording. -/
theorem eq_of_notANumber_message : ∀ v ∈ Variable.numeric, ∀ w ∈ Variable.numeric,
    (ConfigError.notANumber v).message = (ConfigError.notANumber w).message → v = w := by
  decide +kernel

namespace Config

variable {vs : Variables} {v : Variable} {text : String}

/-- What is read of a variable of a number is what its text writes, up to the largest number. -/
theorem number?_eq_ok_iff (hset : vs.text? v.name = some text) (largest n : Nat) :
    number? vs v largest = .ok (some n) ↔ Writes text.toList n ∧ n ≤ largest := by
  rw [writes_iff_denotes_trim, ← Text.Numeral.read?_eq_some_iff, number?, hset]
  dsimp only
  cases Text.Numeral.read? largest (trim text.toList) with
  | none => exact iff_of_false nofun nofun
  | some m => simp

/-- A text that writes no number up to the largest one is refused. -/
theorem number?_eq_error (hset : vs.text? v.name = some text) {largest : Nat}
    (hnone : ¬ ∃ n, Writes text.toList n ∧ n ≤ largest) :
    number? vs v largest = .error (.notANumber v) := by
  have hread : Text.Numeral.read? largest (trim text.toList) = none := by
    rw [Text.Numeral.read?_eq_none_iff]
    exact fun n hn hdenotes => hnone ⟨n, (writes_iff_denotes_trim _ n).2 hdenotes, hn⟩
  rw [number?, hset]
  dsimp only
  rw [hread]

/-- A variable of a number that is set is read as the number that its text writes, exactly if that is
one of its type; the usual value does not matter. Every other text is refused with the error of this
variable, which says so in words that no other variable has: in particular a text without a digit, such
as the empty one or a sign alone, a text with a minus sign, and a number that is too large. -/
theorem number_reads (hv : v ∈ Variable.numeric) (hset : vs.text? v.name = some text) (usual : Nat) :
    (∀ n, (number? vs v v.largest = .ok (some n) ↔ Writes text.toList n ∧ n ≤ v.largest) ∧
      (number vs v v.largest usual = .ok n ↔ Writes text.toList n ∧ n ≤ v.largest)) ∧
    ((¬ ∃ n, Writes text.toList n ∧ n ≤ v.largest) →
      number? vs v v.largest = .error (.notANumber v) ∧
      number vs v v.largest usual = .error (.notANumber v)) ∧
    ((∀ c ∈ text.toList, isDigit c = false) ∨ '-' ∈ text.toList ∨
        (∃ n, Writes text.toList n ∧ v.largest < n) →
      ¬ ∃ n, Writes text.toList n ∧ n ≤ v.largest) ∧
    ∀ w ∈ Variable.numeric,
      (ConfigError.notANumber w).message = (ConfigError.notANumber v).message ↔ w = v := by
  have hread (n : Nat) := number?_eq_ok_iff hset v.largest n
  have hrefuse (hnone : ¬ ∃ n, Writes text.toList n ∧ n ≤ v.largest) :=
    number?_eq_error hset hnone
  refine ⟨fun n => ⟨hread n, ?_⟩, fun hnone => ⟨hrefuse hnone, ?_⟩, ?_, fun w hw => ⟨?_, ?_⟩⟩
  · -- A variable that is set is read as a number or refused, so the usual value is not asked for.
    rw [number]
    by_cases hsome : ∃ m, Writes text.toList m ∧ m ≤ v.largest
    · obtain ⟨m, hm⟩ := hsome
      rw [(hread m).2 hm]
      show Except.ok m = .ok n ↔ _
      rw [Except.ok.injEq]
      constructor
      · rintro rfl
        exact hm
      · exact fun hn => hm.1.unique hn.1
    · rw [hrefuse hsome]
      exact iff_of_false nofun fun hn => hsome ⟨n, hn⟩
  · rw [number, hrefuse hnone]
    rfl
  · rintro hfault ⟨n, hwrites, hn⟩
    obtain ⟨⟨c, hc, hdigit⟩, hminus⟩ := hwrites.digit_and_no_minus
    rcases hfault with hdigits | hsign | ⟨m, hm, hlarge⟩
    · rw [hdigits c hc] at hdigit
      cases hdigit
    · exact hminus hsign
    · rw [hwrites.unique hm] at hn
      omega
  · exact eq_of_notANumber_message w hw v hv
  · rintro rfl
    rfl

/-- The largest port, behind a plus sign and zeros, with a blank outside ASCII before it and a line feed
after it. -/
theorem number_reads_largest_port :
    let vs : Variables := ⟨[("EXTRACTOR_PORT", Text.Utf8.encode "\u00A0+00065535\n".toList)]⟩
    Variable.port ∈ Variable.numeric ∧
      vs.text? Variable.port.name = some "\u00A0+00065535\n" ∧
      number vs .port Variable.port.largest 8080 = .ok 65535 := by
  intro vs
  have hport : Variable.port ∈ Variable.numeric := by decide
  have hset : vs.text? Variable.port.name = some "\u00A0+00065535\n" := by decide +kernel
  have hread : Text.Numeral.read? 65535 "+00065535".toList = some 65535 := by decide +kernel
  have hdenotes : Denotes "+00065535".toList 65535 :=
    ((Text.Numeral.read?_eq_some_iff _ _ _).1 hread).1
  have hwrites : Writes "\u00A0+00065535\n".toList 65535 :=
    ⟨['\u00A0'], "+00065535".toList, ['\n'], rfl, List.forall_mem_singleton.2 (by decide),
      List.forall_mem_singleton.2 (by decide), hdenotes⟩
  obtain ⟨hreads, -⟩ := number_reads hport hset 8080
  exact ⟨hport, hset, (hreads 65535).2.2 ⟨hwrites, by decide⟩⟩

end Config

end MainContent.Settings
