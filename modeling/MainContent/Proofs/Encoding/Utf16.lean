import MainContent.Proofs.Encoding.Ascii

/-!
# UTF-16 as it is written and read

A character is written as one unit, its number, or outside the basic plane as a pair of surrogates
(`units`), and a unit as two bytes in either order (`bytes`). The bytes of a text are read as the text
(`readings_encode`): a unit within the basic plane is no surrogate, since it is the number of a
character, and the two units of a pair give back the number that they have been split from.
-/

namespace MainContent.Encoding.Utf16

/-- The units of a character. -/
def units (c : Char) : List Nat :=
  if c.toNat < 0x10000 then [c.toNat]
  else [0xD800 + (c.toNat - 0x10000) / 1024, 0xDC00 + (c.toNat - 0x10000) % 1024]

/-- The two bytes of a unit. -/
def bytes (order : ByteOrder) (u : Nat) : List UInt8 :=
  match order with
  | .big => [.ofNat (u / 256), .ofNat (u % 256)]
  | .little => [.ofNat (u % 256), .ofNat (u / 256)]

/-- The bytes of a text. -/
def encode (order : ByteOrder) (cs : List Char) : List UInt8 :=
  cs.flatMap fun c => (units c).flatMap (bytes order)

/-- Two bytes make the unit that they have been written for. -/
theorem exists_unit (order : ByteOrder) {u : Nat} (h : u < 0x10000) :
    ∃ a b, bytes order u = [a, b] ∧ unit order a b = u := by
  cases order with
  | big =>
    refine ⟨_, _, rfl, ?_⟩
    simp only [unit, UInt8.toNat_ofNat']
    omega
  | little =>
    refine ⟨_, _, rfl, ?_⟩
    simp only [unit, UInt8.toNat_ofNat']
    omega

/-- A character of the basic plane is read from its unit. -/
theorem step_single (order : ByteOrder) {a b : UInt8} {c : Char} (hc : unit order a b = c.toNat)
    (hplane : c.toNat < 0x10000) (rest : List UInt8) :
    step order () a (b :: rest) = .char c 1 () := by
  have hbounds := Text.Utf8.toNat_bounds c
  have hhigh : isHigh c.toNat = false := by
    simp only [isHigh, Bool.and_eq_false_iff, decide_eq_false_iff_not]
    omega
  have hlow : isLow c.toNat = false := by
    simp only [isLow, Bool.and_eq_false_iff, decide_eq_false_iff_not]
    omega
  simp [step, hc, hhigh, hlow]

/-- Every other character is read from its pair of units. -/
theorem step_pair (order : ByteOrder) {a b a' b' : UInt8} {c : Char}
    (hhigh : unit order a b = 0xD800 + (c.toNat - 0x10000) / 1024)
    (hlow : unit order a' b' = 0xDC00 + (c.toNat - 0x10000) % 1024) (hplane : ¬ c.toNat < 0x10000)
    (rest : List UInt8) : step order () a (b :: a' :: b' :: rest) = .char c 3 () := by
  have hbounds := Text.Utf8.toNat_bounds c
  have hisHigh : isHigh (unit order a b) = true := by
    simp only [isHigh, hhigh, Bool.and_eq_true, decide_eq_true_eq]
    omega
  have hisLow : isLow (unit order a' b') = true := by
    simp only [isLow, hlow, Bool.and_eq_true, decide_eq_true_eq]
    omega
  -- The pair gives back the number that it has been split from.
  have hpaired : paired (unit order a b) (unit order a' b') = c := by
    have hnumber : 0x10000 + (unit order a b - 0xD800) * 1024 + (unit order a' b' - 0xDC00) =
        c.toNat := by
      omega
    rw [paired, hnumber, Char.ofNat_toNat]
  simp [step, hisHigh, hisLow, hpaired]

/-- The bytes of a character are read as the character. -/
theorem run_units_append (order : ByteOrder) (c : Char) (rest : List UInt8) :
    run (step order) () ((units c).flatMap (bytes order) ++ rest) =
      some c :: run (step order) () rest := by
  have hbounds := Text.Utf8.toNat_bounds c
  unfold units
  split_ifs with hplane
  · obtain ⟨a, b, hbytes, hunit⟩ := exists_unit order hplane
    rw [List.flatMap_singleton, hbytes, List.cons_append, run_cons, List.singleton_append,
      step_single order hunit hplane]
    rfl
  · obtain ⟨a, b, hbytes, hhigh⟩ :=
      exists_unit order (u := 0xD800 + (c.toNat - 0x10000) / 1024) (by omega)
    obtain ⟨a', b', hbytes', hlow⟩ :=
      exists_unit order (u := 0xDC00 + (c.toNat - 0x10000) % 1024) (by omega)
    have hfour : [0xD800 + (c.toNat - 0x10000) / 1024, 0xDC00 + (c.toNat - 0x10000) % 1024].flatMap
        (bytes order) = [a, b, a', b'] := by
      rw [List.flatMap_cons, List.flatMap_singleton, hbytes, hbytes']
      rfl
    rw [hfour, List.cons_append, run_cons]
    simp only [List.cons_append, List.nil_append]
    rw [step_pair order hhigh hlow hplane]
    rfl

/-- The bytes of a text are read as the text. -/
theorem readings_encode (order : ByteOrder) (cs : List Char) :
    readings (.utf16 order) (encode order cs) = cs.map some := by
  change run (step order) () (encode order cs) = _
  induction cs with
  | nil => exact run_nil _ _
  | cons c cs ih =>
    have hsplit : encode order (c :: cs) = (units c).flatMap (bytes order) ++ encode order cs :=
      List.flatMap_cons
    rw [hsplit, run_units_append, ih, List.map_cons]

end MainContent.Encoding.Utf16
