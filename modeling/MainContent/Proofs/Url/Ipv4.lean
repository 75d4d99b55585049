import MainContent.Proofs.Text.Utf8
import MainContent.Url.Ipv4
import Mathlib.Tactic.NormNum

/-!
# IPv4 addresses are read as they are written

An address is below 2 ^ 32 (`lt_of_read?`), and the decimal writing of an address is read as the
address (`read?_shown`).
-/

namespace MainContent.Url.Ipv4

/-! ## Bounds -/

/-- Bytes make up a number with as many digits of base 256. -/
theorem foldl_lt {ns : List Nat} (h : ns.all (· < 256) = true) (start : Nat) :
    ns.foldl (fun n b => n * 256 + b) start < (start + 1) * 256 ^ ns.length := by
  induction ns generalizing start with
  | nil => simp
  | cons b ns ih =>
    rw [List.all_cons, Bool.and_eq_true, decide_eq_true_eq] at h
    calc ns.foldl (fun n b => n * 256 + b) (start * 256 + b)
        < (start * 256 + b + 1) * 256 ^ ns.length := ih h.2 _
      _ ≤ ((start + 1) * 256) * 256 ^ ns.length := Nat.mul_le_mul_right _ (by omega)
      _ = (start + 1) * 256 ^ (b :: ns).length := by
        rw [List.length_cons, Nat.mul_assoc, ← Nat.pow_succ']

/-- An address has 32 bits. -/
theorem lt_of_combine {leading : List Nat} {last address : Nat}
    (h : combine leading last = some address) : address < 2 ^ 32 := by
  unfold combine at h
  split at h
  · rename_i hchecks
    simp only [Bool.and_eq_true, decide_eq_true_eq, Nat.pow_eq] at hchecks
    obtain ⟨⟨hlength, hbytes⟩, hlast⟩ := hchecks
    obtain rfl := Option.some.inj h
    have hfirst := foldl_lt hbytes 0
    rw [Nat.zero_add, Nat.one_mul] at hfirst
    have hwhole : 256 ^ leading.length * 256 ^ (4 - leading.length) = 2 ^ 32 := by
      rw [← Nat.pow_add, Nat.add_sub_cancel' (by omega)]
      norm_num
    calc _ < (leading.foldl (fun n b => n * 256 + b) 0 + 1) * 256 ^ (4 - leading.length) := by
          rw [Nat.add_mul, Nat.one_mul]
          exact Nat.add_lt_add_left hlast _
      _ ≤ 256 ^ leading.length * 256 ^ (4 - leading.length) := Nat.mul_le_mul_right _ hfirst
      _ = 2 ^ 32 := hwhole
  · cases h

/-- What a host denotes is an address of 32 bits. -/
theorem lt_of_read? {host : List Char} {address : Nat} (h : read? host = some address) :
    address < 2 ^ 32 := by
  simp only [read?, Option.bind_eq_bind, Option.bind_eq_some_iff] at h
  obtain ⟨values, -, last, -, h⟩ := h
  exact lt_of_combine h

/-! ## Writing -/

/-- The bytes of an address. -/
def bytes (address : Nat) : List Nat :=
  [address / 16777216 % 256, address / 65536 % 256, address / 256 % 256, address % 256]

/-- The bytes of an address in decimal. -/
def numerals (address : Nat) : List (List Char) :=
  (bytes address).map (Nat.toDigits 10)

/-- An address is written as its bytes in decimal. -/
theorem toList_shown (address : Nat) :
    (shown address).toList = ['.'].intercalate (numerals address) := by
  have hdot : ".".toList = ['.'] := rfl
  simp only [shown, numerals, bytes, String.toList_append, hdot, Nat.toList_repr, List.map_cons,
    List.map_nil, List.intercalate_cons_cons, List.intercalate_singleton, List.append_assoc]

/-- What is written in decimal. -/
theorem exists_eq_toDigits {address : Nat} {numeral : List Char} (h : numeral ∈ numerals address) :
    ∃ b < 256, numeral = Nat.toDigits 10 b := by
  obtain ⟨b, hb, rfl⟩ := List.mem_map.1 h
  refine ⟨b, ?_, rfl⟩
  simp only [bytes, List.mem_cons, List.not_mem_nil, or_false] at hb
  omega

/-- The numeral of a byte is one or more digits, and is read as the byte. -/
theorem numeral_facts : ∀ b < 256, Nat.toDigits 10 b ≠ [] ∧
    (Nat.toDigits 10 b).all Text.isDigit = true ∧ partValue? (Nat.toDigits 10 b) = some b := by
  decide +kernel

/-- The labels of a written address are its numerals. -/
theorem splitOn_shown (address : Nat) : (shown address).toList.splitOn '.' = numerals address := by
  rw [toList_shown]
  refine List.splitOn_intercalate '.' (fun numeral hnumeral hdot => ?_) (by simp [numerals, bytes])
  obtain ⟨b, hb, rfl⟩ := exists_eq_toDigits hnumeral
  exact absurd (List.all_eq_true.1 (numeral_facts b hb).2.1 '.' hdot) (by decide)

/-- The parts of a written address are its numerals. -/
theorem parts_shown (address : Nat) : parts (shown address).toList = numerals address := by
  have hlast := (numeral_facts (address % 256) (Nat.mod_lt _ (by omega))).1
  rw [parts, splitOn_shown]
  simp only [numerals, bytes, List.map_cons, List.map_nil, List.reverse_cons, List.reverse_nil,
    List.nil_append, List.cons_append]
  -- Only an empty part at the end would be left out.
  split
  · rename_i heq
    exact absurd (List.cons.inj heq).1 hlast
  · rfl

theorem shown_ne_nil (address : Nat) : (shown address).toList ≠ [] := by
  intro hempty
  have hsplit := splitOn_shown address
  rw [hempty] at hsplit
  simp [numerals, bytes] at hsplit

/-- A written address can only be an address. -/
theorem endsInNumber_shown (address : Nat) : endsInNumber (shown address).toList = true := by
  have hvalue := (numeral_facts (address % 256) (Nat.mod_lt _ (by omega))).2.2
  rw [endsInNumber, parts_shown]
  simp only [numerals, bytes, List.map_cons, List.map_nil, List.getLast?_cons_cons,
    List.getLast?_singleton, hvalue, Option.isSome_some, Bool.or_true]

/-- A written address is read as the address. -/
theorem read?_shown {address : Nat} (h : address < 2 ^ 32) :
    read? (shown address).toList = some address := by
  have hvalues : (parts (shown address).toList).mapM partValue? = some (bytes address) := by
    rw [Text.Utf8.mapM_eq_some_iff, parts_shown, numerals, List.map_map, List.map_inj_left]
    intro b hb
    refine (numeral_facts b ?_).2.2
    simp only [bytes, List.mem_cons, List.not_mem_nil, or_false] at hb
    omega
  have hpow : Nat.pow 256 (4 - 3) = 256 := rfl
  have hcombine : combine [address / 16777216 % 256, address / 65536 % 256, address / 256 % 256]
      (address % 256) = some address := by
    simp only [combine, List.length_cons, List.length_nil, Nat.zero_add, Nat.reduceAdd, hpow,
      List.all_cons, List.all_nil, Nat.mod_lt _ (Nat.zero_lt_succ 255), decide_true, Bool.and_true,
      Nat.le_refl, if_true, List.foldl_cons, List.foldl_nil, Option.some.injEq]
    omega
  simp only [read?, hvalues, Option.bind_eq_bind, Option.bind_some]
  exact hcombine

end MainContent.Url.Ipv4
