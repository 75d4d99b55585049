import MainContent.Service.AuthKey

/-!
# The comparison of keys decides equality

A candidate is compared with the secret by collecting the differing bits of all pairs of bytes.
`admits_eq_true_iff` says that this decides equality: a candidate is admitted exactly when it is
present and its bytes are those of the secret.

The collected bits are the disjunction of the differences of the pairs, so they are zero exactly
when every pair is equal (`differences_eq_zero_iff`): a bit once collected is never lost.
`admits_of_differences` says the same bit by bit: at each position, a bit is collected exactly when
some pair differs there, so that differences cannot cancel.
-/

namespace MainContent.Service.AuthKey

/-- The disjunction of bytes, on top of those already collected, is zero exactly when all of them
are. -/
theorem foldl_or_eq_zero_iff (bs : List UInt8) (got : UInt8) :
    bs.foldl (· ||| ·) got = 0 ↔ got = 0 ∧ ∀ b ∈ bs, b = 0 := by
  induction bs generalizing got with
  | nil => simp
  | cons b bs ih =>
    rw [List.foldl_cons, ih, UInt8.or_eq_zero_iff, List.forall_mem_cons, and_assoc]

/-- The differences of the pairs of two byte strings of one length are all zero exactly when the
strings are equal. -/
theorem zipWith_xor_eq_zero_iff (xs ys : List UInt8) (h : xs.length = ys.length) :
    (∀ b ∈ List.zipWith (· ^^^ ·) xs ys, b = 0) ↔ xs = ys := by
  induction xs generalizing ys with
  | nil =>
    rw [List.length_nil, eq_comm, List.length_eq_zero_iff] at h
    simp [h]
  | cons x xs ih =>
    cases ys with
    | nil => simp at h
    | cons y ys =>
      have hlen : xs.length = ys.length := by simpa using h
      rw [List.zipWith_cons_cons, List.forall_mem_cons, ih ys hlen, UInt8.xor_eq_zero_iff,
        List.cons.injEq]

/-- Two byte strings of one length have no differences exactly when they are equal. -/
theorem differences_eq_zero_iff (xs ys : List UInt8) (h : xs.length = ys.length) :
    differences xs ys = 0 ↔ xs = ys := by
  rw [differences, foldl_or_eq_zero_iff, zipWith_xor_eq_zero_iff xs ys h]
  simp

/-- A candidate is admitted exactly when it is present and has the bytes of the secret. -/
theorem admits_eq_true_iff (key : AuthKey) (candidate : Option (List UInt8)) :
    key.admits candidate = true ↔ candidate = some key.bytes := by
  cases candidate with
  | none => simp [admits]
  | some c =>
    by_cases hlen : c.length = key.bytes.length
    · rw [admits, if_neg (fun h => h hlen), beq_iff_eq, differences_eq_zero_iff _ _ hlen.symm,
        Option.some.injEq, eq_comm]
    · have hne : c ≠ key.bytes := fun h => hlen (congrArg List.length h)
      simp [admits, hlen, hne]

/-! ## Bit by bit -/

/-- A bit is in the disjunction of bytes exactly when it is in one of them. -/
theorem testBit_foldl_or (bs : List UInt8) (got : UInt8) (i : Nat) :
    (bs.foldl (· ||| ·) got).toNat.testBit i = true ↔
      got.toNat.testBit i = true ∨ ∃ b ∈ bs, b.toNat.testBit i = true := by
  induction bs generalizing got with
  | nil => simp
  | cons b bs ih =>
    rw [List.foldl_cons, ih, UInt8.toNat_or, Nat.testBit_or, Bool.or_eq_true, or_assoc]
    simp only [List.mem_cons, exists_eq_or_imp]

/-- A bit is collected exactly when some pair of bytes differs in it. -/
theorem testBit_differences (xs ys : List UInt8) (i : Nat) :
    (differences xs ys).toNat.testBit i = true ↔
      ∃ p ∈ xs.zip ys, p.1.toNat.testBit i ≠ p.2.toNat.testBit i := by
  have hzero : (0 : UInt8).toNat.testBit i = false := Nat.zero_testBit i
  have hxor (p : UInt8 × UInt8) :
      (p.1 ^^^ p.2).toNat.testBit i = true ↔ p.1.toNat.testBit i ≠ p.2.toNat.testBit i := by
    rw [UInt8.toNat_xor, Nat.testBit_xor, bne_iff_ne]
  rw [differences, testBit_foldl_or, hzero, ← List.map_uncurry_zip_eq_zipWith]
  constructor
  · rintro (hfalse | ⟨b, hb, hbit⟩)
    · cases hfalse
    · obtain ⟨p, hp, rfl⟩ := List.mem_map.1 hb
      exact ⟨p, hp, (hxor p).1 hbit⟩
  · rintro ⟨p, hp, hne⟩
    exact .inr ⟨_, List.mem_map_of_mem hp, (hxor p).2 hne⟩

/-- No candidate is not admitted. Any other one is admitted exactly when it has the bytes of the
secret. One of another length is refused, and for one of the same length the bits in which any of its
bytes differs from the secret's are collected: they decide, and none of them is lost. -/
theorem admits_of_differences (key : AuthKey) :
    key.admits none = false ∧
      ∀ candidate : List UInt8,
        (key.admits (some candidate) = true ↔ candidate = Text.Utf8.encode key.secret.toList) ∧
        (candidate.length ≠ key.bytes.length → key.admits (some candidate) = false) ∧
        (candidate.length = key.bytes.length →
          (key.admits (some candidate) = true ↔ differences key.bytes candidate = 0) ∧
          ∀ i, (differences key.bytes candidate).toNat.testBit i = true ↔
            ∃ p ∈ key.bytes.zip candidate, p.1.toNat.testBit i ≠ p.2.toNat.testBit i) := by
  refine ⟨rfl, fun candidate => ⟨?_, fun hlength => ?_, fun hlength => ⟨?_, fun i => ?_⟩⟩⟩
  · rw [admits_eq_true_iff, Option.some.injEq]
    rfl
  · rw [admits, if_pos hlength]
  · rw [admits, if_neg (fun h => h hlength), beq_iff_eq]
  · exact testBit_differences key.bytes candidate i

end MainContent.Service.AuthKey
