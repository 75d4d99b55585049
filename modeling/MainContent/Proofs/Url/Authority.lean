import MainContent.Proofs.Failure
import MainContent.Proofs.Text.Numeral
import MainContent.Proofs.Text.Part
import MainContent.Proofs.Url.Encode
import MainContent.Proofs.Url.Host
import MainContent.Url.Reader

/-!
# The authority of a URL

An authority is a user's part, a host and a port, each with a sign before it that the parts around it
do not have. So the text of a host and a port is read as the host and the port
(`readHostAndPort_shown`), and a whole authority as what its parts are read as
(`readAuthority_of_divided`).
-/

namespace MainContent.Url

open MainContent.Text.Numeral (isDigit_of_mem_toDigits)

/-! ## Ports -/

/-- A port that is read fits in 16 bits, and is not the scheme's usual one. -/
theorem port_of_readPort {scheme : String} {cs : List Char} {port : Option Nat}
    (h : readPort scheme cs = .ok port) :
    ∀ p, port = some p → p ≤ 65535 ∧ defaultPort? scheme ≠ some p := by
  rintro p rfl
  unfold readPort at h
  split at h
  · cases h
  · dsimp only at h
    split at h
    · cases h
    · rename_i hle
      split at h
      · cases h
      · rename_i husual
        obtain rfl := Option.some.inj (Except.ok.inj h)
        rw [Bool.or_eq_true, beq_iff_eq, not_or] at husual
        exact ⟨Nat.not_lt.1 hle, husual.2⟩

/-- The text of a port, with its colon. -/
def portText : Option Nat → List Char
  | some p => ':' :: Nat.toDigits 10 p
  | none => []

/-- The digits of a port are read as the port. -/
theorem readPort_toDigits {scheme : String} {p : Nat} (hp : p ≤ 65535)
    (husual : defaultPort? scheme ≠ some p) :
    readPort scheme (Nat.toDigits 10 p) = .ok (some p) := by
  have hdigits : (Nat.toDigits 10 p).all Text.isDigit = true :=
    List.all_eq_true.2 fun c hc => isDigit_of_mem_toDigits hc
  have hvalue : (Nat.toDigits 10 p).foldl (fun n c => n * 10 + (c.toNat - 48)) 0 = p :=
    Text.Numeral.valueOnto_toDigits p
  have hempty : (Nat.toDigits 10 p).isEmpty = false := by
    simp [Nat.toDigits_ne_nil]
  have hother : (defaultPort? scheme == some p) = false := by
    simpa using husual
  rw [readPort, hdigits, hvalue, hempty]
  simp [hother, hp]

/-- The text of a port is read to its end as the port. -/
theorem readPort_portText {scheme : String} {port : Option Nat}
    (hport : ∀ p, port = some p → p ≤ 65535 ∧ defaultPort? scheme ≠ some p) :
    readPort scheme (((portText port).drop 1).takeWhile (· ≠ '\\')) = .ok port ∧
      ((portText port).drop 1).dropWhile (· ≠ '\\') = [] := by
  cases port with
  | none => exact ⟨rfl, rfl⟩
  | some p =>
    have hplain : '\\' ∉ Nat.toDigits 10 p := fun hmem =>
      absurd (isDigit_of_mem_toDigits hmem) (by decide)
    rw [portText, List.drop_succ_cons, List.drop_zero, Text.takeWhile_ne_eq_self hplain,
      Text.dropWhile_ne_eq_nil hplain]
    exact ⟨readPort_toDigits (hport p rfl).1 (hport p rfl).2, rfl⟩

/-! ## Hosts -/

/-- A text without colons and brackets is the host, or its beginning. -/
theorem splitHost_append {cs : List Char} (h : ∀ c ∈ cs, c ≠ ':' ∧ c ≠ '[') (rest : List Char) :
    splitHost false (cs ++ rest) = (cs ++ (splitHost false rest).1, (splitHost false rest).2) := by
  induction cs with
  | nil => rfl
  | cons c cs ih =>
    obtain ⟨⟨hcolon, hopen⟩, hcs⟩ := List.forall_mem_cons.1 h
    rw [List.cons_append, splitHost, if_neg (by simp [hcolon]), if_neg hopen]
    simp only [ite_self, ih hcs, List.cons_append]

/-- Within brackets the host goes on up to the one that closes. -/
theorem splitHost_inside {cs : List Char} (h : ']' ∉ cs) (rest : List Char) :
    splitHost true (cs ++ ']' :: rest) =
      (cs ++ ']' :: (splitHost false rest).1, (splitHost false rest).2) := by
  induction cs with
  | nil => rfl
  | cons c cs ih =>
    rw [List.mem_cons, not_or] at h
    rw [List.cons_append, splitHost, if_neg (by simp), if_neg (Ne.symm h.1)]
    simp only [ite_self, ih h.2, List.cons_append]

/-- What may follow a host: nothing, or a port with its colon. -/
def EndsHost (rest : List Char) : Prop :=
  rest = [] ∨ ∃ digits, rest = ':' :: digits

/-- The text of a host is found before its port. -/
theorem splitHost_shown {h : Host} (hc : h.Canonical) {rest : List Char} (hrest : EndsHost rest) :
    splitHost false (h.shown.toList ++ rest) = (h.shown.toList, rest) := by
  have hend : splitHost false rest = ([], rest) := by
    rcases hrest with rfl | ⟨digits, rfl⟩ <;> rfl
  have hname {name : List Char} {labels : List (List Char)} (hform : Domain.Form name labels) :
      splitHost false (name ++ rest) = (name, rest) := by
    have hplain : ∀ c ∈ name, c ≠ ':' ∧ c ≠ '[' := fun c hc =>
      ⟨fun heq => absurd (allowed_of_form hform c hc) (heq ▸ by decide),
        fun heq => absurd (allowed_of_form hform c hc) (heq ▸ by decide)⟩
    rw [splitHost_append hplain, hend, List.append_nil]
  cases hc with
  | name form nonempty number =>
    rw [Host.shown, String.toList_ofList]
    exact hname form
  | ipv4 lt => exact hname (form_ipv4 _)
  | @ipv6 pieces whole =>
    have hclose : ']' ∉ (Ipv6.shown pieces).toList := by
      intro hmem
      rcases Ipv6.mem_shown hmem with hcolon | ⟨d, hd, hdigit⟩
      · cases hcolon
      · exact absurd hdigit ((by decide : ∀ d < 16, ']' ≠ d.digitChar) d hd)
    rw [toList_shown_ipv6, List.cons_append, List.append_assoc, List.singleton_append, splitHost,
      if_neg (by decide), if_pos rfl]
    simp only [splitHost_inside hclose, hend]

/-- The host and the port of an authority. -/
theorem canonical_of_readHostAndPort {scheme : String} {cs left : List Char} {h : Host}
    {port : Option Nat} (hread : readHostAndPort .web scheme cs = .ok (h, port, left)) :
    h.Canonical ∧ ∀ p, port = some p → p ≤ 65535 ∧ defaultPort? scheme ≠ some p := by
  unfold readHostAndPort at hread
  simp only [SchemeKind.isSpecial, Bool.true_and, if_true] at hread
  split at hread
  · cases hread
  · rw [Failure.bind_eq_ok_iff] at hread
    obtain ⟨host, hhost, hread⟩ := hread
    split at hread
    · cases hread
    · obtain ⟨found, hport, hread⟩ := (Failure.bind_eq_ok_iff _ _ _).1 hread
      cases hread
      exact ⟨canonical_of_readSpecialHost hhost, port_of_readPort hport⟩

/-- The text of a host and a port is read as the host and the port, if the host is readable. -/
theorem readHostAndPort_shown {scheme : String} {h : Host} {port : Option Nat} (hc : h.Canonical)
    (hport : ∀ p, port = some p → p ≤ 65535 ∧ defaultPort? scheme ≠ some p) :
    readHostAndPort .web scheme (h.shown.toList ++ portText port) =
      if h.Readable then .ok (h, port, []) else .error .domainName := by
  have hends : EndsHost (portText port) := by
    cases port with
    | none => exact .inl rfl
    | some p => exact .inr ⟨_, rfl⟩
  have hempty : h.shown.toList.isEmpty = false := by
    simpa using hc.shown_ne_nil
  unfold readHostAndPort
  simp only [splitHost_shown hc hends, SchemeKind.isSpecial, Bool.true_and, hempty, if_true,
    Bool.false_and, Bool.false_eq_true, if_false, hc.readSpecialHost_shown]
  by_cases hreadable : h.Readable
  · obtain ⟨hread, hleft⟩ := readPort_portText hport
    rw [if_pos hreadable, if_pos hreadable, hread, hleft]
    rfl
  · rw [if_neg hreadable, if_neg hreadable]
    rfl

/-- What is allowed in a domain name ends neither an authority nor the user's part of it. -/
theorem ends_of_allowed {c : Char} (h : c.toNat < 0x80 ∧ Domain.isForbidden c = false) :
    c ≠ '@' ∧ endsAuthority .web c = false ∧ isVisible c = true :=
  Text.forall_ascii
    (P := fun c => Domain.isForbidden c = false →
      c ≠ '@' ∧ endsAuthority .web c = false ∧ isVisible c = true)
    (by decide +kernel) h.1 h.2

/-- The characters of a host and a port. -/
theorem Host.Canonical.of_mem_shown_port {h : Host} (hc : h.Canonical) {port : Option Nat} {c : Char}
    (hmem : c ∈ h.shown.toList ++ portText port) :
    c ≠ '@' ∧ endsAuthority .web c = false ∧ isVisible c = true := by
  rcases List.mem_append.1 hmem with hmem | hmem
  · rcases hc.of_mem_shown c hmem with hallowed | rfl | rfl | rfl
    · exact ends_of_allowed hallowed
    all_goals decide
  · cases port with
    | none => cases hmem
    | some p =>
      rcases List.mem_cons.1 hmem with rfl | hmem
      · decide
      · have hwritten := (digitFacts (isDigit_of_mem_toDigits hmem)).written
        exact ends_of_allowed ⟨hwritten.ascii, hwritten.allowed⟩

/-! ## Users -/

/-- The last `@` divides the user from the host. -/
theorem splitLastAt_append {user host : List Char} (h : '@' ∉ host) :
    splitLastAt (user ++ '@' :: host) = some (user, host) := by
  have hback : '@' ∉ host.reverse := fun hmem => h (List.mem_reverse.1 hmem)
  rw [splitLastAt, List.reverse_append, List.reverse_cons, List.append_assoc, List.singleton_append]
  simp only [Text.dropWhile_ne_append hback, Text.takeWhile_ne_append hback, List.reverse_reverse]

/-- Without an `@` there is no user. -/
theorem splitLastAt_eq_none {text : List Char} (h : '@' ∉ text) : splitLastAt text = none := by
  have hback : '@' ∉ text.reverse := fun hmem => h (List.mem_reverse.1 hmem)
  rw [splitLastAt]
  simp only [Text.dropWhile_ne_eq_nil hback]

/-- An authority, the user's part of it, which is empty when it is missing, and the host with its
port. -/
inductive Divided : List Char → List Char → List Char → Prop where
  /-- The user's part is missing. -/
  | host {host : List Char} (plain : '@' ∉ host) : Divided host [] host
  /-- An `@` stands behind the user's part. -/
  | user {user host : List Char} (plain : '@' ∉ host) : Divided (user ++ '@' :: host) user host

/-- What needs no escape in a user's name ends neither the name nor the authority. -/
theorem ne_of_not_userinfo {c : Char} (h : inUserinfoSet c = false) :
    c ≠ ':' ∧ c ≠ '@' ∧ endsAuthority .web c = false :=
  Text.forall_ascii
    (P := fun c => inUserinfoSet c = false → c ≠ ':' ∧ c ≠ '@' ∧ endsAuthority .web c = false)
    (by decide +kernel)
    (lt_of_not_control (not_control_of_not_fragment (not_fragment_of_not_path
      (not_path_of_not_userinfo h)))) h

/-- The user's name is kept as it is, and so is the password. -/
theorem keepUserinfo_eq_self {s : String} (h : ∀ c ∈ s.toList, inUserinfoSet c = false) :
    keepUserinfo s.toList = s := by
  rw [keepUserinfo, percentEncode_eq_self h, String.ofList_toList]

/-! ## Whole authorities -/

/-- The parts of what is read behind `//`. -/
theorem exists_of_readAuthority {kind : SchemeKind} {scheme : String} {cs : List Char} {u : Url}
    (h : readAuthority kind scheme cs = .ok u) :
    ∃ (userinfo hostText : List Char) (host : Host) (port : Option Nat) (left : List Char) (tail : Tail),
      readHostAndPort kind scheme hostText = .ok (host, port, left) ∧
      u = withTail kind
        { scheme, username := keepUserinfo (userinfo.takeWhile (· ≠ ':')),
          password := keepUserinfo ((userinfo.dropWhile (· ≠ ':')).drop 1), host := some host, port,
          path := readPath kind tail.path, query := none, fragment := none } tail := by
  unfold readAuthority at h
  dsimp only at h
  split at h
  all_goals
    split at h
    · cases h
    · obtain ⟨⟨host, port, left⟩, hread, h⟩ := (Failure.bind_eq_ok_iff _ _ _).1 h
      dsimp only at h
      split at h
      · cases h
      · cases h
        exact ⟨_, _, host, port, left, _, hread, rfl⟩

section

variable {scheme : String} {text user host tail : List Char}

/-- An authority ends before its path. -/
theorem takeWhile_authority (hkept : ∀ c ∈ text, endsAuthority .web c = false) (tail : List Char) :
    (text ++ '/' :: tail).takeWhile (!endsAuthority .web ·) = text ∧
      (text ++ '/' :: tail).dropWhile (!endsAuthority .web ·) = '/' :: tail := by
  have hall : ∀ c ∈ text, (!endsAuthority .web c) = true := fun c hc => by
    rw [hkept c hc]
    rfl
  constructor
  · rw [List.takeWhile_append_of_pos hall, List.takeWhile_cons_of_neg (by decide), List.append_nil]
  · rw [List.dropWhile_append_of_pos hall, List.dropWhile_cons_of_neg (by decide)]

/-- An authority before a path is read by its parts. -/
theorem readAuthority_of_divided (hdivided : Divided text user host) (hne : host ≠ [])
    (hkept : ∀ c ∈ text, endsAuthority .web c = false) :
    readAuthority .web scheme (text ++ '/' :: tail) =
      (readHostAndPort .web scheme host).bind fun (h, port, left) =>
        let username := keepUserinfo (user.takeWhile (· ≠ ':'))
        let password := keepUserinfo ((user.dropWhile (· ≠ ':')).drop 1)
        if h = .name "" && !(username.isEmpty && password.isEmpty) then .error .emptyHost
        else .ok (withTail .web
          { scheme, username, password, host := some h, port,
            path := readPath .web (splitTail (left ++ '/' :: tail)).path, query := none,
            fragment := none } (splitTail (left ++ '/' :: tail))) := by
  obtain ⟨htext, hrest⟩ := takeWhile_authority hkept tail
  have hempty : host.isEmpty = false := by simpa using hne
  unfold readAuthority
  dsimp only
  rw [htext, hrest]
  cases hdivided with
  | host plain =>
    rw [splitLastAt_eq_none plain]
    simp only [hempty, Bool.false_and, Bool.false_eq_true, if_false]
    rfl
  | user plain =>
    rw [splitLastAt_append plain]
    simp only [hempty, Bool.false_and, Bool.false_eq_true, if_false]
    rfl

end

end MainContent.Url
