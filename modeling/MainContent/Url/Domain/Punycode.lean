import MainContent.Text.Ascii

/-!
# Punycode

The encoding of a label of any characters by letters, digits and hyphens (RFC 3492): the ASCII
characters come first, and then, for each other character in ascending order, how far to go from
the place of the one before it.
-/

namespace MainContent.Url.Domain.Punycode

/-- How a distance adapts the thresholds of the digits that follow, `base` 36. -/
def adapt (delta points : Nat) (first : Bool) : Nat :=
  let start := if first then delta / 700 else delta / 2
  let rec settle (k d : Nat) : Nat :=
    if h : 455 < d then settle (k + 36) (d / 35) else k + 36 * d / (d + 38)
  termination_by d
  settle 0 (start + start / points)

/-- The threshold of the digit at position `k`, for a bias. -/
def threshold (k bias : Nat) : Nat :=
  if k ≤ bias then 1 else if bias + 26 ≤ k then 26 else k - bias

/-- The digit of a value below 36. -/
def digit (n : Nat) : Char :=
  if n < 26 then Char.ofNat (97 + n) else Char.ofNat (22 + n)

/-- The value of a digit. -/
def digitValue? (c : Char) : Option Nat :=
  if 'a' ≤ c && c ≤ 'z' then some (c.toNat - 97)
  else if 'A' ≤ c && c ≤ 'Z' then some (c.toNat - 65)
  else if '0' ≤ c && c ≤ '9' then some (c.toNat - 22)
  else none

/-- The digits of a distance; `fuel` is at least the number of digits. -/
def distance (bias : Nat) : Nat → Nat → Nat → List Char
  | 0, _, q => [digit q]
  | fuel + 1, k, q =>
    let t := threshold k bias
    if q < t then [digit q]
    else digit (t + (q - t) % (36 - t)) :: distance bias fuel (k + 36) ((q - t) / (36 - t))

/-- What has been reached while a label is encoded. -/
structure Progress where
  /-- The distance since the last character that was written. -/
  delta : Nat
  /-- The bias of the digits. -/
  bias : Nat
  /-- How many characters have been written. -/
  written : Nat
  /-- The text so far, backwards. -/
  out : List Char

/-- Passes over one character of the label while the character `n` is being written. -/
def step (basic n : Nat) (p : Progress) (c : Char) : Progress :=
  if c.toNat < n then { p with delta := p.delta + 1 }
  else if c.toNat = n then
    { delta := 0
      bias := adapt p.delta (p.written + 1) (p.written == basic)
      written := p.written + 1
      out := (distance p.bias 32 36 p.delta).reverse ++ p.out }
  else p

/-- Writes the characters of the ascending list `points` one after the other; the last of those
before was `last - 1`. -/
def encodePoints (label : List Char) (basic : Nat) : Nat → List Nat → Progress → Progress
  | _, [], p => p
  | last, n :: ns, p =>
    let q := { p with delta := p.delta + (n - last) * (p.written + 1) }
    let r := label.foldl (step basic n) q
    encodePoints label basic (n + 1) ns { r with delta := r.delta + 1 }

/-- The characters of a label outside ASCII, each once, in ascending order. -/
def points (label : List Char) : List Nat :=
  ((label.filter (0x80 ≤ ·.toNat)).map Char.toNat).eraseDups.mergeSort

/-- The encoding of a label. -/
def encode (label : List Char) : List Char :=
  let ascii := label.filter (·.toNat < 0x80)
  let start := if ascii.isEmpty then [] else '-' :: ascii.reverse
  let p : Progress := { delta := 0, bias := 72, written := ascii.length, out := start }
  (encodePoints label ascii.length 0x80 (points label) p).out.reverse

/-- The distance that a run of digits denotes and what follows the run; `none` when the run is cut
short or a character is no digit. -/
def readDistance (bias : Nat) (k weight acc : Nat) : List Char → Option (Nat × List Char)
  | [] => none
  | c :: cs =>
    match digitValue? c with
    | none => none
    | some d =>
      let t := threshold k bias
      let acc := acc + d * weight
      if d < t then some (acc, cs) else readDistance bias (k + 36) (weight * (36 - t)) acc cs

/-- Reads distances to the end and puts the characters in their places. Each distance takes at
least one digit, so `fuel` is at least the number of digits. -/
def decodeFrom : Nat → Nat → Nat → Nat → List Char → List Char → Option (List Char)
  | _, _, _, _, out, [] => some out
  | 0, _, _, _, _, _ :: _ => none
  | fuel + 1, n, i, bias, out, c :: cs =>
    match readDistance bias 36 1 0 (c :: cs) with
    | none => none
    | some (d, rest) =>
      let size := out.length + 1
      let total := i + d
      let n := n + total / size
      let place := total % size
      if n.isValidChar then
        decodeFrom fuel n (place + 1) (adapt d size (i == 0))
          (out.take place ++ Char.ofNat n :: out.drop place) rest
      else none

/-- The label that an encoding stands for. A hyphen that begins the encoding separates nothing. -/
def decode? (cs : List Char) : Option (List Char) :=
  let back := cs.reverse
  let tail := (back.takeWhile (· ≠ '-')).reverse
  let ascii := ((back.dropWhile (· ≠ '-')).drop 1).reverse
  if cs.any (0x80 ≤ ·.toNat) || (ascii.isEmpty && cs.contains '-') then none
  else decodeFrom cs.length 0x80 0 72 ascii tail

end MainContent.Url.Domain.Punycode
