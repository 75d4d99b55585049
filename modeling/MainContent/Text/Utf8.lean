/-!
# UTF-8

Reading a byte string as UTF-8. An ill-formed stretch is reported as `none`, once per maximal
part that begins a well-formed sequence (Unicode, section 3.9), so the readings of a byte string
are a list of `Option Char`: the lossy text replaces every `none` by U+FFFD, the strict one exists
when there is no `none`.
-/

namespace MainContent.Text.Utf8

/-- The bytes of a text. -/
def encode (cs : List Char) : List UInt8 :=
  cs.flatMap String.utf8EncodeChar

/-- A byte that continues a sequence. -/
def isTail (b : UInt8) : Bool :=
  0x80 ≤ b && b ≤ 0xBF

/-- The six bits that a continuation byte carries. -/
def tailBits (b : UInt8) : Nat :=
  b.toNat % 64

/-- The bytes that may follow the lead byte `b` of a sequence of three bytes. -/
def secondOfThree (b s : UInt8) : Bool :=
  if b == 0xE0 then 0xA0 ≤ s && s ≤ 0xBF
  else if b == 0xED then 0x80 ≤ s && s ≤ 0x9F
  else isTail s

/-- The bytes that may follow the lead byte `b` of a sequence of four bytes. -/
def secondOfFour (b s : UInt8) : Bool :=
  if b == 0xF0 then 0x90 ≤ s && s ≤ 0xBF
  else if b == 0xF4 then 0x80 ≤ s && s ≤ 0x8F
  else isTail s

/-- Reads the sequence that starts with `b`: its character, or `none` when it is ill-formed, and
how many of the bytes after `b` belong to it. -/
def next (b : UInt8) (rest : List UInt8) : Option Char × Nat :=
  if b < 0x80 then (some (Char.ofNat b.toNat), 0)
  else if b < 0xC2 then (none, 0)
  else if b < 0xE0 then
    match rest with
    | s :: _ =>
      if isTail s then (some (Char.ofNat (b.toNat % 32 * 64 + tailBits s)), 1) else (none, 0)
    | [] => (none, 0)
  else if b < 0xF0 then
    match rest with
    | s :: t :: _ =>
      if secondOfThree b s then
        if isTail t then
          (some (Char.ofNat (b.toNat % 16 * 4096 + tailBits s * 64 + tailBits t)), 2)
        else (none, 1)
      else (none, 0)
    | [s] => (none, if secondOfThree b s then 1 else 0)
    | [] => (none, 0)
  else if b < 0xF5 then
    match rest with
    | s :: t :: u :: _ =>
      if secondOfFour b s then
        if isTail t then
          if isTail u then
            (some (Char.ofNat (b.toNat % 8 * 262144 + tailBits s * 4096 + tailBits t * 64 +
              tailBits u)), 3)
          else (none, 2)
        else (none, 1)
      else (none, 0)
    | [s, t] => (none, if secondOfFour b s then (if isTail t then 2 else 1) else 0)
    | [s] => (none, if secondOfFour b s then 1 else 0)
    | [] => (none, 0)
  else (none, 0)

/-- The readings of a byte string, after those already in `out`. -/
def readOnto (out : Array (Option Char)) : List UInt8 → Array (Option Char)
  | [] => out
  | b :: rest => readOnto (out.push (next b rest).1) (rest.drop (next b rest).2)
termination_by bs => bs.length
decreasing_by rw [List.length_drop, List.length_cons]; omega

/-- The readings of a byte string: its characters, with `none` for each ill-formed part. -/
def read (bs : List UInt8) : List (Option Char) :=
  (readOnto #[] bs).toList

/-- The text of a byte string, with U+FFFD for each ill-formed part. -/
def decodeLossy (bs : List UInt8) : List Char :=
  (read bs).map (·.getD '\uFFFD')

/-- The text of a byte string that is well-formed throughout. -/
def decode? (bs : List UInt8) : Option (List Char) :=
  (read bs).mapM id

end MainContent.Text.Utf8
