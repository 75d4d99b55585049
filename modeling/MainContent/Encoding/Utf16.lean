import MainContent.Encoding.Basic

/-!
# UTF-16

Units of two bytes in either order; a character outside the basic plane takes two units.
-/

namespace MainContent.Encoding.Utf16

/-- The unit that two bytes make. -/
def unit (order : ByteOrder) (a b : UInt8) : Nat :=
  match order with
  | .big => a.toNat * 256 + b.toNat
  | .little => b.toNat * 256 + a.toNat

/-- Whether a unit is the first of a pair. -/
def isHigh (u : Nat) : Bool :=
  0xD800 ≤ u && u ≤ 0xDBFF

/-- Whether a unit is the second of a pair. -/
def isLow (u : Nat) : Bool :=
  0xDC00 ≤ u && u ≤ 0xDFFF

/-- The character that a pair of units makes. -/
def paired (high low : Nat) : Char :=
  .ofNat (0x10000 + (high - 0xD800) * 1024 + (low - 0xDC00))

/-- Reads the next character. A unit that misses its partner stands for nothing, and so does the
rest of a text that ends within a character. -/
def step (order : ByteOrder) (_ : Unit) (a : UInt8) (rest : List UInt8) : Step Unit :=
  match rest with
  | [] => .error 0 ()
  | b :: more =>
    let u := unit order a b
    if isHigh u then
      match more with
      | c :: d :: _ =>
        let v := unit order c d
        if isLow v then .char (paired u v) 3 () else .error 1 ()
      | [_] => .error 2 ()
      | [] => .error 1 ()
    else if isLow u then .error 1 ()
    else .char (.ofNat u) 1 ()

end MainContent.Encoding.Utf16
