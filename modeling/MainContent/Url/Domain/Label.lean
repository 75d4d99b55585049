import MainContent.Unicode.Bidi
import MainContent.Unicode.Composition
import MainContent.Unicode.Joining
import MainContent.Unicode.Mark

/-!
# Labels of domain names

What a label of an internationalized domain name must keep to: where the two joiners may stand, and
in which direction its characters may run.
-/

namespace MainContent.Url.Domain

open MainContent.Unicode

/-- The invisible character that keeps its neighbours apart. -/
def nonJoiner : Char := '\u200c'

/-- The invisible character that joins its neighbours. -/
def joiner : Char := '\u200d'

/-- Whether a mark suppresses the vowel of its consonant. -/
def isVirama (c : Char) : Bool :=
  combiningClass c == 9

/-- Whether the nearest character that a connection does not pass over satisfies `p`. -/
def connects (p : Char → Bool) (cs : List Char) : Bool :=
  match cs.dropWhile transparentJoining.contains with
  | [] => false
  | c :: _ => p c

/-- Whether the joiners of a label stand where they matter; `before` are the characters already
passed, latest first. -/
def joinersInPlace (before : List Char) : List Char → Bool
  | [] => true
  | c :: cs =>
    let afterVirama := before.head?.any isVirama
    let here :=
      if c = joiner then afterVirama
      else if c = nonJoiner then
        afterVirama ||
          (connects (fun d => leftJoining.contains d || dualJoining.contains d) before &&
            connects (fun d => rightJoining.contains d || dualJoining.contains d) cs)
      else true
    here && joinersInPlace (c :: before) cs

/-- The classes of characters that make a domain name bidirectional. -/
def turns (k : BidiClass) : Bool :=
  k == .r || k == .al || k == .an

/-- The classes that a label which runs from right to left may hold. -/
def inRightToLeft (k : BidiClass) : Bool :=
  k != .l && k != .other

/-- The classes that a label which runs from left to right may hold. -/
def inLeftToRight (k : BidiClass) : Bool :=
  k != .r && k != .al && k != .an && k != .other

/-- Whether a label of a bidirectional domain name keeps to the rule of RFC 5893. -/
def keepsDirection (label : List Char) : Bool :=
  let ks := label.map bidiClass
  let ending := (ks.reverse.dropWhile (· == .nsm)).head?
  match ks with
  | [] => true
  | .l :: _ => ks.all inLeftToRight && ending.any fun k => k == .l || k == .en
  | k :: _ =>
    (k == .r || k == .al) && ks.all inRightToLeft &&
      ending.any (fun k => k == .r || k == .al || k == .en || k == .an) &&
      !(ks.contains .en && ks.contains .an)

/-- Whether a mapped label may stand in a domain name, its direction apart. -/
def isSound (label : List Char) : Bool :=
  !(label.head?.any marks.contains) && joinersInPlace [] label

end MainContent.Url.Domain
