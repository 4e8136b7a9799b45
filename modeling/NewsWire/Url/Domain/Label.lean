import NewsWire.Text.CombiningClass
import NewsWire.Url.Domain.Direction
import NewsWire.Url.Domain.Joining

/-!
# Labels of domain names

A label may not begin with a mark. A joiner, which has no form of its own, may stand only where it
makes a difference: after a sign that takes the vowel off a letter, and the one that keeps letters
apart also between letters that would be joined.

A name with characters written from right to left can be read in one way only if each label keeps to
one direction; `obeysDirection` is the rule of RFC 5893 for one label. The rule is for names with
such characters alone, so whether it applies is asked of all labels together.
-/

namespace NewsWire.Url.Domain

open NewsWire.Text

/-- The most characters that a label outside ASCII may have. -/
def maxLabelLength : Nat := 1000

def isAscii (cs : List Char) : Bool := cs.all fun c ↦ c.toNat < 128

/-! ## Joiners -/

/-- The joiner that keeps letters apart. -/
def nonJoiner : Char := '\u200c'

/-- The joiner that joins letters. -/
def joiner : Char := '\u200d'

/-- A joiner is in place between the text `before`, given from its end, and the text `after`. -/
def isJoinerInPlace (before : List Char) (c : Char) (after : List Char) : Bool :=
  match before with
  | [] => false
  | p :: _ =>
    combiningClass p = viramaClass ||
      (c == nonJoiner && (before.dropWhile isTransparent).head?.any joinsAfter &&
        (after.dropWhile isTransparent).head?.any joinsBefore)

/-- All joiners of a text are in place; `before` is what stands before it, from its end. -/
def areJoinersInPlace (before : List Char) : List Char → Bool
  | [] => true
  | c :: after =>
    (!(c == nonJoiner || c == joiner) || isJoinerInPlace before c after) &&
      areJoinersInPlace (c :: before) after

/-! ## Directions -/

/-- Characters that a label written from right to left may hold beside letters. -/
def Direction.isCompanion : Direction → Bool
  | .number | .neutral | .mark => true
  | _ => false

/-- A label keeps to the direction of its first character and ends in a letter or digit, marks
aside. One written from right to left has digits of one kind. -/
def obeysDirection (label : List Char) : Bool :=
  let ds := label.map directionOf
  let last := (ds.reverse.dropWhile (· == .mark)).head?
  match ds with
  | [] => true
  | .leftToRight :: _ =>
    ds.all (fun d ↦ d == .leftToRight || d.isCompanion) &&
      last.any fun d ↦ d == .leftToRight || d == .number
  | .rightToLeft :: _ =>
    ds.all (fun d ↦ d == .rightToLeft || d == .arabicNumber || d.isCompanion) &&
      last.any (fun d ↦ d == .rightToLeft || d == .number || d == .arabicNumber) &&
      !(ds.contains .number && ds.contains .arabicNumber)
  | _ => false

/-- A character that makes the direction of a name matter. -/
def isRightToLeft (c : Char) : Bool :=
  directionOf c == .rightToLeft || directionOf c == .arabicNumber

/-- Each label keeps to one direction, where that matters. -/
def areDirectionsClear (labels : List (List Char)) : Bool :=
  !labels.any (·.any isRightToLeft) || labels.all obeysDirection

/-! ## Labels -/

/-- A label by itself is in order. -/
def isLabel (label : List Char) : Bool :=
  !label.head?.any isMark && areJoinersInPlace [] label &&
    (isAscii label || label.length ≤ maxLabelLength)

end NewsWire.Url.Domain
