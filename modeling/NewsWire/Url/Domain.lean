import NewsWire.Text.Composed
import NewsWire.Url.Domain.Label
import NewsWire.Url.Domain.Replacement
import NewsWire.Url.Punycode

/-!
# Domain names in ASCII

A domain name is brought to the form in which it is looked up, by the rules of UTS 46: its
characters are replaced, the text is composed, and each label that is not ASCII is written as `xn--`
and its Punycode form. A label that comes in this form must be the form of a label that would be
left as it is. In the result no character may be one that has a meaning elsewhere in a URL.

Labels may be empty, and their lengths are not limited by what can be looked up: that a name cannot
be looked up is found out when it is fetched. What is limited is the work, since Punycode takes time
that grows with the square of a label.
-/

namespace NewsWire.Url

namespace Domain

open NewsWire.Text

/-- Characters that must not stand in a domain name. -/
def isForbidden (c : Char) : Bool :=
  c.toNat ≤ 0x20 || c.toNat = 0x7F ||
    ['#', '%', '/', ':', '<', '>', '?', '@', '[', '\\', ']', '^', '|'].contains c

/-- What the Punycode form of a label begins with. -/
def punycodeMark : List Char := ['x', 'n', '-', '-']

/-- The most characters that a label may have after the mark of its Punycode form. -/
def maxPunycodeLength : Nat := 2000

/-- The text without replacements to make: every character is kept, and the text is composed. -/
def isSettled (cs : List Char) : Bool := cs.all isKept && composed cs == cs

/-- The label in Unicode of a label that may be in Punycode form. -/
def unicodeLabel? (label : List Char) : Option (List Char) :=
  if label.take 4 == punycodeMark then
    let digits := label.drop 4
    if isAscii digits && digits.length ≤ maxPunycodeLength then
      (Punycode.decode digits).filter fun u ↦ !isAscii u && isSettled u
    else none
  else some label

def asciiLabel (label : List Char) : List Char :=
  if isAscii label then label else punycodeMark ++ Punycode.encode label

def labels? (name : List Char) : Option (List (List Char)) := do
  let replaced ← name.mapM replacement?
  (pieces (· == '.') (composed replaced.flatten)).mapM unicodeLabel?

/-- A domain name in ASCII, if it is one. -/
def toAscii? (name : List Char) : Option (List Char) := do
  let labels ← labels? name
  guard (labels.all isLabel && areDirectionsClear labels)
  let text := ['.'].intercalate (labels.map asciiLabel)
  guard (!text.any isForbidden)
  return text

end Domain

end NewsWire.Url
