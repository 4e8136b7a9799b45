import NewsWire.Text.CombiningClass
import NewsWire.Text.Composite

/-!
# Composed text

The same text can be written with composite characters or with their parts, and with marks in
several orders. Its *composed form* is one of these ways of writing: composites are taken apart,
the marks after a character are put in the order of their classes, and what has a composite is put
together again. A mark is put together with the character before it only if no mark of the same
class stands between them.

Two domains that look the same must be the same domain, so the labels of a domain are composed
before they are compared or looked up. That is the only use of this module.
-/

namespace NewsWire.Text

/-! ## Taking apart -/

/-- The parts of a character, down to the given depth. -/
def partsOf : Nat → Char → List Char
  | 0, c => [c]
  | depth + 1, c =>
    match parts? c with
    | none => [c]
    | some (a, b) => partsOf depth a ++ [b]

/-- The text without composites; none holds more than three others one inside the other. -/
def decompose (cs : List Char) : List Char := cs.flatMap (partsOf 4)

/-! ## Order of marks

Marks of one class keep their order, and no mark passes a character of class zero. So the order is
that of a stable sort of each run of marks. The characters are inserted from the right, which needs
no cutting into runs. -/

/-- A character with its combining class. -/
structure Classed where
  char : Char
  cls : Nat
  deriving DecidableEq, Repr

/-- Put a character before others that are in order: it moves past marks of lower classes. -/
def place (x : Classed) : List Classed → List Classed
  | [] => [x]
  | y :: ys => if 0 < y.cls ∧ y.cls < x.cls then y :: place x ys else x :: y :: ys

def inOrder (cs : List Char) : List Classed :=
  (cs.map fun c ↦ ⟨c, combiningClass c⟩).foldr place []

/-! ## Putting together -/

/-- Put a base character together with what follows it. The marks that are held stand after the base
without a composite, the last one first; `cls` is the class of the last. -/
def composeOnto (base : Char) (held : List Char) (cls : Nat) : List Classed → List Char
  | [] => base :: held.reverse
  | x :: rest =>
    match if held.isEmpty || cls < x.cls then composite? base x.char else none with
    | some whole => composeOnto whole held cls rest
    | none =>
      if x.cls = 0 then base :: (held.reverse ++ composeOnto x.char [] 0 rest)
      else composeOnto base (x.char :: held) x.cls rest

/-- Put characters in order together. Marks without a base stay as they are. -/
def composeAll : List Classed → List Char
  | [] => []
  | x :: rest => if x.cls = 0 then composeOnto x.char [] 0 rest else x.char :: composeAll rest

def composed (cs : List Char) : List Char := composeAll (inOrder (decompose cs))

end NewsWire.Text
