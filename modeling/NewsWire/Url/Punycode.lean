import NewsWire.Text.Numeral

/-!
# Punycode

The form of RFC 3492 in which a label outside ASCII is written in ASCII: first its ASCII characters,
then a hyphen if there are any, then the others as digits that say in ascending order of code points
where each is inserted.

The digits are those of numbers in a base that changes from one number to the next, and the number
of digits is not written. Both sides follow the same bias, which is taken from the numbers so far;
that is why encoding and decoding share `adapt` and `threshold` and nothing else.
-/

namespace NewsWire.Url.Punycode

open NewsWire.Text (maxWord32)

/-- The digit of a value below 36. -/
def digit (n : Nat) : Char :=
  if n < 26 then Char.ofNat ('a'.toNat + n) else Char.ofNat ('0'.toNat + (n - 26))

/-- The value of a digit. -/
def digit? (c : Char) : Option Nat :=
  if 'a' ≤ c ∧ c ≤ 'z' then some (c.toNat - 'a'.toNat)
  else if 'A' ≤ c ∧ c ≤ 'Z' then some (c.toNat - 'A'.toNat)
  else if '0' ≤ c ∧ c ≤ '9' then some (c.toNat - '0'.toNat + 26)
  else none

/-- Divide until the quotient is small, counting the steps. -/
def settle (steps delta : Nat) : Nat :=
  if h : delta > 455 then
    have : delta / 35 < delta := Nat.div_lt_self (by omega) (by decide)
    settle (steps + 1) (delta / 35)
  else 36 * steps + 36 * delta / (delta + 38)
  termination_by delta

/-- The next bias. -/
def adapt (delta points : Nat) (isFirst : Bool) : Nat :=
  let delta := if isFirst then delta / 700 else delta / 2
  settle 0 (delta + delta / points)

/-- The threshold of the digit at a place. -/
def threshold (bias place : Nat) : Nat :=
  if place ≤ bias then 1 else if place ≥ bias + 26 then 26 else place - bias

/-- The digits of a delta. Every digit but the last leaves a smaller quotient. -/
def encodeDelta (bias place q : Nat) : List Char :=
  let t := threshold bias place
  if h : q < t then [digit q]
  else
    have ht : 1 ≤ t ∧ t ≤ 26 := by
      simp only [t, threshold]
      split
      · omega
      · split
        · omega
        · omega
    have : (q - t) / (36 - t) < q := by
      have hq : t ≤ q := Nat.le_of_not_lt h
      calc (q - t) / (36 - t) ≤ q - t := Nat.div_le_self _ _
        _ < q := by omega
    digit (t + (q - t) % (36 - t)) :: encodeDelta bias (place + 36) ((q - t) / (36 - t))
  termination_by q

/-- What encoding keeps from one code point to the next. -/
structure Encoding where
  delta : Nat
  bias : Nat
  handled : Nat
  digits : List Char

/-- Go through the label for the code point `n`: smaller ones count, equal ones are written. -/
def encodePass (basic n : Nat) (e : Encoding) (c : Char) : Encoding :=
  if c.toNat < n then { e with delta := e.delta + 1 }
  else if c.toNat = n then
    { delta := 0
      bias := adapt e.delta (e.handled + 1) (e.handled == basic)
      handled := e.handled + 1
      digits := e.digits ++ encodeDelta e.bias 36 e.delta }
  else e

/-- The code points of a label outside ASCII, each once, in ascending order. -/
def codePoints (label : List Char) : List Nat :=
  ((label.map Char.toNat).filter (· ≥ 128)).eraseDups.mergeSort

def encode (label : List Char) : List Char :=
  let basic := label.filter fun c ↦ c.toNat < 128
  let start : Encoding := ⟨0, 72, basic.length, []⟩
  let (e, _) := (codePoints label).foldl
    (fun (e, next) n ↦
      let e := { e with delta := e.delta + (n - next) * (e.handled + 1) }
      let e := label.foldl (encodePass basic.length n) e
      ({ e with delta := e.delta + 1 }, n + 1))
    (start, 128)
  basic ++ (if basic.isEmpty then [] else ['-']) ++ e.digits

/-- The place that a delta leads to, counted on from `acc`, and the digits after it. No place and no
weight is beyond 32 bits. -/
def decodeDelta (bias place weight acc : Nat) : List Char → Option (Nat × List Char)
  | [] => none
  | c :: cs =>
    match digit? c with
    | none => none
    | some d =>
      let t := threshold bias place
      let acc := acc + d * weight
      let heavier := weight * (36 - t)
      if acc > maxWord32 then none
      else if d < t then some (acc, cs)
      else if heavier > maxWord32 then none
      else decodeDelta bias (place + 36) heavier acc cs

/-- Insert code points until the digits are used up, at most as many as there are digits. -/
def decodeSteps : Nat → (code place bias : Nat) → (isFirst : Bool) → List Char → List Char →
    Option (List Char)
  | _, _, _, _, _, found, [] => some found
  | 0, _, _, _, _, _, _ :: _ => none
  | n + 1, code, place, bias, isFirst, found, ds =>
    match decodeDelta bias 36 1 place ds with
    | none => none
    | some (reached, rest) =>
      let points := found.length + 1
      let code := code + reached / points
      let place' := reached % points
      if code.isValidChar then
        decodeSteps n code (place' + 1) (adapt (reached - place) points isFirst) false
          (found.take place' ++ Char.ofNat code :: found.drop place') rest
      else none

/-- The label of a Punycode form. A hyphen that separates nothing is no digit. -/
def decode (cs : List Char) : Option (List Char) :=
  let reversed := cs.reverse
  let digits := (reversed.takeWhile (· != '-')).reverse
  match reversed.dropWhile (· != '-') with
  | ['-'] => none
  | rest => decodeSteps digits.length 128 0 72 true (rest.drop 1).reverse digits

end NewsWire.Url.Punycode
