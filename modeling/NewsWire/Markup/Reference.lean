import NewsWire.Text.Numeral

/-!
# Character references

A reference stands for one character: `&lt;`, `&gt;`, `&amp;`, `&apos;` and `&quot;` by name, `&#n;`
and `&#xh;` by code point. A text in which some ampersand does not begin a reference that can be
resolved cannot be unescaped at all; `unescape` then gives `none` and leaves it to the caller to use
the text as it stands.

Documents of a wire are written by many hands, and an ampersand that should have been escaped is no
reason to lose a headline. But resolving some references of a text and not others would leave it
neither escaped nor unescaped, so it is all of them or none.
-/

namespace NewsWire.Markup

open NewsWire.Text (digits? hexDigits?)

/-- The text up to the next semicolon, provided no ampersand comes before it, and the text after the
semicolon. -/
def splitReference : List Char → Option (List Char × List Char)
  | [] => none
  | c :: cs =>
    if c = ';' then some ([], cs)
    else if c = '&' then none
    else (splitReference cs).map fun (name, rest) ↦ (c :: name, rest)

theorem length_of_splitReference {cs name rest : List Char}
    (h : splitReference cs = some (name, rest)) : rest.length < cs.length := by
  induction cs generalizing name with
  | nil => simp [splitReference] at h
  | cons c cs ih =>
    rw [splitReference] at h
    split at h
    · simp only [Option.some.injEq, Prod.mk.injEq] at h
      simp [← h.2]
    · split at h
      · simp at h
      · obtain ⟨⟨name', rest'⟩, hs, he⟩ := Option.map_eq_some_iff.1 h
        simp only [Prod.mk.injEq] at he
        have := ih (he.2 ▸ hs)
        simp only [List.length_cons]
        omega

/-- The character of a code point other than zero. -/
def codePoint? (n : Nat) : Option Char :=
  if n ≠ 0 ∧ n.isValidChar then some (Char.ofNat n) else none

/-- The character a reference stands for, by what is between the ampersand and the semicolon. -/
def resolve? (name : List Char) : Option Char :=
  match name with
  | '#' :: 'x' :: ds => (hexDigits? ds).bind codePoint?
  | '#' :: ds => (digits? ds).bind codePoint?
  | ['l', 't'] => some '<'
  | ['g', 't'] => some '>'
  | ['a', 'm', 'p'] => some '&'
  | ['a', 'p', 'o', 's'] => some '\x27'
  | ['q', 'u', 'o', 't'] => some '\x22'
  | _ => none

/-- The text with its references resolved. -/
def unescape (cs : List Char) : Option (List Char) :=
  match cs with
  | [] => some []
  | c :: cs =>
    if c = '&' then
      match h : splitReference cs with
      | none => none
      | some (name, rest) =>
        have : rest.length < cs.length := length_of_splitReference h
        match resolve? name, unescape rest with
        | some x, some xs => some (x :: xs)
        | _, _ => none
    else (unescape cs).map (c :: ·)
  termination_by cs.length

end NewsWire.Markup
