import NewsWire.Markup.Reference

/-!
# Tags

A tag has a name and the raw text of its attributes, which begins with the blank after the name.
Names are compared by their local part, which is what follows the first colon.

Attributes are looked up in the raw text from left to right, by their full name. The search stops at
the first attribute that is not a name, an equals sign and a quoted value: what comes after it is
not found.

The attributes are kept as text because a tag of the body is written out again as it stood. A list
of names and values would have lost the blanks between them, the quotation marks that were used, and
whatever is no attribute at all.
-/

namespace NewsWire.Markup

def isSpace (c : Char) : Bool :=
  c == ' ' || c == '\r' || c == '\n' || c == '\t'

/-- A start tag or a tag of an empty element. -/
structure Tag where
  name : List Char
  attributes : List Char
  deriving DecidableEq, Repr

/-- The tag written by what is between its brackets. -/
def Tag.ofText (cs : List Char) : Tag :=
  ⟨cs.takeWhile fun c ↦ !isSpace c, cs.dropWhile fun c ↦ !isSpace c⟩

/-- The part of a name after its first colon. -/
def localName (name : List Char) : List Char :=
  match name.dropWhile (· != ':') with
  | [] => name
  | _ :: rest => rest

def Tag.localName (t : Tag) : List Char := Markup.localName t.name

/-- Nothing is lost. -/
theorem Tag.name_append_attributes (cs : List Char) :
    (Tag.ofText cs).name ++ (Tag.ofText cs).attributes = cs :=
  List.takeWhile_append_dropWhile

/-! ## Attributes -/

/-- A quoted value: what is before the closing quotation mark, and what is after it. -/
def quotedValue (quote : Char) : List Char → Option (List Char × List Char)
  | [] => none
  | c :: cs =>
    if c = quote then some ([], cs)
    else (quotedValue quote cs).map fun (v, rest) ↦ (c :: v, rest)

theorem length_of_quotedValue {quote : Char} {cs v rest : List Char}
    (h : quotedValue quote cs = some (v, rest)) : rest.length < cs.length := by
  induction cs generalizing v with
  | nil => simp [quotedValue] at h
  | cons c cs ih =>
    rw [quotedValue] at h
    split at h
    · simp only [Option.some.injEq, Prod.mk.injEq] at h
      simp [← h.2]
    · obtain ⟨⟨v', rest'⟩, hs, he⟩ := Option.map_eq_some_iff.1 h
      simp only [Prod.mk.injEq] at he
      have := ih (he.2 ▸ hs)
      simp only [List.length_cons]
      omega

theorem length_dropWhile_le (p : Char → Bool) (cs : List Char) :
    (cs.dropWhile p).length ≤ cs.length :=
  (List.dropWhile_suffix p).length_le

/-- A quoted value after an equals sign, blanks allowed in between. -/
def attributeValue (cs : List Char) : Option (List Char × List Char) :=
  match cs.dropWhile isSpace with
  | c :: rest => if c = '\x22' || c = '\x27' then quotedValue c rest else none
  | [] => none

/-- The first attribute of a text: its name, its raw value and the text after it. -/
def firstAttribute (cs : List Char) : Option (List Char × List Char × List Char) :=
  match cs.dropWhile isSpace with
  | [] => none
  | c :: cs =>
    let ends (x : Char) : Bool := x == '=' || isSpace x
    let key := c :: cs.takeWhile fun x ↦ !ends x
    match (cs.dropWhile fun x ↦ !ends x).dropWhile isSpace with
    | '=' :: rest => (attributeValue rest).map fun (v, rest) ↦ (key, v, rest)
    | _ => none

theorem length_of_attributeValue {cs v rest : List Char}
    (h : attributeValue cs = some (v, rest)) : rest.length < cs.length := by
  rw [attributeValue] at h
  have hd := length_dropWhile_le isSpace cs
  split at h
  · next c r hr =>
    split at h
    · have := length_of_quotedValue h
      rw [hr, List.length_cons] at hd
      omega
    · simp at h
  · simp at h

theorem length_of_firstAttribute {cs key v rest : List Char}
    (h : firstAttribute cs = some (key, v, rest)) : rest.length < cs.length := by
  rw [firstAttribute] at h
  have hd := length_dropWhile_le isSpace cs
  split at h
  · simp at h
  · next c r hr =>
    simp only at h
    split at h
    · next r' hr' =>
      obtain ⟨⟨v', rest'⟩, hs, he⟩ := Option.map_eq_some_iff.1 h
      simp only [Prod.mk.injEq] at he
      have h1 := length_of_attributeValue (he.2.2 ▸ hs)
      have h2 := length_dropWhile_le isSpace (r.dropWhile fun x ↦ !(x == '=' || isSpace x))
      have h3 := length_dropWhile_le (fun x ↦ !(x == '=' || isSpace x)) r
      rw [hr'] at h2
      rw [hr] at hd
      simp only [List.length_cons] at *
      omega
    · simp at h

/-- The raw value of the first attribute of a name. -/
def findAttribute (name : List Char) (cs : List Char) : Option (List Char) :=
  match h : firstAttribute cs with
  | none => none
  | some (key, v, rest) =>
    have : rest.length < cs.length := length_of_firstAttribute h
    if key = name then some v else findAttribute name rest
  termination_by cs.length

/-- The value of an attribute, references resolved. -/
def Tag.attribute? (t : Tag) (name : String) : Option (List Char) :=
  (findAttribute name.toList t.attributes).bind unescape

end NewsWire.Markup
