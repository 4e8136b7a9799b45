/-!
# Blank characters, words and lines

Running text is a list of characters. A character is *blank* when it has the Unicode property
`White_Space`; trimming, splitting into words and the emptiness of a trimmed text all mean blank in
this one sense, so a no-break space is trimmed and a zero-width space is not. Formats that have
blanks of their own, such as JSON and XML, say so themselves and never use this notion.

Texts are lists of characters and not strings here and in all readers: a list is taken apart by its
constructors, so a reader is a structural recursion and what is proved of it is an induction.
Strings stand only where a text is handed over.

Words and lines are both cut by `pieces`, which returns what lies between separators, empty pieces
included. So a text is cut at one separator after another and put together again
(`pieces_append_cons`), and nothing but the separators is lost (`flatten_pieces`). Words are the
pieces that are not empty; lines are all of them, since an empty line is a line.
-/

namespace NewsWire.Text

/-! ## Blank characters -/

def isBlank (c : Char) : Bool :=
  let n := c.toNat
  (9 ≤ n && n ≤ 13) || n == 32 || n == 0x85 || n == 0xA0 || n == 0x1680 ||
    (0x2000 ≤ n && n ≤ 0x200A) || n == 0x2028 || n == 0x2029 || n == 0x202F || n == 0x205F ||
    n == 0x3000

/-! ## Trimming -/

def trimStart (cs : List Char) : List Char :=
  cs.dropWhile isBlank

def trimEnd (cs : List Char) : List Char :=
  (cs.reverse.dropWhile isBlank).reverse

def trim (cs : List Char) : List Char :=
  trimEnd (trimStart cs)

def isBlankText (cs : List Char) : Bool :=
  cs.all isBlank

/-! ## Pieces between separators -/

/-- What lies between the characters that satisfy `sep`, empty pieces included. A text without a
separator is one piece. -/
def pieces (sep : Char → Bool) : List Char → List (List Char)
  | [] => [[]]
  | c :: cs =>
    if sep c then [] :: pieces sep cs
    else
      match pieces sep cs with
      | [] => [[c]]
      | p :: ps => (c :: p) :: ps

theorem pieces_ne_nil (sep : Char → Bool) (cs : List Char) : pieces sep cs ≠ [] := by
  cases cs with
  | nil => simp [pieces]
  | cons c cs =>
    rw [pieces]
    split
    · simp
    · split <;> simp

theorem pieces_cons_sep {sep : Char → Bool} {c : Char} (cs : List Char) (h : sep c = true) :
    pieces sep (c :: cs) = [] :: pieces sep cs := by
  rw [pieces, if_pos h]

theorem pieces_cons {sep : Char → Bool} {c : Char} (cs : List Char) (h : ¬sep c = true) :
    pieces sep (c :: cs) = (c :: (pieces sep cs).headD []) :: (pieces sep cs).tail := by
  rw [pieces, if_neg h]
  cases hs : pieces sep cs with
  | nil => exact absurd hs (pieces_ne_nil sep cs)
  | cons p ps => rfl

/-- At a separator the pieces before it end. -/
theorem pieces_append_cons {sep : Char → Bool} {c : Char} (hc : sep c = true) (as bs : List Char) :
    pieces sep (as ++ c :: bs) = pieces sep as ++ pieces sep bs := by
  induction as with
  | nil => exact pieces_cons_sep bs hc
  | cons a as ih =>
    rw [List.cons_append]
    by_cases ha : sep a = true
    · rw [pieces_cons_sep _ ha, pieces_cons_sep _ ha, ih, List.cons_append]
    · rw [pieces_cons _ ha, pieces_cons _ ha, ih]
      rcases hpieces : pieces sep as with _ | ⟨p, ps⟩
      · exact absurd hpieces (pieces_ne_nil sep as)
      · rfl

theorem pieces_of_forall {sep : Char → Bool} {cs : List Char} (h : ∀ c ∈ cs, sep c = false) :
    pieces sep cs = [cs] := by
  induction cs with
  | nil => rfl
  | cons c cs ih =>
    rw [List.forall_mem_cons] at h
    rw [pieces_cons cs (by rw [h.1]; decide), ih h.2]
    rfl

/-- Only the separators are lost. -/
theorem flatten_pieces (sep : Char → Bool) (cs : List Char) :
    (pieces sep cs).flatten = cs.filter fun c ↦ !sep c := by
  induction cs with
  | nil => rfl
  | cons c cs ih =>
    by_cases h : sep c = true
    · simp [pieces_cons_sep cs h, ih, h]
    · rw [pieces_cons cs h, List.filter_cons_of_pos (by simpa using h), ← ih]
      cases hs : pieces sep cs with
      | nil => exact absurd hs (pieces_ne_nil sep cs)
      | cons p ps => simp

theorem sep_eq_false_of_mem_pieces {sep : Char → Bool} {cs p : List Char} {c : Char}
    (hp : p ∈ pieces sep cs) (hc : c ∈ p) : sep c = false := by
  have hmem : c ∈ (pieces sep cs).flatten := List.mem_flatten.mpr ⟨p, hp, hc⟩
  rw [flatten_pieces, List.mem_filter] at hmem
  simpa using hmem.2

/-! ## Two parts -/

theorem eq_false_of_any {p : Char → Bool} {cs : List Char} (h : cs.any p = false) :
    ∀ c ∈ cs, p c = false := by
  simpa [List.any_eq_false] using h

/-- The text before the first character of a kind, and from that character on. -/
def splitBefore (p : Char → Bool) (cs : List Char) : List Char × List Char :=
  (cs.takeWhile fun c ↦ !p c, cs.dropWhile fun c ↦ !p c)

/-! ## Words and lines

Joining the lines of a text trims each of them and puts nothing in between. It is all that becomes
of the layout of a document: where a line ends in the middle of a sentence, its last word and the
first of the next line run together, and the two lemmas below are how a proof sees it. -/

/-- The maximal runs of characters that are not blank, in order. -/
def words (cs : List Char) : List (List Char) :=
  (pieces isBlank cs).filter fun w ↦ !w.isEmpty

def splitLines (cs : List Char) : List (List Char) :=
  pieces (· == '\n') cs

/-- Every line trimmed, and the lines run together. -/
def joinLines (cs : List Char) : List Char :=
  (splitLines cs).flatMap trim

theorem joinLines_of_line {line : List Char} (h : '\n' ∉ line) : joinLines line = trim line := by
  have hpieces : splitLines line = [line] := pieces_of_forall fun c hc ↦ by
    rw [beq_eq_false_iff_ne]
    rintro rfl
    exact h hc
  rw [joinLines, hpieces, List.flatMap_singleton]

/-- What stands on one side of a line feed is joined by itself. -/
theorem joinLines_append_feed (cs ds : List Char) :
    joinLines (cs ++ '\n' :: ds) = joinLines cs ++ joinLines ds := by
  rw [joinLines, splitLines, pieces_append_cons rfl, List.flatMap_append]
  rfl

end NewsWire.Text
