import NewsWire.Proofs.Grammar

/-!
# Texts that are read

Nothing is read but what some text writes. So the texts that are read are known exactly: a text is
read as a value if and only if it writes something that is nested no deeper than the reader goes,
and that is this value once repeated keys are collapsed (`parse_eq_ok_iff`).

It is enough to find what is written, since what it is read as is known already (`parse_of_textOf`).
Only numbers take an argument of their own. A number that is read is a text of its own if it is cut
off where reading stopped, and reading stops where no digit, point or exponent stands next, so that
nothing is missed by the cut (`Scan.Cuts`).

The grammar has no rule for numbers to compare with: a number is whatever the scanner takes as one,
by itself. That keeps the arithmetic of floating numbers out of the grammar, and all that has to be
shown is that the scanner does not look at what comes after a number.
-/

namespace NewsWire.Json

variable {α : Type} {text : List Char} {c d : Cursor} {n : Number}

/-! ## Numbers

Being cut off is stated for every scanner that takes a part of a number, so that a number is taken
apart in the order in which it is scanned. Each scanner stops where its kind of character does not
stand next, and in a beginning of the text it does not stand there either. -/

/-- What the scanner takes is a text of its own, and it takes all of that text. -/
def Scan.Cuts (scan : Scan α) : Prop :=
  ∀ {c a d}, scan c = .ok (a, d) → ∃ taken, c.rest = taken ++ d.rest ∧
    ∀ p, ∃ q, scan ⟨p, taken⟩ = .ok (a, ⟨q, []⟩)

theorem Cursor.exists_cons_of_atAny {options : List Char} (h : c.atAny options = true) :
    ∃ x more, c.rest = x :: more ∧ x ∈ options := by
  rw [atAny] at h
  split at h
  · next x more hrest => exact ⟨x, more, hrest, by simpa using h⟩
  · cases h

theorem Cursor.next_eq_of_rest {x : Char} {more : List Char} (h : c.rest = x :: more) :
    c.next = ⟨c.position.after x, more⟩ := by
  rw [next, h]

/-- One of the characters stands next in a beginning of a text only if it does in the text. -/
theorem Cursor.atAny_of_prefix {p : Position} {taken options : List Char} (h : taken <+: c.rest)
    (hany : c.atAny options = false) : (Cursor.mk p taken).atAny options = false := by
  rcases taken with _ | ⟨x, taken⟩
  · rfl
  · rcases h with ⟨more, hmore⟩
    rw [atAny, ← hmore] at hany
    exact hany

theorem Cursor.atDigit_of_prefix {p : Position} {taken : List Char} (h : taken <+: c.rest)
    (hdigit : c.atDigit = false) : (Cursor.mk p taken).atDigit = false := by
  rcases taken with _ | ⟨x, taken⟩
  · rfl
  · rcases h with ⟨more, hmore⟩
    rw [atDigit, ← hmore] at hdigit
    exact hdigit

theorem Cursor.rest_skip_digits (c : Cursor) :
    (c.skip c.digits.length).rest = c.rest.dropWhile Char.isDigit := by
  have hsplit : c.rest.takeWhile Char.isDigit ++ c.rest.dropWhile Char.isDigit = c.rest :=
    List.takeWhile_append_dropWhile
  rw [skip, digits, List.length_map]
  exact (congrArg (List.drop _) hsplit.symm).trans List.drop_left

theorem Cursor.digits_cut (c : Cursor) {taken : List Char}
    (h : taken <+: (c.skip c.digits.length).rest) (p : Position) :
    (Cursor.mk p (c.rest.takeWhile Char.isDigit ++ taken)).digits = c.digits ∧
      ∃ q, (Cursor.mk p (c.rest.takeWhile Char.isDigit ++ taken)).skip c.digits.length =
        ⟨q, taken⟩ := by
  have htaken : taken.takeWhile Char.isDigit = [] := by
    rcases taken with _ | ⟨x, taken⟩
    · rfl
    · have hhead := List.head?_dropWhile_not Char.isDigit c.rest
      rw [← rest_skip_digits] at hhead
      rcases h with ⟨more, hmore⟩
      rw [← hmore] at hhead
      exact List.takeWhile_cons_of_neg (by simpa using hhead)
  constructor
  · rw [digits, digits, List.takeWhile_append_of_pos (List.all_eq_true.mp List.all_takeWhile),
      htaken, List.append_nil]
  · refine ⟨⟨p.line, p.column + c.digits.length⟩, ?_⟩
    rw [skip, digits, List.length_map, List.drop_left]

theorem finishFloat_eq_ok {positive : Bool} {word : ℕ} {exponent : ℤ}
    (h : finishFloat positive word exponent c = .ok (n, d)) :
    d = c ∧ ∀ c', finishFloat positive word exponent c' = .ok (n, c') := by
  unfold finishFloat at h ⊢
  rcases hscale : scaleWord positive word exponent with _ | x
  · rw [hscale] at h
    cases h
  · rw [hscale] at h
    cases h
    exact ⟨rfl, fun _ ↦ rfl⟩

def Cursor.pastSign (c : Cursor) : Cursor := if c.atAny ['+', '-'] then c.next else c

theorem scanExponent_of_atDigit (positive : Bool) (word : ℕ) (scale : ℤ)
    (hdigit : c.pastSign.atDigit = true) :
    scanExponent positive word scale c =
      if c.pastSign.digits.foldl (fun acc d ↦ acc * 10 + d) 0 ≤ maxExponent then
        finishFloat positive word
          (if c.atAny ['-'] then
            scale - (c.pastSign.digits.foldl (fun acc d ↦ acc * 10 + d) 0 : ℕ)
          else scale + (c.pastSign.digits.foldl (fun acc d ↦ acc * 10 + d) 0 : ℕ))
          (c.pastSign.skip c.pastSign.digits.length)
      else if word ≠ 0 && !c.atAny ['-'] then
        .error (Fault.numberTooLarge.located (c.pastSign.skip
          ((c.pastSign.digits.scanl (fun acc d ↦ acc * 10 + d) 0).takeWhile
            (· ≤ maxExponent)).length).position)
      else .ok (.float (if positive then 0.0 else -0.0),
        c.pastSign.skip c.pastSign.digits.length) := by
  unfold scanExponent
  dsimp only
  rw [← Cursor.pastSign]
  rcases hrest : c.pastSign.rest with _ | ⟨x, more⟩
  · rw [Cursor.atDigit, hrest] at hdigit
    cases hdigit
  · simp only [hdigit, Bool.not_true, Bool.false_eq_true, if_false]

theorem atDigit_of_scanExponent {positive : Bool} {word : ℕ} {scale : ℤ}
    (h : scanExponent positive word scale c = .ok (n, d)) : c.pastSign.atDigit = true := by
  by_contra hdigit
  unfold scanExponent at h
  dsimp only at h
  rw [← Cursor.pastSign] at h
  rcases hrest : c.pastSign.rest with _ | ⟨x, more⟩
  · rw [hrest] at h
    cases h
  · simp only [hrest, hdigit, Bool.not_false, if_true] at h
    cases h

/-- An exponent goes up to the end of its digits, and by nothing else than its sign and them. -/
theorem scanExponent_eq_ok {positive : Bool} {word : ℕ} {scale : ℤ}
    (h : scanExponent positive word scale c = .ok (n, d)) :
    d = c.pastSign.skip c.pastSign.digits.length ∧
      ∀ c' : Cursor, c'.atAny ['-'] = c.atAny ['-'] → c'.pastSign.atDigit = true →
        c'.pastSign.digits = c.pastSign.digits →
          scanExponent positive word scale c' =
            .ok (n, c'.pastSign.skip c.pastSign.digits.length) := by
  rw [scanExponent_of_atDigit _ _ _ (atDigit_of_scanExponent h)] at h
  split at h
  · next hvalue =>
    rcases finishFloat_eq_ok h with ⟨hd, hfinish⟩
    refine ⟨hd, fun c' hminus hdigit hdigits ↦ ?_⟩
    rw [scanExponent_of_atDigit _ _ _ hdigit, hminus, hdigits, if_pos hvalue, hfinish]
  · next hvalue =>
    split at h
    · cases h
    · next hword =>
      cases h
      refine ⟨rfl, fun c' hminus hdigit hdigits ↦ ?_⟩
      rw [scanExponent_of_atDigit _ _ _ hdigit, hminus, hdigits, if_neg hvalue, if_neg hword]

theorem Cursor.exists_sign (c : Cursor) :
    ∃ sign, c.rest = sign ++ c.pastSign.rest ∧ ∀ p tail, tail <+: c.pastSign.rest → tail ≠ [] →
      (∃ q, (Cursor.mk p (sign ++ tail)).pastSign = ⟨q, tail⟩) ∧
        (Cursor.mk p (sign ++ tail)).atAny ['-'] = c.atAny ['-'] := by
  rcases hany : c.atAny ['+', '-'] with _ | _
  · have hpast : c.pastSign = c := by rw [pastSign, hany, if_neg Bool.false_ne_true]
    rw [hpast]
    refine ⟨[], rfl, fun p tail htail hne ↦ ⟨⟨p, ?_⟩, ?_⟩⟩
    · rw [List.nil_append, pastSign, atAny_of_prefix htail hany, if_neg Bool.false_ne_true]
    · rcases tail with _ | ⟨x, tail⟩
      · exact absurd rfl hne
      · rcases htail with ⟨more, hmore⟩
        rw [atAny, atAny, ← hmore]
        rfl
  · rcases exists_cons_of_atAny hany with ⟨x, more, hrest, hx⟩
    have hpast : c.pastSign = ⟨c.position.after x, more⟩ := by
      rw [pastSign, hany, if_pos rfl, next_eq_of_rest hrest]
    rw [hpast]
    refine ⟨[x], hrest, fun p tail _ _ ↦ ⟨⟨p.after x, ?_⟩, ?_⟩⟩
    · have hany' : (Cursor.mk p (x :: tail)).atAny ['+', '-'] = true := by
        rw [atAny, hrest] at hany
        exact hany
      rw [List.singleton_append, pastSign, hany', if_pos rfl]
      rfl
    · rw [atAny, atAny, hrest]
      rfl

theorem Cursor.exists_cons_of_atDigit (h : c.atDigit = true) :
    ∃ x ds, c.rest.takeWhile Char.isDigit = x :: ds ∧ x.isDigit = true := by
  rw [atDigit] at h
  split at h
  · next x more hrest =>
    rw [hrest, List.takeWhile_cons_of_pos h]
    exact ⟨x, _, rfl, h⟩
  · cases h

theorem Cursor.rest_eq_append_rest_skip (c : Cursor) :
    c.rest = c.rest.takeWhile Char.isDigit ++ (c.skip c.digits.length).rest := by
  rw [rest_skip_digits, List.takeWhile_append_dropWhile]

theorem cuts_scanExponent (positive : Bool) (word : ℕ) (scale : ℤ) :
    Scan.Cuts (scanExponent positive word scale) := by
  intro c n d h
  rcases scanExponent_eq_ok h with ⟨rfl, hagain⟩
  rcases c.exists_sign with ⟨sign, hrest, hsign⟩
  rcases Cursor.exists_cons_of_atDigit (atDigit_of_scanExponent h) with ⟨x, ds, hds, hx⟩
  refine ⟨sign ++ c.pastSign.rest.takeWhile Char.isDigit, ?_, fun p ↦ ?_⟩
  · rw [List.append_assoc, ← c.pastSign.rest_eq_append_rest_skip]
    exact hrest
  · rcases hsign p _ (List.takeWhile_prefix _) (hds ▸ List.cons_ne_nil x ds) with
      ⟨⟨q, hpast⟩, hminus⟩
    rcases c.pastSign.digits_cut List.nil_prefix q with ⟨hdigits, q', hskip⟩
    rw [List.append_nil] at hdigits hskip
    have hdigit' : (Cursor.mk q (c.pastSign.rest.takeWhile Char.isDigit)).atDigit = true := by
      rw [hds]
      exact hx
    rw [← hpast] at hdigit' hdigits hskip
    exact ⟨q', (hagain _ hminus hdigit' hdigits).trans (by rw [hskip])⟩

/-- A mark that leads to a scanner is taken with what the scanner takes. -/
theorem Scan.Cuts.after_mark {scan : Scan α} (hscan : scan.Cuts) {options : List Char} {a : α}
    (hany : c.atAny options = true) (h : scan c.next = .ok (a, d)) :
    ∃ taken, c.rest = taken ++ d.rest ∧ ∀ p, (Cursor.mk p taken).atAny options = true ∧
      ∃ q, scan (Cursor.mk p taken).next = .ok (a, ⟨q, []⟩) := by
  rcases Cursor.exists_cons_of_atAny hany with ⟨x, more, hrest, hx⟩
  rcases hscan h with ⟨taken, htaken, hagain⟩
  rw [Cursor.next_eq_of_rest hrest] at htaken
  refine ⟨x :: taken, hrest.trans (congrArg (x :: ·) htaken), fun p ↦ ⟨?_, hagain (p.after x)⟩⟩
  rw [Cursor.atAny]
  simpa using hx

/-- An exponent is taken if there is one, and nothing otherwise. -/
theorem exists_cut_scanFloatTail {positive : Bool} {word : ℕ} {scale : ℤ}
    (h : scanFloatTail positive word scale c = .ok (n, d)) :
    ∃ taken, c.rest = taken ++ d.rest ∧
      ∀ p, (Cursor.mk p taken).atAny ['e', 'E'] = c.atAny ['e', 'E'] ∧
        ∃ q, scanFloatTail positive word scale ⟨p, taken⟩ = .ok (n, ⟨q, []⟩) := by
  unfold scanFloatTail at h ⊢
  rcases hany : c.atAny ['e', 'E'] with _ | _
  · rw [hany, if_neg Bool.false_ne_true] at h
    rcases finishFloat_eq_ok h with ⟨rfl, hfinish⟩
    exact ⟨[], rfl, fun p ↦ ⟨rfl, p, hfinish ⟨p, []⟩⟩⟩
  · rw [hany, if_pos rfl] at h
    rcases Scan.Cuts.after_mark (cuts_scanExponent positive word scale) hany h with
      ⟨taken, htaken, hagain⟩
    refine ⟨taken, htaken, fun p ↦ ?_⟩
    rw [(hagain p).1, if_pos rfl]
    exact ⟨rfl, (hagain p).2⟩

theorem cuts_scanFraction (positive : Bool) (word : ℕ) (scale : ℤ) :
    Scan.Cuts (scanFraction positive word scale) := by
  intro c n d h
  unfold scanFraction at h ⊢
  dsimp only at h ⊢
  split at h
  · cases h
  · next hds =>
    rcases exists_cut_scanFloatTail h with ⟨taken, htaken, hagain⟩
    refine ⟨c.rest.takeWhile Char.isDigit ++ taken, ?_, fun p ↦ ?_⟩
    · rw [List.append_assoc, ← htaken]
      exact c.rest_eq_append_rest_skip
    · rcases c.digits_cut (htaken ▸ List.prefix_append taken d.rest) p with ⟨hdigits, q, hskip⟩
      rw [hdigits, if_neg hds, hskip]
      exact (hagain q).2

/-- What comes after the first digits of a number. -/
def scanRest (positive : Bool) (word : ℕ) (unread : List ℕ) : Scan Number := fun c ↦
  if c.atAny ['.'] then scanFraction positive word unread.length c.next
  else if c.atAny ['e', 'E'] || !unread.isEmpty then scanFloatTail positive word unread.length c
  else .ok (wholeNumber positive word, c)

theorem cuts_scanRest (positive : Bool) (word : ℕ) (unread : List ℕ) :
    Scan.Cuts (scanRest positive word unread) := by
  intro c n d h
  unfold scanRest at h ⊢
  rcases hpoint : c.atAny ['.'] with _ | _
  · rw [hpoint, if_neg Bool.false_ne_true] at h
    by_cases hfloat : (c.atAny ['e', 'E'] || !unread.isEmpty) = true
    · rw [if_pos hfloat] at h
      rcases exists_cut_scanFloatTail h with ⟨taken, htaken, hagain⟩
      refine ⟨taken, htaken, fun p ↦ ?_⟩
      rw [Cursor.atAny_of_prefix ⟨d.rest, htaken.symm⟩ hpoint, if_neg Bool.false_ne_true,
        (hagain p).1, if_pos hfloat]
      exact (hagain p).2
    · rw [if_neg hfloat] at h
      cases h
      refine ⟨[], rfl, fun p ↦ ⟨p, ?_⟩⟩
      have hwhole : unread.isEmpty = true := by
        simp only [Bool.or_eq_true, Bool.not_eq_true', not_or, Bool.not_eq_false] at hfloat
        exact hfloat.2
      rw [hwhole]
      rfl
  · rw [hpoint, if_pos rfl] at h
    rcases Scan.Cuts.after_mark (cuts_scanFraction positive word _) hpoint h with
      ⟨taken, htaken, hagain⟩
    refine ⟨taken, htaken, fun p ↦ ?_⟩
    rw [(hagain p).1, if_pos rfl]
    exact (hagain p).2

theorem scanNumber_of_cons (positive : Bool) {x : Char} {more : List Char}
    (hrest : c.rest = x :: more) :
    scanNumber positive c =
      if !x.isDigit then .error (Fault.badNumber.located c.peeked)
      else if x = '0' && c.next.atDigit then .error (Fault.badNumber.located c.next.peeked)
      else scanRest positive (fillWord 0 c.digits).1 (fillWord 0 c.digits).2
        (c.skip c.digits.length) := by
  unfold scanNumber
  rw [hrest]
  rfl

/-- No digit comes after a zero at the beginning of a text if none does in the text. -/
theorem Cursor.lone_of_prefix {p : Position} {x : Char} {more tail : List Char}
    (hrest : c.rest = x :: more) (h : tail <+: more)
    (hlone : ¬(x = '0' && c.next.atDigit) = true) :
    ¬(x = '0' && (Cursor.mk p (x :: tail)).next.atDigit) = true := by
  rw [Bool.and_eq_true, not_and, Bool.not_eq_true] at hlone ⊢
  intro hzero
  have hnext : tail <+: c.next.rest := by rwa [next_eq_of_rest hrest]
  exact atDigit_of_prefix hnext (hlone hzero)

theorem cuts_scanNumber (positive : Bool) : Scan.Cuts (scanNumber positive) := by
  intro c n d h
  rcases hrest : c.rest with _ | ⟨x, more⟩
  · unfold scanNumber at h
    rw [hrest] at h
    cases h
  · rw [scanNumber_of_cons positive hrest] at h
    split at h
    · cases h
    · next hx =>
      split at h
      · cases h
      · next hlone =>
        rcases cuts_scanRest positive _ _ h with ⟨taken, htaken, hagain⟩
        have hfirst : c.rest.takeWhile Char.isDigit ++ taken =
            x :: (more.takeWhile Char.isDigit ++ taken) := by
          rw [hrest, List.takeWhile_cons_of_pos (by simpa using hx), List.cons_append]
        have hsplit : c.rest = x :: (more.takeWhile Char.isDigit ++ taken) ++ d.rest := by
          rw [← hfirst, List.append_assoc, ← htaken]
          exact c.rest_eq_append_rest_skip
        rw [← hrest]
        refine ⟨_, hsplit, fun p ↦ ?_⟩
        have hmore : more = more.takeWhile Char.isDigit ++ taken ++ d.rest :=
          (List.cons.inj (hrest.symm.trans hsplit)).2
        have hlone' := Cursor.lone_of_prefix (p := p) hrest ⟨d.rest, hmore.symm⟩ hlone
        rcases c.digits_cut (htaken ▸ List.prefix_append taken d.rest) p with ⟨hdigits, q, hskip⟩
        rw [hfirst] at hdigits hskip
        rw [scanNumber_of_cons positive rfl, if_neg hx, if_neg hlone', hdigits, hskip]
        exact hagain q

/-! ## Strings -/

/-- The other half of a pair, and what comes after it. -/
inductive Completes (high : ℕ) : List Char → List Char → Prop
  | intro {a b c d : Char} {low : ℕ} {cs text : List Char} :
      hexQuad? a b c d = some low → 0xDC00 ≤ low ∧ low ≤ 0xDFFF → Literal cs text →
        Completes high (pairedChar high low :: cs) ('\\' :: 'u' :: a :: b :: c :: d :: text)

/-- What is read up to a quotation mark is a literal, or completes one that began with half of a
pair. -/
theorem exists_literal {high : Option ℕ} {found s : List Char} {p : Position}
    (h : scanString high found p text = .ok (s, c)) :
    ∃ cs literal, text = literal ++ '\x22' :: c.rest ∧
      high.elim (Literal cs literal) fun high ↦ Completes high cs literal := by
  fun_induction scanString high found p text
  case case3 high _ _ _ hhigh =>
    cases h
    obtain rfl : high = none := by simpa using hhigh
    exact ⟨[], [], rfl, .nil⟩
  case case7 hquad _ hlow _ _ _ _ _ ih =>
    rcases ih h with ⟨cs, literal, rfl, hliteral⟩
    simp only [Bool.or_eq_true, decide_eq_true_eq] at hlow
    exact ⟨_, _, rfl, .intro hquad (by omega) hliteral⟩
  case case9 hquad _ hhigh _ _ _ _ _ ih =>
    rcases ih h with ⟨_, _, rfl, ⟨hquad', hlow, hliteral⟩⟩
    simp only [Bool.and_eq_true, decide_eq_true_eq] at hhigh
    exact ⟨_, _, rfl, .pair hquad hhigh hquad' hlow hliteral⟩
  case case10 hquad hlow hhigh _ _ _ _ _ ih =>
    rcases ih h with ⟨cs, literal, rfl, hliteral⟩
    simp only [Bool.and_eq_true, decide_eq_true_eq] at hlow hhigh
    exact ⟨_, _, rfl, .code hquad (by omega) hliteral⟩
  case case13 hhigh _ hsimple _ _ _ ih =>
    rcases ih h with ⟨cs, literal, rfl, hliteral⟩
    rw [Option.not_isSome_iff_eq_none.mp hhigh]
    exact ⟨_, _, rfl, .short hsimple hliteral⟩
  case case16 high _ _ _ _ hhigh hquote hbackslash hcontrol ih =>
    rcases ih h with ⟨cs, literal, rfl, hliteral⟩
    obtain rfl : high = none := by simpa [hbackslash] using hhigh
    exact ⟨_, _, rfl, .plain hquote hbackslash hcontrol hliteral⟩
  all_goals cases h

theorem exists_literal_of_scanText {s : String} (h : scanText c = .ok (s, d)) :
    ∃ (key : String) (literal : List Char), c.rest = literal ++ '"' :: d.rest ∧
      Literal key.toList literal := by
  rw [scanText] at h
  rcases hscan : scanString none [] c.position c.rest with e | ⟨cs, d'⟩
  · rw [hscan] at h
    cases h
  · rw [hscan] at h
    cases h
    rcases exists_literal hscan with ⟨cs, literal, hrest, hliteral⟩
    exact ⟨.ofList cs, literal, hrest, by rwa [String.toList_ofList]⟩

/-! ## Marks -/

theorem exists_blanks (c : Cursor) :
    ∃ blanks, Blanks blanks ∧ c.rest = blanks ++ c.skipSpace.rest := by
  rcases c with ⟨p, text⟩
  rw [Cursor.skipSpace]
  induction text generalizing p with
  | nil => exact ⟨[], blanks_nil, rfl⟩
  | cons x text ih =>
    rw [skipSpaceFrom]
    by_cases hx : isSpace x = true
    · rcases ih (p.after x) with ⟨blanks, hblanks, hrest⟩
      rw [if_pos hx]
      exact ⟨x :: blanks, List.forall_mem_cons.mpr ⟨hx, hblanks⟩, congrArg (x :: ·) hrest⟩
    · rw [if_neg hx]
      exact ⟨[], blanks_nil, rfl⟩

theorem scanWord_eq_ok {word : List Char} (h : scanWord word c = .ok d) :
    c.rest = word ++ d.rest := by
  induction word generalizing c with
  | nil =>
    cases h
    rfl
  | cons w word ih =>
    rw [scanWord] at h
    rcases hrest : c.rest with _ | ⟨x, more⟩
    · rw [hrest] at h
      cases h
    · rw [hrest] at h
      dsimp only at h
      split at h
      · next hx =>
        have hmore := ih h
        rw [Cursor.next, hrest] at hmore
        rw [hx, List.cons_append]
        exact congrArg (w :: ·) hmore
      · cases h

theorem scanColon_eq_ok (h : scanColon c = .ok d) :
    ∃ blanks, Blanks blanks ∧ c.rest = blanks ++ ':' :: d.rest := by
  rcases exists_blanks c with ⟨blanks, hblanks, hrest⟩
  refine ⟨blanks, hblanks, ?_⟩
  unfold scanColon at h
  dsimp only at h
  rcases hskip : c.skipSpace.rest with _ | ⟨x, more⟩
  · rw [hskip] at h
    cases h
  · rw [hskip] at h
    dsimp only at h
    split at h
    · next hx =>
      cases h
      rw [hrest, hskip, hx, Cursor.next, hskip]
    · cases h

/-- What stands next after blanks, if one knows that it is no blank. -/
theorem exists_blanks_cons {x : Char} {more : List Char} (h : c.skipSpace.rest = x :: more) :
    ∃ blanks, Blanks blanks ∧ c.rest = blanks ++ x :: more := by
  rcases exists_blanks c with ⟨blanks, hblanks, hrest⟩
  exact ⟨blanks, hblanks, h ▸ hrest⟩

/-- An item is led to, or the end of the list is. -/
theorem moreItems_eq_ok {first more : Bool} (h : moreItems first c = .ok (more, d)) :
    (more = true ∧ ∃ lead, Lead first lead ∧ c.rest = lead ++ d.rest) ∨
      more = false ∧ ∃ blanks, Blanks blanks ∧ c.rest = blanks ++ ']' :: d.next.rest := by
  unfold moreItems at h
  dsimp only at h
  rcases hskip : c.skipSpace.rest with _ | ⟨x, text⟩
  · rw [hskip] at h
    cases h
  · rcases exists_blanks_cons hskip with ⟨blanks, hblanks, hrest⟩
    rw [hskip] at h
    dsimp only at h
    split_ifs at h with hclose hfirst hcomma
    · cases h
      refine Or.inr ⟨rfl, blanks, hblanks, ?_⟩
      rw [hrest, hclose, Cursor.next, hskip]
    · cases h
      rw [hfirst]
      exact Or.inl ⟨rfl, blanks, .first hblanks, by rw [hrest, hskip]⟩
    · rcases hskip' : c.skipSpace.next.skipSpace.rest with _ | ⟨y, text'⟩
      · rw [hskip'] at h
        cases h
      · rcases exists_blanks_cons hskip' with ⟨blanks', hblanks', hrest'⟩
        rw [hskip'] at h
        dsimp only at h
        split_ifs at h
        cases h
        have hnext : c.skipSpace.next.rest = text := by rw [Cursor.next, hskip]
        rw [Bool.not_eq_true] at hfirst
        rw [hfirst]
        refine Or.inl ⟨rfl, _, .comma hblanks hblanks', ?_⟩
        rw [hrest, hcomma, ← hnext, hrest', hskip', List.append_assoc, List.cons_append]

/-- The quotation mark of a key is led to, or the end of the object is. -/
theorem moreMembers_eq_ok {first more : Bool} (h : moreMembers first c = .ok (more, d)) :
    (more = true ∧ ∃ lead, Lead first lead ∧ c.rest = lead ++ '\x22' :: d.rest) ∨
      more = false ∧ ∃ blanks, Blanks blanks ∧ c.rest = blanks ++ '\x7d' :: d.next.rest := by
  unfold moreMembers at h
  dsimp only at h
  rcases hskip : c.skipSpace.rest with _ | ⟨x, text⟩
  · rw [hskip] at h
    cases h
  · rcases exists_blanks_cons hskip with ⟨blanks, hblanks, hrest⟩
    have hnext : c.skipSpace.next.rest = text := by rw [Cursor.next, hskip]
    rw [hskip] at h
    dsimp only at h
    split_ifs at h with hclose hfirst hquote hcomma
    · cases h
      refine Or.inr ⟨rfl, blanks, hblanks, ?_⟩
      rw [hrest, hclose, hnext]
    · cases h
      rw [hfirst]
      exact Or.inl ⟨rfl, blanks, .first hblanks, by rw [hrest, hquote, hnext]⟩
    · rcases hskip' : c.skipSpace.next.skipSpace.rest with _ | ⟨y, text'⟩
      · rw [hskip'] at h
        cases h
      · rcases exists_blanks_cons hskip' with ⟨blanks', hblanks', hrest'⟩
        rw [hskip'] at h
        dsimp only at h
        split_ifs at h with hquote
        cases h
        rw [Bool.not_eq_true] at hfirst
        rw [hfirst]
        refine Or.inl ⟨rfl, _, .comma hblanks hblanks', ?_⟩
        rw [hrest, hcomma, ← hnext, hrest', hquote, Cursor.next, hskip', List.append_assoc,
          List.cons_append]

/-! ## Brackets

The steps of the loops are counted by characters, and how many were left does not matter here: a
loop that came to an end has met the closing bracket, and each round before has taken one part. -/

/-- The scanner takes nothing but what some text writes, after blanks. -/
def Scan.Recognizes (scan : Scan Value) : Prop :=
  ∀ {c v d}, scan c = .ok (v, d) → ∃ blanks raw text, Blanks blanks ∧ Writes raw text ∧
    c.rest = blanks ++ (text ++ d.rest)

theorem Lead.append {first : Bool} {lead blanks : List Char} (h : Lead first lead)
    (hblanks : Blanks blanks) : Lead first (lead ++ blanks) := by
  rcases h with hlead | ⟨hbefore, hafter⟩
  · exact .first (List.forall_mem_append.mpr ⟨hlead, hblanks⟩)
  · rw [List.append_assoc, List.cons_append]
    exact .comma hbefore (List.forall_mem_append.mpr ⟨hafter, hblanks⟩)

theorem exists_parts_of_scanItems {item : Scan Value} (hitem : item.Recognizes) {steps : ℕ}
    {first : Bool} {vs : List Value} (h : scanItems item steps first c = .ok (vs, d)) :
    ∃ raws inner, Parts Writes first raws inner ∧ c.rest = inner ++ ']' :: d.rest := by
  induction steps generalizing first c vs with
  | zero => cases h
  | succ steps ih =>
    rw [scanItems] at h
    rcases bind_eq_ok_iff.mp h with ⟨⟨more, c'⟩, hmore, h⟩
    rcases moreItems_eq_ok hmore with ⟨rfl, lead, hlead, hrest⟩ | ⟨rfl, blanks, hblanks, hrest⟩
    · rcases bind_eq_ok_iff.mp h with ⟨⟨v, c''⟩, hv, h⟩
      rcases bind_eq_ok_iff.mp h with ⟨⟨vs', d'⟩, hvs, h⟩
      cases h
      rcases hitem hv with ⟨blanks, raw, text, hblanks, hwrites, hrest'⟩
      rcases ih hvs with ⟨raws, inner, hparts, hrest''⟩
      refine ⟨raw :: raws, _, .cons (hlead.append hblanks) hwrites hparts, ?_⟩
      rw [hrest, hrest', hrest'']
      simp only [List.append_assoc]
    · cases h
      exact ⟨[], blanks, .nil hblanks, hrest⟩

theorem exists_parts_of_scanMembers {item : Scan Value} (hitem : item.Recognizes) {steps : ℕ}
    {first : Bool} {found members : Members}
    (h : scanMembers (scanMember item) steps first found c = .ok (members, d)) :
    ∃ raws inner, Parts (MemberText Writes) first raws inner ∧
      c.rest = inner ++ '\x7d' :: d.rest := by
  induction steps generalizing first found c with
  | zero => cases h
  | succ steps ih =>
    rw [scanMembers] at h
    rcases bind_eq_ok_iff.mp h with ⟨⟨more, c'⟩, hmore, h⟩
    rcases moreMembers_eq_ok hmore with ⟨rfl, lead, hlead, hrest⟩ | ⟨rfl, blanks, hblanks, hrest⟩
    · rcases bind_eq_ok_iff.mp h with ⟨⟨key, c₁⟩, hkey, h⟩
      rcases bind_eq_ok_iff.mp h with ⟨⟨found', c₂⟩, hmember, h⟩
      rcases bind_eq_ok_iff.mp hmember with ⟨c₃, hcolon, hmember⟩
      rcases bind_eq_ok_iff.mp hmember with ⟨⟨v, c₄⟩, hv, hmember⟩
      cases hmember
      rcases exists_literal_of_scanText hkey with ⟨key, literal, hrest₁, hliteral⟩
      rcases scanColon_eq_ok hcolon with ⟨before, hbefore, hrest₃⟩
      rcases hitem hv with ⟨after, raw, text, hafter, hwrites, hrest₄⟩
      rcases ih h with ⟨raws, inner, hparts, hrest₂⟩
      refine ⟨(key, raw) :: raws, _,
        .cons hlead (.intro hliteral hbefore hafter hwrites) hparts, ?_⟩
      rw [hrest, hrest₁, hrest₃, hrest₄, hrest₂]
      simp only [List.append_assoc, List.cons_append]
    · cases h
      exact ⟨[], blanks, .nil hblanks, hrest⟩

/-! ## Values -/

/-- What is found is a value without parts, which is read, or the beginning of a bracket. -/
inductive Finds (c d : Cursor) : Found → Prop
  | scalar {found : Found} {raw : Value} {text : List Char} : found ≠ .array → found ≠ .object →
      Writes raw text → c.rest = text ++ d.rest → Finds c d found
  | array {more : List Char} : c.rest = '[' :: more → d = c → Finds c d .array
  | object {more : List Char} : c.rest = '\x7b' :: more → d = c → Finds c d .object

theorem Finds.of_word {found result : Found} {raw : Value} {x : Char} {more word : List Char}
    (hrest : c.rest = x :: more) (hwrites : Writes raw (x :: word)) (harray : result ≠ .array)
    (hobject : result ≠ .object)
    (h : ((scanWord word c.next).map fun c ↦ (result, c)) = .ok (found, d)) : Finds c d found := by
  rcases map_eq_ok_iff.mp h with ⟨d, hword, heq⟩
  cases heq
  refine .scalar harray hobject hwrites ?_
  rw [hrest, List.cons_append, ← scanWord_eq_ok hword, Cursor.next_eq_of_rest hrest]

theorem exists_numberText {positive : Bool} (h : scanNumber positive c = .ok (n, d)) :
    ∃ taken q, c.rest = taken ++ d.rest ∧
      scanNumber positive (.start taken) = .ok (n, ⟨q, []⟩) := by
  rcases cuts_scanNumber positive h with ⟨taken, hrest, hagain⟩
  rcases hagain .start with ⟨q, hq⟩
  exact ⟨taken, q, hrest, hq⟩

theorem finds_of_scanFound {found : Found} (h : scanFound c = .ok (found, d)) :
    Finds c d found := by
  unfold scanFound at h
  rcases hrest : c.rest with _ | ⟨x, more⟩
  · rw [hrest] at h
    cases h
  · have hnext : c.next.rest = more := by rw [Cursor.next, hrest]
    rw [hrest] at h
    dsimp only at h
    split_ifs at h with hn ht hf hminus hdigit hquote harray hobject
    · exact .of_word (hn ▸ hrest) .null (by simp) (by simp) h
    · exact .of_word (ht ▸ hrest) (.bool true) (by simp) (by simp) h
    · exact .of_word (hf ▸ hrest) (.bool false) (by simp) (by simp) h
    · rcases map_eq_ok_iff.mp h with ⟨⟨n, d⟩, hnumber, heq⟩
      cases heq
      rcases exists_numberText hnumber with ⟨taken, q, htaken, hagain⟩
      refine .scalar (by simp) (by simp) (.number (.minus hagain)) ?_
      rw [hrest, hminus, ← hnext, htaken]
      rfl
    · rcases map_eq_ok_iff.mp h with ⟨⟨n, d⟩, hnumber, heq⟩
      cases heq
      rcases exists_numberText hnumber with ⟨taken, q, htaken, hagain⟩
      exact .scalar (by simp) (by simp) (.number (.plain hagain)) htaken
    · rcases map_eq_ok_iff.mp h with ⟨⟨s, d⟩, htext, heq⟩
      cases heq
      rcases exists_literal_of_scanText htext with ⟨s, literal, hliteral, hs⟩
      refine .scalar (by simp) (by simp) (.string hs) ?_
      rw [hrest, hquote, ← hnext, hliteral, List.cons_append, List.append_assoc]
      rfl
    · cases h
      exact .array (harray ▸ hrest) rfl
    · cases h
      exact .object (hobject ▸ hrest) rfl

theorem recognizes_scanValue {inner : Option (Scan Value)}
    (hinner : ∀ item ∈ inner, item.Recognizes) : (scanValue inner).Recognizes := by
  intro c v d h
  rcases exists_blanks c with ⟨blanks, hblanks, hrest⟩
  rw [hrest]
  unfold scanValue at h
  dsimp only at h
  generalize c.skipSpace = c at h
  rcases hcons : c.rest with _ | ⟨x, more⟩
  · rw [hcons] at h
    cases h
  · rw [hcons] at h
    rcases bind_eq_ok_iff.mp h with ⟨⟨found, c'⟩, hfound, hvalue⟩
    rcases finds_of_scanFound hfound with ⟨harray, hobject, hwrites, htext⟩ | ⟨hbracket, rfl⟩ |
      ⟨hbracket, rfl⟩
    · rw [← hcons]
      refine ⟨blanks, _, _, hblanks, hwrites, ?_⟩
      rcases found with _ | _ | _ | _ | _ | _
      case array => exact absurd rfl harray
      case object => exact absurd rfl hobject
      all_goals
        cases hvalue
        rw [htext]
    · rcases inner with _ | item
      · cases hvalue
      · rcases bind_eq_ok_iff.mp hvalue with ⟨⟨vs, d'⟩, hitems, hreturn⟩
        cases hreturn
        rcases exists_parts_of_scanItems (hinner item rfl) hitems with ⟨raws, text, hparts, hinside⟩
        refine ⟨blanks, .array raws, _, hblanks, .array hparts, ?_⟩
        rw [Cursor.next_eq_of_rest hbracket] at hinside
        rw [← hcons, hbracket, List.cons_append, List.append_assoc]
        exact congrArg (blanks ++ '[' :: ·) hinside
    · rcases inner with _ | item
      · cases hvalue
      · rcases bind_eq_ok_iff.mp hvalue with ⟨⟨members, d'⟩, hmembers, hreturn⟩
        cases hreturn
        rcases exists_parts_of_scanMembers (hinner item rfl) hmembers with
          ⟨raws, text, hparts, hinside⟩
        refine ⟨blanks, .object raws, _, hblanks, .object hparts, ?_⟩
        rw [Cursor.next_eq_of_rest hbracket] at hinside
        rw [← hcons, hbracket, List.cons_append, List.append_assoc]
        exact congrArg (blanks ++ '\x7b' :: ·) hinside

theorem recognizes_scanAny (depth : ℕ) : (scanAny depth).Recognizes := by
  induction depth with
  | zero => exact recognizes_scanValue fun _ hitem ↦ absurd hitem (Option.not_mem_none _)
  | succ depth ih =>
    refine recognizes_scanValue fun item hitem ↦ ?_
    obtain rfl := Option.some.inj hitem
    exact ih

theorem exists_textOf_of_parse {v : Value} (h : parse text = .ok v) : ∃ raw, TextOf raw text := by
  rw [parse, Schema.parse, Schema.read] at h
  rcases bind_eq_ok_iff.mp h with ⟨⟨v', c⟩, hread, hend⟩
  rcases recognizes_scanAny maxDepth hread with ⟨before, raw, inner, hbefore, hwrites, hrest⟩
  rcases exists_blanks c with ⟨after, hafter, hafter'⟩
  dsimp only at hend
  rcases hskip : c.skipSpace.rest with _ | ⟨x, more⟩
  · rw [hskip, List.append_nil] at hafter'
    rw [hafter'] at hrest
    obtain rfl : text = before ++ (inner ++ after) := hrest
    exact ⟨raw, .intro hbefore hafter hwrites⟩
  · rw [hskip] at hend
    cases hend

/-- **A text is read if and only if it writes something.** It must not be nested too deep, and it is
read as what it writes, with repeated keys collapsed. -/
theorem parse_eq_ok_iff {v : Value} :
    parse text = .ok v ↔ ∃ raw, TextOf raw text ∧ raw.FitsIn maxDepth ∧ raw.collapsed = v := by
  constructor
  · intro h
    rcases exists_textOf_of_parse h with ⟨raw, hraw⟩
    rcases parse_of_textOf hraw with ⟨hok, herror⟩
    refine ⟨raw, hraw, ?_⟩
    by_cases hfits : raw.FitsIn maxDepth
    · exact ⟨hfits, Except.ok.inj ((hok hfits).symm.trans h)⟩
    · rcases herror hfits with ⟨e, he⟩
      rw [he] at h
      cases h
  · rintro ⟨raw, hraw, hfits, rfl⟩
    exact (parse_of_textOf hraw).1 hfits

end NewsWire.Json
