import Mathlib.Data.Int.Notation
import Mathlib.Data.List.Nodup
import NewsWire.Json.Reader
import NewsWire.Proofs.Except
import NewsWire.Proofs.Spelling

/-!
# Reading back what is written

A schema reads a value back if it reads it off every text that spells the value, up to what follows
the text (`Scan.ReadsBack`). For a text value this says that every escape is undone, for a whole
number that its digits are put together again, for a list and a record that the parts are found
where the marks between them say.

A list or record reads its parts back because the schemas of the parts do, so what a schema reads
back is put together in the way the schema is. What follows a text must not run on with it: a digit
would lengthen a number (`Ends`).
-/

namespace NewsWire.Json

open NewsWire.Text (hexDigit hexDigit? maxWord64 minInt64)

variable {v : Value} {text blanks rest : List Char} {p : Position}

/-! ## What follows a value

A value is read up to its end, and where that is depends on the text after it only for numbers. The
condition `Ends` is stated for all values alike, since it is what the printer guarantees anyway:
after a value comes a comma, a bracket, a blank or nothing. -/

/-- A value ends here: with the text, at a blank, or at a mark of the bracket around it. -/
def Ends (rest : List Char) : Prop :=
  ∀ x ∈ rest.head?, isSpace x = true ∨ x = ',' ∨ x = ']' ∨ x = '\x7d'

theorem ends_nil : Ends [] := nofun

theorem ends_cons {x : Char} (h : isSpace x = true ∨ x = ',' ∨ x = ']' ∨ x = '\x7d') :
    Ends (x :: rest) := by
  intro y hy
  obtain rfl := Option.some.inj hy
  exact h

theorem Blanks.ends_append (h : Blanks blanks) (hrest : Ends rest) : Ends (blanks ++ rest) := by
  cases blanks with
  | nil => exact hrest
  | cons x blanks => exact ends_cons (Or.inl (h x List.mem_cons_self))

theorem SpellsItems.ends {items : List Value} (h : SpellsItems false items text)
    (rest : List Char) : Ends (text ++ ']' :: rest) := by
  cases h with
  | nil hblanks => exact hblanks.ends_append (ends_cons (by simp))
  | cons hlead _ _ =>
    cases hlead with
    | comma hbefore _ =>
      simp only [List.append_assoc, List.cons_append]
      exact hbefore.ends_append (ends_cons (by simp))

theorem SpellsMembers.ends {members : List (String × Value)} (h : SpellsMembers false members text)
    (rest : List Char) : Ends (text ++ '\x7d' :: rest) := by
  cases h with
  | nil hblanks => exact hblanks.ends_append (ends_cons (by simp))
  | cons _ hlead _ _ _ _ =>
    cases hlead with
    | comma hbefore _ =>
      simp only [List.append_assoc, List.cons_append]
      exact hbefore.ends_append (ends_cons (by simp))

/-! ## Blanks -/

/-- The text does not begin with a blank. -/
def Begins (text : List Char) : Prop := ∀ x ∈ text.head?, isSpace x = false

theorem begins_nil : Begins [] := nofun

theorem begins_cons {x : Char} (h : isSpace x = false) : Begins (x :: rest) := by
  intro y hy
  obtain rfl := Option.some.inj hy
  exact h

theorem exists_skipSpace (p : Position) (hblanks : Blanks blanks) (hrest : Begins rest) :
    ∃ q, (Cursor.mk p (blanks ++ rest)).skipSpace = ⟨q, rest⟩ := by
  induction blanks generalizing p with
  | nil =>
    cases rest with
    | nil => exact ⟨p, rfl⟩
    | cons x rest =>
      refine ⟨p, ?_⟩
      rw [List.nil_append, Cursor.skipSpace, skipSpaceFrom, hrest x rfl]
      rfl
  | cons x blanks ih =>
    rw [Blanks, List.forall_mem_cons] at hblanks
    obtain ⟨q, hskip⟩ := ih (p.after x) hblanks.2
    refine ⟨q, ?_⟩
    rw [List.cons_append, Cursor.skipSpace, skipSpaceFrom, if_pos hblanks.1]
    exact hskip

theorem exists_skipSpace_cons (p : Position) (hblanks : Blanks blanks) (x : Char)
    (rest : List Char) (hx : isSpace x = false) :
    ∃ q, (Cursor.mk p (blanks ++ x :: rest)).skipSpace = ⟨q, x :: rest⟩ :=
  exists_skipSpace p hblanks (begins_cons hx)

/-! ## Strings -/

/-- A character is written as a short escape, as one by its code, or as itself. -/
theorem escapeChar_cases (c : Char) :
    (∃ e, simpleEscape? e = some c ∧ escapeChar c = ['\\', e]) ∨
      c.toNat < 0x20 ∧ escapeChar c =
        ['\\', 'u', '0', '0', hexDigit (c.toNat / 16), hexDigit (c.toNat % 16)] ∨
      (c ≠ '\x22' ∧ c ≠ '\\' ∧ ¬c.toNat < 0x20) ∧ escapeChar c = [c] := by
  rw [escapeChar]
  split_ifs with hquote hbackslash hb hf hn hr ht hcontrol
  · exact Or.inl ⟨_, by rw [hquote]; rfl, rfl⟩
  · exact Or.inl ⟨_, by rw [hbackslash]; rfl, rfl⟩
  · exact Or.inl ⟨_, by rw [hb]; rfl, rfl⟩
  · exact Or.inl ⟨_, by rw [hf]; rfl, rfl⟩
  · exact Or.inl ⟨_, by rw [hn]; rfl, rfl⟩
  · exact Or.inl ⟨_, by rw [hr]; rfl, rfl⟩
  · exact Or.inl ⟨_, by rw [ht]; rfl, rfl⟩
  · exact Or.inr (Or.inl ⟨hcontrol, rfl⟩)
  · exact Or.inr (Or.inr ⟨⟨hquote, hbackslash, hcontrol⟩, rfl⟩)

theorem hexDigit?_hexDigit : ∀ n < 16, hexDigit? (hexDigit n) = some n := by decide

theorem hexQuad?_code {n : ℕ} (h : n < 0x100) :
    hexQuad? '0' '0' (hexDigit (n / 16)) (hexDigit (n % 16)) = some n := by
  have hzero : hexDigit? '0' = some 0 := rfl
  have hvalue : ((0 * 16 + 0) * 16 + n / 16) * 16 + n % 16 = n := by omega
  rw [hexQuad?, hzero, hexDigit?_hexDigit _ (by omega), hexDigit?_hexDigit _ (by omega)]
  exact congrArg some hvalue

theorem quote_append (s : String) (rest : List Char) :
    quote s ++ rest = '\x22' :: (s.toList.flatMap escapeChar ++ '\x22' :: rest) := by
  rw [quote, List.cons_append, List.append_assoc, List.singleton_append]

/-- However a character is written, it is read. -/
theorem exists_scanString_escapeChar (c : Char) (found : List Char) (p : Position)
    (rest : List Char) :
    ∃ q, scanString none found p (escapeChar c ++ rest) = scanString none (c :: found) q rest := by
  obtain ⟨e, hsimple, hescape⟩ | ⟨hcontrol, hescape⟩ | ⟨⟨hquote, hbackslash, hcontrol⟩, hescape⟩ :=
    escapeChar_cases c
  · have hu : e ≠ 'u' := by
      rintro rfl
      cases hsimple
    refine ⟨(p.after '\\').after e, ?_⟩
    rw [hescape, List.cons_append, List.singleton_append, scanString]
    simp [hu, hsimple]
  · have hquad := hexQuad?_code (Nat.lt_trans hcontrol (by decide))
    -- A control character is no half of a pair, so that one escape is the whole of it.
    have hlow : ¬(0xDC00 ≤ c.toNat ∧ c.toNat ≤ 0xDFFF) := by omega
    have hhigh : ¬(0xD800 ≤ c.toNat ∧ c.toNat ≤ 0xDBFF) := by omega
    rw [hescape]
    simp only [List.cons_append, List.nil_append]
    rw [scanString]
    simp only [hquad]
    simp [hlow, hhigh]
    exact ⟨_, rfl⟩
  · refine ⟨p.after c, ?_⟩
    rw [hescape, List.singleton_append, scanString]
    simp [hquote, hbackslash, hcontrol]

theorem exists_scanString (cs found : List Char) (p : Position) (rest : List Char) :
    ∃ q, scanString none found p (cs.flatMap escapeChar ++ '\x22' :: rest) =
      .ok (found.reverse ++ cs, ⟨q, rest⟩) := by
  induction cs generalizing found p with
  | nil =>
    refine ⟨p.after '\x22', ?_⟩
    rw [List.flatMap_nil, List.nil_append, scanString, List.append_nil]
    rfl
  | cons c cs ih =>
    obtain ⟨q, hc⟩ := exists_scanString_escapeChar c found p
      (cs.flatMap escapeChar ++ '\x22' :: rest)
    obtain ⟨q', hcs⟩ := ih (c :: found) q
    refine ⟨q', ?_⟩
    rw [List.flatMap_cons, List.append_assoc, hc, hcs, List.reverse_cons, List.append_assoc,
      List.singleton_append]

theorem exists_scanText (s : String) (p : Position) (rest : List Char) :
    ∃ q, scanText ⟨p, s.toList.flatMap escapeChar ++ '\x22' :: rest⟩ = .ok (s, ⟨q, rest⟩) := by
  obtain ⟨q, hscan⟩ := exists_scanString s.toList [] p rest
  refine ⟨q, ?_⟩
  rw [scanText, hscan, List.reverse_nil, List.nil_append]
  simp only [String.ofList_toList]

/-! ## Numbers -/

theorem exists_toDigits_eq_cons (n : ℕ) :
    ∃ d ds, Nat.toDigits 10 n = d :: ds ∧ d.isDigit = true := by
  obtain ⟨d, ds, hds⟩ := List.exists_cons_of_ne_nil (Nat.toDigits_ne_nil (n := n) (b := 10))
  have hmem : d ∈ Nat.toDigits 10 n := by
    rw [hds]
    exact List.mem_cons_self
  exact ⟨d, ds, hds, Nat.isDigit_of_mem_toDigits (by decide) (by decide) hmem⟩

/-- Only zero is written with a leading zero. -/
theorem eq_zero_of_head?_toDigits {n : ℕ} (h : (Nat.toDigits 10 n).head? = some '0') : n = 0 := by
  induction n using Nat.strongRecOn with
  | ind n ih =>
    rw [Nat.toDigits_eq_if (by decide)] at h
    split at h
    · next hn =>
      have hdigit : ∀ m < 10, m.digitChar = '0' → m = 0 := by decide
      exact hdigit n hn (Option.some.inj h)
    · next hn =>
      rw [List.head?_append_of_ne_nil _ Nat.toDigits_ne_nil] at h
      have hzero := ih (n / 10) (by omega) h
      omega

theorem fillWord_digits (cs : List Char) (acc : ℕ) (h : Nat.ofDigitChars 10 cs acc ≤ maxWord64) :
    fillWord acc (cs.map fun d ↦ d.toNat - '0'.toNat) = (Nat.ofDigitChars 10 cs acc, []) := by
  induction cs generalizing acc with
  | nil => rfl
  | cons c cs ih =>
    rw [Nat.ofDigitChars_cons, Nat.mul_comm] at h ⊢
    -- The digits to come only make it larger, and in the end it still fits.
    have hle : acc * 10 + (c.toNat - '0'.toNat) ≤ maxWord64 := by
      rw [Nat.ofDigitChars_eq_ofDigitChars_zero] at h
      have hgrow := Nat.le_mul_of_pos_left (acc * 10 + (c.toNat - '0'.toNat))
        (Nat.pow_pos (n := cs.length) (Nat.zero_lt_succ 9))
      exact Nat.le_trans (Nat.le_trans hgrow (Nat.le_add_right _ _)) h
    rw [List.map_cons, fillWord, if_pos hle]
    exact ih _ h

/-- What ends a value does not go on with a number. -/
theorem Ends.of_head? (h : Ends rest) :
    ∀ x ∈ rest.head?, x.isDigit = false ∧ x ≠ '.' ∧ x ≠ 'e' ∧ x ≠ 'E' := by
  intro x hx
  obtain hspace | rfl | rfl | rfl := h x hx
  · simp only [isSpace, Bool.or_eq_true, beq_iff_eq] at hspace
    obtain ((rfl | rfl) | rfl) | rfl := hspace <;> decide
  all_goals decide

theorem Ends.atDigit_eq_false (h : Ends rest) : (Cursor.mk p rest).atDigit = false := by
  cases rest with
  | nil => rfl
  | cons x rest => exact (h.of_head? x rfl).1

theorem takeWhile_digits {ds : List Char} (hds : ∀ d ∈ ds, d.isDigit = true) (hrest : Ends rest) :
    (ds ++ rest).takeWhile Char.isDigit = ds := by
  rw [List.takeWhile_append_of_pos hds]
  cases rest with
  | nil => rw [List.takeWhile_nil, List.append_nil]
  | cons x rest =>
    have hx := (hrest.of_head? x rfl).1
    rw [List.takeWhile_cons_of_neg (by rw [hx]; exact Bool.false_ne_true), List.append_nil]

/-- The digits of a word are read as the whole number that they are. -/
theorem exists_scanNumber (positive : Bool) {n : ℕ} (hn : n ≤ maxWord64) (hrest : Ends rest)
    (p : Position) :
    ∃ q, scanNumber positive ⟨p, Nat.toDigits 10 n ++ rest⟩ =
      .ok (wholeNumber positive n, ⟨q, rest⟩) := by
  have hall : ∀ d ∈ Nat.toDigits 10 n, d.isDigit = true :=
    fun d hd ↦ Nat.isDigit_of_mem_toDigits (by decide) (by decide) hd
  have hdigits : (Cursor.mk p (Nat.toDigits 10 n ++ rest)).digits =
      (Nat.toDigits 10 n).map fun d ↦ d.toNat - '0'.toNat := by
    rw [Cursor.digits, takeWhile_digits hall hrest]
  have hword : fillWord 0 ((Nat.toDigits 10 n).map fun d ↦ d.toNat - '0'.toNat) = (n, []) := by
    rw [fillWord_digits _ 0 (by rwa [Nat.ofDigitChars_ten_toDigits]),
      Nat.ofDigitChars_ten_toDigits]
  obtain ⟨d, ds, hds, hfirst⟩ := exists_toDigits_eq_cons n
  -- A leading zero is alone, so no digit comes after it.
  have hlone : (decide (d = '0') && (Cursor.mk p (d :: (ds ++ rest))).next.atDigit) = false := by
    by_cases hd : d = '0'
    · have hzero := eq_zero_of_head?_toDigits (n := n) (by rw [hds, hd]; rfl)
      rw [hzero, Nat.toDigits_zero, List.cons.injEq] at hds
      rw [← hds.2, List.nil_append, Cursor.next, hrest.atDigit_eq_false, Bool.and_false]
    · rw [decide_eq_false hd, Bool.false_and]
  refine ⟨⟨p.line, p.column + (Nat.toDigits 10 n).length⟩, ?_⟩
  have hskip : (Cursor.mk p (Nat.toDigits 10 n ++ rest)).skip (Nat.toDigits 10 n).length =
      ⟨⟨p.line, p.column + (Nat.toDigits 10 n).length⟩, rest⟩ := by
    rw [Cursor.skip, List.drop_left]
  have hcons : Nat.toDigits 10 n ++ rest = d :: (ds ++ rest) := by rw [hds, List.cons_append]
  rw [hcons] at hdigits hskip ⊢
  rw [scanNumber]
  simp only [hfirst, hlone, hdigits, List.length_map, hskip, hword]
  cases rest with
  | nil => rfl
  | cons x rest =>
    obtain ⟨-, hpoint, he, hE⟩ := hrest.of_head? x rfl
    simp [Cursor.atAny, hpoint, he, hE]

/-! ## Scanners

What a text of a value begins with matters to whoever reads it as an item: a closing bracket would
end the list, and the letter of null would be taken for the absence of an optional value. Therefore
`Scan.ReadsBack` is about the first character as well as about the whole. -/

/-- The text begins like one of a value: with no blank and no closing bracket, and with the letter
of null only for null. -/
inductive Opens (v : Value) : List Char → Prop
  | intro {x : Char} {text : List Char} : isSpace x = false → x ≠ ']' → (x = 'n' → v = .null) →
      Opens v (x :: text)

theorem Opens.begins (h : Opens v text) (rest : List Char) : Begins (text ++ rest) := by
  cases h with
  | intro hspace _ _ => exact begins_cons hspace

theorem opens_of_ne {x : Char} (hspace : isSpace x = false) (hclose : x ≠ ']') (hn : x ≠ 'n') :
    Opens v (x :: text) := .intro hspace hclose fun h ↦ absurd h hn

/-- A digit opens a number. -/
theorem opens_of_isDigit {x : Char} (h : x.isDigit = true) : Opens v (x :: text) := by
  refine opens_of_ne ?_ ?_ ?_
  · by_contra hspace
    rw [Bool.not_eq_false] at hspace
    simp only [isSpace, Bool.or_eq_true, beq_iff_eq] at hspace
    obtain ((rfl | rfl) | rfl) | rfl := hspace <;> cases h
  · rintro rfl
    cases h
  · rintro rfl
    cases h

theorem opens_intText (i : ℤ) : Opens v (intText i) := by
  rw [intText]
  split
  · exact opens_of_ne rfl (by decide) (by decide)
  · obtain ⟨d, ds, hds, hdigit⟩ := exists_toDigits_eq_cons i.natAbs
    rw [hds]
    exact opens_of_isDigit hdigit

theorem Spells.opens (h : Spells v text) (hv : ∀ x, v ≠ .number (.float x)) : Opens v text := by
  cases h with
  | null => exact .intro rfl (by decide) fun _ ↦ rfl
  | bool b => cases b <;> exact opens_of_ne rfl (by decide) (by decide)
  | number n =>
    cases n with
    | int i => exact opens_intText i
    | float x => exact absurd rfl (hv x)
  | string s => exact opens_of_ne rfl (by decide) (by decide)
  | array _ => exact opens_of_ne rfl (by decide) (by decide)
  | object _ => exact opens_of_ne rfl (by decide) (by decide)

/-- The scanner reads the value back: off each of its texts, after any blanks, up to what comes
next. -/
structure Scan.ReadsBack (scan : Scan Value) (v : Value) : Prop where
  opens : ∀ {text}, Spells v text → Opens v text
  read : ∀ {text blanks rest}, Spells v text → Blanks blanks → Ends rest → ∀ p,
    ∃ q, scan ⟨p, blanks ++ (text ++ rest)⟩ = .ok (v, ⟨q, rest⟩)

theorem readsBack_text (s : String) : Scan.ReadsBack (Schema.read .text) (.string s) where
  opens h := h.opens nofun
  read {text blanks rest} h hblanks _ p := by
    cases h with
    | string s =>
      obtain ⟨q, hskip⟩ := exists_skipSpace_cons p hblanks '\x22'
        (s.toList.flatMap escapeChar ++ '\x22' :: rest) rfl
      obtain ⟨q', hscan⟩ := exists_scanText s (q.after '\x22') rest
      refine ⟨q', ?_⟩
      rw [Schema.read, scanTextValue, quote_append, hskip]
      simp only [Cursor.next, if_true, hscan]
      rfl

theorem check_of_mem {r : IntRange} {i : ℤ} (hmin : r.min ≤ i) (hmax : i ≤ r.max) :
    r.check (.int i) = .ok i := by
  have hrange : (r.min ≤ i && i ≤ r.max) = true := by
    rw [decide_eq_true hmin, decide_eq_true hmax, Bool.and_true]
  exact if_pos hrange

theorem wholeNumber_of_neg {i : ℤ} (h : i < 0) (hlow : minInt64 ≤ i) :
    wholeNumber false i.natAbs = .int i := by
  -- Otherwise it would become a float.
  have hfits : (i.natAbs = 0 || i.natAbs > 0x8000000000000000) = false := by
    rw [minInt64] at hlow
    rw [Bool.or_eq_false_iff, decide_eq_false_iff_not, decide_eq_false_iff_not]
    omega
  have hi : -(i.natAbs : ℤ) = i := by omega
  rw [wholeNumber, if_neg Bool.false_ne_true, hfits, if_neg Bool.false_ne_true, hi]

theorem wholeNumber_of_nonneg {i : ℤ} (h : ¬i < 0) : wholeNumber true i.natAbs = .int i := by
  have hi : (i.natAbs : ℤ) = i := by omega
  rw [wholeNumber, if_pos rfl, hi]

/-- Whole numbers that fit a 64-bit word of their sign are read back. -/
theorem readsBack_int {r : IntRange} {i : ℤ} (hmin : r.min ≤ i) (hmax : i ≤ r.max)
    (hlow : minInt64 ≤ i) (hhigh : i ≤ maxWord64) :
    Scan.ReadsBack (Schema.read (.int r)) (.ofInt i) where
  opens h := h.opens nofun
  read {text blanks rest} h hblanks hrest p := by
    have hbegins := (h.opens nofun).begins rest
    have hword : i.natAbs ≤ maxWord64 := by
      simp only [minInt64, maxWord64, UInt64.size] at hlow hhigh ⊢
      omega
    have hcheck := check_of_mem hmin hmax
    cases h with
    | number _ =>
      obtain ⟨q, hskip⟩ := exists_skipSpace p hblanks hbegins
      rw [Schema.read, scanInt, hskip, Number.text, intText]
      by_cases hneg : i < 0
      · obtain ⟨q', hscan⟩ := exists_scanNumber false hword hrest (q.after '-')
        rw [wholeNumber_of_neg hneg hlow] at hscan
        refine ⟨q', ?_⟩
        rw [if_pos hneg]
        simp only [List.cons_append, Cursor.next, hscan, decide_true, Bool.true_or, if_true,
          ok_bind, hcheck]
        rfl
      · obtain ⟨q', hscan⟩ := exists_scanNumber true hword hrest q
        rw [wholeNumber_of_nonneg hneg] at hscan
        refine ⟨q', ?_⟩
        rw [if_neg hneg]
        obtain ⟨d, ds, hds, hdigit⟩ := exists_toDigits_eq_cons i.natAbs
        have hsign : d ≠ '-' := by
          rintro rfl
          cases hdigit
        rw [hds, List.cons_append] at hscan ⊢
        simp only [hsign, hdigit, hscan, decide_false, Bool.false_or, if_true, if_false,
          ok_bind, hcheck]
        rfl

theorem readsBack_optional_null (s : Schema) :
    Scan.ReadsBack (Schema.read (.optional s)) .null where
  opens h := h.opens nofun
  read {text blanks rest} h hblanks _ p := by
    cases h with
    | null =>
      obtain ⟨q, hskip⟩ := exists_skipSpace_cons p hblanks 'n' ('u' :: 'l' :: 'l' :: rest) rfl
      refine ⟨(((q.after 'n').after 'u').after 'l').after 'l', ?_⟩
      rw [Schema.read]
      simp only [List.cons_append, List.nil_append, hskip]
      rfl

theorem readsBack_optional {s : Schema} (h : Scan.ReadsBack s.read v) (hv : v ≠ .null) :
    Scan.ReadsBack (Schema.read (.optional s)) v where
  opens := h.opens
  read {text blanks rest} hspells hblanks hrest p := by
    have hopens := h.opens hspells
    obtain ⟨q, hskip⟩ := exists_skipSpace p hblanks (hopens.begins rest)
    obtain ⟨q', hread⟩ := h.read hspells blanks_nil hrest q
    refine ⟨q', ?_⟩
    rw [Schema.read]
    simp only [hskip]
    rw [List.nil_append] at hread
    cases hopens with
    | @intro x text _ _ hnull =>
      -- One letter ahead is enough to tell that it is not null.
      have hn : x ≠ 'n' := fun hx ↦ hv (hnull hx)
      have hword : (Cursor.mk q (x :: text ++ rest)).atAny ['n'] = false := by
        simp [Cursor.atAny, hn]
      rw [hword]
      exact hread

/-! ## Lists -/

theorem exists_moreItems_end (first : Bool) (hblanks : Blanks blanks) (p : Position)
    (rest : List Char) :
    ∃ q, moreItems first ⟨p, blanks ++ ']' :: rest⟩ = .ok (false, ⟨q, ']' :: rest⟩) := by
  obtain ⟨q, hskip⟩ := exists_skipSpace_cons p hblanks ']' rest rfl
  refine ⟨q, ?_⟩
  rw [moreItems, hskip]
  rfl

theorem exists_moreItems_lead {first : Bool} {lead : List Char} (hlead : Lead first lead)
    (hopens : Opens v text) (p : Position) (rest : List Char) :
    ∃ q, moreItems first ⟨p, lead ++ (text ++ rest)⟩ = .ok (true, ⟨q, text ++ rest⟩) := by
  have hbegins := hopens.begins rest
  cases hopens with
  | intro _ hclose _ =>
    cases hlead with
    | first hblanks =>
      obtain ⟨q, hskip⟩ := exists_skipSpace p hblanks hbegins
      refine ⟨q, ?_⟩
      rw [moreItems, hskip]
      simp [hclose]
    | @comma before after hbefore hafter =>
      obtain ⟨q, hskip⟩ := exists_skipSpace_cons p hbefore ',' (after ++ (_ ++ rest)) rfl
      obtain ⟨q', hskip'⟩ := exists_skipSpace (q.after ',') hafter hbegins
      refine ⟨q', ?_⟩
      rw [List.append_assoc, List.cons_append, moreItems, hskip]
      simp only [Cursor.next, hskip']
      simp [hclose]

theorem exists_scanItems {item : Scan Value} {first : Bool} {items : List Value}
    {inner : List Char} (hspells : SpellsItems first items inner)
    (hitems : ∀ v ∈ items, item.ReadsBack v) {steps : ℕ} (hsteps : items.length < steps)
    (p : Position) (rest : List Char) :
    ∃ q, scanItems item steps first ⟨p, inner ++ ']' :: rest⟩ = .ok (items, ⟨q, rest⟩) := by
  induction items generalizing first inner steps p with
  | nil =>
    obtain ⟨n, rfl⟩ := Nat.exists_eq_add_one.mpr hsteps
    cases hspells with
    | nil hblanks =>
      obtain ⟨q, hmore⟩ := exists_moreItems_end first hblanks p rest
      refine ⟨q.after ']', ?_⟩
      rw [scanItems]
      simp only [hmore, ok_bind]
      rfl
  | cons v items ih =>
    obtain ⟨n, rfl⟩ := Nat.exists_eq_add_one.mpr (Nat.zero_lt_of_lt hsteps)
    rw [List.forall_mem_cons] at hitems
    cases hspells with
    | @cons _ lead _ text _ more hlead hv hmore =>
      obtain ⟨q, hq⟩ := exists_moreItems_lead hlead (hitems.1.opens hv) p (more ++ ']' :: rest)
      obtain ⟨q', hq'⟩ := hitems.1.read hv blanks_nil (hmore.ends rest) q
      obtain ⟨q'', hq''⟩ := ih hmore hitems.2 (Nat.lt_of_succ_lt_succ hsteps) q'
      refine ⟨q'', ?_⟩
      rw [List.nil_append] at hq'
      rw [List.append_assoc, List.append_assoc, scanItems]
      simp only [hq, ok_bind, if_true, hq', hq'']
      rfl

/-- There are no more items than characters, since a comma stands before each but the first. -/
theorem SpellsItems.length_le {first : Bool} {items : List Value} {inner : List Char}
    (h : SpellsItems first items inner) : items.length ≤ inner.length + first.toNat := by
  induction items generalizing first inner with
  | nil => exact Nat.zero_le _
  | cons v items ih =>
    cases h with
    | cons hlead hv hmore =>
      have hrest := ih hmore
      cases hlead with
      | first _ =>
        simp only [List.length_cons, List.length_append, Bool.toNat_true,
          Bool.toNat_false] at hrest ⊢
        omega
      | comma _ _ =>
        simp only [List.length_cons, List.length_append, Bool.toNat_false] at hrest ⊢
        omega

theorem readsBack_list {s : Schema} {items : List Value}
    (h : ∀ v ∈ items, Scan.ReadsBack s.read v) :
    Scan.ReadsBack (Schema.read (.list s)) (.array items) where
  opens h := h.opens nofun
  read {text blanks rest} hspells hblanks _ p := by
    cases hspells with
    | @array _ inner hinner =>
      obtain ⟨q, hskip⟩ := exists_skipSpace_cons p hblanks '[' (inner ++ ']' :: rest) rfl
      have hsteps : items.length < (inner ++ ']' :: rest).length + 1 := by
        have hlength := hinner.length_le
        simp only [List.length_append, List.length_cons, Bool.toNat_true] at hlength ⊢
        omega
      obtain ⟨q', hscan⟩ := exists_scanItems hinner h hsteps (q.after '[') rest
      refine ⟨q', ?_⟩
      rw [Schema.read]
      simp only [List.cons_append, List.append_assoc, List.nil_append, hskip, if_true, Cursor.next,
        List.length_cons, hscan, ok_bind]
      rfl

/-! ## Records

The members of an object may come in any order, and unknown ones among them are passed over, but
here they come as they were written: all of them are fields, each is new, and so each is read by the
schema of its field and put after those before it. -/

theorem exists_moreMembers_end (first : Bool) (hblanks : Blanks blanks) (p : Position)
    (rest : List Char) :
    ∃ q, moreMembers first ⟨p, blanks ++ '\x7d' :: rest⟩ = .ok (false, ⟨q, '\x7d' :: rest⟩) := by
  obtain ⟨q, hskip⟩ := exists_skipSpace_cons p hblanks '\x7d' rest rfl
  refine ⟨q, ?_⟩
  rw [moreMembers, hskip]
  rfl

/-- What leads to a member is passed, and the quotation mark that opens its key. -/
theorem exists_moreMembers_quote {first : Bool} {lead : List Char} (hlead : Lead first lead)
    (p : Position) (more : List Char) :
    ∃ q, moreMembers first ⟨p, lead ++ '\x22' :: more⟩ = .ok (true, ⟨q, more⟩) := by
  cases hlead with
  | first hblanks =>
    obtain ⟨q, hskip⟩ := exists_skipSpace_cons p hblanks '\x22' more rfl
    refine ⟨q.after '\x22', ?_⟩
    rw [moreMembers, hskip]
    rfl
  | @comma before after hbefore hafter =>
    obtain ⟨q, hskip⟩ := exists_skipSpace_cons p hbefore ',' (after ++ '\x22' :: more) rfl
    obtain ⟨q', hskip'⟩ := exists_skipSpace_cons (q.after ',') hafter '\x22' more rfl
    refine ⟨q'.after '\x22', ?_⟩
    rw [List.append_assoc, List.cons_append, moreMembers, hskip]
    simp only [Cursor.next, hskip']
    rfl

theorem exists_moreMembers_lead {first : Bool} {lead : List Char} (hlead : Lead first lead)
    (p : Position) (key : String) (rest : List Char) :
    ∃ q, moreMembers first ⟨p, lead ++ (quote key ++ rest)⟩ =
      .ok (true, ⟨q, key.toList.flatMap escapeChar ++ '\x22' :: rest⟩) := by
  rw [quote_append]
  exact exists_moreMembers_quote hlead p _

theorem exists_scanColon (hblanks : Blanks blanks) (p : Position) (rest : List Char) :
    ∃ q, scanColon ⟨p, blanks ++ ':' :: rest⟩ = .ok ⟨q, rest⟩ := by
  obtain ⟨q, hskip⟩ := exists_skipSpace_cons p hblanks ':' rest rfl
  refine ⟨q.after ':', ?_⟩
  rw [scanColon, hskip]
  rfl

/-- The value of a new member is read by the schema of its field. -/
theorem readMember_of_mem {table : FieldTable} {key : String} {presence : Presence} {s : Schema}
    (hnames : (table.map Prod.fst).Nodup) (hfield : (key, presence, s) ∈ table) {found : Members}
    (hnew : found.lookup key = none) (c : Cursor) :
    readMember table key found c = (do
      let c ← scanColon c
      let (v, c) ← s.read c
      return (found ++ [(key, v)], c)) := by
  induction table with
  | nil => cases hfield
  | cons field table ih =>
    obtain ⟨name, presence', s'⟩ := field
    rw [List.map_cons, List.nodup_cons] at hnames
    rw [readMember]
    obtain heq | htail := List.mem_cons.mp hfield
    · obtain ⟨rfl, rfl, rfl⟩ : key = name ∧ presence = presence' ∧ s = s' := by simpa using heq
      rw [if_pos rfl, hnew]
      rfl
    · have hname : name ≠ key := by
        rintro rfl
        exact hnames.1 (List.mem_map.mpr ⟨_, htail, rfl⟩)
      rw [if_neg hname]
      exact ih hnames.2 htail

theorem exists_scanMembers {table : FieldTable} (hnames : (table.map Prod.fst).Nodup)
    {first : Bool} {members : Members} {inner : List Char}
    (hspells : SpellsMembers first members inner)
    (hfields : ∀ m ∈ members, ∃ presence s, (m.1, presence, s) ∈ table ∧
      Scan.ReadsBack s.read m.2)
    {found : Members} (hkeys : ((found ++ members).map Prod.fst).Nodup) {steps : ℕ}
    (hsteps : members.length < steps) (p : Position) (rest : List Char) :
    ∃ q, scanMembers (fun key found ↦ readMember table key found) steps first found
        ⟨p, inner ++ '\x7d' :: rest⟩ = .ok (found ++ members, ⟨q, rest⟩) := by
  induction members generalizing first inner found steps p with
  | nil =>
    obtain ⟨n, rfl⟩ := Nat.exists_eq_add_one.mpr hsteps
    cases hspells with
    | nil hblanks =>
      obtain ⟨q, hmore⟩ := exists_moreMembers_end first hblanks p rest
      refine ⟨q.after '\x7d', ?_⟩
      rw [scanMembers, List.append_nil]
      simp only [hmore, ok_bind]
      rfl
  | cons m members ih =>
    obtain ⟨key, v⟩ := m
    obtain ⟨n, rfl⟩ := Nat.exists_eq_add_one.mpr (Nat.zero_lt_of_lt hsteps)
    rw [List.forall_mem_cons] at hfields
    obtain ⟨⟨presence, s, hfield, hreads⟩, hfields⟩ := hfields
    -- A member with a key that was found already would be refused.
    have hnew : found.lookup key = none := by
      rw [List.map_append, List.map_cons, List.nodup_middle, List.nodup_cons] at hkeys
      refine List.lookup_eq_none_iff.mpr fun other hother ↦ bne_iff_ne.mpr ?_
      rintro rfl
      have hmem : other.1 ∈ found.map Prod.fst := List.mem_map_of_mem hother
      exact hkeys.1 (List.mem_append_left _ hmem)
    have hfound : found ++ (key, v) :: members = (found ++ [(key, v)]) ++ members := by
      rw [List.append_assoc, List.singleton_append]
    rw [hfound] at hkeys
    cases hspells with
    | @cons _ lead before after _ text _ more _ hlead hbefore hafter hv hmore =>
      obtain ⟨q₁, hlead⟩ := exists_moreMembers_lead hlead p key
        (before ++ ':' :: (after ++ (text ++ (more ++ '\x7d' :: rest))))
      obtain ⟨q₂, hkey⟩ := exists_scanText key q₁
        (before ++ ':' :: (after ++ (text ++ (more ++ '\x7d' :: rest))))
      obtain ⟨q₃, hcolon⟩ := exists_scanColon hbefore q₂
        (after ++ (text ++ (more ++ '\x7d' :: rest)))
      obtain ⟨q₄, hvalue⟩ := hreads.read hv hafter (hmore.ends rest) q₃
      obtain ⟨q₅, hrest⟩ := ih hmore hfields hkeys (Nat.lt_of_succ_lt_succ hsteps) q₄
      refine ⟨q₅, ?_⟩
      rw [scanMembers]
      simp only [List.append_assoc, List.cons_append, hlead, ok_bind, if_true, hkey,
        readMember_of_mem hnames hfield hnew, hcolon, hvalue]
      rw [hfound]
      exact hrest

theorem SpellsMembers.length_le {first : Bool} {members : Members} {inner : List Char}
    (h : SpellsMembers first members inner) : members.length ≤ inner.length := by
  induction members generalizing first inner with
  | nil => exact Nat.zero_le _
  | cons m members ih =>
    cases h with
    | cons _ _ _ _ _ hmore =>
      have hrest := ih hmore
      simp only [List.length_cons, List.length_append] at hrest ⊢
      omega

/-- An object reads back the fields of its record, if each is there once and none that must be there
is left out. -/
theorem readsBack_record {name : String} {table : FieldTable} {members : Members}
    (hnames : (table.map Prod.fst).Nodup) (hkeys : (members.map Prod.fst).Nodup)
    (hfields : ∀ m ∈ members, ∃ presence s, (m.1, presence, s) ∈ table ∧
      Scan.ReadsBack s.read m.2)
    (hrequired : ∀ field ∈ table, field.2.1 = .required → (members.lookup field.1).isSome) :
    Scan.ReadsBack (Schema.read (.record name table)) (.object members) where
  opens h := h.opens nofun
  read {text blanks rest} hspells hblanks _ p := by
    cases hspells with
    | @object _ inner hinner =>
      obtain ⟨q, hskip⟩ := exists_skipSpace_cons p hblanks '\x7b' (inner ++ '\x7d' :: rest) rfl
      have hsteps : members.length < (inner ++ '\x7d' :: rest).length + 1 := by
        have hlength := hinner.length_le
        simp only [List.length_append, List.length_cons]
        omega
      have hkeys' : (([] ++ members).map Prod.fst).Nodup := hkeys
      obtain ⟨q', hscan⟩ := exists_scanMembers hnames hinner hfields hkeys' hsteps
        (q.after '\x7b') rest
      have hmissing : missing? (table.map fun f ↦ (f.1, f.2.1)) members = none := by
        rw [missing?, Option.map_eq_none_iff, List.find?_eq_none]
        refine List.forall_mem_map.mpr fun field hfield hmissing ↦ ?_
        rw [Bool.and_eq_true, decide_eq_true_eq] at hmissing
        obtain ⟨hpresence, hnone⟩ := hmissing
        have hsome := hrequired field hfield hpresence
        rw [Option.isNone_iff_eq_none] at hnone
        rw [hnone] at hsome
        cases hsome
      refine ⟨q', ?_⟩
      rw [Schema.read]
      simp only [List.cons_append, List.append_assoc, List.nil_append, hskip, if_true, Cursor.next,
        List.length_cons, hscan, ok_bind, hmissing]
      rfl

/-! ## Whole texts -/

/-- What is read back off a text is read off the whole text. Blanks may come after it. -/
theorem parse_of_readsBack {s : Schema} (h : Scan.ReadsBack s.read v) (hspells : Spells v text)
    (hblanks : Blanks blanks) : s.parse (text ++ blanks) = .ok v := by
  have hends := hblanks.ends_append ends_nil
  rw [List.append_nil] at hends
  obtain ⟨q, hread⟩ := h.read hspells blanks_nil hends .start
  obtain ⟨q', hskip⟩ := exists_skipSpace q hblanks begins_nil
  rw [List.nil_append] at hread
  rw [List.append_nil] at hskip
  rw [Schema.parse, Cursor.start, hread, ok_bind]
  simp only [hskip]

end NewsWire.Json
