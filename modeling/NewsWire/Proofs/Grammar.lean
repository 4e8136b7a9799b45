import NewsWire.Proofs.ReadBack

/-!
# What texts write

A text of JSON writes a value (`Writes`): brackets with blanks between their parts, strings with
characters that may be given by escapes, numbers of every form. What is written has all the members
that the text has, in their order, and several of them may have one key.

Of members with one key the reader keeps one, which has the place of the first and the value of the
last. It does so in every object (`Value.collapsed`), and that is all it does: a text is read as
what it writes, collapsed, unless its brackets are nested too deep, and then it is refused
(`parse_of_textOf`).

Both cases go the same way through the parts of a text. So they are shown at once: an `Outcome` is
a value if some condition holds, and a complaint if it does not, and what is read one after another
has an outcome on the condition of all.
-/

namespace NewsWire.Json

variable {α β : Type} {text rest : List Char} {p : Position}

/-! ## Strings -/

/-- What a text between quotation marks stands for. Every character but three kinds stands for
itself, and each can be given by an escape. Halves of surrogate pairs come in pairs. -/
inductive Literal : List Char → List Char → Prop
  | nil : Literal [] []
  | plain {c : Char} {cs text : List Char} :
      c ≠ '\x22' → c ≠ '\\' → ¬c.toNat < 0x20 → Literal cs text → Literal (c :: cs) (c :: text)
  | short {e c : Char} {cs text : List Char} :
      simpleEscape? e = some c → Literal cs text → Literal (c :: cs) ('\\' :: e :: text)
  | code {a b c d : Char} {n : ℕ} {cs text : List Char} :
      hexQuad? a b c d = some n → ¬(0xD800 ≤ n ∧ n ≤ 0xDFFF) → Literal cs text →
        Literal (Char.ofNat n :: cs) ('\\' :: 'u' :: a :: b :: c :: d :: text)
  | pair {a b c d a' b' c' d' : Char} {high low : ℕ} {cs text : List Char} :
      hexQuad? a b c d = some high → 0xD800 ≤ high ∧ high ≤ 0xDBFF →
        hexQuad? a' b' c' d' = some low → 0xDC00 ≤ low ∧ low ≤ 0xDFFF → Literal cs text →
          Literal (pairedChar high low :: cs)
            ('\\' :: 'u' :: a :: b :: c :: d :: '\\' :: 'u' :: a' :: b' :: c' :: d' :: text)

theorem Literal.exists_scanString {cs text : List Char} (h : Literal cs text) (found : List Char)
    (p : Position) (rest : List Char) :
    ∃ q, scanString none found p (text ++ '\x22' :: rest) =
      .ok (found.reverse ++ cs, ⟨q, rest⟩) := by
  induction h generalizing found p with
  | nil =>
    refine ⟨p.after '\x22', ?_⟩
    rw [List.nil_append, scanString, List.append_nil]
    rfl
  | @plain c cs text hquote hbackslash hcontrol _ ih =>
    rcases ih (c :: found) (p.after c) with ⟨q, hscan⟩
    refine ⟨q, ?_⟩
    rw [List.cons_append, scanString]
    simp [hquote, hbackslash, hcontrol, hscan]
  | @short e c cs text hsimple _ ih =>
    have hu : e ≠ 'u' := by
      rintro rfl
      cases hsimple
    rcases ih (c :: found) ((p.after '\\').after e) with ⟨q, hscan⟩
    refine ⟨q, ?_⟩
    rw [List.cons_append, List.cons_append, scanString]
    simp [hu, hsimple, hscan]
  | @code a b c d n cs text hquad hpair _ ih =>
    have hlow : ¬(0xDC00 ≤ n ∧ n ≤ 0xDFFF) := by omega
    have hhigh : ¬(0xD800 ≤ n ∧ n ≤ 0xDBFF) := by omega
    rcases ih (Char.ofNat n :: found)
      ((((((p.after '\\').after 'u').after a).after b).after c).after d) with ⟨q, hscan⟩
    refine ⟨q, ?_⟩
    simp only [List.cons_append]
    rw [scanString]
    simp [hquad, hlow, hhigh, hscan]
  | @pair a b c d a' b' c' d' high low cs text hquad hhigh hquad' hlow _ ih =>
    have hnot : ¬(0xDC00 ≤ high ∧ high ≤ 0xDFFF) := by omega
    have hin : ¬(low < 0xDC00 ∨ low > 0xDFFF) := by omega
    rcases ih (pairedChar high low :: found)
      ((((((((((((p.after '\\').after 'u').after a).after b).after c).after d).after '\\').after
        'u').after a').after b').after c').after d') with ⟨q, hscan⟩
    refine ⟨q, ?_⟩
    simp only [List.cons_append]
    -- The first half waits for the second.
    have hfirst (more : List Char) : scanString none found p
        ('\\' :: 'u' :: a :: b :: c :: d :: more) = scanString (some high) found
          ((((((p.after '\\').after 'u').after a).after b).after c).after d) more := by
      rw [scanString]
      simp [hquad, hnot, hhigh]
    rw [hfirst, scanString]
    simp [hquad', hin, hscan]

/-! ## Numbers -/

theorem Ends.notMem (h : Ends rest) {x : Char} (hx : x ∈ rest.head?) :
    x ∉ ['.', 'e', 'E', '+', '-'] := by
  rcases h x hx with hspace | rfl | rfl | rfl
  · simp only [isSpace, Bool.or_eq_true, beq_iff_eq] at hspace
    rcases hspace with ((rfl | rfl) | rfl) | rfl <;> decide
  all_goals decide

/-- The second cursor has more to read after what the first one has. -/
def Cursor.Before (rest : List Char) (c c' : Cursor) : Prop := c'.rest = c.rest ++ rest

namespace Cursor.Before

variable {c c' : Cursor} (hc : c.Before rest c')
include hc

theorem next (h : c.rest ≠ []) : c.next.Before rest c'.next := by
  rcases c with ⟨p, _ | ⟨x, text⟩⟩
  · exact absurd rfl h
  · rcases c' with ⟨p', _⟩
    obtain rfl : _ = x :: text ++ rest := hc
    rfl

theorem skip {n : ℕ} (h : n ≤ c.rest.length) : (c.skip n).Before rest (c'.skip n) := by
  rw [Before, Cursor.skip, Cursor.skip, hc]
  exact List.drop_append_of_le_length h

theorem digits_eq (hrest : Ends rest) : c'.digits = c.digits := by
  have hdigits (text : List Char) :
      (text ++ rest).takeWhile Char.isDigit = text.takeWhile Char.isDigit := by
    induction text with
    | nil => exact takeWhile_digits (List.forall_mem_nil _) hrest
    | cons x text ih =>
      rw [List.cons_append, List.takeWhile_cons, List.takeWhile_cons, ih]
  rw [digits, digits, hc, hdigits]

theorem atAny_eq (hrest : Ends rest) (options : List Char)
    (hoptions : options ⊆ ['.', 'e', 'E', '+', '-']) : c'.atAny options = c.atAny options := by
  rcases c with ⟨p, _ | ⟨x, text⟩⟩
  · rw [atAny, atAny, hc, List.nil_append]
    rcases rest with _ | ⟨x, rest⟩
    · rfl
    · have hx : x ∉ options := fun hmem ↦ hrest.notMem rfl (hoptions hmem)
      simpa using hx
  · rw [atAny, atAny, hc]
    rfl

theorem atDigit_eq (hrest : Ends rest) : c'.atDigit = c.atDigit := by
  rcases c with ⟨p, _ | ⟨x, text⟩⟩
  · rcases c' with ⟨p', _⟩
    obtain rfl : _ = [] ++ rest := hc
    exact hrest.atDigit_eq_false
  · rw [atDigit, atDigit, hc]
    rfl

end Cursor.Before

theorem Cursor.length_digits_le (c : Cursor) : c.digits.length ≤ c.rest.length := by
  rw [digits, List.length_map]
  exact (List.takeWhile_sublist _).length_le

theorem Cursor.ne_nil_of_atAny {c : Cursor} {options : List Char} (h : c.atAny options = true) :
    c.rest ≠ [] := by
  intro hnil
  rw [atAny, hnil] at h
  cases h

/-- What the first result is, the second one is too, and it leaves more to read. -/
def Extends (rest : List Char) (r r' : Except Complaint (α × Cursor)) : Prop :=
  ∀ a d, r = .ok (a, d) → ∃ d', r' = .ok (a, d') ∧ d.Before rest d'

theorem extends_error (e : Complaint) (r' : Except Complaint (α × Cursor)) :
    Extends rest (.error e) r' := nofun

theorem extends_ok {d d' : Cursor} (a : α) (h : d.Before rest d') :
    Extends rest (.ok (a, d)) (.ok (a, d')) := by
  rintro _ _ ⟨⟩
  exact ⟨d', rfl, h⟩

theorem Extends.ite {b : Prop} [Decidable b] {r₁ r₁' r₂ r₂' : Except Complaint (α × Cursor)}
    (h₁ : b → Extends rest r₁ r₁') (h₂ : Extends rest r₂ r₂') :
    Extends rest (if b then r₁ else r₂) (if b then r₁' else r₂') := by
  by_cases hb : b
  · rw [if_pos hb, if_pos hb]
    exact h₁ hb
  · rw [if_neg hb, if_neg hb]
    exact h₂

/-- The scanner reads the same off a text with more after it that begins like the end of a value. -/
def Scan.Local (scan : Scan α) : Prop :=
  ∀ {rest c c'}, Ends rest → c.Before rest c' → Extends rest (scan c) (scan c')

theorem local_finishFloat (positive : Bool) (word : ℕ) (exponent : ℤ) :
    Scan.Local (finishFloat positive word exponent) := by
  intro rest c c' _ hc
  rw [finishFloat, finishFloat]
  rcases scaleWord positive word exponent with _ | x
  · exact extends_error _ _
  · exact extends_ok _ hc

theorem local_scanExponent (positive : Bool) (word : ℕ) (scale : ℤ) :
    Scan.Local (scanExponent positive word scale) := by
  intro rest c c' hrest hc
  have hminus := hc.atAny_eq hrest ['-'] (by decide)
  have hsign := hc.atAny_eq hrest ['+', '-'] (by decide)
  have hnext : (if c.atAny ['+', '-'] then c.next else c).Before rest
      (if c'.atAny ['+', '-'] then c'.next else c') := by
    rw [hsign]
    split
    · next hany => exact hc.next (Cursor.ne_nil_of_atAny hany)
    · exact hc
  unfold scanExponent
  dsimp only
  rw [hminus]
  -- What comes after the sign is all that counts from here on.
  generalize (if c.atAny ['+', '-'] then c.next else c) = e at hnext ⊢
  generalize (if c'.atAny ['+', '-'] then c'.next else c') = e' at hnext ⊢
  have hskip := hnext.skip (Cursor.length_digits_le e)
  rw [hnext.atDigit_eq hrest, hnext.digits_eq hrest, hnext]
  rcases e.rest with _ | ⟨x, xs⟩
  · exact extends_error _ _
  · refine .ite (fun _ ↦ extends_error _ _) (.ite (fun _ ↦ ?_) ?_)
    · exact local_finishFloat positive word _ hrest hskip
    · exact .ite (fun _ ↦ extends_error _ _) (extends_ok _ hskip)

theorem local_scanFloatTail (positive : Bool) (word : ℕ) (scale : ℤ) :
    Scan.Local (scanFloatTail positive word scale) := by
  intro rest c c' hrest hc
  unfold scanFloatTail
  rw [hc.atAny_eq hrest _ (by decide)]
  refine .ite (fun hany ↦ ?_) (local_finishFloat positive word scale hrest hc)
  exact local_scanExponent positive word scale hrest (hc.next (Cursor.ne_nil_of_atAny hany))

theorem local_scanFraction (positive : Bool) (word : ℕ) (scale : ℤ) :
    Scan.Local (scanFraction positive word scale) := by
  intro rest c c' hrest hc
  unfold scanFraction
  dsimp only
  rw [hc.digits_eq hrest]
  refine .ite (fun _ ↦ extends_error _ _) ?_
  exact local_scanFloatTail positive _ _ hrest (hc.skip (Cursor.length_digits_le c))

theorem local_scanNumber (positive : Bool) : Scan.Local (scanNumber positive) := by
  intro rest c c' hrest hc
  have hskip := hc.skip (Cursor.length_digits_le c)
  have hpoint := hskip.atAny_eq hrest ['.'] (by decide)
  have hexponent := hskip.atAny_eq hrest ['e', 'E'] (by decide)
  unfold scanNumber
  rw [hc.digits_eq hrest, hc]
  rcases hx : c.rest with _ | ⟨x, xs⟩
  · exact extends_error _ _
  · have hnext := (hc.next (by simp [hx])).atDigit_eq hrest
    rw [List.cons_append]
    dsimp only
    rw [hnext, hpoint, hexponent]
    refine .ite (fun _ ↦ extends_error _ _) (.ite (fun _ ↦ extends_error _ _)
      (.ite (fun hany ↦ ?_) (.ite (fun _ ↦ ?_) (extends_ok _ hskip))))
    · exact local_scanFraction positive _ _ hrest (hskip.next (Cursor.ne_nil_of_atAny hany))
    · exact local_scanFloatTail positive _ _ hrest hskip

/-- A number as a text, with a sign or without. -/
inductive NumberText : Number → List Char → Prop
  | plain {n : Number} {text : List Char} {q : Position} :
      scanNumber true (.start text) = .ok (n, ⟨q, []⟩) → NumberText n text
  | minus {n : Number} {text : List Char} {q : Position} :
      scanNumber false (.start text) = .ok (n, ⟨q, []⟩) → NumberText n ('-' :: text)

theorem exists_scanNumber_of_start {positive : Bool} {n : Number} {q : Position}
    (h : scanNumber positive (.start text) = .ok (n, ⟨q, []⟩)) (hrest : Ends rest) (p : Position) :
    ∃ q, scanNumber positive ⟨p, text ++ rest⟩ = .ok (n, ⟨q, rest⟩) := by
  have hbefore : (Cursor.start text).Before rest ⟨p, text ++ rest⟩ := rfl
  rcases local_scanNumber positive hrest hbefore n _ h with ⟨⟨q', left⟩, hscan, hleft⟩
  obtain rfl : left = [] ++ rest := hleft
  exact ⟨q', hscan⟩

theorem exists_isDigit_of_scanNumber {positive : Bool} {r : Number × Cursor}
    (h : scanNumber positive (.start text) = .ok r) :
    ∃ x more, text = x :: more ∧ x.isDigit = true := by
  unfold scanNumber at h
  rcases text with _ | ⟨x, more⟩
  · cases h
  · refine ⟨x, more, rfl, ?_⟩
    by_contra hx
    rw [Bool.not_eq_true] at hx
    rw [Cursor.start] at h
    dsimp only at h
    rw [hx] at h
    cases h

/-! ## Brackets

The blanks and commas between the parts of a bracket are the same for items and members, and for
values of all kinds. `Parts` holds this much of the grammar and takes the relation of a part as an
argument, so an array and an object are one inductive type at two instances. -/

/-- The parts of a bracket, each after what leads to it. `W` says what writes a part. -/
inductive Parts (W : α → List Char → Prop) : Bool → List α → List Char → Prop
  | nil {first : Bool} {blanks : List Char} : Blanks blanks → Parts W first [] blanks
  | cons {first : Bool} {lead : List Char} {a : α} {text : List Char} {parts : List α}
      {more : List Char} : Lead first lead → W a text → Parts W false parts more →
      Parts W first (a :: parts) (lead ++ (text ++ more))

/-- A member of an object. `W` says what writes its value. -/
inductive MemberText (W : Value → List Char → Prop) : String × Value → List Char → Prop
  | intro {key : String} {v : Value} {literal before after text : List Char} :
      Literal key.toList literal → Blanks before → Blanks after → W v text →
      MemberText W (key, v) ('\x22' :: (literal ++ '\x22' :: (before ++ ':' :: (after ++ text))))

/-- The text writes the value, with all members that it gives. -/
inductive Writes : Value → List Char → Prop
  | null : Writes .null ['n', 'u', 'l', 'l']
  | bool (b : Bool) : Writes (.bool b) (boolText b)
  | number {n : Number} {text : List Char} : NumberText n text → Writes (.number n) text
  | string {s : String} {literal : List Char} : Literal s.toList literal →
      Writes (.string s) ('\x22' :: (literal ++ ['\x22']))
  | array {items : List Value} {inner : List Char} : Parts Writes true items inner →
      Writes (.array items) ('[' :: (inner ++ [']']))
  | object {members : Members} {inner : List Char} :
      Parts (MemberText Writes) true members inner →
      Writes (.object members) ('\x7b' :: (inner ++ ['\x7d']))

/-! ## What is read -/

mutual

/-- The value as it is read: in each object a key that is repeated keeps its first place and has its
last value. -/
def Value.collapsed : Value → Value
  | .array items => .array (collapsedItems items)
  | .object members => .object (Members.ofList (collapsedMembers members))
  | .null => .null
  | .bool b => .bool b
  | .number n => .number n
  | .string s => .string s

def collapsedItems : List Value → List Value
  | [] => []
  | v :: rest => v.collapsed :: collapsedItems rest

def collapsedMembers : List (String × Value) → List (String × Value)
  | [] => []
  | (key, v) :: rest => (key, v.collapsed) :: collapsedMembers rest

end

theorem collapsedItems_eq_map (items : List Value) :
    collapsedItems items = items.map Value.collapsed := by
  induction items with
  | nil => rfl
  | cons v items ih => rw [collapsedItems, ih, List.map_cons]

theorem collapsedMembers_eq_map (members : Members) :
    collapsedMembers members = members.map fun m ↦ (m.1, m.2.collapsed) := by
  induction members with
  | nil => rfl
  | cons m members ih => rw [collapsedMembers, ih, List.map_cons]

/-- The brackets of the value are nested no deeper than this. -/
def Value.FitsIn : ℕ → Value → Prop
  | 0, .array _ => False
  | 0, .object _ => False
  | depth + 1, .array items => ∀ v ∈ items, v.FitsIn depth
  | depth + 1, .object members => ∀ m ∈ members, m.2.FitsIn depth
  | _, _ => True

/-! ## Outcomes

A text with brackets that are nested too deep is refused at the first bracket that goes too far, and
everything before it is read as usual. Shown apart, the two cases would be the same induction twice,
once with a value at the end and once with a complaint. -/

/-- The result is the value if the condition holds, and a complaint if it does not. -/
def Outcome (fits : Prop) (r : Except Complaint (α × Cursor)) (a : α) (rest : List Char) : Prop :=
  (fits → ∃ q, r = .ok (a, ⟨q, rest⟩)) ∧ (¬fits → ∃ e, r = .error e)

namespace Outcome

variable {fits fits' : Prop} {r : Except Complaint (α × Cursor)} {a : α} {b : β}
  {rest' : List Char}

theorem of_ok (hfits : fits) (h : ∃ q, r = .ok (a, ⟨q, rest⟩)) : Outcome fits r a rest :=
  ⟨fun _ ↦ h, fun hnot ↦ absurd hfits hnot⟩

theorem of_error (hfits : ¬fits) (h : ∃ e, r = .error e) : Outcome fits r a rest :=
  ⟨fun hfit ↦ absurd hfit hfits, fun _ ↦ h⟩

/-- Of two steps both must go well. -/
theorem bind {f : α × Cursor → Except Complaint (β × Cursor)} (h : Outcome fits r a rest)
    (h' : ∀ q, Outcome fits' (f (a, ⟨q, rest⟩)) b rest') :
    Outcome (fits ∧ fits') (r >>= f) b rest' := by
  by_cases hfits : fits
  · rcases h.1 hfits with ⟨q, rfl⟩
    rw [ok_bind, and_iff_right hfits]
    exact h' q
  · rcases h.2 hfits with ⟨e, rfl⟩
    exact of_error (fun hboth ↦ hfits hboth.1) ⟨e, rfl⟩

/-- After a step that cannot fail the condition is that of the step before. -/
theorem bind_ok {f : α × Cursor → Except Complaint (β × Cursor)} (h : Outcome fits r a rest)
    (hf : ∀ q, f (a, ⟨q, rest⟩) = .ok (b, ⟨q, rest'⟩)) : Outcome fits (r >>= f) b rest' := by
  have hboth := h.bind fun q ↦ of_ok trivial ⟨q, hf q⟩
  rwa [and_true] at hboth

end Outcome

/-! ## Reading brackets -/

/-- The scanner reads what a text writes, if its brackets are nested no deeper than this. -/
def Scan.Judges (scan : Scan Value) (depth : ℕ) : Prop :=
  ∀ {v text blanks rest}, Writes v text → Blanks blanks → Ends rest → ∀ p,
    Outcome (v.FitsIn depth) (scan ⟨p, blanks ++ (text ++ rest)⟩) v.collapsed rest

theorem NumberText.opens {n : Number} (h : NumberText n text) : Opens (.number n) text := by
  rcases h with h | h
  · rcases exists_isDigit_of_scanNumber h with ⟨x, more, rfl, hx⟩
    exact opens_of_isDigit hx
  · exact opens_of_ne rfl (by decide) (by decide)

theorem Writes.opens {v : Value} (h : Writes v text) : Opens v text := by
  rcases h with _ | b | hnumber | _ | _ | _
  · exact .intro rfl (by decide) fun _ ↦ rfl
  · rcases b with _ | _ <;> exact opens_of_ne rfl (by decide) (by decide)
  · exact hnumber.opens
  all_goals exact opens_of_ne rfl (by decide) (by decide)

theorem Lead.ends_append {lead : List Char} (h : Lead false lead) (rest : List Char) :
    Ends (lead ++ rest) := by
  rcases h with _ | ⟨hbefore, -⟩
  rw [List.append_assoc, List.cons_append]
  exact hbefore.ends_append (ends_cons (by simp))

/-- After a part comes a comma or the end of the bracket. -/
theorem Parts.ends {W : α → List Char → Prop} {parts : List α} (h : Parts W false parts text)
    {close : Char} (hclose : close = ']' ∨ close = '\x7d') (rest : List Char) :
    Ends (text ++ close :: rest) := by
  rcases h with hblanks | ⟨hlead, -, -⟩
  · exact hblanks.ends_append (ends_cons (.inr (.inr hclose)))
  · rw [List.append_assoc]
    exact hlead.ends_append _

/-- There are no more parts than characters, since a comma stands before each but the first. -/
theorem Parts.length_le {W : α → List Char → Prop} {first : Bool} {parts : List α}
    (h : Parts W first parts text) : parts.length ≤ text.length + first.toNat := by
  induction h with
  | nil _ => exact Nat.zero_le _
  | @cons first lead a text parts more hlead _ _ ih =>
    rcases hlead with _ | _
    all_goals
      simp only [List.length_cons, List.length_append, Bool.toNat_true, Bool.toNat_false] at ih ⊢
      omega

theorem outcome_scanItems {item : Scan Value} {depth : ℕ} (hitem : item.Judges depth) {first : Bool}
    {items : List Value} {inner : List Char} (h : Parts Writes first items inner) {steps : ℕ}
    (hsteps : items.length < steps) (p : Position) (rest : List Char) :
    Outcome (∀ v ∈ items, v.FitsIn depth) (scanItems item steps first ⟨p, inner ++ ']' :: rest⟩)
      (collapsedItems items) rest := by
  induction h generalizing steps p with
  | @nil first blanks hblanks =>
    rcases Nat.exists_eq_add_one.mpr hsteps with ⟨n, rfl⟩
    rcases exists_moreItems_end first hblanks p rest with ⟨q, hmore⟩
    refine .of_ok (List.forall_mem_nil _) ⟨q.after ']', ?_⟩
    rw [scanItems]
    simp only [hmore, ok_bind]
    rfl
  | @cons first lead v text items more hlead hv hmore ih =>
    rcases Nat.exists_eq_add_one.mpr (Nat.zero_lt_of_lt hsteps) with ⟨n, rfl⟩
    rcases exists_moreItems_lead hlead hv.opens p (more ++ ']' :: rest) with ⟨q, hq⟩
    have hfirst := hitem hv blanks_nil (hmore.ends (.inl rfl) rest) q
    rw [List.forall_mem_cons, List.append_assoc, List.append_assoc, scanItems]
    simp only [hq, ok_bind, if_true]
    refine hfirst.bind fun q' ↦ ?_
    exact (ih (Nat.lt_of_succ_lt_succ hsteps) q').bind_ok fun _ ↦ rfl

theorem Literal.exists_scanText {s : String} {literal : List Char} (h : Literal s.toList literal)
    (p : Position) (rest : List Char) :
    ∃ q, scanText ⟨p, literal ++ '\x22' :: rest⟩ = .ok (s, ⟨q, rest⟩) := by
  rcases h.exists_scanString [] p rest with ⟨q, hscan⟩
  refine ⟨q, ?_⟩
  rw [scanText, hscan, List.reverse_nil, List.nil_append]
  simp only [String.ofList_toList]

/-- The value of a member is read after its key, and the member is put to those before it. -/
theorem outcome_scanMember {item : Scan Value} {depth : ℕ} (hitem : item.Judges depth) {v : Value}
    {before after : List Char} (hbefore : Blanks before) (hafter : Blanks after)
    (hv : Writes v text) (hrest : Ends rest) (key : String) (found : Members) (p : Position) :
    Outcome (v.FitsIn depth)
      (scanMember item key found ⟨p, before ++ ':' :: (after ++ (text ++ rest))⟩)
      (found.insert key v.collapsed) rest := by
  rcases exists_scanColon hbefore p (after ++ (text ++ rest)) with ⟨q, hcolon⟩
  rw [scanMember, hcolon, ok_bind]
  exact (hitem hv hafter hrest q).bind_ok fun _ ↦ rfl

theorem outcome_scanMembers {item : Scan Value} {depth : ℕ} (hitem : item.Judges depth)
    {first : Bool} {members : Members} {inner : List Char}
    (h : Parts (MemberText Writes) first members inner) (found : Members) {steps : ℕ}
    (hsteps : members.length < steps) (p : Position) (rest : List Char) :
    Outcome (∀ m ∈ members, m.2.FitsIn depth)
      (scanMembers (scanMember item) steps first found ⟨p, inner ++ '\x7d' :: rest⟩)
      ((collapsedMembers members).foldl (fun found m ↦ found.insert m.1 m.2) found) rest := by
  induction h generalizing found steps p with
  | @nil first blanks hblanks =>
    rcases Nat.exists_eq_add_one.mpr hsteps with ⟨n, rfl⟩
    rcases exists_moreMembers_end first hblanks p rest with ⟨q, hmore⟩
    refine .of_ok (List.forall_mem_nil _) ⟨q.after '\x7d', ?_⟩
    rw [scanMembers]
    simp only [hmore, ok_bind]
    rfl
  | @cons first lead m text members more hlead hm hmore ih =>
    rcases Nat.exists_eq_add_one.mpr (Nat.zero_lt_of_lt hsteps) with ⟨n, rfl⟩
    rcases hm with @⟨key, v, literal, before, after, text, hliteral, hbefore, hafter, hv⟩
    rcases exists_moreMembers_quote hlead p (literal ++ '\x22' ::
      (before ++ ':' :: (after ++ (text ++ (more ++ '\x7d' :: rest))))) with ⟨q, hq⟩
    rcases hliteral.exists_scanText q
      (before ++ ':' :: (after ++ (text ++ (more ++ '\x7d' :: rest)))) with ⟨q', hkey⟩
    have hmember :=
      outcome_scanMember hitem hbefore hafter hv (hmore.ends (.inr rfl) rest) key found
    rw [List.forall_mem_cons, collapsedMembers, List.foldl_cons, scanMembers]
    simp only [List.append_assoc, List.cons_append, hq, ok_bind, if_true, hkey]
    exact (hmember q').bind fun q'' ↦ ih _ (Nat.lt_of_succ_lt_succ hsteps) q''

/-! ## Reading values -/

theorem scanFound_of_isDigit {x : Char} (hx : x.isDigit = true) (q : Position) (more : List Char) :
    scanFound ⟨q, x :: more⟩ =
      (scanNumber true ⟨q, x :: more⟩).map fun (n, c) ↦ (.number n, c) := by
  have hne {y : Char} (hy : y.isDigit = false) : x ≠ y := by
    rintro rfl
    rw [hx] at hy
    cases hy
  unfold scanFound
  dsimp only
  rw [if_neg (hne rfl), if_neg (hne rfl), if_neg (hne rfl), if_neg (hne rfl), if_pos hx]

/-- What is written without brackets is found. -/
theorem Writes.exists_scanFound {v : Value} (h : Writes v text) (hv : v.FitsIn 0)
    (hrest : Ends rest) (q : Position) :
    ∃ q', scanFound ⟨q, text ++ rest⟩ = .ok (v.found, ⟨q', rest⟩) := by
  rcases h with _ | b | (hscan | hscan) | hliteral | _ | _
  · exact ⟨_, rfl⟩
  · rcases b with _ | _
    · exact ⟨_, rfl⟩
    · exact ⟨_, rfl⟩
  · rcases exists_isDigit_of_scanNumber hscan with ⟨x, more, rfl, hx⟩
    rcases exists_scanNumber_of_start hscan hrest q with ⟨q', hnumber⟩
    refine ⟨q', ?_⟩
    rw [List.cons_append] at hnumber ⊢
    rw [scanFound_of_isDigit hx, hnumber]
    rfl
  · rcases exists_scanNumber_of_start hscan hrest (q.after '-') with ⟨q', hnumber⟩
    refine ⟨q', ?_⟩
    change (scanNumber false ⟨q.after '-', _ ++ rest⟩).map _ = _
    rw [hnumber]
    rfl
  · rcases hliteral.exists_scanText (q.after '\x22') rest with ⟨q', htext⟩
    refine ⟨q', ?_⟩
    change (scanText ⟨q.after '\x22', _ ++ ['\x22'] ++ rest⟩).map _ = _
    rw [List.append_assoc, List.singleton_append, htext]
    rfl
  · exact absurd hv id
  · exact absurd hv id

theorem Value.collapsed_of_scalar {v : Value} (hv : v.FitsIn 0) : v.collapsed = v := by
  rcases v with _ | _ | _ | _ | _ | _
  case array => exact absurd hv id
  case object => exact absurd hv id
  all_goals rfl

theorem Value.fitsIn_of_scalar {v : Value} (hv : v.FitsIn 0) (depth : ℕ) : v.FitsIn depth := by
  rcases v with _ | _ | _ | _ | _ | _
  case array => exact absurd hv id
  case object => exact absurd hv id
  all_goals rcases depth with _ | _ <;> trivial

/-- A value without brackets is read whatever becomes of brackets. -/
theorem Writes.exists_scanValue {v : Value} (h : Writes v text) (hv : v.FitsIn 0)
    {blanks : List Char} (hblanks : Blanks blanks) (hrest : Ends rest)
    (inner : Option (Scan Value)) (p : Position) :
    ∃ q, scanValue inner ⟨p, blanks ++ (text ++ rest)⟩ = .ok (v.collapsed, ⟨q, rest⟩) := by
  rcases exists_skipSpace p hblanks (h.opens.begins rest) with ⟨q, hskip⟩
  rcases h.exists_scanFound hv hrest q with ⟨q', hfound⟩
  refine ⟨q', ?_⟩
  rcases h.opens with ⟨-, -, -⟩
  rw [v.collapsed_of_scalar hv, scanValue, hskip, List.cons_append] at *
  simp only [hfound, ok_bind]
  rcases v with _ | _ | _ | _ | _ | _
  case array => exact absurd hv id
  case object => exact absurd hv id
  all_goals rfl

/-- What a bracket comes to where none may be opened. -/
theorem exists_error_scanValue {x : Char} (hx : x = '[' ∨ x = '\x7b') {blanks : List Char}
    (hblanks : Blanks blanks) (p : Position) (more : List Char) :
    ∃ e, scanValue none ⟨p, blanks ++ x :: more⟩ = .error e := by
  rcases hx with rfl | rfl
  · rcases exists_skipSpace_cons p hblanks '[' more rfl with ⟨q, hskip⟩
    refine ⟨Fault.tooDeep.located (Cursor.mk q ('[' :: more)).peeked, ?_⟩
    rw [scanValue, hskip]
    rfl
  · rcases exists_skipSpace_cons p hblanks '\x7b' more rfl with ⟨q, hskip⟩
    refine ⟨Fault.tooDeep.located (Cursor.mk q ('\x7b' :: more)).peeked, ?_⟩
    rw [scanValue, hskip]
    rfl

theorem outcome_scanValue_array {item : Scan Value} {depth : ℕ} (hitem : item.Judges depth)
    {items : List Value} {inner blanks : List Char} (h : Parts Writes true items inner)
    (hblanks : Blanks blanks) (p : Position) (rest : List Char) :
    Outcome (∀ v ∈ items, v.FitsIn depth)
      (scanValue (some item) ⟨p, blanks ++ ('[' :: (inner ++ [']']) ++ rest)⟩)
      (Value.collapsed (.array items)) rest := by
  have hsteps : items.length < ('[' :: (inner ++ ']' :: rest)).length := by
    have hlength := h.length_le
    simp only [List.length_append, List.length_cons, Bool.toNat_true] at hlength ⊢
    omega
  rcases exists_skipSpace_cons p hblanks '[' (inner ++ ']' :: rest) rfl with ⟨q, hskip⟩
  rw [List.cons_append, List.append_assoc, List.singleton_append, scanValue, hskip]
  exact (outcome_scanItems hitem h hsteps (q.after '[') rest).bind_ok fun _ ↦ rfl

theorem outcome_scanValue_object {item : Scan Value} {depth : ℕ} (hitem : item.Judges depth)
    {members : Members} {inner blanks : List Char}
    (h : Parts (MemberText Writes) true members inner) (hblanks : Blanks blanks)
    (p : Position) (rest : List Char) :
    Outcome (∀ m ∈ members, m.2.FitsIn depth)
      (scanValue (some item) ⟨p, blanks ++ ('\x7b' :: (inner ++ ['\x7d']) ++ rest)⟩)
      (Value.collapsed (.object members)) rest := by
  have hsteps : members.length < ('\x7b' :: (inner ++ '\x7d' :: rest)).length := by
    have hlength := h.length_le
    simp only [List.length_append, List.length_cons, Bool.toNat_true] at hlength ⊢
    omega
  rcases exists_skipSpace_cons p hblanks '\x7b' (inner ++ '\x7d' :: rest) rfl with ⟨q, hskip⟩
  rw [List.cons_append, List.append_assoc, List.singleton_append, scanValue, hskip]
  exact (outcome_scanMembers hitem h [] hsteps (q.after '\x7b') rest).bind_ok fun _ ↦ rfl

theorem judges_scanAny (depth : ℕ) : (scanAny depth).Judges depth := by
  induction depth with
  | zero =>
    intro v text blanks rest h hblanks hrest p
    by_cases hv : v.FitsIn 0
    · exact .of_ok hv (h.exists_scanValue hv hblanks hrest none p)
    · refine .of_error hv ?_
      rcases h with _ | _ | _ | _ | _ | _
      case array => exact exists_error_scanValue (.inl rfl) hblanks p _
      case object => exact exists_error_scanValue (.inr rfl) hblanks p _
      all_goals exact absurd trivial hv
  | succ depth ih =>
    intro v text blanks rest h hblanks hrest p
    by_cases hv : v.FitsIn 0
    · exact .of_ok (v.fitsIn_of_scalar hv _) (h.exists_scanValue hv hblanks hrest _ p)
    · rcases h with _ | _ | _ | _ | hitems | hmembers
      case array => exact outcome_scanValue_array ih hitems hblanks p rest
      case object => exact outcome_scanValue_object ih hmembers hblanks p rest
      all_goals exact absurd trivial hv

/-- The text writes the value and nothing else. Blanks may stand around it. -/
inductive TextOf (v : Value) : List Char → Prop
  | intro {before text after : List Char} : Blanks before → Blanks after → Writes v text →
      TextOf v (before ++ (text ++ after))

/-- **A text is read as what it writes.** In each object a repeated key keeps its first place and
has its last value. Only if its brackets are nested too deep the text is refused. -/
theorem parse_of_textOf {v : Value} (h : TextOf v text) :
    (v.FitsIn maxDepth → parse text = .ok v.collapsed) ∧
      (¬v.FitsIn maxDepth → ∃ e, parse text = .error e) := by
  rcases h with @⟨before, text, after, hbefore, hafter, hwrites⟩
  have hends : Ends after := by
    have hends := hafter.ends_append ends_nil
    rwa [List.append_nil] at hends
  rcases judges_scanAny maxDepth hwrites hbefore hends .start with ⟨hok, herror⟩
  rw [parse, Schema.parse, Cursor.start, Schema.read]
  constructor
  · intro hfits
    rcases hok hfits with ⟨q, hread⟩
    rcases exists_skipSpace q hafter begins_nil with ⟨q', hskip⟩
    rw [List.append_nil] at hskip
    rw [hread, ok_bind]
    simp only [hskip]
  · intro hfits
    rcases herror hfits with ⟨e, hread⟩
    rw [hread]
    exact ⟨e, rfl⟩

/-! ## What is printed

The grammar is wider than what the printer writes, and it contains it: a text that spells a value
writes it. So a theorem about all texts that write a page holds of those that this library prints.
-/

mutual

/-- The numbers in a value. -/
def Value.numbers : Value → List Number
  | .number n => [n]
  | .array items => itemsNumbers items
  | .object members => membersNumbers members
  | _ => []

def itemsNumbers : List Value → List Number
  | [] => []
  | v :: rest => v.numbers ++ itemsNumbers rest

def membersNumbers : List (String × Value) → List Number
  | [] => []
  | (_, v) :: rest => v.numbers ++ membersNumbers rest

end

theorem literal_escape (cs : List Char) : Literal cs (cs.flatMap escapeChar) := by
  induction cs with
  | nil => exact .nil
  | cons c cs ih =>
    rw [List.flatMap_cons]
    rcases escapeChar_cases c with ⟨e, hsimple, hescape⟩ | ⟨hcontrol, hescape⟩ |
      ⟨⟨hquote, hbackslash, hcontrol⟩, hescape⟩
    · rw [hescape]
      exact .short hsimple ih
    · have hcode := Literal.code (hexQuad?_code (Nat.lt_trans hcontrol (by decide)))
        (by omega) ih
      rw [Char.ofNat_toNat] at hcode
      rwa [hescape]
    · rw [hescape]
      exact .plain hquote hbackslash hcontrol ih

mutual

/-- A text that spells a value writes it, if it does so for the numbers in it. -/
theorem Spells.writes : ∀ {v : Value} {text : List Char}, Spells v text →
    (∀ n ∈ v.numbers, NumberText n n.text) → Writes v text
  | _, _, .null, _ => .null
  | _, _, .bool b, _ => .bool b
  | _, _, .number n, h => .number (h n List.mem_cons_self)
  | _, _, .string s, _ => .string (literal_escape s.toList)
  | _, _, .array hitems, h => .array (hitems.parts h)
  | _, _, .object hmembers, h => .object (hmembers.parts h)

theorem SpellsItems.parts : ∀ {first : Bool} {items : List Value} {text : List Char},
    SpellsItems first items text → (∀ n ∈ itemsNumbers items, NumberText n n.text) →
      Parts Writes first items text
  | _, _, _, .nil hblanks, _ => .nil hblanks
  | _, _, _, .cons hlead hv hitems, h =>
    have hboth := List.forall_mem_append.mp h
    .cons hlead (hv.writes hboth.1) (hitems.parts hboth.2)

theorem SpellsMembers.parts : ∀ {first : Bool} {members : List (String × Value)}
    {text : List Char}, SpellsMembers first members text →
      (∀ n ∈ membersNumbers members, NumberText n n.text) →
        Parts (MemberText Writes) first members text
  | _, _, _, .nil hblanks, _ => .nil hblanks
  | _, _, _, .cons key hlead hbefore hafter hv hmembers, h => by
    have hboth := List.forall_mem_append.mp h
    have hparts := Parts.cons hlead
      (.intro (literal_escape key.toList) hbefore hafter (hv.writes hboth.1))
      (hmembers.parts hboth.2)
    simpa [quote] using hparts

end

end NewsWire.Json
