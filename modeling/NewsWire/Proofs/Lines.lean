import Mathlib.Data.List.DropRight
import NewsWire.Text.Blank

/-!
# Joining lines in one pass

`joinLines` cuts a text into lines and trims each of them. The same is done in one pass from left to
right, which decides for every character by itself whether it stays: a line feed never does, and a
blank does unless there are only blanks before it or only blanks after it in its line
(`joinLines_eq`).

So joining leaves out blanks and nothing else (`joinLinesFrom_append`), and within a line it keeps
all that stands before a character that is not blank (`joinLinesFrom_line`).

The pass is for proofs about a text whose parts do not end where its lines end. Cutting at line
feeds looks at the text as a whole, while the pass is given a part with what comes after it and one
bit about what has come before.
-/

namespace NewsWire.Text

/-! ## Trimming character by character -/

theorem trimEnd_of_blank {cs : List Char} (h : cs.all isBlank = true) : trimEnd cs = [] := by
  change cs.rdropWhile isBlank = []
  rwa [List.rdropWhile_eq_nil_iff, ← List.all_eq_true]

theorem trimEnd_cons {c : Char} {cs : List Char} (h : (c :: cs).all isBlank = false) :
    trimEnd (c :: cs) = c :: trimEnd cs := by
  rw [trimEnd, trimEnd, List.reverse_cons, List.dropWhile_append]
  by_cases hcs : (cs.reverse.dropWhile isBlank).isEmpty
  · -- All of `cs` is blank, so `c` is not.
    have hall : cs.all isBlank = true := by simpa using hcs
    have hc : isBlank c = false := by simpa [hall] using h
    rw [if_pos hcs, List.isEmpty_iff.mp hcs, List.dropWhile_cons_of_neg (by simp [hc])]
    rfl
  · rw [if_neg hcs, List.reverse_append]
    rfl

theorem trim_cons_of_blank {c : Char} {cs : List Char} (h : isBlank c = true) :
    trim (c :: cs) = trim cs := by
  rw [trim, trim, trimStart, trimStart, List.dropWhile_cons_of_pos h]

theorem trim_cons {c : Char} {cs : List Char} (h : isBlank c = false) :
    trim (c :: cs) = c :: trimEnd cs := by
  rw [trim, trimStart, List.dropWhile_cons_of_neg (by simp [h]), trimEnd_cons (by simp [h])]

/-! ## The pass -/

def endsLine (cs : List Char) : Bool := (cs.takeWhile (· != '\n')).all isBlank

/-- Join lines in one pass; `fresh` says that nothing of the line has been kept yet. -/
def joinLinesFrom (fresh : Bool) : List Char → List Char
  | [] => []
  | c :: cs =>
    if c = '\n' then joinLinesFrom true cs
    else if isBlank c && (fresh || endsLine cs) then joinLinesFrom fresh cs
    else c :: joinLinesFrom false cs

theorem headD_splitLines (cs : List Char) :
    (splitLines cs).headD [] = cs.takeWhile (· != '\n') := by
  induction cs with
  | nil => rfl
  | cons c cs ih =>
    by_cases hc : c = '\n'
    · rw [splitLines, pieces_cons_sep cs (by simp [hc])]
      simp [hc]
    · rw [splitLines, pieces_cons cs (by simp [hc]), List.headD_cons, ← splitLines, ih,
        List.takeWhile_cons_of_pos (by simp [hc])]

/-- The lines of a text with more of its first line before it. -/
def linesAfter (first : List Char → List Char) (cs : List Char) : List Char :=
  first ((splitLines cs).headD []) ++ (splitLines cs).tail.flatMap trim

theorem joinLines_eq_linesAfter (cs : List Char) : joinLines cs = linesAfter trim cs := by
  rw [joinLines, linesAfter]
  cases h : splitLines cs with
  | nil => exact absurd h (pieces_ne_nil _ cs)
  | cons line lines => rfl

theorem linesAfter_feed {first : List Char → List Char} (h : first [] = []) (cs : List Char) :
    linesAfter first ('\n' :: cs) = joinLines cs := by
  rw [linesAfter, splitLines, pieces_cons_sep cs rfl, List.headD_cons, h]
  rfl

theorem linesAfter_cons {c : Char} (first : List Char → List Char) (cs : List Char)
    (hc : c ≠ '\n') :
    linesAfter first (c :: cs) =
      first (c :: cs.takeWhile (· != '\n')) ++ (splitLines cs).tail.flatMap trim := by
  rw [linesAfter, splitLines, pieces_cons cs (by simp [hc]), List.headD_cons, List.tail_cons,
    ← splitLines, headD_splitLines]

/-- The pass trims the first line at both ends if it is fresh, and at its end if it is not. -/
theorem joinLinesFrom_eq (fresh : Bool) (cs : List Char) :
    joinLinesFrom fresh cs = linesAfter (if fresh then trim else trimEnd) cs := by
  induction cs generalizing fresh with
  | nil => cases fresh <;> rfl
  | cons c cs ih =>
    rw [joinLinesFrom]
    by_cases hfeed : c = '\n'
    · rw [if_pos hfeed, ih, hfeed, linesAfter_feed (by cases fresh <;> rfl),
        joinLines_eq_linesAfter]
      rfl
    · have hfirst : ∀ first : List Char → List Char,
          first (cs.takeWhile (· != '\n')) ++ (splitLines cs).tail.flatMap trim =
            linesAfter first cs := fun first ↦ by rw [linesAfter, headD_splitLines]
      rw [if_neg hfeed, linesAfter_cons _ _ hfeed]
      cases hblank : isBlank c with
      | false =>
        have hkeep : (c :: cs.takeWhile (· != '\n')).all isBlank = false := by
          rw [List.all_cons, hblank, Bool.false_and]
        rw [Bool.false_and, if_neg Bool.false_ne_true, ih, if_neg Bool.false_ne_true]
        cases fresh with
        | true => rw [if_pos rfl, trim_cons hblank, List.cons_append, hfirst]
        | false => rw [if_neg Bool.false_ne_true, trimEnd_cons hkeep, List.cons_append, hfirst]
      | true =>
        -- A blank stays only in a line that has begun and does not end here.
        have hends : (c :: cs.takeWhile (· != '\n')).all isBlank = endsLine cs := by
          rw [List.all_cons, hblank, Bool.true_and, endsLine]
        rw [Bool.true_and, ih, ih]
        cases fresh with
        | true =>
          rw [Bool.true_or, if_pos rfl, if_pos rfl, trim_cons_of_blank hblank, hfirst]
        | false =>
          rw [Bool.false_or, if_neg Bool.false_ne_true]
          by_cases h : endsLine cs = true
          · -- The rest of the line is blank too, and all of it goes.
            rw [if_pos h, trimEnd_of_blank (hends.trans h), ← hfirst, trimEnd_of_blank h]
          · rw [if_neg h, trimEnd_cons (hends.trans (Bool.eq_false_iff.mpr h)), List.cons_append,
              hfirst]

theorem joinLines_eq (cs : List Char) : joinLines cs = joinLinesFrom true cs := by
  rw [joinLinesFrom_eq, joinLines_eq_linesAfter, if_pos rfl]

/-! ## Parts of a text

A text is put together from marks that have no blanks and parts that may have some. The lemmas say
what joining does to such a part between two marks, whatever stands further away. -/

/-- The characters of a text that are not blank. -/
def ink (cs : List Char) : List Char := cs.filter fun c ↦ !isBlank c

theorem ink_append (cs ds : List Char) : ink (cs ++ ds) = ink cs ++ ink ds :=
  List.filter_append cs ds

theorem mem_ink {c : Char} {cs : List Char} (h : isBlank c = false) : c ∈ ink cs ↔ c ∈ cs := by
  rw [ink, List.mem_filter, h, Bool.not_false]
  exact and_iff_left rfl

theorem ink_eq_nil_iff {cs : List Char} : ink cs = [] ↔ ∀ c ∈ cs, isBlank c = true := by
  rw [ink, List.filter_eq_nil_iff]
  simp only [Bool.not_eq_true', Bool.not_eq_false]

/-- What joining does to a part of a text is to leave blanks of it out. -/
theorem joinLinesFrom_append (fresh : Bool) (part rest : List Char) :
    ∃ kept fresh', ink kept = ink part ∧
      joinLinesFrom fresh (part ++ rest) = kept ++ joinLinesFrom fresh' rest := by
  induction part generalizing fresh with
  | nil => exact ⟨[], fresh, rfl, rfl⟩
  | cons c part ih =>
    rw [List.cons_append, joinLinesFrom]
    split
    · next hc =>
      obtain ⟨kept, fresh', hink, heq⟩ := ih true
      refine ⟨kept, fresh', ?_, heq⟩
      rw [hink, ink, ink, List.filter_cons_of_neg (by simp [hc, show isBlank '\n' = true from rfl])]
    · split
      · next hc =>
        obtain ⟨kept, fresh', hink, heq⟩ := ih fresh
        refine ⟨kept, fresh', ?_, heq⟩
        rw [Bool.and_eq_true] at hc
        rw [hink, ink, ink, List.filter_cons_of_neg (by simp [hc.1])]
      · obtain ⟨kept, fresh', hink, heq⟩ := ih false
        refine ⟨c :: kept, fresh', ?_, by rw [heq, List.cons_append]⟩
        simp only [ink, List.filter_cons] at hink ⊢
        rw [hink]

abbrev Solid (part : List Char) : Prop := part ≠ [] ∧ ∀ c ∈ part, isBlank c = false

theorem solid_of_any {part : List Char} (hne : part ≠ []) (h : part.any isBlank = false) :
    Solid part := ⟨hne, eq_false_of_any h⟩

theorem joinLinesFrom_solid {part : List Char} (h : Solid part) (fresh : Bool) (rest : List Char) :
    joinLinesFrom fresh (part ++ rest) = part ++ joinLinesFrom false rest := by
  obtain ⟨hne, hsolid⟩ := h
  induction part generalizing fresh with
  | nil => exact absurd rfl hne
  | cons c part ih =>
    rw [List.forall_mem_cons] at hsolid
    have hc : c ≠ '\n' := by
      rintro rfl
      cases hsolid.1
    rw [List.cons_append, joinLinesFrom, if_neg hc, hsolid.1, Bool.false_and,
      if_neg Bool.false_ne_true, List.cons_append]
    cases part with
    | nil => rfl
    | cons d part => rw [ih false (List.cons_ne_nil d part) hsolid.2]

/-- A line does not end before something that is not blank. -/
theorem endsLine_solid {part : List Char} (h : Solid part) (rest : List Char) :
    endsLine (part ++ rest) = false := by
  obtain ⟨hne, hsolid⟩ := h
  obtain ⟨c, part, rfl⟩ := List.exists_cons_of_ne_nil hne
  have hblank := hsolid c List.mem_cons_self
  have hc : c ≠ '\n' := by
    rintro rfl
    cases hblank
  rw [List.cons_append, endsLine, List.takeWhile_cons_of_pos (by simp [hc]), List.all_cons, hblank,
    Bool.false_and]

theorem endsLine_append {part rest : List Char} (hfeed : '\n' ∉ part)
    (hends : endsLine rest = false) : endsLine (part ++ rest) = false := by
  have hpart : ∀ x ∈ part, (x != '\n') = true := by
    intro x hx
    rw [bne_iff_ne]
    rintro rfl
    exact hfeed hx
  rw [endsLine] at hends ⊢
  rw [List.takeWhile_append_of_pos hpart, List.all_append, hends, Bool.and_false]

theorem endsLine_append_of_left {part : List Char} (hends : endsLine part = false)
    (rest : List Char) : endsLine (part ++ rest) = false := by
  rw [endsLine] at hends ⊢
  rw [List.takeWhile_append]
  split
  · next hlength =>
    have hpart := (List.takeWhile_sublist _).eq_of_length hlength
    rw [hpart] at hends
    rw [List.all_append, hends, Bool.false_and]
  · exact hends

/-- Within a line all is kept up to a character that is not blank. -/
theorem joinLinesFrom_line {part rest : List Char} (hfeed : '\n' ∉ part)
    (hends : endsLine rest = false) :
    joinLinesFrom false (part ++ rest) = part ++ joinLinesFrom false rest := by
  induction part with
  | nil => rfl
  | cons c part ih =>
    rw [List.mem_cons, not_or] at hfeed
    rw [List.cons_append, joinLinesFrom, if_neg (Ne.symm hfeed.1),
      endsLine_append hfeed.2 hends, Bool.or_false, Bool.and_false, if_neg Bool.false_ne_true,
      ih hfeed.2, List.cons_append]

/-- A part that goes on in the line it begins in keeps its first character. -/
theorem exists_joinLinesFrom_of_line {line part : List Char} (hfeed : '\n' ∉ line)
    (hends : endsLine part = false) (rest : List Char) :
    ∃ kept fresh, ink kept = ink part ∧ kept.head? = part.head? ∧
      joinLinesFrom false (line ++ (part ++ rest)) = line ++ (kept ++ joinLinesFrom fresh rest) := by
  rw [joinLinesFrom_line hfeed (endsLine_append_of_left hends rest)]
  cases part with
  | nil => cases hends
  | cons c part =>
    obtain ⟨kept, fresh, hink, hkept⟩ := joinLinesFrom_append false part rest
    have hc : c ≠ '\n' := by
      rintro rfl
      cases hends
    have hstays : (isBlank c && (false || endsLine (part ++ rest))) = false := by
      rw [endsLine, List.takeWhile_cons_of_pos (by simp [hc]), List.all_cons] at hends
      cases hblank : isBlank c with
      | false => rfl
      | true =>
        rw [hblank] at hends
        exact endsLine_append_of_left hends rest
    refine ⟨c :: kept, fresh, ?_, rfl, ?_⟩
    · rw [ink, ink, List.filter_cons, List.filter_cons, ← ink, ← ink, hink]
    · rw [List.cons_append, joinLinesFrom, if_neg hc, hstays, if_neg Bool.false_ne_true, hkept,
        List.cons_append]

theorem joinLinesFrom_of_getLast {part : List Char} (hfeed : '\n' ∉ part)
    (hlast : ∃ c ∈ part.getLast?, isBlank c = false) (rest : List Char) :
    joinLinesFrom false (part ++ rest) = part ++ joinLinesFrom false rest := by
  obtain ⟨c, hc, hblank⟩ := hlast
  obtain ⟨init, rfl⟩ := List.getLast?_eq_some_iff.mp hc
  have hsolid : Solid [c] := ⟨List.cons_ne_nil c [], List.forall_mem_singleton.mpr hblank⟩
  rw [List.append_assoc, joinLinesFrom_line (fun hmem ↦ hfeed (List.mem_append_left _ hmem))
    (endsLine_solid hsolid rest), joinLinesFrom_solid hsolid, List.append_assoc]

theorem endsLine_blanks_feed {blanks : List Char} (hblanks : ∀ c ∈ blanks, isBlank c = true)
    (rest : List Char) : endsLine (blanks ++ '\n' :: rest) = true := by
  induction blanks with
  | nil => rfl
  | cons c blanks ih =>
    rw [List.forall_mem_cons] at hblanks
    rw [List.cons_append, endsLine, List.takeWhile_cons]
    split
    · rw [List.all_cons, hblanks.1, Bool.true_and]
      exact ih hblanks.2
    · rfl

theorem joinLinesFrom_blanks {blanks : List Char} (hblanks : ∀ c ∈ blanks, isBlank c = true)
    (rest : List Char) : joinLinesFrom true (blanks ++ rest) = joinLinesFrom true rest := by
  induction blanks with
  | nil => rfl
  | cons c blanks ih =>
    rw [List.forall_mem_cons] at hblanks
    rw [List.cons_append, joinLinesFrom, ih hblanks.2, hblanks.1, Bool.true_or, Bool.true_and,
      if_pos rfl, ite_self]

theorem joinLinesFrom_blanks_of_feed {blanks : List Char} (hblanks : ∀ c ∈ blanks, isBlank c = true)
    (hfeed : '\n' ∈ blanks) (fresh : Bool) (rest : List Char) :
    joinLinesFrom fresh (blanks ++ rest) = joinLinesFrom true rest := by
  induction blanks generalizing fresh with
  | nil => cases hfeed
  | cons c blanks ih =>
    rw [List.forall_mem_cons] at hblanks
    rw [List.cons_append, joinLinesFrom]
    by_cases hc : c = '\n'
    · rw [if_pos hc, joinLinesFrom_blanks hblanks.2]
    · have hmem := List.mem_of_ne_of_mem (Ne.symm hc) hfeed
      obtain ⟨line, after, rfl⟩ := List.append_of_mem hmem
      have hline : ∀ d ∈ line, isBlank d = true := fun d hd ↦
        hblanks.2 d (List.mem_append_left _ hd)
      have hends : endsLine (line ++ '\n' :: after ++ rest) = true := by
        rw [List.append_assoc]
        exact endsLine_blanks_feed hline (after ++ rest)
      rw [if_neg hc, hblanks.1, hends, Bool.or_true, Bool.true_and, if_pos rfl,
        ih hblanks.2 hmem]

/-- A part between parts without blanks loses nothing but blanks, and within a line nothing. -/
theorem exists_joinLinesFrom_between {opening closing : List Char} (hopening : Solid opening)
    (hclosing : Solid closing) (content : List Char) (fresh : Bool) (rest : List Char) :
    ∃ kept, ink kept = ink content ∧ ('\n' ∉ content → kept = content) ∧
      joinLinesFrom fresh (opening ++ (content ++ (closing ++ rest))) =
        opening ++ (kept ++ (closing ++ joinLinesFrom false rest)) := by
  rw [joinLinesFrom_solid hopening]
  -- In one line the content loses nothing, since the closing part keeps the line from ending in it.
  by_cases hfeed : '\n' ∈ content
  · obtain ⟨kept, fresh', hink, hkept⟩ := joinLinesFrom_append false content (closing ++ rest)
    refine ⟨kept, hink, fun h ↦ absurd hfeed h, ?_⟩
    rw [hkept, joinLinesFrom_solid hclosing]
  · refine ⟨content, rfl, fun _ ↦ rfl, ?_⟩
    rw [joinLinesFrom_line hfeed (endsLine_solid hclosing rest), joinLinesFrom_solid hclosing]

/-- If something that is not blank comes last, it comes last of all that is not blank. -/
theorem getLast?_ink {c : Char} {cs : List Char} (h : cs.getLast? = some c)
    (hc : isBlank c = false) : (ink cs).getLast? = some c := by
  obtain ⟨init, rfl⟩ := List.getLast?_eq_some_iff.mp h
  rw [ink, List.filter_append, List.filter_singleton]
  simp [hc]

theorem infix_ink {mark cs : List Char} (hmark : ∀ c ∈ mark, isBlank c = false)
    (h : mark <:+: cs) : mark <:+: ink cs := by
  obtain ⟨p, q, rfl⟩ := h
  have hink : ink mark = mark :=
    List.filter_eq_self.mpr fun c hc ↦ by rw [hmark c hc, Bool.not_false]
  refine ⟨ink p, ink q, ?_⟩
  rw [ink_append, ink_append, hink]

/-! ## Texts that joining leaves as they are -/

/-- One line without blanks at either end. -/
structure Trimmed (cs : List Char) : Prop where
  line : '\n' ∉ cs
  head : ∀ c ∈ cs.head?, isBlank c = false
  last : ∀ c ∈ cs.getLast?, isBlank c = false

theorem trimmed_nil : Trimmed [] := ⟨by simp, by simp, by simp⟩

theorem Trimmed.append {cs ds : List Char} (h : Trimmed cs) (h' : Trimmed ds) :
    Trimmed (cs ++ ds) where
  line := by
    rw [List.mem_append, not_or]
    exact ⟨h.line, h'.line⟩
  head c hc := by
    rw [List.head?_append] at hc
    obtain hc | ⟨-, hc⟩ := Option.or_eq_some_iff.mp hc
    · exact h.head c hc
    · exact h'.head c hc
  last c hc := by
    rw [List.getLast?_append] at hc
    obtain hc | ⟨-, hc⟩ := Option.or_eq_some_iff.mp hc
    · exact h'.last c hc
    · exact h.last c hc

theorem trimmed_flatMap {α : Type} {f : α → List Char} {as : List α}
    (h : ∀ a ∈ as, Trimmed (f a)) : Trimmed (as.flatMap f) := by
  induction as with
  | nil => exact trimmed_nil
  | cons a as ih =>
    rw [List.forall_mem_cons] at h
    rw [List.flatMap_cons]
    exact h.1.append (ih h.2)

theorem trimmed_trim {cs : List Char} (h : '\n' ∉ cs) : Trimmed (trim cs) where
  line hmem := h ((List.dropWhile_sublist _).mem ((List.rdropWhile_prefix isBlank _).mem hmem))
  head c hc := by
    have hnot := List.head?_dropWhile_not isBlank cs
    rw [trim, trimStart] at hc
    cases hstart : cs.dropWhile isBlank with
    | nil =>
      rw [hstart] at hc
      cases hc
    | cons d rest =>
      have hd : isBlank d = false := by simpa [hstart] using hnot
      rw [hstart, trimEnd_cons (by simp [hd])] at hc
      obtain rfl := Option.some.inj hc
      exact hd
  last c hc := by
    have hnot := List.head?_dropWhile_not isBlank (trimStart cs).reverse
    rw [trim, trimEnd, List.getLast?_reverse, Option.mem_def] at hc
    simpa [hc] using hnot

theorem trimmed_joinLines (cs : List Char) : Trimmed (joinLines cs) := by
  refine trimmed_flatMap fun line hline ↦ trimmed_trim fun hmem ↦ ?_
  have hfeed := sep_eq_false_of_mem_pieces hline hmem
  cases hfeed

theorem joinLines_of_trimmed {cs : List Char} (h : Trimmed cs) : joinLines cs = cs := by
  have hstart : trimStart cs = cs := by
    cases cs with
    | nil => rfl
    | cons c cs => rw [trimStart, List.dropWhile_cons_of_neg (by simp [h.head c rfl])]
  have hend : trimEnd cs = cs := by
    cases hlast : cs.getLast? with
    | none =>
      rw [List.getLast?_eq_none_iff.mp hlast]
      rfl
    | some c =>
      obtain ⟨init, rfl⟩ := List.getLast?_eq_some_iff.mp hlast
      rw [trimEnd, List.reverse_append, List.reverse_singleton, List.singleton_append,
        List.dropWhile_cons_of_neg (by simp [h.last c hlast]), List.reverse_cons,
        List.reverse_reverse]
  rw [joinLines_of_line h.line, trim, hstart, hend]

end NewsWire.Text
