import NewsWire.Markup.Event

/-!
# The outline of a document

The events of a document open and close elements in order, so what has been read of it is a tree
that grows at one place. An `Outline` is that tree: the open elements, one inside the other, each
after what is complete before it. A `Forest` is what is complete; no close can go astray in it,
because an element has one name for its start and its end.

Adding an event changes an outline in one of three ways. A leaf is added where the outline grows, a
start opens a new place inside it, and a close makes the innermost open element complete. Nothing is
lost on the way (`tokens_outline`), and whatever else steps through the events is compared
with the outline by a fact for each of the three ways (`outline_induction`).

Both types are built from left to right, so that what comes last in the text is the outermost
constructor. A recursion on an outline goes down the path to the place where it grows, which is
where all the changes are; a tree of lists of children would have to be entered from the root each
time.
-/

namespace NewsWire.Markup

/-! ## Forests -/

/-- The token neither opens nor closes an element. -/
def Token.isLeaf : Token → Bool
  | .start _ => false
  | .close _ => false
  | _ => true

/-- Complete elements and the leaves between them, built from left to right. -/
inductive Forest where
  | nil
  | leaf (before : Forest) (token : Token) (isLeaf : token.isLeaf = true)
  | element (before : Forest) (tag : Tag) (content : Forest)

/-- The tokens of a forest, in order. -/
def Forest.tokens : Forest → List Token
  | .nil => []
  | .leaf before token _ => before.tokens ++ [token]
  | .element before tag content =>
    before.tokens ++ .start tag :: (content.tokens ++ [.close tag.name])

def Forest.append (forest : Forest) : Forest → Forest
  | .nil => forest
  | .leaf before token h => .leaf (forest.append before) token h
  | .element before tag content => .element (forest.append before) tag content

theorem Forest.nil_append (forest : Forest) : Forest.nil.append forest = forest := by
  induction forest with
  | nil => rfl
  | leaf before token h ih => rw [append, ih]
  | element before tag content ih => rw [append, ih]

/-! ## Outlines -/

/-- What has been read of a document: at the top a forest, and inside each open element the forest
that it holds so far. -/
inductive Outline where
  | top (forest : Forest)
  | inside (outer : Outline) (tag : Tag) (content : Forest)

namespace Outline

/-- The tokens of an outline, in order. -/
def tokens : Outline → List Token
  | top forest => forest.tokens
  | inside outer tag content => outer.tokens ++ .start tag :: content.tokens

/-- The names of the open elements, innermost first. -/
def openNames : Outline → OpenNames
  | top _ => []
  | inside outer tag _ => tag.name :: outer.openNames

/-- The outline with another forest where it grows. -/
def grow (f : Forest → Forest) : Outline → Outline
  | top forest => top (f forest)
  | inside outer tag content => inside outer tag (f content)

/-- The outline after one more token. At the top there is nothing to close. -/
def add (o : Outline) (token : Token) : Outline :=
  if h : token.isLeaf = true then o.grow fun forest ↦ forest.leaf token h
  else
    match token, o with
    | .start tag, o => inside o tag .nil
    | _, inside outer tag content => outer.grow fun forest ↦ forest.element tag content
    | _, o => o

/-- The outline of tokens. -/
def ofTokens (tokens : List Token) : Outline := tokens.foldl add (top .nil)

@[simp] theorem openNames_grow (f : Forest → Forest) (o : Outline) :
    (o.grow f).openNames = o.openNames := by
  cases o <;> rfl

theorem tokens_grow {f : Forest → Forest} (more : List Token)
    (h : ∀ forest, (f forest).tokens = forest.tokens ++ more) (o : Outline) :
    (o.grow f).tokens = o.tokens ++ more := by
  cases o with
  | top forest => exact h forest
  | inside outer tag content =>
    rw [grow, tokens, tokens, h, List.append_assoc, List.cons_append]

theorem add_leaf (o : Outline) {token : Token} (h : token.isLeaf = true) :
    o.add token = o.grow fun forest ↦ forest.leaf token h := by
  rw [add, dif_pos h]

theorem add_start (o : Outline) (tag : Tag) : o.add (.start tag) = inside o tag .nil := by
  cases o <;> rfl

theorem add_close (outer : Outline) (tag : Tag) (content : Forest) (name : List Char) :
    (inside outer tag content).add (.close name) =
      outer.grow fun forest ↦ forest.element tag content := rfl

theorem grow_grow (f g : Forest → Forest) (o : Outline) :
    (o.grow f).grow g = o.grow fun forest ↦ g (f forest) := by
  cases o <;> rfl

/-- The tokens of a forest add the forest. -/
theorem foldl_add_tokens (forest : Forest) (o : Outline) :
    forest.tokens.foldl add o = o.grow (·.append forest) := by
  induction forest generalizing o with
  | nil => cases o <;> rfl
  | leaf before token h ih =>
    rw [Forest.tokens, List.foldl_append, ih, List.foldl_cons, add_leaf _ h, grow_grow]
    rfl
  | element before tag content ih ihc =>
    rw [Forest.tokens, List.foldl_append, ih, List.foldl_cons, add_start, List.foldl_append, ihc,
      grow, Forest.nil_append, List.foldl_cons, add_close, grow_grow]
    rfl

end Outline

/-! ## Events -/

theorem OpenNames.after_close (name : List Char) (names : OpenNames) :
    OpenNames.after (name :: names) (.close name) = .ok names := by
  rw [OpenNames.after, if_pos rfl]

/-- A token that is no fault is a leaf, a start, or the close of the innermost open element. -/
theorem OpenNames.after_cases {names names' : OpenNames} {token : Token}
    (h : names.after token = .ok names') :
    token.isLeaf = true ∧ names' = names ∨
      (∃ tag, token = .start tag ∧ names' = tag.name :: names) ∨
      ∃ name, token = .close name ∧ names = name :: names' := by
  cases token with
  | start tag => exact .inr (.inl ⟨tag, rfl, (Except.ok.inj h).symm⟩)
  | close name =>
    cases names with
    | nil => cases h
    | cons n rest =>
      rw [OpenNames.after] at h
      split at h
      · next hname => exact .inr (.inr ⟨name, rfl, by rw [hname, Except.ok.inj h]⟩)
      · cases h
  | text raw => exact .inl ⟨rfl, (Except.ok.inj h).symm⟩
  | empty tag => exact .inl ⟨rfl, (Except.ok.inj h).symm⟩
  | comment content => exact .inl ⟨rfl, (Except.ok.inj h).symm⟩
  | literal content => exact .inl ⟨rfl, (Except.ok.inj h).symm⟩
  | instruction content => exact .inl ⟨rfl, (Except.ok.inj h).symm⟩

theorem Outline.add_of_after {o : Outline} {token : Token} {names : OpenNames}
    (h : o.openNames.after token = .ok names) :
    (o.add token).openNames = names ∧ (o.add token).tokens = o.tokens ++ [token] := by
  obtain ⟨hleaf, rfl⟩ | ⟨tag, rfl, rfl⟩ | ⟨name, rfl, hnames⟩ := OpenNames.after_cases h
  · rw [add_leaf o hleaf]
    exact ⟨openNames_grow _ o, tokens_grow [token] (fun _ ↦ rfl) o⟩
  · rw [add_start]
    exact ⟨rfl, rfl⟩
  · cases o with
    | top forest => cases hnames
    | inside outer tag content =>
      obtain ⟨rfl, rfl⟩ := List.cons.inj hnames
      rw [add_close, openNames_grow]
      refine ⟨rfl, ?_⟩
      rw [tokens_grow (.start tag :: (content.tokens ++ [.close tag.name])) (fun _ ↦ rfl), tokens,
        List.append_assoc, List.cons_append]

theorem Outline.foldl_add_of_foldlM {tokens : List Token} {o : Outline} {names : OpenNames}
    (h : tokens.foldlM OpenNames.after o.openNames = .ok names) :
    (tokens.foldl add o).openNames = names ∧ (tokens.foldl add o).tokens = o.tokens ++ tokens := by
  induction tokens generalizing o with
  | nil => exact ⟨Except.ok.inj h, (List.append_nil _).symm⟩
  | cons token rest ih =>
    rw [List.foldlM_cons] at h
    cases hafter : o.openNames.after token with
    | error fault =>
      rw [hafter] at h
      cases h
    | ok names' =>
      obtain ⟨hnames, htokens⟩ := add_of_after hafter
      rw [hafter] at h
      obtain ⟨hopen, hall⟩ := ih (o := o.add token) (by rw [hnames]; exact h)
      exact ⟨hopen, by rw [List.foldl_cons, hall, htokens, List.append_assoc]; rfl⟩

/-- Tokens that close all the elements they open, in order, are those of a forest. -/
theorem exists_forest {tokens : List Token} (h : tokens.foldlM OpenNames.after [] = .ok []) :
    ∃ forest : Forest, forest.tokens = tokens := by
  obtain ⟨hopen, htokens⟩ := Outline.foldl_add_of_foldlM (o := .top .nil) h
  cases ho : tokens.foldl Outline.add (.top .nil) with
  | top forest =>
    rw [ho] at htokens
    exact ⟨forest, htokens⟩
  | inside outer tag content =>
    rw [ho] at hopen
    cases hopen

theorem eventsWithin_eq (names : OpenNames) (cs : List Char) :
    eventsWithin names cs =
      match nextToken cs with
      | .finished => ([], .complete)
      | .stuck fault => ([], .broken fault)
      | .next token rest =>
        match names.after token with
        | .error fault => ([], .broken fault)
        | .ok names' => (token :: (eventsWithin names' rest).1, (eventsWithin names' rest).2) := by
  rw [eventsWithin.eq_def]
  split
  · next hn => rw [hn]
  · next hn => rw [hn]
  · next token rest hn =>
    cases hafter : names.after token with
    | error fault => simp only [hn, hafter]
    | ok names' => simp only [hn, hafter]

theorem eventsWithin_nil (names : OpenNames) : eventsWithin names [] = ([], .complete) := by
  rw [eventsWithin_eq, nextToken]

theorem eventsWithin_of_stuck {names : OpenNames} {cs : List Char} {fault : Fault}
    (h : nextToken cs = .stuck fault) : eventsWithin names cs = ([], .broken fault) := by
  rw [eventsWithin_eq, h]

theorem eventsWithin_of_fault {names : OpenNames} {cs rest : List Char} {token : Token}
    {fault : Fault} (h : nextToken cs = .next token rest)
    (hafter : names.after token = .error fault) :
    eventsWithin names cs = ([], .broken fault) := by
  rw [eventsWithin_eq, h]
  simp only [hafter]

theorem eventsWithin_of_next {names names' : OpenNames} {cs rest : List Char} {token : Token}
    (h : nextToken cs = .next token rest) (hafter : names.after token = .ok names') :
    eventsWithin names cs =
      (token :: (eventsWithin names' rest).1, (eventsWithin names' rest).2) := by
  rw [eventsWithin_eq, h]
  simp only [hafter]

/-- A reading comes to its end, or takes one more event and goes on. -/
theorem eventsWithin_cases {P : OpenNames → List Char → Prop}
    (stop : ∀ names cs, (eventsWithin names cs).1 = [] → P names cs)
    (next : ∀ names names' cs rest token, nextToken cs = .next token rest →
      names.after token = .ok names' → P names' rest → P names cs)
    (names : OpenNames) (cs : List Char) : P names cs := by
  induction names, cs using eventsWithin.induct with
  | case1 names cs hn => exact stop names cs (by rw [eventsWithin_eq, hn])
  | case2 names cs fault hn => exact stop names cs (by rw [eventsWithin_of_stuck hn])
  | case3 names cs token rest hn _ fault hafter =>
    exact stop names cs (by rw [eventsWithin_of_fault hn hafter])
  | case4 names cs token rest hn _ names' hafter _ _ _ ih =>
    exact next names names' cs rest token hn hafter ih

/-- What holds of an outline and the state of a walk before any event holds of them after all
events of a text, if each of the three ways in which an outline grows keeps it. -/
theorem eventsWithin_induction {σ : Type} {step : σ → Token → σ} {P : Outline → σ → Prop}
    (leaf : ∀ o w token (h : token.isLeaf = true), P o w →
      P (o.grow fun forest ↦ forest.leaf token h) (step w token))
    (start : ∀ o w tag, P o w → P (.inside o tag .nil) (step w (.start tag)))
    (close : ∀ outer tag content w, P (.inside outer tag content) w →
      P (outer.grow fun forest ↦ forest.element tag content) (step w (.close tag.name)))
    (cs : List Char) {o : Outline} {w : σ} (h : P o w) :
    P ((eventsWithin o.openNames cs).1.foldl Outline.add o)
      ((eventsWithin o.openNames cs).1.foldl step w) := by
  -- The induction is on the text that is left; the names open before it are always those of `o`.
  generalize hnames : o.openNames = names
  induction names, cs using eventsWithin_cases generalizing o w with
  | stop names cs hnone =>
    rw [hnone]
    exact h
  | next names names' cs rest token hn hafter ih =>
    rw [eventsWithin_of_next hn hafter, List.foldl_cons, List.foldl_cons]
    obtain ⟨hleaf, rfl⟩ | ⟨tag, rfl, rfl⟩ | ⟨name, rfl, rfl⟩ := OpenNames.after_cases hafter
    · rw [Outline.add_leaf o hleaf]
      exact ih (leaf o w token hleaf h) ((Outline.openNames_grow _ o).trans hnames)
    · rw [Outline.add_start]
      exact ih (start o w tag h) (by rw [Outline.openNames, hnames])
    · cases o with
      | top forest => cases hnames
      | inside outer tag content =>
        obtain ⟨rfl, rfl⟩ := List.cons.inj hnames
        rw [Outline.add_close]
        exact ih (close outer tag content w h) (Outline.openNames_grow _ outer)

def outline (document : List Char) : Outline := .ofTokens (events document).1

theorem outline_induction {σ : Type} {step : σ → Token → σ} {P : Outline → σ → Prop}
    (leaf : ∀ o w token (h : token.isLeaf = true), P o w →
      P (o.grow fun forest ↦ forest.leaf token h) (step w token))
    (start : ∀ o w tag, P o w → P (.inside o tag .nil) (step w (.start tag)))
    (close : ∀ outer tag content w, P (.inside outer tag content) w →
      P (outer.grow fun forest ↦ forest.element tag content) (step w (.close tag.name)))
    (document : List Char) {w : σ} (h : P (.top .nil) w) :
    P (outline document) ((events document).1.foldl step w) :=
  eventsWithin_induction leaf start close (withoutMark document) h

theorem tokens_outline (document : List Char) :
    (outline document).tokens = (events document).1 := by
  -- The walk compared with is the one that writes down every event.
  have h : (outline document).tokens = (events document).1.foldl (fun ts t ↦ ts ++ [t]) [] := by
    refine outline_induction (P := fun o ts ↦ o.tokens = ts) ?_ ?_ ?_ document rfl
    · intro o ts token hleaf ho
      rw [Outline.tokens_grow [token] (fun _ ↦ rfl), ho]
    · intro o ts tag ho
      rw [Outline.tokens, Forest.tokens, ho]
    · rintro outer tag content ts rfl
      rw [Outline.tokens_grow (.start tag :: (content.tokens ++ [.close tag.name])) (fun _ ↦ rfl),
        Outline.tokens, List.append_assoc, List.cons_append]
  rw [h, List.foldl_append_eq_append, List.nil_append, ← List.flatMap_def, List.flatMap_singleton']

end NewsWire.Markup
