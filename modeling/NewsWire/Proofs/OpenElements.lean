import NewsWire.Proofs.Except
import NewsWire.Proofs.Outline

/-!
# Open elements

Which elements are open after so many events is a list that a start makes longer and a close
shorter. An element is known by its tag and by the place of its start among the events, so that two
elements with the same tag are not taken for one.

The list is that of the reader, which keeps names only and lets no close through that does not name
the innermost of them (`foldlM_after_take`). So a close that is read closes the last element of the
list (`exists_eq_concat_of_close`).

Unlike an outline, the list forgets what has been closed. It is all that a counter can know of a
document, and statements about counters need no more.
-/

namespace NewsWire.Markup

/-! ## Open elements -/

/-- An element that is open: its tag, and how many events were read before its start. -/
structure OpenElement where
  tag : Tag
  before : Nat
  deriving DecidableEq, Repr

/-- The open elements after so many events, outermost first. -/
def openElements (tokens : List Token) : Nat → List OpenElement
  | 0 => []
  | n + 1 =>
    match tokens[n]? with
    | some (.start tag) => openElements tokens n ++ [⟨tag, n⟩]
    | some (.close _) => (openElements tokens n).dropLast
    | _ => openElements tokens n

variable {tokens : List Token} {n : Nat}

theorem take_of_some {token : Token} (h : tokens[n]? = some token) :
    tokens.take (n + 1) = tokens.take n ++ [token] := by
  rw [List.take_add_one, h]
  rfl

theorem take_of_none (h : tokens[n]? = none) : tokens.take (n + 1) = tokens.take n := by
  rw [List.take_add_one, h]
  exact List.append_nil _

theorem openElements_of_start {tag : Tag} (h : tokens[n]? = some (.start tag)) :
    openElements tokens (n + 1) = openElements tokens n ++ [⟨tag, n⟩] := by
  rw [openElements, h]

theorem openElements_of_close {name : List Char} (h : tokens[n]? = some (.close name)) :
    openElements tokens (n + 1) = (openElements tokens n).dropLast := by
  rw [openElements, h]

theorem openElements_of_leaf {token : Token} (h : tokens[n]? = some token)
    (hleaf : token.isLeaf = true) : openElements tokens (n + 1) = openElements tokens n := by
  rw [openElements, h]
  cases token with
  | start tag => cases hleaf
  | close name => cases hleaf
  | _ => rfl

theorem openElements_of_none (h : tokens[n]? = none) :
    openElements tokens (n + 1) = openElements tokens n := by
  rw [openElements, h]

/-- What is kept by each kind of event holds after every number of events. -/
theorem eventwise_induction (tokens : List Token) {P : Nat → Prop} (zero : P 0)
    (none : ∀ n, tokens[n]? = none → P n → P (n + 1))
    (leaf : ∀ n token, tokens[n]? = some token → token.isLeaf = true → P n → P (n + 1))
    (start : ∀ n tag, tokens[n]? = some (.start tag) → P n → P (n + 1))
    (close : ∀ n name, tokens[n]? = some (.close name) → P n → P (n + 1)) (n : Nat) : P n := by
  induction n with
  | zero => exact zero
  | succ n ih =>
    cases htoken : tokens[n]? with
    | none => exact none n htoken ih
    | some token =>
      by_cases hleaf : token.isLeaf = true
      · exact leaf n token htoken hleaf ih
      · cases token with
        | start tag => exact start n tag htoken ih
        | close name => exact close n name htoken ih
        | _ => exact absurd rfl hleaf

/-! ## Events and the open elements -/

theorem exists_foldlM_after (names : OpenNames) (cs : List Char) :
    ∃ names', (eventsWithin names cs).1.foldlM OpenNames.after names = .ok names' := by
  induction names, cs using eventsWithin_cases with
  | stop names cs hnone =>
    rw [hnone]
    exact ⟨names, rfl⟩
  | next names names' cs rest token hn hafter ih =>
    rw [eventsWithin_of_next hn hafter, List.foldlM_cons, hafter]
    exact ih

/-- The names of open elements, innermost first. -/
def namesOf (elements : List OpenElement) : OpenNames := (elements.map (·.tag.name)).reverse

theorem namesOf_concat (elements : List OpenElement) (e : OpenElement) :
    namesOf (elements ++ [e]) = e.tag.name :: namesOf elements := by
  rw [namesOf, List.map_append, List.reverse_append]
  rfl

theorem eq_concat_of_namesOf {elements : List OpenElement} {name : List Char} {names : OpenNames}
    (h : namesOf elements = name :: names) :
    ∃ outer e, elements = outer ++ [e] ∧ e.tag.name = name ∧ namesOf outer = names := by
  rcases List.eq_nil_or_concat elements with rfl | ⟨outer, e, rfl⟩
  · cases h
  · rw [List.concat_eq_append, namesOf_concat] at h
    obtain ⟨hname, hnames⟩ := List.cons.inj h
    exact ⟨outer, e, List.concat_eq_append, hname, hnames⟩

theorem exists_after {token : Token} {names : OpenNames}
    (h : ∃ names, tokens.foldlM OpenNames.after [] = .ok names) (htoken : tokens[n]? = some token)
    (htake : (tokens.take n).foldlM OpenNames.after [] = .ok names) :
    ∃ names', names.after token = .ok names' := by
  obtain ⟨last, hall⟩ := h
  rw [← List.take_append_drop (n + 1) tokens, take_of_some htoken, List.append_assoc,
    List.foldlM_append, htake, ok_bind, List.singleton_append, List.foldlM_cons] at hall
  obtain ⟨names', hafter, -⟩ := bind_eq_ok_iff.mp hall
  exact ⟨names', hafter⟩

theorem foldlM_after_take (h : ∃ names, tokens.foldlM OpenNames.after [] = .ok names) (n : Nat) :
    (tokens.take n).foldlM OpenNames.after [] = .ok (namesOf (openElements tokens n)) := by
  induction n with
  | zero => rfl
  | succ n ih =>
    cases htoken : tokens[n]? with
    | none => rw [take_of_none htoken, openElements_of_none htoken, ih]
    | some token =>
      obtain ⟨names, hafter⟩ := exists_after h htoken ih
      rw [take_of_some htoken, List.foldlM_append, ih, ok_bind, List.foldlM_cons, hafter, ok_bind,
        List.foldlM_nil]
      congr 1
      obtain ⟨hleaf, rfl⟩ | ⟨tag, rfl, rfl⟩ | ⟨name, rfl, hclose⟩ := OpenNames.after_cases hafter
      · rw [openElements_of_leaf htoken hleaf]
      · rw [openElements_of_start htoken, namesOf_concat]
      · obtain ⟨outer, e, helements, -, rfl⟩ := eq_concat_of_namesOf hclose
        rw [openElements_of_close htoken, helements, List.dropLast_concat]

/-- A close that is read is that of the innermost open element. -/
theorem exists_eq_concat_of_close (document : List Char) {n : Nat} {name : List Char}
    (h : (events document).1[n]? = some (.close name)) :
    ∃ outer e, openElements (events document).1 n = outer ++ [e] ∧ e.tag.name = name := by
  have haccepted : ∃ names, (events document).1.foldlM OpenNames.after [] = .ok names :=
    exists_foldlM_after [] (withoutMark document)
  obtain ⟨names, hafter⟩ := exists_after haccepted h (foldlM_after_take haccepted n)
  obtain ⟨hleaf, -⟩ | ⟨tag, htag, -⟩ | ⟨name', hname, hclose⟩ := OpenNames.after_cases hafter
  · cases hleaf
  · cases htag
  · obtain rfl := Token.close.inj hname
    obtain ⟨outer, e, helements, hlast, -⟩ := eq_concat_of_namesOf hclose
    exact ⟨outer, e, helements, hlast⟩

end NewsWire.Markup
