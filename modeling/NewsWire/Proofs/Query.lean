import NewsWire.Proofs.Extension

/-!
# Text appended to a query

A text that is appended to a URL extends its query exactly when the URL has a query and no fragment,
and nothing that counts trails it (`parse_append_iff`). Blanks that trail the URL do not count until
something follows them. Then they are part of the query.

Both directions are needed. Where the condition fails, the text goes somewhere else, and where that
is depends on what the URL lacks: to the fragment if there is one, and otherwise to the path, the
port or the host.
-/

namespace NewsWire.Url

open NewsWire.Text

/-! ## Query and fragment -/

theorem splitTail_eq (cs : List Char) :
    splitTail cs =
      ((splitBefore (· == '?') (splitBefore (· == '#') cs).1).1,
        (splitBefore (· == '?') (splitBefore (· == '#') cs).1).2.tail?.map withoutBreaks,
        (splitBefore (· == '#') cs).2.tail?.map withoutBreaks) := by
  rw [splitTail]
  generalize splitBefore (· == '#') cs = parts
  obtain ⟨front, fragment⟩ := parts
  dsimp only
  generalize splitBefore (· == '?') front = parts
  obtain ⟨path, query⟩ := parts
  cases query <;> cases fragment <;> rfl

theorem splitBefore_of_forall {p : Char → Bool} {cs : List Char} (h : ∀ c ∈ cs, p c = false) :
    splitBefore p cs = (cs, []) := by
  have hall : ∀ c ∈ cs, (!p c) = true := fun c hc ↦ by rw [h c hc]; rfl
  rw [splitBefore, List.takeWhile_eq_self_iff.mpr hall, List.dropWhile_eq_nil_iff.mpr hall]

theorem splitBefore_of_notMem {c : Char} {cs : List Char} (h : c ∉ cs) :
    splitBefore (· == c) cs = (cs, []) := by
  refine splitBefore_of_forall fun x hx ↦ ?_
  rw [beq_eq_false_iff_ne]
  rintro rfl
  exact h hx

theorem notMem_of_splitBefore {c : Char} {cs : List Char}
    (h : (splitBefore (· == c) cs).2.tail? = none) : c ∉ cs := by
  intro hmem
  have hnil : cs.dropWhile (fun x ↦ !(x == c)) = [] := by
    cases hdrop : cs.dropWhile (fun x ↦ !(x == c)) with
    | nil => rfl
    | cons d ds =>
      rw [splitBefore, hdrop] at h
      cases h
  simpa using List.dropWhile_eq_nil_iff.mp hnil c hmem

theorem tail?_splitBefore_append {c : Char} {cs rest : List Char}
    (h : (splitBefore (· == c) cs).2.tail? = some rest) (more : List Char) :
    (splitBefore (· == c) (cs ++ more)).1 = (splitBefore (· == c) cs).1 ∧
      (splitBefore (· == c) (cs ++ more)).2.tail? = some (rest ++ more) := by
  have hmem : cs.any (· == c) = true := by
    by_contra hany
    have hnot : c ∉ cs := by simpa using hany
    rw [splitBefore_of_notMem hnot] at h
    cases h
  rw [splitBefore_append_of_any hmem]
  refine ⟨rfl, ?_⟩
  cases hmark : (splitBefore (· == c) cs).2 with
  | nil =>
    rw [hmark] at h
    cases h
  | cons d ds =>
    rw [hmark] at h
    rw [← Option.some.inj h]
    rfl

/-- After a fragment has begun, more text goes to the fragment. -/
theorem splitTail_append_of_fragment {cs path fragment : List Char} {query : Option (List Char)}
    (h : splitTail cs = (path, query, some fragment)) (more : List Char) :
    splitTail (cs ++ more) = (path, query, some (fragment ++ withoutBreaks more)) := by
  rw [splitTail_eq, Prod.mk.injEq, Prod.mk.injEq, Option.map_eq_some_iff] at h
  obtain ⟨hpath, hquery, rest, hrest, rfl⟩ := h
  obtain ⟨hfront, htail⟩ := tail?_splitBefore_append hrest more
  rw [splitTail_eq, hfront, htail, hpath, hquery, Option.map_some, withoutBreaks_append]

/-- After a query has begun, more text goes to the query unless it begins a fragment. -/
theorem splitTail_append_of_query {cs path query : List Char}
    (h : splitTail cs = (path, some query, none)) {more : List Char} (hmore : '#' ∉ more) :
    splitTail (cs ++ more) = (path, some (query ++ withoutBreaks more), none) := by
  rw [splitTail_eq, Prod.mk.injEq, Prod.mk.injEq, Option.map_eq_none_iff] at h
  obtain ⟨hpath, hquery, hfragment⟩ := h
  have hnot := notMem_of_splitBefore hfragment
  have hnot' : '#' ∉ cs ++ more := by
    rw [List.mem_append, not_or]
    exact ⟨hnot, hmore⟩
  rw [splitBefore_of_notMem hnot] at hpath hquery
  rw [Option.map_eq_some_iff] at hquery
  obtain ⟨rest, hrest, rfl⟩ := hquery
  obtain ⟨hfront, htail⟩ := tail?_splitBefore_append hrest more
  rw [splitTail_eq, splitBefore_of_notMem hnot', hfront, htail, hpath, Option.map_some,
    withoutBreaks_append]
  rfl

theorem finish_eq {kind : Kind} {scheme cs path : List Char} {authority : Option Authority}
    {query fragment : Option (List Char)} (h : splitTail cs = (path, query, fragment)) :
    finish kind scheme authority cs =
      assemble kind scheme authority (.segments (parsePath kind path)) query fragment := by
  rw [finish, h]

/-! ## URLs with a query -/

theorem splitHost_append (bracket : Bool) (cs : List Char) :
    (splitHost bracket cs).1 ++ (splitHost bracket cs).2 = cs := by
  induction cs generalizing bracket with
  | nil => rfl
  | cons c cs ih =>
    rw [splitHost]
    split
    · rfl
    · simp only
      rw [List.cons_append, ih]

theorem splitUserinfo_subset (cs : List Char) : (splitUserinfo cs).2 ⊆ cs := by
  rw [splitUserinfo]
  split
  · intro c hc
    have hmem := (List.takeWhile_sublist _).subset (List.mem_reverse.mp hc)
    exact List.mem_reverse.mp hmem
  · exact List.Subset.refl cs

theorem splitAtPort_subset (cs : List Char) : (splitAtPort cs).2 ⊆ cs := by
  have hport := List.subset_append_right (splitHost false (splitUserinfo cs).2).1
    (splitHost false (splitUserinfo cs).2).2
  rw [splitHost_append] at hport
  intro c hc
  exact splitUserinfo_subset cs (hport ((List.dropWhile_suffix _).subset hc))

theorem query_finish_of_notMem {kind : Kind} {scheme cs : List Char} {authority : Option Authority}
    (h : '?' ∉ cs) : (finish kind scheme authority cs).query = none := by
  have hfront : '?' ∉ (splitBefore (· == '#') cs).1 := fun hmem ↦
    h ((List.takeWhile_sublist _).subset hmem)
  rw [finish_eq (splitTail_eq cs), assemble, splitBefore_of_notMem hfront]
  rfl

theorem query_of_not_ends {port : Nat} {scheme cs : List Char} {u : Url}
    (hends : cs.any (endsAuthority true) = false)
    (h : parseAfterSlashes (.special port) scheme cs = .ok u) : u.query = none := by
  have hnot := eq_false_of_any hends
  have hspecial : (Kind.special port).isSpecial = true := rfl
  rw [parseAfterSlashes, hspecial, splitBefore_of_forall hnot] at h
  obtain ⟨authority, -, h⟩ := bind_eq_ok_iff.mp h
  rw [← Except.ok.inj h, query_finish_of_notMem]
  -- The path is what follows a backslash in the text of the port.
  intro hmem
  rw [List.append_nil] at hmem
  cases hnot '?' (splitAtPort_subset cs hmem)

theorem kindOf_of_isWeb {u : Url} (h : u.isWeb = true) :
    ∃ port, kindOf u.scheme = .special port := by
  rw [isWeb, Bool.or_eq_true, decide_eq_true_iff, decide_eq_true_iff] at h
  obtain h | h := h
  · exact ⟨80, by rw [h]; rfl⟩
  · exact ⟨443, by rw [h]; rfl⟩

theorem hostSettled_of_query {text : List Char} {u : Url} (h : parse text = .ok u)
    (hweb : u.isWeb = true) (hquery : u.query ≠ none) : hostSettled text = true := by
  obtain ⟨rest, hscheme⟩ := scheme_of_parse h
  obtain ⟨port, hkind⟩ := kindOf_of_isWeb hweb
  by_contra hsettled
  rw [hostSettled, hscheme] at hsettled
  simp only [hkind, Bool.not_eq_true] at hsettled
  rw [parse_of_special hscheme hkind] at h
  exact hquery (query_of_not_ends hsettled h)

/-- A web address with a query is put together from parts of which only the last one grows. -/
theorem exists_finish_of_query {text : List Char} {u : Url} (h : parse text = .ok u)
    (hweb : u.isWeb = true) (hquery : u.query ≠ none) :
    ∃ port scheme authority tail, u = finish (.special port) scheme (some authority) tail ∧
      ∀ more z, trimEnds (text ++ more) = trimEnds text ++ z →
        parse (text ++ more) =
          .ok (finish (.special port) scheme (some authority) (tail ++ withoutBreaks z)) := by
  obtain ⟨rest, hscheme⟩ := scheme_of_parse h
  obtain ⟨port, hkind⟩ := kindOf_of_isWeb hweb
  obtain ⟨authority, tail, hu, happend⟩ :=
    parse_append hscheme hkind (hostSettled_of_query h hweb hquery) h
  exact ⟨port, u.scheme, authority, tail, hu, happend⟩

/-! ## Text that is appended to a query

A query is written with some of its characters encoded, and the parameter that is appended should be
found in it as it was given. `QueryText` is what a text must satisfy for that: none of its
characters is encoded, left out or taken for the beginning of a fragment. -/

theorem percentEncode_append (set : Char → Bool) (cs ds : List Char) :
    percentEncode set (cs ++ ds) = percentEncode set cs ++ percentEncode set ds :=
  List.flatMap_append

theorem percentEncode_of_forall {set : Char → Bool} {cs : List Char} (h : ∀ c ∈ cs, set c = false) :
    percentEncode set cs = cs := by
  induction cs with
  | nil => rfl
  | cons c cs ih =>
    rw [List.forall_mem_cons] at h
    rw [percentEncode, List.flatMap_cons, h.1, if_neg Bool.false_ne_true, ← percentEncode, ih h.2]
    rfl

theorem percentEncode_eq_nil_iff {set : Char → Bool} {cs : List Char} :
    percentEncode set cs = [] ↔ cs = [] := by
  constructor
  · intro h
    rw [percentEncode, List.flatMap_eq_nil_iff] at h
    refine List.eq_nil_iff_forall_not_mem.mpr fun c hc ↦ ?_
    have hnil := h c hc
    split at hnil
    · rw [List.flatMap_eq_nil_iff] at hnil
      obtain ⟨b, hb⟩ := List.exists_mem_of_ne_nil _ (String.utf8EncodeChar_ne_nil (c := c))
      cases hnil b hb
    · cases hnil
  · rintro rfl
    rfl

/-- A text that is written in the query of a web page as it is. -/
structure QueryText (cs : List Char) : Prop where
  ne_nil : cs ≠ []
  plain : ∀ c ∈ cs, inSpecialQuerySet c = false

namespace QueryText

variable {suffix : List Char}

theorem not_isOuter (hs : QueryText suffix) : ∀ c ∈ suffix, isOuter c = false := by
  intro c hc
  have hplain := hs.plain c hc
  rw [inSpecialQuerySet, inQuerySet, isControl] at hplain
  simp only [Bool.or_eq_false_iff, decide_eq_false_iff_not] at hplain
  obtain ⟨⟨⟨hcontrol, -⟩, hspace⟩, -⟩ := hplain
  rw [isOuter, decide_eq_false_iff_not]
  intro hle
  have heq : c.toNat = 0x20 := by omega
  obtain rfl : c = ' ' := by rw [← Char.ofNat_toNat c, heq]
  cases hspace

theorem exists_getLast? (hs : QueryText suffix) : ∃ c ∈ suffix.getLast?, isOuter c = false :=
  ⟨suffix.getLast hs.ne_nil, List.getLast?_eq_some_getLast hs.ne_nil,
    hs.not_isOuter _ (List.getLast_mem hs.ne_nil)⟩

theorem withoutBreaks_eq (hs : QueryText suffix) : withoutBreaks suffix = suffix := by
  refine List.filter_eq_self.mpr fun c hc ↦ ?_
  rw [Bool.not_eq_true', ← Bool.not_eq_true]
  intro hbreak
  have hplain := hs.plain c hc
  simp only [isBreak, Bool.or_eq_true, beq_iff_eq] at hbreak
  obtain (rfl | rfl) | rfl := hbreak <;> cases hplain

theorem notMem (hs : QueryText suffix) : '#' ∉ suffix := by
  intro hmem
  cases hs.plain '#' hmem

end QueryText

theorem withoutBreaks_withoutBreaks (cs : List Char) :
    withoutBreaks (withoutBreaks cs) = withoutBreaks cs := by
  rw [withoutBreaks, withoutBreaks, List.filter_filter]
  simp only [Bool.and_self]

theorem notMem_trailing (cs : List Char) : '#' ∉ trailing cs := by
  intro hmem
  cases List.mem_takeWhile_imp (List.mem_reverse.mp hmem)

theorem parse_append_query {text suffix query : List Char} {u : Url} (h : parse text = .ok u)
    (hweb : u.isWeb = true) (hquery : u.query = some query) (hfragment : u.fragment = none)
    (hs : QueryText suffix) :
    parse (text ++ suffix) =
      .ok { u with
        query := some (query ++
          (percentEncode inSpecialQuerySet (withoutBreaks (trailing text)) ++ suffix)) } := by
  have hne : u.query ≠ none := by
    rw [hquery]
    exact Option.some_ne_none query
  obtain ⟨port, scheme, authority, tail, rfl, happend⟩ := exists_finish_of_query h hweb hne
  rw [happend suffix _ (trimEnds_append_of_getLast (trimEnds_ne_nil h) hs.exists_getLast?)]
  obtain ⟨⟨path, query?, fragment?⟩, htail⟩ : ∃ parts, splitTail tail = parts := ⟨_, rfl⟩
  rw [finish_eq htail, assemble] at hquery hfragment
  obtain ⟨raw, rfl, rfl⟩ := Option.map_eq_some_iff.mp hquery
  obtain rfl := Option.map_eq_none_iff.mp hfragment
  -- What trailed the URL counts as soon as the suffix follows, but it begins no fragment.
  have hmore : '#' ∉ withoutBreaks (trailing text ++ suffix) := by
    intro hmem
    obtain hmem | hmem := List.mem_append.mp (List.mem_filter.mp hmem).1
    · exact notMem_trailing text hmem
    · exact hs.notMem hmem
  have htail' := splitTail_append_of_query htail hmore
  rw [withoutBreaks_withoutBreaks, withoutBreaks_append, hs.withoutBreaks_eq] at htail'
  rw [withoutBreaks_append, hs.withoutBreaks_eq, finish_eq htail', finish_eq htail]
  have hspecial : (Kind.special port).isSpecial = true := rfl
  simp only [assemble, hspecial, if_true, Option.map_some, percentEncode_append,
    percentEncode_of_forall hs.plain]

theorem query_parse_append_of_fragment {text : List Char} {u : Url} (h : parse text = .ok u)
    (hweb : u.isWeb = true) (hquery : u.query ≠ none) (hfragment : u.fragment ≠ none)
    (suffix : List Char) :
    ∃ u', parse (text ++ suffix) = .ok u' ∧ u'.query = u.query := by
  obtain ⟨port, scheme, authority, tail, rfl, happend⟩ := exists_finish_of_query h hweb hquery
  obtain ⟨z, hz⟩ := exists_trimEnds_append (trimEnds_ne_nil h) suffix
  refine ⟨_, happend suffix z hz, ?_⟩
  obtain ⟨⟨path, query?, fragment?⟩, htail⟩ : ∃ parts, splitTail tail = parts := ⟨_, rfl⟩
  rw [finish_eq htail, assemble] at hfragment
  cases fragment? with
  | none => exact absurd rfl hfragment
  | some fragment => rw [finish_eq htail, finish_eq (splitTail_append_of_fragment htail _)]; rfl

/-- **Where text appended to a URL extends its query.** The URL has a query and no fragment, and
nothing but line breaks and tabs trails it. -/
theorem parse_append_iff {text suffix : List Char} {u : Url} (h : parse text = .ok u)
    (hweb : u.isWeb = true) (hs : QueryText suffix) :
    (∃ query, u.query = some query ∧
        parse (text ++ suffix) = .ok { u with query := some (query ++ suffix) }) ↔
      u.query ≠ none ∧ u.fragment = none ∧ withoutBreaks (trailing text) = [] := by
  constructor
  · rintro ⟨query, hquery, hparse⟩
    have hne : u.query ≠ none := by
      rw [hquery]
      exact Option.some_ne_none query
    have hfragment : u.fragment = none := by
      -- With a fragment the query is what it was, so it has not grown.
      by_contra hfragment
      obtain ⟨u', hu', hsame⟩ := query_parse_append_of_fragment h hweb hne hfragment suffix
      obtain rfl := Except.ok.inj (hparse.symm.trans hu')
      rw [hquery, Option.some.injEq, List.append_right_eq_self] at hsame
      exact hs.ne_nil hsame
    refine ⟨hne, hfragment, ?_⟩
    rw [parse_append_query h hweb hquery hfragment hs] at hparse
    have hqueries := congrArg Url.query (Except.ok.inj hparse)
    simp only [Option.some.injEq, List.append_cancel_left_eq] at hqueries
    rwa [List.append_left_eq_self, percentEncode_eq_nil_iff] at hqueries
  · rintro ⟨hne, hfragment, htrailing⟩
    obtain ⟨query, hquery⟩ := Option.ne_none_iff_exists'.mp hne
    refine ⟨query, hquery, ?_⟩
    rw [parse_append_query h hweb hquery hfragment hs, htrailing]
    rfl

end NewsWire.Url
