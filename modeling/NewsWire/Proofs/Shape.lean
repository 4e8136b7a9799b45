import NewsWire.Proofs.Fields
import NewsWire.Proofs.Requests

/-!
# The shape of a page

The feed answers with an object whose data is an object too, with a count, entries and a URL, each
of which may be null or left out (`IsDocumented`). A page is read of an answer of this shape, and of
one more: a record is also read off an array, by the places of its fields, so the data may be an
array of up to three values (`IsPositional`). In particular the empty array is a page without
entries and without a continuation, and the caller is sent back to the start of the feed
(`run_readPage_of_empty_array`).

Every other answer in JSON that does not report an error fails at once: the page is asked for a
single time, nothing is told, and no cursor is handed out (`run_readPage_shape`).

What a decoder takes is put together in the way the decoder is, so it is said for each part first.
-/

namespace NewsWire.Json

open NewsWire.Text (maxWord64)

variable {α β : Type} {v : Value}

/-! ## What decoders take -/

namespace Decoder

def Takes (d : Decoder α) (v : Value) : Prop := ∃ a, d.ofValue v = .ok a

theorem takes_text_iff : text.Takes v ↔ ∃ s, v = .string s := by
  constructor
  · rintro ⟨s, h⟩
    cases v with
    | string s' => exact ⟨s', rfl⟩
    | _ => cases h
  · rintro ⟨s, rfl⟩
    exact ⟨s, rfl⟩

theorem takes_word64_iff : word64.Takes v ↔ ∃ m : ℕ, v = .ofNat m ∧ m ≤ maxWord64 := by
  constructor
  · rintro ⟨word, h⟩
    cases v with
    | number number =>
      cases number with
      | int i =>
        change (IntRange.word64.check (.int i)).map _ = .ok word at h
        rw [IntRange.check] at h
        split at h
        · next hrange =>
          rw [Bool.and_eq_true, decide_eq_true_iff, decide_eq_true_iff] at hrange
          obtain ⟨m, rfl⟩ := Int.eq_ofNat_of_zero_le hrange.1
          exact ⟨m, rfl, Int.ofNat_le.mp hrange.2⟩
        · cases h
      | float x => cases h
    | _ => cases h
  · rintro ⟨m, rfl, hm⟩
    refine ⟨UInt64.ofNat m, ?_⟩
    change (IntRange.word64.check (.int m)).map _ = _
    have hrange : (IntRange.word64.min ≤ (m : ℤ) && (m : ℤ) ≤ IntRange.word64.max) = true := by
      rw [Bool.and_eq_true, decide_eq_true_iff, decide_eq_true_iff]
      exact ⟨Int.natCast_nonneg m, Int.ofNat_le.mpr hm⟩
    rw [IntRange.check, if_pos hrange]
    rfl

theorem takes_list_any_iff : (list any).Takes v ↔ ∃ items, v = .array items := by
  constructor
  · rintro ⟨items, h⟩
    cases v with
    | array items' => exact ⟨items', rfl⟩
    | _ => cases h
  · rintro ⟨items, rfl⟩
    have hitems : items.mapM any.ofValue = .ok (items.map id) := List.mapM_pure
    exact ⟨items.map id, hitems⟩

theorem takes_optional_iff {d : Decoder α} : d.optional.Takes v ↔ v = .null ∨ d.Takes v := by
  by_cases hnull : v = .null
  · rw [hnull]
    exact iff_of_true ⟨none, rfl⟩ (.inl rfl)
  · rw [or_iff_right hnull]
    rw [Takes, Takes, ofValue_optional hnull]
    cases d.ofValue v with
    | ok a => exact iff_of_true ⟨some a, rfl⟩ ⟨a, rfl⟩
    | error m => exact iff_of_false nofun nofun

/-- The decoder takes what is found in a place that may be empty or hold null. -/
def TakesMaybe (d : Decoder α) (found : Option Value) : Prop :=
  ∀ v, found = some v → v = .null ∨ d.Takes v

theorem takesMaybe_none (d : Decoder α) : d.TakesMaybe none := nofun

theorem takesMaybe_some_iff {d : Decoder α} : d.TakesMaybe (some v) ↔ d.optional.Takes v := by
  rw [takes_optional_iff]
  constructor
  · intro h
    exact h v rfl
  · rintro h w hw
    rwa [← Option.some.inj hw]

end Decoder

namespace Fields

variable {fields : Fields (α → β)} {more : Fields α} {name expected : String} {index : ℕ}
  {members : Members} {items rest : List Value} {d : Decoder α}

/-- The fields are found in the members of an object. -/
def TakesMembers (fields : Fields α) (members : Members) : Prop :=
  ∃ a, fields.ofMembers members = .ok a

/-- The fields are found in the items of an array, and these are left over. -/
def TakesItems (fields : Fields α) (expected : String) (index : ℕ) (items rest : List Value) :
    Prop :=
  ∃ a, fields.ofItems expected index items = .ok (a, rest)

theorem takesMembers_done (a : α) : (done a).TakesMembers members := ⟨a, rfl⟩

theorem takesMembers_both_iff : (fields.both more).TakesMembers members ↔
    fields.TakesMembers members ∧ more.TakesMembers members := by
  rw [TakesMembers, TakesMembers, TakesMembers]
  cases hf : fields.ofMembers members <;> cases ha : more.ofMembers members <;> simp [both, hf, ha]

theorem takesMembers_map_iff {f : α → β} :
    (f <$> more).TakesMembers members ↔ more.TakesMembers members :=
  takesMembers_both_iff.trans (and_iff_right (takesMembers_done f))

theorem takesMembers_seq_iff : (fields <*> more).TakesMembers members ↔
    fields.TakesMembers members ∧ more.TakesMembers members :=
  takesMembers_both_iff

/-- A field that may be left out is looked for under its name. -/
theorem takesMembers_optional_iff :
    (optional name d).TakesMembers members ↔ d.TakesMaybe (members.lookup name) := by
  rw [TakesMembers]
  cases hlookup : members.lookup name with
  | none =>
    refine iff_of_true ⟨none, ?_⟩ (Decoder.takesMaybe_none d)
    simp [optional, withDefault, field, hlookup]
  | some v =>
    rw [Decoder.takesMaybe_some_iff, Decoder.Takes]
    cases hvalue : d.optional.ofValue v <;>
      simp [optional, withDefault, field, hlookup, hvalue, Except.mapError]

theorem takesItems_done_iff (a : α) :
    (done a).TakesItems expected index items rest ↔ rest = items := by
  simp [TakesItems, done, eq_comm]

theorem takesItems_both_iff : (fields.both more).TakesItems expected index items rest ↔
    ∃ left, fields.TakesItems expected index items left ∧
      more.TakesItems expected (index + fields.table.length) left rest := by
  rw [TakesItems, ofItems_both]
  cases hf : fields.ofItems expected index items with
  | error m => simp [TakesItems, hf]
  | ok found =>
    obtain ⟨f, left⟩ := found
    rcases ha : more.ofItems expected (index + fields.table.length) left with m | ⟨a, rest'⟩ <;>
      simp [TakesItems, hf, ha]

theorem takesItems_map_iff {f : α → β} : (f <$> more).TakesItems expected index items rest ↔
    more.TakesItems expected index items rest := by
  refine takesItems_both_iff.trans ?_
  simp only [takesItems_done_iff, exists_eq_left]
  rfl

theorem takesItems_seq_iff : (fields <*> more).TakesItems expected index items rest ↔
    ∃ left, fields.TakesItems expected index items left ∧
      more.TakesItems expected (index + fields.table.length) left rest :=
  takesItems_both_iff

/-- Such a field takes the first item, if there is one. -/
theorem takesItems_optional_iff : (optional name d).TakesItems expected index items rest ↔
    d.TakesMaybe items.head? ∧ rest = items.tail := by
  rw [TakesItems]
  cases items with
  | nil =>
    rw [List.head?_nil, and_iff_right (Decoder.takesMaybe_none d)]
    simp [optional, withDefault, field, eq_comm]
  | cons v items =>
    rw [List.head?_cons, Decoder.takesMaybe_some_iff, Decoder.Takes]
    cases hvalue : d.optional.ofValue v <;>
      simp [optional, withDefault, field, hvalue, Except.map, eq_comm]

/-- A record is taken off an object by the names of its fields, and off an array by their places. -/
theorem takes_record_iff {fields : Fields α} : (record name fields).Takes v ↔
    (∃ members, v = .object members ∧ fields.TakesMembers members) ∨
      ∃ items, v = .array items ∧
        fields.TakesItems (recordOfLength name fields.table.length) 0 items [] := by
  cases v with
  | object members =>
    rw [Decoder.Takes, record]
    cases hfields : fields.ofMembers members <;> simp [TakesMembers, hfields, Except.mapError]
  | array items =>
    rw [Decoder.Takes, ofValue_record_array]
    rcases hfields : fields.ofItems (recordOfLength name fields.table.length) 0 items with
      m | ⟨a, _ | ⟨w, rest⟩⟩ <;> simp [TakesItems, hfields]
  | _ =>
    constructor
    · rintro ⟨a, h⟩
      cases h
    · rintro (⟨members, h, -⟩ | ⟨items, h, -⟩) <;> cases h

end Fields

end NewsWire.Json

namespace NewsWire.Feed

open NewsWire.Json NewsWire.Text

/-! ## The data of a page

The two shapes are stated as existence of values, without a decoder: what the members or the items
are, and which may be null or missing. The documentation of the feed knows the first shape only. -/

/-- What may be found for the count, the entries and the URL of a page, each of which may be null or
missing. -/
structure PageFields (count entries next : Option Value) : Prop where
  count : ∀ v, count = some v → v = .null ∨ ∃ m : ℕ, v = .ofNat m ∧ m ≤ maxWord64
  entries : ∀ v, entries = some v → v = .null ∨ ∃ items, v = .array items
  next : ∀ v, next = some v → v = .null ∨ ∃ text, v = .string text

/-- The data is an object with these members, as the format of the feed says. -/
def IsDocumented (data : Value) : Prop :=
  ∃ members, data = .object members ∧
    PageFields (members.lookup "current_item_count") (members.lookup "items")
      (members.lookup "next_page")

/-- The data is an array of these values and no others. -/
def IsPositional (data : Value) : Prop :=
  ∃ items, data = .array items ∧ items.length ≤ 3 ∧ PageFields items[0]? items[1]? items[2]?

theorem pageFields_iff {count entries next : Option Value} :
    PageFields count entries next ↔
      Decoder.word64.TakesMaybe count ∧ (Decoder.list .any).TakesMaybe entries ∧
        Decoder.text.TakesMaybe next := by
  simp only [Decoder.TakesMaybe, Decoder.takes_word64_iff, Decoder.takes_list_any_iff,
    Decoder.takes_text_iff]
  constructor
  · rintro ⟨hcount, hentries, hnext⟩
    exact ⟨hcount, hentries, hnext⟩
  · rintro ⟨hcount, hentries, hnext⟩
    exact ⟨hcount, hentries, hnext⟩

theorem takes_decoder_iff {data : Value} :
    PageData.decoder.Takes data ↔ IsDocumented data ∨ IsPositional data := by
  rw [PageData.decoder, Fields.takes_record_iff]
  refine or_congr (exists_congr fun members ↦ and_congr_right fun _ ↦ ?_)
    (exists_congr fun items ↦ and_congr_right fun _ ↦ ?_)
  · rw [pageFields_iff, Fields.takesMembers_seq_iff, Fields.takesMembers_seq_iff,
      Fields.takesMembers_map_iff, Fields.takesMembers_optional_iff,
      Fields.takesMembers_optional_iff, Fields.takesMembers_optional_iff, and_assoc]
  · -- Each field takes the head of what the fields before it leave, and nothing may be left.
    have hlength : [] = items.tail.tail.tail ↔ items.length ≤ 3 := by
      rw [eq_comm, ← List.length_eq_zero_iff, List.length_tail, List.length_tail, List.length_tail]
      omega
    rw [pageFields_iff, ← hlength]
    simp only [Fields.takesItems_seq_iff, Fields.takesItems_map_iff,
      Fields.takesItems_optional_iff, List.head?_eq_getElem?]
    constructor
    · rintro ⟨_, ⟨_, ⟨hcount, rfl⟩, hentries, rfl⟩, hnext, hrest⟩
      simp only [List.getElem?_tail] at hentries hnext
      exact ⟨hrest, hcount, hentries, hnext⟩
    · rintro ⟨hrest, hcount, hentries, hnext⟩
      refine ⟨_, ⟨_, ⟨hcount, rfl⟩, ?_, rfl⟩, ?_, hrest⟩
      · rwa [List.getElem?_tail]
      · rwa [List.getElem?_tail, List.getElem?_tail]

end NewsWire.Feed

namespace NewsWire.Poll

open NewsWire.Feed NewsWire.Http

variable {c : Config} {cursor credential : String} {n : Network} {s : Schedule} {t : Trace}
  {url : Url} {key : KeyField}

/-! ## Pages that are asked for once -/

theorem askedAlone_fetchAt_of_final {o : Outcome} {result : Except Failure Json.Value}
    (htarget : target (c.source.pageUrl cursor) = .ok url)
    (hkey : keyField c.source credential = .ok key)
    (hsend : (n.send t.seen ⟨url, pageFields c (some key)⟩).1 = o)
    (hbrings : Brings (c.source.pageUrl cursor) url o result)
    (hfinal : ∀ e, result = .error e → e.isRetryable = false) :
    (fetchAt c cursor credential).run.askedAlone n s t = [⟨url, pageFields c (some key)⟩] := by
  obtain ⟨url', hurl, -⟩ := exists_isWeb_of_target htarget
  have hasked : (attemptPage c (c.source.pageUrl cursor) (some key)).run.askedAlone n s t =
      [⟨url, pageFields c (some key)⟩] := by
    rw [attemptPage, htarget]
    rfl
  rw [fetchAt_of_ok hurl hkey, fetchPage, ExceptT.run_mk, fetchPageFrom, Dialogue.askedAlone_bind,
    hasked, run_attemptPage_of_ok htarget, hsend, brings_iff.mp hbrings]
  cases result with
  | ok v => rfl
  | error e =>
    simp only [hfinal e rfl, Bool.false_and]
    rfl

theorem Network.seen_send_of_reply {seen : List Http.Request} {request : Http.Request}
    {reply : Reply} (h : (n.send seen request).1 = .reply reply) :
    (n.send seen request).2 = seen ++ [request] := by
  rw [send] at h ⊢
  split at h
  · next hreaches => rw [if_pos hreaches]
  · cases h

/-- The answer holds the data of a page, in one of the two shapes. -/
def HoldsPage (v : Json.Value) : Prop :=
  ∃ data, v.member? "data" = some data ∧ (IsDocumented data ∨ IsPositional data)

theorem holdsPage_iff {v data : Json.Value} (h : v.member? "data" = some data) :
    HoldsPage v ↔ PageData.decoder.Takes data := by
  rw [takes_decoder_iff]
  constructor
  · rintro ⟨data', h', hshape⟩
    rw [h] at h'
    rwa [Option.some.inj h']
  · intro hshape
    exact ⟨data, h, hshape⟩

/-- **The shapes of a page.** An answer in JSON that does not report an error is read as a page if
and only if it holds data in the documented shape, or an array of these data by their places. Any
other fails: the page has been asked for once, nothing has been told, and nothing has been waited
for. -/
theorem run_readPage_shape {reply : Reply} {v : Json.Value}
    (htarget : target (c.source.pageUrl cursor) = .ok url)
    (hkey : keyField c.source credential = .ok key)
    (hreply : (n.send t.seen ⟨url, pageFields c (some key)⟩).1 = .reply reply)
    (hjson : bodyJson? reply = some v) (hno : v.member? "data" = none → errorMessage? v = none)
    (s : Schedule) :
    ((∃ page u, (readPage c cursor credential).run.run n s t = (.ok page, u)) ↔ HoldsPage v) ∧
    (¬HoldsPage v →
      (readPage c cursor credential).run.run n s t =
          (.error (.unexpectedShape (c.source.pageUrl cursor)),
            { t with seen := t.seen ++ [⟨url, pageFields c (some key)⟩] }) ∧
        (readPage c cursor credential).run.askedAlone n s t =
          [⟨url, pageFields c (some key)⟩]) := by
  rw [askedAlone_readPage, ← Network.seen_send_of_reply hreply]
  cases hdata : v.member? "data" with
  | none =>
    have hfinal : ∀ e, (.error (.unexpectedShape (c.source.pageUrl cursor)) :
        Except Failure Json.Value) = .error e → e.isRetryable = false := by
      rintro e ⟨⟩
      rfl
    have hbrings : Brings (c.source.pageUrl cursor) url (.reply reply) _ :=
      .otherJson hjson hdata (hno hdata)
    have hrun := run_fetchAt_of_final (s := s) htarget hkey hreply hbrings hfinal
    have hasked := askedAlone_fetchAt_of_final (s := s) htarget hkey hreply hbrings hfinal
    have hnot : ¬HoldsPage v := by
      rintro ⟨data, h, -⟩
      rw [hdata] at h
      cases h
    rw [run_readPage_of_error hrun]
    exact ⟨iff_of_false nofun hnot, fun _ ↦ ⟨rfl, hasked⟩⟩
  | some value =>
    have hbrings : Brings (c.source.pageUrl cursor) url (.reply reply) _ := .data hjson hdata
    have hrun := run_fetchAt_of_final (s := s) htarget hkey hreply hbrings nofun
    have hasked := askedAlone_fetchAt_of_final (s := s) htarget hkey hreply hbrings nofun
    rw [holdsPage_iff hdata, Json.Decoder.Takes]
    cases hdecode : PageData.decoder.ofValue value with
    | ok data =>
      rw [run_readPage_of_data hrun hdecode]
      exact ⟨iff_of_true ⟨_, _, rfl⟩ ⟨data, rfl⟩, fun hnot ↦ absurd ⟨data, rfl⟩ hnot⟩
    | error m =>
      rw [run_readPage_of_mismatch hrun hdecode]
      exact ⟨iff_of_false nofun nofun, fun _ ↦ ⟨rfl, hasked⟩⟩

def answering (v : Json.Value) : Network :=
  ⟨fun _ ↦ true, fun _ _ ↦ .reply (sampleReplyOf v.compact)⟩

theorem run_readPage_shape_sample :
    ¬HoldsPage (.object [("data", .object [("items", .string "none")])]) ∧
      (readPage sampleConfig "" "key").run.run
          (answering (.object [("data", .object [("items", .string "none")])])) List.range .empty =
        (.error (.unexpectedShape "http://wire.test/feed"),
          { Trace.empty with
            seen := [⟨sampleUrl, pageFields sampleConfig (some ⟨"x-api-key", "key"⟩)⟩] }) := by
  have htarget : target (sampleConfig.source.pageUrl "") = .ok sampleUrl := by decide +kernel
  have hkey : keyField sampleConfig.source "key" = .ok ⟨"x-api-key", "key"⟩ := by decide +kernel
  have hjson : bodyJson? (sampleReplyOf
      (Json.Value.object [("data", .object [("items", .string "none")])]).compact) =
        some (.object [("data", .object [("items", .string "none")])]) :=
    bodyJson?_sampleReplyOf (by decide +kernel) (by decide +kernel)
  have hnot : ¬HoldsPage (.object [("data", .object [("items", .string "none")])]) := by
    rw [holdsPage_iff rfl]
    rintro ⟨data, h⟩
    cases h
  exact ⟨hnot, ((run_readPage_shape htarget hkey rfl hjson nofun List.range).2 hnot).1⟩

/-- An empty array is no data in the documented shape, but it is read as a page without entries and
without a continuation: from wherever it was, the caller is sent back to the start of the feed. -/
theorem run_readPage_of_empty_array :
    ¬IsDocumented (.array []) ∧
      (readPage sampleConfig "http://wire.test/feed?page=9" "key").run.run
          (answering (.object [("data", .array [])])) List.range .empty =
        (.ok ⟨[], "http://wire.test/feed&include=*", 0⟩,
          { Trace.empty with
            seen := [⟨{ sampleUrl with query := some "page=9".toList },
              pageFields sampleConfig (some ⟨"x-api-key", "key"⟩)⟩] }) := by
  have htarget : target (sampleConfig.source.pageUrl "http://wire.test/feed?page=9") =
      .ok { sampleUrl with query := some "page=9".toList } := by decide +kernel
  have hkey : keyField sampleConfig.source "key" = .ok ⟨"x-api-key", "key"⟩ := by decide +kernel
  have hjson : bodyJson? (sampleReplyOf (Json.Value.object [("data", .array [])]).compact) =
      some (.object [("data", .array [])]) :=
    bodyJson?_sampleReplyOf (by decide +kernel) (by decide +kernel)
  have hfetch := run_fetchAt_of_final (n := answering (.object [("data", .array [])]))
    (s := List.range) (t := .empty) htarget hkey rfl (.data hjson rfl) nofun
  have hdecode : PageData.decoder.ofValue (.array []) = .ok ⟨none, none, none⟩ := rfl
  constructor
  · rintro ⟨members, h, -⟩
    cases h
  · rw [run_readPage_of_data hfetch hdecode]
    rfl

end NewsWire.Poll
