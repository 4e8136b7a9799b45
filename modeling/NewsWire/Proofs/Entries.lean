import NewsWire.Proofs.Fields
import NewsWire.Proofs.Reference
import NewsWire.Proofs.Shape

/-!
# Entries stand for themselves

The entries of a page are read one by one. An entry gives an item, or it gives an event that says
why it has none (`Yields`): that nothing is there to be read, or that what is there is no item.

So an entry cannot do harm to the rest of its page. Whatever value is put in its place, the page is
read all the same, the cursor after it is the same, and what the other entries give stays as it was
and where it was (`run_readPage_replaceEntry`).

The data of a page may be an object or an array of its fields, and an entry is replaced in either
(`ofValue_replaceEntry`). What a record is read as depends on what is found under the names of its
fields, and this is put together from the fields (`Fields.toOption_ofMembers_seq`).
-/

namespace NewsWire.Json

/-! ## Replacing an item of an array -/

/-- The value with another item in a place of it, if it is an array. -/
def Value.setItem (v : Value) (i : ℕ) (item : Value) : Value :=
  match v with
  | .array items => .array (items.set i item)
  | v => v

theorem Decoder.ofValue_list_any (items : List Value) :
    (list any).ofValue (.array items) = .ok items := by
  have hitems : items.mapM any.ofValue = .ok (items.map id) := List.mapM_pure
  rw [List.map_id] at hitems
  exact hitems

theorem Decoder.ofValue_optional_list_any (items : List Value) :
    (list any).optional.ofValue (.array items) = .ok (some items) :=
  congrArg (Except.map some) (ofValue_list_any items)

/-- Where an array is asked for that may be null, replacing an item replaces it in what is read. -/
theorem Decoder.ofValue_setItem (v : Value) (i : ℕ) (item : Value) :
    (list any).optional.ofValue (v.setItem i item) =
      ((list any).optional.ofValue v).map fun items ↦ items.map (·.set i item) := by
  rcases v with _ | _ | _ | _ | items | _
  case array =>
    rw [Value.setItem, ofValue_optional_list_any, ofValue_optional_list_any]
    rfl
  all_goals rfl

end NewsWire.Json

namespace NewsWire.Feed

open NewsWire.Json

variable {v entry : Value} {data : PageData}

/-! ## What an entry holds -/

/-- What an entry holds for an item: the member of an object, or the only value of an array. Null is
nothing. -/
inductive HoldsItem : Value → Value → Prop
  | member {members : Members} {v : Value} :
      members.lookup "item" = some v → v ≠ .null → HoldsItem (.object members) v
  | only {v : Value} : v ≠ .null → HoldsItem (.array [v]) v

theorem ofValue_optional_any_iff {w : Value} :
    Decoder.any.optional.ofValue w = .ok (some v) ↔ w = v ∧ v ≠ .null := by
  constructor
  · intro h
    refine ⟨?_, ?_⟩
    · rcases w with _ | _ | _ | _ | _ | _ <;> cases h <;> rfl
    · rintro rfl
      rcases w with _ | _ | _ | _ | _ | _ <;> cases h
  · rintro ⟨rfl, hnull⟩
    rcases w with _ | _ | _ | _ | _ | _
    · exact absurd rfl hnull
    all_goals rfl

theorem entryDecoder_array_eq_some_iff {items : List Value} :
    entryDecoder.ofValue (.array items) = .ok (some v) ↔ items = [v] ∧ v ≠ .null := by
  rw [entryDecoder, Fields.ofValue_record_array]
  rcases items with _ | ⟨w, rest⟩
  · constructor
    · intro h
      cases h
    · rintro ⟨h, -⟩
      cases h
  · -- The only field takes the first value, and nothing may be left.
    have hitems (expected : String) :
        (Fields.optional "item" Decoder.any).ofItems expected 0 (w :: rest) =
          (Decoder.any.optional.ofValue w).map (·, rest) := rfl
    rw [hitems]
    constructor
    · intro h
      cases hw : Decoder.any.optional.ofValue w with
      | error m =>
        rw [hw] at h
        cases h
      | ok held =>
        rw [hw] at h
        rcases rest with _ | ⟨w', rest⟩
        · rw [Except.ok.inj h, ofValue_optional_any_iff] at hw
          exact ⟨by rw [hw.1], hw.2⟩
        · cases h
    · rintro ⟨h, hnull⟩
      rcases List.cons.inj h with ⟨rfl, rfl⟩
      rw [ofValue_optional_any_iff.mpr ⟨rfl, hnull⟩]
      rfl

theorem entryDecoder_object_eq_some_iff {members : Members} :
    entryDecoder.ofValue (.object members) = .ok (some v) ↔
      members.lookup "item" = some v ∧ v ≠ .null := by
  rw [entryDecoder, ← toOption_eq_some_iff, Fields.toOption_ofValue_record_object,
    Fields.toOption_ofMembers_optional]
  rcases members.lookup "item" with _ | w
  · constructor
    · intro h
      cases h
    · rintro ⟨h, -⟩
      cases h
  · rw [Option.elim_some, toOption_eq_some_iff, ofValue_optional_any_iff, Option.some.injEq]

theorem entryDecoder_eq_some_iff :
    entryDecoder.ofValue entry = .ok (some v) ↔ HoldsItem entry v := by
  constructor
  · intro h
    rcases entry with _ | _ | _ | _ | items | members
    case array =>
      rcases entryDecoder_array_eq_some_iff.mp h with ⟨rfl, hnull⟩
      exact .only hnull
    case object =>
      rcases entryDecoder_object_eq_some_iff.mp h with ⟨hlookup, hnull⟩
      exact .member hlookup hnull
    all_goals cases h
  · rintro (⟨hlookup, hnull⟩ | hnull)
    · exact entryDecoder_object_eq_some_iff.mpr ⟨hlookup, hnull⟩
    · exact entryDecoder_array_eq_some_iff.mpr ⟨rfl, hnull⟩

theorem readEntry_of_not_holds (h : ∀ v, ¬HoldsItem entry v) :
    readEntry entry = .error .missing := by
  rw [readEntry]
  split
  · next hread => exact absurd (entryDecoder_eq_some_iff.mp hread) (h _)
  · rfl

theorem readEntry_of_holds (h : HoldsItem entry v) :
    readEntry entry =
      match Item.decoder.ofValue v with
      | .ok item => .ok item
      | .error m => .error (.malformed (revisionOf v) m) := by
  have hread := entryDecoder_eq_some_iff.mpr h
  rw [readEntry]
  split
  · next hread' =>
    rw [hread] at hread'
    obtain rfl := Option.some.inj (Except.ok.inj hread')
    rfl
  · next hnot => exact absurd hread (hnot v)

/-! ## Replacing an entry

The data of a page has two shapes, and a replacement must not change which of them it has. That the
rest of the data stays is said of what is found for the fields, where the two shapes are no longer
told apart. -/

/-- The data of a page with another value in the place of an entry, whichever of its two shapes it
has. -/
def replaceEntry (i : ℕ) (entry : Value) : Value → Value
  | .object members => .object (Members.alter "items" (·.setItem i entry) members)
  | .array fields => .array (fields.modify 1 (·.setItem i entry))
  | v => v

/-- The data of a page by what is found for its fields. -/
def readFields (count entries next : Option Value) : Option PageData :=
  (count.elim (some none) fun v ↦ (Decoder.word64.optional.ofValue v).toOption).bind fun count ↦
    (entries.elim (some none) fun v ↦
        ((Decoder.list .any).optional.ofValue v).toOption).bind fun entries ↦
      (next.elim (some none) fun v ↦ (Decoder.text.optional.ofValue v).toOption).map fun next ↦
        ⟨count, entries, next⟩

theorem toOption_ofValue_object (members : Members) :
    (PageData.decoder.ofValue (.object members)).toOption =
      readFields (members.lookup "current_item_count") (members.lookup "items")
        (members.lookup "next_page") := by
  rw [PageData.decoder, Fields.toOption_ofValue_record_object, Fields.toOption_ofMembers_seq,
    Fields.toOption_ofMembers_seq, Fields.toOption_ofMembers_map,
    Fields.toOption_ofMembers_optional, Fields.toOption_ofMembers_optional,
    Fields.toOption_ofMembers_optional, readFields]
  simp [Option.map_eq_bind, Option.bind_assoc]

theorem toOption_ofValue_array (fields : List Value) :
    (PageData.decoder.ofValue (.array fields)).toOption =
      if fields.length ≤ 3 then readFields fields[0]? fields[1]? fields[2]? else none := by
  have hlength : fields.tail.tail.tail = [] ↔ fields.length ≤ 3 := by
    rw [← List.length_eq_zero_iff, List.length_tail, List.length_tail, List.length_tail]
    omega
  rw [PageData.decoder, Fields.toOption_ofValue_record_array, Fields.toOption_ofItems_seq,
    Fields.toOption_ofItems_seq, Fields.toOption_ofItems_map]
  by_cases h : fields.length ≤ 3
  · simp [Fields.toOption_ofItems_optional, readFields, Option.map_eq_bind, Option.bind_assoc,
      List.head?_eq_getElem?, hlength, h]
  · simp [Fields.toOption_ofItems_optional, Option.map_eq_bind, Option.bind_assoc, hlength, h]

theorem readFields_setItem (count entries next : Option Value) (i : ℕ) (entry : Value) :
    readFields count (entries.map (·.setItem i entry)) next =
      (readFields count entries next).map fun data ↦
        { data with entries := data.entries.map (·.set i entry) } := by
  have hentries : ((entries.map (·.setItem i entry)).elim (some none) fun v ↦
      ((Decoder.list .any).optional.ofValue v).toOption) =
      (entries.elim (some none) fun v ↦ ((Decoder.list .any).optional.ofValue v).toOption).map
        fun found ↦ found.map (·.set i entry) := by
    rcases entries with _ | v
    · rfl
    · rw [Option.map_some, Option.elim_some, Option.elim_some, Decoder.ofValue_setItem]
      cases (Decoder.list .any).optional.ofValue v <;> rfl
  rw [readFields, readFields, hentries]
  simp [Option.map_eq_bind, Option.bind_assoc]

/-- With another value in the place of an entry the data of a page are the same but for this
entry. -/
theorem ofValue_replaceEntry (h : PageData.decoder.ofValue v = .ok data) (i : ℕ) (entry : Value) :
    PageData.decoder.ofValue (replaceEntry i entry v) =
      .ok { data with entries := data.entries.map (·.set i entry) } := by
  rw [← toOption_eq_some_iff] at h ⊢
  rcases v with _ | _ | _ | _ | fields | members
  case array =>
    rw [toOption_ofValue_array] at h
    rw [replaceEntry, toOption_ofValue_array, List.length_modify]
    split at h
    · next hlength =>
      have hplaces : ∀ j, (fields.modify 1 (·.setItem i entry))[j]? =
          fields[j]?.map fun v ↦ if 1 = j then v.setItem i entry else v := by
        intro j
        rw [List.getElem?_modify]
        rfl
      rw [if_pos hlength, hplaces, hplaces, hplaces]
      simp [readFields_setItem, h]
    · cases h
  case object =>
    have hcount := Members.lookup_alter "items" "current_item_count" (·.setItem i entry) members
    have hentries := Members.lookup_alter "items" "items" (·.setItem i entry) members
    have hnext := Members.lookup_alter "items" "next_page" (·.setItem i entry) members
    rw [if_neg (by decide), Option.map_id, id] at hcount hnext
    rw [if_pos rfl] at hentries
    rw [toOption_ofValue_object] at h
    rw [replaceEntry, toOption_ofValue_object, hcount, hentries, hnext, readFields_setItem, h,
      Option.map_some]
  all_goals cases h

end NewsWire.Feed

namespace NewsWire.Poll

open NewsWire.Feed NewsWire.Json

variable {c : Config} {cursor credential : String} {n n' : Network} {s s' : Schedule}
  {t t' u u' : Trace} {value entry : Json.Value} {data : PageData}

/-! ## What entries give

`Yields` judges an entry by what it holds, and not by what the reader makes of it, so it can be
checked against a page as it came. Lists of items and of events are then taken entry by entry, and a
page splits at the entry that is replaced. -/

def entryDrop? (entry : Json.Value) : Option Event :=
  match readEntry entry with
  | .ok _ => none
  | .error fault => some (faultEvent fault)

/-- What an entry gives: an item that is read of what it holds, or an event that says why there is
none. -/
inductive Yields (entry : Json.Value) : List Item → List Event → Prop
  | item {v : Json.Value} {item : Item} :
      HoldsItem entry v → Item.decoder.ofValue v = .ok item → Yields entry [item] []
  | malformed {v : Json.Value} {m : Mismatch} :
      HoldsItem entry v → Item.decoder.ofValue v = .error m →
        Yields entry [] [.itemDropped (revisionOf v) (.malformedItem m)]
  | missing : (∀ v, ¬HoldsItem entry v) → Yields entry [] [.itemDropped none .missingItem]

theorem Yields.missing_iff {items : List Item} {drops : List Event} (h : Yields entry items drops) :
    (∃ revision, drops = [.itemDropped revision .missingItem]) ↔ ∀ v, ¬HoldsItem entry v := by
  rcases h with ⟨hv, -⟩ | ⟨hv, -⟩ | hnot
  · exact iff_of_false nofun fun hnot ↦ hnot _ hv
  · refine iff_of_false ?_ fun hnot ↦ hnot _ hv
    rintro ⟨revision, h⟩
    cases h
  · exact iff_of_true ⟨none, rfl⟩ hnot

def itemsFrom (entries : List Json.Value) : List Item := entries.filterMap entryItem?

def dropsFrom (entries : List Json.Value) : List Event := entries.filterMap entryDrop?

theorem itemsFrom_singleton (entry : Json.Value) :
    itemsFrom [entry] = (readEntry entry).toOption.toList := by
  rw [itemsFrom, toOption_readEntry]
  cases h : entryItem? entry <;> simp [h]

theorem dropsFrom_singleton (entry : Json.Value) :
    dropsFrom [entry] = (entryDrop? entry).toList := by
  rw [dropsFrom]
  cases h : entryDrop? entry <;> simp [h]

theorem yields_entry (entry : Json.Value) :
    Yields entry (itemsFrom [entry]) (dropsFrom [entry]) := by
  rw [itemsFrom_singleton, dropsFrom_singleton, entryDrop?]
  by_cases h : ∃ v, HoldsItem entry v
  · rcases h with ⟨v, hv⟩
    rw [readEntry_of_holds hv]
    cases hitem : Item.decoder.ofValue v with
    | ok item => exact .item hv hitem
    | error m => exact .malformed hv hitem
  · rw [not_exists] at h
    rw [readEntry_of_not_holds h]
    exact .missing h

theorem itemsFrom_append (before after : List Json.Value) :
    itemsFrom (before ++ after) = itemsFrom before ++ itemsFrom after :=
  List.filterMap_append

theorem dropsFrom_append (before after : List Json.Value) :
    dropsFrom (before ++ after) = dropsFrom before ++ dropsFrom after :=
  List.filterMap_append

theorem itemsOf_eq_itemsFrom (data : PageData) : itemsOf data = itemsFrom (entriesOf data) :=
  itemsOf_eq_filterMap data

theorem entryDrops_eq_dropsFrom (data : PageData) :
    entryDrops data = dropsFrom (entriesOf data) := by
  rw [entryDrops, readFaults, List.filterMap_map, List.map_filterMap, dropsFrom]
  congr 1
  funext entry
  rw [Function.comp_apply, entryDrop?]
  cases readEntry entry <;> rfl

theorem run_readPage_of_entries {entries : List Json.Value}
    (hfetch : (fetchAt c cursor credential).run.run n s t = (.ok value, u))
    (hdata : PageData.decoder.ofValue value = .ok data) (hentries : entriesOf data = entries) :
    (readPage c cursor credential).run.run n s t =
      (.ok ⟨itemsFrom entries, c.source.nextCursor data.nextPage, (dropsFrom entries).length⟩,
        u.tell (dropsFrom entries)) := by
  rw [run_readPage_of_data hfetch hdata, ← hentries, ← itemsOf_eq_itemsFrom,
    ← entryDrops_eq_dropsFrom, ← skipped_pageOf c.source]
  rfl

/-- **A bad entry does no harm to its page.** Put any value in the place of an entry: both pages are
read, the cursor after them is the same, and what the entries before and after it give is the same,
in the same order. Each entry gives an item or an event, all events are counted, and an item is
missing exactly where nothing is held. -/
theorem run_readPage_replaceEntry {before after : List Json.Value}
    (hfetch : (fetchAt c cursor credential).run.run n s t = (.ok value, u))
    (hdata : PageData.decoder.ofValue value = .ok data)
    (hentries : entriesOf data = before ++ entry :: after) (other : Json.Value)
    (hfetch' : (fetchAt c cursor credential).run.run n' s' t' =
      (.ok (replaceEntry before.length other value), u')) :
    (readPage c cursor credential).run.run n s t =
        (.ok ⟨itemsFrom before ++ (itemsFrom [entry] ++ itemsFrom after),
            c.source.nextCursor data.nextPage,
            (dropsFrom before ++ (dropsFrom [entry] ++ dropsFrom after)).length⟩,
          u.tell (dropsFrom before ++ (dropsFrom [entry] ++ dropsFrom after))) ∧
      (readPage c cursor credential).run.run n' s' t' =
        (.ok ⟨itemsFrom before ++ (itemsFrom [other] ++ itemsFrom after),
            c.source.nextCursor data.nextPage,
            (dropsFrom before ++ (dropsFrom [other] ++ dropsFrom after)).length⟩,
          u'.tell (dropsFrom before ++ (dropsFrom [other] ++ dropsFrom after))) ∧
      ∀ e, Yields e (itemsFrom [e]) (dropsFrom [e]) ∧
        ((∃ revision, dropsFrom [e] = [.itemDropped revision .missingItem]) ↔
          ∀ v, ¬HoldsItem e v) := by
  have hreplaced := ofValue_replaceEntry hdata before.length other
  have hentries' : entriesOf { data with entries := data.entries.map (·.set before.length other) } =
      before ++ other :: after := by
    rw [entriesOf] at hentries ⊢
    cases hfound : data.entries with
    | none =>
      rw [hfound] at hentries
      simp at hentries
    | some entries =>
      rw [hfound, Option.getD_some] at hentries
      simp [hentries]
  simp only [← itemsFrom_append, ← dropsFrom_append, List.singleton_append]
  have hread := run_readPage_of_entries hfetch hdata hentries
  have hread' := run_readPage_of_entries hfetch' hreplaced hentries'
  exact ⟨hread, hread', fun e ↦ ⟨yields_entry e, (yields_entry e).missing_iff⟩⟩

/-- The entry of something that is no item, because its authors are not listed. -/
def sampleMisfit : Json.Value :=
  .object [("item", .object [("altids", .object [("etag", .string "m")]),
    ("bylines", .string "By Nobody")])]

/-- The sample page with such an entry in place of the one that holds nothing. -/
def sampleReplaced : Json.Value :=
  .object [("items", .array [sampleStory "http://wire.test/1", sampleMisfit,
    sampleStory "http://wire.test/2"])]

theorem run_readPage_replaceEntry_sample :
    ∃ u u', (fetchAt sampleConfig "" "key").run.run sampleNetwork List.range .empty =
        (.ok (.object [("items", .array sampleEntries)]), u) ∧
      (fetchAt sampleConfig "" "key").run.run (answering (.object [("data", sampleReplaced)]))
        List.range .empty = (.ok sampleReplaced, u') ∧
      (readPage sampleConfig "" "key").run.run sampleNetwork List.range .empty =
        (.ok ⟨itemsFrom [sampleStory "http://wire.test/1", sampleStory "http://wire.test/2"],
          "http://wire.test/feed&include=*", 1⟩, u.tell [.itemDropped none .missingItem]) ∧
      (readPage sampleConfig "" "key").run.run (answering (.object [("data", sampleReplaced)]))
        List.range .empty =
        (.ok ⟨itemsFrom [sampleStory "http://wire.test/1", sampleStory "http://wire.test/2"],
          "http://wire.test/feed&include=*", 1⟩,
          u'.tell [.itemDropped (some "m")
            (.malformedItem (.wrongType (.string "By Nobody") "a sequence"))]) := by
  have hkey : keyField sampleConfig.source "key" = .ok ⟨"x-api-key", "key"⟩ := by decide +kernel
  have htarget : Http.target (sampleConfig.source.pageUrl "") = .ok sampleUrl := by decide +kernel
  have hjson : bodyJson? (sampleReplyOf (Json.Value.object [("data", sampleReplaced)]).compact) =
      some (.object [("data", sampleReplaced)]) :=
    bodyJson?_sampleReplyOf (by decide +kernel) (by decide +kernel)
  have hdata : PageData.decoder.ofValue (.object [("items", .array sampleEntries)]) =
      .ok ⟨none, some sampleEntries, none⟩ := by decide +kernel
  obtain ⟨u, hfetch⟩ := run_fetchAt_sample List.range
  obtain ⟨u', hfetch'⟩ := exists_run_fetchAt_of_reply (s := List.range) (t := .empty)
    (n := answering (.object [("data", sampleReplaced)])) htarget hkey rfl hjson rfl
  have hentries : entriesOf ⟨none, some sampleEntries, none⟩ =
      [sampleStory "http://wire.test/1"] ++ .object [] :: [sampleStory "http://wire.test/2"] := rfl
  obtain ⟨hread, hread', -⟩ := run_readPage_replaceEntry hfetch hdata hentries sampleMisfit hfetch'
  exact ⟨u, u', hfetch, hfetch', hread, hread'⟩

end NewsWire.Poll
