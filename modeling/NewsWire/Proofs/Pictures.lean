import NewsWire.Proofs.Entries
import NewsWire.Proofs.Recognized
import NewsWire.Proofs.Repeated

/-!
# Pictures in the order of the text

The names of the pictures of a payload follow the text of the page. The associations of an item are
kept in the order in which their keys first come in the text, each with what the text gives its key
last, and the pictures among them are named in this order, however often one of them is named
(`imageIds_of_textOf`).

Two maps are read on the way, and only of the associations does the order count. The renditions of
an item are looked up by their formats, so a text that writes them in another order comes to the
same payload.

An association says in up to three places what it is and how it is named, and the places are those
of the text (`pictureId?`). Everything between the text and the payload goes by these places alone.
-/

namespace NewsWire.Json

/-! ## What is written in a place

These are functions of the tree that a text writes, in which a key may stand several times, so that
what the theorem says can be compared with the text without collapsing anything by hand. -/

def Value.items : Value → List Value
  | .array items => items
  | _ => []

def Value.members : Value → Members
  | .object members => members
  | _ => []

/-- A text that may be null or left out is the string that is written for it. -/
theorem eq_bind_string? {found : Option Value} {text : Option String}
    (h : ((found.map Value.collapsed).elim (some none) fun v ↦
      (Decoder.text.optional.ofValue v).toOption) = some text) :
    text = found.bind Value.string? := by
  rcases found with _ | v
  · exact (Option.some.inj h).symm
  · rcases v with _ | _ | _ | _ | _ | _ <;> cases h <;> rfl

theorem Decoder.relates_optional_any {R : Value → Value → Prop}
    (hR : ∀ v v', R v v' → (v = .null ↔ v' = .null)) :
    any.optional.Relates R (Option.Rel R) := by
  intro v v' hv
  by_cases hnull : v = .null
  · rw [hnull, (hR v v' hv).mp hnull]
    exact .some .none
  · rw [toOption_ofValue_optional hnull, toOption_ofValue_optional (mt (hR v v' hv).mpr hnull)]
    exact .some (.some hv)

/-- The same map is written: whatever order its members have, each key has the same value in the
end. -/
inductive SameMap : Value → Value → Prop
  | object {members members' : Members} :
      (∀ key, members.reverse.lookup key = members'.reverse.lookup key) →
      SameMap (.object members) (.object members')

theorem SameMap.of_perm {members members' : Members} (hkeys : (members.map Prod.fst).Nodup)
    (h : members'.Perm members) : SameMap (.object members) (.object members') := by
  refine .object fun key ↦ ?_
  rw [lookup_eq_of_perm hkeys members.reverse_perm,
    lookup_eq_of_perm hkeys (members'.reverse_perm.trans h)]

end NewsWire.Json

namespace NewsWire.Feed

open NewsWire.Json

variable {v w : Value}

/-! ## Associations -/

/-- The name of the picture that an association is written to be. Nothing else has one, nor has a
picture without a name. Its other names come first. -/
def pictureId? (v : Value) : Option String :=
  if (v.field? "type" 0).bind Value.string? = some "picture" then
    (((v.field? "altids" 2).bind (Value.field? "itemid" 1)).bind Value.string?).or
      ((v.field? "itemid" 1).bind Value.string?)
  else none

theorem AltIds.itemId_of_collapsed {ids : AltIds}
    (h : AltIds.decoder.ofValue v.collapsed = .ok ids) :
    ids.itemId = (v.field? "itemid" 1).bind Value.string? := by
  rcases RecordKind.altIds.exists_members h with ⟨members, hmembers, hlookup⟩
  have hitemId := hlookup 1 "itemid" rfl
  rw [← toOption_eq_some_iff, RecordKind.decoder, AltIds.decoder,
    Fields.toOption_ofValue_record_object, Fields.toOption_ofMembers_seq,
    Fields.toOption_ofMembers_map, Fields.toOption_ofMembers_optional,
    Fields.toOption_ofMembers_optional, hitemId] at hmembers
  rcases Option.bind_eq_some_iff.mp hmembers with ⟨_, hfirst, hsecond⟩
  rcases Option.map_eq_some_iff.mp hfirst with ⟨etag, -, rfl⟩
  rcases Option.map_eq_some_iff.mp hsecond with ⟨itemId, hread, rfl⟩
  exact eq_bind_string? hread

/-- Other names that may be null or left out give the name that is written in them. -/
theorem AltIds.bind_itemId {found : Option Value} {ids : Option AltIds}
    (h : ((found.map Value.collapsed).elim (some none) fun v ↦
      (AltIds.decoder.optional.ofValue v).toOption) = some ids) :
    ids.bind AltIds.itemId = (found.bind (Value.field? "itemid" 1)).bind Value.string? := by
  rcases found with _ | v
  · obtain rfl : none = ids := Option.some.inj h
    rfl
  · rw [Option.map_some, Option.elim_some] at h
    by_cases hnull : v = .null
    · subst hnull
      obtain rfl : none = ids := Option.some.inj h
      rfl
    · rw [Decoder.toOption_ofValue_optional (mt Value.collapsed_eq_null_iff.mp hnull)] at h
      rcases Option.map_eq_some_iff.mp h with ⟨ids, hids, rfl⟩
      exact itemId_of_collapsed (toOption_eq_some_iff.mp hids)

/-- What an association is read as names the picture that it is written to be. -/
theorem Association.pictureId?_eq {a : Association}
    (h : Association.decoder.ofValue v.collapsed = .ok a) :
    (if a.kind = some "picture" then a.mediaId else none) = pictureId? v := by
  rcases RecordKind.association.exists_members h with ⟨members, hmembers, hlookup⟩
  have htype := hlookup 0 "type" rfl
  have hitemId := hlookup 1 "itemid" rfl
  have haltIds := hlookup 2 "altids" rfl
  rw [← toOption_eq_some_iff, RecordKind.decoder, Association.decoder,
    Fields.toOption_ofValue_record_object, Fields.toOption_ofMembers_seq,
    Fields.toOption_ofMembers_seq, Fields.toOption_ofMembers_map,
    Fields.toOption_ofMembers_optional, Fields.toOption_ofMembers_optional,
    Fields.toOption_ofMembers_optional, htype, hitemId, haltIds] at hmembers
  rcases Option.bind_eq_some_iff.mp hmembers with ⟨_, hboth, hthird⟩
  rcases Option.bind_eq_some_iff.mp hboth with ⟨_, hfirst, hsecond⟩
  rcases Option.map_eq_some_iff.mp hfirst with ⟨kind, hkind, rfl⟩
  rcases Option.map_eq_some_iff.mp hsecond with ⟨itemId, hid, rfl⟩
  rcases Option.map_eq_some_iff.mp hthird with ⟨ids, hids, rfl⟩
  rw [mediaId, pictureId?, eq_bind_string? hkind, eq_bind_string? hid, AltIds.bind_itemId hids]

theorem imageIds_eq_filterMap (associations : List (String × Association)) :
    Payload.imageIds associations =
      associations.filterMap fun m ↦ if m.2.kind = some "picture" then m.2.mediaId else none := by
  rw [Payload.imageIds, List.filter_map, List.filterMap_map, List.filterMap_filter]
  refine congrArg (List.filterMap · _) (funext fun m ↦ ?_)
  simp only [Function.comp_apply, beq_iff_eq, Payload.pictureKind]

/-- In a map of associations the pictures are named that its members are written to be. -/
theorem imageIds_of_mapM {members : Members} {associations : List (String × Association)}
    (h : (members.mapM fun m ↦
      (Association.decoder.ofValue m.2.collapsed).toOption.map (m.1, ·)) = some associations) :
    Payload.imageIds associations = members.filterMap fun m ↦ pictureId? m.2 := by
  rw [imageIds_eq_filterMap]
  induction members generalizing associations with
  | nil =>
    obtain rfl : [] = associations := Option.some.inj h
    rfl
  | cons m members ih =>
    rw [List.mapM_cons] at h
    rcases Option.bind_eq_some_iff.mp h with ⟨entry, hentry, hmembers⟩
    rcases Option.bind_eq_some_iff.mp hmembers with ⟨rest, hrest, hcons⟩
    rcases Option.map_eq_some_iff.mp hentry with ⟨a, ha, rfl⟩
    obtain rfl : (m.1, a) :: rest = associations := Option.some.inj hcons
    have hpicture := Association.pictureId?_eq (toOption_eq_some_iff.mp ha)
    rw [List.filterMap_cons, List.filterMap_cons, hpicture, ih hrest]

/-! ## Items -/

def writtenAssociations (item : Value) : Members :=
  (item.field? "associations" 13).elim [] Value.members

theorem Item.imageIds_eq {item : Item} (h : Item.decoder.ofValue v.collapsed = .ok item) :
    Payload.imageIds item.associations =
      (writtenAssociations v).kept.filterMap fun m ↦ pictureId? m.2 := by
  rcases RecordKind.item.exists_members h with ⟨members, hmembers, hlookup⟩
  have hread := read_associations hmembers
  rw [hlookup 13 "associations" rfl] at hread
  rw [writtenAssociations]
  rcases hfound : v.field? "associations" 13 with _ | as
  all_goals rw [hfound] at hread
  · obtain hnone : [] = item.associations := Option.some.inj hread
    rw [← hnone]
    rfl
  · rcases as with _ | _ | _ | _ | _ | as
    case object =>
      have hmap : ((Decoder.map Association.decoder).ofValue (Value.object as).collapsed).toOption =
          some item.associations := hread
      rw [Value.collapsed_object, Decoder.toOption_ofValue_map, List.mapM_map] at hmap
      exact imageIds_of_mapM hmap
    all_goals cases hread

/-- The item is written with its renditions in another order. -/
abbrev Reordered : Value → Value → Prop := Changed "renditions" 14 SameMap

/-- What writes the same map is read as one with the same entries. -/
theorem shuffled_of_sameMap (h : SameMap v w) :
    Shuffled (Rearranged Rendition.changes) v.collapsed w.collapsed := by
  rcases h with @⟨members, members', hlookup⟩
  have hperm : members'.kept.Perm members.kept :=
    Members.perm_of_lookup_eq members'.nodup_keys_kept members.nodup_keys_kept fun key ↦ by
      rw [Members.lookup_kept, Members.lookup_kept, hlookup]
  rw [Value.collapsed_object, Value.collapsed_object]
  refine .object (List.forall₂_same.mpr fun m _ ↦ .intro m.1 (.same m.2)) (hperm.map _) ?_
  rw [Value.keys_collapsed]
  exact members'.nodup_keys_kept

theorem rearranged_of_reordered (h : Reordered v w) :
    Rearranged Item.changes v.collapsed w.collapsed := by
  have hsame : ∀ field ∈ Item.changes, ∀ v, field.2 v v := by
    simp [Item.changes, Rearranged.same, Listed.same, Mapped.same, Shuffled.same]
  exact h.rearranged (by decide) rfl hsame fun _ _ ↦ shuffled_of_sameMap

/-! ## Entries -/

def entryAssociations (entry : Value) : Members :=
  (entry.field? "item" 0).elim [] writtenAssociations

/-- An entry holds what is written last for its item. -/
theorem HoldsItem.exists_field? {entry : Value} (h : HoldsItem entry.collapsed v) :
    ∃ w, entry.field? "item" 0 = some w ∧ v = w.collapsed := by
  rcases entry with _ | _ | _ | _ | items | members
  case array =>
    rw [Value.collapsed_array] at h
    generalize hitems : items.map Value.collapsed = collapsed at h
    rcases h with _ | _
    rcases List.map_eq_singleton_iff.mp hitems with ⟨w, rfl, hw⟩
    exact ⟨w, rfl, hw.symm⟩
  case object =>
    rw [Value.collapsed_object] at h
    rcases h with ⟨hlookup, -⟩ | _
    rw [Value.lookup_collapsed, Option.map_eq_some_iff] at hlookup
    rcases hlookup with ⟨w, hw, hcollapsed⟩
    exact ⟨w, hw, hcollapsed.symm⟩
  all_goals cases h

/-- The entry is written with the renditions of its item in another order. -/
abbrev ReorderedEntry : Value → Value → Prop := Changed "item" 0 Reordered

/-- The changes of an entry are those of its item. -/
def entryChanges : List FieldChange := [("item", Rearranged Item.changes)]

theorem relates_entryDecoder :
    entryDecoder.Relates (Rearranged entryChanges) (Option.Rel (Rearranged Item.changes)) := by
  have hany := Decoder.relates_optional_any (R := Rearranged Item.changes) fun _ _ h ↦
    h.eq_null_iff
  refine (Fields.readsPlaces_optional "item" Decoder.any).relates_rearranged (by decide)
    (fun held ↦ rel_of_eq .same rfl) (Fields.relates_withDefault fun _ _ hfound ↦ ?_) "FeedEntry"
  exact hany.rel_read "item" .none (hfound _ List.mem_cons_self)

theorem rearranged_of_reorderedEntry (h : ReorderedEntry v w) :
    Rearranged entryChanges v.collapsed w.collapsed :=
  h.rearranged (by decide) rfl (by simp [entryChanges, Rearranged.same]) fun _ _ ↦
    rearranged_of_reordered

/-! ## Pages -/

def writtenEntries : Value → List Value
  | .object members =>
    ((members.reverse.lookup "data").bind (Value.field? "items" 1)).elim [] Value.items
  | _ => []

end NewsWire.Feed

namespace NewsWire.Poll

open NewsWire.Feed NewsWire.Http NewsWire.Json

variable {c : Config} {cursor credential : String} {n : Network} {s : Schedule} {t u : Trace}
  {v value raw entry entry' : Json.Value} {data : PageData} {payload : Payload}
  {response : Response} {document : String → Except TransportFault String}

theorem entriesOf_of_readFields {found count next : Option Json.Value}
    (h : readFields count (found.map Json.Value.collapsed) next = some data) :
    entriesOf data = (found.elim [] Json.Value.items).map Json.Value.collapsed := by
  rcases Option.bind_eq_some_iff.mp h with ⟨_, -, hrest⟩
  rcases Option.bind_eq_some_iff.mp hrest with ⟨entries, hentries, hlast⟩
  rcases Option.map_eq_some_iff.mp hlast with ⟨_, -, rfl⟩
  rw [entriesOf]
  rcases found with _ | v
  · obtain rfl : none = entries := Option.some.inj hentries
    rfl
  · rcases v with _ | _ | _ | _ | items | _
    case null =>
      obtain rfl : none = entries := Option.some.inj hentries
      rfl
    case array =>
      rw [Option.map_some, Option.elim_some, Json.Value.collapsed_array,
        Decoder.ofValue_optional_list_any] at hentries
      obtain rfl := Option.some.inj hentries
      rfl
    all_goals cases hentries

/-- The entries among the data of a page are those that are written there. -/
theorem entriesOf_of_collapsed (h : PageData.decoder.ofValue v.collapsed = .ok data) :
    entriesOf data =
      ((v.field? "items" 1).elim [] Json.Value.items).map Json.Value.collapsed := by
  rw [← toOption_eq_some_iff] at h
  rcases v with _ | _ | _ | _ | fields | members
  case array =>
    rw [Json.Value.collapsed_array, toOption_ofValue_array] at h
    split at h
    · rw [List.getElem?_map, List.getElem?_map, List.getElem?_map] at h
      exact entriesOf_of_readFields h
    · cases h
  case object =>
    rw [Json.Value.collapsed_object, toOption_ofValue_object, Json.Value.lookup_collapsed,
      Json.Value.lookup_collapsed, Json.Value.lookup_collapsed] at h
    exact entriesOf_of_readFields h
  all_goals cases h

/-- The entries of a page are those that its text writes. -/
theorem entriesOf_eq_map_writtenEntries (hvalue : raw.collapsed.member? "data" = some value)
    (hdata : PageData.decoder.ofValue value = .ok data) :
    entriesOf data = (writtenEntries raw).map Json.Value.collapsed := by
  rcases raw with _ | _ | _ | _ | _ | members
  case object =>
    rw [Json.Value.collapsed_object, Json.Value.member?, Json.Value.lookup_collapsed] at hvalue
    rcases Option.map_eq_some_iff.mp hvalue with ⟨v, hv, rfl⟩
    rw [writtenEntries, hv]
    exact entriesOf_of_collapsed hdata
  all_goals cases hvalue

/-! ## The payload of an entry -/

/-- Reordered entries hold items that differ at most in the order of their renditions. -/
theorem rel_entryItem? (h : ReorderedEntry entry entry') :
    Option.Rel Item.SameAs (entryItem? entry.collapsed) (entryItem? entry'.collapsed) := by
  have hheld := relates_entryDecoder _ _ (rearranged_of_reorderedEntry h)
  exact rel_bind hheld fun _ _ hrel ↦ rel_bind hrel Item.relates_rearranged

theorem itemPayload?_eq_of_sameAs {item item' : Item} (h : item.SameAs item') :
    itemPayload? c document item = itemPayload? c document item' := by
  simp only [itemPayload?, h.rendition?_eq, h.payload_eq]

/-- The order in which renditions are written has no influence on a payload. -/
theorem payload?_eq_of_reordered (h : ReorderedEntry entry entry') :
    payload? c document entry.collapsed = payload? c document entry'.collapsed :=
  rel_eq_iff.mp (rel_bind (rel_entryItem? h) fun _ _ hsame ↦
    rel_eq_iff.mpr (itemPayload?_eq_of_sameAs hsame))

/-- The pictures of a payload are those that the associations of its entry are written to be. -/
theorem imageIds_of_payload? (h : payload? c document entry.collapsed = some payload) :
    payload.body.imageIds = (entryAssociations entry).kept.filterMap fun m ↦ pictureId? m.2 := by
  rcases Option.bind_eq_some_iff.mp h with ⟨item, hentryItem, hitemPayload⟩
  rcases Option.bind_eq_some_iff.mp hitemPayload with ⟨href, -, htext⟩
  rcases Option.bind_eq_some_iff.mp htext with ⟨text, -, hpayload⟩
  rcases Option.bind_eq_some_iff.mp hentryItem with ⟨held, hheld, hvalue⟩
  rcases Option.bind_eq_some_iff.mp hvalue with ⟨v, rfl, hitem⟩
  have hholds := entryDecoder_eq_some_iff.mp (toOption_eq_some_iff.mp hheld)
  rcases hholds.exists_field? with ⟨w, hw, rfl⟩
  obtain rfl := Option.some.inj hpayload
  rw [entryAssociations, hw]
  exact Item.imageIds_eq (toOption_eq_some_iff.mp hitem)

/-! ## Polls

The theorem begins at the bytes of a reply and ends at the payload, and everything between has been
said in terms of what is written: the tree of the text, its entries, the associations of each. What
the reader makes of repeated keys is part of the statement, since a key that comes twice is where
the order of the text and the order of the payload might part. -/

/-- What a poll hands back are payloads of items of its page. -/
theorem exists_item_of_mem {page : Page}
    (hpage : (readPage c cursor credential).run.run n s t = (.ok page, u))
    (hresult : ((pollOnce c credential cursor).run n s t).1.result = .ok response)
    (hpayload : payload ∈ response.payloads) :
    ∃ item ∈ page.items, ∃ text, itemPayload? c (fun _ ↦ .ok text) item = some payload := by
  have hfound := forall₂_foundFor c page.items n s u
  rw [run_pollOnce_of_page hpage] at hresult
  rcases run_resolveAll_cases c page.items n s u with
    ⟨-, _, _, _, -, hresolve, -⟩ | ⟨-, _, hresolve, -⟩
  · rw [hresolve] at hresult
    cases hresult
  · rw [hresolve, conclude, run_complete] at hresult
    obtain rfl := Except.ok.inj hresult
    rcases List.mem_map.mp hpayload with ⟨resolved, hresolved, rfl⟩
    rcases List.mem_filterMap.mp hresolved with ⟨r, hr, hsome⟩
    rcases exists_of_forall₂ hfound hr with ⟨item, hitem, hfor⟩
    rcases hfor with _ | ⟨text, hrendition⟩ | _
    · cases hsome
    · obtain rfl := Option.some.inj hsome
      refine ⟨item, hitem, text, ?_⟩
      rw [itemPayload?, hrendition]
      rfl
    · cases hsome

/-- A reply that brings a page has a text, and the text writes something. -/
theorem exists_textOf_of_bodyJson? {r : Reply}
    (hvalue : (bodyJson? r).bind (Json.Value.member? "data") = some value) :
    ∃ text raw, r.body.bind Text.Utf8.decode? = some text ∧ TextOf raw text := by
  rcases Option.bind_eq_some_iff.mp hvalue with ⟨v, hjson, -⟩
  rcases Option.bind_eq_some_iff.mp hjson with ⟨text, hbody, hparse⟩
  rcases exists_textOf_of_parse (toOption_eq_some_iff.mp hparse) with ⟨raw, htext⟩
  exact ⟨text, raw, hbody, htext⟩

/-- The data of a page are read off what the text of its reply writes. -/
theorem member?_of_textOf {text : List Char} (htext : TextOf raw text) {r : Reply}
    (hbody : r.body.bind Text.Utf8.decode? = some text)
    (hvalue : (bodyJson? r).bind (Json.Value.member? "data") = some value) :
    raw.collapsed.member? "data" = some value := by
  rcases parse_of_textOf htext with ⟨hok, herror⟩
  rw [bodyJson?, hbody, Option.bind_some] at hvalue
  by_cases hfits : raw.FitsIn maxDepth
  · rwa [hok hfits] at hvalue
  · rcases herror hfits with ⟨e, he⟩
    rw [he] at hvalue
    cases hvalue

/-- **Pictures are named in the order of the text.** Take any reply that brings the data which a
poll fetches. Its text writes something, and whatever it writes, each payload that the poll hands
back is that of an entry which is written. Of the associations of the entry one is kept for each
key, in the place of the first and with the value of the last, and the pictures among them are named
in this order. If the renditions of the entry are written in another order, it comes to the same
payload. -/
theorem imageIds_of_textOf {r : Reply}
    (hvalue : (bodyJson? r).bind (Json.Value.member? "data") = some value)
    (hfetch : (fetchAt c cursor credential).run.run n s t = (.ok value, u)) :
    ∃ text, r.body.bind Text.Utf8.decode? = some text ∧ (∃ raw, TextOf raw text) ∧
      ∀ raw, TextOf raw text → ∀ response,
        ((pollOnce c credential cursor).run n s t).1.result = .ok response →
          ∀ payload ∈ response.payloads, ∃ entry ∈ writtenEntries raw,
            (∃ document, payload? c (fun _ ↦ .ok document) entry.collapsed = some payload) ∧
            payload.body.imageIds =
              ((entryAssociations entry).kept.filterMap fun m ↦ pictureId? m.2) ∧
            ∀ entry', ReorderedEntry entry entry' → ∀ document,
              payload? c document entry'.collapsed = payload? c document entry.collapsed := by
  rcases exists_textOf_of_bodyJson? hvalue with ⟨text, raw₀, hbody, hraw₀⟩
  refine ⟨text, hbody, ⟨raw₀, hraw₀⟩, fun raw htext response hresult payload hpayload ↦ ?_⟩
  cases hdata : PageData.decoder.ofValue value with
  | error m =>
    rw [run_pollOnce_of_no_page (run_readPage_of_mismatch hfetch hdata)] at hresult
    cases hresult
  | ok data =>
    rcases exists_item_of_mem (run_readPage_of_data hfetch hdata) hresult hpayload with
      ⟨item, hitem, document, hdocument⟩
    have hentries := entriesOf_eq_map_writtenEntries (member?_of_textOf htext hbody hvalue) hdata
    rw [items_pageOf, itemsOf_eq_filterMap, hentries, List.filterMap_map] at hitem
    rcases List.mem_filterMap.mp hitem with ⟨entry, hentry, hentryItem⟩
    have hpayload? : payload? c (fun _ ↦ .ok document) entry.collapsed = some payload :=
      Option.bind_eq_some_iff.mpr ⟨item, hentryItem, hdocument⟩
    exact ⟨entry, hentry, ⟨document, hpayload?⟩, imageIds_of_payload? hpayload?,
      fun entry' hreordered _ ↦ (payload?_eq_of_reordered hreordered).symm⟩

/-- A story with pictures and a graphic. The key of the first picture comes again with another one,
and the keys are in no order. -/
def pictureEntry (renditions : Members) : Json.Value := .object [("item", .object [
  ("associations", .object [
    ("3", .object [("type", .string "picture"), ("itemid", .string "c")]),
    ("1", .object [("type", .string "picture"), ("itemid", .string "a")]),
    ("4", .object [("type", .string "graphic"), ("itemid", .string "g")]),
    ("3", .object [("type", .string "picture"), ("itemid", .string "d")]),
    ("2", .object [("type", .string "picture"), ("altids", .object [("itemid", .string "b")])])]),
  ("renditions", .object renditions)])]

def pictureRenditions : Members :=
  [("nitf", .object [("href", .string "http://wire.test/1")]), ("text", .object [])]

/-- A page with this story. -/
def picturePage : Json.Value :=
  .object [("data", .object [("items", .array [pictureEntry pictureRenditions])])]

def pictureData : Json.Value :=
  .object [("items", .array [(pictureEntry pictureRenditions).collapsed])]

/-- The network with this page, and with documents everywhere else. -/
def pictureNetwork : Network where
  reaches _ := true
  answer _ r := .reply (sampleReplyOf
    (if r.url = sampleUrl then picturePage.compact else "<p>News.</p>".toList))

theorem textOf_picturePage : TextOf picturePage picturePage.compact := by
  have htext := TextOf.intro blanks_nil blanks_nil
    (picturePage.spells_compact.writes (List.forall_mem_nil _))
  rwa [List.nil_append, List.append_nil] at htext

theorem reorderedEntry_reverse : ReorderedEntry (pictureEntry pictureRenditions)
    (pictureEntry pictureRenditions.reverse) :=
  .object [] [] (.object [_] [] (.of_perm (by decide) (List.reverse_perm _)))

/-- The pictures of the story are named in the order in which their keys first come, and the first
one is that which its key has last. With its renditions the other way round the story comes to the
same payload. -/
theorem imageIds_of_textOf_sample :
    ∃ u response payload,
      (bodyJson? (sampleReplyOf picturePage.compact)).bind (Json.Value.member? "data") =
        some pictureData ∧
      (fetchAt sampleConfig "" "key").run.run pictureNetwork List.range .empty =
        (.ok pictureData, u) ∧
      TextOf picturePage picturePage.compact ∧
      ((pollOnce sampleConfig "key" "").run pictureNetwork List.range .empty).1.result =
        .ok response ∧
      payload ∈ response.payloads ∧ payload.body.imageIds = ["d", "a", "b"] ∧
      ∀ document,
        payload? sampleConfig document (pictureEntry pictureRenditions.reverse).collapsed =
          payload? sampleConfig document (pictureEntry pictureRenditions).collapsed := by
  have hdecode : Text.Utf8.decode? (picturePage.compact.map fun ch ↦ UInt8.ofNat ch.toNat) =
      some picturePage.compact := by decide +kernel
  have hjson : bodyJson? (sampleReplyOf picturePage.compact) = some picturePage.collapsed :=
    bodyJson?_sampleReplyOf hdecode (by decide +kernel)
  have hvalue : (bodyJson? (sampleReplyOf picturePage.compact)).bind
      (Json.Value.member? "data") = some pictureData := by
    rw [hjson]
    rfl
  have hsend : (pictureNetwork.send []
      ⟨sampleUrl, pageFields sampleConfig (some ⟨"x-api-key", "key"⟩)⟩).1 =
        .reply (sampleReplyOf picturePage.compact) := rfl
  have hfetch : ∃ u, (fetchAt sampleConfig "" "key").run.run pictureNetwork List.range .empty =
      (.ok pictureData, u) :=
    exists_run_fetchAt_of_reply target_sampleUrl keyField_sample hsend hjson rfl
  have hcount : (((pollOnce sampleConfig "key" "").run pictureNetwork List.range
      .empty).1.result.toOption.map fun response ↦ response.payloads.length) = some 1 := by
    decide +kernel
  rcases hfetch with ⟨u, hfetch⟩
  rcases Option.map_eq_some_iff.mp hcount with ⟨response, hresponse, hlength⟩
  rcases List.length_eq_one_iff.mp hlength with ⟨payload, hpayloads⟩
  have hresult := toOption_eq_some_iff.mp hresponse
  have hpayload : payload ∈ response.payloads := hpayloads ▸ List.mem_singleton_self payload
  rcases imageIds_of_textOf hvalue hfetch with ⟨text, hbody, -, hpictures⟩
  rw [sampleReplyOf, Option.bind_some, hdecode, Option.some.injEq] at hbody
  subst hbody
  rcases hpictures picturePage textOf_picturePage response hresult payload hpayload with
    ⟨entry, hentry, -, himages, hreordered⟩
  obtain rfl : entry = pictureEntry pictureRenditions := List.mem_singleton.mp hentry
  exact ⟨u, response, payload, hvalue, hfetch, textOf_picturePage, hresult, hpayload,
    himages.trans (by decide), hreordered _ reorderedEntry_reverse⟩

end NewsWire.Poll
