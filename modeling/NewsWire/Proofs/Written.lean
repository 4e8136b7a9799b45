import NewsWire.Feed.Item
import NewsWire.Payload.Transform
import NewsWire.Proofs.Restore

/-!
# Items that are written

Items are written as JSON with all their fields, the absent ones as null, and come back as they were
(`Item.inverts_encode`). The decoder of each part undoes its encoder (`Decoder.Inverts`), and this
is put together in the way an item is. Lenient numbers are the one part whose decoder takes more
than the encoder writes, and a number that is written is not taken for a text.

The renditions of an item are found by their formats, and there is no fixed order in which they are
written. As the formats differ, what is read is the same item in every order
(`Item.ofValue_of_writes`).

Equality of items is therefore too much to ask, and equality of what is looked up in them is not
enough, since associations are handed on in their order. `Item.SameAs` is equality of all fields but
one, and permutation of that one.
-/

namespace NewsWire.Json

variable {α : Type} {encode : α → Value} {d : Decoder α}

/-! ## Decoders of what is written -/

namespace Decoder

def Inverts (d : Decoder α) (encode : α → Value) : Prop := ∀ a, d.ofValue (encode a) = .ok a

theorem inverts_text : text.Inverts .string := fun _ ↦ rfl

/-- What is absent is written as null. -/
theorem Inverts.orNull (h : d.Inverts encode) (hnull : ∀ a, encode a ≠ .null) :
    d.optional.Inverts fun o ↦ o.elim .null encode := by
  rintro (_ | a)
  · rfl
  · change d.optional.ofValue (encode a) = .ok (some a)
    rw [ofValue_optional (hnull a), h a]
    rfl

theorem Inverts.list (h : d.Inverts encode) : d.list.Inverts fun as ↦ .array (as.map encode) :=
  fun _ ↦ mapM_ofValue fun a _ ↦ h a

theorem Inverts.map (h : d.Inverts encode) :
    d.map.Inverts fun entries ↦ .object (entries.map fun (k, a) ↦ (k, encode a)) := by
  intro entries
  rw [Decoder.map]
  simp only
  induction entries with
  | nil => rfl
  | cons entry entries ih =>
    rw [List.map_cons, List.mapM_cons, h entry.2, ih]
    rfl

/-- A number is taken as it is, and not as a text that may hold one. -/
theorem ofValue_lenient_ofInt {r : IntRange} {i : ℤ} (hmin : r.min ≤ i) (hmax : i ≤ r.max) :
    (lenient r).ofValue (.ofInt i) = .ok (some i) := by
  rw [lenient, Value.ofInt]
  simp only [check_of_mem hmin hmax]

theorem inverts_lenientWord64 : lenientWord64.Inverts .ofWord64? := by
  rintro (_ | n)
  · rfl
  · obtain ⟨hmin, hmax⟩ := mem_range_word64 n
    change ((lenient .word64).ofValue (.ofInt n.toNat)).map _ = _
    rw [ofValue_lenient_ofInt hmin hmax, Except.map, Option.map_some, Int.toNat_natCast,
      UInt64.ofNat_toNat]

theorem inverts_lenientInt64 : lenientInt64.Inverts .ofInt64? := by
  rintro (_ | i)
  · rfl
  · obtain ⟨hmin, hmax⟩ := mem_range_int64 i
    change ((lenient .int64).ofValue (.ofInt i.toInt)).map _ = _
    rw [ofValue_lenient_ofInt hmin hmax, Except.map, Option.map_some, Int64.ofInt_toInt]

end Decoder

theorem Decoder.Inverts.finds (h : d.Inverts encode) (name : String) (default a : α) :
    (Fields.withDefault name default d).Finds [(name, some (encode a))] a :=
  Fields.finds_field (h a) (some default)

end NewsWire.Json

namespace NewsWire.Feed

open NewsWire.Json

/-! ## The parts of an item -/

theorem inverts_text? : Decoder.text.optional.Inverts .ofText? := Decoder.inverts_text.orNull nofun

theorem AltIds.inverts_encode : AltIds.decoder.Inverts AltIds.encode := by
  intro ids
  have hfields := (inverts_text?.finds "etag" none ids.etag).map AltIds.mk
    |>.seq (inverts_text?.finds "itemid" none ids.itemId)
  exact hfields.record "AltIds" (by simp)

theorem Byline.inverts_encode : Byline.decoder.Inverts Byline.encode := by
  intro b
  exact ((inverts_text?.finds "by" none b.author).map Byline.mk).record "Byline" (by simp)

theorem Subject.inverts_encode : Subject.decoder.Inverts Subject.encode := by
  intro s
  have hfields := (inverts_text?.finds "name" none s.name).map Subject.mk
    |>.seq (Decoder.inverts_text.list.finds "rels" [] s.relations)
  exact hfields.record "Subject" (by simp)

theorem inverts_altIds? :
    AltIds.decoder.optional.Inverts fun ids ↦ ids.elim .null AltIds.encode :=
  AltIds.inverts_encode.orNull nofun

theorem Association.inverts_encode : Association.decoder.Inverts Association.encode := by
  intro a
  have hfields := (inverts_text?.finds "type" none a.kind).map Association.mk
    |>.seq (inverts_text?.finds "itemid" none a.itemId)
    |>.seq (inverts_altIds?.finds "altids" none a.altIds)
  exact hfields.record "Association" (by simp)

theorem Rendition.inverts_encode : Rendition.decoder.Inverts Rendition.encode := by
  intro r
  exact ((inverts_text?.finds "href" none r.href).map Rendition.mk).record "Rendition" (by simp)

/-! ## Items -/

namespace Item

theorem inverts_encode : Item.decoder.Inverts Item.encode := by
  intro item
  have hfields := (inverts_altIds?.finds "altids" none item.altIds).map Item.mk
    |>.seq (Decoder.inverts_lenientWord64.finds "version" none item.version)
    |>.seq (inverts_text?.finds "type" none item.kind)
    |>.seq (inverts_text?.finds "pubstatus" none item.status)
    |>.seq (inverts_text?.finds "firstcreated" none item.firstCreated)
    |>.seq (inverts_text?.finds "versioncreated" none item.versionCreated)
    |>.seq (inverts_text?.finds "title" none item.title)
    |>.seq (inverts_text?.finds "headline" none item.headline)
    |>.seq (Decoder.inverts_lenientInt64.finds "urgency" none item.urgency)
    |>.seq (inverts_text?.finds "ednote" none item.editorNote)
    |>.seq (Byline.inverts_encode.list.finds "bylines" [] item.bylines)
    |>.seq (Subject.inverts_encode.list.finds "subject" [] item.subjects)
    |>.seq (Decoder.inverts_text.list.finds "keywords" [] item.keywords)
    |>.seq (Association.inverts_encode.map.finds "associations" [] item.associations)
    |>.seq (Rendition.inverts_encode.map.finds "renditions" [] item.renditions)
  exact hfields.object "RawFeedItem" (by simp) (by simp [Value.ofTexts])

/-- The value is the item as JSON, with its renditions in some order. -/
def Writes (item : Item) (v : Value) : Prop :=
  ∃ order : List (String × Rendition), order.Perm item.renditions ∧
    v = { item with renditions := order }.encode

/-- The items are equal, where the order of the renditions does not count. -/
structure SameAs (item item' : Item) : Prop where
  others : { item with renditions := item'.renditions } = item'
  perm : item.renditions.Perm item'.renditions
  lookup_eq : ∀ format, item.renditions.lookup format = item'.renditions.lookup format

variable {item item' : Item} {v : Value}

theorem SameAs.revision_eq (h : item.SameAs item') : item.revision = item'.revision := by
  rw [← h.others]
  rfl

theorem SameAs.rendition?_eq (h : item.SameAs item') (format : String) :
    item.rendition? format = item'.rendition? format := by
  ext href
  rw [rendition?_eq_some_iff, rendition?_eq_some_iff, h.lookup_eq]

theorem SameAs.associations_eq (h : item.SameAs item') :
    item.associations = item'.associations := by
  rw [← h.others]

theorem SameAs.payload_eq (h : item.SameAs item') (feedTag document : String)
    (content : Article.Content) :
    Payload.ofItem feedTag item document content =
      Payload.ofItem feedTag item' document content := by
  rw [← h.others]
  rfl

/-- **Items come back as they were.** Whatever the order in which the renditions of an item are
written, what is read is the item, with its associations in their order. So its revision, the
address of each rendition, the names of its associated items and its payload for every document are
the same. -/
theorem ofValue_of_writes (hkeys : (item.renditions.map Prod.fst).Nodup) (hv : item.Writes v) :
    ∃ read, Item.decoder.ofValue v = .ok read ∧ read.SameAs item ∧
      read.revision = item.revision ∧
      (∀ format, read.rendition? format = item.rendition? format) ∧
      (read.associations.map fun a ↦ a.2.mediaId) = (item.associations.map fun a ↦ a.2.mediaId) ∧
      ∀ feedTag document content,
        Payload.ofItem feedTag read document content =
          Payload.ofItem feedTag item document content := by
  obtain ⟨order, horder, rfl⟩ := hv
  have hsame : SameAs { item with renditions := order } item :=
    ⟨rfl, horder, lookup_eq_of_perm hkeys horder⟩
  exact ⟨_, inverts_encode _, hsame, hsame.revision_eq, hsame.rendition?_eq,
    by rw [hsame.associations_eq], hsame.payload_eq⟩

def sample : Item where
  altIds := some ⟨some "1_2", some "1"⟩
  version := some 2
  kind := some "text"
  status := none
  firstCreated := none
  versionCreated := none
  title := none
  headline := some "War \"ends\""
  urgency := some (-5)
  editorNote := none
  bylines := [⟨none⟩]
  subjects := [⟨some "War", ["direct"]⟩]
  keywords := ["peace talks"]
  associations := [("3", ⟨some "picture", some "c", none⟩), ("1", ⟨some "picture", some "a", none⟩)]
  renditions := [("nitf", ⟨some "https://doc.test/1"⟩), ("text", ⟨none⟩)]

theorem ofValue_of_writes_sample :
    (sample.renditions.map Prod.fst).Nodup ∧
      sample.Writes { sample with renditions := sample.renditions.reverse }.encode ∧
      ∃ read, Item.decoder.ofValue
          { sample with renditions := sample.renditions.reverse }.encode = .ok read ∧
        read.SameAs sample ∧ read.revision = some "1_2" ∧
        read.rendition? "nitf" = some "https://doc.test/1" ∧
        (read.associations.map fun a ↦ a.2.mediaId) = [some "c", some "a"] := by
  have hkeys : (sample.renditions.map Prod.fst).Nodup := by decide
  have hwrites : sample.Writes { sample with renditions := sample.renditions.reverse }.encode :=
    ⟨_, List.reverse_perm _, rfl⟩
  obtain ⟨read, hread, hsame, hrevision, hrendition, hmedia, -⟩ := ofValue_of_writes hkeys hwrites
  exact ⟨hkeys, hwrites, read, hread, hsame, hrevision, hrendition "nitf", hmedia⟩

end Item

end NewsWire.Feed
