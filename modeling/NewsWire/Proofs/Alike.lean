import Mathlib.Data.List.Forall2
import NewsWire.Proofs.Null

/-!
# Values that are read alike

Two values are read alike if both are refused or what is read of them is related. Readers are put
together from readers, and so is this: a record relates what it is read as if each of its fields
does, where the fields are given what is found under their names (`Fields.Relates.seq`).

A record may also be an array. Then each field is found in its place, and the array is read as the
object that has its values under the names of the fields (`Fields.toOption_ofValue_array`). So what
is shown of objects is shown of arrays.

Success and failure are related at once, by `Option.Rel` on what is read. Two lemmas, one for each,
would have to be kept in step for every combinator, and the second is easily forgotten: that a value
which was refused is refused still.
-/

namespace NewsWire.Json

variable {α β : Type}

/-! ## Related readings -/

/-- Of related values both are refused, or what is read of them is related. -/
def Decoder.Relates (d : Decoder α) (R : Value → Value → Prop) (S : α → α → Prop) : Prop :=
  ∀ v v' : Value, R v v' → Option.Rel S (d.ofValue v).toOption (d.ofValue v').toOption

/-- Of related members both are refused, or what is read of them is related. -/
def Fields.Relates (fields : Fields α) (P : Members → Members → Prop) (S : α → α → Prop) : Prop :=
  ∀ members members' : Members, P members members' →
    Option.Rel S (fields.ofMembers members).toOption (fields.ofMembers members').toOption

theorem rel_eq_iff {a b : Option α} : Option.Rel (· = ·) a b ↔ a = b := by
  constructor
  · rintro (h | _)
    · exact congrArg some h
    · rfl
  · rintro rfl
    rcases a with _ | a
    · exact .none
    · exact .some rfl

theorem rel_of_eq {S : α → α → Prop} (hS : ∀ a, S a a) {a b : Option α} (h : a = b) :
    Option.Rel S a b := by
  subst h
  rcases a with _ | a
  · exact .none
  · exact .some (hS a)

theorem rel_imp {S T : α → α → Prop} (hST : ∀ a b, S a b → T a b) {a b : Option α}
    (h : Option.Rel S a b) : Option.Rel T a b := by
  rcases h with hab | _
  · exact .some (hST _ _ hab)
  · exact .none

theorem rel_perm_trans {a b c : Option (List α)} (h : Option.Rel List.Perm a b)
    (h' : Option.Rel List.Perm b c) : Option.Rel List.Perm a c := by
  rcases h with hperm | _
  · rcases h' with hperm' | _
    exact .some (hperm.trans hperm')
  · exact h'

theorem rel_bind {S : α → α → Prop} {T : β → β → Prop} {a a' : Option α} {f f' : α → Option β}
    (h : Option.Rel S a a') (hf : ∀ b b', S b b' → Option.Rel T (f b) (f' b')) :
    Option.Rel T (a.bind f) (a'.bind f') := by
  rcases h with hb | _
  · exact hf _ _ hb
  · exact .none

theorem rel_map {S : α → α → Prop} {T : β → β → Prop} {a a' : Option α} {f f' : α → β}
    (h : Option.Rel S a a') (hf : ∀ b b', S b b' → T (f b) (f' b')) :
    Option.Rel T (a.map f) (a'.map f') := by
  rcases h with hb | _
  · exact .some (hf _ _ hb)
  · exact .none

/-- If one of two related values is read, the other is read as something related. -/
theorem Decoder.Relates.exists_right {d : Decoder α} {R : Value → Value → Prop} {S : α → α → Prop}
    (h : d.Relates R S) {v v' : Value} (hv : R v v') {a : α} (ha : d.ofValue v = .ok a) :
    ∃ a', d.ofValue v' = .ok a' ∧ S a a' := by
  have hrel := h v v' hv
  rw [toOption_eq_some_iff.mpr ha] at hrel
  rcases ha' : (d.ofValue v').toOption with _ | a'
  · rw [ha'] at hrel
    cases hrel
  · rw [ha'] at hrel
    rcases hrel with ⟨haa'⟩
    exact ⟨a', toOption_eq_some_iff.mp ha', haa'⟩

theorem Decoder.Relates.exists_left {d : Decoder α} {R : Value → Value → Prop} {S : α → α → Prop}
    (h : d.Relates R S) {v v' : Value} (hv : R v v') {a' : α} (ha' : d.ofValue v' = .ok a') :
    ∃ a, d.ofValue v = .ok a ∧ S a a' := by
  have hrel := h v v' hv
  rw [toOption_eq_some_iff.mpr ha'] at hrel
  rcases ha : (d.ofValue v).toOption with _ | a
  · rw [ha] at hrel
    cases hrel
  · rw [ha] at hrel
    rcases hrel with ⟨haa'⟩
    exact ⟨a, toOption_eq_some_iff.mp ha, haa'⟩

/-- Null may only be related to null, which is read as nothing. -/
theorem Decoder.Relates.optional {d : Decoder α} {R : Value → Value → Prop}
    (h : d.Relates R (· = ·)) (hnull : ∀ v v', R v v' → (v = .null ↔ v' = .null)) :
    d.optional.Relates R (· = ·) := by
  intro v v' hv
  rw [rel_eq_iff]
  by_cases hv₀ : v = .null
  · rw [hv₀, (hnull v v' hv).mp hv₀]
  · rw [toOption_ofValue_optional hv₀, toOption_ofValue_optional (mt (hnull v v' hv).mpr hv₀),
      rel_eq_iff.mp (h v v' hv)]

theorem Decoder.Relates.rel_read {d : Decoder α} {R : Value → Value → Prop} {S : α → α → Prop}
    (h : d.Relates R S) (name : String) {default : α} (hdefault : S default default)
    {found found' : Option Value} (hfound : Option.Rel R found found') :
    Option.Rel S ((Reading.withDefault name default d).read found)
      ((Reading.withDefault name default d).read found') := by
  rcases hfound with hv | _
  · exact h _ _ hv
  · exact .some hdefault

namespace Fields

variable {P : Members → Members → Prop} {S : α → α → Prop} {T : β → β → Prop}

theorem relates_withDefault {name : String} {default : α} {d : Decoder α}
    (h : ∀ members members', P members members' →
      Option.Rel S ((Reading.withDefault name default d).read (members.lookup name))
        ((Reading.withDefault name default d).read (members'.lookup name))) :
    (withDefault name default d).Relates P S := by
  intro members members' hP
  rw [toOption_ofMembers_withDefault, toOption_ofMembers_withDefault]
  exact h members members' hP

theorem Relates.seq {fields : Fields (α → β)} {more : Fields α}
    (hf : fields.Relates P fun f f' ↦ ∀ a a', S a a' → T (f a) (f' a'))
    (ha : more.Relates P S) : (fields <*> more).Relates P T := by
  intro members members' hP
  rw [toOption_ofMembers_seq, toOption_ofMembers_seq]
  exact rel_bind (hf members members' hP) fun f f' hff' ↦ rel_map (ha members members' hP) hff'

theorem Relates.map {f : α → β} {more : Fields α} (ha : more.Relates P S)
    (hf : ∀ a a', S a a' → T (f a) (f a')) : (f <$> more).Relates P T := by
  intro members members' hP
  rw [toOption_ofMembers_map, toOption_ofMembers_map]
  exact rel_map (ha members members' hP) hf

theorem Relates.record {fields : Fields α} (h : fields.Relates P S) (name : String)
    {members members' : Members} (hP : P members members') :
    Option.Rel S ((record name fields).ofValue (.object members)).toOption
      ((record name fields).ofValue (.object members')).toOption := by
  rw [toOption_ofValue_record_object, toOption_ofValue_record_object]
  exact h members members' hP

end Fields

/-! ## Lists and maps -/

theorem rel_mapM {R : α → α → Prop} {S : β → β → Prop} {f : α → Option β}
    (hf : ∀ a a', R a a' → Option.Rel S (f a) (f a')) {as as' : List α}
    (h : List.Forall₂ R as as') :
    Option.Rel (List.Forall₂ S) (as.mapM f) (as'.mapM f) := by
  induction h with
  | nil => exact .some .nil
  | cons haa' _ ih =>
    rw [List.mapM_cons, List.mapM_cons]
    exact rel_bind (hf _ _ haa') fun b b' hbb' ↦ rel_bind ih fun bs bs' hbs ↦ .some (.cons hbb' hbs)

/-- In another order the same results come in another order. -/
theorem rel_mapM_of_perm {f : α → Option β} {as as' : List α} (h : as.Perm as') :
    Option.Rel List.Perm (as.mapM f) (as'.mapM f) := by
  induction h with
  | nil => exact .some .nil
  | cons a _ ih =>
    rw [List.mapM_cons, List.mapM_cons]
    refine rel_bind (rel_eq_iff.mpr rfl) ?_
    rintro b _ rfl
    exact rel_bind ih fun bs bs' hperm ↦ .some (List.Perm.cons b hperm)
  | swap a a' as =>
    rw [List.mapM_cons, List.mapM_cons, List.mapM_cons, List.mapM_cons]
    rcases f a with _ | b <;> rcases f a' with _ | b' <;> rcases as.mapM f with _ | bs
    case some.some.some => exact .some (.swap b b' bs)
    all_goals exact .none
  | trans _ _ ih ih' => exact rel_perm_trans ih ih'

/-! ## Arrays -/

/-- Values under different names are found in their places. -/
theorem lookup_zip {names : List String} (hnames : names.Nodup) (items : List Value) {i : ℕ}
    {name : String} (h : names[i]? = some name) : (names.zip items).lookup name = items[i]? := by
  induction names generalizing items i with
  | nil => cases h
  | cons n names ih =>
    rw [List.nodup_cons] at hnames
    rcases items with _ | ⟨v, items⟩
    · rfl
    · rw [List.zip_cons_cons]
      rcases i with _ | i
      · obtain rfl : n = name := Option.some.inj h
        rw [List.lookup_cons_self]
        rfl
      · have hne : name ≠ n := by
          rintro rfl
          exact hnames.1 (List.mem_of_getElem? h)
        rw [List.lookup_cons, beq_eq_false_iff_ne.mpr hne, List.getElem?_cons_succ]
        exact ih hnames.2 items h

namespace Fields

/-- The items of an array are read like the members of every object that has them under these
names. -/
def ReadsPlaces (fields : Fields α) (names : List String) : Prop :=
  ∀ (expected : String) (index : ℕ) (items : List Value) (members : Members),
    (∀ (i : ℕ) (name : String), names[i]? = some name → members.lookup name = items[i]?) →
      (fields.ofItems expected index items).toOption =
        (fields.ofMembers members).toOption.map (·, items.drop names.length)

theorem readsPlaces_withDefault (name : String) (default : α) (d : Decoder α) :
    (withDefault name default d).ReadsPlaces [name] := by
  intro expected index items members h
  rw [toOption_ofMembers_withDefault, h 0 name rfl]
  rcases items with _ | ⟨v, rest⟩
  · rfl
  · have hitems : (withDefault name default d).ofItems expected index (v :: rest) =
        (d.ofValue v).map (·, rest) := rfl
    rw [hitems, List.getElem?_cons_zero, Option.elim_some]
    rcases d.ofValue v with m | a <;> rfl

theorem readsPlaces_optional (name : String) (d : Decoder α) :
    (optional name d).ReadsPlaces [name] :=
  readsPlaces_withDefault name none d.optional

theorem ReadsPlaces.map {more : Fields α} {names : List String} (h : more.ReadsPlaces names)
    (f : α → β) : (f <$> more).ReadsPlaces names := by
  intro expected index items members hmembers
  rw [toOption_ofItems_map, toOption_ofMembers_map, h expected index items members hmembers]
  rcases (more.ofMembers members).toOption with _ | a <;> rfl

theorem ReadsPlaces.seq {fields : Fields (α → β)} {more : Fields α} {names names' : List String}
    (h : fields.ReadsPlaces names) (h' : more.ReadsPlaces names') :
    (fields <*> more).ReadsPlaces (names ++ names') := by
  intro expected index items members hmembers
  have hfirst : ∀ (i : ℕ) name, names[i]? = some name → members.lookup name = items[i]? := by
    intro i name hname
    refine hmembers i name ?_
    rw [List.getElem?_append_left (List.getElem?_eq_some_iff.mp hname).1, hname]
  have hrest : ∀ (i : ℕ) name, names'[i]? = some name →
      members.lookup name = (items.drop names.length)[i]? := by
    intro i name hname
    rw [List.getElem?_drop]
    refine hmembers _ name ?_
    rw [List.getElem?_append_right (Nat.le_add_right _ _), Nat.add_sub_cancel_left, hname]
  rw [toOption_ofItems_seq, toOption_ofMembers_seq, h expected index items members hfirst]
  rcases (fields.ofMembers members).toOption with _ | f
  · rfl
  · rw [Option.map_some, Option.bind_some, Option.bind_some, h' expected _ _ members hrest,
      Option.map_map, Option.map_map, List.length_append, List.drop_drop]
    rfl

/-- An array is read as the object that has its values under the names of the fields. It may not
have more of them. -/
theorem toOption_ofValue_array {fields : Fields α} {names : List String}
    (h : fields.ReadsPlaces names) (hnames : names.Nodup) (name : String) (items : List Value) :
    ((record name fields).ofValue (.array items)).toOption =
      if items.length ≤ names.length then
        ((record name fields).ofValue (.object (names.zip items))).toOption
      else none := by
  rw [toOption_ofValue_record_array, toOption_ofValue_record_object,
    h _ 0 items (names.zip items) fun i n hn ↦ lookup_zip hnames items hn]
  have hrest : (items.drop names.length).isEmpty = decide (items.length ≤ names.length) := by
    rw [Bool.eq_iff_iff, List.isEmpty_iff, List.drop_eq_nil_iff, decide_eq_true_iff]
  rcases (fields.ofMembers (names.zip items)).toOption with _ | a
  · rw [Option.map_none, Option.bind_none, ite_self]
  · rw [Option.map_some, Option.bind_some, hrest]
    by_cases hlength : items.length ≤ names.length <;> simp [hlength]

end Fields

end NewsWire.Json

namespace NewsWire.Feed

open NewsWire.Json

/-! ## The records of an item -/

namespace RecordKind

/-- A record depends on what its fields are read as. -/
theorem toOption_ofValue_congr (kind : RecordKind) {members members' : Members}
    (h : ∀ r ∈ kind.readings, r.read (members.lookup r.name) = r.read (members'.lookup r.name)) :
    (kind.decoder.ofValue (.object members)).toOption =
      (kind.decoder.ofValue (.object members')).toOption := by
  rcases kind.exists_shows with ⟨name, fields, heq, hshows⟩
  rw [heq, Fields.toOption_ofValue_record_object, Fields.toOption_ofValue_record_object]
  exact hshows.congr members members' h

theorem exists_readsPlaces (kind : RecordKind) :
    ∃ name fields, kind.decoder = Fields.record name fields ∧
      fields.ReadsPlaces kind.fieldNames := by
  cases kind with
  | item =>
    refine ⟨"RawFeedItem", Item.fields, rfl, ?_⟩
    exact (Fields.readsPlaces_optional "altids" AltIds.decoder).map Item.mk
      |>.seq (Fields.readsPlaces_withDefault "version" none .lenientWord64)
      |>.seq (Fields.readsPlaces_optional "type" .text)
      |>.seq (Fields.readsPlaces_optional "pubstatus" .text)
      |>.seq (Fields.readsPlaces_optional "firstcreated" .text)
      |>.seq (Fields.readsPlaces_optional "versioncreated" .text)
      |>.seq (Fields.readsPlaces_optional "title" .text)
      |>.seq (Fields.readsPlaces_optional "headline" .text)
      |>.seq (Fields.readsPlaces_withDefault "urgency" none .lenientInt64)
      |>.seq (Fields.readsPlaces_optional "ednote" .text)
      |>.seq (Fields.readsPlaces_withDefault "bylines" [] (.list Byline.decoder))
      |>.seq (Fields.readsPlaces_withDefault "subject" [] (.list Subject.decoder))
      |>.seq (Fields.readsPlaces_withDefault "keywords" [] (.list .text))
      |>.seq (Fields.readsPlaces_withDefault "associations" [] (.map Association.decoder))
      |>.seq (Fields.readsPlaces_withDefault "renditions" [] (.map Rendition.decoder))
  | altIds =>
    exact ⟨"AltIds", _, rfl, (Fields.readsPlaces_optional "etag" .text).map AltIds.mk
      |>.seq (Fields.readsPlaces_optional "itemid" .text)⟩
  | byline => exact ⟨"Byline", _, rfl, (Fields.readsPlaces_optional "by" .text).map Byline.mk⟩
  | subject =>
    exact ⟨"Subject", _, rfl, (Fields.readsPlaces_optional "name" .text).map Subject.mk
      |>.seq (Fields.readsPlaces_withDefault "rels" [] (.list .text))⟩
  | association =>
    exact ⟨"Association", _, rfl, (Fields.readsPlaces_optional "type" .text).map Association.mk
      |>.seq (Fields.readsPlaces_optional "itemid" .text)
      |>.seq (Fields.readsPlaces_optional "altids" AltIds.decoder)⟩
  | rendition =>
    exact ⟨"Rendition", _, rfl, (Fields.readsPlaces_optional "href" .text).map Rendition.mk⟩

/-- A record in an array is read as the object with its values under the names of the fields. -/
theorem toOption_ofValue_array (kind : RecordKind) (items : List Value) :
    (kind.decoder.ofValue (.array items)).toOption =
      if items.length ≤ kind.fieldNames.length then
        (kind.decoder.ofValue (.object (kind.fieldNames.zip items))).toOption
      else none := by
  rcases kind.exists_readsPlaces with ⟨name, fields, heq, hplaces⟩
  rw [heq]
  exact Fields.toOption_ofValue_array hplaces kind.nodup_fieldNames name items

end RecordKind

/-! ## Items

The relation of items is a parameter in four fields, those in which an order may be seen: bylines,
subjects, associations and renditions. What is compared with what is said by whoever uses it. -/

section Items

variable (version : Option UInt64 → Option UInt64 → Prop)
  (urgency : Option Int64 → Option Int64 → Prop)
  (associations : List (String × Association) → List (String × Association) → Prop)
  (renditions : List (String × Rendition) → List (String × Rendition) → Prop)

/-- Four fields of the items are related, and the others are equal. -/
structure Item.Related (item item' : Item) : Prop where
  others : { item with
    version := item'.version, urgency := item'.urgency, associations := item'.associations,
    renditions := item'.renditions } = item'
  version : version item.version item'.version
  urgency : urgency item.urgency item'.urgency
  associations : associations item.associations item'.associations
  renditions : renditions item.renditions item'.renditions

/-- The fields that may be related in a way of their own. -/
def Item.relatedNames : List String := ["version", "urgency", "associations", "renditions"]

variable {P : Members → Members → Prop} {version urgency associations renditions}

/-- Items are related if the four fields are read as related and the others as equal. -/
theorem Item.relates_fields
    (hothers : ∀ r ∈ RecordKind.item.readings, r.name ∉ relatedNames →
      ∀ members members', P members members' →
        r.read (members.lookup r.name) = r.read (members'.lookup r.name))
    (hversion : (Fields.withDefault "version" none .lenientWord64).Relates P version)
    (hurgency : (Fields.withDefault "urgency" none .lenientInt64).Relates P urgency)
    (hassociations :
      (Fields.withDefault "associations" [] (.map Association.decoder)).Relates P associations)
    (hrenditions :
      (Fields.withDefault "renditions" [] (.map Rendition.decoder)).Relates P renditions) :
    Item.fields.Relates P (Related version urgency associations renditions) := by
  have hfield {α : Type} {name : String} {default : α} {d : Decoder α}
      (hmem : Reading.withDefault name default d ∈ RecordKind.item.readings)
      (hname : name ∉ relatedNames) : (Fields.withDefault name default d).Relates P (· = ·) :=
    Fields.relates_withDefault fun members members' hP ↦
      rel_eq_iff.mpr (hothers _ hmem hname members members' hP)
  -- From here on it is the order of the fields that counts.
  refine .seq (.seq (.seq (.seq (.seq (.seq (.seq (.seq (.seq (.seq (.seq (.seq (.seq (.seq (.map
    (hfield (List.mem_of_getElem? (i := 0) rfl) (by decide)) ?_)
    hversion)
    (hfield (List.mem_of_getElem? (i := 2) rfl) (by decide)))
    (hfield (List.mem_of_getElem? (i := 3) rfl) (by decide)))
    (hfield (List.mem_of_getElem? (i := 4) rfl) (by decide)))
    (hfield (List.mem_of_getElem? (i := 5) rfl) (by decide)))
    (hfield (List.mem_of_getElem? (i := 6) rfl) (by decide)))
    (hfield (List.mem_of_getElem? (i := 7) rfl) (by decide)))
    hurgency)
    (hfield (List.mem_of_getElem? (i := 9) rfl) (by decide)))
    (hfield (List.mem_of_getElem? (i := 10) rfl) (by decide)))
    (hfield (List.mem_of_getElem? (i := 11) rfl) (by decide)))
    (hfield (List.mem_of_getElem? (i := 12) rfl) (by decide)))
    hassociations)
    hrenditions
  rintro _ _ rfl _ _ hv _ _ rfl _ _ rfl _ _ rfl _ _ rfl _ _ rfl _ _ rfl _ _ hu _ _ rfl _ _ rfl
    _ _ rfl _ _ rfl _ _ ha _ _ hr
  exact ⟨rfl, hv, hu, ha, hr⟩

end Items

end NewsWire.Feed
