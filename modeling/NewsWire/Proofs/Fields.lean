import Mathlib.Data.List.Basic
import NewsWire.Json.Decoder
import NewsWire.Proofs.Except

/-!
# What fields are read as

A record is put together from its fields, and so is what is known of it. Whether it can be read, and
as what, depends on nothing but what is found under the names of its fields
(`Fields.toOption_ofMembers_seq`), or in their places if it is an array
(`Fields.toOption_ofItems_seq`).

A field by itself is a `Reading`. The readings of a record are listed once (`Fields.Shows`); after
that two objects are compared, or one is refused, by a statement about the members of this list, and
the record is not opened again.

Errors are left out throughout: the reader of an object reports the first disagreement in the order
of its members, and this alone depends on that order. As an `Option`, what is read depends on the
fields one by one.
-/

namespace NewsWire.Json

variable {α β : Type}

namespace Fields

/-! ## In an object -/

theorem toOption_ofMembers_both (fields : Fields (α → β)) (more : Fields α) (members : Members) :
    ((fields.both more).ofMembers members).toOption =
      (fields.ofMembers members).toOption.bind fun f ↦ (more.ofMembers members).toOption.map f := by
  cases hf : fields.ofMembers members <;> cases ha : more.ofMembers members <;>
    simp [both, hf, ha, Except.toOption]

theorem toOption_ofMembers_map (f : α → β) (more : Fields α) (members : Members) :
    ((f <$> more).ofMembers members).toOption = (more.ofMembers members).toOption.map f :=
  toOption_ofMembers_both (done f) more members

theorem toOption_ofMembers_seq (fields : Fields (α → β)) (more : Fields α) (members : Members) :
    ((fields <*> more).ofMembers members).toOption =
      (fields.ofMembers members).toOption.bind fun f ↦ (more.ofMembers members).toOption.map f :=
  toOption_ofMembers_both fields more members

/-- A field with a default is read off the value under its name, if there is one. -/
theorem toOption_ofMembers_withDefault (name : String) (default : α) (d : Decoder α)
    (members : Members) :
    ((withDefault name default d).ofMembers members).toOption =
      (members.lookup name).elim (some default) fun v ↦ (d.ofValue v).toOption := by
  cases hlookup : members.lookup name with
  | none => simp only [withDefault, field, hlookup, Except.toOption, Option.elim_none]
  | some v =>
    simp only [withDefault, field, hlookup, Option.elim_some]
    cases d.ofValue v <;> rfl

theorem toOption_ofMembers_optional (name : String) (d : Decoder α) (members : Members) :
    ((optional name d).ofMembers members).toOption =
      (members.lookup name).elim (some none) fun v ↦ (d.optional.ofValue v).toOption :=
  toOption_ofMembers_withDefault name none d.optional members

theorem toOption_ofValue_record_object (name : String) (fields : Fields α) (members : Members) :
    ((record name fields).ofValue (.object members)).toOption =
      (fields.ofMembers members).toOption := by
  simp only [record]
  cases fields.ofMembers members <;> rfl

/-! ## In an array -/

theorem ofItems_both (fields : Fields (α → β)) (more : Fields α) (expected : String) (index : ℕ)
    (items : List Value) :
    (fields.both more).ofItems expected index items =
      match fields.ofItems expected index items with
      | .error m => .error m
      | .ok (f, left) =>
        match more.ofItems expected (index + fields.table.length) left with
        | .error m => .error m
        | .ok (a, rest) => .ok (f a, rest) := by
  simp only [both]
  cases fields.ofItems expected index items with
  | error m => rfl
  | ok found =>
    obtain ⟨f, left⟩ := found
    change (more.ofItems expected (index + fields.table.length) left >>= _) =
      match more.ofItems expected (index + fields.table.length) left with
      | .error m => .error m
      | .ok (a, rest) => .ok (f a, rest)
    cases more.ofItems expected (index + fields.table.length) left <;> rfl

theorem toOption_ofItems_both (fields : Fields (α → β)) (more : Fields α) (expected : String)
    (index : ℕ) (items : List Value) :
    ((fields.both more).ofItems expected index items).toOption =
      (fields.ofItems expected index items).toOption.bind fun found ↦
        (more.ofItems expected (index + fields.table.length) found.2).toOption.map fun given ↦
          (found.1 given.1, given.2) := by
  rw [ofItems_both]
  rcases fields.ofItems expected index items with m | ⟨f, left⟩
  · rfl
  · rcases hmore : more.ofItems expected (index + fields.table.length) left with m | ⟨a, rest⟩ <;>
      simp [hmore, Except.toOption]

theorem toOption_ofItems_map (f : α → β) (more : Fields α) (expected : String) (index : ℕ)
    (items : List Value) :
    ((f <$> more).ofItems expected index items).toOption =
      (more.ofItems expected index items).toOption.map fun given ↦ (f given.1, given.2) :=
  toOption_ofItems_both (done f) more expected index items

theorem toOption_ofItems_seq (fields : Fields (α → β)) (more : Fields α) (expected : String)
    (index : ℕ) (items : List Value) :
    ((fields <*> more).ofItems expected index items).toOption =
      (fields.ofItems expected index items).toOption.bind fun found ↦
        (more.ofItems expected (index + fields.table.length) found.2).toOption.map fun given ↦
          (found.1 given.1, given.2) :=
  toOption_ofItems_both fields more expected index items

theorem toOption_ofItems_optional (name : String) (d : Decoder α) (expected : String) (index : ℕ)
    (items : List Value) :
    ((optional name d).ofItems expected index items).toOption =
      (items.head?.elim (some none) fun v ↦ (d.optional.ofValue v).toOption).map fun a ↦
        (a, items.tail) := by
  rcases items with _ | ⟨v, rest⟩
  · rfl
  · have hitems : (optional name d).ofItems expected index (v :: rest) =
        (d.optional.ofValue v).map (·, rest) := rfl
    rw [hitems, List.head?_cons, Option.elim_some]
    cases d.optional.ofValue v <;> rfl

theorem ofValue_record_array (name : String) (fields : Fields α) (items : List Value) :
    (record name fields).ofValue (.array items) =
      match fields.ofItems (recordOfLength name fields.table.length) 0 items with
      | .error m => .error m
      | .ok (a, rest) =>
        if rest.isEmpty then .ok a
        else .error (.wrongLength items.length "fewer elements in array") := by
  simp only [record]
  cases fields.ofItems (recordOfLength name fields.table.length) 0 items <;> rfl

theorem toOption_ofValue_record_array (name : String) (fields : Fields α) (items : List Value) :
    ((record name fields).ofValue (.array items)).toOption =
      (fields.ofItems (recordOfLength name fields.table.length) 0 items).toOption.bind fun found ↦
        if found.2.isEmpty then some found.1 else none := by
  rw [ofValue_record_array]
  rcases fields.ofItems (recordOfLength name fields.table.length) 0 items with m | ⟨a, rest⟩
  · rfl
  · rcases rest with _ | ⟨v, rest⟩ <;> rfl

end Fields

/-! ## Readings -/

/-- What a field is read as, given what is found under its name. -/
structure Reading where
  name : String
  type : Type
  read : Option Value → Option type

def Reading.withDefault (name : String) (default : α) (d : Decoder α) : Reading :=
  ⟨name, α, fun found ↦ found.elim (some default) fun v ↦ (d.ofValue v).toOption⟩

def Reading.optional (name : String) (d : Decoder α) : Reading := withDefault name none d.optional

/-- The fields have these readings: what is read off members depends on nothing else, and nothing is
read where one of them fails. -/
structure Fields.Shows (fields : Fields α) (readings : List Reading) : Prop where
  congr : ∀ members members' : Members,
    (∀ r ∈ readings, r.read (members.lookup r.name) = r.read (members'.lookup r.name)) →
      (fields.ofMembers members).toOption = (fields.ofMembers members').toOption
  eq_none : ∀ members : Members, ∀ r ∈ readings, r.read (members.lookup r.name) = none →
    (fields.ofMembers members).toOption = none

namespace Fields

variable {readings more : List Reading}

theorem shows_withDefault (name : String) (default : α) (d : Decoder α) :
    (withDefault name default d).Shows [.withDefault name default d] where
  congr members members' h := by
    rw [toOption_ofMembers_withDefault, toOption_ofMembers_withDefault]
    exact h _ List.mem_cons_self
  eq_none members r hr hnone := by
    rw [List.mem_singleton] at hr
    subst hr
    rw [toOption_ofMembers_withDefault]
    exact hnone

theorem shows_optional (name : String) (d : Decoder α) :
    (optional name d).Shows [.optional name d] :=
  shows_withDefault name none d.optional

theorem Shows.map {fields : Fields α} (h : fields.Shows readings) (f : α → β) :
    (f <$> fields).Shows readings where
  congr members members' hread := by
    rw [toOption_ofMembers_map, toOption_ofMembers_map, h.congr members members' hread]
  eq_none members r hr hnone := by
    rw [toOption_ofMembers_map, h.eq_none members r hr hnone, Option.map_none]

theorem Shows.seq {fields : Fields (α → β)} {others : Fields α} (h : fields.Shows readings)
    (h' : others.Shows more) : (fields <*> others).Shows (readings ++ more) where
  congr members members' hread := by
    rw [List.forall_mem_append] at hread
    rw [toOption_ofMembers_seq, toOption_ofMembers_seq, h.congr members members' hread.1,
      h'.congr members members' hread.2]
  eq_none members r hr hnone := by
    rw [toOption_ofMembers_seq]
    rcases List.mem_append.mp hr with hr | hr
    · rw [h.eq_none members r hr hnone, Option.bind_none]
    · rw [h'.eq_none members r hr hnone]
      cases (fields.ofMembers members).toOption <;> rfl

end Fields

/-! ## Changing a member -/

/-- The members with the value under a key changed. -/
def Members.alter (key : String) (f : Value → Value) (members : Members) : Members :=
  members.map fun m ↦ if m.1 = key then (m.1, f m.2) else m

theorem Members.lookup_alter (key other : String) (f : Value → Value) (members : Members) :
    (Members.alter key f members).lookup other =
      (members.lookup other).map (if other = key then f else id) := by
  induction members with
  | nil => rfl
  | cons m rest ih =>
    rcases m with ⟨k, v⟩
    rw [alter, List.map_cons, ← alter]
    by_cases hother : other = k
    · subst hother
      by_cases hkey : other = key <;> simp [hkey]
    · have hbeq : (other == k) = false := by simpa using hother
      by_cases hkey : k = key
      · rw [if_pos hkey, List.lookup_cons, List.lookup_cons, hbeq, ih]
      · rw [if_neg hkey, List.lookup_cons, List.lookup_cons, hbeq, ih]

end NewsWire.Json
