import NewsWire.Decimal.Shortest

/-!
# JSON values

A value keeps the members of an object in the order in which they were given, and it keeps whole
numbers apart from floating ones: `1` and `1.0` are different values. Whole numbers written in a
text are those of a 64-bit word of either sign; larger ones are floating, which is the reader's
business.

An object is a list of members. `insert` is how members enter it one after another: a repeated key
keeps the place of its first occurrence and takes the value of its last.

The order is kept because it can be seen: some maps of an item are handed on as they came, and what
a caller gets of them is in the order of the feed. A map that forgets the order would have to be
undone there. For the same reason two objects with the same members in different orders are
different values, and that their order does not matter to a reader is a theorem about the reader.
-/

namespace NewsWire.Json

/-! ## Numbers -/

/-- A whole number or a floating one. -/
inductive Number where
  | int (value : Int)
  | float (value : Float)
  deriving DecidableEq, Repr, Inhabited

/-- How a floating number is written: positionally when the decimal exponent of its first digit is
in the given range, always with a digit after the point; otherwise with an exponent that has a sign
and no leading zeros. -/
structure FloatForm where
  positionalFrom : Int
  positionalBelow : Int

/-- Positional from `1e-5` up to `1e16`. -/
def floatForm : FloatForm := ⟨-5, 16⟩

/-- Digits with the point after the first `point` of them. -/
def positional (d : Decimal.Digits) : List Char :=
  if d.point ≤ 0 then '0' :: '.' :: (List.replicate (-d.point).toNat '0' ++ d.digits)
  else
    let n := d.point.toNat
    let whole := d.digits.take n ++ List.replicate (n - d.digits.length) '0'
    let fraction := d.digits.drop n
    whole ++ '.' :: (if fraction.isEmpty then ['0'] else fraction)

/-- Digits with the point after the first of them and an exponent. -/
def scientific (d : Decimal.Digits) : List Char :=
  let e := d.point - 1
  let fraction := match d.digits.drop 1 with
    | [] => []
    | ds => '.' :: ds
  d.digits.take 1 ++ fraction ++
    'e' :: (if e < 0 then '-' else '+') :: Nat.toDigits 10 e.natAbs

/-- The text of a finite floating number, with the fewest digits that read back. -/
def floatText (f : FloatForm) (x : Float) : List Char :=
  let sign := if x.toBits.toNat ≥ Decimal.signBit then ['-'] else []
  let b := Decimal.Binary.ofFloat x
  if b.mantissa = 0 then sign ++ ['0', '.', '0']
  else
    let d := b.shortest
    let e := d.point - 1
    sign ++ if f.positionalFrom ≤ e && e < f.positionalBelow then positional d else scientific d

def intText (i : Int) : List Char :=
  if i < 0 then '-' :: Nat.toDigits 10 i.natAbs else Nat.toDigits 10 i.natAbs

def Number.text : Number → List Char
  | .int i => intText i
  | .float x => floatText floatForm x

/-! ## Values

Values are compared by a decision procedure that is written out, since none is derived for a type
that holds lists of itself. With it, statements about concrete values are decided. -/

/-- A JSON value. -/
inductive Value where
  | null
  | bool (value : Bool)
  | number (value : Number)
  | string (value : String)
  | array (items : List Value)
  | object (members : List (String × Value))
  deriving Repr, Inhabited

mutual

/-- Values are compared part by part. -/
def Value.decEq : (v w : Value) → Decidable (v = w)
  | .null, w => match w with
    | .null => isTrue rfl
    | .bool _ | .number _ | .string _ | .array _ | .object _ => isFalse nofun
  | .bool a, w => match w with
    | .bool b => decidable_of_iff (a = b) (by rw [Value.bool.injEq])
    | .null | .number _ | .string _ | .array _ | .object _ => isFalse nofun
  | .number a, w => match w with
    | .number b => decidable_of_iff (a = b) (by rw [Value.number.injEq])
    | .null | .bool _ | .string _ | .array _ | .object _ => isFalse nofun
  | .string a, w => match w with
    | .string b => decidable_of_iff (a = b) (by rw [Value.string.injEq])
    | .null | .bool _ | .number _ | .array _ | .object _ => isFalse nofun
  | .array a, w => match w with
    | .array b =>
      have := decEqItems a b
      decidable_of_iff (a = b) (by rw [Value.array.injEq])
    | .null | .bool _ | .number _ | .string _ | .object _ => isFalse nofun
  | .object a, w => match w with
    | .object b =>
      have := decEqMembers a b
      decidable_of_iff (a = b) (by rw [Value.object.injEq])
    | .null | .bool _ | .number _ | .string _ | .array _ => isFalse nofun

/-- Items are compared one by one. -/
def decEqItems : (vs ws : List Value) → Decidable (vs = ws)
  | [], [] => isTrue rfl
  | [], _ :: _ => isFalse nofun
  | _ :: _, [] => isFalse nofun
  | v :: vs, w :: ws =>
    have := v.decEq w
    have := decEqItems vs ws
    decidable_of_iff (v = w ∧ vs = ws) (by rw [List.cons.injEq])

/-- Members are compared one by one, with their keys. -/
def decEqMembers : (ms ns : List (String × Value)) → Decidable (ms = ns)
  | [], [] => isTrue rfl
  | [], _ :: _ => isFalse nofun
  | _ :: _, [] => isFalse nofun
  | (k, v) :: ms, (l, w) :: ns =>
    have := v.decEq w
    have := decEqMembers ms ns
    decidable_of_iff ((k = l ∧ v = w) ∧ ms = ns) (by rw [List.cons.injEq, Prod.mk.injEq])

end

instance : DecidableEq Value := Value.decEq

/-- The members of an object, in order. -/
abbrev Members := List (String × Value)

/-- Add a member: the value of a key that is already there is replaced in its place. -/
def Members.insert (key : String) (value : Value) : Members → Members
  | [] => [(key, value)]
  | (k, v) :: rest =>
    if k = key then (k, value) :: rest else (k, v) :: Members.insert key value rest

/-- The members read one after another. -/
def Members.ofList (entries : Members) : Members :=
  entries.foldl (fun found e ↦ found.insert e.1 e.2) []

def Value.ofInt (i : Int) : Value := .number (.int i)

def Value.ofNat (n : Nat) : Value := .number (.int n)

/-- The member of an object under a key; nothing when the value is no object. -/
def Value.member? (key : String) : Value → Option Value
  | .object members => members.lookup key
  | _ => none

def Value.string? : Value → Option String
  | .string s => some s
  | _ => none

/-- Insertion leaves the keys alone or adds the new one at the end. -/
theorem Members.keys_insert (key : String) (value : Value) (members : Members) :
    (Members.insert key value members).map Prod.fst =
      if key ∈ members.map Prod.fst then members.map Prod.fst
      else members.map Prod.fst ++ [key] := by
  induction members with
  | nil => simp [Members.insert]
  | cons e rest ih =>
    obtain ⟨k, v⟩ := e
    by_cases hk : k = key
    · subst hk
      simp [Members.insert]
    · have hk' : key ≠ k := fun h ↦ hk h.symm
      simp only [Members.insert, if_neg hk, List.map_cons, ih, List.mem_cons, hk', false_or]
      split <;> simp

theorem Members.lookup_insert_self (key : String) (value : Value) (members : Members) :
    (Members.insert key value members).lookup key = some value := by
  induction members with
  | nil => simp [Members.insert]
  | cons e rest ih =>
    obtain ⟨k, v⟩ := e
    by_cases hk : k = key
    · subst hk
      simp [Members.insert]
    · have hk' : (key == k) = false := by simpa using fun h ↦ hk h.symm
      simp only [Members.insert, if_neg hk, List.lookup_cons, hk', ih]

theorem Members.lookup_insert_of_ne {key other : String} (value : Value) (members : Members)
    (h : other ≠ key) :
    (Members.insert key value members).lookup other = members.lookup other := by
  induction members with
  | nil =>
    have : (other == key) = false := by simpa using h
    simp [Members.insert, List.lookup_cons, this]
  | cons e rest ih =>
    obtain ⟨k, v⟩ := e
    by_cases hk : k = key
    · subst hk
      have : (other == k) = false := by simpa using h
      simp [Members.insert, List.lookup_cons, this]
    · simp only [Members.insert, if_neg hk, List.lookup_cons, ih]

/-! ## Building values

An absent field is written as null where the record lists all its fields, and left out by `present`
where it does not: readers of the first kind of record may ask for all its keys, those of the second
tell a key that is missing from one that is null. -/

namespace Value

/-- A text, or null. -/
def ofText? (s : Option String) : Value := s.elim .null .string

/-- A word, or null. -/
def ofWord64? (n : Option UInt64) : Value := n.elim .null fun n ↦ .ofNat n.toNat

/-- An integer, or null. -/
def ofInt64? (i : Option Int64) : Value := i.elim .null fun i ↦ .ofInt i.toInt

/-- An array of texts. -/
def ofTexts (ss : List String) : Value := .array (ss.map .string)

end Value

/-- The members of a record whose absent fields are left out. -/
def present (fields : List (String × Option Value)) : Value :=
  .object (fields.filterMap fun (name, v) ↦ v.map (name, ·))

end NewsWire.Json
