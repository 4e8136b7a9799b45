import Mathlib.Data.Int.Notation
import Mathlib.Data.Nat.Notation
import NewsWire.Text.Numeral

/-!
# What numerals are

A text is a numeral of a number if it is made of the digits of the number, after zeros or not, with
a sign before them or not (`Numeral`). This says nothing about how numerals are read; the readers
are the relation together with the range that they are asked for (`integer?_eq_some_iff`,
`natural?_eq_some_iff`), so that what is not read is no numeral or is out of range.

A numeral is read wherever something comes as text that means a number: options, variables of the
environment and lenient fields of the feed. They allow the same numerals and differ in the range
and in what stands around.
-/

namespace NewsWire.Text

variable {c : Char} {cs ds : List Char} {n max : ℕ} {i : ℤ}

/-! ## Digits -/

/-- The text is made of digits, one at least, and as a decimal number it is `n`. -/
structure IsDigits (n : ℕ) (ds : List Char) : Prop where
  ne_nil : ds ≠ []
  isDigit : ∀ d ∈ ds, d.isDigit = true
  value : Nat.ofDigitChars 10 ds 0 = n

theorem isDigits_toDigits (n : ℕ) : IsDigits n (Nat.toDigits 10 n) where
  ne_nil := Nat.toDigits_ne_nil
  isDigit _ hd := Nat.isDigit_of_mem_toDigits (by decide) (by decide) hd
  value := Nat.ofDigitChars_ten_toDigits

theorem digit?_eq_some_iff :
    digit? c = some n ↔ c.isDigit = true ∧ c.toNat - '0'.toNat = n := by
  have hdigit : c.isDigit = true ↔ '0' ≤ c ∧ c ≤ '9' := by
    rw [Char.isDigit, Bool.and_eq_true, decide_eq_true_iff, decide_eq_true_iff]
    exact Iff.rfl
  rw [digit?, hdigit, Option.ite_none_right_eq_some, Option.some_inj]

/-- Digits that come after others add to the number that these are. -/
theorem positional?_eq_some_iff {acc : ℕ} :
    positional? digit? 10 acc cs = some n ↔
      (∀ c ∈ cs, c.isDigit = true) ∧ Nat.ofDigitChars 10 cs acc = n := by
  induction cs generalizing acc with
  | nil => simp [positional?]
  | cons c cs ih =>
    rw [List.forall_mem_cons, Nat.ofDigitChars_cons, Nat.mul_comm, positional?]
    cases hdigit : digit? c with
    | none =>
      have hnot : ¬c.isDigit = true := fun h ↦ by
        rw [digit?_eq_some_iff.mpr ⟨h, rfl⟩] at hdigit
        cases hdigit
      exact iff_of_false nofun fun h ↦ hnot h.1.1
    | some d =>
      obtain ⟨hc, rfl⟩ := digit?_eq_some_iff.mp hdigit
      rw [and_iff_right hc]
      exact ih

theorem digits?_eq_some_iff : digits? ds = some n ↔ IsDigits n ds := by
  cases ds with
  | nil => exact iff_of_false nofun fun h ↦ h.ne_nil rfl
  | cons d ds =>
    rw [digits?, positional?_eq_some_iff]
    · exact ⟨fun h ↦ ⟨List.cons_ne_nil d ds, h.1, h.2⟩, fun h ↦ ⟨h.isDigit, h.value⟩⟩
    · exact List.cons_ne_nil d ds

/-! ## Signs -/

/-- The text is a numeral of the integer. A plus sign may always stand before the digits, a minus
sign where numbers may be negative. -/
inductive Numeral (signed : Prop) : ℤ → List Char → Prop
  | plain {n : ℕ} {ds : List Char} (hdigits : IsDigits n ds) : Numeral signed n ds
  | plus {n : ℕ} {ds : List Char} (hdigits : IsDigits n ds) : Numeral signed n ('+' :: ds)
  | minus {n : ℕ} {ds : List Char} (hsigned : signed) (hdigits : IsDigits n ds) :
    Numeral signed (-n) ('-' :: ds)

theorem IsDigits.head_isDigit (h : IsDigits n (c :: cs)) : c.isDigit = true :=
  h.isDigit c List.mem_cons_self

/-- The numerals with the sign that a text begins with. -/
theorem numeral_plus_iff {signed : Prop} :
    Numeral signed i ('+' :: ds) ↔ ∃ n : ℕ, IsDigits n ds ∧ (n : ℤ) = i := by
  constructor
  · intro h
    cases h with
    | plain hdigits => cases hdigits.head_isDigit
    | plus hdigits => exact ⟨_, hdigits, rfl⟩
  · rintro ⟨n, hdigits, rfl⟩
    exact .plus hdigits

theorem numeral_minus_iff {signed : Prop} :
    Numeral signed i ('-' :: ds) ↔ signed ∧ ∃ n : ℕ, IsDigits n ds ∧ -(n : ℤ) = i := by
  constructor
  · intro h
    cases h with
    | plain hdigits => cases hdigits.head_isDigit
    | minus hsigned hdigits => exact ⟨hsigned, _, hdigits, rfl⟩
  · rintro ⟨hsigned, n, hdigits, rfl⟩
    exact .minus hsigned hdigits

theorem numeral_iff {signed : Prop} (hplus : ∀ ds, cs ≠ '+' :: ds) (hminus : ∀ ds, cs ≠ '-' :: ds) :
    Numeral signed i cs ↔ ∃ n : ℕ, IsDigits n cs ∧ (n : ℤ) = i := by
  constructor
  · intro h
    cases h with
    | plain hdigits => exact ⟨_, hdigits, rfl⟩
    | plus => exact absurd rfl (hplus _)
    | minus => exact absurd rfl (hminus _)
  · rintro ⟨n, hdigits, rfl⟩
    exact .plain hdigits

/-! ## Readers -/

theorem map_digits?_eq_some_iff {f : ℕ → ℤ} :
    (digits? ds).map f = some i ↔ ∃ n, IsDigits n ds ∧ f n = i := by
  simp only [Option.map_eq_some_iff, digits?_eq_some_iff]

/-- The reader of integers reads the numerals of its range. -/
theorem integer?_eq_some_iff {min max : ℤ} :
    integer? min max cs = some i ↔ Numeral (min < 0) i cs ∧ min ≤ i ∧ i ≤ max := by
  have hrange : (min ≤ i && i ≤ max) = true ↔ min ≤ i ∧ i ≤ max := by
    rw [Bool.and_eq_true, decide_eq_true_iff, decide_eq_true_iff]
  unfold integer?
  rw [Option.filter_eq_some_iff, hrange]
  refine and_congr_left fun _ ↦ ?_
  split
  · rw [numeral_plus_iff]
    exact map_digits?_eq_some_iff
  · rw [numeral_minus_iff, Option.ite_none_right_eq_some]
    -- Here the number is made an integer first, and then the sign is put on.
    rw [bind_pure_comp, Option.map_eq_map, Option.map_map]
    exact and_congr_right fun _ ↦ map_digits?_eq_some_iff
  · next hplus hminus =>
    rw [numeral_iff hplus hminus]
    exact map_digits?_eq_some_iff

theorem natural?_eq_some_iff : natural? max cs = some n ↔ Numeral False n cs ∧ n ≤ max := by
  have hreads {i : ℤ} : integer? 0 max cs = some i ↔ Numeral False i cs ∧ 0 ≤ i ∧ i ≤ max := by
    rw [integer?_eq_some_iff, eq_false (Int.lt_irrefl 0)]
  rw [natural?, Option.map_eq_some_iff]
  constructor
  · rintro ⟨i, hi, rfl⟩
    obtain ⟨hnumeral, hmin, hmax⟩ := hreads.mp hi
    obtain ⟨n, rfl⟩ := Int.eq_ofNat_of_zero_le hmin
    exact ⟨hnumeral, Int.ofNat_le.mp hmax⟩
  · rintro ⟨hnumeral, hmax⟩
    exact ⟨n, hreads.mpr ⟨hnumeral, Int.natCast_nonneg n, Int.ofNat_le.mpr hmax⟩,
      Int.toNat_natCast n⟩

theorem integer?_toDigits {min max : ℤ} (hmin : min ≤ n) (hmax : n ≤ max) :
    integer? min max (Nat.toDigits 10 n) = some (n : ℤ) :=
  integer?_eq_some_iff.mpr ⟨.plain (isDigits_toDigits n), hmin, hmax⟩

theorem natural?_toDigits (h : n ≤ max) : natural? max (Nat.toDigits 10 n) = some n :=
  natural?_eq_some_iff.mpr ⟨.plain (isDigits_toDigits n), h⟩

end NewsWire.Text
