import Mathlib.Data.Nat.Notation
import NewsWire.Json.Cursor
import NewsWire.Json.Printer

/-!
# Ways of writing a value

The two forms in which a value is written differ in their blanks only. So what is to be said of both
is said of every text that writes the value with blanks between the marks of its brackets: such a
text spells the value (`Spells`). The compact form spells it, and so does the laid-out form at every
level (`Value.spells_compact`, `Value.spells_layout`).

What is left of a list or an object after some of its parts begins with a comma, or is its end. It
is spelled like the whole, but for what leads to the next part (`Lead`).

Strings and numbers are spelled in one way here, the printer's own. A wider relation, of everything
that the reader takes for the value, is not needed to show that what is written is read.
-/

namespace NewsWire.Json

/-! ## Blanks -/

/-- Nothing but the blanks of JSON. -/
def Blanks (cs : List Char) : Prop := ∀ c ∈ cs, isSpace c = true

@[simp] theorem blanks_nil : Blanks [] := List.forall_mem_nil _

theorem blanks_newline (level : ℕ) : Blanks (newline level) := by
  refine List.forall_mem_cons.mpr ⟨rfl, fun c hc ↦ ?_⟩
  rw [List.eq_of_mem_replicate hc]
  rfl

theorem blanks_space : Blanks [' '] := List.forall_mem_singleton.mpr rfl

/-- What leads to a part of a bracket: blanks, and among them a comma if it is not the first. -/
inductive Lead : Bool → List Char → Prop
  | first {blanks : List Char} : Blanks blanks → Lead true blanks
  | comma {before after : List Char} : Blanks before → Blanks after →
      Lead false (before ++ ',' :: after)

/-! ## Spelling -/

mutual

/-- The text writes the value. -/
inductive Spells : Value → List Char → Prop
  | null : Spells .null ['n', 'u', 'l', 'l']
  | bool (b : Bool) : Spells (.bool b) (boolText b)
  | number (n : Number) : Spells (.number n) n.text
  | string (s : String) : Spells (.string s) (quote s)
  | array {items : List Value} {inner : List Char} : SpellsItems true items inner →
      Spells (.array items) ('[' :: (inner ++ [']']))
  | object {members : List (String × Value)} {inner : List Char} :
      SpellsMembers true members inner → Spells (.object members) ('\x7b' :: (inner ++ ['\x7d']))

/-- The text writes these items, the first of a list or those after others, up to its end. -/
inductive SpellsItems : Bool → List Value → List Char → Prop
  | nil {first : Bool} {blanks : List Char} : Blanks blanks → SpellsItems first [] blanks
  | cons {first : Bool} {lead : List Char} {v : Value} {text : List Char} {items : List Value}
      {more : List Char} : Lead first lead → Spells v text → SpellsItems false items more →
      SpellsItems first (v :: items) (lead ++ (text ++ more))

/-- The text writes these members, the first of an object or those after others, up to its end. -/
inductive SpellsMembers : Bool → List (String × Value) → List Char → Prop
  | nil {first : Bool} {blanks : List Char} : Blanks blanks → SpellsMembers first [] blanks
  | cons {first : Bool} {lead before after : List Char} {v : Value} {text : List Char}
      {members : List (String × Value)} {more : List Char} (key : String) :
      Lead first lead → Blanks before → Blanks after → Spells v text →
      SpellsMembers false members more →
      SpellsMembers first ((key, v) :: members)
        (lead ++ (quote key ++ (before ++ ':' :: (after ++ (text ++ more)))))

end

/-- What is a list is the rest of one, after a comma. -/
theorem SpellsItems.after_comma {v : Value} {items : List Value} {text : List Char}
    (h : SpellsItems true (v :: items) text) : SpellsItems false (v :: items) (',' :: text) := by
  cases h with
  | cons hlead hv hitems =>
    cases hlead with
    | first hblanks => exact .cons (.comma blanks_nil hblanks) hv hitems

theorem SpellsMembers.after_comma {key : String} {v : Value} {members : List (String × Value)}
    {text : List Char} (h : SpellsMembers true ((key, v) :: members) text) :
    SpellsMembers false ((key, v) :: members) (',' :: text) := by
  cases h with
  | cons _ hlead hbefore hafter hv hmembers =>
    cases hlead with
    | first hblanks => exact .cons key (.comma blanks_nil hblanks) hbefore hafter hv hmembers

/-! ## The two forms -/

mutual

theorem Value.spells_compact : ∀ v : Value, Spells v v.compact
  | .null => .null
  | .bool b => .bool b
  | .number n => .number n
  | .string s => .string s
  | .array items => .array (spellsItems_compact items)
  | .object members => .object (spellsMembers_compact members)

theorem spellsItems_compact : ∀ items : List Value, SpellsItems true items (compactItems items)
  | [] => .nil blanks_nil
  | [v] => by
    have hspells := SpellsItems.cons (.first blanks_nil) v.spells_compact (.nil blanks_nil)
    rwa [List.nil_append, List.append_nil] at hspells
  | v :: w :: rest =>
    .cons (.first blanks_nil) v.spells_compact (spellsItems_compact (w :: rest)).after_comma

theorem spellsMembers_compact : ∀ members : List (String × Value),
    SpellsMembers true members (compactMembers members)
  | [] => .nil blanks_nil
  | [(key, v)] => by
    have hspells := SpellsMembers.cons key (.first blanks_nil) blanks_nil blanks_nil
      v.spells_compact (.nil blanks_nil)
    rwa [List.nil_append, List.nil_append, List.nil_append, List.append_nil] at hspells
  | (key, v) :: m :: rest =>
    .cons key (.first blanks_nil) blanks_nil blanks_nil v.spells_compact
      (spellsMembers_compact (m :: rest)).after_comma

end

mutual

theorem Value.spells_layout : ∀ (v : Value) (level : ℕ), Spells v (v.layout level)
  | .null, _ => .null
  | .bool b, _ => .bool b
  | .number n, _ => .number n
  | .string s, _ => .string s
  | .array [], _ => .array (.nil blanks_nil)
  | .array (v :: rest), level => by
    have hitems := spellsItems_layout (v :: rest) (level + 1) (blanks_newline level)
    rw [Value.layout]
    · exact .array hitems
    · rintro ⟨⟩
  | .object [], _ => .object (.nil blanks_nil)
  | .object (m :: rest), level => by
    have hmembers := spellsMembers_layout (m :: rest) (level + 1) (blanks_newline level)
    rw [Value.layout]
    · exact .object hmembers
    · rintro ⟨⟩

theorem spellsItems_layout : ∀ (items : List Value) (level : ℕ) {after : List Char},
    Blanks after → SpellsItems true items (layoutItems level items ++ after)
  | [], _, _, hafter => .nil hafter
  | [v], level, _, hafter => by
    have hspells := SpellsItems.cons (.first (blanks_newline level)) (v.spells_layout level)
      (.nil hafter)
    rwa [← List.append_assoc] at hspells
  | v :: w :: rest, level, after, hafter => by
    have hrest := (spellsItems_layout (w :: rest) level hafter).after_comma
    have hspells := SpellsItems.cons (.first (blanks_newline level)) (v.spells_layout level) hrest
    rw [layoutItems]
    · simpa using hspells
    · rintro ⟨⟩

theorem spellsMembers_layout : ∀ (members : List (String × Value)) (level : ℕ)
    {after : List Char}, Blanks after →
    SpellsMembers true members (layoutMembers level members ++ after)
  | [], _, _, hafter => .nil hafter
  | [(key, v)], level, _, hafter => by
    have hspells := SpellsMembers.cons key (.first (blanks_newline level)) blanks_nil
      blanks_space (v.spells_layout level) (.nil hafter)
    simpa [layoutMembers] using hspells
  | (key, v) :: m :: rest, level, after, hafter => by
    have hrest := (spellsMembers_layout (m :: rest) level hafter).after_comma
    have hspells := SpellsMembers.cons key (.first (blanks_newline level)) blanks_nil
      blanks_space (v.spells_layout level) hrest
    rw [layoutMembers]
    · simpa using hspells
    · rintro ⟨⟩

end

end NewsWire.Json
