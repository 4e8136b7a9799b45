import NewsWire.Text.Blank
import NewsWire.Text.Numeral

/-!
# Log filters

A log filter says which records are written. It is a list of directives between commas: each names
a level, a target or both, and may ask for fields; a record is let through up to the level of the
most specific directive that applies to it. A longer target is more specific, then a field that is
asked for; of two directives that ask for the same the later one counts. Nothing is let through
where no directive applies.

A directive may also be bound to a scope of the program, or to the value of a field. Records outside
any such scope are none of its business.

The filter matters beyond the log: the time limits of a configuration are computed only when a
record with them is let through, and a run whose limits cannot be computed ends there. So a filter
has to be read exactly, down to the directives that no run of this program could meet.
-/

namespace NewsWire.Command

open NewsWire.Text

/-! ## Levels -/

/-- How much is let through, from nothing to everything. -/
inductive Verbosity where
  | off
  | error
  | warn
  | info
  | debug
  | trace
  deriving DecidableEq, Repr

namespace Verbosity

/-- All of them, each letting through more than the one before. -/
def all : List (String × Verbosity) :=
  [("off", off), ("error", error), ("warn", warn), ("info", info), ("debug", debug),
    ("trace", trace)]

/-- The place among all. -/
def rank (v : Verbosity) : Nat := all.findIdx (·.2 == v)

/-- A level by its name in any case, or by its number. -/
def ofText? (cs : List Char) : Option Verbosity :=
  match natural? maxWord64 cs with
  | some n => (all[n]?).map Prod.snd
  | none => all.lookup (String.ofList (cs.map Char.toLower))

/-- The level after an equals sign; none stands for everything. -/
def ofLevelText? (cs : List Char) : Option Verbosity :=
  if cs.isEmpty then some trace else ofText? cs

end Verbosity

/-! ## Directives -/

/-- One directive of a filter; `isBound` when it is bound to a scope or to a value. -/
structure Directive where
  target : List Char
  isBound : Bool
  fields : List (List Char)
  verbosity : Verbosity
  deriving DecidableEq, Repr

namespace Directive

/-- The level after a closing bracket. -/
def parseEnd? (cs : List Char) : Option Verbosity :=
  match cs with
  | '=' :: level => Verbosity.ofLevelText? level
  | cs => if isBlankText cs then some .trace else none

/-- A directive after its target and an opening bracket: the name of a scope, a field between
braces, or both. -/
def parseScope? (target cs : List Char) : Option Directive :=
  let (name, rest) := splitBefore (fun c ↦ c == ']' || c == '\x7b') cs
  match rest with
  | ']' :: rest => (parseEnd? rest).map (⟨target, true, [], ·⟩)
  | _ :: rest =>
    let (field, rest) := splitBefore (· == '\x7d') rest
    match rest with
    | _ :: ']' :: rest =>
      if field.isEmpty then none
      else (parseEnd? rest).map (⟨target, !name.isEmpty || field.contains '=', [field], ·⟩)
    | _ => none
  | [] => none

/-- A character that a target may begin with. -/
def beginsTarget (c : Char) : Bool :=
  c.isAlphanum || ['-', ':', '_'].contains c || c.toNat ≥ 128

/-- A directive that is not empty. Blanks before a target belong to it, and then no level may
follow. -/
def parse? (cs : List Char) : Option Directive :=
  match cs with
  | [] => none
  | '[' :: rest => parseScope? [] rest
  | c :: _ =>
    if isBlank c then
      if isBlankText cs || cs.contains '=' then none else some ⟨cs, false, [], .trace⟩
    else if beginsTarget c then
      let (target, rest) := splitBefore (fun c ↦ c == '=' || c == '[') cs
      match rest with
      | [] =>
        match Verbosity.ofText? cs with
        | some v => some ⟨[], false, [], v⟩
        | none => some ⟨cs, false, [], .trace⟩
      | '=' :: level => (Verbosity.ofLevelText? level).map (⟨target, false, [], ·⟩)
      | _ :: scope => parseScope? target scope
    else none

/-- The directive asks for less than the other. -/
def isLessSpecific (d e : Directive) : Bool :=
  d.target.length < e.target.length ||
    (d.target.length == e.target.length && d.fields.length < e.fields.length)

/-- The directive applies to records of a target with these fields. -/
def appliesTo (d : Directive) (target : String) (fields : List String) : Bool :=
  !d.isBound && d.target.isPrefixOf target.toList &&
    d.fields.all fun f ↦ fields.contains (String.ofList f)

end Directive

/-! ## Filters -/

abbrev LogFilter := List Directive

namespace LogFilter

def parse? (text : String) : Option LogFilter :=
  ((pieces (· == ',') text.toList).filter fun d ↦ !d.isEmpty).mapM Directive.parse?

/-- The filter where no readable one is given. -/
def standard : LogFilter := [⟨[], false, [], .info⟩]

/-- The name of the variable that holds a filter. -/
def variableName : String := "RUST_LOG"

def ofVariable (text : Option String) : LogFilter := (text.bind parse?).getD standard

/-- The directive that counts for records of a target with these fields. -/
def directive? (f : LogFilter) (target : String) (fields : List String) : Option Directive :=
  (f.filter (·.appliesTo target fields)).foldl
    (fun best d ↦ if best.any d.isLessSpecific then best else some d) none

/-- Records of a target with these fields are let through at a level. -/
def lets (f : LogFilter) (target : String) (fields : List String) (level : Verbosity) : Bool :=
  (f.directive? target fields).any fun d ↦ level.rank ≤ d.verbosity.rank

end LogFilter

end NewsWire.Command
