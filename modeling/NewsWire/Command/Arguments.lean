import NewsWire.Text.Numeral

/-!
# Command-line arguments

Every option has a long name and a value, given after an equals sign or as the next argument. A next
argument that looks like an option is no value, and no option may be given twice. Reading stops at
the first argument that asks for the version or for help, and at the first mistake.

Values are read when their option is met, so a mistake in a value is a mistake of the arguments and
ends the run before files or the environment are looked at.
-/

namespace NewsWire.Command

open NewsWire.Text

/-- The options that were given. -/
structure Options where
  cursor : Option String
  credential : Option String
  attemptBudget : Option UInt32
  retryDelayMs : Option UInt64
  requestFile : Option String
  deriving DecidableEq, Repr

def Options.none : Options := ⟨.none, .none, .none, .none, .none⟩

/-- What arguments ask for. -/
inductive Arguments where
  | options (options : Options)
  | version
  | help
  | mistake
  deriving DecidableEq, Repr

/-- A number of attempts: an integer numeral, so that `-0` is one, whose value fits a 32-bit
word. -/
def attemptBudget? (value : String) : Option UInt32 :=
  let fits (i : Int) : Bool := 0 ≤ i && i ≤ (maxWord32 : Int)
  ((integer? minInt64 maxInt64 value.toList).filter fits).map fun i ↦ UInt32.ofNat i.toNat

/-- The options with one more, if the name is known, new, and the value fits. -/
def Options.set (o : Options) (name value : String) : Option Options :=
  if name = "cursor" then
    if o.cursor.isSome then .none else some { o with cursor := some value }
  else if name = "credential" then
    if o.credential.isSome then .none else some { o with credential := some value }
  else if name = "attempt-budget" then
    if o.attemptBudget.isSome then .none
    else
      (attemptBudget? value).map fun n ↦ { o with attemptBudget := some n }
  else if name = "retry-delay-ms" then
    if o.retryDelayMs.isSome then .none
    else
      (natural? maxWord64 value.toList).map
        fun n ↦ { o with retryDelayMs := some (UInt64.ofNat n) }
  else if name = "request" then
    if o.requestFile.isSome || value.isEmpty then .none
    else some { o with requestFile := some value }
  else .none

/-- An argument that cannot be a value: it begins with a dash and goes on. -/
def looksLikeOption (arg : String) : Bool :=
  match arg.toList with
  | '-' :: _ :: _ => true
  | _ => false

/-- The name and the value of a long option. -/
def splitOption (cs : List Char) : String × Option String :=
  let name := String.ofList (cs.takeWhile (· != '='))
  match cs.dropWhile (· != '=') with
  | [] => (name, .none)
  | _ :: value => (name, some (String.ofList value))

/-- Read arguments on from the options found so far. -/
def readArguments (o : Options) : List String → Arguments
  | [] => .options o
  | arg :: rest =>
    match arg.toList with
    | ['-', '-'] => if rest.isEmpty then .options o else .mistake
    | '-' :: '-' :: cs =>
      match splitOption cs, rest with
      | ("version", .none), _ => .version
      | ("help", .none), _ => .help
      | (name, some value), rest =>
        match o.set name value with
        | some o => readArguments o rest
        | .none => .mistake
      | (_, .none), [] => .mistake
      | (name, .none), value :: rest =>
        if looksLikeOption value then .mistake
        else
          match o.set name value with
          | some o => readArguments o rest
          | .none => .mistake
    | '-' :: 'V' :: _ => .version
    | '-' :: 'h' :: _ => .help
    | _ => .mistake

end NewsWire.Command
