import NewsWire.Command.Arguments
import NewsWire.Command.LogFilter
import NewsWire.Json.Printer
import NewsWire.Poll.Network
import NewsWire.Poll.Run

/-!
# One run of the program

A run reads its arguments, then its request, then its configuration, and polls once. The request
comes from a file when one is named, and then nothing else is looked at for it; otherwise from the
options, with the environment standing in for a cursor and a credential that are not given.

The first thing that goes wrong ends the run. `Stop` says with which exit code and message: the code
is 2 for mistakes in the arguments, 101 for a configuration whose time limits cannot be computed
with, and 1 for everything else. The time limits are computed only to be written to the log, so they
do not matter where the log filter leaves them out.

A run is a function of its arguments, its environment, the files it may read and the network. What
it writes is part of how it ends, so nothing is written by a run that is stopped on the way but its
message.
-/

namespace NewsWire.Command

open NewsWire.Poll

/-! ## The end of a run -/

/-- How a run ends: its exit code, what it writes, and the message of a failure. -/
structure Stop where
  exit : Nat
  output : String
  message : String
  deriving DecidableEq, Repr

/-- The lines of a cause, the first one after a mark and the others under it. -/
def causeText (mark indent : List Char) (cause : String) : List Char :=
  mark ++ ('\n' :: indent).intercalate (Text.splitLines cause.toList)

def causesText (causes : List String) : List Char :=
  match causes with
  | [cause] => '\n' :: causeText (List.replicate 4 ' ') (List.replicate 4 ' ') cause
  | causes =>
    causes.zipIdx.flatMap fun (cause, i) ↦
      let number := Nat.toDigits 10 i
      let mark := List.replicate (5 - number.length) ' ' ++ number ++ [':', ' ']
      '\n' :: causeText mark (List.replicate 7 ' ') cause

/-- A message with the causes behind it. -/
def failureText (context : String) (causes : List String) : String :=
  let causes := match causes with
    | [] => []
    | causes => "\n\nCaused by:".toList ++ causesText causes
  "Error: " ++ context ++ String.ofList causes

def Stop.failure (context : String) (causes : List String) : Stop :=
  ⟨1, "", failureText context causes⟩

/-- The name and version of the program. -/
def versionText : String := "wire-ingest 0.1.0\n"

def usageText : String :=
  "Usage: wire-ingest [--cursor <CURSOR>] [--credential <CREDENTIAL>] " ++
    "[--attempt-budget <N>] [--retry-delay-ms <N>] [--request <FILE>]\n"

/-- The end of a run whose arguments are mistaken. -/
def Stop.mistake : Stop := ⟨2, "", usageText⟩

/-- The end of a run whose time limits cannot be computed with. -/
def Stop.outOfBounds (fault : DurationFault) : Stop := ⟨101, "", fault.message⟩

/-! ## The request

A file and options are two ways of saying the same, and they are not mixed. A run that names a file
takes everything from it; what the file leaves out is not taken from an option or the environment.
-/

/-- The variables that a run looks at. -/
def variableNames : List String :=
  [LogFilter.variableName, "WIRE_CURSOR", "WIRE_API_KEY"] ++ Config.variableNames

def logFilter (env : Config.Environment) : LogFilter :=
  .ofVariable (env.lookup LogFilter.variableName)

/-- The target of the records of a run itself. -/
def logTarget : String := "wire_ingest"

/-- The files of a run: the text of a path, or why it cannot be read. -/
abbrev Files := String → Except String String

/-- The request that options, environment and files give. -/
def requestOf (o : Options) (env : Config.Environment) (files : Files) : Except Stop Request :=
  match o.requestFile with
  | some path =>
    match files path with
    | .error reason => .error (.failure ("reading request file " ++ path) [reason])
    | .ok text =>
      match Request.decoder.parse text.toList with
      | .ok r => .ok r
      | .error complaint => .error (.failure "parsing poll request" [complaint.message])
  | none =>
    match o.credential.or (env.lookup "WIRE_API_KEY") with
    | none =>
      .error (.failure "a credential is required (--credential or WIRE_API_KEY)" [])
    | some credential =>
      .ok {
        credential
        cursor := (o.cursor.or (env.lookup "WIRE_CURSOR")).getD ""
        attemptBudget := o.attemptBudget
        retryDelayMs := o.retryDelayMs }

/-! ## The run -/

/-- What a run polls for. -/
structure Plan where
  poller : Poller
  request : Request

/-- What a run comes to before it polls. -/
def plan (args : List String) (env : Config.Environment) (files : Files) : Except Stop Plan := do
  let options ← match readArguments .none args with
    | .options o => .ok o
    | .version => .error ⟨0, versionText, ""⟩
    | .help => .error ⟨0, usageText, ""⟩
    | .mistake => .error .mistake
  let request ← requestOf options env files
  let config ← (Config.ofEnvironment env).mapError fun fault ↦
    .failure "loading configuration" [(Failure.config fault).message]
  if (logFilter env).lets logTarget ["message"] .info then
    let _ ← config.worstCaseLatency.mapError .outOfBounds
  let poller ← (Poller.build config).mapError fun e ↦
    .failure "building poller" (e.message :: e.causes)
  return ⟨poller, request⟩

/-- The end of a run that has polled. -/
def Stop.ofReport (report : Report) : Stop :=
  match report.result with
  | .ok response => ⟨0, response.encode.toLayout ++ "\n", ""⟩
  | .error e => .failure "poll failed" (e.message :: e.causes)

def run (n : Network) (s : Schedule) (args : List String) (env : Config.Environment)
    (files : Files) : Stop × Trace :=
  match plan args env files with
  | .error stop => (stop, .empty)
  | .ok p =>
    let (report, trace) := (p.poller.poll p.request).run n s .empty
    (.ofReport report, trace)

end NewsWire.Command
