import NewsWire.Command.Invocation
import NewsWire.Http.Message
import Std.Internal.UV.DNS
import Std.Internal.UV.TCP
import Std.Internal.UV.Timer

/-!
# The command line

The outermost layer: it reads files and the environment, sends requests over connections of their
own, and writes what a run comes to. Everything else is decided by `NewsWire.Command`.

Strands under way together are carried out by tasks of their own. Encrypted requests cannot be
sent.
-/

namespace NewsWire.Command

open Std.Internal.UV Std.Net

/-! ## Files and environment -/

/-- The wordings of system errors, by their numbers. -/
def systemErrors : List (Nat × String) :=
  [(2, "No such file or directory"), (5, "Input/output error"), (13, "Permission denied"),
    (20, "Not a directory"), (21, "Is a directory"), (36, "File name too long"),
    (40, "Too many levels of symbolic links")]

def systemErrorText (code : UInt32) (details : String) : String :=
  let n := if code.toNat < 0x80000000 then code.toNat else UInt32.size - code.toNat
  (systemErrors.lookup n).getD details ++ " (os error " ++ String.ofList (Nat.toDigits 10 n) ++ ")"

def fileReason : IO.Error → String
  | .noFileOrDirectory _ code details => systemErrorText code details
  | .permissionDenied _ code details => systemErrorText code details
  | .inappropriateType _ code details => systemErrorText code details
  | .noSuchThing _ code details => systemErrorText code details
  | .invalidArgument _ code details => systemErrorText code details
  | .resourceExhausted _ code details => systemErrorText code details
  | e => e.toString

def readFileText (path : String) : IO (Except String String) := do
  match ← (IO.FS.readBinFile path).toBaseIO with
  | .error e => return .error (fileReason e)
  | .ok bytes =>
    match Text.Utf8.decode? bytes.toList with
    | some text => return .ok (String.ofList text)
    | none => return .error "stream did not contain valid UTF-8"

/-- The variables that are set, of those that a run looks at. -/
def readEnvironment : IO Poll.Config.Environment :=
  variableNames.filterMapM fun name ↦ do
    return (← IO.getEnv name).map (name, ·)

/-- The file that a run may read, already read. -/
def readFiles (args : List String) : IO Files := do
  match readArguments .none args with
  | .options { requestFile := some path, .. } =>
    let found ← readFileText path
    return fun p ↦ if p = path then found else .error "not read"
  | _ => return fun _ ↦ .error "not read"

/-! ## Connections -/

/-- The value of a promise, if it is kept before the time is up. -/
def await {α : Type} (deadline : Task Unit) (p : IO.Promise (Except IO.Error α)) : IO α := do
  let kept : Task (Option (Except IO.Error α)) := p.result?
  let late : Task (Option (Except IO.Error α)) := deadline.map fun _ ↦ none
  match ← IO.waitAny [kept, late] with
  | some (.ok a) => return a
  | some (.error e) => throw e
  | none => throw (.userError "no answer in time")

/-- Everything that arrives until the other side is done, or the connection fails. -/
partial def receive (deadline : Task Unit) (socket : TCP.Socket) (found : ByteArray) :
    IO ByteArray := do
  try
    match ← await deadline (← socket.recv? 65536) with
    | some bytes => receive deadline socket (found ++ bytes)
    | none => return found
  catch _ => return found

/-- An address with a port number. -/
def socketAddress (port : UInt16) : IPAddr → SocketAddress
  | .v4 addr => .v4 { addr, port }
  | .v6 addr => .v6 { addr, port }

/-- A connection to the first of some addresses that accepts one. -/
def connect (deadline : Task Unit) (port : UInt16) : List IPAddr → IO TCP.Socket
  | [] => throw (.userError "no address accepts a connection")
  | address :: rest => do
    try
      let socket ← TCP.Socket.new
      await deadline (← socket.connect (socketAddress port address))
      return socket
    catch _ => connect deadline port rest

/-- The text of a host by which its addresses are found. -/
def hostToFind : Url.Host → String
  | .name t => String.ofList t
  | .ipv4 n => String.ofList (Url.ipv4Text n)
  | .ipv6 ps => String.ofList (Url.ipv6Text ps)

def exchange (deadline : Task Unit) (r : Http.Request) : IO Http.Outcome := do
  match r.url.isEncrypted, r.url.host with
  | false, some host =>
    let port := r.url.port.getD 80
    let service := String.ofList (Nat.toDigits 10 port)
    let addresses ← await deadline (← DNS.getAddrInfo (hostToFind host) service 0)
    let socket ← connect deadline (UInt16.ofNat port) addresses.toList
    await deadline (← socket.send #[⟨r.bytes.toArray⟩])
    let bytes ← receive deadline socket .empty
    return .ofBytes bytes.toList
  | _, _ => return .failed

def ask (timeoutSeconds : UInt64) (r : Http.Request) : IO Http.Outcome := do
  let timer ← Timer.mk (UInt64.ofNat (min (timeoutSeconds.toNat * 1000) 0x20000000000000)) false
  let deadline := (← timer.next).result?.map fun _ ↦ ()
  try exchange deadline r catch _ => return .failed

/-- Begin strands in order, and carry out the rest of each by a task of its own. -/
def joinStrands {α : Type} (tell : Poll.Event → IO Unit) (ask : Http.Request → IO Http.Outcome)
    (strands : List (Poll.Strand α)) : IO (List α) := do
  strands.forM fun strand ↦ strand.told.forM tell
  let tasks ← strands.mapM fun strand ↦ IO.asTask (strand.begun.carryOut tell ask)
  tasks.mapM fun t ↦ do IO.ofExcept (← IO.wait t)

/-- Wait for so many milliseconds. -/
partial def waitMs (delay : UInt64) : IO Unit := do
  if delay ≤ 1000000000 then IO.sleep delay.toUInt32
  else
    IO.sleep 1000000000
    waitMs (delay - 1000000000)

/-- The target of the records of events. -/
def eventTarget : String := logTarget ++ "::events"

def logEvent (f : LogFilter) (e : Poll.Event) : IO Unit := do
  let r := e.logRecord
  let level := (Verbosity.ofText? r.level.toList).getD .info
  if f.lets eventTarget ("message" :: r.fields.map Prod.fst) level then
    IO.eprintln (r.level ++ " " ++ r.message ++ " " ++ (Json.Value.object r.fields).toCompact)

def carrier (f : LogFilter) (timeoutSeconds : UInt64) : Poll.Dialogue.Carrier IO where
  tell := logEvent f
  wait := waitMs
  ask := ask timeoutSeconds
  join := joinStrands (logEvent f) (ask timeoutSeconds)

/-! ## The program -/

/-- A whole run over connections. -/
def runOverConnections (args : List String) : IO Stop := do
  let environment ← readEnvironment
  let files ← readFiles args
  match plan args environment files with
  | .error stop => return stop
  | .ok p =>
    let report ←
      (p.poller.poll p.request).carryOut
        (carrier (logFilter environment) p.poller.config.timeoutSeconds)
    return .ofReport report

end NewsWire.Command

def main (args : List String) : IO UInt32 := do
  let stop ← NewsWire.Command.runOverConnections args
  IO.print stop.output
  unless stop.message.isEmpty do
    IO.eprintln stop.message
  return UInt32.ofNat stop.exit
