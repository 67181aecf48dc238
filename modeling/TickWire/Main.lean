import TickWire.Command.Arguments
import TickWire.Command.Live
import TickWire.Command.Replay
import Std.Async.DNS
import Std.Async.TCP

/-!
# The command line

Reads files, talks to a gateway and prints.  Everything that is read goes to the commands
as it is, and what they produce is written as it is; nothing is decided here.  A session
is a run over what has arrived so far.  Where that ends too early, the last step is taken
again once more has arrived.
-/

namespace TickWire.Console

open Std.Async.TCP.Socket

/-- What is said of arguments that describe no command. -/
def usage : String :=
  let options {σ : Type} (grammar : CommandGrammar σ) : String :=
    " ".intercalate (grammar.options.map fun option => "[--" ++ option.name ++ "]")
  "Usage: tickwire live " ++ options LiveDraft.grammar
    ++ "\n       tickwire replay " ++ options ReplayDraft.grammar ++ " FILE"

/-- What stands at a path. -/
def placeAt (path : String) : IO OutputPlace :=
  try
    return .present (← IO.FS.readBinFile path).toList
  catch _ => return .absent

/-- The file at a path, if it can be read. -/
def fileAt (path : String) : IO (Option InputFile) :=
  try
    return some { bytes := (← IO.FS.readBinFile path).toList }
  catch _ => return none

/-- Writes what stands at a place now to a path, or to standard output. -/
def store (path? : Option String) (bytes : Bytes) : IO Unit :=
  match path? with
  | some path => IO.FS.writeBinFile path ⟨bytes.toArray⟩
  | none => do (← IO.getStdout).write ⟨bytes.toArray⟩

/-- Refuses files that only a decompressor can read or a compressor can write. -/
def checkUncompressed (output : OutputOptions) (file? : Option InputFile) : IO Unit := do
  if output.compressed then throw (.userError "compressed output is not supported")
  if let some file := file? then
    if file.bytes.take 4 = CompressedFrame.letters then
      throw (.userError "compressed input is not supported")

/-- Replays a file. -/
def runReplay (options : ReplayOptions) : IO (Except CommandError Unit) := do
  let file? ← fileAt options.input
  checkUncompressed options.output file?
  let place ← match options.output.path? with
    | some path => placeAt path
    | none => pure .absent
  let (result, after) := replay options file? place
  if after ≠ place then
    if let .present bytes := after then
      try store options.output.path? bytes
      catch _ => return (replay options file? .unreachable).1
  return result

/-- Stands for what has not arrived yet. -/
def unknown : LinkEvent := .failure "nothing has arrived yet"

/-- Whether a result depends on what has not arrived yet. -/
def isUndecided : Except CommandError Unit → Bool
  | .error (.live (.link (.other reason) _)) => unknown == .failure reason
  | _ => false

/-- What arrives next. -/
def receive (client : Client) : IO LinkEvent :=
  try
    match ← (client.recv? 65536).block with
    | some bytes => return .arrival bytes.toList
    | none => return .closed
  catch failure => return .failure (toString failure)

/-- Sends what a run has sent beyond what was sent before. -/
def transmit (client : Client) (before : Nat) (sent : List Bytes) : IO Nat := do
  for bytes in sent.drop before do
    (client.send ⟨bytes.toArray⟩).block
  return sent.length

/-- Connects and starts, once enough has arrived. -/
partial def openSession (client : Client) (options : LiveOptions) (place : OutputPlace)
    (arrived : List LinkEvent) (before : Nat) : IO (Except LiveReport LiveRun) := do
  match LiveRun.ofLink options { events := arrived ++ [unknown] } place with
  | .ok run =>
    discard <| transmit client before run.session.channel.link.sent
    return .ok run
  | .error report =>
    let before ← transmit client before report.sent
    if isUndecided report.result then
      let event ← receive client
      openSession client options place (arrived ++ [event]) before
    else return .error report

/-- A run after something arrived. -/
def supply (event : LinkEvent) (run : LiveRun) : LiveRun :=
  let events := run.session.channel.link.events
  { run with session.channel.link.events := events.dropLast ++ [event, unknown] }

/-- Writes what a run has written so far, and forgets it. -/
def unload (write : Bytes → IO Unit) (run : LiveRun) : IO LiveRun := do
  write run.output.sink.written
  return { run with output.sink.written := [], session.channel.link.waits := [] }

/-- Takes steps until the run ends. -/
partial def follow (client : Client) (write : Bytes → IO Unit) (run : LiveRun) :
    IO (Except CommandError Unit) := do
  match run.step with
  | .ok run => follow client write (← unload write run)
  | .error report =>
    if isUndecided report.result then
      let event ← receive client
      follow client write (supply event run)
    else
      if let .present bytes := report.place then write bytes
      return report.result

/-- Connects to a port of a host. -/
def connect (host : String) (port : UInt16) : IO Client := do
  let addresses ← (Std.Async.DNS.getAddrInfo host (toString port.toNat)).block
  let some address := addresses[0]? | throw (.userError s!"unknown host {host}")
  let client ← Client.mk
  (client.connect (match address with
    | .v4 address => .v4 ⟨address, port⟩
    | .v6 address => .v6 ⟨address, port⟩)).block
  return client

/-- Streams a session. -/
def runLive (options : LiveOptions) : IO (Except CommandError Unit) := do
  checkUncompressed options.output none
  match options.draft.finish with
  | .error error => return .error (.live error)
  | .ok settings =>
    let client ← connect settings.host settings.port
    let place ← match options.output.path? with
      | some path => placeAt path
      | none => pure .absent
    match ← openSession client options place [] 0 with
    | .error report => return report.result
    | .ok run =>
      let stream ← match options.output.path? with
        | some path => IO.FS.Stream.ofHandle <$> IO.FS.Handle.mk path .write
        | none => IO.getStdout
      let write (bytes : Bytes) : IO Unit := do
        stream.write ⟨bytes.toArray⟩
        stream.flush
      follow client write (← unload write run)

/-- Ends with a message about what went wrong. -/
def fail (message : String) : IO UInt32 := do
  IO.eprintln s!"Error: {message}"
  return 1

/-- Runs a command. -/
def runCommand (command : Command) : IO UInt32 := do
  let result ← match command with
    | .live options => runLive options
    | .replay options => runReplay options
  match result with
  | .ok () => return 0
  | .error error => if error.isBrokenPipe then return 0 else fail error.message

/-- Runs the command that arguments describe. -/
def run (arguments : List String) : IO UInt32 := do
  match Command.ofArguments (← IO.getEnv keyVariable) arguments with
  | .ok command =>
    try runCommand command
    catch failure => fail (toString failure)
  | .error .helpWanted =>
    IO.println usage
    return 0
  | .error .versionWanted =>
    IO.println "tickwire 0.3.0"
    return 0
  | .error fault =>
    IO.eprintln s!"Error: {fault.kind}\n{usage}"
    return 2

end TickWire.Console

def main (arguments : List String) : IO UInt32 := TickWire.Console.run arguments
