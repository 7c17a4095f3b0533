import GatedRelay.Command.Run
import GatedRelay.Web.Message
import Std.Time.DateTime.Timestamp

/-!
The program. It reads arguments, environment variables and files, and hands them to the commands.
A relay that serves answers the one connection that is its standard input and output, as programs
do that a listening server starts; the variables `TCPREMOTEIP` and `TCPREMOTEPORT` tell the peer.
Connections of its own it cannot open, so that other servers count as unreachable.
-/

namespace GatedRelay.Main

def host : Host IO where
  load path := do
    try
      let bytes ← IO.FS.readBinFile path
      return some bytes.toList
    catch _ => return none
  occupied path := do
    try
      let _ ← IO.FS.Handle.mk path .read
      return true
    catch _ => return false
  store path bytes := do
    try
      IO.FS.writeBinFile path ⟨bytes.toArray⟩
      return true
    catch _ => return false
  bind address port := return some s!"{address}:{Numeral.decimalString port}"
  send _ := return .unreachable
  clock := IO.monoNanosNow

/-- The variables that options can be taken from, as far as they are set. -/
def environment : IO (List (String × String)) :=
  (ValueOption.serving.filterMap ValueOption.variableName?).filterMapM fun name => do
    return (← IO.getEnv name).map (name, ·)

def peerAddress : IO String := do
  let ip := (← IO.getEnv "TCPREMOTEIP").getD "127.0.0.1"
  let port := (← IO.getEnv "TCPREMOTEPORT").getD "0"
  return if ip.toList.contains ':' then s!"[{ip}]:{port}" else s!"{ip}:{port}"

/-- The lines of a head, up to an empty one. -/
partial def readHead (input : IO.FS.Stream) : IO (List String) := do
  let line := String.ofList ((← input.getLine).toList.filter fun c => c ≠ '\r' ∧ c ≠ '\n')
  if line.isEmpty then return []
  else return line :: (← readHead input)

/-- So many bytes of a body, or fewer if the input ends. -/
partial def readBody (input : IO.FS.Stream) (length : Nat) : IO Bytes := do
  if length = 0 then return []
  let bytes ← input.read (USize.ofNat length)
  if bytes.isEmpty then return []
  else return bytes.toList ++ (← readBody input (length - bytes.size))

/-- Publishes over the network, with the token in the cache. -/
def publish (p : Publisher) (cache : IO.Ref (Option CachedToken)) (payload : Bytes) :
    IO (Attempt PublishError Unit) := do
  match p with
  | .dryRun => return .ok ()
  | .pubsub p =>
    let (result, token) ← (p.publish payload (← cache.get)).run host.send host.clock
    cache.set token
    return result

/-- Answers the request on the standard input. -/
def answerConnection (s : Service) : IO UInt32 := do
  let input ← IO.getStdin
  let cache ← IO.mkRef s.token
  let now := (← Std.Time.Timestamp.now).toSecondsSinceUnixEpoch.val
  let relay : Relay IO := ⟨s.programs, publish s.publisher cache, s.maxBodyBytes⟩
  let output ← IO.getStdout
  let send (a : HttpAnswer) : IO Unit := do
    output.write ⟨a.message.toArray⟩
    output.flush
  match RequestHead.ofLines? (← readHead input) with
  | none =>
    send (.bare 400)
    return 0
  | some head =>
    let body ← readBody input head.bodyLength
    match ← relay.serve s.mount ⟨now, now⟩ (head.complete (← peerAddress) body) with
    | some a =>
      send a
      return 0
    | none => return 101

def usage : String :=
  "Usage: json2pubsub <COMMAND>\n\nCommands:\n" ++
    "  serve     Accept webhooks and publish them as messages\n" ++
    "  validate  Check the configuration and compile its expressions\n" ++
    "  init      Generate a default configuration file\n"

def runCommand (c : Command) : IO UInt32 := do
  let report ← c.run host
  match report.result with
  | .ok (.serving s) =>
    IO.eprint report.output
    answerConnection s
  | .ok .done =>
    IO.print report.output
    return UInt32.ofNat report.exitCode
  | .error (.failed e) =>
    IO.eprint (c.failureLine e)
    return UInt32.ofNat report.exitCode
  | .error .aborted => return UInt32.ofNat report.exitCode

end GatedRelay.Main

open GatedRelay in
def main (args : List String) : IO UInt32 := do
  match CommandLine.read (← Main.environment) args with
  | .command c => Main.runCommand c
  | .help =>
    IO.print Main.usage
    return 0
  | .version =>
    IO.println Command.versionText
    return 0
  | .mistake =>
    IO.eprint Main.usage
    return UInt32.ofNat mistakeCode
