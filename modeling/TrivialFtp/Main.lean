import TrivialFtp.Command.Run

/-!
# The command line

The program `tftp`.  Files and standard streams are those of the machine it runs on.  Datagrams
come and go through a relay, one line each: the relay writes to descriptor 3 what arrives, and
the program writes to descriptor 4 what it sends.

| line | meaning |
|---|---|
| `port endpoint hex` | a datagram from an endpoint for a local port, or from a port to an endpoint |
| `port silence` | no datagram arrived at a port within the timeout of its transfer |
| `interrupt` | the terminal sent an interrupt |
-/

namespace TrivialFtp.Main

/-! ### Files -/

/-- A fault of the machine. -/
def faultOf (e : IO.Error) : Fault :=
  let kind : FaultKind := match e with
    | .permissionDenied .. => .permissionDenied
    | .alreadyExists .. => .alreadyExists
    | .resourceExhausted .. => .storageFull
    | .noFileOrDirectory .. => .notFound
    | _ => .other
  ⟨kind, toString e⟩

/-- What a path stands for on the machine, if anything. -/
def load? (path : String) : IO (Option Node) := do
  let real ← IO.FS.realPath path
  if ← real.isDir then return some { isDirectory := true }
  else if ← real.pathExists then
    try
      return some { content := (← IO.FS.readBinFile path).data.toList }
    catch e => return some { fault := some (faultOf e) }
  else return none

/-- The paths that a task may look at. -/
def pathsOf : Command.Task → IO (List String)
  | .get _ remote target => return [target.getD remote]
  | .put _ source _ => return [source]
  | .serve _ root _ _ => do
    let real ← IO.FS.realPath root
    if ← real.isDir then
      return root :: ((← real.readDir).toList.map fun e => Path.join root e.fileName)
    else return []

/-- The rest of a stream. -/
partial def readAll (stream : IO.FS.Stream) (begun : ByteArray := .empty) : IO ByteArray := do
  let chunk ← stream.read 65536
  if chunk.isEmpty then return begun else readAll stream (begun ++ chunk)

/-- The machine as far as a task is concerned with it. -/
def survey (task : Command.Task) : IO Host := do
  let mut nodes := []
  let mut directories := []
  for path in ← pathsOf task do
    if let some node ← load? path then
      nodes := (path, node) :: nodes
      if node.isDirectory then directories := path :: directories
  let input ← match task with
    | .put _ source _ =>
      if source = standardPath then pure (← readAll (← IO.getStdin)).data.toList else pure []
    | _ => pure []
  return { store := ⟨nodes⟩, directories, input := { content := input }
           clock := ← IO.monoNanosNow }

/-- Put onto the machine what has changed between two states of it. -/
def publish (before after : Host) : IO Unit := do
  for (path, node) in after.store.nodes do
    if node.isFile && (before.store.find? path).map Node.content != some node.content then
      IO.FS.writeBinFile path ⟨node.content.toArray⟩
  let fresh := after.output.drop before.output.length
  unless fresh.isEmpty do
    let out ← IO.getStdout
    out.write ⟨fresh.toArray⟩
    out.flush

/-! ### Lines -/

/-- Bytes as two hexadecimal digits each. -/
def hex (bytes : Bytes) : String :=
  .ofList (bytes.flatMap fun b => [Nat.digitChar (b.toNat / 16), Nat.digitChar (b.toNat % 16)])

/-- The bytes of pairs of hexadecimal digits. -/
def unhex? : List Char → Option Bytes
  | [] => some []
  | a :: b :: rest => do
    return .ofNat (16 * (← Ip.digit? 16 a) + (← Ip.digit? 16 b)) :: (← unhex? rest)
  | [_] => none

/-- The event that a line tells of. -/
def event? (line : String) : Option Event :=
  match ((line.splitOn "\n").headD "").splitOn " " with
  | ["interrupt"] => some .interrupt
  | [port, "silence"] => do
    return .arrival (.ofNat (← Numeral.read? Numeral.word16 port)) .silence
  | [port, source, digits] => do
    let port ← Numeral.read? Numeral.word16 port
    return .arrival (.ofNat port) (.datagram (← Endpoint.read? source) (← unhex? digits.toList))
  | _ => none

/-- Hand on what was sent, and log what was shown. -/
def report (relay : IO.FS.Handle) (deeds : List Deed) : IO Unit := do
  for d in World.sent deeds do
    relay.putStrLn (Numeral.write d.source.toNat ++ " " ++ d.target.text ++ " " ++ hex d.bytes)
  relay.flush
  for p in World.observed deeds do
    IO.eprintln ("Received " ++ p.text)

/-! ### The program -/

/-- How the program is used. -/
def usage : String :=
  "Usage: tftp [-v] get --host HOST [-p PORT] [-b SIZE] [--tsize] [-t SECONDS] [-r RETRIES]"
    ++ " [--local-ip IP] REMOTE [LOCAL]\n"
    ++ "       tftp [-v] put --host HOST [-p PORT] [-b SIZE] [--tsize] [-t SECONDS] [-r RETRIES]"
    ++ " [--local-ip IP] LOCAL [REMOTE]\n"
    ++ "       tftp [-v] serve [-l ADDRESS] [-r ROOT] [-t SECONDS] [--retries RETRIES]"
    ++ " [--local-ip IP] [--report-tsize]"

/-- A failure and its causes, each on a line of its own. -/
def complain (causes : List String) : IO UInt32 := do
  IO.eprintln ("Error: " ++ "\n  caused by: ".intercalate causes)
  return 1

/-- Take in what arrives until every program has ended or the relay is gone. -/
partial def converse (arrivals relay : IO.FS.Handle) (world : World) : IO World := do
  if world.isDone then return world
  let line ← arrivals.getLine
  if line.isEmpty then return world
  match event? line with
  | none => converse arrivals relay world
  | some event =>
    let now ← IO.monoNanosNow
    let host := { world.host with clock := max now world.host.clock }
    let (next, deeds) := { world with host }.step event
    publish world.host next.host
    report relay deeds
    converse arrivals relay next

/-- Carry out a command line. -/
def run (args : List String) : IO UInt32 := do
  match Command.understand args with
  | .error .help => IO.println usage; return 0
  | .error .misuse => IO.eprintln usage; return 1
  | .ok invocation =>
    let host ← survey invocation.task
    match (Command.carryOut Command.understand args).run host with
    | .error refusal left =>
      publish host left
      complain refusal.causes
    | .ok (world, deeds) _ =>
      let arrivals ← IO.FS.Handle.mk "/dev/fd/3" .read
      let relay ← IO.FS.Handle.mk "/dev/fd/4" .write
      publish host world.host
      report relay deeds
      match Command.verdict? (← converse arrivals relay world) with
      | some .success => return 0
      | some (.failure causes) => complain causes
      | some .crash => complain ["The program ended unexpectedly"]
      | none => complain ["The relay is gone"]

end TrivialFtp.Main

/-- The program `tftp`. -/
def main (args : List String) : IO UInt32 := TrivialFtp.Main.run args
