import TrivialFtp.Command.Invocation
import TrivialFtp.World

/-!
# Commands

Carrying out what the command line asks for.  A command does one thing after the other to its host,
and may be refused at any of them: what was done before that stays done.
-/

namespace TrivialFtp.Command

/-- Why a command is not carried out. -/
inductive Refusal where
  | usage (u : Usage)
  | noTimeout
  | blockSizeOutOfRange (n : Nat)
  | noRemoteName
  | noRoot (root : String)
  | noTarget (path : String) (fault : Fault)
  | noSource (path : String) (fault : Fault)
  deriving DecidableEq, Repr

/-- The refusal in words, followed by its cause. -/
def Refusal.causes : Refusal → List String
  | usage _ => []
  | noTimeout => ["Timeout must be at least one second"]
  | blockSizeOutOfRange n => ["Block size " ++ Numeral.write n ++ " is outside 8-65464"]
  | noRemoteName => ["A remote file name is required when uploading from stdin"]
  | noRoot root => ["Root directory " ++ root ++ " does not exist"]
  | noTarget path fault => ["Failed to create " ++ path, fault.text]
  | noSource path fault => ["Failed to open " ++ path, fault.text]

/-- The timing of transfers at a pace, which must leave time to answer. -/
def timing (pace : Pace) : Except Refusal Timing :=
  if pace.timeout = 0 then .error .noTimeout
  else .ok { timeout := 1000 * pace.timeout, retries := pace.retries, localIp := pace.localIp }

/-- The options a client requests. -/
def requestOptions (common : Common) (size : Option Nat) : Except Refusal Options := do
  let options ← match common.blockSize with
    | none => pure ∅
    | some n =>
      match BlockSize.ofNat? n with
      | some b => pure ((∅ : Options).insert Terms.blockSizeName b.text)
      | none => throw (.blockSizeOutOfRange n)
  match size with
  | none => return options
  | some n => return options.insert Terms.transferSizeName (Numeral.write n)

/-- The client for a command. -/
def client (common : Common) (timing : Timing) (verbose : Bool) : Client :=
  { server := common.host, port := common.port, timing, watched := verbose }

/-- The name under which a local file is put: the one given, or its own. -/
def remoteName (source : String) (remote : Option String) : Except Refusal String :=
  match remote with
  | some name => .ok name
  | none =>
    match (Path.fileName? source).filter (· ≠ standardPath) with
    | some name => .ok name
    | none => .error .noRemoteName

/-- The size told of a local path: that of a file, and 0 for anything else. -/
def sizeOf (host : Host) (path : String) : Nat :=
  match host.store.look path with
  | .ok node => if node.isFile then node.content.length else 0
  | .error _ => 0

/-- A command at work on a host. -/
abbrev Job := EStateM Refusal Host

/-- The programs that a command has begun, and what they did first. -/
abbrev Begun := World × List Deed

/-- Open a path to write to. -/
def openSink (path : String) : Job Stream := do
  match Stream.sink (← getThe Host) path with
  | .ok (sink, host) =>
    set host
    return sink
  | .error fault => throw (.noTarget path fault)

/-- Open a path to read from. -/
def openSource (path : String) : Job Stream := do
  match Stream.source (← getThe Host) path with
  | .ok stream => return stream
  | .error fault => throw (.noSource path fault)

/-- Begin a transfer. -/
def launch (transfer : Host → Run × Host × List Deed) : Job Begun := do
  let (world, deeds) := ({ host := ← getThe Host } : World).withClient transfer
  set world.host
  return (world, deeds)

/-- Begin to get a file. -/
def get (common : Common) (remote : String) (target : Option String) (verbose : Bool) :
    Job Begun := do
  let timing ← ofExcept (timing common.pace)
  let options ← ofExcept (requestOptions common (if common.withSize then some 0 else none))
  let sink ← openSink (target.getD remote)
  launch ((client common timing verbose).download remote sink options)

/-- Begin to put a file. -/
def put (common : Common) (source : String) (remote : Option String) (verbose : Bool) :
    Job Begun := do
  let name ← ofExcept (remoteName source remote)
  let host ← getThe Host
  let size := if common.withSize then some (sizeOf host source) else none
  let timing ← ofExcept (timing common.pace)
  let options ← ofExcept (requestOptions common size)
  let stream ← openSource source
  launch ((client common timing verbose).upload name stream options)

/-- Begin to serve a directory. -/
def serve (address root : String) (pace : Pace) (reportSize : Bool) : Job Begun := do
  let timing ← ofExcept (timing pace)
  if root ∉ (← getThe Host).directories then throw (.noRoot root)
  let service := { root, reportSize : Service }
  let world := ({ host := ← getThe Host } : World).withServer
    { address, service, timing, shutdown := .interrupt }
  set world.host
  return (world, [])

/-- Begin a task. -/
def perform (verbose : Bool) : Task → Job Begun
  | .get common remote target => get common remote target verbose
  | .put common source remote => put common source remote verbose
  | .serve address root pace reportSize => serve address root pace reportSize

/-- Begin what a command line asks for, as a parser takes it. -/
def carryOut (parse : Parser) (args : List String) : Job Begun :=
  match parse args with
  | .error u => throw (.usage u)
  | .ok ⟨verbose, task⟩ => perform verbose task

/-- What a command line has begun on a host, unless it was refused. -/
def start (args : List String) (host : Host) : Except Refusal Begun :=
  match (carryOut understand args).run host with
  | .ok begun _ => .ok begun
  | .error refusal _ => .error refusal

/-- How a command came out. -/
inductive Verdict where
  | success
  | failure (causes : List String)
  | crash
  deriving DecidableEq, Repr

/-- The verdict on a world, once there is one. -/
def verdict? (w : World) : Option Verdict :=
  match w.client, w.server with
  | some (.ended (.completed _)), _ => some .success
  | some (.ended (.failed f _)), _ => some (.failure ("TFTP transfer failed" :: f.causes))
  | some (.ended .crashed), _ => some .crash
  | some (.waiting _), _ => none
  | none, some .stopped => some .success
  | none, some (.failed f) => some (.failure f.causes)
  | none, _ => none

end TrivialFtp.Command
