import TrivialFtp.Session.Run

/-!
# Clients

Downloads from and uploads to a server, each from a separate port.
-/

namespace TrivialFtp

/-- A server as its clients know it, and how they deal with it. -/
structure Client where
  server : String
  port : UInt16 := 69
  timing : Timing := {}
  watched : Bool := false
  deriving DecidableEq, Repr

namespace Host

/-- Take a free port for a transfer with a peer: at the address that was chosen for transfers, or
at any local address of the peer's family. -/
def bindFor (host : Host) (peer : Ip) (timing : Timing) : Except Fault UInt16 × Host :=
  host.bind (timing.localIp.getD peer.unspecified) 0

end Host

namespace Client

/-- Find the server and take a port to talk to it from.  Of several addresses the first is
used. -/
def connect (client : Client) (host : Host) : Except Fault (Endpoint × UInt16) × Host :=
  match host.lookUp client.server with
  | .error fault => (.error fault, host)
  | .ok [] => (.error (.noAddress client.server), host)
  | .ok (ip :: _) =>
    let (port, host) := host.bindFor ip client.timing
    (port.map (⟨ip, client.port, 0⟩, ·), host)

/-- The ending of a transfer that failed before anything was sent. -/
def early (fault : Fault) (now : Nat) : Ending :=
  .failed (.io fault) { started := now, finished := some now }

/-- Begin a transfer in a given role. -/
def transfer (client : Client) (role : Role) (direction : Direction) (filename : String)
    (stream : Stream) (options : Options) (host : Host) : Run × Host × List Deed :=
  match client.connect host with
  | (.error fault, host) => (.ended (early fault host.clock), host, [])
  | (.ok (remote, port), host) =>
    let (now, host) := host.readClock
    let session :=
      Session.client role port remote stream options client.timing client.watched now
    Run.start session (.request (.octetRequest direction filename options)) host

/-- Begin to fetch a file. -/
def download (client : Client) (filename : String) (sink : Stream) (options : Options)
    (host : Host) : Run × Host × List Deed :=
  client.transfer .download .read filename sink options host

/-- Begin to hand over a file. -/
def upload (client : Client) (filename : String) (source : Stream) (options : Options)
    (host : Host) : Run × Host × List Deed :=
  client.transfer .upload .write filename source options host

end Client

end TrivialFtp
