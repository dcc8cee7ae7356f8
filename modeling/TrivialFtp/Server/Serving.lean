import TrivialFtp.Server.Listening

/-!
# Serving

A server from its start to its end.  Told to end, it takes up no more requests and ends when its
last transfer does; a fault at its listening port ends it at once and cuts off its transfers.
-/

namespace TrivialFtp

/-- A server before it is started. -/
structure Server where
  address : String := "0.0.0.0:6969"
  service : Service := { root := "./tftp_root" }
  timing : Timing := {}
  shutdown : Shutdown := .never

/-- Why a server ends before it is told to. -/
inductive ServerFailure where
  | bind (address : String) (fault : Fault)
  | receive (fault : Fault)
  deriving DecidableEq, Repr

/-- The failure in words, followed by its cause. -/
def ServerFailure.causes : ServerFailure → List String
  | bind address fault => ["Failed to bind TFTP server socket to " ++ address, fault.text]
  | receive fault => ["Failed to receive on TFTP server socket", fault.text]

/-- A server in the course of its work. -/
inductive Serving where
  | listening (l : Listening)
  | stopped
  | failed (f : ServerFailure)

namespace Serving

/-- Whether a server has ended. -/
def isEnded : Serving → Bool
  | listening _ => false
  | _ => true

/-- Take a port to listen at. -/
def bind (server : Server) (host : Host) : Except Fault UInt16 × Host :=
  match Endpoint.read? server.address with
  | some e => host.bind e.ip e.port
  | none => (.error .invalidAddress, host)

/-- Start a server. -/
def start (server : Server) (host : Host) : Serving × Host :=
  match bind server host with
  | (.ok port, host) =>
    (.listening
      { port, service := server.service, timing := server.timing, shutdown := server.shutdown },
      host)
  | (.error fault, host) => (.failed (.bind server.address fault), host)

/-- Strike off the transfers that have ended, and end a server that is stopping with the last of
them. -/
def settle (l : Listening) (host : Host) : Serving × Host :=
  let l := l.sweep
  if l.stopping ∧ l.transfers.isEmpty then (.stopped, host.release l.port)
  else (.listening l, host)

/-- What a server makes of an arrival at a port, which need not be its own. -/
def receive (serving : Serving) (port : UInt16) (arrival : Arrival) (host : Host) :
    Serving × Host × List Deed :=
  match serving with
  | listening l =>
    if port ≠ l.port then
      let (transfers, host, deeds) := Listening.forward port arrival host l.transfers
      let (serving, host) := settle { l with transfers } host
      (serving, host, deeds)
    else if l.stopping then (serving, host, [])
    else match arrival with
      | .datagram client bytes =>
        let (l, host, deeds) := l.accept client bytes host
        let (serving, host) := settle l host
        (serving, host, deeds)
      | .silence => (serving, host, [])
      | .fault f => (.failed (.receive f), l.releaseAll host, [])
  | _ => (serving, host, [])

/-- What a server makes of one of the things that may end it. -/
def order (serving : Serving) (cause : Shutdown) (host : Host) : Serving × Host :=
  match serving with
  | listening l =>
    if l.shutdown = cause ∧ cause ≠ .never then settle { l with stopping := true } host
    else (serving, host)
  | _ => (serving, host)

/-- A server that cannot listen for interrupts is not ended by one. -/
def deafen (serving : Serving) : Serving :=
  match serving with
  | listening l =>
    if l.shutdown = .interrupt then .listening { l with shutdown := .never } else serving
  | _ => serving

end Serving

end TrivialFtp
