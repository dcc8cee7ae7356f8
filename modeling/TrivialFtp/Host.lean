import TrivialFtp.Net.Endpoint
import TrivialFtp.Storage.Store

/-!
# Hosts

The machine that programs run on, as far as a transfer touches it: files, standard streams,
ports, names and a clock.  Everything that may go wrong there is part of the description, so that
what a program does is a function of the host it starts on and of what happens to it.
-/

namespace TrivialFtp

/-- The state of a machine. -/
structure Host where
  store : Store := {}
  /-- The standard input. -/
  input : Node := {}
  /-- What was written to the standard output. -/
  output : Bytes := []
  /-- The directories from which files can be served. -/
  directories : List String := []
  /-- The addresses of named hosts. -/
  names : List (String × List Ip) := []
  /-- The ports in use. -/
  ports : List UInt16 := []
  /-- The port given to the next program that does not care which. -/
  nextPort : Nat := 40001
  /-- What keeps an address from being bound. -/
  bindFault : Ip → Option Fault := fun _ => none
  /-- How many datagrams were handed over for sending. -/
  sends : Nat := 0
  /-- What keeps a datagram from being sent, by the number of datagrams before it. -/
  sendFault : Nat → Option Fault := fun _ => none
  /-- The time in nanoseconds. -/
  clock : Nat := 0
  /-- The timeout in milliseconds of the last wait that had one. -/
  lastWait : Option Nat := none

namespace Host

/-- The most bytes one datagram carries. -/
def longestDatagram : Nat := 65507

/-- The addresses of a host: a literal address is its own. -/
def lookUp (host : Host) (name : String) : Except Fault (List Ip) :=
  match Ip.read? name with
  | some ip => .ok [ip]
  | none =>
    match host.names.lookup name with
    | some ips => .ok ips
    | none => .error .unknownName

/-- The port meant by a number: port 0 means a port that was not meant before. -/
def choosePort (host : Host) (port : UInt16) : UInt16 × Host :=
  if port = 0 then (.ofNat host.nextPort, { host with nextPort := host.nextPort + 1 })
  else (port, host)

/-- Take a port at a local address.  A port chosen for port 0 is not chosen again, even if it was
in use. -/
def bind (host : Host) (ip : Ip) (port : UInt16) : Except Fault UInt16 × Host :=
  match host.bindFault ip with
  | some f => (.error f, host)
  | none =>
    let (chosen, host) := host.choosePort port
    if chosen ∈ host.ports then (.error .addressInUse, host)
    else (.ok chosen, { host with ports := chosen :: host.ports })

/-- Give a port back. -/
def release (host : Host) (port : UInt16) : Host := { host with ports := host.ports.erase port }

/-- The ports in use, in ascending order. -/
def openPorts (host : Host) : List UInt16 := host.ports.mergeSort (· ≤ ·)

/-- Hand a datagram over for sending. -/
def transmit (host : Host) (d : Datagram) : Option Fault × Host :=
  let fault :=
    match host.sendFault host.sends with
    | some f => some f
    | none => if longestDatagram < d.bytes.length then some .messageTooLong else none
  (fault, { host with sends := host.sends + 1 })

/-- Read the clock.  No two readings give the same time. -/
def readClock (host : Host) : Nat × Host :=
  (host.clock + 1, { host with clock := host.clock + 1 })

/-- Begin to wait. -/
def wait (host : Host) (timeout : Nat) : Host := { host with lastWait := some timeout }

end Host

end TrivialFtp
