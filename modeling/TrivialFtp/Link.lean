import TrivialFtp.World

/-!
# Links

A client and a server in one world, joined by a link that loses, delays, repeats and damages
datagrams as a schedule says.  The link works in rounds: a round delivers one datagram, or takes
up those that were held back, or lets time pass until some program is out of patience.
-/

namespace TrivialFtp

/-- Whose patience ends first when nothing is on its way. -/
inductive Patience where
  | first
  | server
  | both
  deriving DecidableEq, Repr

/-- What a link does to the datagrams, which are numbered as they are sent. -/
structure Schedule where
  lose : List Nat := []
  /-- Held back once, until nothing else is on its way. -/
  hold : List Nat := []
  repeated : List Nat := []
  /-- A byte, found by its place modulo the length, has bits turned over. -/
  damage : List (Nat × Nat × UInt8) := []
  /-- Only so many bytes arrive. -/
  cut : List (Nat × Nat) := []
  patience : Patience := .first
  deriving DecidableEq, Repr

/-- What is to be seen of a link. -/
inductive Notice where
  | sent (number : Nat) (d : Datagram)
  | held (number : Nat)
  | timeout (port : UInt16)
  | observed (packet : Packet)
  deriving DecidableEq, Repr

/-- A link at work. -/
structure Link where
  world : World
  /-- Sent, and not yet numbered. -/
  fresh : List Datagram := []
  next : Nat := 0
  queue : List (Nat × Datagram) := []
  held : List (Nat × Datagram) := []
  /-- The numbers that were held back at some time. -/
  heldOnce : List Nat := []
  /-- What was seen, the latest first. -/
  notices : List Notice := []

namespace Link

/-- The port at which the server listens. -/
def listeningPort : UInt16 := 6969

/-- The address that both programs see the other at. -/
def loopback : Ip := .v4 127 0 0 1

/-- Take note of something. -/
def note (link : Link) (n : Notice) : Link := { link with notices := n :: link.notices }

/-- Take note of deeds and keep what they sent. -/
def take (link : Link) (world : World) (deeds : List Deed) : Link :=
  { link with
    world
    fresh := link.fresh ++ World.sent deeds
    notices := ((World.observed deeds).map .observed).reverse ++ link.notices }

/-- Number what was sent and put it into the queue. -/
def collect (link : Link) : Link :=
  let numbered := (List.range' link.next link.fresh.length).zip link.fresh
  { link with
    fresh := []
    next := link.next + link.fresh.length
    queue := link.queue ++ numbered
    notices := (numbered.map fun e => .sent e.1 e.2).reverse ++ link.notices }

/-- Turn over bits of the byte at a place modulo the length. -/
def turnOver (bytes : Bytes) (place : Nat) (bits : UInt8) : Bytes :=
  bytes.modify (place % bytes.length) (· ^^^ bits)

/-- A datagram as it arrives. -/
def arriving (schedule : Schedule) (number : Nat) (bytes : Bytes) : Bytes :=
  let damaged := schedule.damage.foldl
    (fun bytes (n, place, bits) => if n = number then turnOver bytes place bits else bytes) bytes
  schedule.cut.foldl (fun bytes (n, length) => if n = number then bytes.take length else bytes)
    damaged

/-- Something reaches a port. -/
def deliver (link : Link) (port : UInt16) (arrival : Arrival) : Link :=
  let (world, deeds) := link.world.deliver port arrival
  link.take world deeds

/-- Deliver the datagram of a number, twice if it is to be repeated. -/
def pass (schedule : Schedule) (number : Nat) (d : Datagram) (link : Link) : Link :=
  let arrival := .datagram ⟨loopback, d.source, 0⟩ (arriving schedule number d.bytes)
  let link := link.deliver d.target.port arrival
  if number ∈ schedule.repeated then link.deliver d.target.port arrival else link

/-- The ports of the transfers under way. -/
def transferPorts (link : Link) : List UInt16 :=
  link.world.host.openPorts.filter (· ≠ listeningPort)

/-- The port that the client's transfer uses. -/
def clientPort? (link : Link) : Option UInt16 :=
  match link.world.client with
  | some (.waiting session) => some session.port
  | _ => none

/-- The ports at which time runs out, in order. -/
def impatient (patience : Patience) (link : Link) : List UInt16 :=
  let ports := link.transferPorts
  match patience with
  | .both => ports
  | .first => ports.take 1
  | .server =>
    match ports.filter (some · ≠ link.clientPort?) with
    | [] => ports.take 1
    | port :: _ => [port]

/-- Time runs out at a port. -/
def expire (link : Link) (port : UInt16) : Link := (link.note (.timeout port)).deliver port .silence

/-- One round, after what was sent is in the queue; none when no transfer is under way and nothing
is left to deliver. -/
def round? (schedule : Schedule) (link : Link) : Option Link :=
  match link.queue with
  | (number, d) :: queue =>
    let link := { link with queue }
    if number ∈ schedule.lose then some link
    else if number ∈ schedule.hold ∧ number ∉ link.heldOnce then
      some ({ link with
        held := link.held ++ [(number, d)]
        heldOnce := number :: link.heldOnce }.note (.held number))
    else some (pass schedule number d link)
  | [] =>
    if !link.held.isEmpty then some { link with queue := link.held, held := [] }
    else
      match link.impatient schedule.patience with
      | [] => none
      | ports => some (ports.foldl expire link)

/-- At most so many rounds. -/
def rounds (schedule : Schedule) : Nat → Link → Link
  | 0, link => link
  | n + 1, link =>
    let link := link.collect
    match link.round? schedule with
    | some link => rounds schedule n link
    | none => link

/-- The number of rounds after which a link is given up.  Every round uses up a datagram or some
program's patience, of which each has little. -/
def mostRounds : Nat := 1000000

/-- Let a client and a server talk until no transfer is under way, and then end the server. -/
def run (schedule : Schedule) (world : World) (deeds : List Deed) : Link :=
  let link := rounds schedule mostRounds ((Link.mk world [] 0 [] [] [] []).take world deeds)
  { link with world := link.world.order .order }

end Link

end TrivialFtp
