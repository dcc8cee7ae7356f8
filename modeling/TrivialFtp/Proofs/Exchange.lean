import Mathlib.Logic.Relation
import TrivialFtp.Proofs.Agreement
import TrivialFtp.Proofs.Moves
import TrivialFtp.Server.Listening

/-!
# Proofs: a client, a server and what is between them

One transfer seen from outside: the client that asks for it, the session that its request opens at
a server, and the datagrams on their way.  The network may lose, repeat, delay and reorder
datagrams, and time passes at both ends as it likes; in an orderly network every datagram arrives
once, after those sent before it from the same side, and nobody runs out of patience.

- `Setting.Step`: what may happen.
- `Setting.Orderly`: what happens in an orderly network.
-/

namespace TrivialFtp

/-- The two sides of a transfer. -/
inductive Party where
  | client
  | server
  deriving DecidableEq, Repr

/-- The side that a side deals with. -/
def Party.other : Party → Party
  | client => server
  | server => client

/-- What a client is to do: fetch a file into a target, or hand over what a node holds. -/
inductive Errand where
  | fetch (target : Target)
  | deliver (origin : Origin) (node : Node)
  deriving DecidableEq, Repr

namespace Errand

/-- The role that the client plays. -/
def role : Errand → Role
  | fetch _ => .download
  | deliver _ _ => .upload

/-- The direction of the client's request. -/
def direction : Errand → Direction
  | fetch _ => .read
  | deliver _ _ => .write

/-- The client's stream. -/
def stream : Errand → Stream
  | fetch target => .writing target
  | deliver origin node => .reading origin node

/-- The side that writes the bytes. -/
def receiver : Errand → Party
  | fetch _ => .client
  | deliver _ _ => .server

/-- The side that reads them. -/
def sender : Errand → Party
  | fetch _ => .server
  | deliver _ _ => .client

end Errand

/-- Who deals with whom, and over what. -/
structure Setting where
  client : Client
  /-- The address at which the server sees the client. -/
  clientIp : Ip
  /-- The address at which the client sees the server. -/
  serverIp : Ip
  /-- What the server serves, and how long its sessions wait. -/
  service : Service
  timing : Timing
  filename : String
  options : Options
  errand : Errand

/-- A datagram on its way, and the side it comes from. -/
structure Parcel where
  sender : Party
  datagram : Datagram
  deriving DecidableEq, Repr

/-- A transfer under way. -/
structure Exchange where
  client : Run
  clientHost : Host
  /-- The session that the client's request has opened, if it has come to the server. -/
  server : Option Run
  serverHost : Host
  /-- What is on its way, the oldest first. -/
  flight : List Parcel := []
  /-- All that was ever sent, the oldest first. -/
  sent : List Parcel := []

namespace Exchange

/-- The run of a side, if it has begun. -/
def run (x : Exchange) : Party → Option Run
  | .client => some x.client
  | .server => x.server

/-- The host of a side. -/
def host (x : Exchange) : Party → Host
  | .client => x.clientHost
  | .server => x.serverHost

/-- A side has come through. -/
def Completed (x : Exchange) (party : Party) : Prop :=
  ∃ tally, x.run party = some (.ended (.completed tally))

/-- What a side sends is on its way. -/
def post (x : Exchange) (sender : Party) (deeds : List Deed) : Exchange :=
  { x with
    flight := x.flight ++ (World.sent deeds).map (Parcel.mk sender)
    sent := x.sent ++ (World.sent deeds).map (Parcel.mk sender) }

/-- The client has acted. -/
def clientTurn (x : Exchange) (result : Run × Host × List Deed) : Exchange :=
  { x with client := result.1, clientHost := result.2.1 }.post .client result.2.2

/-- The server's session has acted. -/
def serverTurn (x : Exchange) (result : Run × Host × List Deed) : Exchange :=
  { x with server := some result.1, serverHost := result.2.1 }.post .server result.2.2

/-- Time runs out at a side. -/
def silence (x : Exchange) : Party → Exchange
  | .client => x.clientTurn (x.client.step .silence x.clientHost)
  | .server =>
    match x.server with
    | none => x
    | some run => x.serverTurn (run.step .silence x.serverHost)

/-- Time passes at a side. -/
def pass (x : Exchange) (time : Nat) : Party → Exchange
  | .client => { x with clientHost := { x.clientHost with clock := x.clientHost.clock + time } }
  | .server => { x with serverHost := { x.serverHost with clock := x.serverHost.clock + time } }

end Exchange

namespace Setting

variable (t : Setting)

/-- The request that the client sends. -/
def request : Packet := .octetRequest t.errand.direction t.filename t.options

/-- The client begins its transfer. -/
def launch (host : Host) : Run × Host × List Deed :=
  t.client.transfer t.errand.role t.errand.direction t.filename t.errand.stream t.options host

/-- The client has begun, and the server listens. -/
def initial (clientHost serverHost : Host) : Exchange :=
  { client := (t.launch clientHost).1
    clientHost := (t.launch clientHost).2.1
    server := none
    serverHost : Exchange }.post .client (t.launch clientHost).2.2

/-- The server opens a session for a request, from a port of its own. -/
def answer (packet : Packet) (client : Endpoint) (host : Host) : Run × Host × List Deed :=
  match host.bindFor client.ip t.timing with
  | (.error fault, host) => (.ended (Client.early fault host.clock), host, [])
  | (.ok port, host) =>
    let (now, host) := host.readClock
    Run.start (.server t.service port client t.timing now) (.answer packet client) host

/-- What a side sent reaches the other.  At the port where the server listens the first request
opens the session, and the server lets pass whatever else of the client's comes there. -/
def arrive (x : Exchange) (parcel : Parcel) : Exchange :=
  let d := parcel.datagram
  match parcel.sender with
  | .server =>
    x.clientTurn
      (x.client.receive d.target.port (.datagram ⟨t.serverIp, d.source, 0⟩ d.bytes) x.clientHost)
  | .client =>
    if d.target.port = t.client.port then
      match x.server, Packet.decode (d.bytes.take Listening.longestRequest) with
      | none, .ok (.request direction filename mode options) =>
        x.serverTurn (t.answer (.request direction filename mode options)
          ⟨t.clientIp, d.source, 0⟩ x.serverHost)
      | _, _ => x
    else
      match x.server with
      | none => x
      | some run =>
        x.serverTurn
          (run.receive d.target.port (.datagram ⟨t.clientIp, d.source, 0⟩ d.bytes) x.serverHost)

/-- What may happen. -/
inductive Step : Exchange → Exchange → Prop where
  /-- A datagram arrives, in whatever order. -/
  | deliver {x : Exchange} {before after : List Parcel} {parcel : Parcel}
      (hflight : x.flight = before ++ parcel :: after) :
    Step x (t.arrive { x with flight := before ++ after } parcel)
  | lose {x : Exchange} {before after : List Parcel} {parcel : Parcel}
      (hflight : x.flight = before ++ parcel :: after) :
    Step x { x with flight := before ++ after }
  | repeat {x : Exchange} {parcel : Parcel} (hflight : parcel ∈ x.flight) :
    Step x { x with flight := x.flight ++ [parcel] }
  | silence {x : Exchange} (party : Party) : Step x (x.silence party)
  | pass {x : Exchange} (time : Nat) (party : Party) : Step x (x.pass time party)

/-- What happens in an orderly network: the oldest datagram of one of the sides arrives. -/
inductive Orderly : Exchange → Exchange → Prop where
  | deliver {x : Exchange} {before after : List Parcel} {parcel : Parcel}
      (hflight : x.flight = before ++ parcel :: after)
      (holdest : ∀ earlier ∈ before, earlier.sender ≠ parcel.sender) :
    Orderly x (t.arrive { x with flight := before ++ after } parcel)

/-- Whatever may come of an exchange. -/
def Reachable (x x' : Exchange) : Prop := Relation.ReflTransGen t.Step x x'

/-- Whatever may come of it in an orderly network. -/
def Orderable (x x' : Exchange) : Prop := Relation.ReflTransGen t.Orderly x x'

/-- What happens in an orderly network may happen in any. -/
theorem Orderly.step {x x' : Exchange} (h : t.Orderly x x') : t.Step x x' := by
  cases h with
  | deliver hflight => exact .deliver hflight

/-- The oldest datagram of all arrives, if there is one. -/
def proceed (x : Exchange) : Exchange :=
  match x.flight with
  | [] => x
  | parcel :: rest => t.arrive { x with flight := rest } parcel

/-- The arrival of the oldest datagram of all is orderly. -/
theorem orderable_proceed (x : Exchange) : t.Orderable x (t.proceed x) := by
  unfold proceed
  split
  · exact .refl
  · next parcel rest hflight =>
    have hflight : x.flight = [] ++ parcel :: rest := hflight
    exact .single (.deliver hflight fun _ hearlier => nomatch hearlier)

/-- What comes of an exchange in an orderly network may come of it in any. -/
theorem reachable_of_orderable {x x' : Exchange} (h : t.Orderable x x') : t.Reachable x x' := by
  induction h with
  | refl => exact .refl
  | tail _ hstep ih => exact ih.tail (Orderly.step t hstep)

end Setting

/-! ### Ports -/

/-- To take a port changes no file. -/
theorem Host.bindFor_files (host : Host) (peer : Ip) (timing : Timing) :
    host.SameFiles (host.bindFor peer timing).2 := by
  unfold Host.bindFor Host.bind
  split
  · exact .refl host
  · change host.SameFiles (ite _ _ _ : Except Fault UInt16 × Host).2
    split
    · exact ⟨rfl, rfl⟩
    · exact ⟨rfl, rfl⟩

theorem Client.connect_files (client : Client) (host : Host) :
    host.SameFiles (client.connect host).2 := by
  unfold Client.connect
  split
  · exact .refl host
  · exact .refl host
  · exact host.bindFor_files _ _

/-- To take a port makes sending neither better nor worse. -/
theorem Host.bindFor_sendFault (host : Host) (peer : Ip) (timing : Timing) :
    (host.bindFor peer timing).2.sendFault = host.sendFault := by
  unfold Host.bindFor Host.bind
  split
  · rfl
  · change (ite _ _ _ : Except Fault UInt16 × Host).2.sendFault = _
    split <;> rfl

/-- A port that is given to a program was free. -/
theorem Host.port_of_bindFor {host : Host} {peer : Ip} {timing : Timing} {port : UInt16}
    (h : (host.bindFor peer timing).1 = .ok port) : port ∉ host.ports := by
  unfold Host.bindFor Host.bind at h
  split at h
  · exact nomatch h
  · change (ite (UInt16.ofNat host.nextPort ∈ host.ports) _ _ :
      Except Fault UInt16 × Host).1 = _ at h
    split at h
    · exact nomatch h
    · next hfree => exact Except.ok.inj h ▸ hfree

theorem Client.connect_sendFault (client : Client) (host : Host) :
    (client.connect host).2.sendFault = host.sendFault := by
  unfold Client.connect
  split
  · rfl
  · rfl
  · exact host.bindFor_sendFault _ _

/-! ### What is to be delivered -/

/-- What a server has for a reader under a name, and the size of it if it is a file. -/
def Service.find? (service : Service) (store : Store) (filename : String) :
    Option (Node × Option Nat) :=
  match store.look (Path.join service.root filename) with
  | .ok node =>
    if node.isFile then
      match store.openNode (Path.join service.root filename) with
      | .ok node => some (node, some node.content.length)
      | .error _ => none
    else resolved
  | .error f => if f.kind = .notFound then resolved else none
where
  /-- What the resolver has. -/
  resolved : Option (Node × Option Nat) :=
    match service.resolver.bind fun resolver => resolver filename with
    | some (.content node) => some (node, none)
    | _ => none

/-- The size that is told of a file is its own, if any is. -/
theorem Service.size_of_find? {service : Service} {store : Store} {filename : String} {node : Node}
    {size : Option Nat} (h : service.find? store filename = some (node, size)) :
    size = none ∨ size = some node.content.length := by
  have hresolved : find?.resolved service filename = some (node, size) → size = none := by
    intro h
    unfold find?.resolved at h
    split at h
    · exact (congrArg Prod.snd (Option.some.inj h)).symm
    · exact nomatch h
  unfold find? at h
  split at h
  · split at h
    · split at h
      · obtain ⟨rfl, rfl⟩ := Prod.mk.inj (Option.some.inj h)
        exact .inr rfl
      · exact nomatch h
    · exact .inl (hresolved h)
  · split at h
    · exact .inl (hresolved h)
    · exact nomatch h

/-- A session finds a file where its service has it. -/
theorem Served.find? {service : Service} {filename : String} {scene scene' : Scene} {node : Node}
    {size : Option Nat} (h : Served service filename scene node size scene') :
    service.find? scene.host.store filename = some (node, size) := by
  unfold Service.find?
  cases h with
  | file hopen hfile =>
    rw [Store.look_of_openNode hopen]
    simp only [hfile, hopen, if_true]
  | resolved hmissing hresolver hcontent =>
    have hresolved : Service.find?.resolved service filename = some (node, none) := by
      unfold Service.find?.resolved
      rw [hresolver, Option.bind_some, hcontent]
    rcases hmissing with ⟨node', hlook, hfile⟩ | ⟨f, hlook, hkind⟩
    · rw [hlook]
      simp only [hfile, Bool.false_eq_true, if_false, hresolved]
    · rw [hlook]
      simp only [hkind, if_true, hresolved]

namespace Setting

variable (t : Setting)

/-- The name and the options that the server reads in the request. -/
def asked : String × Options :=
  match Packet.decode (t.request.encode.take Listening.longestRequest) with
  | .ok (.request _ filename _ options) => (filename, options)
  | _ => ("", ∅)

/-- What the sender has, and the size that the server is told of it. -/
def source? (store : Store) : Option (Node × Option Nat) :=
  match t.errand with
  | .fetch _ => t.service.find? store t.asked.1
  | .deliver _ node => some (node, t.asked.2.announced)

/-- The server's offer. -/
def offer (store : Store) : Terms.Offer :=
  Terms.offer t.asked.2 (t.service.told ((t.source? store).bind Prod.snd))

/-- The size of a full block. -/
def blockSize (store : Store) : Nat := (t.offer store).terms.blockSize.size

/-- Where the receiver puts the bytes.  A server makes the file that it was asked for. -/
def target : Target :=
  match t.errand with
  | .fetch target => target
  | .deliver _ _ => .file (Path.join t.service.root t.asked.1)

/-- What the target holds before the first byte. -/
def base (clientHost : Host) : Bytes :=
  match t.errand with
  | .fetch target => target.held clientHost
  | .deliver _ _ => []

variable {t}

/-- What is read of a request is read in the direction in which it was asked. -/
theorem asked_of_decode {direction : Direction} {filename mode : String} {options : Options}
    (h : Packet.decode (t.request.encode.take Listening.longestRequest) =
      .ok (.request direction filename mode options)) :
    direction = t.errand.direction ∧ t.asked = (filename, options) := by
  refine ⟨?_, by rw [asked, h]⟩
  have hopcode := Packet.opcode_decode_take (by decide) h
  cases hdirection : t.errand.direction with
  | read | write =>
    rw [request, hdirection] at hopcode
    cases direction <;> first | rfl | exact nomatch hopcode

/-- A request that has no NUL and is not too long is read as it was meant. -/
theorem decode_request (hclean : ∀ s ∈ t.request.texts, '\x00' ∉ s.toList)
    (hfits : t.request.encode.length ≤ Listening.longestRequest) :
    Packet.decode (t.request.encode.take Listening.longestRequest) = .ok t.request := by
  rw [List.take_of_length_le hfits]
  exact Packet.decode_encode hclean fun mode hmode => Option.some.inj hmode ▸ by decide

/-- A request that fits and holds no null characters is read as it was made. -/
theorem asked_of_clean (hclean : ∀ s ∈ t.request.texts, '\x00' ∉ s.toList)
    (hfits : t.request.encode.length ≤ Listening.longestRequest) :
    t.asked = (t.filename, t.options) :=
  (asked_of_decode (decode_request hclean hfits)).2

end Setting

end TrivialFtp
