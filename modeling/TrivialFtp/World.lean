import TrivialFtp.Server.Serving

/-!
# Worlds

A host with the programs on it, a client, a server or both, and what happens to them.
-/

namespace TrivialFtp

/-- A host with the programs that run on it. -/
structure World where
  host : Host
  client : Option Run := none
  server : Option Serving := none

/-- What may happen in a world. -/
inductive Event where
  | arrival (port : UInt16) (arrival : Arrival)
  /-- The server is told to end. -/
  | stop
  /-- The terminal sends an interrupt. -/
  | interrupt
  /-- Interrupts cannot be listened for. -/
  | deaf
  deriving DecidableEq, Repr

namespace World

/-- Whether every program has ended. -/
def isDone (w : World) : Bool := w.client.all Run.isEnded && w.server.all Serving.isEnded

/-- Put a client's transfer into a world. -/
def withClient (w : World) (transfer : Host → Run × Host × List Deed) : World × List Deed :=
  let (run, host, deeds) := transfer w.host
  ({ w with host, client := some run }, deeds)

/-- Start a server in a world. -/
def withServer (w : World) (server : Server) : World :=
  let (serving, host) := Serving.start server w.host
  { w with host, server := some serving }

/-- What reaches a port reaches the program that holds it. -/
def deliver (w : World) (port : UInt16) (arrival : Arrival) : World × List Deed :=
  let (client, host, before) := match w.client with
    | some run =>
      let (run, host, deeds) := run.receive port arrival w.host
      (some run, host, deeds)
    | none => (none, w.host, [])
  let (server, host, after) := match w.server with
    | some serving =>
      let (serving, host, deeds) := serving.receive port arrival host
      (some serving, host, deeds)
    | none => (none, host, [])
  ({ host, client, server }, before ++ after)

/-- Tell the server of something that may end it. -/
def order (w : World) (cause : Shutdown) : World :=
  match w.server with
  | some serving =>
    let (serving, host) := serving.order cause w.host
    { w with host, server := some serving }
  | none => w

/-- What comes of an event. -/
def step (w : World) : Event → World × List Deed
  | .arrival port arrival => w.deliver port arrival
  | .stop => (w.order .order, [])
  | .interrupt => (w.order .interrupt, [])
  | .deaf => ({ w with server := w.server.map Serving.deafen }, [])

/-- The datagrams sent among some deeds. -/
def sent (deeds : List Deed) : List Datagram :=
  deeds.filterMap fun
    | .sent d _ => some d
    | _ => none

/-- The packets shown to watchers among some deeds. -/
def observed (deeds : List Deed) : List Packet :=
  deeds.filterMap fun
    | .observed p => some p
    | _ => none

end World

end TrivialFtp
