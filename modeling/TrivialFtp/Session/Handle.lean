import TrivialFtp.Session.Reply
import TrivialFtp.Session.Request

/-!
# Handling packets

What a session makes of a packet in each of its phases.

| phase | packet | next phase |
|---|---|---|
| any | ERROR | failure, with the peer's words |
| idle | RRQ | offering, or awaiting an acknowledgement |
| idle | WRQ | awaiting data |
| requested, download | OACK, DATA | awaiting data, or done |
| requested, upload | OACK, ACK 0 | awaiting an acknowledgement |
| awaiting data | DATA | awaiting data, or done |
| awaiting an acknowledgement | ACK | awaiting an acknowledgement, or done |
| offering | ACK 0 | awaiting an acknowledgement |

Anything else is a violation.
-/

namespace TrivialFtp.Act

/-- The packet that opens a server's session. -/
def takeUp (packet : Packet) (source : Endpoint) : Act Phase :=
  match packet with
  | .request .read filename mode options => serveRead filename mode options source
  | .request .write filename mode options => serveWrite filename mode options source
  | other => fail (.violation (.noRequest other.opcode))

/-- Handle a packet, and tell the phase that follows. -/
def handle (packet : Packet) (source : Endpoint) : Act Phase := do
  let s ← session
  match packet with
  | .error code message => fail (.reported code message)
  | _ =>
    match s.phase with
    | .idle => takeUp packet source
    | .requested =>
      match s.role with
      | .download => replyToRead packet source
      | .upload => replyToWrite packet source
      | .serve _ => unexpected packet s.phase
    | .awaitingData =>
      match packet with
      | .data block payload => receiveData block payload
      | other => unexpected other s.phase
    | .awaitingAck | .offering =>
      match packet with
      | .ack block => receiveAck block
      | other => unexpected other s.phase
    | .done | .failed _ => unexpected packet s.phase

/-- Show a packet to whoever watches the session, handle it, and enter the phase that follows. -/
def dispatch (packet : Packet) (source : Endpoint) : Act Unit := do
  if (← session).watched then record (.observed packet)
  let phase ← handle packet source
  update fun s => { s with phase, retries := 0 }

end TrivialFtp.Act
