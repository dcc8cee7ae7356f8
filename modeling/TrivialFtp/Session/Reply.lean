import TrivialFtp.Session.Block

/-!
# First replies

What a client makes of the first answer to its request.  The answer tells which port the server
uses from now on, and whether it grants options: a server that answers with a block or with the
acknowledgement of block 0 grants none.
-/

namespace TrivialFtp.Act

/-- A packet of a kind that the phase does not allow. -/
def unexpected {α : Type} (packet : Packet) (phase : Phase) : Act α :=
  fail (.violation (.unexpected packet.opcode phase))

/-- Adopt the options that a server grants. -/
def adopt (granted : Options) : Act Unit := do
  match Terms.agree (← session).requested granted with
  | .ok terms => update fun s => { s with terms }
  | .error d => fail (.negotiation d)

/-- The answer to a read request. -/
def replyToRead (packet : Packet) (source : Endpoint) : Act Phase := do
  update fun s => s.pin source.port
  match packet with
  | .optionAck granted =>
    adopt granted
    sendAck 0
    update fun s => s.setNextBlock 1
    return .awaitingData
  | .data block payload =>
    update fun s => { s with terms := {} }
    update fun s => s.setNextBlock 1
    receiveData block payload
  | .ack _ => fail (.violation .ackWhileReading)
  | other => unexpected other .requested

/-- The answer to a write request.  The acknowledgement of a block that was never sent is passed
over. -/
def replyToWrite (packet : Packet) (source : Endpoint) : Act Phase := do
  update fun s => s.pin source.port
  match packet with
  | .optionAck granted =>
    adopt granted
    sendFirst
  | .ack block =>
    if block = 0 then
      update fun s => { s with terms := {} }
      sendFirst
    else return .requested
  | other => unexpected other .requested

end TrivialFtp.Act
