import TrivialFtp.Session.Act

/-!
# Blocks

The exchange of numbered blocks and their acknowledgements.  A block or acknowledgement of a
number already passed is a duplicate; one of a number still to come is a violation.
-/

namespace TrivialFtp.Act

/-- Receive a block: the one that is next is written before it is acknowledged, and a short one
is the last. -/
def receiveData (block : UInt16) (payload : Bytes) : Act Phase := do
  let next := (← session).nextBlock
  if block = next then
    writeBlock payload
    count fun t => { t with bytes := t.bytes + payload.length }
    sendAck block
    update Session.advance
    return if payload.length < (← session).blockSize then .done else .awaitingData
  else if block < next then
    if block = 0 then fail (.violation .blockZero)
    noteDuplicate block
    sendOnce (.ack block)
    return .awaitingData
  else fail (.violation (.futureBlock block next))

/-- Send the next block and wait for its acknowledgement. -/
def sendBlock : Act Phase := do
  let final ← sendData
  update fun s => { s with finalSent := final }
  return .awaitingAck

/-- Receive an acknowledgement: that of the last block ends the transfer, that of another asks
for the block after it. -/
def receiveAck (block : UInt16) : Act Phase := do
  let s ← session
  if block = s.nextBlock then
    if s.finalSent then return .done
    update Session.advance
    sendBlock
  else if block < s.nextBlock then
    noteDuplicate block
    return .awaitingAck
  else fail (.violation (.unsentBlock block s.nextBlock))

/-- Send block 1. -/
def sendFirst : Act Phase := do
  update fun s => s.setNextBlock 1
  sendBlock

end TrivialFtp.Act
