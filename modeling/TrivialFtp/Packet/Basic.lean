import TrivialFtp.Options.Basic
import TrivialFtp.Packet.ErrorCode
import TrivialFtp.Packet.Mode
import TrivialFtp.Packet.Opcode

/-!
# Packets

What the two sides of a transfer say to each other, apart from how it is written.
-/

namespace TrivialFtp

/-- Which way a request moves a file: towards the one who asks, or away. -/
inductive Direction where
  | read
  | write
  deriving DecidableEq, Repr

/-- A packet.  Requests and errors may hold any text, and an error any code. -/
inductive Packet where
  | request (direction : Direction) (filename mode : String) (options : Options)
  | data (block : UInt16) (payload : Bytes)
  | ack (block : UInt16)
  | error (code : UInt16) (message : String)
  | optionAck (options : Options)
  deriving DecidableEq, Repr

namespace Packet

/-- The request for an octet transfer. -/
def octetRequest (direction : Direction) (filename : String) (options : Options) : Packet :=
  .request direction filename Mode.octet.name options

/-- The report of a standard error with a message. -/
def report (code : ErrorCode) (message : String := code.message) : Packet :=
  .error code.code message

/-- The kind of a packet. -/
def opcode : Packet → Opcode
  | request .read .. => .readRequest
  | request .write .. => .writeRequest
  | data .. => .data
  | ack _ => .ack
  | error .. => .error
  | optionAck _ => .optionAck

/-- The block a packet is about: the one it carries or acknowledges, and block 0 for packets that
name none. -/
def block : Packet → UInt16
  | data block _ => block
  | ack block => block
  | _ => 0

/-- A packet in one line, without its payload. -/
def text : Packet → String
  | p@(request _ filename mode options) =>
    p.opcode.name ++ " '" ++ filename ++ "' mode " ++ mode ++
      if options.isEmpty then "" else " [" ++ options.text ++ "]"
  | data block payload =>
    "DATA block " ++ Numeral.write block.toNat ++ " (" ++ Numeral.write payload.length ++ " bytes)"
  | ack block => "ACK block " ++ Numeral.write block.toNat
  | error code message => "ERROR " ++ Numeral.write code.toNat ++ ": " ++ message
  | optionAck options => "OACK [" ++ options.text ++ "]"

end Packet

end TrivialFtp
