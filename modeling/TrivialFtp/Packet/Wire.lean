import TrivialFtp.Packet.Basic
import TrivialFtp.Packet.Field

/-!
# Packets on the wire

`encode` writes a packet as a datagram and `decode` reads one.  Reading sets a mode's letters in
lower case, gives a repeated option its last value, and leaves whatever follows an
acknowledgement's block number or the end of an error's message unread.
-/

namespace TrivialFtp

namespace Options

/-- The options as successive fields, name before value. -/
def encode (options : Options) : Bytes :=
  options.entries.flatMap fun e => Field.encode e.1 ++ Field.encode e.2

/-- Pair up fields. -/
def pairs : List String → List (String × String)
  | name :: value :: rest => (name, value) :: pairs rest
  | _ => []

/-- The options that fields stand for. -/
def ofFields (fields : List String) : Except Malformed Options :=
  if fields.length % 2 = 0 then .ok (ofList (pairs fields))
  else .error (.oddOptionFields fields.length)

end Options

namespace Packet

/-- A packet as a datagram. -/
def encode (p : Packet) : Bytes :=
  Word.toBytes p.opcode.code ++
    match p with
    | request _ filename mode options =>
      Field.encode filename ++ Field.encode mode ++ options.encode
    | data block payload => Word.toBytes block ++ payload
    | ack block => Word.toBytes block
    | error code message => Word.toBytes code ++ Field.encode message
    | optionAck options => options.encode

/-- The request that fields stand for. -/
def requestOfFields (direction : Direction) : List String → Except Malformed Packet
  | [] => .error (.missingField .filename)
  | [_] => .error (.missingField .mode)
  | filename :: mode :: rest => do
    return .request direction filename (Letters.fold mode) (← Options.ofFields rest)

/-- Read the word after the opcode and hand it on with what follows. -/
def withWord (kind : Opcode) (body : Bytes) (k : UInt16 → Bytes → Packet) :
    Except Malformed Packet :=
  match body with
  | high :: low :: rest => .ok (k (Word.ofBytes high low) rest)
  | _ => .error (.tooShort (some kind) (body.length + 2))

/-- The message of an error: everything before the first zero byte, or everything. -/
def messageOf (bytes : Bytes) : String := Utf8.repair (bytes.takeWhile (· ≠ 0))

/-- The packet that a datagram stands for. -/
def decode : Bytes → Except Malformed Packet
  | high :: low :: body =>
    let word := Word.ofBytes high low
    match Opcode.ofCode? word with
    | none => .error (.unknownOpcode word)
    | some .readRequest => do requestOfFields .read (← Field.split body)
    | some .writeRequest => do requestOfFields .write (← Field.split body)
    | some .data => withWord .data body data
    | some .ack => withWord .ack body fun block _ => .ack block
    | some .error => withWord .error body fun code rest => .error code (messageOf rest)
    | some .optionAck => do return .optionAck (← Options.ofFields (← Field.split body))
  | short => .error (.tooShort none short.length)

end Packet

end TrivialFtp
