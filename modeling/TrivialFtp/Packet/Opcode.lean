import TrivialFtp.Bytes

/-!
# Opcodes

The word at the head of every packet.

- `ofCode?_eq_some_iff`: an opcode and its code determine each other.
-/

namespace TrivialFtp

/-- The kinds of packets. -/
inductive Opcode where
  | readRequest
  | writeRequest
  | data
  | ack
  | error
  | optionAck
  deriving DecidableEq, Repr

namespace Opcode

/-- The number that stands for an opcode on the wire. -/
def code : Opcode → UInt16
  | readRequest => 1
  | writeRequest => 2
  | data => 3
  | ack => 4
  | error => 5
  | optionAck => 6

/-- The opcode with a given number. -/
def ofCode? : UInt16 → Option Opcode
  | 1 => some readRequest
  | 2 => some writeRequest
  | 3 => some data
  | 4 => some ack
  | 5 => some error
  | 6 => some optionAck
  | _ => none

/-- The usual abbreviation of an opcode. -/
def name : Opcode → String
  | readRequest => "RRQ"
  | writeRequest => "WRQ"
  | data => "DATA"
  | ack => "ACK"
  | error => "ERROR"
  | optionAck => "OACK"

theorem ofCode?_code (o : Opcode) : ofCode? o.code = some o := by cases o <;> rfl

theorem ofCode?_eq_some_iff {w : UInt16} {o : Opcode} : ofCode? w = some o ↔ w = o.code := by
  constructor
  · intro h
    unfold ofCode? at h
    split at h <;> cases h <;> rfl
  · rintro rfl
    exact ofCode?_code o

end Opcode

end TrivialFtp
