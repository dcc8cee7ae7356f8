import TrivialFtp.Packet.Opcode
import TrivialFtp.Text.Numeral

/-!
# Malformed datagrams

The ways in which a datagram fails to be a packet, and how each is put into words.
-/

namespace TrivialFtp

/-- The two fields without which there is no request. -/
inductive RequestField where
  | filename
  | mode
  deriving DecidableEq, Repr

/-- The name of a request's field. -/
def RequestField.name : RequestField → String
  | filename => "filename"
  | mode => "mode"

/-- Why a datagram is not a packet. -/
inductive Malformed where
  /-- The header is cut off, of a packet of a known kind or of one whose kind is cut off too. -/
  | tooShort (kind : Option Opcode) (length : Nat)
  /-- The first word is no opcode. -/
  | unknownOpcode (value : UInt16)
  /-- A request ends before a field it cannot do without. -/
  | missingField (field : RequestField)
  /-- The last field has no zero byte after it. -/
  | unterminated
  /-- A field is not well-formed UTF-8. -/
  | illFormedText
  /-- An option name has no value. -/
  | oddOptionFields (count : Nat)
  deriving DecidableEq, Repr

/-- The fault in words. -/
def Malformed.message : Malformed → String
  | tooShort kind length =>
    (kind.map Opcode.name).getD "packet" ++ " too short (" ++ Numeral.write length ++ " bytes)"
  | unknownOpcode value => "unknown opcode " ++ Numeral.write value.toNat
  | missingField field => "request is missing its " ++ field.name
  | unterminated => "string field is not null-terminated"
  | illFormedText => "string field is not valid UTF-8"
  | oddOptionFields count =>
    "option section has an odd number of fields (" ++ Numeral.write count ++ ")"

end TrivialFtp
