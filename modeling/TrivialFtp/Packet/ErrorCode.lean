import TrivialFtp.Text.Numeral

/-!
# Error codes

The codes an ERROR packet may carry and the message that goes with each when no better one is
known.  An ERROR packet may hold any word; the codes here are the ones with a meaning.
-/

namespace TrivialFtp

/-- The standard error codes. -/
inductive ErrorCode where
  | notDefined
  | fileNotFound
  | accessViolation
  | diskFull
  | illegalOperation
  | unknownTransferId
  | fileAlreadyExists
  | noSuchUser
  | optionNegotiationFailed
  deriving DecidableEq, Repr

namespace ErrorCode

/-- The number that stands for an error code on the wire. -/
def code : ErrorCode → UInt16
  | notDefined => 0
  | fileNotFound => 1
  | accessViolation => 2
  | diskFull => 3
  | illegalOperation => 4
  | unknownTransferId => 5
  | fileAlreadyExists => 6
  | noSuchUser => 7
  | optionNegotiationFailed => 8

/-- The standard error code with a given number. -/
def ofCode? : UInt16 → Option ErrorCode
  | 0 => some notDefined
  | 1 => some fileNotFound
  | 2 => some accessViolation
  | 3 => some diskFull
  | 4 => some illegalOperation
  | 5 => some unknownTransferId
  | 6 => some fileAlreadyExists
  | 7 => some noSuchUser
  | 8 => some optionNegotiationFailed
  | _ => none

/-- The message sent with an error code when there is nothing more to say. -/
def message : ErrorCode → String
  | notDefined => "Not defined, see error message (if any)"
  | fileNotFound => "File not found"
  | accessViolation => "Access violation"
  | diskFull => "Disk full or allocation exceeded"
  | illegalOperation => "Illegal TFTP operation"
  | unknownTransferId => "Unknown transfer ID"
  | fileAlreadyExists => "File already exists"
  | noSuchUser => "No such user"
  | optionNegotiationFailed => "Failed to negotiate options"

/-- The message of an error code with its number. -/
def text (e : ErrorCode) : String := e.message ++ " (" ++ Numeral.write e.code.toNat ++ ")"

theorem ofCode?_code (e : ErrorCode) : ofCode? e.code = some e := by cases e <;> rfl

end ErrorCode

end TrivialFtp
