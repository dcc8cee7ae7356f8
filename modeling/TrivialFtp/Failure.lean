import TrivialFtp.Fault
import TrivialFtp.Packet.Basic
import TrivialFtp.Packet.Malformed
import TrivialFtp.Session.Phase

/-!
# Failures

Why a transfer fails, how that is put into words, and what the peer is told about it.

- `notice_eq_none_iff`: the peer is told of every failure but a malformed packet, its own report,
  too many duplicates and its silence.
-/

namespace TrivialFtp

/-- What a peer did that the protocol does not allow. -/
inductive Violation where
  | unexpected (kind : Opcode) (phase : Phase)
  | ackWhileReading
  | blockZero
  | futureBlock (block next : UInt16)
  | unsentBlock (block next : UInt16)
  | noRequest (kind : Opcode)
  | modeRefused (mode : String)
  | nameRefused (name : String)
  | notServing
  /-- A violation of which only the description is known. -/
  | described (text : String)
  deriving DecidableEq, Repr

/-- A violation in words. -/
def Violation.message : Violation → String
  | unexpected kind phase => "Received " ++ kind.name ++ " while in state " ++ phase.text
  | ackWhileReading => "Received ACK from peer while in download"
  | blockZero => "There is no block zero!"
  | futureBlock block next =>
    "Received future block " ++ Numeral.write block.toNat ++ " while expecting "
      ++ Numeral.write next.toNat
  | unsentBlock block next =>
    "Received ACK for block " ++ Numeral.write block.toNat ++ " we have not sent yet (at "
      ++ Numeral.write next.toNat ++ ")"
  | noRequest kind => "Expected RRQ or WRQ to start a transfer, got " ++ kind.name
  | modeRefused mode => "Only octet transfers are supported, got '" ++ mode ++ "'"
  | nameRefused name => "Illegal filename '" ++ name ++ "'"
  | notServing => "Session is not serving files"
  | described text => text

/-- Why a client does not accept the options it is granted. -/
inductive Disagreement where
  | nothingGranted
  | unrequested (name : String)
  | blockSizeOutOfRange (value : String)
  | transferSizeInvalid (value : String)
  | unsupported (name : String)
  /-- A disagreement of which only the description is known. -/
  | described (text : String)
  deriving DecidableEq, Repr

/-- A disagreement in words. -/
def Disagreement.message : Disagreement → String
  | nothingGranted => "No options found in OACK"
  | unrequested name => "Peer returned option '" ++ name ++ "' that was not requested"
  | blockSizeOutOfRange value => "blksize " ++ value ++ " is out of range"
  | transferSizeInvalid value => "Invalid tsize '" ++ value ++ "'"
  | unsupported name => "Unsupported option '" ++ name ++ "'"
  | described text => text

/-- What ends a transfer before its time. -/
inductive Failure where
  /-- The peer sent something that is no packet. -/
  | malformed (cause : Malformed)
  | violation (cause : Violation)
  | negotiation (cause : Disagreement)
  /-- The peer gave up and said why. -/
  | reported (code : UInt16) (message : String)
  | fileNotFound (name : String)
  | tooManyDuplicates (block : UInt16)
  | timedOut (retries : Nat)
  | io (fault : Fault)
  deriving DecidableEq, Repr

namespace Failure

/-- A failure in words. -/
def message : Failure → String
  | malformed cause => "malformed packet: " ++ cause.message
  | violation cause => "protocol violation: " ++ cause.message
  | negotiation cause => "option negotiation failed: " ++ cause.message
  | reported code message =>
    "peer reported error " ++ Numeral.write code.toNat ++ ": " ++ message
  | fileNotFound name => "file not found: " ++ name
  | tooManyDuplicates block => "too many duplicates for block " ++ Numeral.write block.toNat
  | timedOut retries => "timed out after " ++ Numeral.write retries ++ " retries"
  | io fault => "I/O error: " ++ fault.text

/-- The failure in words, followed by what caused it if that has a description of its own. -/
def causes (f : Failure) : List String :=
  f.message :: match f with
    | malformed cause => [cause.message]
    | io fault => [fault.text]
    | _ => []

/-- The error code that a fault amounts to. -/
def codeOf : FaultKind → ErrorCode
  | .permissionDenied => .accessViolation
  | .storageFull => .diskFull
  | .alreadyExists => .fileAlreadyExists
  | _ => .notDefined

/-- The code and message sent to the peer before giving up.  A fault with a code of its own is
reported by the message of that code, any other by its description. -/
def notice : Failure → Option (ErrorCode × String)
  | violation cause => some (.illegalOperation, cause.message)
  | negotiation cause => some (.optionNegotiationFailed, cause.message)
  | fileNotFound _ => some (.fileNotFound, ErrorCode.message .fileNotFound)
  | io fault =>
    match codeOf fault.kind with
    | .notDefined => some (.notDefined, fault.text)
    | code => some (code, code.message)
  | malformed _ | reported .. | tooManyDuplicates _ | timedOut _ => none

/-- Whether a transfer failed for lack of an answer. -/
def isTimeout : Failure → Bool
  | timedOut _ => true
  | _ => false

theorem notice_eq_none_iff (f : Failure) :
    f.notice = none ↔ (∃ m, f = malformed m) ∨ (∃ c m, f = reported c m) ∨
      (∃ b, f = tooManyDuplicates b) ∨ ∃ n, f = timedOut n := by
  cases f with
  | io fault => cases h : codeOf fault.kind <;> simp [notice, h]
  | _ => simp [notice]

end Failure

end TrivialFtp
