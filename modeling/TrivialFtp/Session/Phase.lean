/-!
# Phases

How far a transfer has come.
-/

namespace TrivialFtp

/-- What a session is waiting for, or how it ended. -/
inductive Phase where
  /-- A server's session before the request that opens it. -/
  | idle
  /-- A client's session before the first answer to its request. -/
  | requested
  /-- A sender, before the acknowledgement of the block it sent. -/
  | awaitingAck
  /-- A receiver, before the next block. -/
  | awaitingData
  /-- A server that granted options to a reader, before the acknowledgement of block 0. -/
  | offering
  | done
  | failed (reason : String)
  deriving DecidableEq, Repr

namespace Phase

/-- The name of a phase. -/
def text : Phase → String
  | idle => "Idle"
  | requested => "SentRequest"
  | awaitingAck => "ExpectAck"
  | awaitingData => "ExpectData"
  | offering => "ServerNegotiating"
  | done => "Done"
  | failed reason => "Failed(" ++ reason ++ ")"

/-- The phase of a given name; a name of no phase is the reason of a failure. -/
def ofText : String → Phase
  | "Idle" => idle
  | "SentRequest" => requested
  | "ExpectAck" => awaitingAck
  | "ExpectData" => awaitingData
  | "ServerNegotiating" => offering
  | "Done" => done
  | reason => failed reason

/-- Whether nothing follows a phase. -/
def isTerminal : Phase → Bool
  | done | failed _ => true
  | _ => false

end Phase

end TrivialFtp
