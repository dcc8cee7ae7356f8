/-!
# Faults

What goes wrong outside the protocol: in a file, at a port, or in a name.
-/

namespace TrivialFtp

/-- The kinds of faults that are told apart.  Most have no consequence of their own and differ
only in name. -/
inductive FaultKind where
  | permissionDenied
  | storageFull
  | alreadyExists
  | notFound
  | other
  deriving DecidableEq, Repr

/-- A fault with its description. -/
structure Fault where
  kind : FaultKind
  text : String
  deriving DecidableEq, Repr

namespace Fault

/-- There is no file of that name. -/
def noSuchFile : Fault := ⟨.notFound, "No such file or directory (os error 2)"⟩

/-- A directory cannot be written. -/
def isDirectory : Fault := ⟨.other, "Is a directory (os error 21)"⟩

/-- A part of a path is over 255 bytes long. -/
def nameTooLong : Fault := ⟨.other, "File name too long (os error 36)"⟩

/-- A path holds a zero byte. -/
def nulInName : Fault := ⟨.other, "file name contained an unexpected NUL byte"⟩

/-- Another program has the port. -/
def addressInUse : Fault := ⟨.other, "Address already in use (os error 98)"⟩

/-- A text is not an endpoint. -/
def invalidAddress : Fault := ⟨.other, "invalid socket address"⟩

/-- A datagram has more than 65507 bytes. -/
def messageTooLong : Fault := ⟨.other, "Message too long (os error 90)"⟩

/-- A host name is unknown. -/
def unknownName : Fault :=
  ⟨.other, "failed to lookup address information: Name or service not known"⟩

/-- A host name is known but has no address. -/
def noAddress (host : String) : Fault := ⟨.notFound, "no address for host " ++ host⟩

/-- A stream that is closed or being read was to be written. -/
def notWriting : Fault := ⟨.other, "transfer stream is not open for writing"⟩

/-- A stream that is closed or being written was to be read. -/
def notReading : Fault := ⟨.other, "transfer stream is not open for reading"⟩

end Fault

end TrivialFtp
