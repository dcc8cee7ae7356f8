import TrivialFtp.Text.Letters

/-!
# Transfer modes

The modes a request may name.  Only octet transfers are carried out; `netascii` is a mode like
any other that is recognised and refused.
-/

namespace TrivialFtp

/-- The transfer modes with a name of their own. -/
inductive Mode where
  | octet
  | netascii
  deriving DecidableEq, Repr

namespace Mode

/-- The lower-case name of a mode. -/
def name : Mode → String
  | octet => "octet"
  | netascii => "netascii"

/-- The mode that a text names, in letters of either case. -/
def ofText? (s : String) : Option Mode :=
  if Letters.fold s = "octet" then some octet
  else if Letters.fold s = "netascii" then some netascii
  else none

/-- Whether transfers in a mode are carried out. -/
def isSupported : Mode → Bool
  | octet => true
  | netascii => false

/-- What is said of a text that names no mode. -/
def refusal (s : String) : String := "Unsupported transfer mode: " ++ s

end Mode

end TrivialFtp
