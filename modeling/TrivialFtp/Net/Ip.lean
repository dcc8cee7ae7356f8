import TrivialFtp.Bytes
import TrivialFtp.Text.Numeral

/-!
# Host addresses

IPv4 and IPv6 addresses and their texts.  An IPv4 address is four decimal octets without leading
zeros.  An IPv6 address is eight groups of up to four hexadecimal digits, of which one run of
zero groups may be written `::` and the last two may be written as an IPv4 address.
-/

namespace TrivialFtp

/-- The address of a host. -/
inductive Ip where
  | v4 (a b c d : UInt8)
  | v6 (groups : Vector UInt16 8)
  deriving DecidableEq, Repr

namespace Ip

/-! ### Reading

Each reader takes what it can from the front of a text and returns the rest. -/

/-- The value of a digit in a base of at most sixteen. -/
def digit? (base : Nat) (c : Char) : Option Nat :=
  let value :=
    if c.isDigit then c.toNat - '0'.toNat
    else if 'a' ≤ c ∧ c ≤ 'f' then c.toNat - 'a'.toNat + 10
    else if 'A' ≤ c ∧ c ≤ 'F' then c.toNat - 'A'.toNat + 10
    else base
  if value < base then some value else none

/-- A number below `bound` written with at least one and at most `longest` digits; a leading zero
before another digit needs `zeros`. -/
def number? (base bound longest : Nat) (zeros : Bool) (cs : List Char) :
    Option (Nat × List Char) :=
  let digits := cs.takeWhile fun c => (digit? base c).isSome
  let value := (digits.filterMap (digit? base)).foldl (fun n d => base * n + d) 0
  if digits.isEmpty ∨ longest < digits.length ∨ bound ≤ value then none
  else if !zeros ∧ 1 < digits.length ∧ digits.head? = some '0' then none
  else some (value, cs.drop digits.length)

/-- The rest of a text that starts with a given character. -/
def after? (c : Char) : List Char → Option (List Char)
  | d :: rest => if d = c then some rest else none
  | [] => none

/-- One octet of an IPv4 address. -/
def octet? (cs : List Char) : Option (UInt8 × List Char) :=
  (number? 10 256 3 false cs).map fun r => (.ofNat r.1, r.2)

/-- The four octets of an IPv4 address. -/
def octets? (cs : List Char) : Option ((UInt8 × UInt8 × UInt8 × UInt8) × List Char) := do
  let (a, cs) ← octet? cs
  let (b, cs) ← octet? (← after? '.' cs)
  let (c, cs) ← octet? (← after? '.' cs)
  let (d, cs) ← octet? (← after? '.' cs)
  return ((a, b, c, d), cs)

/-- Up to `room` groups of an IPv6 address separated by colons, and whether the last two came
from an IPv4 address; `first` tells that no colon stands before the next group. -/
def groups : (room : Nat) → (first : Bool) → List Char → List UInt16 × Bool × List Char
  | 0, _, cs => ([], false, cs)
  | room + 1, first, cs =>
    let next := if first then some cs else after? ':' cs
    match if room = 0 then none else next.bind octets? with
    | some ((a, b, c, d), rest) => ([Word.ofBytes a b, Word.ofBytes c d], true, rest)
    | none =>
      match next.bind (number? 16 Numeral.word16 4 true) with
      | none => ([], false, cs)
      | some (g, rest) =>
        let (gs, embedded, rest) := groups room false rest
        (.ofNat g :: gs, embedded, rest)

/-- An IPv6 address. -/
def groups? (cs : List Char) : Option (Vector UInt16 8 × List Char) :=
  match groups 8 true cs with
  | (front, embedded, rest) =>
    if front.length = 8 then some (.ofFn fun i => front.getD i 0, rest)
    else if embedded then none
    else match rest with
      | ':' :: ':' :: rest =>
        let (back, _, rest) := groups (7 - front.length) true rest
        let all := front ++ List.replicate (8 - front.length - back.length) 0 ++ back
        some (.ofFn fun i => all.getD i 0, rest)
      | _ => none

/-- An address of either kind. -/
def take? (cs : List Char) : Option (Ip × List Char) :=
  match octets? cs with
  | some ((a, b, c, d), rest) => some (.v4 a b c d, rest)
  | none => (groups? cs).map fun r => (.v6 r.1, r.2)

/-- The address that a whole text stands for. -/
def read? (s : String) : Option Ip :=
  match take? s.toList with
  | some (ip, []) => some ip
  | _ => none

/-! ### Writing -/

/-- Octets as text. -/
def octetsText (a b c d : UInt8) : String :=
  ".".intercalate ([a, b, c, d].map fun x => Numeral.write x.toNat)

/-- Groups as text. -/
def groupsText (gs : List UInt16) : String :=
  ":".intercalate (gs.map fun g => .ofList (Nat.toDigits 16 g.toNat))

/-- How many groups are zero before the first that is not. -/
def zerosAhead (gs : List UInt16) : Nat := (gs.takeWhile (· = 0)).length

/-- Where the longest run of zero groups starts and how long it is, the first one of several. -/
def longestZeros (gs : List UInt16) : Nat × Nat :=
  (List.range gs.length).foldl
    (fun best i => if best.2 < zerosAhead (gs.drop i) then (i, zerosAhead (gs.drop i)) else best)
    (0, 0)

/-- An address as text.  The longest run of at least two zero groups is left out, and an IPv4
address embedded below `ffff` is written as such. -/
def text : Ip → String
  | v4 a b c d => octetsText a b c d
  | v6 groups =>
    match groups.toList with
    | [0, 0, 0, 0, 0, 0xFFFF, x, y] =>
      "::ffff:" ++ octetsText (Word.high x) (Word.low x) (Word.high y) (Word.low y)
    | gs =>
      let (start, length) := longestZeros gs
      if length < 2 then groupsText gs
      else groupsText (gs.take start) ++ "::" ++ groupsText (gs.drop (start + length))

/-- The address that stands for every local one, in the family of a given address. -/
def unspecified : Ip → Ip
  | v4 .. => .v4 0 0 0 0
  | v6 _ => .v6 (.replicate 8 0)

end Ip

end TrivialFtp
