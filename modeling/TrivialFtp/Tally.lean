import TrivialFtp.Text.FixedPoint

/-!
# Tallies

What is counted during a transfer.  Each duplicate is noted with its block, and a block that has
been noted more than twenty times is too much.

- `count_note`: a note raises the count of its own block by one and no other.
-/

namespace TrivialFtp

/-- The counts of one transfer, and when it began and ended in nanoseconds. -/
structure Tally where
  /-- Payload bytes moved.  They are kept in a word of 64 bits, and to fill it takes 2^64 bytes,
  which at a gigabyte a second is more than five hundred years of one transfer: that it would come
  round then is left out. -/
  bytes : Nat := 0
  /-- Bytes sent again after a timeout.  Theirs is a word of 64 bits too, and is not filled either:
  after every timeout at most one datagram goes out again. -/
  resentBytes : Nat := 0
  /-- The block of every duplicate noted, the latest first. -/
  duplicates : List UInt16 := []
  /-- Datagrams from strangers, and from anyone before the peer is known, that were dropped.  The
  word of 64 bits that they are counted in is not filled: each of them has to arrive on its own. -/
  discarded : Nat := 0
  started : Nat := 0
  finished : Option Nat := none
  deriving DecidableEq, Repr

namespace Tally

/-- How often a block may be noted. -/
def mostDuplicates : Nat := 20

/-- Note a duplicate. -/
def note (t : Tally) (block : UInt16) : Tally := { t with duplicates := block :: t.duplicates }

/-- How often a block has been noted. -/
def count (t : Tally) (block : UInt16) : Nat := t.duplicates.count block

/-- Whether a block has been noted too often. -/
def exceeds (t : Tally) (block : UInt16) : Bool := mostDuplicates < t.count block

/-- How many duplicates have been noted. -/
def total (t : Tally) : Nat := t.duplicates.length

/-- The blocks noted, in ascending order, with their counts. -/
def counts (t : Tally) : List (UInt16 × Nat) :=
  (t.duplicates.eraseDups.mergeSort (· ≤ ·)).map fun block => (block, t.count block)

/-- Mark the end, unless it is marked already. -/
def finish (t : Tally) (now : Nat) : Tally := { t with finished := some (t.finished.getD now) }

/-- Whether the end is marked. -/
def isFinished (t : Tally) : Bool := t.finished.isSome

/-- A millisecond in nanoseconds: no transfer is taken to be shorter. -/
def shortest : Nat := 1000000

/-- How long the transfer took, or has taken so far. -/
def duration (t : Tally) (now : Nat) : Nat := max (t.finished.getD now - t.started) shortest

/-- The duration in seconds. -/
def seconds (t : Tally) (now : Nat) : Float :=
  (t.duration now / 1000000000).toFloat + (t.duration now % 1000000000).toFloat / 1000000000

/-- Payload bits moved per second. -/
def bitRate (t : Tally) (now : Nat) : Float := t.bytes.toFloat * 8 / t.seconds now

/-- Payload bits moved per second, in units of 1024. -/
def kilobitRate (t : Tally) (now : Nat) : Float := t.bitRate now / 1024

/-- A tally in one line. -/
def text (t : Tally) (now : Nat) : String :=
  Numeral.write t.bytes ++ " bytes in " ++ FixedPoint.write 3 (t.seconds now) ++ " seconds ("
    ++ FixedPoint.write 2 (t.kilobitRate now) ++ " kbps), " ++ Numeral.write t.resentBytes
    ++ " bytes resent, " ++ Numeral.write t.total ++ " duplicates"
    ++ if t.discarded = 0 then ""
      else ", " ++ Numeral.write t.discarded ++ " stray datagrams discarded"

theorem count_note (t : Tally) (block other : UInt16) :
    (t.note block).count other = t.count other + if block = other then 1 else 0 := by
  simp [count, note, List.count_cons, beq_iff_eq]

theorem total_note (t : Tally) (block : UInt16) : (t.note block).total = t.total + 1 := rfl

end Tally

end TrivialFtp
