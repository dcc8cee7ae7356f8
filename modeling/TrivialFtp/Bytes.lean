/-!
# Bytes

Byte sequences, and the two-byte big-endian words that stand in packet headers.

- `Word.ofBytes_high_low`, `Word.high_ofBytes`, `Word.low_ofBytes`: a word and its two bytes
  determine each other.
-/

namespace TrivialFtp

/-- A sequence of bytes: a datagram, a field of one, or the content of a file. -/
abbrev Bytes := List UInt8

namespace Word

/-- The word whose big-endian bytes are `high` and `low`. -/
def ofBytes (high low : UInt8) : UInt16 := .ofNat (256 * high.toNat + low.toNat)

/-- The more significant byte of a word. -/
def high (w : UInt16) : UInt8 := .ofNat (w.toNat / 256)

/-- The less significant byte of a word. -/
def low (w : UInt16) : UInt8 := .ofNat (w.toNat % 256)

/-- The two bytes of a word, the more significant one first. -/
def toBytes (w : UInt16) : Bytes := [high w, low w]

theorem toNat_ofBytes (h l : UInt8) : (ofBytes h l).toNat = 256 * h.toNat + l.toNat := by
  have := h.toNat_lt
  have := l.toNat_lt
  simp only [ofBytes, UInt16.toNat_ofNat']
  omega

theorem ofBytes_high_low (w : UInt16) : ofBytes (high w) (low w) = w := by
  have hw := w.toNat_lt
  apply UInt16.toNat_inj.1
  simp only [toNat_ofBytes, high, low, UInt8.toNat_ofNat']
  omega

theorem high_ofBytes (h l : UInt8) : high (ofBytes h l) = h := by
  have := h.toNat_lt
  have := l.toNat_lt
  apply UInt8.toNat_inj.1
  simp only [high, toNat_ofBytes, UInt8.toNat_ofNat']
  omega

theorem low_ofBytes (h l : UInt8) : low (ofBytes h l) = l := by
  have := h.toNat_lt
  have := l.toNat_lt
  apply UInt8.toNat_inj.1
  simp only [low, toNat_ofBytes, UInt8.toNat_ofNat']
  omega

end Word

end TrivialFtp
