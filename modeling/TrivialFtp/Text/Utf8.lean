import TrivialFtp.Bytes

/-!
# UTF-8

Texts as bytes.  Fields of a request must be well formed; the message of an ERROR packet is read
as far as it makes sense, each maximal ill-formed part becoming one U+FFFD.

- `decode?_encode`, `encode_of_decode?`: `decode?` reads exactly what `encode` writes.
-/

namespace TrivialFtp.Utf8

/-- The UTF-8 form of a text. -/
def encode (s : String) : Bytes := s.toByteArray.data.toList

/-- The text whose UTF-8 form the bytes are, if there is one. -/
def decode? (bytes : Bytes) : Option String := String.fromUTF8? ⟨bytes.toArray⟩

theorem decode?_encode (s : String) : decode? (encode s) = some s := by
  have h : (⟨(encode s).toArray⟩ : ByteArray) = s.toByteArray := by simp [encode]
  rw [decode?, h]
  simp [String.fromUTF8?, s.isValidUTF8, String.fromUTF8]

theorem encode_of_decode? {bytes : Bytes} {s : String} (h : decode? bytes = some s) :
    encode s = bytes := by
  simp only [decode?, String.fromUTF8?] at h
  split at h
  · obtain rfl := Option.some.inj h
    simp [encode, String.fromUTF8]
  · exact nomatch h

/-- The replacement character U+FFFD. -/
def replacement : Char := Char.ofNat 0xFFFD

/-- A character of which some bytes have been read: how many are still owed, between which bounds
the next one must lie, and the bits read so far. -/
structure Partial where
  owed : Nat
  least : UInt8
  most : UInt8
  bits : Nat

/-- What the first byte of a character begins: a whole character, one with more bytes to come, or
nothing. -/
inductive Start where
  | whole (c : Char)
  | more (p : Partial)
  | ill

/-- The bounds on the second byte keep out the longer spellings of a character, the surrogates
and everything past U+10FFFF. -/
def start (b : UInt8) : Start :=
  if b < 0x80 then .whole (Char.ofNat b.toNat)
  else if b < 0xC2 then .ill
  else if b < 0xE0 then .more ⟨1, 0x80, 0xBF, b.toNat - 0xC0⟩
  else if b = 0xE0 then .more ⟨2, 0xA0, 0xBF, 0⟩
  else if b = 0xED then .more ⟨2, 0x80, 0x9F, 0xD⟩
  else if b < 0xF0 then .more ⟨2, 0x80, 0xBF, b.toNat - 0xE0⟩
  else if b = 0xF0 then .more ⟨3, 0x90, 0xBF, 0⟩
  else if b < 0xF4 then .more ⟨3, 0x80, 0xBF, b.toNat - 0xF0⟩
  else if b = 0xF4 then .more ⟨3, 0x80, 0x8F, 4⟩
  else .ill

/-- Begin a character with `b`: the characters that are settled and the one left unfinished. -/
def open? (b : UInt8) : List Char × Option Partial :=
  match start b with
  | .whole c => ([c], none)
  | .more p => ([], some p)
  | .ill => ([replacement], none)

/-- Read one byte.  A byte that cannot continue the unfinished character ends it as one
replacement and begins the next. -/
def feed : Option Partial → UInt8 → List Char × Option Partial
  | none, b => open? b
  | some p, b =>
    if p.least ≤ b ∧ b ≤ p.most then
      let bits := 64 * p.bits + (b.toNat - 0x80)
      if p.owed = 1 then ([Char.ofNat bits], none)
      else ([], some ⟨p.owed - 1, 0x80, 0xBF, bits⟩)
    else (replacement :: (open? b).1, (open? b).2)

/-- The characters of a byte sequence read after an unfinished character. -/
def scan : Option Partial → Bytes → List Char
  | none, [] => []
  | some _, [] => [replacement]
  | p, b :: rest => (feed p b).1 ++ scan (feed p b).2 rest

/-- The text of a byte sequence that may be ill formed. -/
def repair (bytes : Bytes) : String := (decode? bytes).getD (.ofList (scan none bytes))

theorem repair_encode (s : String) : repair (encode s) = s := by
  simp [repair, decode?_encode]

end TrivialFtp.Utf8
