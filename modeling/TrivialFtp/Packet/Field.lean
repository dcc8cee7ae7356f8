import TrivialFtp.Packet.Malformed
import TrivialFtp.Text.Utf8

/-!
# Fields

The text fields of requests and option acknowledgements: UTF-8 followed by a zero byte.

- `split_join`: texts without a NUL are read back from their fields.
-/

namespace TrivialFtp.Field

/-- A text as a field. -/
def encode (s : String) : Bytes := Utf8.encode s ++ [0]

/-- Texts as successive fields. -/
def join (texts : List String) : Bytes := texts.flatMap encode

/-- The texts of the successive fields of a byte sequence; `begun` holds the bytes of the first
one that are already read, the last of them first.  The leftmost fault is the one reported. -/
def splitFrom (begun : Bytes) : Bytes → Except Malformed (List String)
  | [] => if begun.isEmpty then .ok [] else .error .unterminated
  | b :: rest =>
    if b = 0 then
      match Utf8.decode? begun.reverse with
      | none => .error .illFormedText
      | some s => (splitFrom [] rest).map (s :: ·)
    else splitFrom (b :: begun) rest

/-- The texts of the successive fields of a byte sequence. -/
def split (bytes : Bytes) : Except Malformed (List String) := splitFrom [] bytes

/-- The place of the first zero byte at or after `start`.  There is no answer at all for a start
beyond the end. -/
def nextZero? (bytes : Bytes) (start : Nat) : Option (Option Nat) :=
  if start ≤ bytes.length then
    some (((bytes.drop start).findIdx? (· = 0)).map (start + ·))
  else none

theorem splitFrom_append {bytes : Bytes} (h : ∀ b ∈ bytes, b ≠ 0) (begun rest : Bytes) :
    splitFrom begun (bytes ++ rest) = splitFrom (bytes.reverse ++ begun) rest := by
  induction bytes generalizing begun with
  | nil => rfl
  | cons b bytes ih =>
    have hb : b ≠ 0 := h b List.mem_cons_self
    simp [splitFrom, hb, ih fun x hx => h x (List.mem_cons_of_mem _ hx)]

theorem split_encode_append {s : String} (h : ∀ b ∈ Utf8.encode s, b ≠ 0) (rest : Bytes) :
    split (encode s ++ rest) = (split rest).map (s :: ·) := by
  simp [split, encode, List.append_assoc, splitFrom_append h, splitFrom, Utf8.decode?_encode]

theorem split_join {texts : List String} (h : ∀ s ∈ texts, ∀ b ∈ Utf8.encode s, b ≠ 0) :
    split (join texts) = .ok texts := by
  induction texts with
  | nil => rfl
  | cons s texts ih =>
    have hs := split_encode_append (h s List.mem_cons_self) (join texts)
    rw [ih fun t ht => h t (List.mem_cons_of_mem _ ht)] at hs
    exact hs

end TrivialFtp.Field
