import TrivialFtp.Proofs.Parts

/-!
# Proofs: reading by places

A datagram may be read place by place: a field begins after the zero byte before it and ends at
the next one, which is looked for from there.  A place out of range has no answer.  Reading this
way gives what `decode` gives, and so never asks for a place out of range.

- `Field.splitAt?_eq_some`: the fields of a body, from any place in it on.
- `Packet.decodeAt?_eq_some`: a whole datagram.
-/

namespace TrivialFtp

namespace Field

/-- The bytes from one place up to another.  There is no answer for places out of range or out of
order. -/
def slice? (bytes : Bytes) (start stop : Nat) : Option Bytes :=
  if start ≤ stop ∧ stop ≤ bytes.length then some ((bytes.drop start).take (stop - start))
  else none

/-- What stands from a place to the end can be cut out. -/
theorem slice?_to_end {bytes : Bytes} {start : Nat} (h : start ≤ bytes.length) :
    slice? bytes start bytes.length = some (bytes.drop start) := by
  rw [slice?, if_pos ⟨h, Nat.le_refl _⟩, List.take_of_length_le (by simp)]

/-- Where there is no zero byte none is found. -/
theorem findIdx?_zero_of_clean {bytes : Bytes} (h : 0 ∉ bytes) :
    bytes.findIdx? (· = 0) = none := by
  rw [List.findIdx?_eq_none_iff]
  intro b hb
  exact decide_eq_false fun e => h (e ▸ hb)

/-- A field that nothing ends has no end. -/
theorem nextZero?_unclosed {bytes : Bytes} {start : Nat} (h : start ≤ bytes.length)
    (hclean : 0 ∉ bytes.drop start) : nextZero? bytes start = some none := by
  rw [nextZero?, if_pos h, findIdx?_zero_of_clean hclean, Option.map_none]

/-- A field ends at the first zero byte after it. -/
theorem nextZero?_field {bytes field rest : Bytes} {start : Nat} (h : start ≤ bytes.length)
    (hclean : 0 ∉ field) (hbytes : bytes.drop start = field ++ 0 :: rest) :
    nextZero? bytes start = some (some (start + field.length)) := by
  have hsome : (field ++ 0 :: rest).findIdx? (· = 0) = some field.length := by
    rw [List.findIdx?_append, findIdx?_zero_of_clean hclean]
    simp [List.findIdx?_cons]
  rw [nextZero?, if_pos h, hbytes, hsome, Option.map_some]

/-- It does not end before it begins. -/
theorem nextZero?_le {bytes : Bytes} {start stop : Nat}
    (h : nextZero? bytes start = some (some stop)) : start ≤ stop := by
  unfold nextZero? at h
  split at h
  · obtain ⟨n, -, rfl⟩ := Option.map_eq_some_iff.1 (Option.some.inj h)
    exact Nat.le_add_right start n
  · exact nomatch h

/-- The texts of the fields of a body from a place on.  Each zero byte is looked for from the
place after the one before; there is no answer if a place out of range is asked for. -/
def splitAt? (body : Bytes) (start : Nat) : Option (Except Malformed (List String)) :=
  if start < body.length then
    match _hzero : nextZero? body start with
    | none => none
    | some none => some (.error .unterminated)
    | some (some stop) => do
      let field ← slice? body start stop
      match read field with
      | .error m => some (.error m)
      | .ok s => (splitAt? body (stop + 1)).map fun texts => texts.map (s :: ·)
  else some (.ok [])
termination_by body.length - start
decreasing_by
  have := nextZero?_le _hzero
  omega

/-- A field can be cut out by its places. -/
theorem slice?_field {bytes field rest : Bytes} {start : Nat} (h : start ≤ bytes.length)
    (hbytes : bytes.drop start = field ++ rest) :
    slice? bytes start (start + field.length) = some field := by
  have hlength := congrArg List.length hbytes
  rw [List.length_drop, List.length_append] at hlength
  rw [slice?, if_pos (by omega), hbytes, Nat.add_sub_cancel_left, List.take_left]

/-- Reading place by place asks for no place out of range. -/
theorem splitAt?_eq_some (body : Bytes) (start : Nat) (h : start ≤ body.length) :
    splitAt? body start = some (split (body.drop start)) := by
  induction hn : body.length - start using Nat.strongRecOn generalizing start with
  | ind n ih =>
    rw [splitAt?]
    by_cases hlt : start < body.length
    · rw [if_pos hlt]
      obtain ⟨fields, left, hparts⟩ := exists_parted (body.drop start)
      cases fields with
      | nil =>
        obtain rfl : body.drop start = left := by simpa using hparts.eq
        rw [nextZero?_unclosed h hparts.unclosed,
          split_unclosed hparts.unclosed (by simpa using hlt)]
      | cons f fields =>
        have hf := (List.forall_mem_cons.1 hparts.clean).1
        have hdrop : body.drop start = f ++ 0 :: (fields.flatMap (· ++ [0]) ++ left) := by
          simpa using hparts.eq
        have hlength := congrArg List.length hdrop
        rw [List.length_drop, List.length_append, List.length_cons] at hlength
        have hrest : body.drop (start + f.length + 1) = fields.flatMap (· ++ [0]) ++ left := by
          rw [Nat.add_assoc, ← List.drop_drop, hdrop, List.drop_append]
          simp
        rw [nextZero?_field h hf hdrop, hdrop, split_field hf]
        simp only [slice?_field h hdrop, Option.bind_eq_bind, Option.bind_some]
        cases read f with
        | error m => rfl
        | ok s =>
          have hread := ih (body.length - (start + f.length + 1)) (by omega)
            (start + f.length + 1) (by omega) rfl
          rw [hrest] at hread
          simp only [hread]
          rfl
    · rw [if_neg hlt, List.drop_of_length_le (Nat.le_of_not_lt hlt)]
      rfl

end Field

namespace Packet

/-- The word at the third and fourth place, handed on. -/
def wordAt? (b : Bytes) (kind : Opcode) (k : UInt16 → Option Packet) :
    Option (Except Malformed Packet) :=
  if b.length < 4 then some (.error (.tooShort (some kind) b.length))
  else do return .ok (← k (Word.ofBytes (← b[2]?) (← b[3]?)))

/-- Reads the body of a packet of a kind, place by place. -/
def bodyAt? (b : Bytes) (kind : Opcode) : Option (Except Malformed Packet) := do
  let body ← Field.slice? b 2 b.length
  match kind with
  | .readRequest => return (← Field.splitAt? body 0) >>= requestOfFields .read
  | .writeRequest => return (← Field.splitAt? body 0) >>= requestOfFields .write
  | .optionAck => return optionAck <$> ((← Field.splitAt? body 0) >>= Options.ofFields)
  | .data => wordAt? b .data fun block => do return .data block (← Field.slice? b 4 b.length)
  | .ack => wordAt? b .ack fun block => return .ack block
  | .error => wordAt? b .error fun code => do
    let bytes ← Field.slice? b 4 b.length
    let stop := (bytes.findIdx? (· = 0)).getD bytes.length
    return .error code (Utf8.repair (← Field.slice? bytes 0 stop))

/-- Reads a datagram place by place.  There is no answer if a place out of range is asked for. -/
def decodeAt? (b : Bytes) : Option (Except Malformed Packet) :=
  if b.length < 2 then some (.error (.tooShort none b.length))
  else do
    let word := Word.ofBytes (← b[0]?) (← b[1]?)
    match Opcode.ofCode? word with
    | none => return .error (.unknownOpcode word)
    | some kind => bodyAt? b kind

/-- A message is cut out up to its zero byte, or up to the end. -/
theorem slice?_message (bytes : Bytes) :
    Field.slice? bytes 0 ((bytes.findIdx? (· = 0)).getD bytes.length) =
      some (bytes.takeWhile (· ≠ 0)) := by
  have hstop : (bytes.findIdx? (· = 0)).getD bytes.length = bytes.findIdx (· = 0) := by
    cases h : bytes.findIdx? (· = 0) with
    | none => exact (List.findIdx?_eq_none_iff_findIdx_eq.1 h).symm
    | some n => exact (List.findIdx?_eq_some_iff_findIdx_eq.1 h).2.symm
  rw [hstop, Field.slice?, if_pos ⟨Nat.zero_le _, List.findIdx_le_length⟩,
    List.takeWhile_eq_take_findIdx_not]
  simp

/-- The word is handed on with the bytes that follow it. -/
theorem wordAt?_append (kind : Opcode) (body : Bytes) {k : UInt16 → Option Packet}
    (k' : UInt16 → Bytes → Packet)
    (hk : ∀ word rest, body = Word.toBytes word ++ rest → k word = some (k' word rest)) :
    wordAt? (Word.toBytes kind.code ++ body) kind k = some (withWord kind body k') := by
  match body with
  | [] => rfl
  | [_] => rfl
  | high :: low :: rest =>
    have hread := hk (Word.ofBytes high low) rest (by
      rw [Word.toBytes, Word.high_ofBytes, Word.low_ofBytes]
      rfl)
    simp [wordAt?, Word.toBytes, withWord, hread]

/-- What follows two words begins at the fourth byte. -/
theorem slice?_after_word (kind : Opcode) (word : UInt16) (rest : Bytes) :
    Field.slice? (Word.toBytes kind.code ++ (Word.toBytes word ++ rest)) 4
      (Word.toBytes kind.code ++ (Word.toBytes word ++ rest)).length = some rest := by
  rw [Field.slice?_to_end (by simp [Word.toBytes])]
  rfl

/-- A body is read by its places as it is by its rule. -/
theorem bodyAt?_append (kind : Opcode) (body : Bytes) :
    bodyAt? (Word.toBytes kind.code ++ body) kind = some (ofBody kind body) := by
  have hbody : Field.slice? (Word.toBytes kind.code ++ body) 2
      (Word.toBytes kind.code ++ body).length = some body := by
    rw [Field.slice?_to_end (by simp [Word.toBytes])]
    rfl
  have hsplit : Field.splitAt? body 0 = some (Field.split body) :=
    Field.splitAt?_eq_some body 0 (Nat.zero_le _)
  unfold bodyAt?
  rw [hbody, Option.bind_eq_bind, Option.bind_some, hsplit]
  cases kind with
  | readRequest | writeRequest | optionAck => rfl
  | data =>
    refine wordAt?_append .data body data fun word rest h => ?_
    rw [h, slice?_after_word]
    rfl
  | ack => exact wordAt?_append .ack body (fun block _ => ack block) fun word rest h => rfl
  | error =>
    refine wordAt?_append .error body (fun code rest => error code (messageOf rest))
      fun word rest h => ?_
    rw [h, slice?_after_word, Option.bind_eq_bind, Option.bind_some]
    dsimp only
    rw [slice?_message]
    rfl

/-- A datagram can be read place by place. -/
theorem decodeAt?_eq_some (b : Bytes) : decodeAt? b = some (decode b) := by
  rcases kind_cases b with hshort | ⟨high, low, body, rfl, hcode⟩ | ⟨kind, body, rfl⟩
  · rw [decodeAt?, if_pos hshort, decode_of_short hshort]
  · rw [decode_of_unknown hcode]
    simp [decodeAt?, hcode]
  · have hlong : ¬ (Word.toBytes kind.code ++ body).length < 2 := by simp [Word.toBytes]
    rw [decode_append, ← bodyAt?_append, decodeAt?, if_neg hlong]
    simp [Word.toBytes, Word.ofBytes_high_low, Opcode.ofCode?_code]

end Packet

end TrivialFtp
