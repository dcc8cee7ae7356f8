import TrivialFtp.Proofs.RoundTrip

/-!
# Proofs: the parts of a body

A body of fields falls into parts at its zero bytes, in one way only.  Its texts are those of the
parts, and what is reported of a body that cannot be read is about its leftmost bad part.

- `Field.exists_parted`, `Field.Parted.unique`: every body has its parts and no others.
- `Field.split_of_parted`: reading a body is reading its parts.
-/

namespace TrivialFtp

theorem Utf8.decode?_eq_none_iff {bytes : Bytes} :
    decode? bytes = none ↔ ∀ s, encode s ≠ bytes := by
  constructor
  · rintro h s rfl
    exact nomatch (decode?_encode s).symm.trans h
  · intro h
    cases hd : decode? bytes with
    | none => rfl
    | some s => exact absurd (encode_of_decode? hd) (h s)

namespace Field

/-- The parts of a body: what stands before each of its zero bytes, and what is left after the
last one. -/
structure Parted (body : Bytes) (fields : List Bytes) (left : Bytes) : Prop where
  eq : body = fields.flatMap (· ++ [0]) ++ left
  clean : ∀ f ∈ fields, 0 ∉ f
  unclosed : 0 ∉ left

/-- The text of a field. -/
def read (field : Bytes) : Except Malformed String :=
  match Utf8.decode? field with
  | none => .error .illFormedText
  | some s => .ok s

variable {body left : Bytes} {fields : List Bytes}

theorem parted_nil : Parted [] [] [] :=
  ⟨rfl, fun _ h => absurd h List.not_mem_nil, List.not_mem_nil⟩

theorem Parted.cons {field : Bytes} (h : Parted body fields left) (hfield : 0 ∉ field) :
    Parted (field ++ 0 :: body) (field :: fields) left := by
  refine ⟨?_, List.forall_mem_cons.2 ⟨hfield, h.clean⟩, h.unclosed⟩
  simp [h.eq]

/-- Every body has its parts. -/
theorem exists_parted (body : Bytes) : ∃ fields left, Parted body fields left := by
  induction body with
  | nil => exact ⟨[], [], parted_nil⟩
  | cons b body ih =>
    obtain ⟨fields, left, h⟩ := ih
    by_cases hb : b = 0
    · subst hb
      exact ⟨[] :: fields, left, h.cons List.not_mem_nil⟩
    · have hclean : ∀ {f : Bytes}, 0 ∉ f → 0 ∉ b :: f := fun hf hmem =>
        (List.mem_cons.1 hmem).elim (fun e => hb e.symm) hf
      cases fields with
      | nil => exact ⟨[], b :: left, by simp [h.eq], by simp, hclean h.unclosed⟩
      | cons f fields =>
        obtain ⟨hf, hfields⟩ := List.forall_mem_cons.1 h.clean
        exact ⟨(b :: f) :: fields, left, by simp [h.eq],
          List.forall_mem_cons.2 ⟨hclean hf, hfields⟩, h.unclosed⟩

/-- A first part is all that stands before the first zero byte. -/
theorem append_zero_inj {f g rest rest' : Bytes} (hf : 0 ∉ f) (hg : 0 ∉ g)
    (h : f ++ 0 :: rest = g ++ 0 :: rest') : f = g ∧ rest = rest' := by
  induction f generalizing g with
  | nil =>
    cases g with
    | nil => exact ⟨rfl, (List.cons.inj h).2⟩
    | cons c g => exact absurd (List.mem_cons.2 (.inl (List.cons.inj h).1)) hg
  | cons b f ih =>
    cases g with
    | nil => exact absurd (List.mem_cons.2 (.inl (List.cons.inj h).1.symm)) hf
    | cons c g =>
      obtain ⟨rfl, htail⟩ := List.cons.inj h
      obtain ⟨rfl, rfl⟩ := ih (fun hm => hf (.tail _ hm)) (fun hm => hg (.tail _ hm)) htail
      exact ⟨rfl, rfl⟩

/-- A body has no other parts. -/
theorem Parted.unique {left' : Bytes} (h : Parted body fields left) :
    ∀ {fields' : List Bytes}, Parted body fields' left' → fields' = fields ∧ left' = left := by
  induction fields generalizing body with
  | nil =>
    intro fields' h'
    cases fields' with
    | nil => exact ⟨rfl, by simpa using h'.eq.symm.trans h.eq⟩
    | cons g fields' =>
      have hmem : (0 : UInt8) ∈ body := by simp [h'.eq]
      exact absurd (by simpa [h.eq] using hmem) h.unclosed
  | cons f fields ih =>
    intro fields' h'
    obtain ⟨hf, hfields⟩ := List.forall_mem_cons.1 h.clean
    cases fields' with
    | nil =>
      have hmem : (0 : UInt8) ∈ body := by simp [h.eq]
      exact absurd (by simpa [h'.eq] using hmem) h'.unclosed
    | cons g fields' =>
      obtain ⟨hg, hfields'⟩ := List.forall_mem_cons.1 h'.clean
      have heq := h.eq.symm.trans h'.eq
      simp only [List.flatMap_cons, List.append_assoc, List.singleton_append] at heq
      obtain ⟨rfl, hrest⟩ := append_zero_inj hf hg heq
      obtain ⟨rfl, rfl⟩ := ih ⟨rfl, hfields, h.unclosed⟩ ⟨hrest, hfields', h'.unclosed⟩
      exact ⟨rfl, rfl⟩

theorem splitFrom_clean_eq {field : Bytes} (h : 0 ∉ field) (begun rest : Bytes) :
    splitFrom begun (field ++ rest) = splitFrom (field.reverse ++ begun) rest :=
  splitFrom_append (fun _ hb e => h (e ▸ hb)) begun rest

/-- The first field is read before the others. -/
theorem split_field {field : Bytes} (h : 0 ∉ field) (rest : Bytes) :
    split (field ++ 0 :: rest) = read field >>= fun s => (split rest).map (s :: ·) := by
  rw [split, splitFrom_clean_eq h, splitFrom, if_pos rfl, List.append_nil, List.reverse_reverse,
    read]
  cases Utf8.decode? field <;> rfl

theorem split_unclosed (h : 0 ∉ left) (hleft : left ≠ []) : split left = .error .unterminated := by
  have hsplit := splitFrom_clean_eq h [] []
  rw [List.append_nil, List.append_nil] at hsplit
  rw [split, hsplit, splitFrom, if_neg (by simpa using hleft)]

/-- The texts of a body are those of its parts.  The leftmost bad part is reported, and what is
left after the last zero byte is one. -/
theorem split_of_parted (h : Parted body fields left) :
    split body =
      fields.mapM read >>= fun texts =>
        if left = [] then .ok texts else .error .unterminated := by
  induction fields generalizing body with
  | nil =>
    obtain rfl : body = left := by simpa using h.eq
    by_cases hleft : body = []
    · subst hleft
      rfl
    · rw [split_unclosed h.unclosed hleft]
      simp [hleft, pure, bind, Except.pure, Except.bind]
  | cons f fields ih =>
    obtain ⟨hf, hfields⟩ := List.forall_mem_cons.1 h.clean
    obtain rfl : body = f ++ 0 :: (fields.flatMap (· ++ [0]) ++ left) := by simpa using h.eq
    rw [split_field hf, ih ⟨rfl, hfields, h.unclosed⟩, List.mapM_cons]
    cases read f with
    | error m => rfl
    | ok s =>
      simp only [bind, Except.bind]
      cases fields.mapM read with
      | error m => rfl
      | ok texts =>
        by_cases hleft : left = [] <;> simp [hleft, Except.map, pure, Except.pure]

theorem mapM_read_ok {fields : List Bytes} {texts : List String}
    (h : fields.mapM read = .ok texts) : fields = texts.map Utf8.encode := by
  induction fields generalizing texts with
  | nil =>
    obtain rfl := Except.ok.inj h
    rfl
  | cons f fields ih =>
    rw [List.mapM_cons, read] at h
    cases hf : Utf8.decode? f with
    | none => simp [hf, bind, Except.bind] at h
    | some s =>
      cases hfields : fields.mapM read with
      | error m => simp [hf, hfields, bind, Except.bind] at h
      | ok rest =>
        obtain rfl : s :: rest = texts := by
          simpa [hf, hfields, bind, Except.bind, pure, Except.pure] using h
        rw [List.map_cons, ← ih hfields, Utf8.encode_of_decode? hf]

/-- When a field cannot be read, some field is the first of that kind. -/
theorem mapM_read_error {fields : List Bytes} {m : Malformed} (h : fields.mapM read = .error m) :
    m = .illFormedText ∧ ∃ i f, fields[i]? = some f ∧ Utf8.decode? f = none ∧
      ∀ (j : Nat) (g : Bytes), fields[j]? = some g → Utf8.decode? g = none → i ≤ j := by
  induction fields with
  | nil => exact nomatch h
  | cons f fields ih =>
    rw [List.mapM_cons, read] at h
    cases hf : Utf8.decode? f with
    | none =>
      refine ⟨?_, 0, f, rfl, hf, fun j _ _ _ => Nat.zero_le j⟩
      simpa [hf, bind, Except.bind, eq_comm] using h
    | some s =>
      cases hfields : fields.mapM read with
      | ok rest => simp [hf, hfields, bind, Except.bind, pure, Except.pure] at h
      | error m' =>
        obtain rfl : m' = m := by simpa [hf, hfields, bind, Except.bind] using h
        obtain ⟨hm, i, g, hg, hbad, hfirst⟩ := ih hfields
        refine ⟨hm, i + 1, g, hg, hbad, fun j g' hg' hbad' => ?_⟩
        cases j with
        | zero =>
          obtain rfl := Option.some.inj hg'
          exact nomatch hf.symm.trans hbad'
        | succ j => exact Nat.succ_le_succ (hfirst j g' hg' hbad')

end Field

namespace Packet

/-- Every datagram is too short for an opcode, or has a first word that is none or is one. -/
theorem kind_cases (b : Bytes) :
    b.length < 2 ∨
      (∃ high low body, b = high :: low :: body ∧ Opcode.ofCode? (Word.ofBytes high low) = none) ∨
      ∃ (kind : Opcode) (body : Bytes), b = Word.toBytes kind.code ++ body := by
  match b with
  | [] => exact .inl (by simp)
  | [_] => exact .inl (by simp)
  | high :: low :: body =>
    cases hkind : Opcode.ofCode? (Word.ofBytes high low) with
    | none => exact .inr (.inl ⟨high, low, body, rfl, hkind⟩)
    | some kind =>
      refine .inr (.inr ⟨kind, body, ?_⟩)
      rw [← Opcode.ofCode?_eq_some_iff.1 hkind, Word.toBytes, Word.high_ofBytes, Word.low_ofBytes]
      rfl

theorem decode_of_short {b : Bytes} (h : b.length < 2) :
    decode b = .error (.tooShort none b.length) := by
  match b, h with
  | [], _ | [_], _ => rfl

theorem decode_of_unknown {high low : UInt8} {body : Bytes}
    (h : Opcode.ofCode? (Word.ofBytes high low) = none) :
    decode (high :: low :: body) = .error (.unknownOpcode (Word.ofBytes high low)) := by
  simp [decode, h]

end Packet

end TrivialFtp
