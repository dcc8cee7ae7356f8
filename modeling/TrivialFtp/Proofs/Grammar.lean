import TrivialFtp.Proofs.Places

/-!
# Proofs: the grammar of datagrams

Which datagrams are packets, and what is said of one that is not.  The rules of the grammar are
numbered in the order in which a reader meets them; several may be broken at once, and the one
with the least number is reported.

- `Packet.Grammatical`: the datagrams that are packets.
- `Packet.Breaks`, `Packet.Reports`: the rules, and the first one that is broken.
- `Packet.decode_grammar`: what is read and what is reported.
-/

namespace TrivialFtp

/-! ### Rules -/

namespace Field

/-- The rules for the fields of a packet that has some before its options.  Every field is text and
is closed, no field is missing, and options have values. -/
inductive Breaks (leading : Nat) (fields : List Bytes) (left : Bytes) : Nat → Malformed → Prop where
  | illFormed {place : Nat} {field : Bytes} (hfield : fields[place]? = some field)
      (htext : ∀ s, Utf8.encode s ≠ field) : Breaks leading fields left place .illFormedText
  | unclosed (hleft : left ≠ []) : Breaks leading fields left fields.length .unterminated
  | noFilename (hleading : 1 ≤ leading) (hfew : fields.length < 1) :
    Breaks leading fields left (fields.length + 1) (.missingField .filename)
  | noMode (hleading : 2 ≤ leading) (hfew : fields.length < 2) :
    Breaks leading fields left (fields.length + 2) (.missingField .mode)
  | unpaired (hleading : leading ≤ fields.length) (hodd : (fields.length - leading) % 2 = 1) :
    Breaks leading fields left (fields.length + 3) (.oddOptionFields (fields.length - leading))

/-- Two things are not said of one rule. -/
theorem Breaks.unique {leading n n' : Nat} {m m' : Malformed} (h : Breaks leading fields left n m)
    (h' : Breaks leading fields left n' m') (hn : n = n') : m = m' := by
  have hplace : ∀ {place field}, fields[place]? = some field → place < fields.length :=
    fun hfield => (List.getElem?_eq_some_iff.1 hfield).1
  cases h with
  | illFormed hfield =>
    have := hplace hfield
    cases h' with
    | illFormed => rfl
    | unclosed | noFilename | noMode | unpaired => omega
  | unclosed | noFilename | noMode | unpaired =>
    cases h' with
    | illFormed hfield =>
      have := hplace hfield
      omega
    | unclosed | noFilename | noMode | unpaired => first | rfl | omega

/-- What is said of the first rule that a body of fields breaks. -/
def Reports (leading : Nat) (fields : List Bytes) (left : Bytes) (n : Nat) (m : Malformed) : Prop :=
  Breaks leading fields left n m ∧ ∀ n' m', Breaks leading fields left n' m' → n ≤ n'

/-- A field that is no text is reported, and it is the first such field. -/
theorem reports_of_mapM_read_error {leading : Nat} {m : Malformed}
    (h : fields.mapM read = .error m) : ∃ n, Reports leading fields left n m := by
  obtain ⟨rfl, place, field, hfield, hbad, hfirst⟩ := mapM_read_error h
  have hplace := (List.getElem?_eq_some_iff.1 hfield).1
  refine ⟨place, .illFormed hfield (Utf8.decode?_eq_none_iff.1 hbad), fun n' m' h' => ?_⟩
  cases h' with
  | illFormed hfield' htext' => exact hfirst _ _ hfield' (Utf8.decode?_eq_none_iff.2 htext')
  | unclosed | noFilename | noMode | unpaired => omega

/-- When every field is text, only the rules after the fields can be broken. -/
theorem Breaks.of_texts {leading n : Nat} {texts : List String} {m : Malformed}
    (h : Breaks leading (texts.map Utf8.encode) left n m) :
    n = texts.length ∧ left ≠ [] ∨
      n = texts.length + 1 ∧ 1 ≤ leading ∧ texts.length < 1 ∨
      n = texts.length + 2 ∧ 2 ≤ leading ∧ texts.length < 2 ∨ n = texts.length + 3 := by
  cases h with
  | illFormed hfield htext =>
    obtain ⟨s, -, rfl⟩ := List.mem_map.1 (List.mem_of_getElem? hfield)
    exact absurd rfl (htext s)
  | unclosed hleft => simp [hleft]
  | noFilename hleading hfew => simpa [hleading] using hfew
  | noMode hleading hfew => simpa [hleading] using hfew
  | unpaired => simp

/-- What follows the last zero byte is reported before anything about the number of fields. -/
theorem reports_unclosed {leading : Nat} {texts : List String} (hleft : left ≠ []) :
    Reports leading (texts.map Utf8.encode) left (texts.map Utf8.encode).length .unterminated := by
  refine ⟨.unclosed hleft, fun n' m' h' => ?_⟩
  have := h'.of_texts
  simp only [List.length_map]
  omega

end Field

/-- How many fields a packet of a kind has before its options, if it is made of fields. -/
def Opcode.leading? : Opcode → Option Nat
  | readRequest | writeRequest => some 2
  | optionAck => some 0
  | data | ack | error => none

theorem Opcode.leading_even {kind : Opcode} {leading : Nat} (h : kind.leading? = some leading) :
    leading % 2 = 0 := by
  cases kind with
  | readRequest | writeRequest | optionAck =>
    obtain rfl := Option.some.inj h
    rfl
  | data | ack | error => exact nomatch h

namespace Packet

/-- The datagrams that are packets. -/
inductive Grammatical : Bytes → Prop where
  /-- A word, and whatever follows. -/
  | numbered {kind : Opcode} {body : Bytes} (hkind : kind.leading? = none)
      (hword : 2 ≤ body.length) : Grammatical (Word.toBytes kind.code ++ body)
  /-- Texts, each closed by a zero byte. -/
  | texts {kind : Opcode} {leading : Nat} {texts : List String}
      (hkind : kind.leading? = some leading) (hclean : ∀ s ∈ texts, '\x00' ∉ s.toList)
      (hleading : leading ≤ texts.length) (heven : texts.length % 2 = 0) :
    Grammatical (Word.toBytes kind.code ++ Field.join texts)

/-- A datagram breaks a rule, which has a number in the order of reading, and this is what is said
of it.  Any number of rules may be broken. -/
inductive Breaks (b : Bytes) : Nat → Malformed → Prop where
  | cutOff (hshort : b.length < 2) : Breaks b 0 (.tooShort none b.length)
  | unknown {high low : UInt8} {body : Bytes} (hb : b = high :: low :: body)
      (hcode : ∀ kind : Opcode, Word.ofBytes high low ≠ kind.code) :
    Breaks b 1 (.unknownOpcode (Word.ofBytes high low))
  | headless {kind : Opcode} {body : Bytes} (hb : b = Word.toBytes kind.code ++ body)
      (hkind : kind.leading? = none) (hshort : body.length < 2) :
    Breaks b 2 (.tooShort (some kind) b.length)
  | field {kind : Opcode} {body left : Bytes} {fields : List Bytes} {leading n : Nat}
      {m : Malformed} (hb : b = Word.toBytes kind.code ++ body)
      (hkind : kind.leading? = some leading)
      (hparts : Field.Parted body fields left) (hbreaks : Field.Breaks leading fields left n m) :
    Breaks b (3 + n) m

/-- What is said of the first rule that a datagram breaks. -/
def Reports (b : Bytes) (m : Malformed) : Prop :=
  ∃ n, Breaks b n m ∧ ∀ n' m', Breaks b n' m' → n ≤ n'

/-! ### What is broken first -/

theorem toBytes_append_inj {kind kind' : Opcode} {body body' : Bytes}
    (h : Word.toBytes kind.code ++ body = Word.toBytes kind'.code ++ body') :
    kind = kind' ∧ body = body' := by
  simp only [Word.toBytes, List.cons_append, List.nil_append, List.cons.injEq] at h
  obtain ⟨hhigh, hlow, hbody⟩ := h
  have hcode : kind.code = kind'.code := by
    rw [← Word.ofBytes_high_low kind.code, hhigh, hlow, Word.ofBytes_high_low]
  have hkind := Opcode.ofCode?_code kind
  rw [hcode, Opcode.ofCode?_code] at hkind
  exact ⟨(Option.some.inj hkind).symm, hbody⟩

/-- A word is read if it is there. -/
theorem withWord_cases (kind : Opcode) (body : Bytes) (k : UInt16 → Bytes → Packet) :
    (2 ≤ body.length ∧ ∃ p, withWord kind body k = .ok p) ∨
      (body.length < 2 ∧
        withWord kind body k = .error (.tooShort (some kind) (body.length + 2))) := by
  match body with
  | [] => exact .inr ⟨by simp, rfl⟩
  | [_] => exact .inr ⟨by simp, rfl⟩
  | high :: low :: rest => exact .inl ⟨by simp, _, rfl⟩

theorem ofBody_of_split_error {kind : Opcode} {leading : Nat}
    (hkind : kind.leading? = some leading) {body : Bytes} {m : Malformed}
    (hsplit : Field.split body = .error m) : ofBody kind body = .error m := by
  cases kind with
  | readRequest | writeRequest | optionAck =>
    rw [ofBody, hsplit]
    rfl
  | data | ack | error => cases hkind

theorem ofFields_cases (texts : List String) :
    (texts.length % 2 = 0 ∧ ∃ options, Options.ofFields texts = .ok options) ∨
      (texts.length % 2 = 1 ∧
        Options.ofFields texts = .error (.oddOptionFields texts.length)) := by
  unfold Options.ofFields
  by_cases heven : texts.length % 2 = 0
  · exact .inl ⟨heven, _, if_pos heven⟩
  · exact .inr ⟨by omega, if_neg heven⟩

/-- How reading the texts of a body comes out, by their number. -/
inductive Counted (leading count : Nat) (result : Except Malformed Packet) : Prop where
  | enough {p : Packet} (hleading : leading ≤ count) (heven : count % 2 = 0)
      (hresult : result = .ok p)
  | none (hleading : 1 ≤ leading) (hcount : count = 0)
      (hresult : result = .error (.missingField .filename))
  | single (hleading : 2 ≤ leading) (hcount : count = 1)
      (hresult : result = .error (.missingField .mode))
  | unpaired (hleading : leading ≤ count) (hodd : (count - leading) % 2 = 1)
      (hresult : result = .error (.oddOptionFields (count - leading)))

theorem counted_request (direction : Direction) (texts : List String) :
    Counted 2 texts.length (requestOfFields direction texts) := by
  match texts with
  | [] => exact .none (by decide) rfl rfl
  | [_] => exact .single (by decide) rfl rfl
  | filename :: mode :: rest =>
    rcases ofFields_cases rest with ⟨heven, options, h⟩ | ⟨hodd, h⟩
    · exact .enough (by simp) (by simp only [List.length_cons]; omega)
        (by rw [requestOfFields, h]; rfl)
    · exact .unpaired (by simp) (by simpa using hodd) (by rw [requestOfFields, h]; rfl)

theorem counted_ofBody {kind : Opcode} {leading : Nat} (hkind : kind.leading? = some leading)
    {body : Bytes} {texts : List String} (hsplit : Field.split body = .ok texts) :
    Counted leading texts.length (ofBody kind body) := by
  cases kind with
  | readRequest =>
    obtain rfl := Option.some.inj hkind
    rw [ofBody, hsplit]
    exact counted_request .read texts
  | writeRequest =>
    obtain rfl := Option.some.inj hkind
    rw [ofBody, hsplit]
    exact counted_request .write texts
  | optionAck =>
    obtain rfl := Option.some.inj hkind
    rw [ofBody, hsplit]
    change Counted 0 texts.length (optionAck <$> Options.ofFields texts)
    rcases ofFields_cases texts with ⟨heven, options, h⟩ | ⟨hodd, h⟩
    · exact .enough (Nat.zero_le _) heven (by rw [h]; rfl)
    · exact .unpaired (Nat.zero_le _) hodd (by rw [h]; rfl)
  | data | ack | error => cases hkind

/-- A closed body of texts is read, or the first rule that it breaks is reported. -/
theorem ofBody_closed {kind : Opcode} {leading : Nat} (hkind : kind.leading? = some leading)
    {body : Bytes} {texts : List String} (hparts : Field.Parted body (texts.map Utf8.encode) [])
    (hread : Field.split body = .ok texts) :
    (Grammatical (Word.toBytes kind.code ++ body) ∧ ∃ p, ofBody kind body = .ok p) ∨
      ∃ n m, ofBody kind body = .error m ∧
        Field.Reports leading (texts.map Utf8.encode) [] n m := by
  -- A closed body breaks nothing before the rules for the number of its fields.
  have hafter : ∀ {n m}, Field.Breaks leading (texts.map Utf8.encode) [] n m →
      n = texts.length + 1 ∧ 1 ≤ leading ∧ texts.length < 1 ∨
        n = texts.length + 2 ∧ 2 ≤ leading ∧ texts.length < 2 ∨ n = texts.length + 3 :=
    fun h => h.of_texts.resolve_left fun h => h.2 rfl
  cases counted_ofBody hkind hread with
  | @enough p hleading heven hresult =>
    have hclean : ∀ s ∈ texts, '\x00' ∉ s.toList := fun s hs h =>
      hparts.clean _ (List.mem_map_of_mem hs) ((Utf8.zero_mem_encode_iff s).2 h)
    have hbody := hparts.eq
    rw [List.append_nil, List.flatMap_map] at hbody
    exact .inl ⟨by
      rw [hbody]
      exact .texts hkind hclean hleading heven, p, hresult⟩
  | none hleading hcount hresult =>
    refine .inr ⟨_, _, hresult, .noFilename hleading (by simp [hcount]), fun n' m' h' => ?_⟩
    have := hafter h'
    simp only [List.length_map]
    omega
  | single hleading hcount hresult =>
    refine .inr ⟨_, _, hresult, .noMode hleading (by simp [hcount]), fun n' m' h' => ?_⟩
    have := hafter h'
    simp only [List.length_map]
    omega
  | unpaired hleading hodd hresult =>
    have hbreaks : Field.Breaks leading (texts.map Utf8.encode) [] _ _ :=
      .unpaired (by simpa using hleading) (by simpa using hodd)
    rw [List.length_map] at hbreaks
    refine .inr ⟨_, _, hresult, hbreaks, fun n' m' h' => ?_⟩
    have := hafter h'
    omega

/-- A body of fields is read, or the first rule that it breaks is reported. -/
theorem ofBody_cases {kind : Opcode} {leading : Nat} (hkind : kind.leading? = some leading)
    {body left : Bytes} {fields : List Bytes} (hparts : Field.Parted body fields left) :
    (Grammatical (Word.toBytes kind.code ++ body) ∧ ∃ p, ofBody kind body = .ok p) ∨
      ∃ n m, ofBody kind body = .error m ∧ Field.Reports leading fields left n m := by
  have hsplit := Field.split_of_parted hparts
  cases hread : fields.mapM Field.read with
  | error m =>
    obtain ⟨n, hreports⟩ := Field.reports_of_mapM_read_error hread
    exact .inr ⟨n, m, ofBody_of_split_error hkind (by rw [hsplit, hread]; rfl), hreports⟩
  | ok texts =>
    obtain rfl := Field.mapM_read_ok hread
    by_cases hleft : left = []
    · subst hleft
      exact ofBody_closed hkind hparts (by rw [hsplit, hread]; rfl)
    · exact .inr ⟨_, _, ofBody_of_split_error hkind (by rw [hsplit, hread]; exact if_neg hleft),
        Field.reports_unclosed hleft⟩

theorem ofBody_numbered_cases {kind : Opcode} (hkind : kind.leading? = none) (body : Bytes) :
    (2 ≤ body.length ∧ ∃ p, ofBody kind body = .ok p) ∨
      (body.length < 2 ∧ ofBody kind body = .error (.tooShort (some kind) (body.length + 2))) := by
  cases kind with
  | data => exact withWord_cases .data body data
  | ack => exact withWord_cases .ack body fun block _ => .ack block
  | error => exact withWord_cases .error body fun code rest => .error code (messageOf rest)
  | readRequest | writeRequest | optionAck => exact nomatch hkind

/-! ### Reports -/

theorem Breaks.two_le {kind : Opcode} {body : Bytes} {n : Nat} {m : Malformed}
    (h : Breaks (Word.toBytes kind.code ++ body) n m) : 2 ≤ n := by
  cases h with
  | cutOff hshort =>
    simp only [Word.toBytes, List.cons_append, List.length_cons] at hshort
    omega
  | @unknown high low rest hb hcode =>
    simp only [Word.toBytes, List.cons_append, List.nil_append, List.cons.injEq] at hb
    obtain ⟨rfl, rfl, -⟩ := hb
    exact absurd (Word.ofBytes_high_low _) (hcode kind)
  | headless => exact Nat.le_refl 2
  | field => omega

/-- What is broken in a body of fields is a rule for fields. -/
theorem Breaks.of_fields {kind : Opcode} {leading : Nat} (hkind : kind.leading? = some leading)
    {body left : Bytes} {fields : List Bytes} (hparts : Field.Parted body fields left) {n : Nat}
    {m : Malformed} (h : Breaks (Word.toBytes kind.code ++ body) n m) :
    ∃ n', n = 3 + n' ∧ Field.Breaks leading fields left n' m := by
  have htwo := h.two_le
  cases h with
  | cutOff => omega
  | unknown => omega
  | headless hb hkind' =>
    obtain ⟨rfl, rfl⟩ := toBytes_append_inj hb
    exact nomatch hkind.symm.trans hkind'
  | field hb hkind' hparts' hbreaks =>
    obtain ⟨rfl, rfl⟩ := toBytes_append_inj hb
    obtain rfl := Option.some.inj (hkind.symm.trans hkind')
    obtain ⟨rfl, rfl⟩ := hparts.unique hparts'
    exact ⟨_, rfl, hbreaks⟩

/-- A datagram is a packet and is read, or the first rule that it breaks is reported. -/
theorem decode_cases (b : Bytes) :
    (Grammatical b ∧ ∃ p, decode b = .ok p) ∨ ∃ m, decode b = .error m ∧ Reports b m := by
  rcases kind_cases b with hshort | ⟨high, low, body, rfl, hcode⟩ | ⟨kind, body, rfl⟩
  · exact .inr ⟨_, decode_of_short hshort, 0, .cutOff hshort, fun n' _ _ => Nat.zero_le n'⟩
  · have hunknown : ∀ kind : Opcode, Word.ofBytes high low ≠ kind.code := fun kind h =>
      nomatch hcode.symm.trans (Opcode.ofCode?_eq_some_iff.2 h)
    refine .inr ⟨_, decode_of_unknown hcode, 1, .unknown rfl hunknown, fun n' m' h' => ?_⟩
    cases h' with
    | cutOff hshort =>
      simp only [List.length_cons] at hshort
      omega
    | unknown | headless | field => omega
  · rw [decode_append]
    cases hkind : kind.leading? with
    | none =>
      rcases ofBody_numbered_cases hkind body with ⟨hword, hread⟩ | ⟨hshort, herror⟩
      · exact .inl ⟨.numbered hkind hword, hread⟩
      · exact .inr ⟨_, herror, 2, by
          simpa [Word.toBytes] using Breaks.headless rfl hkind hshort, fun n' m' h' => h'.two_le⟩
    | some leading =>
      obtain ⟨fields, left, hparts⟩ := Field.exists_parted body
      rcases ofBody_cases hkind hparts with hread | ⟨n, m, herror, hbreaks, hfirst⟩
      · exact .inl hread
      · refine .inr ⟨m, herror, 3 + n, .field rfl hkind hparts hbreaks, fun n' m' h' => ?_⟩
        obtain ⟨k, rfl, hk⟩ := h'.of_fields hkind hparts
        have := hfirst k m' hk
        omega

/-- No rule is broken by a packet. -/
theorem Grammatical.not_breaks {b : Bytes} (h : Grammatical b) {n : Nat} {m : Malformed} :
    ¬ Breaks b n m := by
  intro hbreaks
  cases h with
  | numbered hkind hword =>
    have htwo := hbreaks.two_le
    cases hbreaks with
    | cutOff | unknown => omega
    | headless hb hkind' hshort =>
      obtain ⟨rfl, rfl⟩ := toBytes_append_inj hb
      omega
    | field hb hkind' =>
      obtain ⟨rfl, rfl⟩ := toBytes_append_inj hb
      exact nomatch hkind.symm.trans hkind'
  | @texts kind leading texts hkind hclean hleading heven =>
    have hparts : Field.Parted (Field.join texts) (texts.map Utf8.encode) [] := by
      refine ⟨by rw [List.append_nil, List.flatMap_map]; rfl, ?_, List.not_mem_nil⟩
      intro f hf h
      obtain ⟨s, hs, rfl⟩ := List.mem_map.1 hf
      exact hclean s hs ((Utf8.zero_mem_encode_iff s).1 h)
    have hlength : (texts.map Utf8.encode).length = texts.length := List.length_map _
    have hpaired := Opcode.leading_even hkind
    obtain ⟨k, -, hk⟩ := hbreaks.of_fields hkind hparts
    cases hk with
    | illFormed hfield htext =>
      obtain ⟨s, -, rfl⟩ := List.mem_map.1 (List.mem_of_getElem? hfield)
      exact htext s rfl
    | unclosed hleft => exact hleft rfl
    | noFilename | noMode | unpaired => omega

/-- Two things are not said of one rule. -/
theorem Breaks.unique {b : Bytes} {n n' : Nat} {m m' : Malformed} (h : Breaks b n m)
    (h' : Breaks b n' m') (hn : n = n') : m = m' := by
  cases h with
  | cutOff =>
    cases h' with
    | cutOff => rfl
    | unknown | headless | field => omega
  | unknown hb =>
    cases h' with
    | unknown hb' =>
      obtain ⟨rfl, hlow⟩ := List.cons.inj (hb.symm.trans hb')
      obtain ⟨rfl, -⟩ := List.cons.inj hlow
      rfl
    | cutOff | headless | field => omega
  | headless hb =>
    cases h' with
    | headless hb' =>
      obtain ⟨rfl, -⟩ := toBytes_append_inj (hb.symm.trans hb')
      rfl
    | cutOff | unknown | field => omega
  | field hb hkind hparts hbreaks =>
    cases h' with
    | field hb' hkind' hparts' hbreaks' =>
      obtain ⟨rfl, rfl⟩ := toBytes_append_inj (hb.symm.trans hb')
      obtain rfl := Option.some.inj (hkind.symm.trans hkind')
      obtain ⟨rfl, rfl⟩ := hparts.unique hparts'
      exact hbreaks.unique hbreaks' (by omega)
    | cutOff | unknown | headless => omega

/-- **The grammar.**  A datagram is read exactly when it follows the grammar; otherwise what is
reported is the first rule that it breaks.  Read place by place, it is read the same way and no
place out of range is asked for. -/
theorem decode_grammar (b : Bytes) :
    ((∃ p, decode b = .ok p) ↔ Grammatical b) ∧ (∀ m, decode b = .error m ↔ Reports b m) ∧
      decodeAt? b = some (decode b) := by
  refine ⟨⟨fun ⟨p, hread⟩ => ?_, fun hgrammar => ?_⟩,
    fun m => ⟨fun herror => ?_, fun hreports => ?_⟩, decodeAt?_eq_some b⟩
  all_goals rcases decode_cases b with ⟨hgrammar', p', hread'⟩ | ⟨m', herror', hreports'⟩
  · exact hgrammar'
  · exact nomatch hread.symm.trans herror'
  · exact ⟨p', hread'⟩
  · obtain ⟨n, hbreaks, -⟩ := hreports'
    exact absurd hbreaks hgrammar.not_breaks
  · exact nomatch hread'.symm.trans herror
  · obtain rfl := Except.error.inj (herror'.symm.trans herror)
    exact hreports'
  · obtain ⟨n, hbreaks, -⟩ := hreports
    exact absurd hbreaks hgrammar'.not_breaks
  · obtain ⟨n, hbreaks, hfirst⟩ := hreports
    obtain ⟨n', hbreaks', hfirst'⟩ := hreports'
    have hn : n = n' := Nat.le_antisymm (hfirst n' m' hbreaks') (hfirst' n m hbreaks)
    rw [herror', hbreaks.unique hbreaks' hn]

end Packet

end TrivialFtp
