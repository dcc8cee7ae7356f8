import Mathlib.Data.List.TakeWhile
import TrivialFtp.Packet.Wire
import TrivialFtp.Proofs.Text

/-!
# Proofs: packets there and back

A packet is read back from its datagram exactly when nothing in it is lost on the wire: a NUL
inside a text would end its field early, and modes are read in lower case.

- `Options.ofFields_texts`: options are read back from their fields.
- `Packet.decode_encode`: so is a packet without NUL whose mode is in lower case.
- `Packet.decode_encode_iff`: and no other packet is.
-/

namespace TrivialFtp

namespace Field

/-- What is read of successive fields has no NUL in it. -/
theorem splitFrom_clean {bytes : Bytes} : ∀ {begun : Bytes} {texts : List String},
    0 ∉ begun → splitFrom begun bytes = .ok texts → ∀ s ∈ texts, '\x00' ∉ s.toList := by
  induction bytes with
  | nil =>
    intro begun texts _ h
    by_cases hb : begun.isEmpty
    · simp only [splitFrom, hb, if_true, Except.ok.injEq] at h
      simp [← h]
    · simp [splitFrom, hb] at h
  | cons b bytes ih =>
    intro begun texts hbegun h
    by_cases hb : b = 0
    · simp only [splitFrom, hb, if_true] at h
      cases hd : Utf8.decode? begun.reverse with
      | none => simp [hd] at h
      | some s =>
        rw [hd] at h
        cases hrest : splitFrom [] bytes with
        | error m => simp [hrest, Except.map] at h
        | ok rest =>
          simp only [hrest, Except.map, Except.ok.injEq] at h
          subst h
          refine List.forall_mem_cons.2 ⟨?_, ih (List.not_mem_nil) hrest⟩
          rwa [← Utf8.zero_mem_encode_iff, Utf8.encode_of_decode? hd, List.mem_reverse]
    · rw [splitFrom, if_neg hb] at h
      refine ih (fun hmem => ?_) h
      rcases List.mem_cons.1 hmem with e | hmem
      · exact hb e.symm
      · exact hbegun hmem

/-- No field holds the character that ends it. -/
theorem split_clean {bytes : Bytes} {texts : List String} (h : split bytes = .ok texts) :
    ∀ s ∈ texts, '\x00' ∉ s.toList :=
  splitFrom_clean List.not_mem_nil h

/-- Texts without that character are read as they were written. -/
theorem split_join_of_clean {texts : List String} (h : ∀ s ∈ texts, '\x00' ∉ s.toList) :
    split (join texts) = .ok texts :=
  split_join fun s hs _ hb e => h s hs ((Utf8.zero_mem_encode_iff s).1 (e ▸ hb))

end Field

namespace Options

/-- The names and values in the order of their fields. -/
def texts (options : Options) : List String := options.entries.flatMap fun e => [e.1, e.2]

/-- Options are written as the fields of their names and values in turn. -/
theorem encode_eq_join (options : Options) : options.encode = Field.join options.texts := by
  rw [encode, texts, Field.join, List.flatMap_assoc]
  simp

/-- Names and values that were written in turn are paired again. -/
theorem pairs_flatMap (entries : List (String × String)) :
    pairs (entries.flatMap fun e => [e.1, e.2]) = entries := by
  induction entries with
  | nil => rfl
  | cons e rest ih => simpa [pairs] using ih

/-- They are even in number. -/
theorem length_flatMap (entries : List (String × String)) :
    (entries.flatMap fun e => [e.1, e.2]).length % 2 = 0 := by
  induction entries with
  | nil => rfl
  | cons e rest ih =>
    rw [List.flatMap_cons, List.length_append, List.length_cons, List.length_cons, List.length_nil]
    omega

/-- An option under a new name goes to the end. -/
theorem put_of_not_mem {name : String} {entries : List (String × String)}
    (h : Letters.fold name ∉ folded entries) (value : String) :
    put name value entries = entries ++ [(name, value)] := by
  induction entries with
  | nil => rfl
  | cons e rest ih =>
    rw [folded, List.map_cons, List.mem_cons, not_or] at h
    have hne : ¬ Letters.Same e.1 name := fun k => h.1 (Eq.symm k)
    rw [put, if_neg hne, ih h.2, List.cons_append]

/-- Pairs whose names differ from one another and from those that are there are put at the end. -/
theorem entries_foldl_insert : ∀ (pairs : List (String × String)) (options : Options),
    (folded (options.entries ++ pairs)).Nodup →
      (pairs.foldl (fun o p => o.insert p.1 p.2) options).entries = options.entries ++ pairs
  | [], options, _ => (List.append_nil _).symm
  | p :: rest, options, h => by
    have hnot : Letters.fold p.1 ∉ folded options.entries := by
      rw [folded, List.map_append, List.nodup_append] at h
      exact fun hmem => h.2.2 _ hmem _ (List.mem_cons_self) rfl
    have hput : (options.insert p.1 p.2).entries = options.entries ++ [p] :=
      put_of_not_mem hnot p.2
    rw [List.foldl_cons, entries_foldl_insert rest _ (by rwa [hput, List.append_assoc]), hput,
      List.append_assoc]
    rfl

/-- Options are made up again from their entries. -/
theorem ofList_entries (options : Options) : ofList options.entries = options := by
  have h : (ofList options.entries).entries = options.entries :=
    entries_foldl_insert options.entries empty options.distinct
  generalize ofList options.entries = read at h
  cases read
  cases options
  congr

/-- They are read from their fields as they are. -/
theorem ofFields_texts (options : Options) : ofFields options.texts = .ok options := by
  rw [ofFields, texts, if_pos (length_flatMap _), pairs_flatMap, ofList_entries]

/-- What holds of the texts of options holds still when one is put that it holds of. -/
theorem forall_texts_put {P : String → Prop} {name value : String} (hname : P name)
    (hvalue : P value) : ∀ {entries : List (String × String)},
      (∀ e ∈ entries, P e.1 ∧ P e.2) → ∀ e ∈ put name value entries, P e.1 ∧ P e.2
  | [], _ => List.forall_mem_singleton.2 ⟨hname, hvalue⟩
  | e :: rest, h => by
    obtain ⟨he, hrest⟩ := List.forall_mem_cons.1 h
    rw [put]
    split
    · exact List.forall_mem_cons.2 ⟨⟨he.1, hvalue⟩, hrest⟩
    · exact List.forall_mem_cons.2 ⟨he, forall_texts_put hname hvalue hrest⟩

/-- Options have no texts but those they were made of. -/
theorem forall_texts_ofFields {P : String → Prop} {fields : List String} {options : Options}
    (h : ofFields fields = .ok options) (hfields : ∀ s ∈ fields, P s) :
    ∀ s ∈ options.texts, P s := by
  have hfold : ∀ (pairs : List (String × String)) (o : Options),
      (∀ e ∈ o.entries, P e.1 ∧ P e.2) → (∀ e ∈ pairs, P e.1 ∧ P e.2) →
        ∀ e ∈ (pairs.foldl (fun o p => o.insert p.1 p.2) o).entries, P e.1 ∧ P e.2 := by
    intro pairs
    induction pairs with
    | nil => exact fun o ho _ => ho
    | cons p rest ih =>
      intro o ho hp
      obtain ⟨hp, hrest⟩ := List.forall_mem_cons.1 hp
      exact ih _ (forall_texts_put hp.1 hp.2 ho) hrest
  have hpairs : ∀ e ∈ pairs fields, P e.1 ∧ P e.2 := by
    clear h
    fun_induction pairs fields with
    | case1 name value rest ih =>
      simp only [List.forall_mem_cons] at hfields
      exact List.forall_mem_cons.2 ⟨⟨hfields.1, hfields.2.1⟩, ih hfields.2.2⟩
    | case2 => exact fun e he => absurd he List.not_mem_nil
  unfold ofFields at h
  split at h
  · obtain rfl := Except.ok.inj h
    intro s hs
    obtain ⟨e, he, hse⟩ := List.mem_flatMap.1 hs
    obtain ⟨h₁, h₂⟩ := hfold _ empty (fun e he => absurd he List.not_mem_nil) hpairs e he
    simp only [List.mem_cons, List.not_mem_nil, or_false] at hse
    rcases hse with rfl | rfl
    · exact h₁
    · exact h₂
  · exact nomatch h

end Options

namespace Packet

/-- Every text in a packet. -/
def texts : Packet → List String
  | request _ filename mode options => filename :: mode :: options.texts
  | error _ message => [message]
  | optionAck options => options.texts
  | data .. | ack _ => []

/-- The mode of a request. -/
def mode? : Packet → Option String
  | request _ _ mode _ => some mode
  | _ => none

/-- A request is its opcode and then its fields: the name, the mode and the options. -/
theorem encode_request (direction : Direction) (filename mode : String) (options : Options) :
    (request direction filename mode options).encode =
      Word.toBytes (request direction filename mode options).opcode.code ++
        Field.join (filename :: mode :: options.texts) := by
  simp [encode, Options.encode_eq_join, Field.join]

/-- What follows an opcode, read as a packet of that kind. -/
def ofBody (o : Opcode) (body : Bytes) : Except Malformed Packet :=
  match o with
  | .readRequest => Field.split body >>= requestOfFields .read
  | .writeRequest => Field.split body >>= requestOfFields .write
  | .data => withWord .data body data
  | .ack => withWord .ack body fun block _ => .ack block
  | .error => withWord .error body fun code rest => .error code (messageOf rest)
  | .optionAck => optionAck <$> (Field.split body >>= Options.ofFields)

/-- What follows the opcode is read by its rule. -/
theorem decode_append (o : Opcode) (body : Bytes) :
    decode (Word.toBytes o.code ++ body) = ofBody o body := by
  rw [Word.toBytes, List.cons_append, List.cons_append, List.nil_append, decode]
  simp only [Word.ofBytes_high_low, Opcode.ofCode?_code]
  cases o with
  | optionAck => rw [ofBody, map_eq_pure_bind, bind_assoc]
  | _ => rfl

/-- A word that was written is read, and what follows it is left. -/
theorem withWord_toBytes (kind : Opcode) (word : UInt16) (rest : Bytes)
    (k : UInt16 → Bytes → Packet) :
    withWord kind (Word.toBytes word ++ rest) k = .ok (k word rest) := by
  rw [Word.toBytes, List.cons_append, List.cons_append, List.nil_append, withWord,
    Word.ofBytes_high_low]

/-- A packet has the opcode by whose rule it was read. -/
theorem opcode_ofBody {o : Opcode} {body : Bytes} {packet : Packet}
    (h : ofBody o body = .ok packet) :
    packet.opcode = o := by
  have hword : ∀ kind k, (∀ word rest, (k word rest).opcode = kind) →
      withWord kind body k = .ok packet → packet.opcode = kind := by
    intro kind k hk h
    unfold withWord at h
    split at h
    · exact Except.ok.inj h ▸ hk _ _
    · exact nomatch h
  have hrequest : ∀ {direction}, Field.split body >>= requestOfFields direction = .ok packet →
      ∃ filename mode options, packet = .request direction filename mode options := by
    intro direction h
    cases hsplit : Field.split body with
    | error m => exact nomatch hsplit ▸ h
    | ok fields =>
      rw [hsplit] at h
      change requestOfFields direction fields = .ok packet at h
      unfold requestOfFields at h
      split at h
      · exact nomatch h
      · exact nomatch h
      · next filename mode rest =>
        cases hoptions : Options.ofFields rest with
        | error m => exact nomatch hoptions ▸ h
        | ok options =>
          rw [hoptions] at h
          exact ⟨filename, _, options, (Except.ok.inj h).symm⟩
  cases o with
  | readRequest =>
    obtain ⟨filename, mode, options, rfl⟩ := hrequest h
    rfl
  | writeRequest =>
    obtain ⟨filename, mode, options, rfl⟩ := hrequest h
    rfl
  | data => exact hword .data data (fun _ _ => rfl) h
  | ack => exact hword .ack (fun block _ => .ack block) (fun _ _ => rfl) h
  | error => exact hword .error (fun code rest => .error code (messageOf rest)) (fun _ _ => rfl) h
  | optionAck =>
    unfold ofBody at h
    cases hoptions : Field.split body >>= Options.ofFields with
    | error m => exact nomatch hoptions ▸ h
    | ok options =>
      rw [hoptions] at h
      exact Except.ok.inj h ▸ rfl

/-- Of a datagram that is cut short the kind is read all the same. -/
theorem opcode_decode_take {p packet : Packet} {most : Nat} (hmost : 2 ≤ most)
    (h : decode (p.encode.take most) = .ok packet) : packet.opcode = p.opcode := by
  obtain ⟨body, hbody⟩ : ∃ body, p.encode = Word.toBytes p.opcode.code ++ body := ⟨_, rfl⟩
  rw [hbody, List.take_append, List.take_of_length_le (by exact hmost), decode_append] at h
  exact opcode_ofBody h

/-- A block is read as it was written, whatever it holds. -/
theorem decode_encode_data (block : UInt16) (payload : Bytes) :
    decode (data block payload).encode = .ok (data block payload) := by
  rw [encode, opcode, decode_append]
  exact withWord_toBytes .data block payload _

/-- So is an acknowledgement. -/
theorem decode_encode_ack (block : UInt16) : decode (ack block).encode = .ok (ack block) := by
  rw [encode, opcode, decode_append, ← List.append_nil (Word.toBytes block), ofBody,
    withWord_toBytes]

/-- A message is read up to the first null character in it. -/
theorem messageOf_encode (message : String) :
    messageOf (Field.encode message) = .ofList (message.toList.takeWhile (· ≠ '\x00')) := by
  have h := Utf8.takeWhile_encode message.toList []
  rw [String.ofList_toList] at h
  rw [messageOf, Field.encode, h, Utf8.repair_encode]

/-- The message of an error is read up to its first NUL. -/
theorem decode_encode_error (code : UInt16) (message : String) :
    decode (error code message).encode =
      .ok (error code (.ofList (message.toList.takeWhile (· ≠ '\x00')))) := by
  rw [encode, opcode, decode_append, ofBody, withWord_toBytes, messageOf_encode]

/-- To read a request that was written is to read its fields. -/
theorem decode_encode_request (direction : Direction) (filename mode : String) (options : Options) :
    decode (request direction filename mode options).encode =
      Field.split (Field.join (filename :: mode :: options.texts)) >>=
        requestOfFields direction := by
  rw [encode_request, decode_append]
  cases direction <;> rfl

/-- It is the same with a grant. -/
theorem decode_encode_optionAck (options : Options) :
    decode (optionAck options).encode =
      optionAck <$> (Field.split (Field.join options.texts) >>= Options.ofFields) := by
  rw [encode, opcode, decode_append, ofBody, Options.encode_eq_join]

/-- A packet whose texts hold no null characters, and whose mode is written small, is read as it was
written. -/
theorem decode_encode {p : Packet} (htexts : ∀ s ∈ p.texts, '\x00' ∉ s.toList)
    (hmode : ∀ mode ∈ p.mode?, Letters.fold mode = mode) : decode p.encode = .ok p := by
  cases p with
  | request direction filename mode options =>
    have hsplit := Field.split_join_of_clean htexts
    rw [texts] at hsplit
    simp only [decode_encode_request, hsplit, requestOfFields, bind, Except.bind,
      Options.ofFields_texts, hmode mode rfl]
    rfl
  | data block payload => exact decode_encode_data block payload
  | ack block => exact decode_encode_ack block
  | error code message =>
    have hne : ∀ c ∈ message.toList, decide (c ≠ '\x00') = true := fun c hc =>
      decide_eq_true fun e => htexts message (List.mem_singleton_self _) (e ▸ hc)
    rw [decode_encode_error, List.takeWhile_eq_self_iff.2 hne, String.ofList_toList]
  | optionAck options =>
    have hsplit := Field.split_join_of_clean htexts
    rw [texts] at hsplit
    rw [decode_encode_optionAck, hsplit]
    exact congrArg (optionAck <$> ·) (Options.ofFields_texts options)

/-- A request that is read has no NUL in it, and its mode is in lower case. -/
theorem clean_of_requestOfFields {direction : Direction} {fields : List String} {p : Packet}
    (hfields : ∀ s ∈ fields, '\x00' ∉ s.toList) (h : requestOfFields direction fields = .ok p) :
    (∀ s ∈ p.texts, '\x00' ∉ s.toList) ∧ ∀ mode ∈ p.mode?, Letters.fold mode = mode := by
  match fields, h with
  | filename :: mode :: rest, h =>
    obtain ⟨hfilename, hmode, hrest⟩ : _ ∧ _ ∧ _ := by
      simpa only [List.forall_mem_cons] using hfields
    simp only [requestOfFields, bind, Except.bind] at h
    split at h
    · exact nomatch h
    · next options hoptions =>
      obtain rfl := Except.ok.inj h
      have hoptions := Options.forall_texts_ofFields hoptions hrest
      refine ⟨List.forall_mem_cons.2 ⟨hfilename, List.forall_mem_cons.2
        ⟨Letters.nul_not_mem_fold hmode, hoptions⟩⟩, ?_⟩
      rintro _ ⟨⟩
      exact Letters.fold_fold mode

/-- Options that are read have no NUL in them. -/
theorem clean_of_optionAck {body : Bytes} {options : Options}
    (h : optionAck <$> (Field.split body >>= Options.ofFields) = .ok (optionAck options)) :
    ∀ s ∈ options.texts, '\x00' ∉ s.toList := by
  cases hsplit : Field.split body with
  | error m => exact nomatch hsplit ▸ h
  | ok fields =>
    rw [hsplit] at h
    change optionAck <$> Options.ofFields fields = .ok (optionAck options) at h
    cases hoptions : Options.ofFields fields with
    | error m => exact nomatch hoptions ▸ h
    | ok read =>
      rw [hoptions] at h
      obtain rfl := optionAck.inj (Except.ok.inj h)
      exact Options.forall_texts_ofFields hoptions (Field.split_clean hsplit)

/-- A packet that is read back from its datagram has no NUL in it, and its mode is in lower
case. -/
theorem clean_of_decode_encode {p : Packet} (h : decode p.encode = .ok p) :
    (∀ s ∈ p.texts, '\x00' ∉ s.toList) ∧ ∀ mode ∈ p.mode?, Letters.fold mode = mode := by
  cases p with
  | request direction filename mode options =>
    rw [decode_encode_request] at h
    cases hsplit : Field.split (Field.join (filename :: mode :: options.texts)) with
    | error m => exact nomatch hsplit ▸ h
    | ok fields => exact clean_of_requestOfFields (Field.split_clean hsplit) (hsplit ▸ h)
  | data block payload => exact ⟨fun _ hs => absurd hs List.not_mem_nil, fun _ hm => nomatch hm⟩
  | ack block => exact ⟨fun _ hs => absurd hs List.not_mem_nil, fun _ hm => nomatch hm⟩
  | error code message =>
    refine ⟨List.forall_mem_singleton.2 fun hnul => ?_, fun _ hm => nomatch hm⟩
    rw [decode_encode_error, Except.ok.injEq, error.injEq] at h
    rw [← h.2, String.toList_ofList] at hnul
    have hne := List.mem_takeWhile_imp hnul
    exact of_decide_eq_true hne rfl
  | optionAck options =>
    rw [decode_encode_optionAck] at h
    exact ⟨clean_of_optionAck h, fun _ hm => nomatch hm⟩

/-- **The round trip.**  A packet is read back from its datagram exactly when none of its texts
has a NUL and its mode, if it is a request, has no letter of the upper case.  Blocks and
acknowledgements always are. -/
theorem decode_encode_iff (p : Packet) :
    (decode p.encode = .ok p ↔
      (∀ s ∈ p.texts, '\x00' ∉ s.toList) ∧
        ∀ mode ∈ p.mode?, ∀ c ∈ mode.toList, c.isUpper = false) ∧
    (∀ block payload, decode (data block payload).encode = .ok (data block payload)) ∧
    ∀ block, decode (ack block).encode = .ok (ack block) := by
  refine ⟨⟨?_, ?_⟩, decode_encode_data, decode_encode_ack⟩
  · intro h
    obtain ⟨htexts, hmode⟩ := clean_of_decode_encode h
    exact ⟨htexts, fun mode hm => (Letters.fold_eq_self_iff mode).1 (hmode mode hm)⟩
  · rintro ⟨htexts, hmode⟩
    exact decode_encode htexts fun mode hm => (Letters.fold_eq_self_iff mode).2 (hmode mode hm)

end Packet

end TrivialFtp
