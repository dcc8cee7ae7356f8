import TrivialFtp.Storage.Stream

/-!
# Proofs: files and their blocks

Which part of a host a stream can change, what a sender reads from its stream, and what a
receiver's file holds, when every block but the last is full.

- `take_append_blockAt`: the blocks before a place make up the content before it.
- `length_blockAt_lt_iff`: only the last block is short.
- `Stream.HasLeft.read`: reading gives one block after the other.
- `Target.Roomy.write`: writing puts bytes at the end.
-/

namespace TrivialFtp

/-- Two hosts with the same files and the same output. -/
structure Host.SameFiles (host host' : Host) : Prop where
  store : host'.store = host.store
  output : host'.output = host.output

theorem Host.SameFiles.refl (host : Host) : host.SameFiles host := ⟨rfl, rfl⟩

theorem Host.SameFiles.trans {a b c : Host} (h : a.SameFiles b) (h' : b.SameFiles c) :
    a.SameFiles c :=
  ⟨h'.store.trans h.store, h'.output.trans h.output⟩

/-- To write changes the files of a host and nothing else of it. -/
theorem Stream.write_host {stream : Stream} {host host' : Host} {bytes : Bytes}
    {fault : Option Fault} (h : stream.write host bytes = (fault, host')) :
    host' = { host with store := host'.store, output := host'.output } := by
  obtain ⟨-, rfl⟩ := Prod.mk.inj h
  match stream with
  | .writing (.file _) | .writing .output | .reading _ _ | .closed => rfl

/-- A file that is made is written to from its beginning, and the rest of the host stays. -/
theorem Stream.create_host {host host' : Host} {path : String} {stream : Stream}
    (h : Stream.create host path = .ok (stream, host')) :
    stream = .writing (.file path) ∧ ∃ store, host.store.create path = .ok store ∧
      host' = { host with store } := by
  unfold Stream.create at h
  cases hstore : host.store.create path with
  | error f =>
    rw [hstore] at h
    exact nomatch h
  | ok store =>
    rw [hstore] at h
    obtain ⟨rfl, rfl⟩ := Prod.mk.inj (Except.ok.inj h)
    exact ⟨rfl, store, rfl, rfl⟩

/-- A file is not made for the reason that its store has. -/
theorem Stream.create_error {host : Host} {path : String} {f : Fault}
    (h : Stream.create host path = .error f) : host.store.create path = .error f := by
  unfold Stream.create at h
  cases hstore : host.store.create path with
  | error f' =>
    rw [hstore] at h
    exact congrArg Except.error (Except.error.inj h)
  | ok store =>
    rw [hstore] at h
    exact nomatch h

/-- What can be opened can be looked at. -/
theorem Store.look_of_openNode {store : Store} {path : String} {node : Node}
    (h : store.openNode path = .ok node) : store.look path = .ok node := by
  unfold Store.openNode at h
  cases hlook : store.look path with
  | error f => exact nomatch hlook ▸ h
  | ok found =>
    rw [hlook] at h
    dsimp only [bind, Except.bind] at h
    split at h
    · exact nomatch h
    · exact h

/-- What is opened is what is seen. -/
theorem Store.openNode_ok {store : Store} {path : String} {node opened : Node}
    (hlook : store.look path = .ok node) (hopen : store.openNode path = .ok opened) :
    opened = node :=
  Except.ok.inj ((look_of_openNode hopen).symm.trans hlook)

/-- What is seen is there. -/
theorem Store.find?_of_look {store : Store} {path : String} {node : Node}
    (h : store.look path = .ok node) : store.find? path = some node := by
  unfold Store.look at h
  split at h
  · exact nomatch h
  · split at h
    · exact nomatch h
    · next hfind =>
      split at h
      · exact nomatch h
      · exact hfind.trans (congrArg some (Except.ok.inj h))

/-- A file that is made is empty, whatever was there before. -/
theorem Store.create_ok {store made : Store} {path : String} (h : store.create path = .ok made) :
    made = store.set path { (store.find? path).getD {} with content := [] } := by
  unfold Store.create at h
  split at h
  · exact nomatch h
  · split at h
    · next hfind =>
      rw [hfind]
      exact (Except.ok.inj h).symm
    · cases hopen : store.openNode path with
      | error f => exact nomatch hopen ▸ h
      | ok node =>
        rw [hopen] at h
        change (if node.isDirectory then _ else _) = _ at h
        split at h
        · exact nomatch h
        · rw [Store.find?_of_look (Store.look_of_openNode hopen)]
          exact (Except.ok.inj h).symm

/-! ### Reading -/

namespace Node

/-- A read that is not held back to nothing gives something. -/
theorem limit_ne_zero {node : Node} (hchunk : node.chunk ≠ some 0) : node.limit ≠ some 0 := by
  unfold limit
  cases node.pieces with
  | nil => exact hchunk
  | cons piece _ => exact fun h => Nat.ne_of_gt piece.2 (Option.some.inj h)

/-- A read gives something unless there is nothing left, if the node gives anything at all. -/
theorem read_nil {node : Node} {most : Nat} (hchunk : node.chunk ≠ some 0) (hmost : 0 < most)
    (h : node.read most = .ok []) : node.content = [] := by
  have hspan : 0 < node.span most := by
    have hwithin : ∀ (limit : Option Nat) (n : Nat), limit ≠ some 0 → 0 < n →
        0 < span.within limit n := by
      intro limit n hlimit hn
      cases limit with
      | none => exact hn
      | some l => exact Nat.lt_min.2 ⟨hn, Nat.pos_of_ne_zero fun hl => hlimit (congrArg some hl)⟩
    unfold read at h
    split at h
    · exact nomatch h
    · exact nomatch h
    · next hfault hcrash =>
      refine hwithin _ _ (limit_ne_zero hchunk) (hwithin _ _ (fun he => ?_)
        (hwithin _ _ hcrash hmost))
      obtain ⟨⟨distance, f⟩, hread, hzero⟩ := Option.map_eq_some_iff.1 he
      obtain rfl : distance = 0 := hzero
      exact hfault f hread
  have htake := (read_eq_take h).symm
  rw [List.take_eq_nil_iff] at htake
  exact htake.resolve_left (Nat.ne_of_gt hspan)

/-- Reading on until enough is there gives the beginning of the node and leaves the rest. -/
theorem go_eq_take {reads : Nat} : ∀ {node rest : Node} {most : Nat} {bytes : Bytes},
    node.chunk ≠ some 0 → most ≤ reads → fill.go reads node most = (.ok bytes, rest) →
      bytes = node.content.take most ∧ rest.content = node.content.drop most ∧
        rest.chunk = node.chunk := by
  induction reads with
  | zero =>
    intro node rest most bytes _ hreads h
    obtain rfl := Nat.le_zero.1 hreads
    obtain ⟨hbytes, rfl⟩ := Prod.mk.inj h
    exact ⟨(Except.ok.inj hbytes).symm, rfl, rfl⟩
  | succ reads ih =>
    intro node rest most bytes hchunk hreads h
    cases most with
    | zero =>
      obtain ⟨hbytes, rfl⟩ := Prod.mk.inj h
      exact ⟨(Except.ok.inj hbytes).symm, rfl, rfl⟩
    | succ most =>
      unfold fill.go at h
      split at h
      · exact nomatch (Prod.mk.inj h).1
      · next hread =>
        obtain ⟨hbytes, rfl⟩ := Prod.mk.inj h
        have hcontent := read_nil hchunk (Nat.succ_pos most) hread
        rw [hcontent, ← Except.ok.inj hbytes]
        exact ⟨List.take_nil.symm, List.drop_nil.symm, rfl⟩
      · next first hne hread =>
        -- One read gives the beginning of what is wanted, and the reads to come the rest of it.
        have hle := read_length_le hread
        have hpos : 0 < first.length := List.length_pos_iff.2 fun he => hne (he ▸ rfl)
        have hsplit := read_append_drop hread
        cases hgo : fill.go reads (node.drop first.length) (most + 1 - first.length) with
        | mk result rest' =>
          rw [hgo] at h
          obtain ⟨hbytes, rfl⟩ := Prod.mk.inj h
          cases result with
          | error m => exact nomatch hbytes
          | ok more =>
            obtain rfl := Except.ok.inj hbytes
            obtain ⟨rfl, hrest, hchunk'⟩ := ih (by exact hchunk) (by omega) hgo
            refine ⟨?_, ?_, hchunk'⟩
            · rw [← hsplit, List.take_append, List.take_of_length_le hle]
            · rw [hrest, ← hsplit, List.drop_append, List.drop_of_length_le hle]
              simp [Node.drop]

/-- A node without faults can be read. -/
theorem go_ok {reads : Nat} : ∀ {node : Node} {most : Nat}, node.readFault = none →
    node.readCrash = none → ∃ bytes rest, fill.go reads node most = (.ok bytes, rest) ∧
      rest.readFault = none ∧ rest.readCrash = none := by
  induction reads with
  | zero => exact fun hfault hcrash => ⟨_, _, rfl, hfault, hcrash⟩
  | succ reads ih =>
    intro node most hfault hcrash
    cases most with
    | zero => exact ⟨_, _, rfl, hfault, hcrash⟩
    | succ most =>
      have hread : node.read (most + 1) = .ok (node.content.take (node.span (most + 1))) := by
        unfold read
        rw [hfault, hcrash]
      unfold fill.go
      split
      · next m hm => exact nomatch hread.symm.trans hm
      · exact ⟨_, _, rfl, hfault, hcrash⟩
      · next first hne hfirst =>
        obtain ⟨more, rest, hgo, hrest⟩ := @ih (node.drop first.length) (most + 1 - first.length)
          (by rw [drop, hfault]; rfl) (by rw [drop, hcrash]; rfl)
        exact ⟨_, rest, by rw [hgo]; rfl, hrest⟩

/-- However many reads fill a block, they give no more than it holds. -/
theorem go_length_le {reads : Nat} : ∀ {node rest : Node} {most : Nat} {bytes : Bytes},
    fill.go reads node most = (.ok bytes, rest) → bytes.length ≤ most := by
  induction reads with
  | zero =>
    intro node rest most bytes h
    rw [← Except.ok.inj (Prod.mk.inj h).1]
    exact Nat.zero_le most
  | succ reads ih =>
    intro node rest most bytes h
    cases most with
    | zero =>
      rw [← Except.ok.inj (Prod.mk.inj h).1]
      exact Nat.le_refl 0
    | succ most =>
      unfold fill.go at h
      split at h
      · exact nomatch (Prod.mk.inj h).1
      · rw [← Except.ok.inj (Prod.mk.inj h).1]
        exact Nat.zero_le _
      · next first _ hread =>
        have hle := read_length_le hread
        cases hgo : fill.go reads (node.drop first.length) (most + 1 - first.length) with
        | mk result rest' =>
          rw [hgo] at h
          cases result with
          | error m => exact nomatch (Prod.mk.inj h).1
          | ok more =>
            have hmore := ih hgo
            rw [← Except.ok.inj (Prod.mk.inj h).1, List.length_append]
            omega

end Node

/-! ### Blocks -/

/-- A block of a content, counted from 0. -/
def blockAt (content : Bytes) (size i : Nat) : Bytes := (content.drop (i * size)).take size

/-- The number of blocks of a content.  The last one is short, and empty if need be. -/
def blockCount (content : Bytes) (size : Nat) : Nat := content.length / size + 1

section Blocks

variable {content : Bytes} {size i : Nat}

/-- The blocks before a block and the block itself are the blocks before the next. -/
theorem take_append_blockAt :
    content.take (i * size) ++ blockAt content size i = content.take ((i + 1) * size) := by
  rw [blockAt, Nat.succ_mul, List.take_add]

/-- The last block is the only short one, if need be an empty one. -/
theorem length_blockAt_lt_iff (hsize : 0 < size) (hi : i < blockCount content size) :
    (blockAt content size i).length < size ↔ i + 1 = blockCount content size := by
  have hmul : i * size ≤ content.length :=
    Nat.le_trans (Nat.mul_le_mul_right size (Nat.le_of_lt_succ hi)) (Nat.div_mul_le_self ..)
  have hshort : content.length < i * size + size ↔ content.length / size ≤ i := by
    rw [← Nat.succ_mul, ← Nat.div_lt_iff_lt_mul hsize, Nat.lt_succ_iff]
  rw [blockAt, List.length_take, List.length_drop]
  unfold blockCount at hi ⊢
  omega

/-- No block is longer than the size of a block. -/
theorem length_blockAt_le : (blockAt content size i).length ≤ size := List.length_take_le ..

/-- All blocks together are the content. -/
theorem take_blockCount (hsize : 0 < size) :
    content.take (blockCount content size * size) = content := by
  refine List.take_of_length_le ?_
  have hlt : content.length / size < blockCount content size := Nat.lt_succ_self _
  exact Nat.le_of_lt ((Nat.div_lt_iff_lt_mul hsize).1 hlt)

end Blocks

namespace Stream

/-- The stream reads a content of which so many bytes are already read. -/
inductive HasLeft (content : Bytes) (position : Nat) : Stream → Prop where
  | reading {origin : Origin} {rest : Node} (hcontent : rest.content = content.drop position)
      (hchunk : rest.chunk ≠ some 0) : HasLeft content position (.reading origin rest)

/-- A stream that is read from is closed without a fault. -/
theorem HasLeft.closeFault {content : Bytes} {position : Nat} {stream : Stream}
    (h : HasLeft content position stream) (host : Host) : stream.closeFault host = none := by
  cases h with
  | reading => rfl

/-- No block is longer than it was asked for. -/
theorem length_le_of_read {stream stream' : Stream} {size : Nat} {payload : Bytes}
    (h : stream.read size = (.ok payload, stream')) : payload.length ≤ size := by
  match stream with
  | .reading _ _ => exact Node.go_length_le (Prod.ext (Prod.mk.inj h).1 rfl)
  | .writing _ | .closed => exact nomatch (Prod.mk.inj h).1

/-- The stream will not fail. -/
inductive IsSound : Stream → Prop where
  | reading {origin : Origin} {rest : Node} (hfault : rest.readFault = none)
      (hcrash : rest.readCrash = none) : IsSound (.reading origin rest)

/-- What is read next is the next block, and what is left then begins after it. -/
theorem HasLeft.read {content : Bytes} {size i : Nat} {stream stream' : Stream} {payload : Bytes}
    (h : HasLeft content (i * size) stream) (hread : stream.read size = (.ok payload, stream')) :
    payload = blockAt content size i ∧ HasLeft content ((i + 1) * size) stream' := by
  cases h with
  | @reading origin rest hcontent hchunk =>
    obtain ⟨hresult, rfl⟩ := Prod.mk.inj hread
    obtain ⟨hpayload, hrest, hchunk'⟩ :=
      Node.go_eq_take hchunk (Nat.le_refl size) (Prod.ext hresult rfl)
    refine ⟨by rw [hpayload, hcontent]; rfl, .reading ?_ (hchunk' ▸ hchunk)⟩
    rw [hrest, hcontent, List.drop_drop, Nat.succ_mul]

/-- A sound stream can be read from to its end. -/
theorem IsSound.read {stream : Stream} (h : stream.IsSound) (size : Nat) :
    ∃ payload stream', stream.read size = (.ok payload, stream') ∧ stream'.IsSound := by
  cases h with
  | @reading origin rest hfault hcrash =>
    obtain ⟨payload, rest', hgo, hfault', hcrash'⟩ := @Node.go_ok size rest size hfault hcrash
    refine ⟨payload, .reading origin rest', ?_, .reading hfault' hcrash'⟩
    change ((Node.fill.go size rest size).1,
      Stream.reading origin (Node.fill.go size rest size).2) = _
    rw [hgo]

end Stream

namespace Target

/-- What a target holds. -/
def held (host : Host) : Target → Bytes
  | file path => ((host.store.find? path).getD {}).content
  | output => host.output

/-- A target takes all that is written to it. -/
def Roomy (host : Host) : Target → Prop
  | file path => ((host.store.find? path).getD {}).capacity = none
  | output => True

variable {host host' : Host} {target : Target}

/-- What a target holds depends on the files alone. -/
theorem held_congr (h : host.SameFiles host') : target.held host' = target.held host := by
  cases target with
  | file path => rw [held, h.store, held]
  | output => exact h.output

/-- So does whether there is room for more. -/
theorem Roomy.congr (h : target.Roomy host) (hsame : host.SameFiles host') :
    target.Roomy host' := by
  cases target with
  | file path => rwa [Roomy, hsame.store]
  | output => trivial

/-- A file made anew holds nothing, and is otherwise what it was. -/
theorem Roomy.create {path : String} {store : Store} (h : (file path).Roomy host)
    (hcreate : host.store.create path = .ok store) :
    (file path).Roomy { host with store } ∧ (file path).held { host with store } = [] := by
  obtain rfl := Store.create_ok hcreate
  constructor
  · change (((host.store.set path _).find? path).getD {}).capacity = none
    rw [Store.find?_set, if_pos rfl]
    exact h
  · change (((host.store.set path _).find? path).getD {}).content = []
    rw [Store.find?_set, if_pos rfl]
    rfl

/-- To make a file does not change how it will be closed. -/
theorem closeFault_create {path : String} {store : Store}
    (hcreate : host.store.create path = .ok store) :
    (Stream.writing (file path)).closeFault { host with store } =
      (Stream.writing (file path)).closeFault host := by
  obtain rfl := Store.create_ok hcreate
  change (fun node : Node => node.flushFault <|> node.closeFault)
    (((host.store.set path _).find? path).getD {}) = _
  rw [Store.find?_set, if_pos rfl]
  rfl

/-- Nothing that is written makes a file harder to close. -/
theorem closeFault_write (bytes : Bytes) :
    (Stream.writing target).closeFault ((Stream.writing target).write host bytes).2 =
      (Stream.writing target).closeFault host := by
  cases target with
  | output => rfl
  | file path =>
    have happend : ∃ content, (((host.store.find? path).getD {}).append bytes).2 =
        { (host.store.find? path).getD {} with content } := by
      unfold Node.append
      split
      · dsimp only
        split <;> exact ⟨_, rfl⟩
      · exact ⟨_, rfl⟩
    obtain ⟨content, happend⟩ := happend
    change (fun node : Node => node.flushFault <|> node.closeFault)
      (((host.store.append path bytes).2.find? path).getD {}) = _
    rw [Store.append, Store.find?_set, if_pos rfl, happend]
    rfl

/-- Writing puts all bytes at the end. -/
theorem Roomy.write (h : target.Roomy host) (bytes : Bytes) :
    ((Stream.writing target).write host bytes).1 = none ∧
      target.held ((Stream.writing target).write host bytes).2 = target.held host ++ bytes ∧
      target.Roomy ((Stream.writing target).write host bytes).2 := by
  cases target with
  | output => exact ⟨rfl, rfl, trivial⟩
  | file path =>
    change ((host.store.find? path).getD {}).capacity = none at h
    have happend : ((host.store.find? path).getD {}).append bytes =
        (none, { (host.store.find? path).getD {} with
          content := ((host.store.find? path).getD {}).content ++ bytes }) := by
      unfold Node.append
      split
      · next hcapacity => exact nomatch h.symm.trans hcapacity
      · rfl
    have hfind : ((Stream.writing (.file path)).write host bytes).2.store.find? path =
        some { (host.store.find? path).getD {} with
          content := ((host.store.find? path).getD {}).content ++ bytes } := by
      change ((host.store.append path bytes).2).find? path = _
      rw [Store.append, happend, Store.find?_set, if_pos rfl]
    refine ⟨?_, ?_, ?_⟩
    · change (host.store.append path bytes).1 = none
      rw [Store.append, happend]
    · rw [held, hfind, held]
      rfl
    · rw [Roomy, hfind]
      exact h

end Target

end TrivialFtp
