import TrivialFtp.Proofs.Blocks
import TrivialFtp.Proofs.Responses

/-!
# Proofs: a receiver against any peer

Whatever arrives at a session that takes a file, and whatever becomes of its host, what it has
written is the payloads of the blocks that it accepted, one after the other, as long as no write has
failed; it has counted their bytes, and has acknowledged no block that it had not written.

- `Session.Fills`, `Taking`: where a session puts a file, and the record of its run.
- `Spoil`, `Act.handle_spoils`: how a packet stops a receiver, and what it has done by then.
- `Scene.Gains`, `Turn.gains`: what it makes of one that does not.
- `Scene.Holds`, `Session.Receives`: what was written, counted and acknowledged.
- `Taking.writes_each_block_once`: what holds of every run.
-/

namespace TrivialFtp

/-- Where a session that takes a file puts it, and what is there before the first block. -/
inductive Session.Fills (session : Session) (host : Host) : Opening → Target → Bytes → Prop where
  | download {opening : Opening} {target : Target} (hrole : session.role = .download)
      (hstream : session.stream = .writing target) :
    Fills session host opening target (target.held host)
  | serve {service : Service} {filename mode : String} {requested : Options} {source : Endpoint}
      (hrole : session.role = .serve service) :
    Fills session host (.answer (.request .write filename mode requested) source)
      (.file (Path.join service.root filename)) []

/-- The record of a session that takes a file, up to the first write that fails: what has become of
it, its host, the blocks that it accepted, and what it did at its last turn.  Between two turns its
host may become another that holds the same. -/
inductive Taking (session : Session) (opening : Opening) (target : Target) (first : Host) :
    Run → Host → List (UInt16 × Bytes) → List Deed → Prop where
  | start :
    Taking session opening target first (Run.start session opening first).1
      (Run.start session opening first).2.1 [] (Run.start session opening first).2.2
  | step {run : Run} {host host' : Host} {blocks : List (UInt16 × Bytes)} {deeds : List Deed}
      (htaking : Taking session opening target first run host blocks deeds) (arrival : Arrival)
      (hheld : target.held host' = target.held host) (hwrites : run.Writes arrival host') :
    Taking session opening target first (run.step arrival host').1 (run.step arrival host').2.1
      (blocks ++ (run.block? arrival).toList) (run.step arrival host').2.2

/-! ### Writing -/

section Writing

variable {target : Target} {host host' : Host} {payload : Bytes}

/-- What was written without a fault is there. -/
theorem Target.held_write (h : (Stream.writing target).write host payload = (none, host')) :
    target.held host' = target.held host ++ payload := by
  cases target with
  | output =>
    obtain ⟨-, rfl⟩ := Prod.mk.inj h
    rfl
  | file path =>
    obtain ⟨hfault, rfl⟩ := Prod.mk.inj h
    change (((host.store.append path payload).2.find? path).getD {}).content = _
    rw [Store.append, Store.find?_set, if_pos rfl]
    change (((host.store.find? path).getD {}).append payload).1 = none at hfault
    change (((host.store.find? path).getD {}).append payload).2.content = _
    unfold Node.append at hfault ⊢
    split at hfault
    · dsimp only at hfault
      split at hfault
      · next hroom =>
        rw [if_pos hroom]
        rfl
      · cases hfault
    · rfl

end Writing

/-! ### How a packet stops a receiver -/

/-- The numbers that a session may acknowledge without taking a block: that of a block it had
before, or 0 when it accepts an offer. -/
def Session.Confirms (s : Session) (n : UInt16) : Prop :=
  s.phase = .requested ∧ n = 0 ∨ s.phase = .awaitingData ∧ n ≠ 0 ∧ n < s.nextBlock

/-- How a packet stops a receiver. -/
inductive Spoil (scene : Scene) : Packet → Halt → Scene → Prop where
  /-- The block is not written, and not acknowledged. -/
  | unwritten {block : UInt16} {payload : Bytes} {fault : Fault} {host : Host} {scene' : Scene}
      (hexpects : scene.session.Expects block)
      (hwrite : scene.session.stream.write scene.host payload = (some fault, host))
      (hfiles : host.SameFiles scene'.host)
      (hbytes : scene'.session.tally.bytes = scene.session.tally.bytes)
      (hdeeds : scene'.deeds = scene.deeds) :
    Spoil scene (.data block payload) (.failure (.io fault)) scene'
  /-- The block is written, but the acknowledgement does not get out. -/
  | unacked {block : UInt16} {payload : Bytes} {fault : Fault} {host : Host} {d : Datagram}
      {scene' : Scene} (hexpects : scene.session.Expects block)
      (hwrite : scene.session.stream.write scene.host payload = (none, host))
      (hsend : scene.host.sendFault scene.host.sends = some fault)
      (hfiles : host.SameFiles scene'.host)
      (hbytes : scene'.session.tally.bytes = scene.session.tally.bytes + payload.length)
      (hd : d.bytes = (Packet.ack block).encode)
      (hdeeds : scene'.deeds = scene.deeds ++ [.unsent d fault]) :
    Spoil scene (.data block payload) (.failure (.io fault)) scene'
  /-- It is not a block to be written. -/
  | refused {packet : Packet} {halt : Halt} {scene' : Scene}
      (hother : ∀ block payload, packet = .data block payload → ¬ scene.session.Expects block)
      (hfiles : scene.host.SameFiles scene'.host)
      (hbytes : scene'.session.tally.bytes = scene.session.tally.bytes)
      (hacks : ∀ n ∈ World.acks scene'.deeds, n ∈ World.acks scene.deeds ∨
        scene.session.Confirms n) :
    Spoil scene packet halt scene'

section Spoil

variable {base scene scene' : Scene} {session : Session} {packet : Packet} {block : UInt16}
  {payload : Bytes}

/-- An acknowledgement is short, so only the host can keep it from being sent. -/
theorem Host.transmit_ack {host : Host} {d : Datagram} {n : UInt16}
    (hd : d.bytes = (Packet.ack n).encode) :
    (host.transmit d).1 = host.sendFault host.sends := by
  have hshort : ¬ longestDatagram < d.bytes.length := by
    rw [hd]
    change ¬ longestDatagram < 4
    decide
  unfold transmit
  dsimp only
  split
  · next hfault => exact hfault.symm
  · next hfault => rw [if_neg hshort, hfault]

namespace Act

theorem fail_spoils {α : Type} {f : Failure} {s : Session}
    (hother : ∀ block payload, packet = .data block payload → ¬ base.session.Expects block)
    (hbytes : s.tally.bytes = base.session.tally.bytes) :
    (fail f : Act α).Ends (base.become s) (fun _ _ => True) (Spoil base packet) :=
  ends_fail (.refused hother (.refl _) hbytes fun _ => .inl)

/-- Receiving a block, in a session whose stream and counts are those of the one that the packet
found. -/
theorem receiveData_spoils (hstream : session.stream = base.session.stream)
    (htally : session.tally = base.session.tally)
    (hexpects : base.session.Expects block ↔ block = session.nextBlock)
    (hold : block ≠ 0 → block < session.nextBlock → base.session.Confirms block) :
    (receiveData block payload).Ends (base.become session) (fun _ _ => True)
      (Spoil base (.data block payload)) := by
  have hother : block ≠ session.nextBlock → ∀ block' payload',
      Packet.data block payload = .data block' payload' → ¬ base.session.Expects block' := by
    rintro hne _ _ ⟨⟩ h
    exact hne (hexpects.1 h)
  have hbytes : session.tally.bytes = base.session.tally.bytes := congrArg Tally.bytes htally
  refine Ends.bind ?_
  change Ends (ite (block = session.nextBlock) _ _) _ _ _
  split
  · next hnext =>
    have hexpected := hexpects.2 hnext
    refine Ends.bind (ends_writeBlock (fun host hwrite => ?_) (fun f host hwrite => ?_))
    all_goals
      change session.stream.write base.host payload = _ at hwrite
      rw [hstream] at hwrite
    · refine Ends.bind (Ends.bind (ends_send (fun _ => trivial) fun f hsend => ?_))
      rw [Host.transmit_ack rfl, Stream.write_host hwrite] at hsend
      refine .unacked hexpected hwrite hsend ⟨rfl, rfl⟩ ?_ rfl rfl
      exact congrArg (· + payload.length) hbytes
    · exact .unwritten hexpected hwrite (.refl _) hbytes rfl
  · next hne =>
    split
    · next hlt =>
      change Ends (ite (block = 0) (fail _ >>= _) (noteDuplicate block >>= _)) _ _ _
      split
      · exact Ends.bind (ends_fail (.refused (hother hne) (.refl _) hbytes fun _ => .inl))
      · next hzero =>
        refine Ends.bind (ends_noteDuplicate (fun _ => ?_) fun _ => ?_)
        · refine Ends.bind (ends_transmit (fun _ => trivial) fun f _ => ?_)
          refine .refused (hother hne) ⟨rfl, rfl⟩ hbytes fun n hn => ?_
          refine (World.mem_acks_deed rfl rfl hn).imp id fun h => ?_
          exact Packet.ack.inj h ▸ hold hzero hlt
        · exact .refused (hother hne) (.refl _) hbytes fun _ => .inl
    · exact fail_spoils (hother hne) hbytes

/-- What a download makes of the first answer. -/
theorem replyToRead_spoils (packet : Packet) (source : Endpoint)
    (hphase : base.session.phase = .requested) (hrole : base.session.role = .download) :
    (replyToRead packet source).Ends base (fun _ _ => True) (Spoil base packet) := by
  have hexpects : ∀ {block}, base.session.Expects block ↔ block = 1 := by
    intro block
    refine ⟨fun h => ?_, fun h => .inr ⟨hphase, hrole, h⟩⟩
    rcases h with ⟨hdata, -⟩ | ⟨-, -, h⟩
    · exact nomatch hphase.symm.trans hdata
    · exact h
  refine ends_update ?_
  match packet with
  | .optionAck granted =>
    refine Ends.bind (ends_adopt (fun terms _ => ?_) fun _ => ?_)
    · refine Ends.bind (ends_send (fun _ => trivial) fun f _ => ?_)
      refine .refused nofun ⟨rfl, rfl⟩ rfl fun n hn => ?_
      refine (World.mem_acks_deed rfl rfl hn).imp id fun h => .inl ⟨hphase, ?_⟩
      exact (Packet.ack.inj h).symm
    · exact .refused nofun (.refl _) rfl fun _ => .inl
  | .data block payload =>
    change (receiveData block payload).Ends (base.become (base.session.settled source.port {})) _ _
    refine receiveData_spoils rfl rfl hexpects fun hzero hlt => ?_
    exact absurd (UInt16.toNat_inj.1 (Nat.lt_one_iff.1 hlt) : block = 0) hzero
  | .ack _ | .request _ _ _ _ | .error _ _ => exact fail_spoils nofun rfl

/-- **How a packet stops a receiver.**  A block that is not written is not acknowledged, and what
else stops the session leaves its file as it was. -/
theorem handle_spoils (packet : Packet) (source : Endpoint)
    (hreceives : base.session.phase = .awaitingData ∨
      base.session.phase = .requested ∧ base.session.role = .download) :
    (handle packet source).Ends base (fun _ _ => True) (Spoil base packet) := by
  unfold handle
  refine ends_session ?_
  split
  · exact fail_spoils nofun rfl
  rcases hreceives with hphase | ⟨hphase, hrole⟩
  · rw [hphase]
    dsimp only
    split
    · change (receiveData _ _).Ends (base.become base.session) _ _
      refine receiveData_spoils rfl rfl ⟨fun h => ?_, fun h => ?_⟩ ?_
      · rcases h with ⟨-, h⟩ | ⟨hrequested, -⟩
        · exact h
        · exact nomatch hphase.symm.trans hrequested
      · exact .inl ⟨hphase, h⟩
      · exact fun hzero hlt => .inr ⟨hphase, hzero, hlt⟩
    · next hother => exact fail_spoils (fun block payload h => absurd h (hother block payload)) rfl
  · rw [hphase, hrole]
    exact replyToRead_spoils packet source hphase hrole

end Act

end Spoil

/-! ### One turn -/

/-- What a receiver has written, counted and acknowledged when it has accepted some blocks. -/
structure Scene.Holds (target : Target) (base : Bytes) (blocks : List (UInt16 × Bytes))
    (scene : Scene) : Prop where
  held : target.held scene.host = base ++ contentOf blocks
  bytes : scene.session.tally.bytes = (contentOf blocks).length
  acks : ∀ n ∈ World.acks scene.deeds, Recent blocks.length n

/-- A session that has accepted some blocks waits for the next one. -/
structure Session.Receives (target : Target) (blocks : List (UInt16 × Bytes)) (s : Session) :
    Prop where
  stands : s.phase = .requested ∧ s.role = .download ∧ blocks = [] ∨
    s.phase = .awaitingData ∧ s.nextBlock = .ofNat (blocks.length + 1)
  stream : s.stream = .writing target
  last : ∀ n, s.lastSent = some (.ack n) → Recent blocks.length n
  full : ∀ b ∈ blocks, s.blockSize ≤ b.2.length

/-- What a receiver makes of a packet that does not stop it. -/
inductive Scene.Gains (target : Target) (base : Bytes) (blocks : List (UInt16 × Bytes))
    (scene : Scene) : Packet → Scene → Prop where
  /-- It accepts a block: the payload is written and the block acknowledged. -/
  | block {block : UInt16} {payload : Bytes} {scene' : Scene}
      (hexpects : scene.session.Expects block)
      (hwrite : (scene.session.stream.write scene.host payload).1 = none)
      (hsend : scene.host.sendFault scene.host.sends = none)
      (hholds : scene'.Holds target base (blocks ++ [(block, payload)]))
      (hphase : scene'.session.phase =
        if payload.length < scene.session.sizeInForce then .done else .awaitingData)
      (hreceives : scene.session.sizeInForce ≤ payload.length →
        scene'.session.Receives target (blocks ++ [(block, payload)])) :
    Gains target base blocks scene (.data block payload) scene'
  /-- It goes on waiting for the same block. -/
  | nothing {packet : Packet} {scene' : Scene}
      (hother : ∀ block payload, packet = .data block payload → ¬ scene.session.Expects block)
      (hholds : scene'.Holds target base blocks)
      (hreceives : scene'.session.Receives target blocks) :
    Gains target base blocks scene packet scene'

section Turns

variable {target : Target} {base : Bytes} {blocks : List (UInt16 × Bytes)} {scene scene' : Scene}
  {source : Endpoint}

namespace Session.Receives

variable {s s' : Session}

theorem waits (h : s.Receives target blocks) : s.phase.isTerminal = false := by
  rcases h.stands with ⟨hphase, -⟩ | ⟨hphase, -⟩ <;> rw [hphase] <;> rfl

theorem takes (h : s.Receives target blocks) :
    s.phase = .awaitingData ∨ s.phase = .requested ∧ s.role = .download := by
  rcases h.stands with ⟨hphase, hrole, -⟩ | ⟨hphase, -⟩
  · exact .inr ⟨hphase, hrole⟩
  · exact .inl hphase

/-- The blocks are expected in order. -/
theorem number (h : s.Receives target blocks) {block : UInt16} (hexpects : s.Expects block) :
    block = .ofNat (blocks.length + 1) := by
  rcases h.stands with ⟨hphase, -, rfl⟩ | ⟨hphase, hnext⟩
  · rcases hexpects with ⟨hdata, -⟩ | ⟨-, -, rfl⟩
    · exact nomatch hphase.symm.trans hdata
    · rfl
  · rcases hexpects with ⟨-, rfl⟩ | ⟨hrequested, -⟩
    · exact hnext
    · exact nomatch hphase.symm.trans hrequested

/-- Only what was accepted before is acknowledged again. -/
theorem recent_of_confirms (h : s.Receives target blocks) {n : UInt16} (hconfirms : s.Confirms n) :
    Recent blocks.length n := by
  rcases h.stands with ⟨hphase, -, rfl⟩ | ⟨hphase, hnext⟩
  · rcases hconfirms with ⟨-, rfl⟩ | ⟨hdata, -⟩
    · exact .self
    · exact nomatch hphase.symm.trans hdata
  · rcases hconfirms with ⟨hrequested, -⟩ | ⟨-, hzero, hlt⟩
    · exact nomatch hphase.symm.trans hrequested
    · exact .of_lt hzero (hnext ▸ hlt)

theorem alike (h : s.Receives target blocks) (halike : s.Alike s') : s'.Receives target blocks := by
  rw [halike]
  exact ⟨h.stands, h.stream, h.last, h.full⟩

end Session.Receives

theorem Scene.Holds.congr (h : scene.Holds target base blocks)
    (hfiles : scene.host.SameFiles scene'.host)
    (hbytes : scene'.session.tally.bytes = scene.session.tally.bytes)
    (hacks : ∀ n ∈ World.acks scene'.deeds, n ∈ World.acks scene.deeds ∨ Recent blocks.length n) :
    scene'.Holds target base blocks where
  held := (Target.held_congr hfiles).trans h.held
  bytes := hbytes.trans h.bytes
  acks n hn := (hacks n hn).elim (h.acks n) id

/-- The block that is next is accepted. -/
theorem Take.gains {session : Session} {payload : Bytes} {phase : Phase}
    (h : Take (scene.become session) payload phase scene')
    (hstream : session.stream = scene.session.stream)
    (hbytes : session.tally.bytes = scene.session.tally.bytes)
    (hsize : session.blockSize = scene.session.sizeInForce)
    (hnext : scene.session.Expects session.nextBlock)
    (hholds : scene.Holds target base blocks) (hreceives : scene.session.Receives target blocks)
    (hfull : ∀ b ∈ blocks, session.blockSize ≤ b.2.length)
    (hsilent : World.acks scene.deeds = []) :
    scene.Gains target base blocks (.data session.nextBlock payload) (scene'.enter phase) := by
  have hnumber := hreceives.number hnext
  obtain @⟨host, hwrite, hsend⟩ := h
  change session.stream.write scene.host payload = _ at hwrite
  rw [hstream] at hwrite
  have hlength : (blocks ++ [(session.nextBlock, payload)]).length = blocks.length + 1 := by
    rw [List.length_append, List.length_singleton]
  have hrecent : Recent (blocks ++ [(session.nextBlock, payload)]).length session.nextBlock := by
    rw [hlength, hnumber]
    exact .self
  have hsendFault : scene.host.sendFault scene.host.sends = none :=
    (Host.transmit_ack rfl).symm.trans hsend
  refine .block hnext (congrArg Prod.fst hwrite) hsendFault ⟨?_, ?_, fun n hn => ?_⟩ ?_
    fun hlong => ?_
  · rw [hreceives.stream] at hwrite
    rw [contentOf_append_singleton, ← List.append_assoc, ← hholds.held]
    have hsame : host.SameFiles { host with sends := scene.host.sends + 1 } := ⟨rfl, rfl⟩
    exact (Target.held_congr hsame).trans (Target.held_write hwrite)
  · rw [contentOf_append_singleton, List.length_append, ← hholds.bytes, ← hbytes]
    rfl
  · rcases World.mem_acks_deed rfl rfl hn with hbefore | hack
    · exact absurd hbefore (hsilent ▸ List.not_mem_nil)
    · exact Packet.ack.inj hack ▸ hrecent
  · rw [← hsize]
    rfl
  · rw [← hsize] at hlong
    refine ⟨.inr ⟨?_, ?_⟩, ?_, ?_, ?_⟩
    · exact if_neg (Nat.not_lt.2 hlong)
    · rw [hlength]
      exact Session.advance_ofNat hnumber
    · exact hstream.trans hreceives.stream
    · rintro n ⟨⟩
      exact hrecent
    · intro b hb
      rcases List.mem_append.1 hb with hbefore | hnew
      · exact hfull b hbefore
      · exact List.mem_singleton.1 hnew ▸ hlong

/-- **One turn.**  A packet that does not stop a receiver brings it the next block, or leaves it
waiting as it was. -/
theorem Turn.gains {phase phase' : Phase} {packet : Packet}
    (h : Turn source scene phase packet phase' scene') (hbefore : scene.session.phase = phase)
    (hholds : scene.Holds target base blocks) (hreceives : scene.session.Receives target blocks)
    (hsilent : World.acks scene.deeds = []) :
    scene.Gains target base blocks packet (scene'.enter phase') := by
  subst hbefore
  rcases hreceives.stands with ⟨hphase, hrole, hnone⟩ | ⟨hphase, hnext⟩
  · rw [hphase] at h
    have hdownload : scene.session.role ≠ .upload := hrole ▸ nofun
    cases h with
    | lastAck hsender | ack hsender | oldAck hsender => exact hsender.elim nofun nofun
    | grantedWrite hupload | firstAck hupload | strayAck hupload => exact absurd hupload hdownload
    | grantedRead =>
      subst hnone
      refine .nothing nofun (hholds.congr ⟨rfl, rfl⟩ rfl fun n hn => ?_)
        ⟨.inr ⟨rfl, rfl⟩, ?_, ?_, ?_⟩
      · refine (World.mem_acks_deed rfl rfl hn).imp id fun h => ?_
        exact Packet.ack.inj h ▸ .self
      · exact hreceives.stream
      · rintro n ⟨⟩
        exact .self
      · exact fun _ hb => nomatch hb
    | firstBlock _ htake =>
      subst hnone
      refine htake.gains rfl rfl ?_ (.inr ⟨hphase, hrole, rfl⟩) hholds hreceives ?_ hsilent
      · exact (if_pos hphase).symm
      · exact fun _ hb => nomatch hb
  · rw [hphase] at h
    cases h with
    | lastAck hsender | ack hsender | oldAck hsender => exact hsender.elim nofun nofun
    | block htake =>
      have hsize : scene.session.blockSize = scene.session.sizeInForce := by
        rw [Session.sizeInForce, hphase, if_neg nofun]
      exact htake.gains rfl rfl hsize (.inl ⟨hphase, rfl⟩) hholds hreceives hreceives.full hsilent
    | oldBlock hzero hold =>
      have hrecent := hreceives.recent_of_confirms (.inr ⟨hphase, hzero, hold⟩)
      refine .nothing ?_ (hholds.congr ⟨rfl, rfl⟩ rfl fun n hn => ?_) ?_
      · rintro _ _ ⟨⟩ hexpects
        rcases hexpects with ⟨-, rfl⟩ | ⟨hrequested, -⟩
        · exact Nat.lt_irrefl _ hold
        · exact nomatch hphase.symm.trans hrequested
      · refine (World.mem_acks_deed rfl rfl hn).imp id fun h => ?_
        exact Packet.ack.inj h ▸ hrecent
      · exact ⟨.inr ⟨rfl, hnext⟩, hreceives.stream, hreceives.last, hreceives.full⟩

/-- A receiver that is stopped has written, counted and acknowledged what it accepted. -/
theorem Spoil.holds {packet : Packet} {halt : Halt} (h : Spoil scene packet halt scene')
    (hwrites : ∀ block payload, scene.session.wanted? packet = some (block, payload) →
      (scene.session.stream.write scene.host payload).1 = none)
    (hholds : scene.Holds target base blocks) (hreceives : scene.session.Receives target blocks)
    (hsilent : World.acks scene.deeds = []) :
    scene'.Holds target base (blocks ++ (scene.session.wanted? packet).toList) := by
  cases h with
  | unwritten hexpects hwrite =>
    have hwritten := hwrites _ _ (Session.wanted?_eq_some_iff.2 ⟨rfl, hexpects⟩)
    exact nomatch (congrArg Prod.fst hwrite).symm.trans hwritten
  | @unacked block payload _ _ _ _ hexpects hwrite _ hfiles hbytes hd hdeeds =>
    have hnumber := hreceives.number hexpects
    rw [hreceives.stream] at hwrite
    rw [Session.wanted?_eq_some_iff.2 ⟨rfl, hexpects⟩, Option.toList_some]
    refine ⟨?_, ?_, fun n hn => ?_⟩
    · rw [contentOf_append_singleton, ← List.append_assoc, ← hholds.held]
      exact (Target.held_congr hfiles).trans (Target.held_write hwrite)
    · rw [contentOf_append_singleton, List.length_append, ← hholds.bytes]
      exact hbytes
    · rw [hdeeds] at hn
      rcases World.mem_acks_deed rfl hd hn with hbefore | hack
      · exact absurd hbefore (hsilent ▸ List.not_mem_nil)
      · rw [← Packet.ack.inj hack, hnumber, List.length_append, List.length_singleton]
        exact .self
  | refused hother hfiles hbytes hacks =>
    rw [Session.wanted?_eq_none_iff.2 hother, Option.toList_none, List.append_nil]
    exact hholds.congr hfiles hbytes fun n hn => (hacks n hn).imp id hreceives.recent_of_confirms

/-- What a receiver has when it has handled a packet. -/
theorem Act.handle_gains {packet : Packet}
    (hwrites : ∀ block payload, scene.session.wanted? packet = some (block, payload) →
      (scene.session.stream.write scene.host payload).1 = none)
    (hholds : scene.Holds target base blocks) (hreceives : scene.session.Receives target blocks)
    (hsilent : World.acks scene.deeds = []) :
    (handle packet source).Ends scene
      (fun phase scene' => scene.Gains target base blocks packet (scene'.enter phase))
      (fun _ scene' =>
        scene'.Holds target base (blocks ++ (scene.session.wanted? packet).toList)) :=
  ((handle_ends scene packet source).and (handle_spoils packet source hreceives.takes)).mono
    (fun _ _ h => h.1.gains rfl hholds hreceives hsilent)
    fun _ _ h => h.2.holds hwrites hholds hreceives hsilent

/-- A receiver that is not stopped has what it accepted, and waits for more unless it is done. -/
theorem Scene.Gains.holds {packet : Packet} (h : scene.Gains target base blocks packet scene') :
    scene'.Holds target base (blocks ++ (scene.session.wanted? packet).toList) ∧
      (scene'.session.phase.isTerminal = false →
        scene'.session.Receives target (blocks ++ (scene.session.wanted? packet).toList)) := by
  cases h with
  | block hexpects _ _ hholds hphase hreceives =>
    rw [Session.wanted?_eq_some_iff.2 ⟨rfl, hexpects⟩]
    refine ⟨hholds, fun hwaits => hreceives (Nat.le_of_not_lt fun hshort => ?_)⟩
    rw [hphase, if_pos hshort] at hwaits
    exact nomatch hwaits
  | nothing hother hholds hreceives =>
    rw [Session.wanted?_eq_none_iff.2 hother, Option.toList_none, List.append_nil]
    exact ⟨hholds, fun _ => hreceives⟩

end Turns

/-! ### One step -/

section Steps

variable {target : Target} {base : Bytes} {blocks : List (UInt16 × Bytes)} {scene scene' : Scene}
  {arrival : Arrival}

namespace Act

variable {source : Endpoint} {packet : Packet} {done : Scene → Prop} {stopped : Halt → Scene → Prop}

theorem dispatch_of_handle (h : (handle packet source).Ends (scene.showing packet)
      (fun phase scene' => done (scene'.enter phase)) stopped) :
    (dispatch packet source).Ends scene (fun _ => done) stopped := by
  have hhandle : (handle packet source >>= fun phase =>
      update fun s => { s with phase, retries := 0 }).Ends (scene.showing packet)
        (fun _ => done) stopped := Ends.bind h
  refine ends_session ?_
  unfold Scene.showing at hhandle
  split
  · next hwatched =>
    rw [if_pos hwatched] at hhandle
    exact ends_record hhandle
  · next hwatched =>
    rwa [if_neg hwatched] at hhandle

/-- A session that gets a packet handles it. -/
theorem step_of_handle {bytes : Bytes} (hown : scene.session.isForeign source = false)
    (hread : Packet.decode (bytes.take longestPacket) = .ok packet)
    (h : (handle packet source).Ends (scene.heard.showing packet)
      (fun phase scene' => done (scene'.enter phase)) stopped) :
    (step (.datagram source bytes)).Ends scene (fun _ => done) stopped := by
  have hdispatch : (dispatch packet source >>= fun _ => pure Heard.processed).Ends scene.heard
      (fun heard scene' => heard = .processed ∧ done scene') stopped :=
    Ends.bind ((dispatch_of_handle h).mono (fun _ _ hdone => ⟨rfl, hdone⟩) fun _ _ => id)
  have hhear : (hear (.datagram source bytes)).Ends scene
      (fun heard scene' => heard = .processed ∧ done scene') stopped := by
    refine ends_session ?_
    rw [hown, if_neg Bool.false_ne_true]
    refine ends_now (ends_update ?_)
    rw [hread]
    exact hdispatch
  refine Ends.bind (hhear.mono ?_ fun _ _ => id)
  rintro _ _ ⟨rfl, hdone⟩
  exact hdone

end Act

/-! Without a packet a session can at most say again what it said last. -/

/-- No payload was moved, and nothing acknowledged but what the last packet does. -/
structure Scene.Echoes (scene scene' : Scene) : Prop where
  bytes : scene'.session.tally.bytes = scene.session.tally.bytes
  acks : ∀ n ∈ World.acks scene'.deeds, n ∈ World.acks scene.deeds ∨
    scene.session.lastSent = some (.ack n)

theorem Scene.Echoes.refl (scene : Scene) : scene.Echoes scene := ⟨rfl, fun _ => .inl⟩

theorem Scene.Echoes.trans {scene₁ : Scene} (h : scene.Echoes scene₁) (h₁ : scene₁.Echoes scene')
    (hlast : scene₁.session.lastSent = scene.session.lastSent) : scene.Echoes scene' where
  bytes := h₁.bytes.trans h.bytes
  acks n hn := (h₁.acks n hn).elim (h.acks n) fun hagain => .inr (hlast ▸ hagain)

/-- The last packet is to go out again. -/
theorem Scene.echoes_again {p : Packet} {d : Deed}
    (hletter : d.letter? = some (scene.session.letter p))
    (hlast : scene.session.lastSent = some p) (hdeeds : scene'.deeds = scene.deeds ++ [d])
    (hbytes : scene'.session.tally.bytes = scene.session.tally.bytes) : scene.Echoes scene' := by
  refine ⟨hbytes, fun n hn => ?_⟩
  rw [hdeeds] at hn
  exact (World.mem_acks_deed hletter rfl hn).imp id fun h => hlast.trans (congrArg some h)

theorem Drop.echoes {source : Endpoint} {bytes : Bytes} (h : Drop source bytes scene scene') :
    scene.Echoes scene'.tick := by
  cases h <;> exact ⟨rfl, fun _ => .inl⟩

theorem Repeat.echoes (h : Repeat scene scene') : scene.Echoes scene' := by
  cases h with
  | nothing => exact ⟨rfl, fun _ => .inl⟩
  | again _ hlast => exact Scene.echoes_again rfl hlast rfl rfl

theorem Falter.echoes {halt : Halt} (h : Falter scene halt scene') : scene.Echoes scene' := by
  cases h with
  | impatient => exact .refl _
  | tooMany _ htally _ hdeeds =>
    refine ⟨?_, fun n hn => .inl (hdeeds ▸ hn)⟩
    rw [htally]
    rfl
  | unsent hlast _ htally hdeeds =>
    refine Scene.echoes_again rfl hlast hdeeds ?_
    rw [htally]
    rfl

section NoPacket

variable (hnone : ∀ packet, ¬ scene.session.Gets arrival packet)

include hnone

theorem Move.echoes (h : Move arrival scene scene') :
    scene.Abides scene' ∧ scene.Echoes scene' := by
  cases h with
  | handled hown hread => exact absurd ⟨_, _, rfl, hown, hread⟩ (hnone _)
  | dropped hdrop => exact ⟨hdrop.abides, hdrop.echoes⟩
  | impatient hdrop _ hrepeat =>
    exact ⟨hdrop.abides.trans hrepeat.abides,
      hdrop.echoes.trans hrepeat.echoes hdrop.abides.alike.lastSent⟩
  | silent hrepeat => exact ⟨hrepeat.abides, hrepeat.echoes⟩

theorem Stop.echoes {halt : Halt} (h : Stop arrival scene halt scene') : scene.Echoes scene' := by
  cases h with
  | stumble hown hread => exact absurd ⟨_, _, rfl, hown, hread⟩ (hnone _)
  | malformed => exact ⟨rfl, fun _ => .inl⟩
  | impatient hdrop hfalter =>
    exact hdrop.echoes.trans hfalter.echoes hdrop.abides.alike.lastSent
  | silent hfalter => exact hfalter.echoes
  | fault => exact .refl _

theorem Halting.files {halt : Halt} (h : Halting arrival scene halt scene') :
    scene.host.SameFiles scene'.host := by
  cases h with
  | setback hown hread => exact absurd ⟨_, _, rfl, hown, hread⟩ (hnone _)
  | fault => exact .refl _
  | bare hbare => exact hbare.files

end NoPacket

theorem Scene.Holds.echo (h : scene.Holds target base blocks)
    (hfiles : scene.host.SameFiles scene'.host) (hechoes : scene.Echoes scene')
    (hreceives : scene.session.Receives target blocks) : scene'.Holds target base blocks :=
  h.congr hfiles hechoes.bytes fun n hn => (hechoes.acks n hn).imp id (hreceives.last n)

/-- Whether bytes can be written is not a matter of time. -/
theorem Stream.write_clock (stream : Stream) (host : Host) (payload : Bytes) (clock : Nat) :
    (stream.write { host with clock } payload).1 = (stream.write host payload).1 := by
  cases stream with
  | writing target => cases target <;> rfl
  | _ => rfl

/-- When a packet is about to be handled, nothing has been acknowledged. -/
theorem Scene.heard_holds {s : Session} {host : Host}
    (hheld : target.held host = base ++ contentOf blocks)
    (hbytes : s.tally.bytes = (contentOf blocks).length) (packet : Packet) :
    ∃ deeds, (Scene.mk s host []).heard.showing packet =
        ⟨{ s with heardAt := host.clock + 1 }, { host with clock := host.clock + 1 }, deeds⟩ ∧
      World.acks deeds = [] ∧ Scene.Holds target base blocks
        ⟨{ s with heardAt := host.clock + 1 }, { host with clock := host.clock + 1 }, deeds⟩ := by
  obtain ⟨deeds, htried, hscene⟩ := Scene.heard_hushed s host packet
  have hsilent : World.acks deeds = [] := @World.Hushed.acks [] deeds ⟨deeds, rfl, htried⟩
  refine ⟨deeds, hscene, hsilent, (Target.held_congr ⟨rfl, rfl⟩).trans hheld, hbytes,
    fun n hn => ?_⟩
  exact absurd hn (hsilent ▸ List.not_mem_nil)

/-- **One step.**  A receiver accepts the block that an arrival brings, if it brings one. -/
theorem Act.step_gains {s : Session} {host : Host} (hwrites : (Run.waiting s).Writes arrival host)
    (hheld : target.held host = base ++ contentOf blocks)
    (hbytes : s.tally.bytes = (contentOf blocks).length) (hreceives : s.Receives target blocks) :
    (step arrival).Ends ⟨s, host, []⟩
      (fun _ scene => scene.Holds target base (blocks ++ (s.block? arrival).toList) ∧
        (scene.session.phase.isTerminal = false →
          scene.session.Receives target (blocks ++ (s.block? arrival).toList)))
      (fun _ scene => scene.Holds target base (blocks ++ (s.block? arrival).toList)) := by
  by_cases hgets : ∃ packet, s.Gets arrival packet
  · obtain ⟨packet, hgets⟩ := hgets
    rw [hgets.block?]
    have hwritten : ∀ block payload, s.wanted? packet = some (block, payload) →
        (s.stream.write host payload).1 = none := hgets.block? ▸ hwrites
    obtain ⟨source, bytes, rfl, hown, hread⟩ := hgets
    obtain ⟨deeds, hscene, hsilent, hholds⟩ := Scene.heard_holds hheld hbytes packet
    refine step_of_handle hown hread ?_
    rw [hscene]
    refine Ends.mono (handle_gains ?_ hholds (hreceives.alike rfl) hsilent)
      (fun _ _ hgains => hgains.holds) fun _ _ => id
    intro block payload hwanted
    rw [Stream.write_clock]
    exact hwritten block payload hwanted
  · have hnone : ∀ packet, ¬ s.Gets arrival packet := not_exists.1 hgets
    have hblock : s.block? arrival = none := by
      by_contra hblock
      exact hgets (Session.gets_of_block? hblock)
    have hholds : Scene.Holds target base blocks ⟨s, host, []⟩ :=
      ⟨hheld, hbytes, fun _ hn => nomatch hn⟩
    rw [hblock, Option.toList_none, List.append_nil]
    refine ((step_ends _ arrival).and (step_stops _ arrival)).mono (fun _ scene h => ?_)
      fun halt scene h => ?_
    · obtain ⟨habides, hechoes⟩ := Move.echoes hnone h.1
      exact ⟨hholds.echo habides.files hechoes hreceives,
        fun _ => hreceives.alike habides.alike⟩
    · exact hholds.echo (Halting.files hnone h.1) (Stop.echoes hnone h.2) hreceives

end Steps

/-! ### The opening -/

section Openings

variable {target : Target} {base : Bytes} {blocks : List (UInt16 × Bytes)} {scene scene' : Scene}

theorem Terms.Offer.reply_ack {offer : Terms.Offer} {n : UInt16} (h : offer.reply = .ack n) :
    n = 0 := by
  unfold reply at h
  split at h
  · exact (Packet.ack.inj h).symm
  · exact nomatch h

/-- The answer to a writer acknowledges at most block 0. -/
theorem Terms.Offer.recent_of_reply {offer : Terms.Offer} {deeds : List Deed} {d : Deed}
    {letter : Datagram} {n : UInt16} (hletter : d.letter? = some letter)
    (hbytes : letter.bytes = offer.reply.encode) (hsilent : World.acks deeds = [])
    (hn : n ∈ World.acks (deeds ++ [d])) : Recent 0 n := by
  rcases World.mem_acks_deed hletter hbytes hn with hbefore | hack
  · exact absurd hbefore (hsilent ▸ List.not_mem_nil)
  · exact Terms.Offer.reply_ack hack ▸ .self

/-- A file made anew is empty. -/
theorem Target.held_create {host host' : Host} {path : String} {stream : Stream}
    (h : Stream.create host path = .ok (stream, host')) : (file path).held host' = [] := by
  obtain ⟨-, store, hstore, rfl⟩ := Stream.create_host h
  obtain rfl := Store.create_ok hstore
  change (((host.store.set path _).find? path).getD {}).content = []
  rw [Store.find?_set, if_pos rfl]
  rfl

/-- A server that is asked to take a file makes it anew, and waits for block 1; or it does not take
the file, and leaves what there was. -/
theorem Act.serveWrite_gains {service : Service} {filename mode : String} {requested : Options}
    {source : Endpoint} (hrole : scene.session.role = .serve service)
    (hbytes : scene.session.tally.bytes = 0) (hsilent : World.acks scene.deeds = [])
    (htarget : target = .file (Path.join service.root filename)) :
    (serveWrite filename mode requested source).Ends scene
      (fun phase scene' => (scene'.enter phase).Holds target [] [] ∧
        (scene'.enter phase).session.Receives target [])
      (fun _ scene' => scene'.Holds target [] [] ∨
        scene'.Holds target (target.held scene.host) []) := by
  subst htarget
  have hrefused : ∀ {scene' : Scene}, scene.host.SameFiles scene'.host →
      scene'.session.tally = scene.session.tally → World.Hushed scene.deeds scene'.deeds →
      scene'.Holds (.file (Path.join service.root filename)) (Target.held scene.host
        (.file (Path.join service.root filename))) [] := by
    intro scene' hfiles htally hhushed
    refine ⟨(Target.held_congr hfiles).trans (List.append_nil _).symm, htally ▸ hbytes,
      fun n hn => ?_⟩
    exact absurd (hhushed.acks ▸ hn) (hsilent ▸ List.not_mem_nil)
  refine ends_update (Ends.bind (ends_vet ?_ ?_))
  · intro service' hadmits
    have hserving : scene.session.role.service? = some service' := hadmits.serving
    rw [hrole] at hserving
    obtain rfl := Option.some.inj hserving
    refine Ends.bind (createServed_ends ?_ ?_)
    · intro stream host hcreate
      obtain ⟨rfl, -⟩ := Stream.create_host hcreate
      have hheld := Target.held_create hcreate
      have htouched :
          World.acks (scene.deeds ++ [.touched (Path.join service.root filename)]) = [] :=
        (World.Hushed.acks (World.hushed_append rfl _)).trans hsilent
      refine ends_send_reply (Terms.offer requested (service.told requested.announced)) ?_
      refine Ends.bind (ends_send (fun _ => ?_) fun f _ => ?_)
      · refine ⟨⟨(Target.held_congr ⟨rfl, rfl⟩).trans hheld, hbytes, fun n hn => ?_⟩,
          ⟨.inr ⟨rfl, rfl⟩, rfl, fun n hlast => ?_, fun _ hb => nomatch hb⟩⟩
        · exact Terms.Offer.recent_of_reply rfl rfl htouched hn
        · exact Terms.Offer.reply_ack (Option.some.inj hlast) ▸ .self
      · refine .inl ⟨(Target.held_congr ⟨rfl, rfl⟩).trans hheld, hbytes, fun n hn => ?_⟩
        exact Terms.Offer.recent_of_reply rfl rfl htouched hn
    · intro f hfault
      exact .inr (hrefused (.refl _) rfl (World.hushed_append rfl _))
  · intro v
    exact .inr (hrefused (.refl _) rfl (.refl _))

/-- **The opening.**  A session that is to take a file waits for block 1, or has come to its end
with nothing written. -/
theorem Act.start_gains {session : Session} {opening : Opening} {first : Host}
    (hbegins : Begins session opening) (hfills : session.Fills first opening target base) :
    (start opening).Ends ⟨session, first, []⟩
      (fun _ scene => scene.Holds target base [] ∧ scene.session.Receives target [])
      (fun _ scene => scene.Holds target base [] ∨ scene.Holds target (target.held first) []) := by
  cases hbegins with
  | download =>
    cases hfills with
    | download _ hstream =>
      obtain rfl := Stream.writing.inj hstream
      have hnone : ∀ {d : Deed} {letter : Datagram} {n : UInt16} {filename : String}
          {requested : Options}, d.letter? = some letter →
          letter.bytes = (Packet.octetRequest .read filename requested).encode →
          n ∉ World.acks ([] ++ [d]) := by
        intro d letter n filename requested hletter hbytes hn
        exact (World.mem_acks_deed hletter hbytes hn).elim (fun h => nomatch h) nofun
      refine Ends.bind (ends_send (fun _ => ?_) fun f _ => ?_)
      · refine ⟨⟨?_, rfl, fun n hn => absurd hn (hnone rfl rfl)⟩, .inl ⟨rfl, rfl, rfl⟩, rfl, ?_, ?_⟩
        · exact (Target.held_congr ⟨rfl, rfl⟩).trans (List.append_nil _).symm
        · exact fun n hlast => nomatch hlast
        · exact fun _ hb => nomatch hb
      · refine .inl ⟨?_, rfl, fun n hn => absurd hn (hnone rfl rfl)⟩
        exact (Target.held_congr ⟨rfl, rfl⟩).trans (List.append_nil _).symm
  | upload =>
    cases hfills with
    | download hrole => exact nomatch hrole
  | serve =>
    cases hfills with
    | download hrole => exact nomatch hrole
    | serve hrole => exact dispatch_of_handle (serveWrite_gains hrole rfl rfl rfl)

end Openings

/-! ### Whole runs -/

/-- What has become of a receiver that accepted some blocks. -/
structure Run.Took (target : Target) (base : Bytes) (blocks : List (UInt16 × Bytes))
    (result : Run × Host × List Deed) : Prop where
  held : target.held result.2.1 = base ++ contentOf blocks
  bytes : ∀ tally, result.1.tally? = some tally → tally.bytes = (contentOf blocks).length
  acks : ∀ n ∈ World.acks result.2.2, Recent blocks.length n
  receives : ∀ s, result.1 = .waiting s → s.Receives target blocks

section Runs

variable {target : Target} {base : Bytes} {blocks : List (UInt16 × Bytes)} {scene : Scene}
  {session : Session} {opening : Opening} {first host : Host} {run : Run} {deeds : List Deed}

/-- A report acknowledges nothing. -/
theorem World.acks_notified (f : Failure) (scene : Scene) :
    ∀ n ∈ acks (Run.notified f scene).deeds, n ∈ acks scene.deeds := by
  intro n hn
  unfold Run.notified at hn
  split at hn
  · exact hn
  · dsimp only at hn
    split at hn
    all_goals exact (mem_acks_deed rfl rfl hn).resolve_right Packet.noConfusion

namespace Scene.Holds

/-- To flush what was written is neither to write nor to acknowledge anything. -/
theorem flushing (h : scene.Holds target base blocks) :
    scene.flushing.Holds target base blocks where
  held := h.held
  bytes := h.bytes
  acks := by
    rw [scene.hushed_flushing.acks]
    exact h.acks

/-- A session that fails has written what it wrote. -/
theorem took_failed (h : scene.Holds target base blocks) (f : Failure) :
    Run.Took target base blocks (Run.finish (some f) scene) := by
  have hfiles := (Run.finish_closing (some f) scene).files
  rw [Run.finish_some] at hfiles ⊢
  refine ⟨(Target.held_congr hfiles).trans h.held, ?_, fun n hn => ?_, fun _ => Run.noConfusion⟩
  · intro tally htally
    rw [← Option.some.inj htally]
    exact h.bytes
  · exact h.acks n (World.acks_notified f scene n hn)

theorem took_concluded (h : scene.Holds target base blocks) :
    Run.Took target base blocks (Run.finish none scene) := by
  cases hclose : scene.session.stream.closeFault scene.host with
  | some fault =>
    rw [Run.finish_fault hclose]
    exact h.flushing.took_failed _
  | none =>
    have hfiles := (Run.finish_closing none scene).files
    rw [Run.finish_none hclose] at hfiles ⊢
    refine ⟨(Target.held_congr hfiles).trans h.held, ?_, h.flushing.acks,
      fun _ => Run.noConfusion⟩
    intro tally htally
    rw [← Option.some.inj htally]
    exact h.bytes

theorem took_crashed (h : scene.Holds target base blocks) :
    Run.Took target base blocks
      (.ended .crashed, scene.host.release scene.session.port, scene.deeds) := by
  have hfiles : scene.host.SameFiles (scene.host.release scene.session.port) := ⟨rfl, rfl⟩
  exact ⟨(Target.held_congr hfiles).trans h.held, nofun, h.acks, fun _ => Run.noConfusion⟩

theorem took_waiting (h : scene.Holds target base blocks)
    (hreceives : scene.session.Receives target blocks) :
    Run.Took target base blocks
      (.waiting scene.session, scene.host.wait scene.session.timing.timeout, scene.deeds) := by
  have hfiles : scene.host.SameFiles (scene.host.wait scene.session.timing.timeout) := ⟨rfl, rfl⟩
  refine ⟨(Target.held_congr hfiles).trans h.held, ?_, h.acks, ?_⟩
  · intro tally htally
    rw [← Option.some.inj htally]
    exact h.bytes
  · intro s hs
    rw [← Run.waiting.inj hs]
    exact hreceives

end Scene.Holds

/-- **One step of a run.** -/
theorem Run.Took.step {s : Session} {arrival : Arrival}
    (h : Run.Took target base blocks (.waiting s, host, deeds)) {host' : Host}
    (hheld : target.held host' = target.held host)
    (hwrites : (Run.waiting s).Writes arrival host') :
    Run.Took target base (blocks ++ (s.block? arrival).toList)
      ((Run.waiting s).step arrival host') := by
  have houtcome := Run.settle_outcome (Act.step_gains hwrites (hheld.trans h.held)
    (h.bytes _ rfl) (h.receives s rfl))
  change Run.Took target base _ (Run.settle (Act.step arrival) s host')
  generalize Run.settle (Act.step arrival) s host' = result at houtcome ⊢
  cases houtcome with
  | waits hdone hphase => exact hdone.1.took_waiting (hdone.2 hphase)
  | concludes hdone => exact hdone.1.took_concluded
  | fails hstopped => exact hstopped.took_failed _
  | crashes hstopped => exact hstopped.took_crashed

theorem Run.took_start (hbegins : Begins session opening)
    (hfills : session.Fills first opening target base) :
    Run.Took target base [] (Run.start session opening first) ∨
      (Run.start session opening first).1.isEnded = true ∧
        Run.Took target (target.held first) [] (Run.start session opening first) := by
  have houtcome := Run.settle_outcome (Act.start_gains hbegins hfills)
  change Run.Took target base _ (Run.settle (Act.start opening) session first) ∨
    (Run.settle (Act.start opening) session first).1.isEnded = true ∧
      Run.Took target _ _ (Run.settle (Act.start opening) session first)
  generalize Run.settle (Act.start opening) session first = result at houtcome ⊢
  cases houtcome with
  | waits hdone hphase => exact .inl (hdone.1.took_waiting hdone.2)
  | concludes hdone => exact .inl hdone.1.took_concluded
  | fails hstopped =>
    exact hstopped.imp (·.took_failed _) fun h => ⟨Run.isEnded_finish _ _, h.took_failed _⟩
  | crashes hstopped => exact hstopped.imp (·.took_crashed) fun h => ⟨rfl, h.took_crashed⟩

/-- **A whole run.**  A session that could not take the file has ended with nothing written. -/
theorem Taking.took {blocks : List (UInt16 × Bytes)}
    (h : Taking session opening target first run host blocks deeds)
    (hbegins : Begins session opening) (hfills : session.Fills first opening target base) :
    Numbered blocks ∧ (Run.Took target base blocks (run, host, deeds) ∨
      blocks = [] ∧ run.isEnded = true ∧
        Run.Took target (target.held first) [] (run, host, deeds)) := by
  induction h with
  | start => exact ⟨rfl, (Run.took_start hbegins hfills).imp id fun h => ⟨rfl, h⟩⟩
  | @step run host host' blocks deeds _ arrival hheld hwrites ih =>
    obtain ⟨hnumbered, htook⟩ := ih
    cases run with
    | waiting s =>
      have htook := htook.resolve_right fun h => nomatch h.2.1
      refine ⟨?_, .inl (htook.step hheld hwrites)⟩
      change Numbered (blocks ++ (s.block? arrival).toList)
      cases hblock : s.block? arrival with
      | none => rwa [Option.toList_none, List.append_nil]
      | some b =>
        have hexpects := (Session.block?_eq_some_iff.1 hblock).2
        rw [Option.toList_some, show b = (.ofNat (blocks.length + 1), b.2) from
          Prod.ext ((htook.receives s rfl).number hexpects) rfl]
        exact hnumbered.append_singleton
    | ended ending =>
      have hidle : ∀ {base blocks}, Run.Took target base blocks (.ended ending, host, deeds) →
          Run.Took target base blocks (.ended ending, host', []) := fun h =>
        ⟨hheld.trans h.held, h.bytes, nofun, h.receives⟩
      change Numbered (blocks ++ []) ∧
        (Run.Took target base (blocks ++ []) (.ended ending, host', []) ∨
        blocks ++ [] = [] ∧ _)
      rw [List.append_nil]
      exact ⟨hnumbered, htook.imp hidle fun h => ⟨h.1, rfl, hidle h.2.2⟩⟩

/-! ### Coming through -/

/-- What a receiver makes of an arrival that brings a block. -/
structure Session.Closes (s : Session) (arrival : Arrival) (host : Host) : Prop where
  /-- A short block, written and acknowledged, is what it ends on. -/
  done : s.IsDoneBy arrival host ↔ ∃ block payload, s.block? arrival = some (block, payload) ∧
    (s.stream.write host payload).1 = none ∧ host.sendFault host.sends = none ∧
    payload.length < s.sizeInForce
  /-- A block that cannot be written stops it before it has counted or acknowledged any of it. -/
  unwritten : ∀ block payload fault, s.block? arrival = some (block, payload) →
    (s.stream.write host payload).1 = some fault →
    World.acks ((Run.waiting s).step arrival host).2.2 = [] ∧
      ∃ tally, ((Run.waiting s).step arrival host).1 = .ended (.failed (.io fault) tally) ∧
        tally.bytes = s.tally.bytes

/-- **What comes of a block.**  It is written and acknowledged, unless the host keeps the session
from doing so. -/
theorem Session.Receives.step_block {s : Session} {blocks : List (UInt16 × Bytes)}
    (h : s.Receives target blocks) (hheld : target.held host = base ++ contentOf blocks)
    (hbytes : s.tally.bytes = (contentOf blocks).length) {arrival : Arrival} {block : UInt16}
    {payload : Bytes} (hblock : s.block? arrival = some (block, payload)) :
    (Act.step arrival).Ends ⟨s, host, []⟩
      (fun _ scene => (s.stream.write host payload).1 = none ∧
        host.sendFault host.sends = none ∧
        scene.session.phase = if payload.length < s.sizeInForce then .done else .awaitingData)
      (fun halt scene => ∃ fault, halt = .failure (.io fault) ∧
        ((s.stream.write host payload).1 = some fault ∧
            scene.session.tally.bytes = s.tally.bytes ∧ World.acks scene.deeds = [] ∨
          (s.stream.write host payload).1 = none ∧
            host.sendFault host.sends = some fault)) := by
  obtain ⟨⟨source, bytes, rfl, hown, hread⟩, hexpects⟩ := Session.block?_eq_some_iff.1 hblock
  obtain ⟨deeds, hscene, hsilent, hholds⟩ := Scene.heard_holds hheld hbytes (.data block payload)
  refine Act.step_of_handle hown hread ?_
  rw [hscene, ← Stream.write_clock s.stream host payload (host.clock + 1)]
  have hshown : Session.Receives target blocks { s with heardAt := host.clock + 1 } := h.alike rfl
  refine ((Act.handle_ends _ _ source).and (Act.handle_spoils _ source hshown.takes)).mono
    (fun phase scene hturn => ?_) fun halt scene hspoil => ?_
  · cases hturn.1.gains rfl hholds hshown hsilent with
    | block _ hwrite hsend _ hphase => exact ⟨hwrite, hsend, hphase⟩
    | nothing hother => exact absurd hexpects (hother _ _ rfl)
  · cases hspoil.2 with
    | @unwritten _ _ fault _ _ _ hwrite _ hbytes hdeeds =>
      exact ⟨fault, rfl, .inl ⟨congrArg Prod.fst hwrite, hbytes, hdeeds ▸ hsilent⟩⟩
    | @unacked _ _ fault _ _ _ _ hwrite hsend =>
      exact ⟨fault, rfl, .inr ⟨congrArg Prod.fst hwrite, hsend⟩⟩
    | refused hother => exact absurd hexpects (hother _ _ rfl)

theorem Session.Receives.closes {s : Session} {blocks : List (UInt16 × Bytes)}
    (h : s.Receives target blocks) (hheld : target.held host = base ++ contentOf blocks)
    (hbytes : s.tally.bytes = (contentOf blocks).length) (arrival : Arrival) :
    s.Closes arrival host where
  done := by
    constructor
    · intro hdone
      obtain ⟨source, bytes, packet, scene, rfl, hown, hread, hturn⟩ :=
        (Session.isDoneBy_iff h.waits).1 hdone
      obtain ⟨deeds, hscene, hsilent, hholds⟩ := Scene.heard_holds hheld hbytes packet
      rw [hscene] at hturn
      cases hturn.gains rfl hholds (h.alike rfl) hsilent with
      | @block block payload _ hexpects hwrite hsend _ hphase =>
        rw [Stream.write_clock] at hwrite
        refine ⟨block, payload, ?_, hwrite, hsend, ?_⟩
        · exact Session.block?_eq_some_iff.2 ⟨⟨source, bytes, rfl, hown, hread⟩, hexpects⟩
        · by_contra hlong
          exact nomatch hphase.trans (if_neg hlong)
      | nothing _ _ hreceives => exact nomatch hreceives.waits
    · rintro ⟨block, payload, hblock, hwrite, hsend, hshort⟩
      have hends := h.step_block hheld hbytes hblock
      cases hrun : (Act.step arrival).run ⟨s, host, []⟩ with
      | ok _ scene =>
        obtain ⟨-, -, hphase⟩ := hends.ok hrun
        exact ⟨scene, hrun, hphase.trans (if_pos hshort)⟩
      | error halt scene =>
        obtain ⟨fault, -, ⟨hunwritten, -⟩ | ⟨-, hunsent⟩⟩ := hends.error hrun
        · exact nomatch hwrite.symm.trans hunwritten
        · exact nomatch hsend.symm.trans hunsent
  unwritten := by
    intro block payload fault hblock hwrite
    have houtcome := Run.settle_outcome (h.step_block hheld hbytes hblock)
    change World.acks (Run.settle (Act.step arrival) s host).2.2 = [] ∧ ∃ tally,
      (Run.settle (Act.step arrival) s host).1 = .ended (.failed (.io fault) tally) ∧ _
    generalize Run.settle (Act.step arrival) s host = result at houtcome ⊢
    cases houtcome with
    | waits hdone | concludes hdone => exact nomatch hwrite.symm.trans hdone.1
    | crashes hstopped => exact hstopped.elim fun _ h => nomatch h.1
    | @fails f scene hstopped =>
      obtain ⟨fault', hfault, ⟨hunwritten, hcounted, hsilent⟩ | ⟨hwritten, -⟩⟩ := hstopped
      · obtain rfl := Option.some.inj (hwrite.symm.trans hunwritten)
        rw [Halt.failure.inj hfault, Run.finish_some]
        refine ⟨List.eq_nil_iff_forall_not_mem.2 fun n hn => ?_, _, rfl, hcounted⟩
        exact absurd (World.acks_notified _ _ n hn) (hsilent ▸ List.not_mem_nil)
      · exact nomatch hwrite.symm.trans hwritten

/-- **A receiver against any peer.**  Whatever arrives at a session that takes a file, as long as no
write has failed, its file is what it was at the beginning and the payloads of the blocks that it
accepted, which are numbered from 1 on; so many bytes are counted, and only blocks that were written
are acknowledged, never the one that comes next.  It is done by a short block and by nothing else.
A block that cannot be written ends it, with nothing of that block counted or acknowledged. -/
theorem Taking.writes_each_block_once {blocks : List (UInt16 × Bytes)}
    (hbegins : Begins session opening) (hfills : session.Fills first opening target base)
    (h : Taking session opening target first run host blocks deeds) :
    Numbered blocks ∧
      (target.held host = base ++ contentOf blocks ∨
        blocks = [] ∧ run.isEnded = true ∧ target.held host = target.held first) ∧
      (∀ tally, run.tally? = some tally → tally.bytes = (contentOf blocks).length) ∧
      (∀ n ∈ World.acks deeds, Recent blocks.length n ∧ n ≠ .ofNat (blocks.length + 1)) ∧
      ∀ s, run = .waiting s → s.stream = .writing target ∧
        ∀ arrival host', target.held host' = target.held host → s.Closes arrival host' := by
  obtain ⟨hnumbered, htook | ⟨hnone, hended, htook⟩⟩ := h.took hbegins hfills
  · refine ⟨hnumbered, .inl htook.held, htook.bytes,
      fun n hn => ⟨htook.acks n hn, (htook.acks n hn).ne_next⟩, fun s hrun => ?_⟩
    have hreceives := htook.receives s hrun
    refine ⟨hreceives.stream, fun arrival host' hheld => ?_⟩
    exact hreceives.closes (hheld.trans htook.held) (htook.bytes _ (hrun ▸ rfl)) arrival
  · subst hnone
    refine ⟨hnumbered, .inr ⟨rfl, hended, ?_⟩, htook.bytes,
      fun n hn => ⟨htook.acks n hn, (htook.acks n hn).ne_next⟩, ?_⟩
    · exact htook.held.trans (List.append_nil _)
    · intro s hrun
      exact nomatch hrun ▸ hended

end Runs

namespace Taking

/-- A download to the standard output, and the server that it asks. -/
def reader : Session :=
  .client .download 40001 ⟨.v4 10 0 0 2, 69, 0⟩ (.writing .output) ∅ {} false 1

def ask : Opening := .request (.octetRequest .read "f" ∅)

def server : Endpoint := ⟨.v4 10 0 0 2, 5000, 0⟩

/-- A block of three bytes is written, and brings the transfer to its end. -/
theorem writes_threeBytes :
    ∃ s host run host' deeds deeds', Taking reader ask .output {} (.waiting s) host [] deeds ∧
      s.IsDoneBy (.datagram server (Packet.data 1 [7, 8, 9]).encode) host ∧
      Taking reader ask .output {} run host' [(1, [7, 8, 9])] deeds' ∧
      host'.output = [7, 8, 9] ∧ World.acks deeds' = [1] := by
  obtain ⟨s, host, run, host', deeds, deeds', hwaits, hblock, hsize, hsend, htakes, hacks⟩ :
      ∃ s host run host' deeds deeds', Taking reader ask .output {} (.waiting s) host [] deeds ∧
        s.block? (.datagram server (Packet.data 1 [7, 8, 9]).encode) = some (1, [7, 8, 9]) ∧
        s.sizeInForce = 512 ∧ host.sendFault host.sends = none ∧
        Taking reader ask .output {} run host' [(1, [7, 8, 9])] deeds' ∧
        World.acks deeds' = [1] := by
    have hwrites : (Run.start reader ask {}).1.Writes
        (.datagram server (Packet.data 1 [7, 8, 9]).encode) (Run.start reader ask {}).2.1 :=
      fun _ _ _ => rfl
    exact ⟨_, _, _, _, _, _, .start, rfl, rfl, rfl, .step .start _ rfl hwrites, rfl⟩
  obtain ⟨-, -, -, -, hcloses⟩ := writes_each_block_once .download (.download rfl rfl) hwaits
  obtain ⟨hstream, hcloses⟩ := hcloses s rfl
  obtain ⟨-, hheld | ⟨hnone, -⟩, -⟩ := writes_each_block_once .download (.download rfl rfl) htakes
  · refine ⟨s, host, run, host', deeds, deeds', hwaits, ?_, htakes, hheld, hacks⟩
    refine (hcloses _ host rfl).done.2 ⟨1, _, hblock, hstream ▸ rfl, hsend, ?_⟩
    rw [hsize]
    decide
  · exact nomatch hnone

end Taking

end TrivialFtp
