import TrivialFtp.Proofs.Standing

/-!
# Proofs: how a session stops

A session that is stopped has counted some of what it was about to do.  Which counts have moved, and
which datagram was tried last, is said here once for every way to stop: over a packet, over silence
and at the opening.

- `Stumble`, `Act.handle_stumbles`: how a packet stops a session.
- `Falter`, `Act.retry_falters`: how silence stops it.
- `Run.step_stops`, `Run.start_stops`: a turn goes on by a move, or ends in a stop.
-/

namespace TrivialFtp

/-- The datagram that was to go out, if the deed was about one. -/
def Deed.letter? : Deed → Option Datagram
  | .sent d _ | .unsent d _ => some d
  | _ => none

namespace World

/-- The datagrams that were to go out, whether they did or not, in order. -/
def tried (deeds : List Deed) : List Datagram := deeds.filterMap Deed.letter?

@[simp] theorem tried_append (l l' : List Deed) : tried (l ++ l') = tried l ++ tried l' :=
  List.filterMap_append

/-- There are more deeds, and no datagram was to go out. -/
def Hushed (deeds deeds' : List Deed) : Prop := ∃ more, deeds' = deeds ++ more ∧ tried more = []

theorem Hushed.refl (deeds : List Deed) : Hushed deeds deeds := ⟨[], (List.append_nil _).symm, rfl⟩

/-- If nothing is put on the wire at first and nothing after that, nothing is. -/
theorem Hushed.trans {l l₁ l₂ : List Deed} (h : Hushed l l₁) (h₁ : Hushed l₁ l₂) : Hushed l l₂ := by
  obtain ⟨more, rfl, hmore⟩ := h
  obtain ⟨more₁, rfl, hmore₁⟩ := h₁
  exact ⟨more ++ more₁, List.append_assoc .., by rw [tried_append, hmore, hmore₁]; rfl⟩

/-- A deed without a letter puts nothing on the wire. -/
theorem hushed_append {d : Deed} (hd : d.letter? = none) (deeds : List Deed) :
    Hushed deeds (deeds ++ [d]) :=
  ⟨[d], rfl, by rw [tried, List.filterMap_cons_none hd, List.filterMap_nil]⟩

end World

/-- To flush a stream is to send nothing. -/
theorem Scene.hushed_flushing (scene : Scene) :
    World.Hushed scene.deeds scene.flushing.deeds := by
  refine ⟨scene.session.stream.flushes, rfl, List.filterMap_eq_nil_iff.2 fun d hd => ?_⟩
  obtain ⟨target, rfl⟩ := Stream.eq_of_mem_flushes hd
  rfl

/-- To flush a file is not to try to send. -/
@[simp] theorem Scene.tried_flushing (scene : Scene) :
    World.tried scene.flushing.deeds = World.tried scene.deeds := by
  obtain ⟨more, hdeeds, hmore⟩ := scene.hushed_flushing
  rw [hdeeds, World.tried_append, hmore, List.append_nil]

/-- To look for a file is to send nothing. -/
theorem Scene.Looks.hushed {service : Service} {filename : String} {scene scene' : Scene}
    (h : scene.Looks service filename scene') : World.Hushed scene.deeds scene'.deeds := by
  obtain ⟨more, hdeeds, hmore⟩ := h.deeds
  refine ⟨more, hdeeds, List.filterMap_eq_nil_iff.2 fun d hd => ?_⟩
  obtain rfl | rfl := hmore d hd <;> rfl

/-! ### Over a packet -/

/-- The session is in the same phase of the same transfer, has counted nothing, and was to send
nothing. -/
structure Scene.Quiet (scene scene' : Scene) : Prop where
  tally : scene'.session.tally = scene.session.tally
  phase : scene'.session.phase = scene.session.phase
  role : scene'.session.role = scene.session.role
  hushed : World.Hushed scene.deeds scene'.deeds

theorem Scene.Quiet.refl (scene : Scene) : scene.Quiet scene := ⟨rfl, rfl, rfl, .refl _⟩

/-- A quiet act after a quiet act is quiet. -/
theorem Scene.Quiet.trans {scene scene₁ scene₂ : Scene} (h : scene.Quiet scene₁)
    (h₁ : scene₁.Quiet scene₂) : scene.Quiet scene₂ :=
  ⟨h₁.tally.trans h.tally, h₁.phase.trans h.phase, h₁.role.trans h.role, h.hushed.trans h₁.hushed⟩

/-- To show a packet is quiet. -/
theorem Scene.quiet_showing (scene : Scene) (packet : Packet) :
    scene.Quiet (scene.showing packet) := by
  unfold showing
  split
  · exact ⟨rfl, rfl, rfl, World.hushed_append rfl _⟩
  · exact .refl scene

theorem Scene.quiet_heard (scene : Scene) : scene.Quiet scene.heard := ⟨rfl, rfl, rfl, .refl _⟩

/-- A session takes blocks, or will when it is answered. -/
def Session.Takes (s : Session) : Prop := s.phase = .awaitingData ∨ s.role = .download

/-- What a session has counted when it is about to send a packet. -/
inductive Session.Charges (s : Session) : Packet → Tally → Prop where
  /-- The payload of the next block. -/
  | given {block : UInt16} {payload : Bytes} :
    Charges s (.data block payload) { s.tally with bytes := s.tally.bytes + payload.length }
  /-- The payload that was written. -/
  | taken {block : UInt16} {payload : Bytes} (htakes : s.Takes) :
    Charges s (.ack block) { s.tally with bytes := s.tally.bytes + payload.length }
  /-- A block that came again. -/
  | oldBlock {block : UInt16} (hfew : (s.tally.note block).exceeds block = false) :
    Charges s (.ack block) (s.tally.note block)
  /-- Nothing, for a packet that is neither a block nor a report. -/
  | other {packet : Packet} (hblock : packet.opcode ≠ .data) (hreport : packet.opcode ≠ .error) :
    Charges s packet s.tally

/-- How a packet stops a session. -/
inductive Stumble (scene : Scene) : Halt → Scene → Prop where
  /-- Nothing was counted, and no datagram was to go out. -/
  | quiet {halt : Halt} {scene' : Scene}
      (hfew : ∀ block, halt ≠ .failure (.tooManyDuplicates block))
      (htally : scene'.session.tally = scene.session.tally)
      (hhushed : World.Hushed scene.deeds scene'.deeds) : Stumble scene halt scene'
  | tooMany {block : UInt16} {scene' : Scene}
      (hmany : (scene.session.tally.note block).exceeds block = true)
      (htally : scene'.session.tally = scene.session.tally.note block)
      (hhushed : World.Hushed scene.deeds scene'.deeds) :
    Stumble scene (.failure (.tooManyDuplicates block)) scene'
  /-- A packet did not get out, which was counted before. -/
  | unsent {packet : Packet} {d : Datagram} {fault : Fault} {deeds : List Deed} {scene' : Scene}
      (hcharges : scene.session.Charges packet scene'.session.tally)
      (hbytes : d.bytes = packet.encode) (hhushed : World.Hushed scene.deeds deeds)
      (hdeeds : scene'.deeds = deeds ++ [.unsent d fault]) :
    Stumble scene (.failure (.io fault)) scene'

section Quiet

variable {scene scene₁ scene' : Scene}

/-- What is charged after a quiet act is charged to the session before it. -/
theorem Session.Charges.of_quiet {packet : Packet} {tally : Tally}
    (h : scene₁.session.Charges packet tally) (hquiet : scene.Quiet scene₁) :
    scene.session.Charges packet tally := by
  obtain ⟨htally, hphase, hrole, -⟩ := hquiet
  cases h with
  | given => exact htally ▸ .given
  | taken htakes =>
    unfold Takes at htakes
    rw [hphase, hrole] at htakes
    exact htally ▸ .taken htakes
  | oldBlock hfew =>
    rw [htally] at hfew
    exact htally ▸ .oldBlock hfew
  | other hblock hreport => exact htally ▸ .other hblock hreport

/-- What stops a session after some quiet would have stopped it before. -/
theorem Stumble.of_quiet {halt : Halt} (h : Stumble scene₁ halt scene')
    (hquiet : scene.Quiet scene₁) : Stumble scene halt scene' := by
  cases h with
  | quiet hfew htally hhushed =>
    exact .quiet hfew (htally.trans hquiet.tally) (hquiet.hushed.trans hhushed)
  | tooMany hmany htally hhushed =>
    rw [hquiet.tally] at hmany htally
    exact .tooMany hmany htally (hquiet.hushed.trans hhushed)
  | unsent hcharges hbytes hhushed hdeeds =>
    exact .unsent (hcharges.of_quiet hquiet) hbytes (hquiet.hushed.trans hhushed) hdeeds

end Quiet

namespace Act

variable {α β : Type}

/-- The act is quiet if it succeeds, and stops the session only as a packet may. -/
def Quietly (act : Act α) (scene : Scene) : Prop :=
  act.Ends scene (fun _ => scene.Quiet) (Stumble scene)

/-- The act stops the session only as a packet may. -/
def Stumbles (act : Act α) (scene : Scene) : Prop :=
  act.Ends scene (fun _ _ => True) (Stumble scene)

section Rules

variable {scene : Scene} {act : Act α} {k : α → Act β}

/-- Quiet acts may come before any other. -/
theorem Quietly.stumbles (h : act.Quietly scene)
    (hk : ∀ a scene', scene.Quiet scene' → (k a).Stumbles scene') : (act >>= k).Stumbles scene := by
  refine Ends.bind (Ends.mono h (fun a scene' hquiet => ?_) fun _ _ => id)
  exact Ends.mono (hk a scene' hquiet) (fun _ _ => id) fun _ _ h => h.of_quiet hquiet

theorem stumbles_pure (a : α) : (pure a : Act α).Stumbles scene := trivial

/-- A failure that is not over the count of duplicates is a stumble at which nothing was sent. -/
theorem stumbles_fail {f : Failure} (hf : ∀ block, f ≠ .tooManyDuplicates block) :
    (fail f : Act α).Stumbles scene :=
  Stumble.quiet (fun block h => hf block (Halt.failure.inj h)) rfl (.refl _)

/-- A deed without a letter is done quietly. -/
theorem quietly_record {d : Deed} (hd : d.letter? = none) : (record d).Quietly scene :=
  ⟨rfl, rfl, rfl, World.hushed_append hd _⟩

/-- A change that is not one of the counts. -/
theorem quietly_update {f : Session → Session}
    (htally : (f scene.session).tally = scene.session.tally)
    (hphase : (f scene.session).phase = scene.session.phase)
    (hrole : (f scene.session).role = scene.session.role) : (update f).Quietly scene :=
  ⟨htally, hphase, hrole, .refl _⟩

/-- Reading is quiet, whatever comes of it. -/
theorem quietly_readBlock (size : Nat) : (readBlock size).Quietly scene := by
  refine ends_readBlock (fun _ _ _ => ⟨rfl, rfl, rfl, .refl _⟩) fun m _ _ => ?_
  exact .quiet (fun block h => by cases m <;> cases h) rfl (.refl _)

theorem quietly_writeBlock (payload : Bytes) : (writeBlock payload).Quietly scene := by
  refine ends_writeBlock (fun _ _ => ⟨rfl, rfl, rfl, .refl _⟩) fun f _ _ => ?_
  exact .quiet (fun _ => nofun) rfl (.refl _)

theorem quietly_adopt (granted : Options) : (adopt granted).Quietly scene := by
  refine ends_adopt (fun _ _ => ⟨rfl, rfl, rfl, .refl _⟩) fun _ => ?_
  exact .quiet (fun _ => nofun) rfl (.refl _)

theorem quietly_vet (filename mode : String) : (vet filename mode).Quietly scene := by
  refine ends_vet (fun _ _ => .refl _) fun _ => ?_
  exact .quiet (fun _ => nofun) rfl (.refl _)

end Rules

variable {scene : Scene}

theorem quietly_openServed (service : Service) (filename : String) :
    (openServed service filename).Quietly scene := by
  have hlooks := openServed_looks service filename scene
  refine Ends.mono hlooks (fun _ scene' h => ?_) fun halt scene' h => ?_
  · exact ⟨congrArg Session.tally h.session, congrArg Session.phase h.session,
      congrArg Session.role h.session, h.hushed⟩
  · exact .quiet h.2 (congrArg Session.tally h.1.session) h.1.hushed

theorem quietly_createServed (service : Service) (filename : String) :
    (createServed service filename).Quietly scene := by
  refine createServed_ends (fun _ _ _ => ⟨rfl, rfl, rfl, World.hushed_append rfl _⟩) fun _ _ => ?_
  exact .quiet (fun _ => nofun) rfl (World.hushed_append rfl _)

theorem quietly_grant (requested : Options) (size : Option Nat) :
    (grant requested size).Quietly scene := ⟨rfl, rfl, rfl, .refl _⟩

/-- A packet that is sent without having been counted. -/
theorem stumbles_send (packet : Packet) (hblock : packet.opcode ≠ .data)
    (hreport : packet.opcode ≠ .error) : (send packet).Stumbles scene :=
  ends_send (fun _ => trivial) fun _ _ => .unsent (.other hblock hreport) rfl (.refl _) rfl

/-- What cannot fail may come after any act. -/
theorem Stumbles.bind {act : Act α} {k : α → Act β} (h : act.Stumbles scene)
    (hk : ∀ a scene', ∃ b scene'', (k a).run scene' = .ok b scene'') :
    (act >>= k).Stumbles scene := by
  refine Ends.bind (Ends.mono h (fun a scene' _ => ?_) fun _ _ => id)
  obtain ⟨b, scene'', hrun⟩ := hk a scene'
  rw [Ends, hrun]
  trivial

/-- A session that stops while it gives a block stops in reading it or in sending it. -/
theorem sendBlock_stumbles : sendBlock.Stumbles scene := by
  refine Stumbles.bind (ends_session ?_) fun _ _ => ⟨_, _, rfl⟩
  refine (quietly_readBlock _).stumbles fun payload scene₁ _ => ends_count (ends_session ?_)
  refine Ends.bind (ends_send (fun _ => trivial) fun f _ => ?_)
  exact .unsent .given rfl (.refl _) rfl

/-- One that stops over a block stops in writing it, in acknowledging it, or over a duplicate. -/
theorem receiveData_stumbles (htakes : scene.session.Takes) (block : UInt16) (payload : Bytes) :
    (receiveData block payload).Stumbles scene := by
  refine Ends.bind ?_
  change Stumbles (ite (block = scene.session.nextBlock) _ _) scene
  split
  · refine (quietly_writeBlock payload).stumbles fun _ scene₁ hquiet => ends_count ?_
    -- The block is counted before it is confirmed, so a lost confirmation leaves it counted.
    have htakes₁ : scene₁.session.Takes := by
      unfold Session.Takes at htakes ⊢
      rwa [hquiet.phase, hquiet.role]
    refine Ends.bind (ends_send (fun _ => trivial) fun f _ => ?_)
    exact .unsent (.taken htakes₁) rfl (.refl _) rfl
  · split
    · change Stumbles (ite (block = 0) (fail _ >>= _) (noteDuplicate block >>= _)) scene
      split
      · exact Ends.bind (ends_fail (.quiet (fun _ => nofun) rfl (.refl _)))
      · refine Ends.bind (ends_noteDuplicate (fun hfew => ?_) fun hmany => ?_)
        · refine Ends.bind (ends_transmit (fun _ => trivial) fun f _ => ?_)
          exact .unsent (.oldBlock hfew) rfl (.refl _) rfl
        · exact .tooMany hmany rfl (.refl _)
    · exact stumbles_fail fun _ => nofun

/-- One that stops over an acknowledgement stops over the next block or over a duplicate. -/
theorem receiveAck_stumbles (block : UInt16) : (receiveAck block).Stumbles scene := by
  refine ends_session ?_
  split
  · split
    · exact stumbles_pure _
    · exact (quietly_update rfl rfl rfl).stumbles fun _ _ _ => sendBlock_stumbles
  · split
    · refine Ends.bind (ends_noteDuplicate (fun _ => trivial) fun hmany => ?_)
      exact .tooMany hmany rfl (.refl _)
    · exact stumbles_fail fun _ => nofun

/-- A session that stops over its first block has tried no other. -/
theorem sendFirst_stumbles : sendFirst.Stumbles scene :=
  (quietly_update rfl rfl rfl).stumbles fun _ _ _ => sendBlock_stumbles

/-- A download may stumble over the first that it hears. -/
theorem replyToRead_stumbles (hrole : scene.session.role = .download) (packet : Packet)
    (source : Endpoint) : (replyToRead packet source).Stumbles scene := by
  refine (quietly_update rfl rfl rfl).stumbles fun _ scene₁ hquiet => ?_
  have hrole₁ := hquiet.role.trans hrole
  match packet with
  | .optionAck granted =>
    refine (quietly_adopt granted).stumbles fun _ _ _ => ?_
    exact (stumbles_send (.ack 0) nofun nofun).bind fun _ _ => ⟨_, _, rfl⟩
  | .data block payload =>
    refine (quietly_update rfl rfl rfl).stumbles fun _ scene₂ hquiet₂ => ?_
    refine (quietly_update rfl rfl rfl).stumbles fun _ scene₃ hquiet₃ => ?_
    exact receiveData_stumbles (.inr ((hquiet₂.trans hquiet₃).role.trans hrole₁)) block payload
  | .ack _ => exact stumbles_fail fun _ => nofun
  | .request .. => exact stumbles_fail fun _ => nofun
  | .error .. => exact stumbles_fail fun _ => nofun

theorem replyToWrite_stumbles (packet : Packet) (source : Endpoint) :
    (replyToWrite packet source).Stumbles scene := by
  refine (quietly_update rfl rfl rfl).stumbles fun _ _ _ => ?_
  match packet with
  | .optionAck granted => exact (quietly_adopt granted).stumbles fun _ _ _ => sendFirst_stumbles
  | .ack block =>
    change Stumbles (ite (block = 0) _ _) _
    split
    · exact (quietly_update rfl rfl rfl).stumbles fun _ _ _ => sendFirst_stumbles
    · exact stumbles_pure _
  | .data .. => exact stumbles_fail fun _ => nofun
  | .request .. => exact stumbles_fail fun _ => nofun
  | .error .. => exact stumbles_fail fun _ => nofun

/-- A server may stumble over a request to read, and has then sent nothing before. -/
theorem serveRead_stumbles (filename mode : String) (requested : Options) (source : Endpoint) :
    (serveRead filename mode requested source).Stumbles scene := by
  refine (quietly_update rfl rfl rfl).stumbles fun _ _ _ => ?_
  refine (quietly_vet filename mode).stumbles fun service _ _ => ?_
  refine (quietly_openServed service filename).stumbles fun opened _ _ => ?_
  refine (quietly_update rfl rfl rfl).stumbles fun _ _ _ => ?_
  refine (quietly_grant requested _).stumbles fun granted _ _ => ?_
  split
  · exact sendFirst_stumbles
  · exact (stumbles_send (.optionAck granted) nofun nofun).bind fun _ _ => ⟨_, _, rfl⟩

theorem serveWrite_stumbles (filename mode : String) (requested : Options) (source : Endpoint) :
    (serveWrite filename mode requested source).Stumbles scene := by
  refine (quietly_update rfl rfl rfl).stumbles fun _ _ _ => ?_
  refine (quietly_vet filename mode).stumbles fun service _ _ => ?_
  refine (quietly_createServed service filename).stumbles fun _ _ _ => ?_
  refine (quietly_grant requested _).stumbles fun granted _ _ => ?_
  split
  · exact (stumbles_send (.ack 0) nofun nofun).bind fun _ _ => ⟨_, _, rfl⟩
  · exact (stumbles_send (.optionAck granted) nofun nofun).bind fun _ _ => ⟨_, _, rfl⟩

/-- **How a packet stops a session.**  Nothing was counted, or a block was noted once too often, or
one datagram did not get out and what it was about had been counted. -/
theorem handle_stumbles (packet : Packet) (source : Endpoint) :
    (handle packet source).Stumbles scene := by
  have hunexpected : ∀ phase : Phase, Stumbles (unexpected packet phase : Act Phase) scene :=
    fun _ => stumbles_fail fun _ => nofun
  unfold handle
  refine ends_session ?_
  split
  · exact stumbles_fail fun _ => nofun
  -- By phase: before the transfer, at its start, the three in the middle, and the two at its end.
  split
  · unfold takeUp
    split
    · exact serveRead_stumbles _ _ _ source
    · exact serveWrite_stumbles _ _ _ source
    · exact stumbles_fail fun _ => nofun
  · split
    · next hrole => exact replyToRead_stumbles hrole packet source
    · exact replyToWrite_stumbles packet source
    · exact hunexpected _
  · next hphase =>
    split
    · exact receiveData_stumbles (.inl hphase) _ _
    · exact hunexpected _
  · split
    · exact receiveAck_stumbles _
    · exact hunexpected _
  · split
    · exact receiveAck_stumbles _
    · exact hunexpected _
  · exact hunexpected _
  · exact hunexpected _

end Act

/-! ### Over silence -/

/-- How silence stops a session. -/
inductive Falter (scene : Scene) : Halt → Scene → Prop where
  | impatient : Falter scene (.failure (.timedOut scene.session.retries)) scene
  /-- The last packet is of a block that has no room for another duplicate. -/
  | tooMany {packet : Packet} {scene' : Scene}
      (hmany : (scene.session.tally.note packet.block).exceeds packet.block = true)
      (htally : scene'.session.tally = { scene.session.tally.note packet.block with
        resentBytes := scene.session.tally.resentBytes + packet.encode.length })
      (hlast : scene.session.lastSent = some packet) (hdeeds : scene'.deeds = scene.deeds) :
    Falter scene (.failure (.tooManyDuplicates packet.block)) scene'
  /-- The last packet does not get out again. -/
  | unsent {packet : Packet} {fault : Fault} {scene' : Scene}
      (hlast : scene.session.lastSent = some packet)
      (hfew : (scene.session.tally.note packet.block).exceeds packet.block = false)
      (htally : scene'.session.tally = { scene.session.tally.note packet.block with
        resentBytes := scene.session.tally.resentBytes + packet.encode.length })
      (hdeeds : scene'.deeds = scene.deeds ++ [.unsent (scene.session.letter packet) fault]) :
    Falter scene (.failure (.io fault)) scene'

/-- A session stops after a timeout because it cannot send again, has done so too often, or has
noted the block of its packet too often. -/
theorem Act.retry_falters (scene : Scene) : retry.Ends scene (fun _ _ => True) (Falter scene) := by
  refine ends_session ?_
  change Ends (ite (scene.session.timing.retries ≤ scene.session.retries) (fail _ >>= _)
    (update _ >>= fun _ => resend)) _ _ _
  split
  · exact Ends.bind (ends_fail .impatient)
  · refine ends_update (ends_session ?_)
    dsimp only
    split
    · exact ends_pure trivial
    · next packet hlast =>
      refine ends_count (Ends.bind (ends_noteDuplicate (fun hfew => ?_) fun hmany => ?_))
      · refine Ends.bind (ends_transmit (fun _ => trivial) fun f _ => ?_)
        exact .unsent hlast hfew rfl rfl
      · exact .tooMany hmany rfl hlast rfl

/-- How an arrival stops a session that waits. -/
inductive Stop : Arrival → Scene → Halt → Scene → Prop where
  | stumble {source : Endpoint} {bytes : Bytes} {packet : Packet} {scene scene' : Scene}
      {halt : Halt} (hown : scene.session.isForeign source = false)
      (hread : Packet.decode (bytes.take Act.longestPacket) = .ok packet)
      (hstumble : Stumble scene halt scene') :
    Stop (.datagram source bytes) scene halt scene'
  | malformed {source : Endpoint} {bytes : Bytes} {m : Malformed} {scene : Scene}
      (hown : scene.session.isForeign source = false)
      (hread : Packet.decode (bytes.take Act.longestPacket) = .error m)
      (htid : scene.session.tid.isSome = true) :
    Stop (.datagram source bytes) scene (.failure (.malformed m)) scene.heard
  | impatient {source : Endpoint} {bytes : Bytes} {scene scene₁ scene' : Scene} {halt : Halt}
      (hdrop : Drop source bytes scene scene₁) (hfalter : Falter scene₁.tick halt scene') :
    Stop (.datagram source bytes) scene halt scene'
  | silent {scene scene' : Scene} {halt : Halt} (hfalter : Falter scene halt scene') :
    Stop .silence scene halt scene'
  | fault {f : Fault} {scene : Scene} : Stop (.fault f) scene (.failure (.io f)) scene

/-- A packet that stops a session is one that it stumbles over. -/
theorem Act.dispatch_stumbles (scene : Scene) (packet : Packet) (source : Endpoint) :
    (dispatch packet source).Stumbles scene := by
  have hhandle : ∀ scene₁, (handle packet source >>= fun phase =>
      update fun s => { s with phase, retries := 0 }).Stumbles scene₁ := fun _ =>
    (handle_stumbles packet source).bind fun _ _ => ⟨_, _, rfl⟩
  refine ends_session ?_
  split
  · exact (quietly_record rfl).stumbles fun _ _ _ => hhandle _
  · exact hhandle scene

/-- **How an arrival stops a session.** -/
theorem Act.step_stops (scene : Scene) (arrival : Arrival) :
    (step arrival).Ends scene (fun _ _ => True) (Stop arrival scene) := by
  match arrival with
  | .silence => exact (retry_falters scene).mono (fun _ _ => id) fun _ _ => .silent
  | .fault f => exact .fault
  | .datagram source bytes =>
    -- A datagram that is discarded is no answer, so it may be time to ask again.
    have hdiscarded : ∀ scene₁, Drop source bytes scene scene₁ →
        Ends (do if (← session).overdue (← now) then retry) scene₁ (fun _ _ => True)
          (Stop (.datagram source bytes) scene) := by
      intro scene₁ hdrop
      change Ends (ite (scene₁.session.overdue (scene₁.host.clock + 1) = true) retry (pure ()))
        scene₁.tick _ _
      split
      · exact (retry_falters scene₁.tick).mono (fun _ _ => id) fun _ _ => .impatient hdrop
      · exact ends_pure trivial
    unfold step
    refine Ends.bind (ends_session ?_)
    split
    · next hforeign => exact hdiscarded _ (.foreign hforeign)
    · next hown =>
      have hown := Bool.eq_false_iff.2 hown
      refine ends_now (ends_update ?_)
      cases hread : Packet.decode (bytes.take longestPacket) with
      | ok packet =>
        refine Ends.bind (Ends.mono (dispatch_stumbles scene.heard packet source)
          (fun _ _ _ => trivial) fun _ _ hstumble => ?_)
        exact .stumble hown hread (hstumble.of_quiet scene.quiet_heard)
      | error m =>
        refine ends_session ?_
        change Ends (ite (scene.session.tid.isSome = true) (fail _ >>= _) (discard >>= _))
          scene.heard _ _
        split
        · next htid => exact Ends.bind (ends_fail (.malformed hown hread htid))
        · next htid =>
          exact hdiscarded _ (.unreadable hown hread (Option.not_isSome_iff_eq_none.1 htid))

/-! ### At the opening -/

/-- A client's request is neither a block nor a report. -/
theorem Begins.request_opcode {session : Session} {packet : Packet}
    (h : Begins session (.request packet)) :
    packet.opcode ≠ .data ∧ packet.opcode ≠ .error := by
  cases h <;> exact ⟨nofun, nofun⟩

/-- **What keeps a session from opening** is what would stop it over a packet. -/
theorem Act.start_stumbles {session : Session} {opening : Opening}
    (hbegins : Begins session opening) (scene : Scene) : (start opening).Stumbles scene := by
  match opening with
  | .request packet =>
    obtain ⟨hblock, hreport⟩ := hbegins.request_opcode
    exact (stumbles_send packet hblock hreport).bind fun _ _ => ⟨_, _, rfl⟩
  | .answer packet source => exact dispatch_stumbles scene packet source

/-! ### Turns -/

/-- What is known of an act from two sides holds at once. -/
theorem Act.Ends.and {α : Type} {act : Act α} {scene : Scene} {done done' : α → Scene → Prop}
    {stopped stopped' : Halt → Scene → Prop} (h : act.Ends scene done stopped)
    (h' : act.Ends scene done' stopped') :
    act.Ends scene (fun a scene' => done a scene' ∧ done' a scene')
      fun halt scene' => stopped halt scene' ∧ stopped' halt scene' := by
  unfold Ends at h h' ⊢
  cases hrun : act.run scene with
  | ok a scene' =>
    rw [hrun] at h h'
    exact ⟨h, h'⟩
  | error halt scene' =>
    rw [hrun] at h h'
    exact ⟨h, h'⟩

namespace Run

/-- What an arrival comes to, told so that a stop says what was sent and counted. -/
theorem step_stops (s : Session) (arrival : Arrival) (host : Host) :
    Outcome (Move arrival ⟨s, host, []⟩) (Stop arrival ⟨s, host, []⟩)
      ((waiting s).step arrival host) :=
  settle_outcome (((Act.step_ends _ arrival).and (Act.step_stops _ arrival)).mono
    (fun _ _ => And.left) fun _ _ => And.right)

/-- What the start of a session comes to, told in the same way. -/
theorem start_stops {session : Session} {opening : Opening} (hbegins : Begins session opening)
    (host : Host) :
    Outcome (Opened opening ⟨session, host, []⟩) (Stumble ⟨session, host, []⟩)
      (start session opening host) :=
  settle_outcome (((Act.start_ends _ opening).and (Act.start_stumbles hbegins _)).mono
    (fun _ _ => And.left) fun _ _ => And.right)

end Run

/-- What has become of a session after a turn, and what it has done meanwhile.  A session that fails
did so at a stop, or when it closed its stream, which is flushed then and only then; and it has told
its peer. -/
inductive Upshot (done : Scene → Prop) (stopped : Halt → Scene → Prop) :
    Run → List Deed → Prop where
  | waits {scene : Scene} (hdone : done scene) (hphase : scene.session.phase.isTerminal = false) :
    Upshot done stopped (.waiting scene.session) scene.deeds
  | completes {scene : Scene} {now : Nat} (hdone : done scene) :
    Upshot done stopped (.ended (.completed (scene.session.tally.finish now)))
      scene.flushing.deeds
  | unclosed {fault : Fault} {scene : Scene} {now : Nat} (hdone : done scene) :
    Upshot done stopped (.ended (.failed (.io fault) (scene.session.tally.finish now)))
      (Run.notified (.io fault) scene.flushing).deeds
  | fails {f : Failure} {scene : Scene} {now : Nat} (hstopped : stopped (.failure f) scene) :
    Upshot done stopped (.ended (.failed f (scene.session.tally.finish now)))
      (Run.notified f scene).deeds
  | crashes {scene : Scene} (hstopped : stopped .crash scene) :
    Upshot done stopped (.ended .crashed) scene.deeds

/-- Every outcome of a turn has its upshot. -/
theorem Outcome.upshot {done : Scene → Prop} {stopped : Halt → Scene → Prop}
    {result : Run × Host × List Deed} (h : Outcome done stopped result) :
    Upshot done stopped result.1 result.2.2 := by
  cases h with
  | waits hdone hphase => exact .waits hdone hphase
  | @concludes scene hdone =>
    cases hclose : scene.session.stream.closeFault scene.host with
    | none =>
      rw [Run.finish_none hclose]
      exact .completes hdone
    | some fault =>
      rw [Run.finish_fault hclose, Run.finish_some]
      exact .unclosed hdone
  | fails hstopped =>
    rw [Run.finish_some]
    exact .fails hstopped
  | crashes hstopped => exact .crashes hstopped

end TrivialFtp
