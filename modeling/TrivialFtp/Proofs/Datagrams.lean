import TrivialFtp.Proofs.Accounts
import TrivialFtp.Proofs.Destinations

/-!
# Proofs: every block fits into a datagram

A session reads no more of its stream at once than the block size in force, and that size changes
only when options are settled.  So whatever is asked of a session, in whatever order, no block is
longer than the size in force, be it sent, sent again or kept back by the host: none is too long for
a datagram, and a session that hears one hears all of it.

- `Act.Still`: acts that send nothing and keep the packet to be sent again.
- `Act.Fitting`: acts whose blocks are no longer than the block size in force when they end.
- `Call`, `Called`: what can be asked of a session, and the states that this brings it to.
- `Called.blocks_fit`: the blocks of every call.
- `Lives.blocks_carried`: the blocks of a whole life.
-/

namespace TrivialFtp

/-! ### Bounds on what is sent -/

namespace Packet

/-- A packet carries no more than so many bytes of a file. -/
def Fits (size : Nat) : Packet → Prop
  | data _ payload => payload.length ≤ size
  | request .. | ack _ | error .. | optionAck _ => True

variable {p : Packet}

/-- A packet that is no block fits any size. -/
theorem fits_of_opcode {size : Nat} (h : p.opcode ≠ .data) : p.Fits size := by
  cases p with
  | data => exact absurd rfl h
  | request | ack | error | optionAck => trivial

/-- Nothing else has the bytes of a block. -/
theorem eq_data_of_encode {number : UInt16} {payload : Bytes}
    (h : p.encode = (data number payload).encode) : p = data number payload := by
  have hread := decode_encode_data number payload
  rw [← h] at hread
  have hkind := opcode_decode hread
  cases p with
  | data => exact Except.ok.inj ((decode_encode_data _ _).symm.trans hread)
  | request direction => cases direction <;> exact nomatch hkind
  | ack | error | optionAck => exact nomatch hkind

end Packet

namespace World

variable {size : Nat} {deeds : List Deed}

/-- No datagram that was to go out carries more than so many bytes of a file. -/
def Fitted (size : Nat) (deeds : List Deed) : Prop :=
  ∀ d ∈ tried deeds, ∃ packet : Packet, d.bytes = packet.encode ∧ packet.Fits size

/-- Where nothing was tried everything fits. -/
theorem fitted_of_mute (h : tried deeds = []) : Fitted size deeds := by
  intro d hd
  rw [h] at hd
  exact absurd hd List.not_mem_nil

/-- A datagram that fits may be added. -/
theorem Fitted.letter (h : Fitted size deeds) {packet : Packet} {d : Datagram} {deed : Deed}
    (hletter : deed.letter? = some d) (hbytes : d.bytes = packet.encode)
    (hfits : packet.Fits size) : Fitted size (deeds ++ [deed]) := by
  intro letter hd
  rw [tried_append, tried, tried, List.filterMap_cons_some hletter, List.filterMap_nil] at hd
  rcases List.mem_append.1 hd with hd | hd
  · exact h letter hd
  · obtain rfl := List.mem_singleton.1 hd
    exact ⟨packet, hbytes, hfits⟩

/-- A report of a failure carries no byte of a file. -/
theorem Fitted.notified {scene : Scene} (h : Fitted size scene.deeds) (f : Failure) :
    Fitted size (Run.notified f scene).deeds := by
  unfold Run.notified
  split
  · exact h
  · next code message _ =>
    have hreport : (Packet.report code message).Fits size := trivial
    -- The host may refuse to send it: it has been tried all the same.
    refine h.letter (d := scene.session.letter (.report code message)) ?_ rfl hreport
    split <;> rfl

/-- Neither does a flush carry any. -/
theorem Fitted.flushing {scene : Scene} (h : Fitted size scene.deeds) :
    Fitted size scene.flushing.deeds := by
  unfold Fitted
  rwa [Scene.tried_flushing]

end World

/-- A session that was to send again what it keeps would send no more than a block. -/
def Session.KeepsFitting (s : Session) : Prop :=
  ∀ packet, s.lastSent = some packet → packet.Fits s.blockSize

/-- A session keeps a block to be sent again. -/
def Session.KeepsBlock (s : Session) : Prop :=
  ∃ number payload, s.lastSent = some (.data number payload)

/-- No block kept or tried is longer than the block size in force. -/
structure Scene.Fits (scene : Scene) : Prop where
  kept : scene.session.KeepsFitting
  tried : World.Fitted scene.session.blockSize scene.deeds

/-- No datagram was to go out, and the packet kept is the same. -/
structure Scene.Still (scene scene' : Scene) : Prop where
  lastSent : scene'.session.lastSent = scene.session.lastSent
  hushed : World.Hushed scene.deeds scene'.deeds

theorem Scene.Still.refl (scene : Scene) : scene.Still scene := ⟨rfl, .refl _⟩

theorem Scene.Still.mute {scene scene' : Scene} (h : scene.Still scene')
    (hmute : World.tried scene.deeds = []) : World.tried scene'.deeds = [] := by
  obtain ⟨more, hdeeds, hmore⟩ := h.hushed
  rw [hdeeds, World.tried_append, hmute, hmore, List.append_nil]

/-- The terms do not change while a block is kept. -/
theorem Session.KeepsFitting.of_kept {s s' : Session} (h : s.KeepsFitting)
    (hlast : s'.lastSent = s.lastSent) (hterms : s.KeepsBlock → s'.terms = s.terms) :
    s'.KeepsFitting := by
  intro packet hpacket
  have hkept := hlast.symm.trans hpacket
  cases packet with
  | data number payload =>
    unfold blockSize
    rw [hterms ⟨number, payload, hkept⟩]
    exact h _ hkept
  | request | ack | error | optionAck => trivial

namespace Act

variable {α β : Type} {scene : Scene}

/-! ### Acts that send nothing -/

/-- However the act ends, no datagram was to go out, and the packet kept is the same. -/
def Still (act : Act α) : Prop :=
  ∀ scene, act.Ends scene (fun _ => scene.Still) fun _ => scene.Still

theorem still_adopt (granted : Options) : (adopt granted).Still := fun scene =>
  ends_adopt (fun _ _ => ⟨rfl, .refl _⟩) fun _ => .refl scene

theorem still_vet (filename mode : String) : (vet filename mode).Still := fun scene =>
  ends_vet (fun _ _ => .refl scene) fun _ => .refl scene

theorem still_grant (requested : Options) (sizeReply : Option Nat) :
    (grant requested sizeReply).Still := fun _ => ⟨rfl, .refl _⟩

theorem still_openServed (service : Service) (filename : String) :
    (openServed service filename).Still := by
  have hstill : ∀ {scene scene' : Scene}, scene.Looks service filename scene' →
      scene.Still scene' := fun h => ⟨congrArg Session.lastSent h.session, h.hushed⟩
  intro scene
  exact Ends.mono (openServed_looks service filename scene) (fun _ _ => hstill)
    fun _ _ h => hstill h.1

theorem still_createServed (service : Service) (filename : String) :
    (createServed service filename).Still := fun _ =>
  createServed_ends (fun _ _ _ => ⟨rfl, World.hushed_append rfl _⟩)
    fun _ _ => ⟨rfl, World.hushed_append rfl _⟩

/-! ### The block size in force -/

/-- No block tried is longer than the block size in force when the act ends.  If it comes through,
neither is a block that is kept; if it does not, the packet kept is the one kept before. -/
def Fitting (act : Act α) (scene : Scene) : Prop :=
  act.Ends scene (fun _ => Scene.Fits) fun _ scene' =>
    World.Fitted scene'.session.blockSize scene'.deeds ∧
      scene'.session.lastSent = scene.session.lastSent

/-- Before anything is sent the terms may change. -/
theorem Still.fitting {act : Act α} {k : α → Act β} (h : act.Still)
    (hmute : World.tried scene.deeds = [])
    (hk : ∀ a scene', World.tried scene'.deeds = [] → (k a).Fitting scene') :
    (act >>= k).Fitting scene := by
  refine Ends.bind (Ends.mono (h scene) (fun a scene₁ hstill => ?_) fun _ scene₁ hstill => ?_)
  · refine Ends.mono (hk a scene₁ (hstill.mute hmute)) (fun _ _ => id) ?_
    rintro _ scene₂ ⟨htried, hlast⟩
    exact ⟨htried, hlast.trans hstill.lastSent⟩
  · exact ⟨World.fitted_of_mute (hstill.mute hmute), hstill.lastSent⟩

/-- What cannot fail, and leaves alone what fits, may come after any act. -/
theorem Fitting.bind {act : Act α} {k : α → Act β} (h : act.Fitting scene)
    (hk : ∀ a scene', scene'.Fits → ∃ b scene'', (k a).run scene' = .ok b scene'' ∧ scene''.Fits) :
    (act >>= k).Fitting scene := by
  refine Ends.bind (Ends.mono h (fun a scene' hfits => ?_) fun _ _ => id)
  obtain ⟨b, scene'', hrun, hfits⟩ := hk a scene' hfits
  rw [Ends, hrun]
  exact hfits

theorem fitting_fail {f : Failure} (hmute : World.tried scene.deeds = []) :
    (fail f : Act α).Fitting scene := ends_fail ⟨World.fitted_of_mute hmute, rfl⟩

theorem fitting_pure {a : α} (hmute : World.tried scene.deeds = [])
    (hkept : scene.session.KeepsFitting) : (pure a : Act α).Fitting scene :=
  ends_pure ⟨hkept, World.fitted_of_mute hmute⟩

/-- A packet that fits the size in force is sent as one that fits. -/
theorem transmit_fitting {packet : Packet} {again : Bool} (hmute : World.tried scene.deeds = [])
    (hkept : scene.session.KeepsFitting) (hfits : packet.Fits scene.session.blockSize) :
    (transmit packet.encode again).Fitting scene :=
  have htried : World.Fitted scene.session.blockSize scene.deeds := World.fitted_of_mute hmute
  ends_transmit (fun _ => ⟨hkept, htried.letter rfl rfl hfits⟩)
    fun _ _ => ⟨htried.letter rfl rfl hfits, rfl⟩

/-- What is sent replaces what was kept. -/
theorem send_fitting {packet : Packet} (hmute : World.tried scene.deeds = [])
    (hfits : packet.Fits scene.session.blockSize) : (send packet).Fitting scene := by
  have htried : World.Fitted scene.session.blockSize scene.deeds := World.fitted_of_mute hmute
  refine ends_send (fun _ => ⟨?_, htried.letter rfl rfl hfits⟩)
    fun _ _ => ⟨htried.letter rfl rfl hfits, rfl⟩
  rintro _ hlast
  obtain rfl := Option.some.inj hlast
  exact hfits

/-- **The next block.**  What is read of the stream is no longer than the block size. -/
theorem sendData_fitting (hmute : World.tried scene.deeds = []) : sendData.Fitting scene := by
  refine ends_session (Ends.bind (ends_readBlock ?_ ?_))
  · intro payload stream hread
    have hblock : (Packet.data scene.session.nextBlock payload).Fits scene.session.blockSize :=
      Stream.length_le_of_read hread
    refine ends_count (ends_session ?_)
    exact Fitting.bind (send_fitting hmute hblock) fun _ _ hfits => ⟨_, _, rfl, hfits⟩
  · intro m stream _
    exact ⟨World.fitted_of_mute hmute, rfl⟩

/-- A block is read in the size in force, so it fits. -/
theorem sendBlock_fitting (hmute : World.tried scene.deeds = []) : sendBlock.Fitting scene :=
  (sendData_fitting hmute).bind fun _ _ hfits => ⟨_, _, rfl, hfits.kept, hfits.tried⟩

theorem sendFirst_fitting (hmute : World.tried scene.deeds = []) : sendFirst.Fitting scene :=
  ends_update (sendBlock_fitting hmute)

/-- A block that comes again is confirmed, and what is kept is kept. -/
theorem receiveData_fitting {block : UInt16} (payload : Bytes)
    (hmute : World.tried scene.deeds = [])
    (hkept : block ≠ 0 → block < scene.session.nextBlock → scene.session.KeepsFitting) :
    (receiveData block payload).Fitting scene := by
  refine ends_session ?_
  change Fitting (ite (block = scene.session.nextBlock) _ _) scene
  split
  · refine Ends.bind (ends_writeBlock (fun host _ => ends_count ?_) fun f host _ => ?_)
    · exact Fitting.bind (send_fitting hmute trivial) fun _ _ hfits =>
        ⟨_, _, rfl, hfits.kept, hfits.tried⟩
    · exact ⟨World.fitted_of_mute hmute, rfl⟩
  · split
    · next hold =>
      change Fitting (ite (block = 0) (fail _ >>= _) (noteDuplicate block >>= _)) scene
      split
      · exact Ends.bind (ends_fail ⟨World.fitted_of_mute hmute, rfl⟩)
      · next hzero =>
        have hack : (Packet.ack block).Fits scene.session.blockSize := trivial
        refine Ends.bind (ends_noteDuplicate (fun _ => ?_) fun _ => ?_)
        · exact Fitting.bind (transmit_fitting hmute (hkept hzero hold) hack) fun _ _ hfits =>
            ⟨_, _, rfl, hfits⟩
        · exact ⟨World.fitted_of_mute hmute, rfl⟩
    · exact fitting_fail hmute

/-- An acknowledgement leads to a block in the size in force, if to any. -/
theorem receiveAck_fitting (block : UInt16) (hmute : World.tried scene.deeds = [])
    (hkept : scene.session.KeepsFitting) : (receiveAck block).Fitting scene := by
  refine ends_session ?_
  split
  · split
    · exact fitting_pure hmute hkept
    · exact ends_update (sendBlock_fitting hmute)
  · split
    · refine Ends.bind (ends_noteDuplicate (fun _ => ?_) fun _ => ?_)
      · exact fitting_pure hmute hkept
      · exact ⟨World.fitted_of_mute hmute, rfl⟩
    · exact fitting_fail hmute

/-- What a download answers first is an acknowledgement. -/
theorem replyToRead_fitting (packet : Packet) (source : Endpoint)
    (hmute : World.tried scene.deeds = []) : (replyToRead packet source).Fitting scene := by
  refine ends_update ?_
  match packet with
  | .optionAck granted =>
    refine (still_adopt granted).fitting hmute fun _ scene₁ hmute₁ => ?_
    exact Fitting.bind (send_fitting hmute₁ trivial) fun _ _ hfits =>
      ⟨_, _, rfl, hfits.kept, hfits.tried⟩
  | .data block payload =>
    -- No block comes before block 1, so what was kept on other terms is not kept on.
    refine ends_update (ends_update (receiveData_fitting payload hmute fun hzero hold => ?_))
    exact absurd (UInt16.toNat_inj.1 (Nat.lt_one_iff.1 hold) : block = 0) hzero
  | .ack _ | .error _ _ | .request _ _ _ _ => exact fitting_fail hmute

/-- An upload sends its first block in the size that has been granted. -/
theorem replyToWrite_fitting (packet : Packet) (source : Endpoint)
    (hmute : World.tried scene.deeds = []) (hkept : scene.session.KeepsFitting) :
    (replyToWrite packet source).Fitting scene := by
  refine ends_update ?_
  match packet with
  | .optionAck granted =>
    exact (still_adopt granted).fitting hmute fun _ _ hmute₁ => sendFirst_fitting hmute₁
  | .ack block =>
    change Fitting (ite (block = 0) (update _ >>= fun _ => sendFirst) _) _
    split
    · exact ends_update (sendFirst_fitting hmute)
    · exact fitting_pure hmute hkept
  | .data _ _ | .error _ _ | .request _ _ _ _ => exact fitting_fail hmute

/-- A server sends its first block in the size that it grants. -/
theorem serveRead_fitting (filename mode : String) (requested : Options) (source : Endpoint)
    (hmute : World.tried scene.deeds = []) :
    (serveRead filename mode requested source).Fitting scene := by
  refine ends_update ((still_vet filename mode).fitting hmute fun service _ hmute => ?_)
  refine (still_openServed service filename).fitting hmute fun opened _ hmute => ?_
  refine ends_update ((still_grant requested _).fitting hmute fun granted _ hmute => ?_)
  split
  · exact sendFirst_fitting hmute
  · exact Fitting.bind (send_fitting hmute trivial) fun _ _ hfits =>
      ⟨_, _, rfl, hfits.kept, hfits.tried⟩

theorem serveWrite_fitting (filename mode : String) (requested : Options) (source : Endpoint)
    (hmute : World.tried scene.deeds = []) :
    (serveWrite filename mode requested source).Fitting scene := by
  refine ends_update ((still_vet filename mode).fitting hmute fun service _ hmute => ?_)
  refine (still_createServed service filename).fitting hmute fun _ _ hmute => ?_
  refine (still_grant requested _).fitting hmute fun granted scene₁ hmute => ?_
  change Fitting (ite (granted.isEmpty = true) (sendAck 0 >>= _) (send _ >>= _)) scene₁
  split
  all_goals
    exact Fitting.bind (send_fitting hmute trivial) fun _ _ hfits =>
      ⟨_, _, rfl, hfits.kept, hfits.tried⟩

/-- **A packet**, whatever the phase. -/
theorem handle_fitting (packet : Packet) (source : Endpoint)
    (hmute : World.tried scene.deeds = []) (hkept : scene.session.KeepsFitting) :
    (handle packet source).Fitting scene := by
  unfold handle
  refine ends_session ?_
  split
  · exact fitting_fail hmute
  -- By phase: before the transfer, at its start, the three in the middle, and the two at its end.
  split
  · unfold takeUp
    split
    · exact serveRead_fitting _ _ _ source hmute
    · exact serveWrite_fitting _ _ _ source hmute
    · exact fitting_fail hmute
  · split
    · exact replyToRead_fitting packet source hmute
    · exact replyToWrite_fitting packet source hmute hkept
    · exact fitting_fail hmute
  · split
    · exact receiveData_fitting _ hmute fun _ _ => hkept
    · exact fitting_fail hmute
  · split
    · exact receiveAck_fitting _ hmute hkept
    · exact fitting_fail hmute
  · split
    · exact receiveAck_fitting _ hmute hkept
    · exact fitting_fail hmute
  · exact fitting_fail hmute
  · exact fitting_fail hmute

/-- Whatever packet is met, what is sent fits the size that is in force afterwards. -/
theorem dispatch_fitting (packet : Packet) (source : Endpoint)
    (hmute : World.tried scene.deeds = []) (hkept : scene.session.KeepsFitting) :
    (dispatch packet source).Fitting scene := by
  have hhandle : ∀ scene : Scene, World.tried scene.deeds = [] → scene.session.KeepsFitting →
      (handle packet source >>= fun phase =>
        update fun s => { s with phase, retries := 0 }).Fitting scene := fun _ hmute hkept =>
    (handle_fitting packet source hmute hkept).bind fun _ _ hfits =>
      ⟨_, _, rfl, hfits.kept, hfits.tried⟩
  refine ends_session ?_
  split
  · refine ends_record (hhandle _ ?_ hkept)
    rw [World.tried_append, hmute]
    rfl
  · exact hhandle scene hmute hkept

/-- What is sent again was kept. -/
theorem resend_fitting (hmute : World.tried scene.deeds = [])
    (hkept : scene.session.KeepsFitting) : resend.Fitting scene := by
  refine ends_session ?_
  split
  · exact fitting_pure hmute hkept
  · next packet hlast =>
    refine ends_count (Ends.bind (ends_noteDuplicate (fun _ => ?_) fun _ => ?_))
    · exact Fitting.bind (transmit_fitting hmute hkept (hkept packet hlast)) fun _ _ hfits =>
        ⟨_, _, rfl, hfits.kept, hfits.tried⟩
    · exact ⟨World.fitted_of_mute hmute, rfl⟩

/-- What goes out again fits, since the size has not changed since it was sent. -/
theorem retry_fitting (hmute : World.tried scene.deeds = [])
    (hkept : scene.session.KeepsFitting) : retry.Fitting scene := by
  refine ends_session ?_
  change Fitting (ite (scene.session.timing.retries ≤ scene.session.retries) (fail _ >>= _)
    (update _ >>= fun _ => resend)) scene
  split
  · exact Ends.bind (ends_fail ⟨World.fitted_of_mute hmute, rfl⟩)
  · exact ends_update (resend_fitting hmute hkept)

/-- **An arrival.**  One that is not taken in as a packet has nothing sent. -/
theorem hear_fitting (arrival : Arrival) (hmute : World.tried scene.deeds = [])
    (hkept : scene.session.KeepsFitting) :
    (hear arrival).Ends scene (fun heard scene' => scene'.Fits ∧
        (heard = .processed ∨ scene.Still scene'))
      fun _ scene' => World.Fitted scene'.session.blockSize scene'.deeds ∧
        scene'.session.lastSent = scene.session.lastSent := by
  have htried : World.Fitted scene.session.blockSize scene.deeds := World.fitted_of_mute hmute
  match arrival with
  | .silence => exact ends_pure ⟨⟨hkept, htried⟩, .inr (.refl scene)⟩
  | .fault f => exact ends_fail ⟨htried, rfl⟩
  | .datagram source bytes =>
    refine ends_session ?_
    split
    · exact ends_count (ends_pure ⟨⟨hkept, htried⟩, .inr ⟨rfl, .refl _⟩⟩)
    · refine ends_now (ends_update ?_)
      cases Packet.decode (bytes.take longestPacket) with
      | ok packet =>
        have hdispatch : (dispatch packet source).Fitting scene.heard :=
          dispatch_fitting packet source hmute hkept
        exact Ends.bind (Ends.mono hdispatch (fun _ _ hfits => ⟨hfits, .inl rfl⟩) fun _ _ => id)
      | error m =>
        refine ends_session ?_
        change Ends (ite (scene.session.tid.isSome = true) (fail _ >>= _) (discard >>= _))
          scene.heard _ _
        split
        · exact Ends.bind (ends_fail ⟨htried, rfl⟩)
        · exact ends_count (ends_pure ⟨⟨hkept, htried⟩, .inr ⟨rfl, .refl _⟩⟩)

theorem step_fitting (arrival : Arrival) (hmute : World.tried scene.deeds = [])
    (hkept : scene.session.KeepsFitting) : (step arrival).Fitting scene := by
  refine Ends.bind (Ends.mono (hear_fitting arrival hmute hkept) ?_ fun _ _ => id)
  rintro heard scene₁ ⟨hfits, hheard⟩
  have hretry : scene.Still scene₁ → retry.Fitting scene₁ ∧ retry.Fitting scene₁.tick :=
    fun hstill => ⟨retry_fitting (hstill.mute hmute) hfits.kept,
      retry_fitting (hstill.mute hmute) hfits.kept⟩
  cases heard with
  | processed => exact ends_pure hfits
  | timedOut =>
    have hstill := hheard.resolve_left nofun
    exact Ends.mono (hretry hstill).1 (fun _ _ => id) fun _ _ h => ⟨h.1, h.2.trans hstill.lastSent⟩
  | discarded =>
    have hstill := hheard.resolve_left nofun
    change Ends (ite (scene₁.session.overdue (scene₁.host.clock + 1) = true) retry (pure ()))
      scene₁.tick _ _
    split
    · exact Ends.mono (hretry hstill).2 (fun _ _ => id) fun _ _ h =>
        ⟨h.1, h.2.trans hstill.lastSent⟩
    · exact ends_pure ⟨hfits.kept, hfits.tried⟩

/-- The scene in which an act leaves a session, whether it came through or not. -/
def leaves (act : Act α) (scene : Scene) : Scene :=
  match act.run scene with
  | .ok _ scene' => scene'
  | .error _ scene' => scene'

/-- An act that fits leaves what fits, however it ends. -/
theorem Fitting.leaves {act : Act α} (h : act.Fitting scene) :
    World.Fitted (act.leaves scene).session.blockSize (act.leaves scene).deeds := by
  unfold Act.leaves
  cases hrun : act.run scene with
  | ok a scene' => exact (Ends.ok h hrun).tried
  | error halt scene' => exact (Ends.error h hrun).1

/-- What a session hears of a packet that it reads is that packet. -/
theorem run_hear {receiver : Scene} {source : Endpoint} {bytes : Bytes} {packet : Packet}
    (hown : receiver.session.isForeign source = false)
    (hread : Packet.decode (bytes.take longestPacket) = .ok packet) :
    (hear (.datagram source bytes)).run receiver =
      (do dispatch packet source; return Heard.processed : Act Heard).run receiver.heard := by
  change EStateM.run (ite (receiver.session.isForeign source = true) _ _) receiver = _
  rw [if_neg (Bool.eq_false_iff.1 hown)]
  simp only [EStateM.run_bind, run_now, run_update, hread]
  rfl

end Act

/-- A datagram brings a block from host to host and from session to session. -/
structure Datagram.Carries (d : Datagram) (number : UInt16) (payload : Bytes) : Prop where
  length : d.bytes.length = payload.length + 4
  /-- It is not too long for a host: one that does not send it would not have sent any other. -/
  sendable : ∀ host : Host, (host.transmit d).1 = host.sendFault host.sends
  /-- A session that it is for hears all of it. -/
  heard : ∀ (receiver : Scene) (source : Endpoint), receiver.session.isForeign source = false →
    (Act.hear (.datagram source d.bytes)).run receiver =
      (do Act.dispatch (.data number payload) source; return Heard.processed :
        Act Heard).run receiver.heard

/-- A datagram that is not too long carries its block whole. -/
theorem Datagram.carries {d : Datagram} {number : UInt16} {payload : Bytes}
    (hbytes : d.bytes = (Packet.data number payload).encode)
    (hlength : payload.length ≤ BlockSize.most) : d.Carries number payload := by
  have hwhole : d.bytes.length = payload.length + 4 := by
    rw [hbytes, Packet.encode, List.length_append, List.length_append]
    change 2 + (2 + payload.length) = payload.length + 4
    omega
  have hpasses := Packet.passes_data number hlength
  refine ⟨hwhole, fun host => ?_, fun receiver source hown => ?_⟩
  · have hshort : ¬ Host.longestDatagram < d.bytes.length := by
      rw [hwhole]
      unfold BlockSize.most at hlength
      unfold Host.longestDatagram
      omega
    unfold Host.transmit
    cases host.sendFault host.sends with
    | none => exact if_neg hshort
    | some fault => rfl
  · rw [hbytes]
    exact Act.run_hear hown hpasses.decode_take

/-- What fits in with a block size, and is a block, is carried. -/
theorem World.Fitted.carries {size : Nat} {deeds : List Deed} (h : Fitted size deeds)
    (hmost : size ≤ BlockSize.most) {d : Datagram} (hd : d ∈ tried deeds) {number : UInt16}
    {payload : Bytes} (hbytes : d.bytes = (Packet.data number payload).encode) :
    d.bytes.length ≤ size + 4 ∧ d.Carries number payload := by
  obtain ⟨packet, hpacket, hfits⟩ := h d hd
  obtain rfl := Packet.eq_data_of_encode (hpacket.symm.trans hbytes)
  have hlength : payload.length ≤ size := hfits
  have hcarries := Datagram.carries hbytes (Nat.le_trans hlength hmost)
  refine ⟨?_, hcarries⟩
  rw [hcarries.length]
  exact Nat.add_le_add_right hlength 4

/-! ### Whatever is asked -/

/-- What can be asked of a session, whatever state it is in. -/
inductive Call : {α : Type} → Act α → Prop where
  /-- To begin, as a client with a packet that is no block. -/
  | start {opening : Opening}
      (hrequest : ∀ packet, opening = .request packet → packet.opcode ≠ .data) :
    Call (Act.start opening)
  | step (arrival : Arrival) : Call (Act.step arrival)
  | hear (arrival : Arrival) : Call (Act.hear arrival)
  | dispatch (packet : Packet) (source : Endpoint) : Call (Act.dispatch packet source)
  | handle (packet : Packet) (source : Endpoint) : Call (Act.handle packet source)
  | sendData : Call Act.sendData
  /-- To send a packet that is there already: blocks are only made by `sendData`. -/
  | send {packet : Packet} (hblock : packet.opcode ≠ .data) : Call (Act.send packet)
  | sendOnce {packet : Packet} (hblock : packet.opcode ≠ .data) : Call (Act.sendOnce packet)
  | resend : Call Act.resend
  | retry : Call Act.retry
  | noteDuplicate (block : UInt16) : Call (Act.noteDuplicate block)
  /-- To change its state in any way: the packet kept excepted, and the terms while that is a
  block. -/
  | update {f : Session → Session} (hlast : ∀ s, (f s).lastSent = s.lastSent)
      (hterms : ∀ s, s.KeepsBlock → (f s).terms = s.terms) : Call (Act.update f)

/-- The states that calls bring a session to, on hosts that may be others at every call. -/
inductive Called (session : Session) : Session → Prop where
  | fresh : Called session session
  | done {α : Type} {act : Act α} {a : α} {s : Session} {host : Host} {scene : Scene}
      (hcalled : Called session s) (hcall : Call act)
      (hrun : act.run ⟨s, host, []⟩ = .ok a scene) : Called session scene.session
  /-- A call that failed may be followed by others, unless it has changed the terms on which a block
  is kept. -/
  | failed {α : Type} {act : Act α} {halt : Halt} {s : Session} {host : Host} {scene : Scene}
      (hcalled : Called session s) (hcall : Call act)
      (hrun : act.run ⟨s, host, []⟩ = .error halt scene)
      (hterms : s.KeepsBlock → scene.session.terms = s.terms) : Called session scene.session

section Calls

variable {session s : Session} {α : Type} {act : Act α}

/-- **One call.** -/
theorem Call.fitting (h : Call act) (hkept : s.KeepsFitting) (host : Host) :
    act.Fitting ⟨s, host, []⟩ := by
  cases h with
  | @start opening hrequest =>
    match opening with
    | .request packet =>
      have hfits : packet.Fits s.blockSize := Packet.fits_of_opcode (hrequest packet rfl)
      exact (Act.send_fitting rfl hfits).bind fun _ _ hfits => ⟨_, _, rfl, hfits.kept, hfits.tried⟩
    | .answer packet source => exact Act.dispatch_fitting packet source rfl hkept
  | step arrival => exact Act.step_fitting arrival rfl hkept
  | hear arrival =>
    exact Act.Ends.mono (Act.hear_fitting arrival rfl hkept) (fun _ _ => And.left) fun _ _ => id
  | dispatch packet source => exact Act.dispatch_fitting packet source rfl hkept
  | handle packet source => exact Act.handle_fitting packet source rfl hkept
  | sendData => exact Act.sendData_fitting rfl
  | send hblock => exact Act.send_fitting rfl (Packet.fits_of_opcode hblock)
  | sendOnce hblock => exact Act.transmit_fitting rfl hkept (Packet.fits_of_opcode hblock)
  | resend => exact Act.resend_fitting rfl hkept
  | retry => exact Act.retry_fitting rfl hkept
  | noteDuplicate block =>
    exact Act.ends_noteDuplicate (fun _ => ⟨hkept, World.fitted_of_mute rfl⟩)
      fun _ => ⟨World.fitted_of_mute rfl, rfl⟩
  | update hlast hterms =>
    exact ⟨hkept.of_kept (hlast s) (hterms s), World.fitted_of_mute rfl⟩

/-- **All calls.**  What a session keeps to be sent again is no longer than a block. -/
theorem Called.kept (hfresh : session.lastSent = none) (h : Called session s) :
    s.KeepsFitting := by
  induction h with
  | fresh =>
    intro packet hlast
    exact nomatch hfresh.symm.trans hlast
  | done _ hcall hrun ih => exact (Act.Ends.ok (hcall.fitting ih _) hrun).kept
  | failed _ hcall hrun hterms ih =>
    exact ih.of_kept (Act.Ends.error (hcall.fitting ih _) hrun).2 hterms

/-- **Every block fits.**  Whatever is asked of a session that has sent nothing yet, in whatever
state it is and in whatever order, the block size in force is between 8 and 65464 bytes.  Every
block that it sends, sends again or fails to send, with what it may then report to its peer, takes
up four bytes more than its payload and no more than four bytes more than the block size in force,
so no host refuses it as too long, and whoever hears it hears the payload that was sent. -/
theorem Called.blocks_fit (hfresh : session.lastSent = none) (h : Called session s)
    (hcall : Call act) (host : Host) :
    let left := act.leaves ⟨s, host, []⟩
    (8 ≤ left.session.blockSize ∧ left.session.blockSize ≤ 65464) ∧
    ∀ deeds, deeds = left.deeds ∨ (∃ f, deeds = (Run.notified f left).deeds) →
      ∀ d ∈ World.tried deeds, ∀ number payload, d.bytes = (Packet.data number payload).encode →
        d.bytes.length ≤ left.session.blockSize + 4 ∧ left.session.blockSize + 4 ≤ 65468 ∧
          d.Carries number payload := by
  intro left
  have hmost : left.session.blockSize ≤ BlockSize.most := left.session.terms.blockSize.le_most
  have hleft : World.Fitted left.session.blockSize left.deeds :=
    (hcall.fitting (h.kept hfresh) host).leaves
  refine ⟨⟨left.session.terms.blockSize.least_le, hmost⟩, fun deeds hdeeds d hd _ _ hbytes => ?_⟩
  have htried : World.Fitted left.session.blockSize deeds := by
    obtain rfl | ⟨f, rfl⟩ := hdeeds
    · exact hleft
    · exact hleft.notified f
  obtain ⟨hlength, hcarries⟩ := htried.carries hmost hd hbytes
  exact ⟨hlength, Nat.add_le_add_right hmost 4, hcarries⟩

end Calls

namespace Datagrams

/-- An upload of nine bytes in blocks of eight. -/
def asking : Session :=
  .client .upload 40001 ⟨.v4 127 0 0 1, 69, 0⟩
    (.reading .held { content := [1, 2, 3, 4, 5, 6, 7, 8, 9] }) (.ofList [("blksize", "8")]) {}
    false 1

def request : Opening := .request (.octetRequest .write "file" (.ofList [("blksize", "8")]))

def granted : Arrival :=
  .datagram ⟨.v4 127 0 0 1, 5000, 0⟩ (Packet.optionAck (.ofList [("blksize", "8")])).encode

/-- The first block is a full one, of twelve bytes with its header. -/
theorem blocks_fit_asking :
    ∃ s d, Called asking s ∧ d ∈ World.tried ((Act.step granted).leaves ⟨s, {}, []⟩).deeds ∧
      d.bytes.length ≤ 8 + 4 ∧ d.Carries 1 [1, 2, 3, 4, 5, 6, 7, 8] := by
  have hrequest : ∀ packet, request = .request packet → packet.opcode ≠ .data := by
    rintro _ ⟨⟩
    decide
  have hcalled : ∃ s, Called asking s ∧
      ((Act.step granted).leaves ⟨s, {}, []⟩).deeds = [.sent ⟨40001, ⟨.v4 127 0 0 1, 5000, 0⟩,
        (Packet.data 1 [1, 2, 3, 4, 5, 6, 7, 8]).encode⟩ false] ∧
      ((Act.step granted).leaves ⟨s, {}, []⟩).session.blockSize = 8 :=
    ⟨_, .done .fresh (.start hrequest) (show (Act.start request).run ⟨asking, {}, []⟩ = _ from rfl),
      by decide, by decide⟩
  obtain ⟨s, hcalled, hdeeds, hsize⟩ := hcalled
  obtain ⟨-, hblocks⟩ := Called.blocks_fit rfl hcalled (.step granted) {}
  rw [hdeeds, hsize] at hblocks
  obtain ⟨hlength, -, hcarries⟩ :=
    hblocks _ (.inl rfl) _ (.head _) 1 [1, 2, 3, 4, 5, 6, 7, 8] rfl
  exact ⟨s, _, hcalled, hdeeds ▸ .head _, hlength, hcarries⟩

end Datagrams

/-! ### Whole lives -/

section Lives

variable {session : Session} {opening : Opening} {arrivals : List Arrival} {run : Run}
  {deeds : List Deed}

/-- What a run has done at a turn is within a block size, the one in force if it waits on. -/
theorem Upshot.fitted {done : Scene → Prop} {stopped : Halt → Scene → Prop}
    (h : Upshot done stopped run deeds) (hdone : ∀ scene, done scene → scene.Fits)
    (hstopped : ∀ halt scene, stopped halt scene →
      World.Fitted scene.session.blockSize scene.deeds) :
    ∃ size : BlockSize, World.Fitted size.size deeds ∧
      ∀ s, run = .waiting s → s.terms.blockSize = size := by
  cases h with
  | waits h => exact ⟨_, (hdone _ h).tried, fun s hrun => Run.waiting.inj hrun ▸ rfl⟩
  | completes h => exact ⟨_, (hdone _ h).tried.flushing, fun _ hrun => nomatch hrun⟩
  | unclosed h => exact ⟨_, (hdone _ h).tried.flushing.notified _, fun _ hrun => nomatch hrun⟩
  | fails h => exact ⟨_, (hstopped _ _ h).notified _, fun _ hrun => nomatch hrun⟩
  | crashes h => exact ⟨_, hstopped _ _ h, fun _ hrun => nomatch hrun⟩

theorem Begins.call_start (h : Begins session opening) : Call (Act.start opening) := by
  refine .start fun packet hopening => ?_
  subst hopening
  exact h.request_opcode.1

/-- A run that waits was left by an act that was done. -/
theorem Run.run_of_waiting {act : Act Unit} {s s' : Session} {host : Host}
    (h : (settle act s host).1 = .waiting s') :
    ∃ scene, act.run ⟨s, host, []⟩ = .ok () scene ∧ scene.session = s' := by
  have hends : act.Ends ⟨s, host, []⟩ (fun _ scene => act.run ⟨s, host, []⟩ = .ok () scene)
      fun _ _ => True := by
    unfold Act.Ends
    cases act.run ⟨s, host, []⟩ with
    | ok a scene => rfl
    | error halt scene => trivial
  obtain ⟨scene, hrun, -, hsame⟩ := (settle_outcome hends).waiting h
  exact ⟨scene, hrun, hsame⟩

/-- A life is made of calls. -/
theorem Lives.called (hbegins : Begins session opening)
    (h : Lives session opening arrivals run deeds) : ∀ s, run = .waiting s → Called session s := by
  induction h with
  | start host =>
    intro s hrun
    obtain ⟨scene, hscene, rfl⟩ := Run.run_of_waiting hrun
    exact .done .fresh hbegins.call_start hscene
  | @step arrivals run deeds hlives arrival host ih =>
    intro s hrun
    cases run with
    | ended ending => exact nomatch hrun
    | waiting before =>
      obtain ⟨scene, hscene, rfl⟩ := Run.run_of_waiting hrun
      exact .done (ih before rfl) (.step arrival) hscene

/-- Along a whole life there is one size that everything fits. -/
theorem Lives.fitted (hbegins : Begins session opening)
    (h : Lives session opening arrivals run deeds) :
    ∃ size : BlockSize, World.Fitted size.size deeds ∧
      ∀ s, run = .waiting s → s.terms.blockSize = size := by
  have hfresh : session.lastSent = none := by cases hbegins <;> rfl
  have hturn : ∀ (act : Act Unit) (s : Session) (host : Host), Call act → Called session s →
      ∃ size : BlockSize, World.Fitted size.size (Run.settle act s host).2.2 ∧
        ∀ s', (Run.settle act s host).1 = .waiting s' → s'.terms.blockSize = size :=
    fun act s host hcall hcalled =>
      (Run.settle_outcome (hcall.fitting (hcalled.kept hfresh) host)).upshot.fitted
        (fun _ => id) fun _ _ => And.left
  cases h with
  | start host => exact hturn _ _ host hbegins.call_start .fresh
  | @step arrivals run deeds hlives arrival host =>
    cases run with
    | ended ending => exact ⟨.standard, World.fitted_of_mute rfl, fun _ hrun => nomatch hrun⟩
    | waiting s => exact hturn _ _ host (.step arrival) (hlives.called hbegins s rfl)

/-- **The blocks of a life.**  Every block that a session sends, sends again or fails to send, at
its end or before it, is carried whole, and is within the block size on which the session goes
on. -/
theorem Lives.blocks_carried (hbegins : Begins session opening)
    (h : Lives session opening arrivals run deeds) {d : Datagram} (hd : d ∈ World.tried deeds)
    {number : UInt16} {payload : Bytes} (hbytes : d.bytes = (Packet.data number payload).encode) :
    d.Carries number payload ∧ ∀ s, run = .waiting s → payload.length ≤ s.blockSize := by
  obtain ⟨size, hfitted, hsize⟩ := h.fitted hbegins
  obtain ⟨hlength, hcarries⟩ := hfitted.carries size.le_most hd hbytes
  refine ⟨hcarries, fun s hrun => ?_⟩
  rw [hcarries.length] at hlength
  rw [Session.blockSize, hsize s hrun]
  exact Nat.le_of_add_le_add_right hlength

end Lives

end TrivialFtp
