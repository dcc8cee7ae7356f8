import TrivialFtp.Proofs.Frames
import TrivialFtp.Proofs.Progress
import TrivialFtp.Proofs.Standing

/-!
# Proofs: to whom a session writes

Every datagram of a session goes to its peer as the session knows it then, be it sent for the first
time, sent again or refused by the host.  Acts leave the peer as it is; only the first answer to a
client's request says which port that peer uses, and the client takes it up before it does anything
else.

- `Deed.Heeds`: a deed that writes to nobody but the peer.
- `Act.aiming`, `Act.Aims`: acts that do no other deeds.
- `Arrival.reply?`, `Act.step_aims`: the answer that a client takes the peer's port from, and the
  deeds of a step.
- `Run.Addresses`, `Run.step_addresses`, `Run.start_addresses`: the deeds of a turn, last words
  included.
-/

namespace TrivialFtp

/-- A deed that writes to anyone writes to the peer, and one that is about a file is one of those
named. -/
def Deed.Heeds (files : Deed → Prop) (peer : Endpoint) : Deed → Prop
  | .sent d _ | .unsent d _ => d.target = peer
  | .observed _ => True
  | d@(.touched _) | d@(.consulted _) | d@(.flushed _) => files d

/-- What is for the peer alone is no matter of files. -/
theorem Deed.IsFor.heeds {files : Deed → Prop} {peer : Endpoint} {d : Deed} (h : d.IsFor peer) :
    d.Heeds files peer := by
  cases d with
  | sent | unsent => exact h
  | observed | touched | consulted | flushed => exact h.elim

/-- A session has gone on with the same host, at some port of it, and has done only such deeds. -/
structure Scene.Aims (files : Deed → Prop) (port : Option UInt16) (scene scene' : Scene) :
    Prop where
  remote : scene'.session.remote = scene.session.remote
  tid : scene'.session.tid = port
  deeds : ∃ more, scene'.deeds = scene.deeds ++ more ∧
    ∀ d ∈ more, d.Heeds files ⟨scene.session.remote.ip, port.getD scene.session.remote.port, 0⟩

section Scene

variable {files : Deed → Prop} {port : Option UInt16} {scene scene₁ scene₂ : Scene}

/-- One act after the other aims where the second does, since the first has left it the port. -/
theorem Scene.Aims.trans (h : scene.Aims files port scene₁) (h' : scene₁.Aims files port scene₂) :
    scene.Aims files port scene₂ := by
  obtain ⟨more, hmore, hheeds⟩ := h.deeds
  obtain ⟨more', hmore', hheeds'⟩ := h'.deeds
  refine ⟨h'.remote.trans h.remote, h'.tid, more ++ more', ?_, fun d hd => ?_⟩
  · rw [hmore', hmore, List.append_assoc]
  · rcases List.mem_append.1 hd with hd | hd
    · exact hheeds d hd
    · exact h.remote ▸ hheeds' d hd

/-- To be shown a packet is no letter. -/
theorem Scene.Aims.of_shown {packet : Packet}
    (h : Scene.Aims files port { scene with deeds := scene.deeds ++ [.observed packet] } scene₁) :
    scene.Aims files port scene₁ := by
  obtain ⟨more, hmore, hheeds⟩ := h.deeds
  refine ⟨h.remote, h.tid, .observed packet :: more, ?_, fun d hd => ?_⟩
  · rw [hmore, List.append_assoc]
    rfl
  · rcases List.mem_cons.1 hd with rfl | hd
    · trivial
    · exact hheeds d hd

/-- Nothing was done that anyone could see. -/
theorem Scene.aims_quiet (hremote : scene₁.session.remote = scene.session.remote)
    (htid : scene₁.session.tid = port) (hdeeds : scene₁.deeds = scene.deeds) :
    scene.Aims files port scene₁ :=
  ⟨hremote, htid, [], hdeeds.trans (List.append_nil _).symm, fun _ hd => nomatch hd⟩

/-- A scene with one deed more that keeps to the peer and the files aims at the port that was known.
-/
theorem Scene.aims_one {d : Deed} (hremote : scene₁.session.remote = scene.session.remote)
    (htid : scene₁.session.tid = scene.session.tid) (hdeeds : scene₁.deeds = scene.deeds ++ [d])
    (hd : d.Heeds files scene.session.peer) : scene.Aims files scene.session.tid scene₁ := by
  refine ⟨hremote, htid, [d], hdeeds, fun _ hmem => ?_⟩
  obtain rfl := List.mem_singleton.1 hmem
  exact hd

end Scene

namespace Act

variable {α β : Type} {files : Deed → Prop} {scene : Scene} {port : Option UInt16}

/-- However the act ends, the session has gone on with a peer at that port. -/
def AimsAt (files : Deed → Prop) (act : Act α) (scene : Scene) (port : Option UInt16) : Prop :=
  act.Ends scene (fun _ => scene.Aims files port) fun _ => scene.Aims files port

/-- However an act ends, the session has gone on with the peer that it had. -/
def aiming (files : Deed → Prop) : Frame where
  rel scene scene₁ := scene.Aims files scene.session.tid scene₁
  trans h h' := h.trans (h.tid ▸ h')
  still hremote htid _ hdeeds := Scene.aims_quiet hremote htid hdeeds
  letter _ hd := Scene.aims_one rfl rfl rfl hd.heeds

/-- The session goes on with its peer, however the act ends. -/
abbrev Aims (files : Deed → Prop) (act : Act α) : Prop := act.Keeps (aiming files)

/-- An act that keeps the port aims at the one that is known. -/
theorem Aims.aimsAt {act : Act α} (h : act.Aims files) :
    act.AimsAt files scene scene.session.tid := h scene

/-- Once the port is known the acts that follow keep it. -/
theorem AimsAt.bind {act : Act α} {k : α → Act β} (h : act.AimsAt files scene port)
    (hk : ∀ a, (k a).Aims files) : (act >>= k).AimsAt files scene port := by
  refine Ends.bind (Ends.mono h (fun a scene₁ haims => ?_) fun _ _ => id)
  have hnext : (k a).AimsAt files scene₁ scene₁.session.tid := hk a scene₁
  rw [haims.tid] at hnext
  exact Ends.mono hnext (fun _ _ => haims.trans) fun _ _ => haims.trans

/-- A session may change in everything but its peer. -/
theorem aims_update {f : Session → Session}
    (hf : ∀ s, (f s).remote = s.remote ∧ (f s).tid = s.tid) : (update f).Aims files :=
  fun scene => Scene.aims_quiet (hf scene.session).1 (hf scene.session).2 rfl

/-- A deed that keeps to the files may be done by any session. -/
theorem aims_record {d : Deed} (hd : ∀ peer, d.Heeds files peer) : (record d).Aims files :=
  fun scene => Scene.aims_one rfl rfl rfl (hd scene.session.peer)

/-! ### Requests -/

/-- What is granted is no matter of ports or files. -/
theorem aims_grant (requested : Options) (sizeReply : Option Nat) :
    (grant requested sizeReply).Aims files :=
  .bind (aims_update fun _ => ⟨rfl, rfl⟩) fun _ => keeps_pure _

/-- What is asked for under a name, and only if the request can be taken up. -/
theorem aims_vet {filename mode : String} {k : Service → Act α}
    (hk : ∀ service, Admits scene.session filename mode service →
      (k service).AimsAt files scene port)
    (htid : scene.session.tid = port) : (vet filename mode >>= k).AimsAt files scene port := by
  refine Ends.bind (ends_vet hk fun v => ?_)
  exact Scene.aims_quiet rfl htid rfl

/-- A file is looked for at its own path and with the resolver, and nowhere else. -/
theorem aims_openServed {service : Service} {filename : String}
    (htouch : files (.touched (Path.join service.root filename)))
    (hconsult : files (.consulted filename)) : (openServed service filename).Aims files := by
  have haims : ∀ {scene scene' : Scene}, scene.Looks service filename scene' →
      scene.Aims files scene.session.tid scene' := by
    intro scene scene' h
    obtain ⟨more, hdeeds, hmore⟩ := h.deeds
    refine ⟨congrArg Session.remote h.session, congrArg Session.tid h.session, more, hdeeds, ?_⟩
    intro d hd
    obtain rfl | rfl := hmore d hd
    · exact htouch
    · exact hconsult
  intro scene
  exact Ends.mono (openServed_looks service filename scene) (fun _ _ => haims)
    fun _ _ h => haims h.1

/-- A file is made at its own path. -/
theorem aims_createServed {service : Service} {filename : String}
    (htouch : files (.touched (Path.join service.root filename))) :
    (createServed service filename).Aims files := by
  refine .bind (aims_record fun _ => htouch) fun _ => ?_
  intro scene
  refine ends_get ?_
  dsimp only
  cases Stream.create scene.host (Path.join service.root filename) with
  | ok opened => exact Scene.aims_quiet rfl rfl rfl
  | error f => exact Scene.aims_quiet rfl rfl rfl

/-- A session is pinned to a port, or was, before the rest of an act. -/
theorem aims_pin {k : Unit → Act α} (source : UInt16)
    (hk : (k ()).AimsAt files (scene.become (scene.session.pin source)) port) :
    (update (fun s => s.pin source) >>= k).AimsAt files scene port := by
  refine ends_update (Ends.mono hk ?_ ?_)
  · exact fun _ _ haims => ⟨haims.remote, haims.tid, haims.deeds⟩
  · exact fun _ _ haims => ⟨haims.remote, haims.tid, haims.deeds⟩

/-- A request to read is answered at the port that it came from, unless one was known. -/
theorem aims_serveRead {filename mode : String} (requested : Options) (source : Endpoint)
    (hfiles : ∀ service, Admits scene.session filename mode service →
      files (.touched (Path.join service.root filename)) ∧ files (.consulted filename)) :
    (serveRead filename mode requested source).AimsAt files scene
      (some (scene.session.tid.getD source.port)) := by
  refine aims_pin source.port (aims_vet (fun service hadmits => ?_) rfl)
  obtain ⟨htouch, hconsult⟩ := hfiles service (admits_of_pin hadmits)
  refine AimsAt.bind (Aims.aimsAt (aims_openServed htouch hconsult)) fun (stream, size) => ?_
  refine .bind (aims_update fun _ => ⟨rfl, rfl⟩) fun _ => (aims_grant _ _).bind fun granted => ?_
  split
  · exact keeps_sendFirst
  · exact (keeps_send _).bind fun _ => .bind (aims_update fun _ => ⟨rfl, rfl⟩) fun _ => keeps_pure _

theorem aims_serveWrite {filename mode : String} (requested : Options) (source : Endpoint)
    (hfiles : ∀ service, Admits scene.session filename mode service →
      files (.touched (Path.join service.root filename))) :
    (serveWrite filename mode requested source).AimsAt files scene
      (some (scene.session.tid.getD source.port)) := by
  refine aims_pin source.port (aims_vet (fun service hadmits => ?_) rfl)
  have htouch := hfiles service (admits_of_pin hadmits)
  refine AimsAt.bind (Aims.aimsAt (aims_createServed htouch)) fun _ =>
    (aims_grant _ _).bind fun granted => ?_
  change Aims files (ite (granted.isEmpty = true) (sendAck 0 >>= _) (send _ >>= _))
  split
  all_goals
    refine (keeps_send _).bind fun _ => ?_
    exact .bind (aims_update fun _ => ⟨rfl, rfl⟩) fun _ => keeps_pure _

/-! ### Replies -/

theorem aims_adopt (granted : Options) : (adopt granted).Aims files := by
  refine keeps_session fun s => ?_
  cases Terms.agree s.requested granted with
  | ok terms => exact aims_update fun _ => ⟨rfl, rfl⟩
  | error d => exact keeps_fail _

/-- What a download answers first goes to the port that the server answered from. -/
theorem aims_replyToRead (packet : Packet) (source : Endpoint) :
    (replyToRead packet source).AimsAt files scene
      (some (scene.session.tid.getD source.port)) := by
  refine aims_pin source.port ?_
  match packet with
  | .optionAck granted =>
    refine AimsAt.bind (Aims.aimsAt (aims_adopt granted)) fun _ => (keeps_send _).bind fun _ => ?_
    exact .bind (aims_update fun _ => ⟨rfl, rfl⟩) fun _ => keeps_pure _
  | .data block payload =>
    have hreceive : (update (fun s => { s with terms := {} }) >>= fun _ =>
        update (fun s => s.setNextBlock 1) >>= fun _ => receiveData block payload).Aims files :=
      .bind (aims_update fun _ => ⟨rfl, rfl⟩) fun _ =>
        .bind (aims_update fun _ => ⟨rfl, rfl⟩) fun _ => keeps_receiveData block payload
    exact hreceive.aimsAt
  | .ack _ | .error _ _ | .request _ _ _ _ => exact Aims.aimsAt (keeps_fail _)

theorem aims_replyToWrite (packet : Packet) (source : Endpoint) :
    (replyToWrite packet source).AimsAt files scene
      (some (scene.session.tid.getD source.port)) := by
  refine aims_pin source.port ?_
  match packet with
  | .optionAck granted =>
    exact AimsAt.bind (Aims.aimsAt (aims_adopt granted)) fun _ => keeps_sendFirst
  | .ack block =>
    change AimsAt files (ite (block = 0) (update _ >>= fun _ => sendFirst) _) _ _
    split
    · have hsend : (update (fun s => { s with terms := {} }) >>= fun _ => sendFirst).Aims files :=
        .bind (aims_update fun _ => ⟨rfl, rfl⟩) fun _ => keeps_sendFirst
      exact hsend.aimsAt
    · exact Aims.aimsAt (keeps_pure _)
  | .data _ _ | .error _ _ | .request _ _ _ _ => exact Aims.aimsAt (keeps_fail _)

end Act

/-! ### Packets -/

/-- The deeds about files that a request may lead to. -/
inductive Service.Concerns (service : Service) : Packet → Deed → Prop where
  | file {direction : Direction} {filename mode : String} {options : Options}
      (hplain : requestViolation? filename mode = none) :
    Concerns service (.request direction filename mode options)
      (.touched (Path.join service.root filename))
  | name {filename mode : String} {options : Options}
      (hplain : requestViolation? filename mode = none) :
    Concerns service (.request .read filename mode options) (.consulted filename)

namespace Session

/-- The port of the peer after a packet that was not dropped: anything but an error fixes it. -/
def portAfter (s : Session) (packet : Packet) (source : Endpoint) : Option UInt16 :=
  match packet with
  | .error _ _ => s.tid
  | _ => some (s.tid.getD source.port)

/-- A session knows its peer's port, unless it is a client whose request has no answer yet. -/
def Placed (s : Session) : Prop := s.tid = none → s.phase = .requested ∧ s.role.service? = none

/-- A packet that is no ERROR packet makes its port known, if none is. -/
theorem portAfter_of_answer {s : Session} {packet : Packet} {source : Endpoint}
    (h : ∀ code message, packet ≠ .error code message) :
    s.portAfter packet source = some (s.tid.getD source.port) := by
  unfold portAfter
  split
  · exact absurd rfl (h _ _)
  · rfl

/-- A port that is known is not changed by any packet. -/
theorem portAfter_of_isSome {s : Session} (h : s.tid.isSome) (packet : Packet)
    (source : Endpoint) : s.portAfter packet source = s.tid := by
  obtain ⟨tid, htid⟩ := Option.isSome_iff_exists.1 h
  cases packet <;> simp [portAfter, htid]

/-- A session that stands knows its peer unless it has just asked. -/
theorem Standing.placed {s : Session} {opening : Opening} (h : s.Standing opening) : s.Placed := by
  intro htid
  have hphase : s.phase = .requested := by
    refine Decidable.byContradiction fun hother => ?_
    have hknown := h.pinned hother
    rw [htid] at hknown
    exact nomatch hknown
  have hmem := h.phase
  rw [hphase] at hmem
  cases hrole : s.role with
  | download | upload => exact ⟨hphase, rfl⟩
  | serve service => simp [hrole, Role.phases] at hmem

/-- In every other phase the port is known, and so it is to a server. -/
theorem Placed.isSome {s : Session} (h : s.Placed)
    (hrest : s.phase ≠ .requested ∨ s.role.service? ≠ none) : s.tid.isSome := by
  rw [Option.isSome_iff_ne_none]
  intro hnone
  exact hrest.elim (· (h hnone).1) (· (h hnone).2)

end Session

namespace Act

variable {files : Deed → Prop} {scene : Scene}

/-- What a server makes of the packet that opens a session. -/
theorem aims_takeUp {packet : Packet} {source : Endpoint} (htid : scene.session.tid.isSome)
    (hfiles : ∀ service, scene.session.role.service? = some service →
      ∀ d, service.Concerns packet d → files d) :
    (takeUp packet source).AimsAt files scene scene.session.tid := by
  obtain ⟨tid, htid⟩ := Option.isSome_iff_exists.1 htid
  have hpinned : scene.session.tid = some (scene.session.tid.getD source.port) := by rw [htid]; rfl
  match packet with
  | .request .read _ _ options =>
    rw [hpinned]
    refine aims_serveRead options source fun service hadmits => ?_
    exact ⟨hfiles service hadmits.serving _ (.file hadmits.plain),
      hfiles service hadmits.serving _ (.name hadmits.plain)⟩
  | .request .write _ _ options =>
    rw [hpinned]
    exact aims_serveWrite options source fun service hadmits =>
      hfiles service hadmits.serving _ (.file hadmits.plain)
  | .data _ _ | .ack _ | .error _ _ | .optionAck _ => exact Aims.aimsAt (keeps_fail _)

/-- The files that a packet may be about if it is the one that opens the session. -/
def Within (files : Deed → Prop) (s : Session) (packet : Packet) : Prop :=
  s.phase = .idle → ∀ service, s.role.service? = some service →
    ∀ d, service.Concerns packet d → files d

/-- Whatever a packet is and however it is met, the session sends to the port that is known after
it, and leaves other files alone. -/
theorem aims_handle {packet : Packet} {source : Endpoint} (hplaced : scene.session.Placed)
    (hfiles : Within files scene.session packet) :
    (handle packet source).AimsAt files scene (scene.session.portAfter packet source) := by
  -- Where the port is known, an act that leaves it alone will do.
  have hknown : ∀ {act : Act Phase}, act.AimsAt files scene scene.session.tid →
      scene.session.tid.isSome →
        act.AimsAt files scene (scene.session.portAfter packet source) := by
    intro act hact htid
    rwa [Session.portAfter_of_isSome htid]
  refine ends_session ?_
  split
  · exact Aims.aimsAt (keeps_fail _)
  · next hanswer =>
    cases hphase : scene.session.phase with
    | idle =>
      have htid := hplaced.isSome (.inl (hphase ▸ nofun))
      exact hknown (aims_takeUp htid (hfiles hphase)) htid
    | requested =>
      cases hrole : scene.session.role with
      | download =>
        rw [Session.portAfter_of_answer hanswer]
        exact aims_replyToRead packet source
      | upload =>
        rw [Session.portAfter_of_answer hanswer]
        exact aims_replyToWrite packet source
      | serve => exact hknown (Aims.aimsAt (keeps_fail _)) (hplaced.isSome (.inr (hrole ▸ nofun)))
    | awaitingData =>
      refine hknown ?_ (hplaced.isSome (.inl (hphase ▸ nofun)))
      cases packet with
      | data block payload => exact Aims.aimsAt (keeps_receiveData block payload)
      | ack | error | request | optionAck => exact Aims.aimsAt (keeps_fail _)
    | awaitingAck | offering =>
      refine hknown ?_ (hplaced.isSome (.inl (hphase ▸ nofun)))
      cases packet with
      | ack block => exact Aims.aimsAt (keeps_receiveAck block)
      | data | error | request | optionAck => exact Aims.aimsAt (keeps_fail _)
    | done | failed =>
      exact hknown (Aims.aimsAt (keeps_fail _)) (hplaced.isSome (.inl (hphase ▸ nofun)))

/-- To show the packet first changes nothing of that. -/
theorem aims_dispatch {packet : Packet} {source : Endpoint} (hplaced : scene.session.Placed)
    (hfiles : Within files scene.session packet) :
    (dispatch packet source).AimsAt files scene (scene.session.portAfter packet source) := by
  have hrest : ∀ {scene : Scene}, scene.session.Placed → Within files scene.session packet →
      (handle packet source >>= fun phase =>
        update fun s => { s with phase, retries := 0 }).AimsAt files scene
          (scene.session.portAfter packet source) := fun hplaced hfiles =>
    (aims_handle hplaced hfiles).bind fun _ => aims_update fun _ => ⟨rfl, rfl⟩
  refine ends_session ?_
  change Ends (ite (scene.session.watched = true) _ _) _ _ _
  split
  · refine ends_record ?_
    exact Ends.mono (@hrest { scene with deeds := scene.deeds ++ [.observed packet] } hplaced hfiles)
      (fun _ _ => .of_shown) fun _ _ => .of_shown
  · exact hrest hplaced hfiles

end Act

/-- The port that an arrival tells a client of the host it asked: that of a packet, unless it is an
error. -/
def Arrival.reply? (ip : Ip) : Arrival → Option UInt16
  | .datagram source bytes =>
    if source.ip = ip then
      match Packet.decode (bytes.take Act.longestPacket) with
      | .ok (.error _ _) | .error _ => none
      | .ok _ => some source.port
    else none
  | _ => none

namespace Session

/-- The port of the peer once an arrival was taken in. -/
def portOn (s : Session) (arrival : Arrival) : Option UInt16 :=
  s.tid.or (arrival.reply? s.remote.ip)

variable {s : Session} {source : Endpoint} {bytes : Bytes}

/-- A stranger has another address than the peer, or another port than is known. -/
theorem isForeign_iff : s.isForeign source = true ↔
    source.ip ≠ s.remote.ip ∨ ∃ tid, s.tid = some tid ∧ source.port ≠ tid := by
  cases htid : s.tid with
  | none => simp [isForeign, htid]
  | some tid => simp [isForeign, htid, @eq_comm _ tid]

/-- A stranger makes no port known. -/
theorem portOn_foreign (h : s.isForeign source = true) (bytes : Bytes) :
    s.portOn (.datagram source bytes) = s.tid := by
  cases htid : s.tid with
  | some tid => rw [portOn, htid, Option.some_or]
  | none =>
    have hip : source.ip ≠ s.remote.ip := by simpa [htid] using isForeign_iff.1 h
    simp only [portOn, htid, Option.none_or, Arrival.reply?, if_neg hip]

/-- A datagram of the peer that is read makes known what its packet does. -/
theorem portOn_read {packet : Packet} (h : s.isForeign source = false)
    (hread : Packet.decode (bytes.take Act.longestPacket) = .ok packet) :
    s.portOn (.datagram source bytes) = s.portAfter packet source := by
  have hip : source.ip = s.remote.ip := by
    refine Decidable.byContradiction fun hip => ?_
    rw [isForeign_iff.2 (.inl hip)] at h
    exact nomatch h
  simp only [portOn, Arrival.reply?, if_pos hip, hread]
  cases packet <;> cases htid : s.tid <;> simp [portAfter, htid]

/-- One that cannot be read makes no port known. -/
theorem portOn_unread {m : Malformed}
    (hread : Packet.decode (bytes.take Act.longestPacket) = .error m) :
    s.portOn (.datagram source bytes) = s.tid := by
  simp only [portOn, Arrival.reply?, hread, ite_self, Option.or_none]

end Session

namespace Act

variable {files : Deed → Prop} {scene : Scene}

/-- An arrival leads to deeds for the port that is known after it. -/
theorem aims_hear (arrival : Arrival) (hplaced : scene.session.Placed)
    (hphase : scene.session.phase ≠ .idle) :
    (hear arrival).AimsAt files scene (scene.session.portOn arrival) := by
  cases arrival with
  | silence => exact Scene.aims_quiet rfl (Option.or_none).symm rfl
  | fault f => exact Scene.aims_quiet rfl (Option.or_none).symm rfl
  | datagram source bytes =>
    refine ends_session ?_
    split
    · next hforeign =>
      exact Scene.aims_quiet rfl (Session.portOn_foreign hforeign bytes).symm rfl
    · next hown =>
      have hown := Bool.eq_false_iff.2 hown
      refine ends_now (ends_update ?_)
      change Ends _ scene.heard _ _
      cases hread : Packet.decode (bytes.take longestPacket) with
      | ok packet =>
        rw [Session.portOn_read hown hread]
        have hdispatch : (dispatch packet source).AimsAt files scene.heard
            (scene.session.portAfter packet source) :=
          aims_dispatch hplaced fun hidle => absurd hidle hphase
        refine Ends.bind (Ends.mono hdispatch ?_ ?_)
        · exact fun _ _ haims => ⟨haims.remote, haims.tid, haims.deeds⟩
        · exact fun _ _ haims => ⟨haims.remote, haims.tid, haims.deeds⟩
      | error m =>
        rw [Session.portOn_unread hread]
        refine ends_session ?_
        change Ends (ite (scene.session.tid.isSome = true) (fail _ >>= _) (discard >>= _)) _ _ _
        split
        · exact Scene.aims_quiet rfl rfl rfl
        · exact Scene.aims_quiet rfl rfl rfl

theorem aims_step (arrival : Arrival) (hplaced : scene.session.Placed)
    (hphase : scene.session.phase ≠ .idle) :
    (step arrival).AimsAt files scene (scene.session.portOn arrival) := by
  refine (aims_hear arrival hplaced hphase).bind fun heard => ?_
  cases heard with
  | processed => exact keeps_pure ()
  | timedOut => exact keeps_retry
  | discarded =>
    refine keeps_session fun s => keeps_now.bind fun time => ?_
    split
    · exact keeps_retry
    · exact keeps_pure ()

end Act

/-- A session opens towards the peer that it begins with, and a server with the files that its
client asks for. -/
theorem Act.aims_start {files : Deed → Prop} {session : Session} {host : Host} {opening : Opening}
    (hbegins : Begins session opening)
    (hfiles : ∀ service packet source, session.role = .serve service →
      opening = .answer packet source → ∀ d, service.Concerns packet d → files d) :
    (start opening).AimsAt files ⟨session, host, []⟩ session.tid := by
  cases hbegins with
  | download | upload =>
    have hask : ∀ packet, (start (.request packet)).Aims files := fun packet =>
      (keeps_send packet).bind fun _ => aims_update fun _ => ⟨rfl, rfl⟩
    exact hask _ _
  | @serve service port remote timing now packet =>
    have hplaced : (Session.server service port remote timing now).Placed := fun htid => nomatch htid
    have hanswer : (start (.answer packet remote)).AimsAt files
        ⟨.server service port remote timing now, host, []⟩
        ((Session.server service port remote timing now).portAfter packet remote) :=
      aims_dispatch hplaced fun _ _ hservice d hd =>
        hfiles _ packet remote (Role.eq_serve hservice) rfl d hd
    rwa [Session.portAfter_of_isSome rfl] at hanswer

/-! ### Turns of a run -/

/-- Drop a datagram, and answer the silence that it does not break. -/
def Act.overlook : Act Unit := do
  discard
  if (← session).overdue (← now) then retry

namespace Run

/-- What a session did at its turn, last words included, and the peer that it waits for after it.  A
session that came through has flushed its stream as well. -/
structure Addresses (files : Deed → Prop) (remote : Endpoint) (port : Option UInt16)
    (result : Run × Host × List Deed) : Prop where
  deeds : ∀ d ∈ result.2.2, d.Heeds files ⟨remote.ip, port.getD remote.port, 0⟩ ∨
    ∃ target, d = .flushed target
  waiting : ∀ s, result.1 = .waiting s → s.remote = remote ∧ s.tid = port

variable {files : Deed → Prop} {port : Option UInt16} {session : Session} {host : Host}
  {scene : Scene}

/-- The last words go to the peer like everything before them. -/
theorem heeds_notified (f : Failure) {d : Deed} (hd : d ∈ (notified f scene).deeds) :
    d ∈ scene.deeds ∨ d.Heeds files scene.session.peer := by
  unfold notified at hd
  split at hd
  · exact .inl hd
  · rcases List.mem_append.1 hd with hd | hd
    · exact .inl hd
    · obtain rfl := List.mem_singleton.1 hd
      right
      split <;> rfl

/-- Whatever a session has done at its turn heeds its peer. -/
theorem heeds_of_aims (h : (⟨session, host, []⟩ : Scene).Aims files port scene) :
    ∀ d ∈ scene.deeds, d.Heeds files ⟨session.remote.ip, port.getD session.remote.port, 0⟩ := by
  intro d hd
  obtain ⟨more, hmore, hheeds⟩ := h.deeds
  exact hheeds d (hmore.trans (List.nil_append more) ▸ hd)

/-- A session that finishes has sent to its peer only, and flushes its own file. -/
theorem finish_addresses (outcome : Option Failure)
    (h : (⟨session, host, []⟩ : Scene).Aims files port scene) :
    Addresses files session.remote port (finish outcome scene) := by
  have hpeer : scene.session.peer = ⟨session.remote.ip, port.getD session.remote.port, 0⟩ := by
    rw [Session.peer, h.remote, h.tid]
  have hflushing : ∀ d ∈ scene.flushing.deeds,
      d.Heeds files ⟨session.remote.ip, port.getD session.remote.port, 0⟩ ∨
        ∃ target, d = .flushed target := by
    intro d hd
    exact (List.mem_append.1 hd).imp (heeds_of_aims h d) Stream.eq_of_mem_flushes
  match outcome with
  | some f =>
    rw [finish_some]
    refine ⟨fun d hd => .inl ?_, fun _ hrun => nomatch hrun⟩
    exact (heeds_notified f hd).elim (heeds_of_aims h d) fun hd => hpeer ▸ hd
  | none =>
    cases hclose : scene.session.stream.closeFault scene.host with
    | some fault =>
      rw [finish_fault hclose, finish_some]
      refine ⟨fun d hd => ?_, fun _ hrun => nomatch hrun⟩
      exact (heeds_notified _ hd).elim (hflushing d) fun hd => .inl (hpeer ▸ hd)
    | none =>
      rw [finish_none hclose]
      exact ⟨hflushing, fun _ hrun => nomatch hrun⟩

/-- However a turn is left, it keeps to what its act aims at. -/
theorem settle_addresses {act : Act Unit} (h : act.AimsAt files ⟨session, host, []⟩ port) :
    Addresses files session.remote port (settle act session host) := by
  have houtcome := settle_outcome h
  generalize settle act session host = result at houtcome
  cases houtcome with
  | waits haims =>
    refine ⟨fun d hd => .inl (heeds_of_aims haims d hd), fun s hrun => ?_⟩
    obtain rfl := Run.waiting.inj hrun
    exact ⟨haims.remote, haims.tid⟩
  | concludes haims => exact finish_addresses none haims
  | fails haims => exact finish_addresses _ haims
  | crashes haims =>
    exact ⟨fun d hd => .inl (heeds_of_aims haims d hd), fun _ hrun => nomatch hrun⟩

/-- A stranger's datagram is dropped, whatever it holds. -/
theorem step_foreign {s : Session} {source : Endpoint} (h : s.isForeign source = true)
    (bytes : Bytes) (host : Host) :
    (waiting s).step (.datagram source bytes) host = settle Act.overlook s host := by
  have hrun : (Act.step (.datagram source bytes)).run ⟨s, host, []⟩ =
      Act.overlook.run ⟨s, host, []⟩ := by
    have hhear : (Act.hear (.datagram source bytes)).run ⟨s, host, []⟩ =
        .ok .discarded (Scene.dropping ⟨s, host, []⟩) := by
      change EStateM.run (ite (s.isForeign source = true) _ _) _ = _
      rw [if_pos h]
      rfl
    exact Act.run_bind_of hhear
  simp only [step, settle, hrun]

/-- **One turn.**  A waiting session writes to the port that it knows, and one that knows none to
the port that this arrival tells it, from its first letter on. -/
theorem step_addresses {s : Session} {opening : Opening} (h : s.Standing opening)
    (arrival : Arrival) (host : Host) :
    Addresses files s.remote (s.portOn arrival) ((waiting s).step arrival host) :=
  settle_addresses (Act.aims_step arrival h.placed (Standing.ne_idle h))

/-- A session opens towards the peer that it begins with. -/
theorem start_addresses {opening : Opening} (hbegins : Begins session opening) (host : Host)
    (hfiles : ∀ service packet source, session.role = .serve service →
      opening = .answer packet source → ∀ d, service.Concerns packet d → files d) :
    Addresses files session.remote session.tid (start session opening host) :=
  settle_addresses (Act.aims_start hbegins hfiles)

end Run

end TrivialFtp
