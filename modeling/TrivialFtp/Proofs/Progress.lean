import TrivialFtp.Proofs.Moves

/-!
# Proofs: every turn is taken

The converse of what is said of turns elsewhere: a session for which a turn is open takes it.  So
where it can be shown which turn is open, what a session does is known.

- `Act.run_handle`: handling a packet takes the turn that is open.
- `Run.step_handled`, `Run.start_answered`, `Run.start_asked`: what becomes of a run then.
-/

namespace TrivialFtp

namespace Act

variable {scene scene' : Scene}

/-- An act that is done is followed by the next in the scene that it left. -/
theorem run_bind_of {α β : Type} {act : Act α} {k : α → Act β} {a : α}
    (h : act.run scene = .ok a scene') : (act >>= k).run scene = (k a).run scene' := by
  rw [EStateM.run_bind, h]

/-- What can be sent is sent. -/
theorem run_transmit {p : Packet} {again : Bool} (h : scene.CanSend p) :
    (transmit p.encode again).run scene = .ok () { scene with
      host := { scene.host with sends := scene.host.sends + 1 }
      deeds := scene.deeds ++ [.sent (scene.session.letter p) again] } := by
  unfold Scene.CanSend Session.letter at h
  simp only [transmit, EStateM.run_bind, run_attempt, run_check, h, Host.transmit_snd]
  rfl

/-- What is to be repeated is remembered then. -/
theorem run_send {p : Packet} (h : scene.CanSend p) :
    (send p).run scene = .ok () (scene.post p { scene.session with lastSent := some p }) := by
  unfold send sendOnce
  rw [EStateM.run_bind, run_transmit h]
  rfl

/-- A block that the host takes is written. -/
theorem run_writeBlock {payload : Bytes} {host : Host}
    (h : scene.session.stream.write scene.host payload = (none, host)) :
    (writeBlock payload).run scene = .ok () { scene with host } := by
  change (check (scene.session.stream.write scene.host payload).1).run
    { scene with host := (scene.session.stream.write scene.host payload).2 } = _
  rw [h]
  rfl

/-- A block that the stream gives is read. -/
theorem run_readBlock {size : Nat} {payload : Bytes} {stream : Stream}
    (h : scene.session.stream.read size = (.ok payload, stream)) :
    (readBlock size).run scene =
      .ok payload { scene with session := { scene.session with stream } } := by
  unfold readBlock
  simp only [EStateM.run_bind, EStateM.run_get, h]
  rfl

/-- A duplicate that is not too much is noted. -/
theorem run_note {block : UInt16} (h : (scene.session.tally.note block).exceeds block = false) :
    (noteDuplicate block).run scene = .ok () (scene.become (scene.session.noted block)) := by
  rw [run_noteDuplicate]
  exact if_neg (Bool.eq_false_iff.1 h)

/-- A block that can be written and acknowledged is. -/
theorem run_receiveData {payload : Bytes} {phase : Phase} (h : Take scene payload phase scene') :
    (receiveData scene.session.nextBlock payload).run scene = .ok phase scene' := by
  cases h with
  | @mk host hwrite hsend =>
    have hhost := Stream.write_host hwrite
    unfold receiveData sendAck
    refine (run_bind_of (run_session scene)).trans ?_
    rw [if_pos rfl]
    refine (run_bind_of (run_writeBlock hwrite)).trans ((run_bind_of (run_count _ _)).trans ?_)
    refine (run_bind_of (run_send ?_)).trans rfl
    rwa [Scene.CanSend, hhost]

/-- A block that is there once more is acknowledged once more. -/
theorem run_receiveData_old {block : UInt16} {payload : Bytes} (hzero : block ≠ 0)
    (hold : block < scene.session.nextBlock)
    (hfew : (scene.session.tally.note block).exceeds block = false)
    (hsend : scene.CanSend (.ack block)) :
    (receiveData block payload).run scene =
      .ok .awaitingData (scene.post (.ack block) (scene.session.noted block)) := by
  unfold receiveData sendOnce
  refine (run_bind_of (run_session scene)).trans ?_
  rw [if_neg (UInt16.ne_of_lt hold), if_pos hold, if_neg hzero]
  refine (run_bind_of (run_note hfew)).trans ((run_bind_of (run_transmit ?_)).trans rfl)
  exact hsend

/-- A block that can be read and sent is. -/
theorem run_sendBlock (h : Give scene scene') : sendBlock.run scene = .ok .awaitingAck scene' := by
  cases h with
  | @mk payload stream hread hsend =>
    have hdata : sendData.run scene = .ok (payload.length < scene.session.blockSize)
        (scene.post (.data scene.session.nextBlock payload)
          { scene.session.gave payload stream with finalSent := scene.session.finalSent }) := by
      unfold sendData
      refine (run_bind_of (run_session scene)).trans ?_
      refine (run_bind_of (run_readBlock hread)).trans ((run_bind_of (run_count _ _)).trans ?_)
      refine (run_bind_of (run_session _)).trans ((run_bind_of (run_send ?_)).trans rfl)
      exact hsend
    exact (run_bind_of hdata).trans rfl

/-- The acknowledgement of a block that was sent is taken as one of the three cases. -/
theorem run_receiveAck {source : Endpoint} {block : UInt16} {now phase : Phase}
    (hphase : now = .awaitingAck ∨ now = .offering)
    (h : Turn source scene now (.ack block) phase scene') :
    (receiveAck block).run scene = .ok phase scene' := by
  unfold receiveAck
  refine (run_bind_of (run_session scene)).trans ?_
  cases h with
  | lastAck _ hfinal =>
    rw [if_pos rfl]
    rw [if_pos hfinal]
    rfl
  | ack _ hfinal hgive =>
    rw [if_pos rfl]
    rw [hfinal, if_neg Bool.false_ne_true]
    exact (run_bind_of (run_update _ _)).trans (run_sendBlock hgive)
  | oldAck _ hold hfew =>
    rw [if_neg (UInt16.ne_of_lt hold), if_pos hold]
    exact (run_bind_of (run_note hfew)).trans rfl
  | _ => exact nomatch hphase

/-- Terms that agree with the request are adopted. -/
theorem run_adopt {granted : Options} {terms : Terms}
    (h : Terms.agree scene.session.requested granted = .ok terms) :
    (adopt granted).run scene = .ok () (scene.become { scene.session with terms }) := by
  unfold adopt
  refine (run_bind_of (run_session scene)).trans ?_
  rw [h]
  rfl

/-- A request that is in order is admitted. -/
theorem run_vet {filename mode : String} {service : Service}
    (h : Admits scene.session filename mode service) :
    (vet filename mode).run scene = .ok service scene := by
  unfold vet
  rw [h.plain]
  refine (run_bind_of (run_session scene)).trans ?_
  rw [h.serving]
  rfl

/-- The resolver is asked where there is no file. -/
theorem run_openServed_missing {service : Service} {filename : String}
    (hmissing : NoFile scene.host.store (Path.join service.root filename)) :
    (openServed service filename).run scene = (openServed.resolve service filename).run
      { scene with deeds := scene.deeds ++ [.touched (Path.join service.root filename)] } := by
  unfold openServed
  refine (run_bind_of (run_record scene _)).trans ((run_bind_of (EStateM.run_get _)).trans ?_)
  dsimp only
  rcases hmissing with ⟨node', hlook, hfile⟩ | ⟨f, hlook, hkind⟩
  · rw [hlook]
    change (ite (node'.isFile = true) _ _ : Act (Stream × Option Nat)).run _ = _
    rw [if_neg (Bool.eq_false_iff.1 hfile)]
  · rw [hlook]
    change (ite (f.kind = .notFound) _ _ : Act (Stream × Option Nat)).run _ = _
    rw [if_pos hkind]

/-- A file that is there to be served is found. -/
theorem run_openServed {service : Service} {filename : String} {node : Node} {size : Option Nat}
    (h : Served service filename scene node size scene') :
    (openServed service filename).run scene = .ok (.ofNode node, size) scene' := by
  cases h with
  | file hopen hfile =>
    unfold openServed
    refine (run_bind_of (run_record scene _)).trans ((run_bind_of (EStateM.run_get _)).trans ?_)
    dsimp only
    rw [Store.look_of_openNode hopen]
    dsimp only
    rw [if_pos hfile, hopen]
    rfl
  | resolved hmissing hresolver hcontent =>
    rw [run_openServed_missing hmissing]
    unfold openServed.resolve
    rw [hresolver]
    refine (run_bind_of (run_record _ _)).trans ?_
    rw [hcontent]
    rfl

/-- A file that can be made is made. -/
theorem run_createServed {service : Service} {filename : String} {stream : Stream} {host : Host}
    (h : Stream.create scene.host (Path.join service.root filename) = .ok (stream, host)) :
    (createServed service filename).run scene = .ok () {
      session := { scene.session with stream }
      host
      deeds := scene.deeds ++ [.touched (Path.join service.root filename)] } := by
  unfold createServed
  refine (run_bind_of (run_record scene _)).trans ((run_bind_of (EStateM.run_get _)).trans ?_)
  dsimp only
  rw [h]
  rfl

/-- The first answer to a read request is taken as one of the two cases. -/
theorem run_replyToRead {source : Endpoint} {packet : Packet} {phase : Phase}
    (hrole : scene.session.role = .download)
    (h : Turn source scene .requested packet phase scene') :
    (replyToRead packet source).run scene = .ok phase scene' := by
  unfold replyToRead
  refine (run_bind_of (run_update scene _)).trans ?_
  cases h with
  | grantedRead _ hagree hsend =>
    refine (run_bind_of (run_adopt ?_)).trans ((run_bind_of (run_send ?_)).trans rfl)
    · exact hagree
    · exact hsend
  | firstBlock _ htake =>
    refine (run_bind_of (run_update _ _)).trans ((run_bind_of (run_update _ _)).trans ?_)
    exact run_receiveData htake
  | grantedWrite hrole' | firstAck hrole' | strayAck hrole' =>
    exact nomatch hrole.symm.trans hrole'
  | lastAck hphase | ack hphase | oldAck hphase => exact nomatch hphase

/-- The first answer to a write request is taken as one of the three cases. -/
theorem run_replyToWrite {source : Endpoint} {packet : Packet} {phase : Phase}
    (hrole : scene.session.role = .upload)
    (h : Turn source scene .requested packet phase scene') :
    (replyToWrite packet source).run scene = .ok phase scene' := by
  unfold replyToWrite
  refine (run_bind_of (run_update scene _)).trans ?_
  cases h with
  | @grantedWrite granted _ _ _ hagree hgive =>
    have hadopt : (adopt granted).run (scene.become (scene.session.pin source.port)) = .ok () _ :=
      run_adopt hagree
    refine (run_bind_of hadopt).trans ((run_bind_of (run_update _ _)).trans ?_)
    exact run_sendBlock hgive
  | firstAck _ hgive =>
    refine (run_bind_of (run_update _ _)).trans ((run_bind_of (run_update _ _)).trans ?_)
    exact run_sendBlock hgive
  | @strayAck block _ hzero =>
    change (ite (block = 0) _ _ : Act Phase).run _ = _
    rw [if_neg hzero]
    rfl
  | grantedRead hrole' | firstBlock hrole' => exact nomatch hrole.symm.trans hrole'
  | lastAck hphase | ack hphase | oldAck hphase => exact nomatch hphase

/-- A request that opens a session is taken as one of the three cases. -/
theorem run_takeUp {source : Endpoint} {packet : Packet} {phase : Phase}
    (h : Turn source scene .idle packet phase scene') :
    (takeUp packet source).run scene = .ok phase scene' := by
  unfold takeUp
  cases h with
  | @offered filename mode requested service node size scene₁ hadmits hserved hgranted hsend =>
    obtain ⟨deeds, rfl, -⟩ := served_host hserved
    -- The request is looked at after the port of the peer was noted, which makes no difference.
    have hvet : (vet filename mode).run (scene.become (scene.session.pin source.port)) =
        .ok service _ := run_vet ⟨hadmits.plain, hadmits.serving⟩
    unfold serveRead
    refine (run_bind_of (run_update scene _)).trans ((run_bind_of hvet).trans ?_)
    refine (run_bind_of (run_openServed hserved)).trans ((run_bind_of (run_update _ _)).trans ?_)
    change (ite ((Terms.offer requested (service.told size)).options.isEmpty = true) _
      (send (.optionAck (Terms.offer requested (service.told size)).options) >>= _) :
        Act Phase).run _ = _
    rw [if_neg (Bool.eq_false_iff.1 hgranted)]
    refine (run_bind_of (run_send ?_)).trans ?_
    · exact hsend
    · rfl
  | @served filename mode requested service node size scene₁ _ hadmits hserved hgranted hgive =>
    obtain ⟨deeds, rfl, -⟩ := served_host hserved
    have hvet : (vet filename mode).run (scene.become (scene.session.pin source.port)) =
        .ok service _ := run_vet ⟨hadmits.plain, hadmits.serving⟩
    unfold serveRead
    refine (run_bind_of (run_update scene _)).trans ((run_bind_of hvet).trans ?_)
    refine (run_bind_of (run_openServed hserved)).trans ((run_bind_of (run_update _ _)).trans ?_)
    change (ite ((Terms.offer requested (service.told size)).options.isEmpty = true) sendFirst _ :
      Act Phase).run _ = _
    rw [if_pos hgranted]
    refine (run_bind_of (run_update _ _)).trans (run_sendBlock ?_)
    exact hgive
  | @created filename mode requested service stream host hadmits hcreate hsend =>
    have hvet : (vet filename mode).run (scene.become (scene.session.pin source.port)) =
        .ok service _ := run_vet ⟨hadmits.plain, hadmits.serving⟩
    have hmade : (createServed service filename).run
        (scene.become (scene.session.pin source.port)) = .ok () _ := run_createServed hcreate
    obtain ⟨rfl, store, -, rfl⟩ := Stream.create_host hcreate
    unfold serveWrite
    refine (run_bind_of (run_update scene _)).trans ((run_bind_of hvet).trans ?_)
    refine (run_bind_of hmade).trans ?_
    unfold Terms.Offer.reply at hsend ⊢
    change (ite ((Terms.offer requested (service.told requested.announced)).options.isEmpty = true)
      (send (.ack 0) >>= _) (send (.optionAck _) >>= _) : Act Phase).run _ = _
    split
    · next hempty =>
      rw [if_pos hempty] at hsend
      refine (run_bind_of (run_send ?_)).trans rfl
      exact hsend
    · next hgranted =>
      rw [if_neg hgranted] at hsend
      refine (run_bind_of (run_send ?_)).trans rfl
      exact hsend
  | lastAck hphase | ack hphase | oldAck hphase => exact nomatch hphase

/-- **Every turn is taken.** -/
theorem run_handle {source : Endpoint} {packet : Packet} {phase : Phase}
    (h : Turn source scene scene.session.phase packet phase scene') :
    (handle packet source).run scene = .ok phase scene' := by
  unfold handle
  refine (run_bind_of (run_session scene)).trans ?_
  split
  · next code message _ =>
    generalize scene.session.phase = now at h
    exact nomatch h
  · cases hphase : scene.session.phase with
    | idle =>
      rw [hphase] at h
      exact run_takeUp h
    | requested =>
      rw [hphase] at h
      cases hrole : scene.session.role with
      | download => exact run_replyToRead hrole h
      | upload => exact run_replyToWrite hrole h
      | serve service =>
        cases h with
        | grantedRead hrole' | firstBlock hrole' | grantedWrite hrole' | firstAck hrole'
          | strayAck hrole' => exact nomatch hrole.symm.trans hrole'
        | lastAck hphase' | ack hphase' | oldAck hphase' => exact nomatch hphase'
    | awaitingData =>
      rw [hphase] at h
      cases h with
      | block htake => exact run_receiveData htake
      | oldBlock hzero hold hfew hsend => exact run_receiveData_old hzero hold hfew hsend
      | lastAck hphase' | ack hphase' | oldAck hphase' => exact nomatch hphase'
    | awaitingAck =>
      rw [hphase] at h
      cases packet with
      | ack block => exact run_receiveAck (.inl rfl) h
      | _ => exact nomatch h
    | offering =>
      rw [hphase] at h
      cases packet with
      | ack block => exact run_receiveAck (.inr rfl) h
      | _ => exact nomatch h
    | done | failed reason =>
      rw [hphase] at h
      exact nomatch h.waits

/-- **Every turn is taken.**  What a turn leads to, the act of the packet does. -/
theorem run_dispatch {source : Endpoint} {packet : Packet} {phase : Phase}
    (h : Turn source (scene.showing packet) scene.session.phase packet phase scene') :
    (dispatch packet source).run scene = .ok () (scene'.enter phase) := by
  have hhandle : (handle packet source >>= fun phase =>
      update fun s => { s with phase, retries := 0 }).run (scene.showing packet) =
        .ok () (scene'.enter phase) := by
    rw [← Scene.showing_session scene packet] at h
    exact (run_bind_of (run_handle h)).trans rfl
  unfold dispatch
  refine (run_bind_of (run_session scene)).trans ?_
  unfold Scene.showing at hhandle
  split
  · next hwatched =>
    rw [if_pos hwatched] at hhandle
    exact (run_bind_of (run_record scene _)).trans hhandle
  · next hwatched =>
    rw [if_neg hwatched] at hhandle
    exact hhandle

/-- A datagram of the peer that is read leads to the turn of its packet. -/
theorem run_step {source : Endpoint} {bytes : Bytes} {packet : Packet} {phase : Phase}
    (hown : scene.session.isForeign source = false)
    (hread : Packet.decode (bytes.take longestPacket) = .ok packet)
    (h : Turn source (scene.heard.showing packet) scene.session.phase packet phase scene') :
    (step (.datagram source bytes)).run scene = .ok () (scene'.enter phase) := by
  have hhear : (hear (.datagram source bytes)).run scene = .ok .processed (scene'.enter phase) := by
    unfold hear
    refine (run_bind_of (run_session scene)).trans ?_
    rw [hown, if_neg Bool.false_ne_true]
    refine (run_bind_of (run_now scene)).trans ((run_bind_of (run_update _ _)).trans ?_)
    rw [hread]
    exact (run_bind_of (run_dispatch h)).trans rfl
  exact (run_bind_of hhear).trans rfl

end Act

namespace Run

/-- What becomes of a run whose session has entered a phase. -/
def rest (scene : Scene) : Run × Host × List Deed :=
  if scene.session.phase.isTerminal then finish none scene
  else (.waiting scene.session, scene.host.wait scene.session.timing.timeout, scene.deeds)

/-- An act that is done leaves its run at rest. -/
theorem settle_of {act : Act Unit} {session : Session} {host : Host} {scene : Scene}
    (h : act.run ⟨session, host, []⟩ = .ok () scene) : settle act session host = rest scene := by
  unfold settle
  rw [h]
  rfl

/-- A waiting session takes the turn of the packet that it hears. -/
theorem step_handled {s : Session} {host : Host} {source : Endpoint} {bytes : Bytes}
    {packet : Packet} {phase : Phase} {scene : Scene} (hown : s.isForeign source = false)
    (hread : Packet.decode (bytes.take Act.longestPacket) = .ok packet)
    (h : Turn source ((Scene.mk s host []).heard.showing packet) s.phase packet phase scene) :
    (waiting s).step (.datagram source bytes) host = rest (scene.enter phase) :=
  settle_of (Act.run_step hown hread h)

/-- A server opens with the turn of the request. -/
theorem start_answered {s : Session} {host : Host} {source : Endpoint} {packet : Packet}
    {phase : Phase} {scene : Scene}
    (h : Turn source ((Scene.mk s host []).showing packet) s.phase packet phase scene) :
    start s (.answer packet source) host = rest (scene.enter phase) :=
  settle_of (Act.run_dispatch h)

/-- A client opens with its request, if that can be sent. -/
theorem start_asked {s : Session} {host : Host} {packet : Packet}
    (hsend : (Scene.mk s host []).CanSend packet) :
    start s (.request packet) host = rest ((Scene.mk s host []).post packet
      { s with lastSent := some packet, phase := .requested }) :=
  settle_of ((Act.run_bind_of (Act.run_send hsend)).trans rfl)

end Run

end TrivialFtp
