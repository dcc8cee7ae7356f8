import TrivialFtp.Proofs.Turns

/-!
# Proofs: what is left alone

A session under way reads and writes blocks, counts, sends and sends again.  However that ends, it
has the peer and the terms that it had, and has written to nobody but that peer.  Whatever can be
told from this alone holds of all that it does with blocks.

- `Frame`: a relation of the scenes before and after that can be told from this.
- `Act.Keeps`: acts that keep such a relation, one lemma an act.
-/

namespace TrivialFtp

/-- The deed is about a datagram for an endpoint, whether it was sent or not. -/
def Deed.IsFor (peer : Endpoint) : Deed → Prop
  | sent d _ | unsent d _ => d.target = peer
  | observed _ | touched _ | consulted _ | flushed _ => False

/-- A relation of the scenes before and after, which holds as long as the peer and the terms are the
same and there is nothing to be seen but a datagram for the peer. -/
structure Frame where
  rel : Scene → Scene → Prop
  trans : ∀ {scene scene₁ scene₂ : Scene}, rel scene scene₁ → rel scene₁ scene₂ → rel scene scene₂
  still : ∀ {scene scene₁ : Scene}, scene₁.session.remote = scene.session.remote →
    scene₁.session.tid = scene.session.tid → scene₁.session.terms = scene.session.terms →
      scene₁.deeds = scene.deeds → rel scene scene₁
  letter : ∀ {scene : Scene} {d : Deed} (host : Host), d.IsFor scene.session.peer →
    rel scene { scene with host, deeds := scene.deeds ++ [d] }

namespace Act

variable {α β : Type} {frame : Frame}

/-- However the act ends, it has kept to the frame. -/
def Keeps (frame : Frame) (act : Act α) : Prop :=
  ∀ scene, act.Ends scene (fun _ => frame.rel scene) fun _ => frame.rel scene

/-- What both parts keep, the one after the other keeps. -/
theorem Keeps.bind {act : Act α} {k : α → Act β} (h : act.Keeps frame)
    (hk : ∀ a, (k a).Keeps frame) : (act >>= k).Keeps frame := by
  refine fun scene => Ends.bind (Ends.mono (h scene) (fun a scene₁ hrel => ?_) fun _ _ => id)
  exact Ends.mono (hk a scene₁) (fun _ _ => frame.trans hrel) fun _ _ => frame.trans hrel

theorem keeps_pure (a : α) : (pure a : Act α).Keeps frame := fun _ => frame.still rfl rfl rfl rfl

/-- An act that stops at once leaves everything as it is. -/
theorem keeps_throw (halt : Halt) : (throw halt : Act α).Keeps frame :=
  fun _ => frame.still rfl rfl rfl rfl

theorem keeps_fail (f : Failure) : (fail f : Act α).Keeps frame := keeps_throw (.failure f)

/-- A fault stops an act, and nothing is done on account of it. -/
theorem keeps_check (fault : Option Fault) : (check fault).Keeps frame := by
  cases fault with
  | none => exact keeps_pure ()
  | some f => exact keeps_fail (.io f)

/-- What is kept whatever session is looked at is kept. -/
theorem keeps_session {k : Session → Act α} (hk : ∀ s, (k s).Keeps frame) :
    (session >>= k).Keeps frame :=
  fun scene => ends_session (hk scene.session scene)

/-- A frame is about a session only by its peer, its port and its terms. -/
theorem keeps_update {f : Session → Session}
    (hf : ∀ s, (f s).remote = s.remote ∧ (f s).tid = s.tid ∧ (f s).terms = s.terms) :
    (update f).Keeps frame := by
  intro scene
  obtain ⟨hremote, htid, hterms⟩ := hf scene.session
  exact frame.still hremote htid hterms rfl

/-- No frame is about the counts. -/
theorem keeps_count (f : Tally → Tally) : (count f).Keeps frame :=
  keeps_update fun _ => ⟨rfl, rfl, rfl⟩

theorem keeps_now : now.Keeps frame := fun _ => frame.still rfl rfl rfl rfl

/-- A datagram goes to the peer, and whether it arrives makes no difference to a frame. -/
theorem keeps_attempt (bytes : Bytes) (again : Bool) : (attempt bytes again).Keeps frame := by
  intro scene
  rw [Ends, run_attempt]
  refine frame.letter _ ?_
  cases (scene.host.transmit ⟨scene.session.port, scene.session.peer, bytes⟩).1 <;> rfl

/-- Nor does it make a difference that a fault in sending stops the act. -/
theorem keeps_transmit (bytes : Bytes) (again : Bool) : (transmit bytes again).Keeps frame :=
  (keeps_attempt bytes again).bind keeps_check

/-- A packet that is remembered goes to the peer like one that is not. -/
theorem keeps_send (p : Packet) : (send p).Keeps frame :=
  (keeps_transmit _ _).bind fun _ => keeps_update fun _ => ⟨rfl, rfl, rfl⟩

/-- Reading changes the stream of the session alone. -/
theorem keeps_readBlock (size : Nat) : (readBlock size).Keeps frame := fun _ =>
  ends_readBlock (fun _ _ _ => frame.still rfl rfl rfl rfl) fun _ _ _ =>
    frame.still rfl rfl rfl rfl

/-- Writing changes the files of the host alone. -/
theorem keeps_writeBlock (payload : Bytes) : (writeBlock payload).Keeps frame := fun _ =>
  ends_writeBlock (fun _ _ => frame.still rfl rfl rfl rfl) fun _ _ _ =>
    frame.still rfl rfl rfl rfl

/-- A duplicate that is noted, and one too many of them, change the counts alone. -/
theorem keeps_noteDuplicate (block : UInt16) : (noteDuplicate block).Keeps frame := fun _ =>
  ends_noteDuplicate (fun _ => frame.still rfl rfl rfl rfl) fun _ => frame.still rfl rfl rfl rfl

/-- All that comes of a block is written, counted and acknowledged to the peer. -/
theorem keeps_receiveData (block : UInt16) (payload : Bytes) :
    (receiveData block payload).Keeps frame := by
  refine keeps_session fun s => ?_
  change Keeps frame (ite (block = s.nextBlock) _ _)
  split
  · refine (keeps_writeBlock payload).bind fun _ => (keeps_count _).bind fun _ => ?_
    refine (keeps_send _).bind fun _ => .bind (keeps_update fun _ => ⟨rfl, rfl, rfl⟩) fun _ => ?_
    exact keeps_session fun _ => keeps_pure _
  · split
    · change Keeps frame (ite (block = 0) (fail _ >>= _) (noteDuplicate block >>= _))
      have hagain : (noteDuplicate block >>= fun _ =>
          sendOnce (.ack block) >>= fun _ => pure Phase.awaitingData).Keeps frame :=
        (keeps_noteDuplicate block).bind fun _ => (keeps_transmit _ _).bind fun _ => keeps_pure _
      split
      · exact (keeps_fail _).bind fun _ => hagain
      · exact hagain
    · exact keeps_fail _

/-- A block is read, sent to the peer and counted. -/
theorem keeps_sendBlock : sendBlock.Keeps frame := by
  have hsend : sendData.Keeps frame := by
    refine keeps_session fun s => (keeps_readBlock s.blockSize).bind fun payload => ?_
    refine (keeps_count _).bind fun _ => keeps_session fun _ => ?_
    exact (keeps_send _).bind fun _ => keeps_pure _
  refine hsend.bind fun _ => ?_
  exact .bind (keeps_update fun _ => ⟨rfl, rfl, rfl⟩) fun _ => keeps_pure _

/-- An acknowledgement leads to the next block, to a note or to the end. -/
theorem keeps_receiveAck (block : UInt16) : (receiveAck block).Keeps frame := by
  refine keeps_session fun s => ?_
  split
  · split
    · exact keeps_pure _
    · exact .bind (keeps_update fun _ => ⟨rfl, rfl, rfl⟩) fun _ => keeps_sendBlock
  · split
    · exact (keeps_noteDuplicate block).bind fun _ => keeps_pure _
    · exact keeps_fail _

theorem keeps_sendFirst : sendFirst.Keeps frame :=
  .bind (keeps_update fun _ => ⟨rfl, rfl, rfl⟩) fun _ => keeps_sendBlock

/-- What is sent again goes to the peer again. -/
theorem keeps_resend : resend.Keeps frame := by
  refine keeps_session fun s => ?_
  cases s.lastSent with
  | none => exact keeps_pure ()
  | some p =>
    refine (keeps_count _).bind fun _ => (keeps_noteDuplicate _).bind fun _ => ?_
    refine (keeps_transmit _ _).bind fun _ => keeps_now.bind fun _ => ?_
    exact keeps_update fun _ => ⟨rfl, rfl, rfl⟩

/-- However a timeout is met, the frame is kept. -/
theorem keeps_retry : retry.Keeps frame := by
  refine keeps_session fun s => ?_
  have hresend : (update (fun s => { s with retries := s.retries + 1 }) >>= fun _ =>
      resend).Keeps frame := .bind (keeps_update fun _ => ⟨rfl, rfl, rfl⟩) fun _ => keeps_resend
  split
  · exact (keeps_fail _).bind fun _ => hresend
  · exact hresend

end Act

end TrivialFtp
