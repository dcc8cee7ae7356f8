import TrivialFtp.Proofs.Delivery
import TrivialFtp.Proofs.Frames
import TrivialFtp.Proofs.Progress

/-!
# Proofs: a client keeps the terms that it is granted

What a client does with the answer to its own request.  It takes over the terms of the server, be it
from the options granted or because there are none, and nothing that it goes on to do with that
answer changes them.

- `Act.KeepsTerms`: acts that leave the terms as they are; what is done with blocks is among them
  (`Act.keepingTerms`).
- `Terms.offer_kept`: after the first answer both sides have the same terms.
-/

namespace TrivialFtp

namespace Act

variable {α : Type}

/-- However the act ends, the session has these terms. -/
def Settles (act : Act α) (scene : Scene) (terms : Terms) : Prop :=
  act.Ends scene (fun _ scene' => scene'.session.terms = terms)
    fun _ scene' => scene'.session.terms = terms

/-- However the act ends, the session has the terms that it had. -/
def KeepsTerms (act : Act α) : Prop := ∀ scene, act.Settles scene scene.session.terms

/-- Scenes before and after in which the session has the same terms. -/
def keepingTerms : Frame where
  rel scene scene₁ := scene₁.session.terms = scene.session.terms
  trans h h' := h'.trans h
  still _ _ hterms _ := hterms
  letter _ _ := rfl

theorem Keeps.keepsTerms {act : Act α} (h : act.Keeps keepingTerms) : act.KeepsTerms := h

theorem settles_update {f : Session → Session} {k : Unit → Act α} {scene : Scene} {terms : Terms}
    (hk : (k ()).KeepsTerms) (hf : (f scene.session).terms = terms) :
    (update f >>= k).Settles scene terms :=
  ends_update (hf ▸ hk _)

/-! ### First answers -/

theorem settles_adopt {granted : Options} {scene : Scene} {terms : Terms} {k : Unit → Act α}
    (hagree : Terms.agree scene.session.requested granted = .ok terms)
    (hk : (k ()).KeepsTerms) : (adopt granted >>= k).Settles scene terms := by
  have hrest := hk (scene.become { scene.session with terms })
  unfold Settles Ends at hrest ⊢
  rwa [run_bind_of (run_adopt hagree)]

variable {scene : Scene} {terms : Terms}

/-- A client that waits for its first answer takes a packet that is no error for it. -/
theorem settles_handle {packet : Packet} {source : Endpoint}
    (hphase : scene.session.phase = .requested)
    (herror : ∀ code message, packet ≠ .error code message)
    (hread : scene.session.role = .download → (replyToRead packet source).Settles scene terms)
    (hwrite : scene.session.role = .upload → (replyToWrite packet source).Settles scene terms)
    (hclient : scene.session.role.service? = none) :
    (handle packet source).Settles scene terms := by
  unfold handle
  refine ends_session ?_
  split
  · next code message => exact absurd rfl (herror code message)
  · rw [hphase]
    cases hrole : scene.session.role with
    | download => exact hread hrole
    | upload => exact hwrite hrole
    | serve service => exact nomatch hrole ▸ hclient

/-- Options granted are taken over by reader and writer alike. -/
theorem settles_granted {granted : Options} (source : Endpoint)
    (hphase : scene.session.phase = .requested) (hclient : scene.session.role.service? = none)
    (hagree : Terms.agree scene.session.requested granted = .ok terms) :
    (handle (.optionAck granted) source).Settles scene terms := by
  refine settles_handle hphase nofun (fun _ => ends_update ?_) (fun _ => ends_update ?_) hclient
  · refine settles_adopt hagree (Keeps.keepsTerms ((keeps_send _).bind fun _ => ?_))
    exact .bind (keeps_update fun _ => ⟨rfl, rfl, rfl⟩) fun _ => keeps_pure _
  · exact settles_adopt hagree keeps_sendFirst.keepsTerms

/-- A reader that gets a block at once settles for the terms of one who asked for nothing. -/
theorem settles_firstBlock (block : UInt16) (payload : Bytes) (source : Endpoint)
    (hphase : scene.session.phase = .requested) (hrole : scene.session.role = .download) :
    (handle (.data block payload) source).Settles scene {} := by
  refine settles_handle hphase nofun (fun _ => ends_update ?_)
    (fun hrole' => nomatch hrole.symm.trans hrole') (congrArg Role.service? hrole)
  refine settles_update (Keeps.keepsTerms ?_) rfl
  exact .bind (keeps_update fun _ => ⟨rfl, rfl, rfl⟩) fun _ => keeps_receiveData _ _

/-- So does a writer that may begin at once. -/
theorem settles_firstAck (source : Endpoint) (hphase : scene.session.phase = .requested)
    (hrole : scene.session.role = .upload) : (handle (.ack 0) source).Settles scene {} := by
  refine settles_handle hphase nofun (fun hrole' => nomatch hrole.symm.trans hrole')
    (fun _ => ends_update ?_) (congrArg Role.service? hrole)
  exact settles_update keeps_sendFirst.keepsTerms rfl

end Act

namespace Terms

/-- **Both sides have the same terms.**  Let a server with any word to tell as the size take up what
a client requested.  If it grants options, the client reads them as they were sent and takes over
the server's terms; whatever comes of the block or acknowledgement that the client then sends, it
has these terms.  If it grants none, the server keeps the terms of one who was asked for nothing,
and the client settles for the same when it gets block 1 or may send it. -/
theorem offer_kept (requested : Options) (sizeReply : Option UInt64) :
    let offer := offer requested (sizeReply.map UInt64.toNat)
    (∀ scene : Scene, (Act.grant requested (sizeReply.map UInt64.toNat)).run scene =
      .ok offer.options (scene.become { scene.session with terms := offer.terms })) ∧
    (offer.options.isEmpty = false →
      (Packet.optionAck offer.options).Passes ∧
      ∀ scene : Scene, scene.session.requested = requested →
        (Act.adopt offer.options).run scene =
          .ok () (scene.become { scene.session with terms := offer.terms }) ∧
        (scene.session.phase = .requested → scene.session.role.service? = none → ∀ source,
          (Act.handle (.optionAck offer.options) source).Settles scene offer.terms)) ∧
    (offer.options.isEmpty = true →
      offer.terms = {} ∧
      ∀ (scene : Scene) (source : Endpoint), scene.session.phase = .requested →
        (scene.session.role = .download → ∀ payload,
          (Act.handle (.data 1 payload) source).Settles scene offer.terms) ∧
        (scene.session.role = .upload →
          (Act.handle (.ack 0) source).Settles scene offer.terms)) := by
  intro offer
  have hsize : ∀ n, sizeReply.map UInt64.toNat = some n → n < Numeral.word64 := by
    rintro n hn
    obtain ⟨word, -, rfl⟩ := Option.map_eq_some_iff.1 hn
    exact word.toNat_lt
  refine ⟨fun _ => rfl, fun hgranted => ⟨passes_offer hsize, ?_⟩, fun hempty => ?_⟩
  · rintro scene rfl
    have hagree : agree scene.session.requested offer.options = .ok offer.terms :=
      agree_offer_of_requested hsize hgranted
    exact ⟨Act.run_adopt hagree, fun hphase hclient source =>
      Act.settles_granted source hphase hclient hagree⟩
  · have hterms : offer.terms = {} := offer_terms_of_isEmpty hempty
    refine ⟨hterms, fun scene source hphase => ⟨fun hrole payload => ?_, fun hrole => ?_⟩⟩
    · rw [hterms]
      exact Act.settles_firstBlock 1 payload source hphase hrole
    · rw [hterms]
      exact Act.settles_firstAck source hphase hrole

theorem offer_kept_mixedOptions :
    ∃ scene : Scene,
      scene.session.requested = .ofList [("BlkSize", " 70000"), ("x", "y"), ("tsize", "0")] ∧
      (Act.handle (.optionAck (.ofList [("blksize", "65464"), ("tsize", "9")]))
        ⟨.v4 127 0 0 1, 40001, 0⟩).Settles scene
          { blockSize := .clamp 65464, transferSize := some 9 } :=
  have hkept := offer_kept (.ofList [("BlkSize", " 70000"), ("x", "y"), ("tsize", "0")]) (some 9)
  have hclient := (hkept.2.1 (by decide)).2
    ⟨.client .upload 40002 ⟨.v4 127 0 0 1, 69, 0⟩ (.reading .held {}) _ {} false 1, {}, []⟩ rfl
  ⟨_, rfl, hclient.2 rfl rfl _⟩

end Terms

end TrivialFtp
