import TrivialFtp.Proofs.Stops

/-!
# Proofs: the record of a whole session

All that a session did from its opening on, in order, whatever its hosts were and whatever arrived,
and how many datagrams it dropped.

- `Speech`, `Turn.speech`: what a session sends at a turn, and what it counts for it.
- `Chronicle`: the records of a session.
- `Act.hear_ends`, `Session.drops_iff`: what comes of an arrival, and which datagrams are dropped.
-/

namespace TrivialFtp

/-- What a session that handled a packet has sent, and counted for it. -/
inductive Speech (scene scene' : Scene) : Prop where
  /-- Nothing, and at most a duplicate was noted. -/
  | nothing (htally : scene'.session.tally = scene.session.tally ∨
        ∃ block, scene'.session.tally = scene.session.tally.note block)
      (hlast : scene'.session.lastSent = scene.session.lastSent)
      (hhushed : World.Hushed scene.deeds scene'.deeds)
  | packet {packet : Packet} {d : Datagram} {deeds : List Deed}
      (hcharges : scene.session.Charges packet scene'.session.tally)
      (hlast : scene'.session.lastSent = scene.session.lastSent ∨
        scene'.session.lastSent = some packet)
      (hbytes : d.bytes = packet.encode) (hhushed : World.Hushed scene.deeds deeds)
      (hdeeds : scene'.deeds = deeds ++ [.sent d false])

section Speech

variable {scene scene₁ scene' : Scene} {source : Endpoint}

/-- What is said after a quiet act is all that is said. -/
theorem Speech.of_quiet (h : Speech scene₁ scene') (hquiet : scene.Quiet scene₁)
    (hlast₁ : scene₁.session.lastSent = scene.session.lastSent) : Speech scene scene' := by
  cases h with
  | nothing htally hlast hhushed =>
    rw [hquiet.tally] at htally
    exact .nothing htally (hlast.trans hlast₁) (hquiet.hushed.trans hhushed)
  | packet hcharges hlast hbytes hhushed hdeeds =>
    rw [hlast₁] at hlast
    exact .packet (hcharges.of_quiet hquiet) hlast hbytes (hquiet.hushed.trans hhushed) hdeeds

/-- A block that is taken is acknowledged. -/
theorem Take.speech {payload : Bytes} {phase : Phase} (h : Take scene payload phase scene')
    (htakes : scene.session.Takes) : Speech scene scene' := by
  obtain ⟨-, -⟩ := h
  exact .packet (.taken htakes) (.inr rfl) rfl (.refl _) rfl

/-- A block that is given is what is said. -/
theorem Give.speech (h : Give scene scene') : Speech scene scene' := by
  obtain ⟨-, -⟩ := h
  exact .packet .given (.inr rfl) rfl (.refl _) rfl

/-- To find a file puts nothing on the wire. -/
theorem Served.hushed {service : Service} {filename : String} {node : Node} {size : Option Nat}
    (h : Served service filename scene node size scene') :
    World.Hushed scene.deeds scene'.deeds := by
  cases h with
  | file => exact World.hushed_append rfl _
  | resolved => exact (World.hushed_append rfl _).trans (World.hushed_append rfl _)

/-- A server answers a request to write with a grant or an acknowledgement. -/
theorem Terms.Offer.reply_opcode (offer : Terms.Offer) :
    offer.reply.opcode ≠ .data ∧ offer.reply.opcode ≠ .error := by
  unfold reply
  split <;> exact ⟨nofun, nofun⟩

/-- **What is sent at a turn.** -/
theorem Turn.speech {phase phase' : Phase} {packet : Packet}
    (h : Turn source scene phase packet phase' scene') (hphase : scene.session.phase = phase) :
    Speech scene scene' := by
  cases h with
  | block htake => exact htake.speech (.inl hphase)
  | oldBlock _ _ hfew => exact .packet (.oldBlock hfew) (.inl rfl) rfl (.refl _) rfl
  | lastAck => exact .nothing (.inl rfl) rfl (.refl _)
  | oldAck => exact .nothing (.inr ⟨_, rfl⟩) rfl (.refl _)
  | ack _ _ hgive | grantedWrite _ _ hgive | firstAck _ hgive =>
    exact hgive.speech.of_quiet ⟨rfl, rfl, rfl, .refl _⟩ rfl
  | grantedRead =>
    refine .packet (.other ?_ ?_) (.inr rfl) rfl (.refl _) rfl <;> exact nofun
  | firstBlock hrole htake =>
    exact (htake.speech (.inr hrole)).of_quiet ⟨rfl, rfl, rfl, .refl _⟩ rfl
  | strayAck => exact .nothing (.inl rfl) rfl (.refl _)
  | offered _ hserved =>
    refine .packet (.other ?_ ?_) (.inr rfl) rfl hserved.hushed rfl <;> exact nofun
  | served _ hserved _ hgive =>
    exact hgive.speech.of_quiet ⟨rfl, rfl, rfl, hserved.hushed⟩ rfl
  | created =>
    obtain ⟨hblock, hreport⟩ := Terms.Offer.reply_opcode (Terms.offer _ _)
    exact .packet (.other hblock hreport) (.inr rfl) rfl (World.hushed_append rfl _) rfl

/-- So also when the packet was shown before, and when the next phase is entered. -/
theorem Turn.speech_shown {phase : Phase} {packet : Packet}
    (h : Turn source (scene.showing packet) scene.session.phase packet phase scene') :
    Speech scene (scene'.enter phase) := by
  have hsession := Scene.showing_session scene packet
  have hspeech := h.speech (congrArg Session.phase hsession)
  cases hspeech.of_quiet (scene.quiet_showing packet) (congrArg Session.lastSent hsession) with
  | nothing htally hlast hhushed => exact .nothing htally hlast hhushed
  | packet hcharges hlast hbytes hhushed hdeeds =>
    exact .packet hcharges hlast hbytes hhushed hdeeds

/-- A turn is not charged for the look at the clock and for showing the packet before it. -/
theorem Turn.speech_heard {phase : Phase} {packet : Packet}
    (h : Turn source (scene.heard.showing packet) scene.session.phase packet phase scene') :
    Speech scene (scene'.enter phase) :=
  (Turn.speech_shown h).of_quiet scene.quiet_heard rfl

/-- A session opens with one packet, which it is charged for. -/
theorem Opened.speech {session : Session} {opening : Opening} {host : Host}
    (hbegins : Begins session opening) (h : Opened opening ⟨session, host, []⟩ scene') :
    Speech ⟨session, host, []⟩ scene' := by
  cases h with
  | asked =>
    obtain ⟨hblock, hreport⟩ := hbegins.request_opcode
    exact .packet (.other hblock hreport) (.inr rfl) rfl (.refl _) rfl
  | answered hturn => exact hturn.speech_shown

end Speech

/-! ### Datagrams dropped -/

/-- What a session drops: what strangers send, and what is no packet while the peer's port is not
known. -/
def Session.drops (s : Session) : Arrival → Bool
  | .datagram source bytes => s.isForeign source ||
      s.tid.isNone && !(Packet.decode (bytes.take Act.longestPacket)).isOk
  | .silence | .fault _ => false

section Drops

variable {scene scene' : Scene} {arrival : Arrival} {source : Endpoint} {bytes : Bytes}

/-- A datagram of the peer that can be read is not dropped, and once the peer is known none of its
datagrams is. -/
theorem Session.not_drops {s : Session} (hown : s.isForeign source = false)
    (hread : s.tid.isSome = true ∨ (Packet.decode (bytes.take Act.longestPacket)).isOk = true) :
    s.drops (.datagram source bytes) = false := by
  rw [drops, hown, Bool.false_or]
  rcases hread with htid | hread
  · rw [Option.isNone_eq_false_iff.2 htid, Bool.false_and]
  · rw [hread, Bool.not_true, Bool.and_false]

/-- What is dropped is from a stranger, or unreadable before the peer is known. -/
theorem Drop.drops (h : Drop source bytes scene scene') :
    scene.session.drops (.datagram source bytes) = true := by
  cases h with
  | foreign hforeign => rw [Session.drops, hforeign, Bool.true_or]
  | unreadable hown hread htid =>
    rw [Session.drops, hown, htid, hread]
    rfl

/-- To drop a datagram does nothing else. -/
theorem Drop.deeds (h : Drop source bytes scene scene') : scene'.deeds = scene.deeds := by
  cases h <;> rfl

/-- What comes of an arrival that does not stop a session. -/
inductive Hears : Arrival → Scene → Heard → Scene → Prop where
  | processed {source : Endpoint} {bytes : Bytes} {packet : Packet} {phase : Phase}
      {scene scene' : Scene} (hown : scene.session.isForeign source = false)
      (hread : Packet.decode (bytes.take Act.longestPacket) = .ok packet)
      (hturn : Turn source (scene.heard.showing packet) scene.session.phase packet phase scene') :
    Hears (.datagram source bytes) scene .processed (scene'.enter phase)
  | discarded {source : Endpoint} {bytes : Bytes} {scene scene' : Scene}
      (hdrop : Drop source bytes scene scene') :
    Hears (.datagram source bytes) scene .discarded scene'
  | timedOut {scene : Scene} : Hears .silence scene .timedOut scene

/-- An arrival is processed, dropped or a silence; or the session stops over it, which is not to
drop it. -/
theorem Act.hear_ends (scene : Scene) (arrival : Arrival) :
    (hear arrival).Ends scene (Hears arrival scene)
      fun _ _ => scene.session.drops arrival = false := by
  match arrival with
  | .silence => exact ends_pure .timedOut
  | .fault f => exact ends_fail rfl
  | .datagram source bytes =>
    refine ends_session ?_
    split
    · next hforeign => exact .discarded (.foreign hforeign)
    · next hown =>
      have hown := Bool.eq_false_iff.2 hown
      refine ends_now (ends_update ?_)
      cases hread : Packet.decode (bytes.take longestPacket) with
      | ok packet =>
        refine Ends.bind (dispatch_ends scene.heard packet source (fun phase scene₁ hturn => ?_)
          fun _ _ _ => Session.not_drops hown (.inr (congrArg Except.isOk hread)))
        exact .processed hown hread hturn
      | error m =>
        -- Whether it is dropped or fatal depends on whether the peer's port is known.
        refine ends_session ?_
        change Ends (ite (scene.session.tid.isSome = true) (fail _ >>= _) (discard >>= _))
          scene.heard _ _
        split
        · next htid => exact Ends.bind (ends_fail (Session.not_drops hown (.inl htid)))
        · next htid =>
          exact .discarded (.unreadable hown hread (Option.not_isSome_iff_eq_none.1 htid))

/-- An arrival is heard as dropped just when the session drops it. -/
theorem Hears.drops_iff {heard : Heard} (h : Hears arrival scene heard scene') :
    scene.session.drops arrival = true ↔ heard = .discarded := by
  cases h with
  | processed hown hread =>
    rw [Session.not_drops hown (.inr (congrArg Except.isOk hread))]
    exact ⟨Bool.noConfusion, Heard.noConfusion⟩
  | discarded hdrop => exact ⟨fun _ => rfl, fun _ => hdrop.drops⟩
  | timedOut => exact ⟨Bool.noConfusion, Heard.noConfusion⟩

/-- **What is dropped.**  A session discards an arrival just when it is a stranger's datagram, or
one that is no packet while the peer's port is not known. -/
theorem Session.drops_iff (s : Session) (arrival : Arrival) (host : Host) :
    s.drops arrival = true ↔
      ∃ scene, (Act.hear arrival).run ⟨s, host, []⟩ = .ok .discarded scene := by
  have hears := Act.hear_ends ⟨s, host, []⟩ arrival
  constructor
  · intro hdrops
    cases hrun : (Act.hear arrival).run ⟨s, host, []⟩ with
    | ok heard scene => exact ⟨scene, by rw [(hears.ok hrun).drops_iff.1 hdrops]⟩
    | error halt scene => exact nomatch (hears.error hrun).symm.trans hdrops
  · rintro ⟨scene, hrun⟩
    exact (hears.ok hrun).drops_iff.2 rfl

end Drops

/-! ### Records -/

namespace Run

/-- Whether a run drops what arrives. -/
def drops : Run → Arrival → Bool
  | waiting s, arrival => s.drops arrival
  | ended _, _ => false

/-- What a run has failed with. -/
def failure? : Run → Option Failure
  | ended (.failed f _) => some f
  | _ => none

/-- What a run has counted, unless it has crashed. -/
def tally? : Run → Option Tally
  | waiting s => some s.tally
  | ended (.completed tally) | ended (.failed _ tally) => some tally
  | ended .crashed => none

end Run

/-- The records of a session: what has become of it, all that it did, in order, and how many
datagrams it dropped.  At every turn its host may be another. -/
inductive Chronicle (session : Session) (opening : Opening) : Run → List Deed → Nat → Prop where
  | start (host : Host) :
    Chronicle session opening (Run.start session opening host).1
      (Run.start session opening host).2.2 0
  | step {run : Run} {deeds : List Deed} {dropped : Nat}
      (hrecord : Chronicle session opening run deeds dropped) (arrival : Arrival) (host : Host) :
    Chronicle session opening (run.step arrival host).1 (deeds ++ (run.step arrival host).2.2)
      (dropped + (run.drops arrival).toNat)

namespace Chronicle

variable {session : Session} {opening : Opening} {run : Run} {deeds : List Deed} {dropped : Nat}

/-- What a record leads to, a run reaches. -/
theorem reaches (h : Chronicle session opening run deeds dropped) :
    Reaches (fun _ => True) (fun _ => True) session opening run := by
  induction h with
  | start host => exact .start trivial
  | step _ arrival host ih => exact .step ih trivial trivial

/-- What holds of the record of an opening, and stays true when a session that waits takes its turn,
holds of all records: a run that has ended adds nothing to them. -/
theorem rule {P : Run → List Deed → Nat → Prop}
    (hstart : ∀ host, P (Run.start session opening host).1 (Run.start session opening host).2.2 0)
    (hstep : ∀ s deeds dropped arrival host, Chronicle session opening (.waiting s) deeds dropped →
      P (.waiting s) deeds dropped →
        P ((Run.waiting s).step arrival host).1 (deeds ++ ((Run.waiting s).step arrival host).2.2)
          (dropped + (s.drops arrival).toNat))
    (h : Chronicle session opening run deeds dropped) : P run deeds dropped := by
  induction h with
  | start host => exact hstart host
  | @step run deeds dropped hrecord arrival host ih =>
    cases run with
    | waiting s => exact hstep s deeds dropped arrival host hrecord ih
    | ended ending =>
      change P (.ended ending) (deeds ++ []) dropped
      rwa [List.append_nil]

end Chronicle

end TrivialFtp
