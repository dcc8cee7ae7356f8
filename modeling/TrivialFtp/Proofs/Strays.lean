import TrivialFtp.Proofs.Silence
import TrivialFtp.Proofs.Strangers

/-!
# Proofs: acknowledgements that come too early

A writer that waits for the first answer to its request is passed by the acknowledgement of a block
that it never sent.  It answers nothing and counts nothing, but it is not as if nothing had
happened: the port that the acknowledgement came from is the peer's from then on, and the writer is
as patient as it was at first.

- `Run.step_stray`: what one such acknowledgement leaves behind.
- `Run.course_strays`: what any number of them leave behind.
- `Reaches.strays_linger`: what becomes of a writer after that.
-/

namespace TrivialFtp

/-- The acknowledgement of some block from 1 on comes from a port of a host. -/
inductive Stray (ip : Ip) (port : UInt16) : Arrival → Prop where
  | ack {source : Endpoint} {bytes : Bytes} {block : UInt16} (hip : source.ip = ip)
      (hport : source.port = port)
      (hread : Packet.decode (bytes.take Act.longestPacket) = .ok (.ack block))
      (hblock : block ≠ 0) : Stray ip port (.datagram source bytes)

/-- A session that was passed by acknowledgements from a port. -/
def Session.strayed (s : Session) (port : UInt16) (now : Nat) : Session :=
  { s with tid := some port, retries := 0, heardAt := now }

/-- The deed is that an acknowledgement was shown. -/
def Deed.IsGlimpse (d : Deed) : Prop := ∃ block, d = .observed (.ack block)

/-- A writer that waits for its first answer and knows of no other port than one. -/
structure Session.Awaits (s : Session) (port : UInt16) : Prop where
  role : s.role = .upload
  phase : s.phase = .requested
  tid : s.tid = none ∨ s.tid = some port

namespace Session

variable {s : Session} {port : UInt16} {source : Endpoint}

theorem Awaits.strayed (h : s.Awaits port) (now : Nat) : (s.strayed port now).Awaits port :=
  ⟨h.role, h.phase, .inr rfl⟩

theorem Awaits.pin (h : s.Awaits port) : s.pin port = { s with tid := some port } := by
  unfold Session.pin
  rcases h.tid with htid | htid <;> rw [htid] <;> rfl

theorem Awaits.own (h : s.Awaits port) (hip : source.ip = s.remote.ip)
    (hport : source.port = port) : s.isForeign source = false := by
  refine Bool.eq_false_iff.2 fun hforeign => ?_
  obtain hother | ⟨tid, htid, hother⟩ := isForeign_iff.1 hforeign
  · exact hother hip
  · rcases h.tid with hnone | hsome
    · exact absurd (hnone.symm.trans htid) (Option.some_ne_none _).symm
    · obtain rfl := Option.some.inj (hsome.symm.trans htid)
      exact hother hport

end Session

/-- A host on which a session that has heard something waits again. -/
def Host.resting (host : Host) (now timeout : Nat) : Host :=
  { host with clock := now, lastWait := some timeout }

namespace Run

/-- What arrives first is taken in first. -/
theorem course_append (run : Run) (host : Host) (events events' : List (Nat × Arrival)) :
    run.course host (events ++ events') =
      let before := run.course host events
      let after := before.1.course before.2.1 events'
      (after.1, after.2.1, before.2.2 ++ after.2.2) := by
  induction events generalizing run host with
  | nil => rfl
  | cons e rest ih =>
    obtain ⟨time, arrival⟩ := e
    rw [List.cons_append, course, course]
    dsimp only
    rw [ih]
    dsimp only
    rw [List.append_assoc]

variable {s : Session} {port : UInt16}

/-- **One acknowledgement.**  Nothing goes out and nothing is counted, but the port and the patience
of the session are not what they were. -/
theorem step_stray {arrival : Arrival} (h : s.Awaits port)
    (hstray : Stray s.remote.ip port arrival) (host : Host) :
    ∃ seen, (∀ d ∈ seen, d.IsGlimpse) ∧ (waiting s).step arrival host =
      (.waiting (s.strayed port (host.clock + 1)),
        host.resting (host.clock + 1) s.timing.timeout, seen) := by
  cases hstray with
  | @ack source bytes block hip hport hread hblock =>
    obtain ⟨seen, hseen, hshown⟩ : ∃ seen, (∀ d ∈ seen, d.IsGlimpse) ∧
        (Scene.mk s host []).heard.showing (.ack block) =
          ⟨{ s with heardAt := host.clock + 1 }, { host with clock := host.clock + 1 }, seen⟩ := by
      unfold Scene.showing
      split
      · exact ⟨_, fun d hd => ⟨block, List.mem_singleton.1 hd⟩, rfl⟩
      · exact ⟨[], fun d hd => absurd hd List.not_mem_nil, rfl⟩
    have hpin : Session.pin { s with heardAt := host.clock + 1 } source.port =
        { s with tid := some port, heardAt := host.clock + 1 } := by
      rw [hport]
      exact Session.Awaits.pin ⟨h.role, h.phase, h.tid⟩
    have hturn : Turn source ((Scene.mk s host []).heard.showing (.ack block)) s.phase
        (.ack block) .requested (Scene.become ⟨s, { host with clock := host.clock + 1 }, seen⟩
          (Session.pin { s with heardAt := host.clock + 1 } source.port)) := by
      rw [hshown, h.phase]
      exact .strayAck h.role hblock
    refine ⟨seen, hseen, ?_⟩
    rw [step_handled (h.own hip hport) hread hturn, hpin, rest_waiting rfl, Session.strayed,
      ← h.phase]
    rfl

/-- **Any number of them** leave behind what the last one does. -/
theorem course_strays {strays : List (Nat × Arrival)} (h : s.Awaits port)
    (hstrays : ∀ e ∈ strays, Stray s.remote.ip port e.2) (hsome : strays ≠ []) (host : Host) :
    ∃ now seen, (∀ d ∈ seen, d.IsGlimpse) ∧ (waiting s).course host strays =
      (.waiting (s.strayed port now), host.resting now s.timing.timeout, seen) := by
  induction strays generalizing s host with
  | nil => exact absurd rfl hsome
  | cons e rest ih =>
    obtain ⟨time, arrival⟩ := e
    obtain ⟨hstray, hrest⟩ := List.forall_mem_cons.1 hstrays
    obtain ⟨seen, hseen, hstep⟩ := step_stray h hstray { host with clock := time }
    rw [course]
    dsimp only
    rw [hstep]
    dsimp only
    by_cases hlast : rest = []
    · subst hlast
      exact ⟨time + 1, seen, hseen, by rw [course, List.append_nil]; rfl⟩
    · obtain ⟨now, more, hmore, hcourse⟩ := ih (h.strayed (time + 1)) hrest hlast
        (Host.resting { host with clock := time } (time + 1) s.timing.timeout)
      refine ⟨now, seen ++ more, fun d hd => (List.mem_append.1 hd).elim (hseen d) (hmore d), ?_⟩
      rw [hcourse]
      rfl

end Run

/-! ### The answer from the same port -/

section Turn

variable {source : Endpoint} {scene scene' : Scene} {packet : Packet} {phase : Phase}

/-- How patient a session was does not matter to the block that it sends. -/
theorem Give.unhurried {session : Session} (h : Give (scene.become session) scene') :
    ∃ scene'', Give (scene.become { session with retries := 0 }) scene'' ∧
      ∀ phase, scene''.enter phase = scene'.enter phase := by
  cases h with
  | mk hread hsend => exact ⟨_, .mk hread hsend, fun _ => rfl⟩

/-- A turn that is open for the session is open for it when it was passed by an acknowledgement from
the port of the answer, and leads to the same. -/
theorem Turn.strayed (h : Turn source scene .requested packet phase scene')
    (hawaits : scene.session.Awaits source.port) :
    ∃ scene'', Turn source
        (scene.become { scene.session with tid := some source.port, retries := 0 }) .requested
        packet phase scene'' ∧ scene''.enter phase = scene'.enter phase := by
  have hsettled : ∀ terms, Session.settled
      { scene.session with tid := some source.port, retries := 0 } source.port terms =
      { scene.session.settled source.port terms with retries := 0 } := by
    intro terms
    unfold Session.settled
    rw [hawaits.pin]
    rfl
  cases h with
  | grantedRead hrole | firstBlock hrole => cases hrole.symm.trans hawaits.role
  | lastAck hphase | ack hphase | oldAck hphase =>
    rcases hphase with hphase | hphase <;> cases hphase
  | @grantedWrite granted terms _ hrole hagree hgive =>
    obtain ⟨scene'', hgive, henter⟩ := hgive.unhurried
    rw [← hsettled] at hgive
    exact ⟨scene'', .grantedWrite hrole hagree hgive, henter _⟩
  | firstAck hrole hgive =>
    obtain ⟨scene'', hgive, henter⟩ := hgive.unhurried
    rw [← hsettled] at hgive
    exact ⟨scene'', .firstAck hrole hgive, henter _⟩
  | strayAck hrole hzero =>
    refine ⟨_, .strayAck hrole hzero, ?_⟩
    rw [hawaits.pin]
    rfl

end Turn

namespace Run

variable {s : Session} {port : UInt16}

/-- **The answer from the same port** is taken as if nothing had come before it. -/
theorem step_strayed {source : Endpoint} {bytes : Bytes} {packet : Packet} {phase : Phase}
    {scene : Scene} {host : Host} (h : s.Awaits port) (hip : source.ip = s.remote.ip)
    (hport : source.port = port)
    (hread : Packet.decode (bytes.take Act.longestPacket) = .ok packet)
    (hturn : Turn source ((Scene.mk s host []).heard.showing packet) .requested packet phase scene)
    (now : Nat) :
    (waiting (s.strayed port now)).step (.datagram source bytes) host =
      (waiting s).step (.datagram source bytes) host := by
  have hscene : (Scene.mk (s.strayed port now) host []).heard.showing packet =
      ((Scene.mk s host []).heard.showing packet).become
        { ((Scene.mk s host []).heard.showing packet).session with
          tid := some source.port, retries := 0 } := by
    rw [Scene.showing_session, hport]
    change ite (s.watched = true) _ _ = Scene.become (ite (s.watched = true) _ _) _
    split <;> rfl
  have hawaits : ((Scene.mk s host []).heard.showing packet).session.Awaits source.port := by
    rw [Scene.showing_session, hport]
    exact ⟨h.role, h.phase, h.tid⟩
  obtain ⟨scene'', hturn'', henter⟩ := hturn.strayed hawaits
  rw [← hscene] at hturn''
  have hstep := step_handled (h.own hip hport) hread (hturn.of_phase h.phase)
  have hstep' := step_handled ((h.strayed now).own hip hport) hread
    (hturn''.of_phase (h.strayed now).phase)
  rw [hstep, hstep', henter]

end Run

/-- **Acknowledgements that come too early** are passed over, but they leave their mark.  However
many of them come to a writer that waits for its first answer, all from one port, nothing goes out,
no file is touched and nothing is counted; the run then goes on as that of a session that knows this
port and has not asked again yet.  So a datagram from any other port is dropped, be it the answer of
the server, and into silence the request goes out again, to this port, as often as at first, though
never more often than duplicates of its block are put up with.  Only an answer from this very port
is taken as if nothing had come before it. -/
theorem Reaches.strays_linger {session s : Session} {opening : Opening} {port : UInt16}
    {strays : List (Nat × Arrival)} (hbegins : Begins session opening)
    (h : Reaches (fun _ => True) (fun _ => True) session opening (.waiting s))
    (hawaits : s.Awaits port) (hstrays : ∀ e ∈ strays, Stray s.remote.ip port e.2)
    (hsome : strays ≠ []) (host : Host) :
    ∃ now seen, (∀ d ∈ seen, d.IsGlimpse) ∧
      (∀ events,
        let rest := (Run.waiting (s.strayed port now)).course
          (host.resting now s.timing.timeout) events
        (Run.waiting s).course host (strays ++ events) = (rest.1, rest.2.1, seen ++ rest.2.2)) ∧
      (∀ source bytes host, source.port ≠ port →
        (Run.waiting (s.strayed port now)).step (.datagram source bytes) host =
          Run.settle Act.overlook (s.strayed port now) host) ∧
      (∀ source bytes packet phase scene host, source.ip = s.remote.ip → source.port = port →
        Packet.decode (bytes.take Act.longestPacket) = .ok packet →
        Turn source ((Scene.mk s host []).heard.showing packet) .requested packet phase scene →
        (Run.waiting (s.strayed port now)).step (.datagram source bytes) host =
          (Run.waiting s).step (.datagram source bytes) host) ∧
      ∃ request, opening = .request request ∧
        s.tally.count request.block ≤ Tally.mostDuplicates ∧
        ∀ hosts : List Host,
          let letter : Datagram := ⟨s.port, ⟨s.remote.ip, port, 0⟩, request.encode⟩
          let spoken := min s.timing.retries
            (Tally.mostDuplicates - s.tally.count request.block)
          (∀ host ∈ hosts, (host.transmit letter).1 = none) →
          ((Run.waiting (s.strayed port now)).silences hosts).2 =
              List.replicate (min hosts.length spoken) (.sent letter true) ∧
            (hosts.length ≤ spoken →
              ∃ s', ((Run.waiting (s.strayed port now)).silences hosts).1 = .waiting s') ∧
            (spoken < hosts.length → ∃ f tally,
              ((Run.waiting (s.strayed port now)).silences hosts).1 =
                .ended (.failed f tally)) := by
  obtain ⟨now, seen, hseen, hcourse⟩ := Run.course_strays hawaits hstrays hsome host
  obtain ⟨request, hlast, hresends⟩ := (h.standing hbegins s rfl).resends
  have hopening : opening = .request request := by
    unfold Session.Resends at hresends
    rwa [hawaits.phase] at hresends
  refine ⟨now, seen, hseen, fun events => ?_, fun source bytes host hport => ?_,
    fun source bytes packet phase scene host hip hport hread hturn =>
      Run.step_strayed hawaits hip hport hread hturn now,
    request, hopening, h.bearable hbegins request.block, fun hosts hsend => ?_⟩
  · rw [Run.course_append, hcourse]
  · exact Run.step_foreign (Session.isForeign_iff.2 (.inr ⟨port, rfl, hport⟩)) bytes host
  · have hwaits : (s.strayed port now).phase.isTerminal = false := by
      change s.phase.isTerminal = false
      rw [hawaits.phase]
      rfl
    obtain ⟨hdeeds, hwaiting, hended⟩ := Run.silences_waiting (s := s.strayed port now) hlast
      (Nat.zero_le _) hwaits hosts hsend
    exact ⟨hdeeds, hwaiting, fun hmore => ⟨_, hended hmore⟩⟩

namespace Strays

open Destinations

/-- The server's host acknowledges a block that was never sent, from a port of its own. -/
def early : Arrival := .datagram ⟨.v4 127 0 0 1, 7777, 0⟩ (Packet.ack 5).encode

/-- The request, and where it was sent. -/
def asked (port : UInt16) : Datagram :=
  ⟨40001, ⟨.v4 127 0 0 1, port, 0⟩, (Packet.octetRequest .write "file" ∅).encode⟩

/-- After an early acknowledgement the answer is not taken any more, the request is repeated to
another port, and it is repeated once more than it would have been. -/
theorem early_lingers :
    (∃ d, World.sent (Run.life asking request {} [(5, answer)]).2.2 = [asked 69, d]) ∧
    World.sent (Run.life asking request {} [(3, early), (5, answer)]).2.2 = [asked 69] ∧
    World.sent (Run.life asking request {} [(5, .silence)]).2.2 = [asked 69, asked 69] ∧
    World.sent (Run.life asking request {} [(3, early), (5, .silence)]).2.2 =
      [asked 69, asked 7777] ∧
    (Run.life { asking with timing := { retries := 1 } } request {}
      [(3, .silence), (7, .silence)]).1.isEnded = true ∧
    (Run.life { asking with timing := { retries := 1 } } request {}
      [(3, .silence), (5, early), (7, .silence)]).1.isEnded = false := by
  refine ⟨⟨_, rfl⟩, rfl, rfl, rfl, rfl, rfl⟩

/-- Two early acknowledgements and an upload that goes on repeating its request to their port. -/
theorem strays_linger_early :
    ∃ s now, (Run.start asking request {}).1 = .waiting s ∧
      (∀ bytes host, (Run.waiting (s.strayed 7777 now)).step
          (.datagram ⟨.v4 127 0 0 1, 5000, 0⟩ bytes) host =
        Run.settle Act.overlook (s.strayed 7777 now) host) ∧
      ((Run.waiting (s.strayed 7777 now)).silences (List.replicate 9 {})).2 =
        List.replicate 8 (.sent (asked 7777) true) := by
  have hreaches := @Reaches.start (fun _ => True) (fun _ => True) asking request {} trivial
  have hread : Packet.decode ((Packet.ack 5).encode.take Act.longestPacket) = .ok (.ack 5) := by
    decide
  have hstrays : ∀ e ∈ [(3, early), (4, early)], Stray asking.remote.ip 7777 e.2 := by
    have hearly : Stray asking.remote.ip 7777 early := .ack rfl rfl hread (by decide)
    exact List.forall_mem_cons.2 ⟨hearly, fun e he => List.mem_singleton.1 he ▸ hearly⟩
  obtain ⟨now, seen, -, -, hdropped, -, packet, hopening, -, hsilent⟩ :=
    Reaches.strays_linger .upload hreaches ⟨rfl, rfl, .inl rfl⟩ hstrays (List.cons_ne_nil _ _) {}
  obtain rfl := Opening.request.inj hopening
  obtain ⟨hspoken, -, -⟩ := hsilent (List.replicate 9 {}) fun host hhost => by
    obtain rfl := List.eq_of_mem_replicate hhost
    decide
  exact ⟨_, now, rfl, fun bytes host => hdropped _ bytes host (by decide), hspoken⟩

end Strays

end TrivialFtp
