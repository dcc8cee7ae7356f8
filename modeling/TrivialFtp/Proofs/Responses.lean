import TrivialFtp.Proofs.Refusals

/-!
# Proofs: what comes of an arrival

What a waiting session has become when it has dealt with an arrival, told apart by what can be seen
of it from outside: it waits on as it was, it has handled a packet, or it has failed.  So also for a
session that opens.

- `Run.responds`: the three things that may come of an arrival.
- `Run.rest_done_ends`: a session that is done ends as closing its stream decides.
- `Setting.launches`, `Setting.answers`: how the two sides of a transfer begin.
-/

namespace TrivialFtp

/-- How a session ends that is done, when closing its stream comes to a fault or not. -/
def Ending.closing (fault : Option Fault) (tally : Tally) : Ending :=
  match fault with
  | none => .completed tally
  | some fault => .failed (.io fault) tally

/-- A letter that reports an error. -/
def Datagram.IsReport (d : Datagram) : Prop :=
  ∃ code message, d.bytes = (Packet.error code message).encode

namespace Run

/-- A run has failed, and has at most reported it. -/
structure Fails (result : Run × Host × List Deed) : Prop where
  ended : ∃ ending, result.1 = .ended ending ∧ ∀ tally, ending ≠ .completed tally
  sent : ∀ letter ∈ World.sent result.2.2, letter.IsReport

theorem reports_notified {f : Failure} {scene : Scene} {letter : Datagram}
    (h : letter ∈ World.sent (notified f scene).deeds) :
    letter ∈ World.sent scene.deeds ∨ letter.IsReport := by
  rcases sent_notified f scene with hsent | ⟨code, message, hsent⟩
  · exact .inl (hsent ▸ h)
  · rw [hsent] at h
    refine (List.mem_append.1 h).imp id fun h => ⟨code, message, ?_⟩
    exact congrArg Datagram.bytes (List.mem_singleton.1 h)

theorem fails_finish (f : Failure) {scene : Scene} (hsilent : World.sent scene.deeds = []) :
    Fails (finish (some f) scene) := by
  rw [finish_some]
  refine ⟨⟨_, rfl, nofun⟩, fun letter hletter => ?_⟩
  have h := reports_notified hletter
  rw [hsilent] at h
  exact h.resolve_left List.not_mem_nil

/-- A session that is done closes its stream, and that decides how it ends. -/
theorem rest_done_ends (scene : Scene) :
    (∃ tally, (rest (scene.enter .done)).1 =
      .ended (.closing (scene.session.stream.closeFault scene.host) tally)) ∧
    ∀ letter ∈ World.sent (rest (scene.enter .done)).2.2,
      letter ∈ World.sent scene.deeds ∨ letter.IsReport := by
  cases h : scene.session.stream.closeFault scene.host with
  | none =>
    rw [rest_done h]
    exact ⟨⟨_, rfl⟩, fun _ hletter => .inl (scene.sent_flushing ▸ hletter)⟩
  | some fault =>
    have hrest : rest (scene.enter .done) =
        finish (some (.io fault)) (scene.enter .done).flushing := finish_fault h
    rw [hrest, finish_some]
    refine ⟨⟨_, rfl⟩, fun letter hletter => ?_⟩
    have hreports := reports_notified hletter
    rwa [Scene.sent_flushing] at hreports

end Run

/-- What becomes of a run whose session has acted: it rests, or it has failed. -/
theorem Outcome.rests_or_fails {done : Scene → Prop} {stopped : Halt → Scene → Prop}
    {result : Run × Host × List Deed} (h : Outcome done stopped result)
    (hsilent : ∀ halt scene, stopped halt scene → World.sent scene.deeds = []) :
    (∃ scene, done scene ∧ result = Run.rest scene) ∨ Run.Fails result := by
  cases h with
  | waits hdone hphase => exact .inl ⟨_, hdone, (if_neg (Bool.eq_false_iff.1 hphase)).symm⟩
  | concludes hdone hphase => exact .inl ⟨_, hdone, (if_pos hphase).symm⟩
  | fails hstopped => exact .inr (Run.fails_finish _ (hsilent _ _ hstopped))
  | crashes hstopped =>
    refine .inr ⟨⟨_, rfl, nofun⟩, fun letter hletter => ?_⟩
    rw [hsilent _ _ hstopped] at hletter
    exact nomatch hletter

/-! ### Waiting on -/

/-- A session waits on as it was, and has at most said again what it said last. -/
structure Scene.Abides (scene scene' : Scene) : Prop where
  alike : scene.session.Alike scene'.session
  files : scene.host.SameFiles scene'.host
  sent : ∀ letter ∈ World.sent scene'.deeds, letter ∈ World.sent scene.deeds ∨
    ∃ p, scene.session.lastSent = some p ∧ letter.bytes = p.encode

theorem Session.Alike.lastSent {s s' : Session} (h : s.Alike s') : s'.lastSent = s.lastSent := by
  rw [h]

/-- What a session can say again is what it said last. -/
theorem Session.said_again {s : Session} {p : Packet} {letters : List Datagram}
    (hlast : s.lastSent = some p)
    (hsent : ∀ letter ∈ letters, ∃ q, s.lastSent = some q ∧ letter.bytes = q.encode) :
    ∀ letter ∈ letters, letter.bytes = p.encode := by
  intro letter hletter
  obtain ⟨q, hq, hbytes⟩ := hsent letter hletter
  exact Option.some.inj (hlast.symm.trans hq) ▸ hbytes

theorem Session.Alike.phase {s s' : Session} (h : s.Alike s') : s'.phase = s.phase := by
  rw [h]

section Abides

variable {scene scene' scene'' : Scene}

theorem Scene.Abides.trans (h : scene.Abides scene') (h' : scene'.Abides scene'') :
    scene.Abides scene'' where
  alike := h.alike.trans h'.alike
  files := h.files.trans h'.files
  sent := by
    intro letter hletter
    rcases h'.sent letter hletter with hbefore | hagain
    · exact h.sent letter hbefore
    · exact .inr (h.alike.lastSent ▸ hagain)

theorem Drop.abides {source : Endpoint} {bytes : Bytes} (h : Drop source bytes scene scene') :
    scene.Abides scene'.tick := by
  cases h <;> exact ⟨rfl, ⟨rfl, rfl⟩, fun _ => .inl⟩

theorem Repeat.abides (h : Repeat scene scene') : scene.Abides scene' := by
  cases h with
  | nothing => exact ⟨rfl, ⟨rfl, rfl⟩, fun _ => .inl⟩
  | @again p _ hlast =>
    refine ⟨rfl, ⟨rfl, rfl⟩, fun letter hletter => ?_⟩
    rw [World.sent_append] at hletter
    refine (List.mem_append.1 hletter).imp id fun h => ⟨p, hlast, ?_⟩
    exact congrArg Datagram.bytes (List.mem_singleton.1 h)

end Abides

/-- What comes of an arrival at a waiting session. -/
inductive Responds (s : Session) (host : Host) : Arrival → Run × Host × List Deed → Prop where
  | rests {arrival : Arrival} {s' : Session} {host' : Host} {deeds : List Deed}
      (halike : s.Alike s')
      (hfiles : host.SameFiles host')
      (hsent : ∀ letter ∈ World.sent deeds, ∃ p, s.lastSent = some p ∧ letter.bytes = p.encode) :
    Responds s host arrival (.waiting s', host', deeds)
  | handles {source : Endpoint} {bytes : Bytes} {packet : Packet} {phase : Phase}
      {deeds : List Deed} {scene : Scene}
      (hread : Packet.decode (bytes.take Act.longestPacket) = .ok packet)
      (hsilent : World.sent deeds = [])
      (hturn : Turn source ⟨{ s with heardAt := host.clock + 1 },
        { host with clock := host.clock + 1 }, deeds⟩ s.phase packet phase scene) :
    Responds s host (.datagram source bytes) (Run.rest (scene.enter phase))
  | fails {arrival : Arrival} {result : Run × Host × List Deed} (hfails : Run.Fails result) :
    Responds s host arrival result

theorem Scene.Abides.responds {s : Session} {host : Host} {scene : Scene} {arrival : Arrival}
    (h : Scene.Abides ⟨s, host, []⟩ scene) (hwaits : s.phase.isTerminal = false) :
    Responds s host arrival (Run.rest scene) := by
  have hwaits : scene.session.phase.isTerminal = false := h.alike.phase ▸ hwaits
  rw [Run.rest, if_neg (Bool.eq_false_iff.1 hwaits)]
  refine .rests h.alike ⟨h.files.store, h.files.output⟩ fun letter hletter => ?_
  exact (h.sent letter hletter).resolve_left List.not_mem_nil

/-- **What comes of an arrival.**  A session waits on as it was, or has handled a packet, or it has
failed. -/
theorem Run.responds {s : Session} (hwaits : s.phase.isTerminal = false) (arrival : Arrival)
    (host : Host) : Responds s host arrival ((waiting s).step arrival host) := by
  have hsilent : ∀ halt scene, Halting arrival ⟨s, host, []⟩ halt scene →
      World.sent scene.deeds = [] := by
    intro halt scene hhalting
    cases hhalting with
    | setback _ _ hsetback => exact hsetback.silent.trans (Scene.sent_showing _ _)
    | fault => rfl
    | bare hbare => exact hbare.silent
  rcases (step_outcome s arrival host).rests_or_fails hsilent with ⟨scene, hmove, hrest⟩ | hfails
  · rw [hrest]
    cases hmove with
    | @handled source bytes packet phase _ scene' hown hread hturn =>
      obtain ⟨deeds, hsilent, hscene⟩ := Scene.heard_showing s host packet
      exact .handles hread hsilent (hscene ▸ hturn)
    | dropped hdrop => exact hdrop.abides.responds hwaits
    | impatient hdrop _ hrepeat => exact (hdrop.abides.trans hrepeat.abides).responds hwaits
    | silent hrepeat => exact hrepeat.abides.responds hwaits
  · exact .fails hfails

/-! ### Beginnings -/

/-- A run that has ended before it had a session. -/
theorem Run.fails_early (fault : Fault) (host : Host) :
    Fails (.ended (Client.early fault host.clock), host, []) :=
  ⟨⟨_, rfl, nofun⟩, fun _ hletter => nomatch hletter⟩

/-- A client that could send its request. -/
structure Client.Asks (client : Client) (role : Role) (stream : Stream) (requested : Options)
    (request : Packet) (host : Host) (s : Session) (result : Run × Host × List Deed) : Prop where
  run : result.1 = .waiting s
  session : ∃ port remote now, s =
    { Session.client role port remote stream requested client.timing client.watched now with
      lastSent := some request }
  files : host.SameFiles result.2.1
  sent : ∀ letter ∈ World.sent result.2.2, letter.bytes = request.encode

/-- A client sends its request, or it fails. -/
theorem Client.transfer_asks (client : Client) (role : Role) (direction : Direction)
    (filename : String) (stream : Stream) (options : Options) (host : Host) :
    (∃ s, client.Asks role stream options (.octetRequest direction filename options) host s
      (client.transfer role direction filename stream options host)) ∨
    Run.Fails (client.transfer role direction filename stream options host) := by
  have hsame := client.connect_files host
  unfold transfer
  cases hconnect : client.connect host with
  | mk connected host' =>
    rw [hconnect] at hsame
    cases connected with
    | error fault => exact .inr (Run.fails_early fault host')
    | ok connected =>
      refine ((Run.start_outcome _ _ _).rests_or_fails ?_).imp ?_ id
      · rintro halt scene (hbare | _)
        exact hbare.silent
      · rintro ⟨scene, hopened, hrest⟩
        change ∃ s, client.Asks role stream options _ host s (Run.start _ _ _)
        rw [hrest]
        cases hopened with
        | asked =>
          refine ⟨_, rfl, ⟨_, _, _, rfl⟩, ⟨hsame.store, hsame.output⟩, fun letter hletter => ?_⟩
          exact congrArg Datagram.bytes (List.mem_singleton.1 hletter)

namespace Setting

variable (t : Setting)

/-- A client that could send its request. -/
structure Requests (host : Host) (s : Session) (result : Run × Host × List Deed) : Prop where
  run : result.1 = .waiting s
  phase : s.phase = .requested
  role : s.role = t.errand.role
  next : s.nextBlock = 0
  stream : s.stream = t.errand.stream
  lastSent : s.lastSent = some t.request
  files : host.SameFiles result.2.1
  sent : ∀ letter ∈ World.sent result.2.2, letter.bytes = t.request.encode

/-- A client sends its request, or it fails. -/
theorem launches (host : Host) :
    (∃ s, t.Requests host s (t.launch host)) ∨ Run.Fails (t.launch host) := by
  refine (t.client.transfer_asks t.errand.role t.errand.direction t.filename t.errand.stream
    t.options host).imp ?_ id
  rintro ⟨s, hasks⟩
  obtain ⟨port, remote, now, rfl⟩ := hasks.session
  exact ⟨_, hasks.run, rfl, rfl, rfl, rfl, rfl, hasks.files, hasks.sent⟩

/-- A server's session is opened by a turn, or it fails. -/
theorem answers (packet : Packet) (client : Endpoint) (host : Host) :
    (∃ scene scene' phase, scene.session.role = .serve t.service ∧ host.SameFiles scene.host ∧
      World.sent scene.deeds = [] ∧ Turn client scene .idle packet phase scene' ∧
      t.answer packet client host = Run.rest (scene'.enter phase)) ∨
    Run.Fails (t.answer packet client host) := by
  have hsame := host.bindFor_files client.ip t.timing
  unfold answer
  cases hbind : host.bindFor client.ip t.timing with
  | mk port host' =>
    rw [hbind] at hsame
    cases port with
    | error fault => exact .inr (Run.fails_early fault host')
    | ok port =>
      refine ((Run.start_outcome _ _ _).rests_or_fails ?_).imp ?_ id
      · rintro halt scene (_ | hsetback)
        exact hsetback.silent.trans (Scene.sent_showing _ _)
      · rintro ⟨scene, hopened, hrest⟩
        cases hopened with
        | @answered _ _ phase _ scene' hturn =>
          refine ⟨_, scene', phase, ?_, ?_, ?_, hturn, hrest⟩
          · rw [Scene.showing_session]
            rfl
          · rw [Scene.showing_host]
            exact ⟨hsame.store, hsame.output⟩
          · exact Scene.sent_showing _ _

end Setting

end TrivialFtp
