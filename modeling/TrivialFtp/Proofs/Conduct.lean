import TrivialFtp.Proofs.Exchange

/-!
# Proofs: conducts

How one side of a transfer behaves as long as the other behaves, in terms of the stage that the
transfer has come to.  What a side does with one packet is looked at for itself; that the two sides
keep their conducts through every exchange follows here.

- `Conduct.IsKept.step`: a waiting session keeps its conduct, whatever arrives.
- `Pair.Fits.reachable`: two sides whose conducts fit together keep them in every exchange.
-/

namespace TrivialFtp

/-- Two sessions that differ in nothing but their counts, their patience and when they heard their
peer. -/
def Session.Alike (s s' : Session) : Prop :=
  s' = { s with tally := s'.tally, retries := s'.retries, heardAt := s'.heardAt }

/-- How one side behaves at every stage of a transfer. -/
structure Conduct where
  /-- What its session is like while it waits. -/
  stands : Nat → Session → Prop
  /-- What its files are like. -/
  files : Nat → Host → Prop
  /-- What it sends. -/
  sends : Nat → Bytes → Prop
  /-- What it relies on being told. -/
  hears : Nat → Packet → Prop
  /-- Which stages it can lead to. -/
  moves : Nat → Nat → Prop
  /-- The stage at which it may come through. -/
  last : Nat

namespace Conduct

/-- What is read of a datagram. -/
def Tells (P : Packet → Prop) (bytes : Bytes) : Prop :=
  ∀ packet, Packet.decode (bytes.take Act.longestPacket) = .ok packet → P packet

/-- A scene in which a session has acted as it should. -/
structure Good (c : Conduct) (stage : Nat) (scene : Scene) : Prop where
  files : c.files stage scene.host
  sends : ∀ d ∈ World.sent scene.deeds, c.sends stage d.bytes
  stands : scene.session.phase.isTerminal = false → c.stands stage scene.session
  ends : scene.session.phase.isTerminal = true → stage = c.last

/-- A run that is left as it should be. -/
structure After (c : Conduct) (stage : Nat) (result : Run × Host × List Deed) : Prop where
  files : c.files stage result.2.1
  sends : ∀ d ∈ World.sent result.2.2, c.sends stage d.bytes
  stands : ∀ s, result.1 = .waiting s → c.stands stage s
  ends : ∀ tally, result.1 = .ended (.completed tally) → stage = c.last

/-- The conduct is kept: by what the session does with a packet, and by what does not matter. -/
structure IsKept (c : Conduct) : Prop where
  moves_refl : ∀ stage, c.moves stage stage
  waits : ∀ {stage s}, c.stands stage s → s.phase.isTerminal = false
  stands_alike : ∀ {stage s s'}, c.stands stage s → s.Alike s' → c.stands stage s'
  files_same : ∀ {stage host host'}, c.files stage host → host.SameFiles host' → c.files stage host'
  sends_error : ∀ stage code message, c.sends stage (Packet.error code message).encode
  sends_again : ∀ {stage s p}, c.stands stage s → s.lastSent = some p → c.sends stage p.encode
  turn : ∀ {stage source packet phase} {scene scene' : Scene}, c.stands stage scene.session →
    c.files stage scene.host → c.hears stage packet → World.sent scene.deeds = [] →
    Turn source scene scene.session.phase packet phase scene' →
    ∃ stage', c.moves stage stage' ∧ c.Good stage' (scene'.enter phase)
  setback : ∀ {stage packet halt} {scene scene' : Scene}, c.stands stage scene.session →
    c.files stage scene.host → c.hears stage packet → Setback scene packet halt scene' →
    ∃ stage', c.moves stage stage' ∧ c.files stage' scene'.host

variable {c : Conduct}

/-- A scene is as good as one that differs from it in what does not matter. -/
theorem Good.alike (hc : c.IsKept) {stage : Nat} {scene scene' : Scene} (h : c.Good stage scene)
    (hwaits : scene.session.phase.isTerminal = false)
    (hsession : scene.session.Alike scene'.session)
    (hfiles : scene.host.SameFiles scene'.host)
    (hsent : World.sent scene'.deeds = World.sent scene.deeds) : c.Good stage scene' := by
  have hstands := hc.stands_alike (h.stands hwaits) hsession
  refine ⟨hc.files_same h.files hfiles, hsent ▸ h.sends, fun _ => hstands, fun hends => ?_⟩
  exact nomatch (hc.waits hstands).symm.trans hends

/-- A session that finishes leaves what its conduct asks for, and comes through only at the last
stage. -/
theorem After.of_finish (hc : c.IsKept) {stage : Nat} {outcome : Option Failure} {scene : Scene}
    (hfiles : c.files stage scene.host)
    (hsends : ∀ d ∈ World.sent scene.deeds, c.sends stage d.bytes)
    (hends : outcome = none → stage = c.last) : c.After stage (Run.finish outcome scene) := by
  obtain ⟨⟨ending, hended, hcompleted⟩, hsame, hsent⟩ := Run.finish_closing outcome scene
  refine ⟨hc.files_same hfiles hsame, ?_, ?_, ?_⟩
  · rcases hsent with hsent | ⟨code, message, hsent⟩
    · rwa [hsent]
    · rw [hsent, List.forall_mem_append, List.forall_mem_singleton]
      exact ⟨hsends, hc.sends_error stage code message⟩
  · intro s hs
    exact nomatch hended.symm.trans hs
  · intro tally htally
    exact hends (hcompleted ⟨tally, Run.ended.inj (hended.symm.trans htally)⟩).1

/-- What is asked of every end of an act is asked of the run that it leaves. -/
theorem After.of_outcome (hc : c.IsKept) {stage : Nat} {done : Scene → Prop}
    {stopped : Halt → Scene → Prop} {result : Run × Host × List Deed}
    (hdone : ∀ scene, done scene → ∃ stage', c.moves stage stage' ∧ c.Good stage' scene)
    (hstopped : ∀ halt scene, stopped halt scene →
      (∃ stage', c.moves stage stage' ∧ c.files stage' scene.host) ∧ World.sent scene.deeds = [])
    (h : Outcome done stopped result) : ∃ stage', c.moves stage stage' ∧ c.After stage' result := by
  cases h with
  | waits hwaits hphase =>
    obtain ⟨stage', hmoves, hgood⟩ := hdone _ hwaits
    refine ⟨stage', hmoves, hc.files_same hgood.files ⟨rfl, rfl⟩, hgood.sends, ?_, fun _ => nofun⟩
    exact fun s hs => Run.waiting.inj hs ▸ hgood.stands hphase
  | concludes hconcludes hphase =>
    obtain ⟨stage', hmoves, hgood⟩ := hdone _ hconcludes
    exact ⟨stage', hmoves, .of_finish hc hgood.files hgood.sends fun _ => hgood.ends hphase⟩
  | fails hfails =>
    obtain ⟨⟨stage', hmoves, hfiles⟩, hsent⟩ := hstopped _ _ hfails
    exact ⟨stage', hmoves, .of_finish hc hfiles (by simp [hsent]) nofun⟩
  | crashes hcrashes =>
    obtain ⟨⟨stage', hmoves, hfiles⟩, hsent⟩ := hstopped _ _ hcrashes
    exact ⟨stage', hmoves, hc.files_same hfiles ⟨rfl, rfl⟩, by simp [hsent], fun _ => nofun,
      fun _ => nofun⟩

/-- A datagram that is dropped leaves a good scene good. -/
theorem Good.drop (hc : c.IsKept) {stage : Nat} {source : Endpoint} {bytes : Bytes}
    {scene scene' : Scene} (hdrop : Drop source bytes scene scene') (h : c.Good stage scene)
    (hwaits : scene.session.phase.isTerminal = false) :
    c.Good stage scene'.tick ∧ scene'.tick.session.phase.isTerminal = false := by
  cases hdrop with
  | foreign => exact ⟨h.alike hc hwaits rfl ⟨rfl, rfl⟩ rfl, hwaits⟩
  | unreadable => exact ⟨h.alike hc hwaits rfl ⟨rfl, rfl⟩ rfl, hwaits⟩

/-- So does a packet that goes out again, since it was sent at this stage or an earlier one. -/
theorem Good.repeated (hc : c.IsKept) {stage : Nat} {scene scene' : Scene}
    (hrepeat : Repeat scene scene') (h : c.Good stage scene)
    (hwaits : scene.session.phase.isTerminal = false) : c.Good stage scene' := by
  have hstands := h.stands hwaits
  cases hrepeat with
  | nothing => exact h.alike hc hwaits rfl ⟨rfl, rfl⟩ rfl
  | @again p hretries hlast =>
    refine ⟨hc.files_same h.files ⟨rfl, rfl⟩, ?_, fun _ => hc.stands_alike hstands rfl,
      fun hends => nomatch hwaits.symm.trans hends⟩
    rw [World.sent_append, List.forall_mem_append]
    exact ⟨h.sends, List.forall_mem_singleton.2 (hc.sends_again hstands hlast)⟩

/-- **One step of one side.**  A waiting session that is told what it relies on keeps its
conduct. -/
theorem IsKept.step (hc : c.IsKept) {stage : Nat} {s : Session} {host : Host}
    (hstands : c.stands stage s) (hfiles : c.files stage host) {arrival : Arrival}
    (hheard : ∀ source bytes, arrival = .datagram source bytes → Tells (c.hears stage) bytes) :
    ∃ stage', c.moves stage stage' ∧ c.After stage' ((Run.waiting s).step arrival host) := by
  have hwaits := hc.waits hstands
  have hgood : c.Good stage ⟨s, host, []⟩ :=
    ⟨hfiles, fun d hd => absurd hd List.not_mem_nil, fun _ => hstands,
      fun hends => nomatch hwaits.symm.trans hends⟩
  -- A packet is handled after the clock was read and the packet shown, neither of which matters.
  have hscene : ∀ packet, let scene := (Scene.mk s host []).heard.showing packet
      c.stands stage scene.session ∧ c.files stage scene.host ∧ World.sent scene.deeds = [] := by
    intro packet
    simp only [Scene.showing_session, Scene.showing_host, Scene.sent_showing]
    exact ⟨hc.stands_alike hstands rfl, hc.files_same hfiles ⟨rfl, rfl⟩, rfl⟩
  refine After.of_outcome hc ?_ ?_
    (Run.step_outcome s arrival host)
  · intro scene hmove
    cases hmove with
    | @handled source bytes packet _ _ _ hown hread hturn =>
      obtain ⟨hstands', hfiles', hsent⟩ := hscene packet
      have hphase : ((Scene.mk s host []).heard.showing packet).session.phase = s.phase := by
        rw [Scene.showing_session]
        rfl
      exact hc.turn hstands' hfiles' (hheard source bytes rfl packet hread) hsent (hphase ▸ hturn)
    | dropped hdrop => exact ⟨stage, hc.moves_refl stage, (hgood.drop hc hdrop hwaits).1⟩
    | impatient hdrop _ hrepeat =>
      obtain ⟨hdropped, hwaits'⟩ := hgood.drop hc hdrop hwaits
      exact ⟨stage, hc.moves_refl stage, hdropped.repeated hc hrepeat hwaits'⟩
    | silent hrepeat => exact ⟨stage, hc.moves_refl stage, hgood.repeated hc hrepeat hwaits⟩
  · intro halt scene hhalting
    cases hhalting with
    | @setback source bytes packet _ _ _ hown hread hsetback =>
      obtain ⟨hstands', hfiles', hsent⟩ := hscene packet
      exact ⟨hc.setback hstands' hfiles' (hheard source bytes rfl packet hread) hsetback,
        hsetback.silent.trans hsent⟩
    | fault => exact ⟨⟨stage, hc.moves_refl stage, hfiles⟩, rfl⟩
    | bare hbare =>
      exact ⟨⟨stage, hc.moves_refl stage, hc.files_same hfiles hbare.files⟩, hbare.silent⟩

end Conduct

/-- A conduct is not disturbed by a change of the stage. -/
structure Conduct.Bears (c : Conduct) (stage stage' : Nat) : Prop where
  stands : ∀ s, c.stands stage s → c.stands stage' s
  files : ∀ host, c.files stage host → c.files stage' host
  sends : ∀ bytes, c.sends stage bytes → c.sends stage' bytes

/-- The conducts of both sides, and what the server's files are like before its session opens. -/
structure Pair where
  client : Conduct
  server : Conduct
  fresh : Nat → Host → Prop

namespace Pair

/-- The conduct of a side. -/
def conduct (pair : Pair) : Party → Conduct
  | .client => pair.client
  | .server => pair.server

/-- Both sides of an exchange are as they should be at a stage. -/
structure Holds (pair : Pair) (stage : Nat) (x : Exchange) : Prop where
  client : ∀ s, x.client = .waiting s → pair.client.stands stage s
  server : ∀ s, x.server = some (.waiting s) → pair.server.stands stage s
  clientFiles : pair.client.files stage x.clientHost
  serverFiles : pair.server.files stage x.serverHost
  fresh : x.server = none → pair.fresh stage x.serverHost
  sends : ∀ parcel ∈ x.flight, (pair.conduct parcel.sender).sends stage parcel.datagram.bytes
  ends : ∀ party, x.Completed party → stage = pair.client.last

/-- The conducts fit together: neither side disturbs the other, each hears what the other says, and
the server's session opens as it should. -/
structure Fits (pair : Pair) (t : Setting) : Prop where
  client : pair.client.IsKept
  server : pair.server.IsKept
  last : pair.server.last = pair.client.last
  sends_client : ∀ {stage stage'}, pair.client.moves stage stage' →
    ∀ bytes, pair.client.sends stage bytes → pair.client.sends stage' bytes
  sends_server : ∀ {stage stage'}, pair.server.moves stage stage' →
    ∀ bytes, pair.server.sends stage bytes → pair.server.sends stage' bytes
  bears_client : ∀ {stage stage'}, pair.server.moves stage stage' →
    pair.client.Bears stage stage' ∧ (stage = pair.client.last → stage' = pair.client.last)
  bears_server : ∀ {stage stage'}, pair.client.moves stage stage' →
    pair.server.Bears stage stage' ∧ (stage = pair.client.last → stage' = pair.client.last)
  fresh_client : ∀ {stage stage' host}, pair.client.moves stage stage' → pair.fresh stage host →
    pair.fresh stage' host
  fresh_same : ∀ {stage host host'}, pair.fresh stage host → host.SameFiles host' →
    pair.fresh stage host'
  hears_client : ∀ {stage bytes}, pair.server.sends stage bytes →
    Conduct.Tells (pair.client.hears stage) bytes
  hears_server : ∀ {stage bytes}, pair.client.sends stage bytes →
    Conduct.Tells (pair.server.hears stage) bytes
  answer : ∀ {stage bytes direction filename mode options host} (source : Endpoint),
    pair.client.sends stage bytes → pair.fresh stage host →
    Packet.decode (bytes.take Listening.longestRequest) =
      .ok (.request direction filename mode options) →
    ∃ stage', pair.server.moves stage stage' ∧
      pair.server.After stage' (t.answer (.request direction filename mode options) source host)

variable {pair : Pair} {t : Setting} {stage stage' : Nat} {x : Exchange}
  {result : Run × Host × List Deed}

/-- A client that keeps its conduct moves the transfer on to a stage that the server bears. -/
theorem Holds.clientTurn (hfits : pair.Fits t) (h : pair.Holds stage x)
    (hmoves : pair.client.moves stage stage') (hafter : pair.client.After stage' result) :
    pair.Holds stage' (x.clientTurn result) := by
  obtain ⟨hbears, hlast⟩ := hfits.bears_server hmoves
  refine ⟨hafter.stands, fun s hs => hbears.stands s (h.server s hs), hafter.files,
    hbears.files _ h.serverFiles, fun hnone => hfits.fresh_client hmoves (h.fresh hnone), ?_, ?_⟩
  · rintro ⟨sender, datagram⟩ hparcel
    rcases List.mem_append.1 hparcel with hparcel | hparcel
    · have hsends := h.sends _ hparcel
      cases sender with
      | client => exact hfits.sends_client hmoves _ hsends
      | server => exact hbears.sends _ hsends
    · obtain ⟨d, hd, he⟩ := List.mem_map.1 hparcel
      obtain ⟨rfl, rfl⟩ := Parcel.mk.inj he
      exact hafter.sends d hd
  · rintro (_ | _) ⟨tally, hrun⟩
    · exact hafter.ends tally (Option.some.inj hrun)
    · exact hlast (h.ends .server ⟨tally, hrun⟩)

/-- A server that keeps its conduct does the same for the client. -/
theorem Holds.serverTurn (hfits : pair.Fits t) (h : pair.Holds stage x)
    (hmoves : pair.server.moves stage stage') (hafter : pair.server.After stage' result) :
    pair.Holds stage' (x.serverTurn result) := by
  obtain ⟨hbears, hlast⟩ := hfits.bears_client hmoves
  refine ⟨fun s hs => hbears.stands s (h.client s hs), ?_, hbears.files _ h.clientFiles,
    hafter.files, nofun, ?_, ?_⟩
  · intro s hs
    exact hafter.stands s (Option.some.inj hs)
  · rintro ⟨sender, datagram⟩ hparcel
    rcases List.mem_append.1 hparcel with hparcel | hparcel
    · have hsends := h.sends _ hparcel
      cases sender with
      | client => exact hbears.sends _ hsends
      | server => exact hfits.sends_server hmoves _ hsends
    · obtain ⟨d, hd, he⟩ := List.mem_map.1 hparcel
      obtain ⟨rfl, rfl⟩ := Parcel.mk.inj he
      exact hafter.sends d hd
  · rintro (_ | _) ⟨tally, hrun⟩
    · exact hlast (h.ends .client ⟨tally, hrun⟩)
    · exact (hafter.ends tally (Option.some.inj hrun)).trans hfits.last

/-- Before anything has happened there is nothing but the files. -/
theorem Holds.before {clientHost serverHost : Host} (hclient : pair.client.files stage clientHost)
    (hserver : pair.server.files stage serverHost) (hfresh : pair.fresh stage serverHost) :
    pair.Holds stage { client := .ended .crashed, clientHost, server := none, serverHost } := by
  refine ⟨(fun _ he => nomatch he), (fun _ he => nomatch he), hclient, hserver, fun _ => hfresh,
    (fun _ hparcel => nomatch hparcel), ?_⟩
  rintro (_ | _) ⟨tally, he⟩
  · exact nomatch he
  · exact nomatch he

/-- What is on its way may be lost or repeated. -/
theorem Holds.flight (h : pair.Holds stage x) {flight : List Parcel} (hsub : flight ⊆ x.flight) :
    pair.Holds stage { x with flight } :=
  ⟨h.client, h.server, h.clientFiles, h.serverFiles, h.fresh,
    fun parcel hparcel => h.sends parcel (hsub hparcel), h.ends⟩

theorem Holds.client_idle (hfits : pair.Fits t) (h : pair.Holds stage x) :
    pair.Holds stage (x.clientTurn (x.client, x.clientHost, [])) :=
  h.clientTurn hfits (hfits.client.moves_refl stage)
    ⟨h.clientFiles, fun _ hd => absurd hd List.not_mem_nil, h.client,
      fun tally he => h.ends .client ⟨tally, congrArg some he⟩⟩

theorem Holds.server_idle (hfits : pair.Fits t) (h : pair.Holds stage x) {run : Run}
    (hrun : x.server = some run) : pair.Holds stage (x.serverTurn (run, x.serverHost, [])) :=
  h.serverTurn hfits (hfits.server.moves_refl stage)
    ⟨h.serverFiles, fun _ hd => absurd hd List.not_mem_nil,
      fun s he => h.server s (hrun.trans (congrArg some he)),
      fun tally he => (h.ends .server ⟨tally, hrun.trans (congrArg some he)⟩).trans hfits.last.symm⟩

/-- The client's run takes in something that it may be told. -/
theorem Holds.client_step (hfits : pair.Fits t) (h : pair.Holds stage x) {arrival : Arrival}
    (hheard : ∀ source bytes, arrival = .datagram source bytes → pair.server.sends stage bytes) :
    ∃ stage', pair.Holds stage' (x.clientTurn (x.client.step arrival x.clientHost)) := by
  cases hrun : x.client with
  | ended ending =>
    have hidle := h.client_idle hfits
    rw [hrun] at hidle
    exact ⟨stage, hidle⟩
  | waiting s =>
    obtain ⟨stage', hmoves, hafter⟩ := hfits.client.step (h.client s hrun) h.clientFiles
      fun source bytes he => hfits.hears_client (hheard source bytes he)
    exact ⟨stage', h.clientTurn hfits hmoves hafter⟩

/-- So does the server's. -/
theorem Holds.server_step (hfits : pair.Fits t) (h : pair.Holds stage x) {run : Run}
    (hrun : x.server = some run) {arrival : Arrival}
    (hheard : ∀ source bytes, arrival = .datagram source bytes → pair.client.sends stage bytes) :
    ∃ stage', pair.Holds stage' (x.serverTurn (run.step arrival x.serverHost)) := by
  cases run with
  | ended ending => exact ⟨stage, h.server_idle hfits hrun⟩
  | waiting s =>
    obtain ⟨stage', hmoves, hafter⟩ := hfits.server.step (h.server s hrun) h.serverFiles
      fun source bytes he => hfits.hears_server (hheard source bytes he)
    exact ⟨stage', h.serverTurn hfits hmoves hafter⟩

/-- A run that is not at the port of an arrival takes no notice. -/
theorem receive_cases (run : Run) (port : UInt16) (arrival : Arrival) (host : Host) :
    run.receive port arrival host = run.step arrival host ∨
      run.receive port arrival host = (run, host, []) := by
  cases run with
  | ended ending => exact .inr rfl
  | waiting s =>
    unfold Run.receive
    simp only
    split
    · exact .inl rfl
    · exact .inr rfl

/-- Whatever arrives of what was sent, both sides stay as they should be. -/
theorem Holds.arrive (hfits : pair.Fits t) (h : pair.Holds stage x) {parcel : Parcel}
    (hsends : (pair.conduct parcel.sender).sends stage parcel.datagram.bytes) :
    ∃ stage', pair.Holds stage' (t.arrive x parcel) := by
  obtain ⟨sender, d⟩ := parcel
  cases sender with
  | server =>
    change ∃ stage', pair.Holds stage'
      (x.clientTurn (x.client.receive d.target.port _ x.clientHost))
    rcases receive_cases x.client d.target.port
      (.datagram ⟨t.serverIp, d.source, 0⟩ d.bytes) x.clientHost with hstep | hidle
    · rw [hstep]
      exact h.client_step hfits fun source bytes he => (Arrival.datagram.inj he).2 ▸ hsends
    · rw [hidle]
      exact ⟨stage, h.client_idle hfits⟩
  | client =>
    unfold Setting.arrive
    simp only
    split
    · split
      · next direction filename mode options hnone hread =>
        obtain ⟨stage', hmoves, hafter⟩ := hfits.answer ⟨t.clientIp, d.source, 0⟩ hsends
          (h.fresh hnone) hread
        exact ⟨stage', h.serverTurn hfits hmoves hafter⟩
      · exact ⟨stage, h⟩
    · split
      · exact ⟨stage, h⟩
      · next run hrun =>
        rcases receive_cases run d.target.port
          (.datagram ⟨t.clientIp, d.source, 0⟩ d.bytes) x.serverHost with hstep | hidle
        · rw [hstep]
          exact h.server_step hfits hrun fun source bytes he => (Arrival.datagram.inj he).2 ▸ hsends
        · rw [hidle]
          exact ⟨stage, h.server_idle hfits hrun⟩

theorem subset_flight {before after : List Parcel} {parcel : Parcel}
    (hflight : x.flight = before ++ parcel :: after) : before ++ after ⊆ x.flight := by
  rw [hflight]
  exact List.append_subset.2 ⟨List.subset_append_left _ _,
    fun p hp => List.mem_append_right _ (List.mem_cons_of_mem _ hp)⟩

/-- **One step of both sides.**  Conducts that fit together are kept by whatever may happen. -/
theorem Holds.step (hfits : pair.Fits t) (h : pair.Holds stage x) {x' : Exchange}
    (hstep : t.Step x x') : ∃ stage', pair.Holds stage' x' := by
  cases hstep with
  | @deliver before after parcel hflight =>
    refine (h.flight (subset_flight hflight)).arrive hfits (h.sends parcel ?_)
    rw [hflight]
    exact List.mem_append_right _ List.mem_cons_self
  | lose hflight => exact ⟨stage, h.flight (subset_flight hflight)⟩
  | @«repeat» parcel hflight =>
    exact ⟨stage, h.flight (List.append_subset.2
      ⟨fun _ => id, fun p hp => List.mem_singleton.1 hp ▸ hflight⟩)⟩
  | silence party =>
    -- Silence is no datagram, so that nothing is relied on.
    cases party with
    | client => exact h.client_step hfits fun _ _ => nofun
    | server =>
      unfold Exchange.silence
      simp only
      split
      · exact ⟨stage, h⟩
      · next run hrun => exact h.server_step hfits hrun fun _ _ => nofun
  | pass time party =>
    cases party with
    | client =>
      exact ⟨stage, h.client, h.server, hfits.client.files_same h.clientFiles ⟨rfl, rfl⟩,
        h.serverFiles, h.fresh, h.sends, h.ends⟩
    | server =>
      exact ⟨stage, h.client, h.server, h.clientFiles,
        hfits.server.files_same h.serverFiles ⟨rfl, rfl⟩,
        fun hnone => hfits.fresh_same (h.fresh hnone) ⟨rfl, rfl⟩, h.sends, h.ends⟩

/-- **Every exchange.**  Conducts that fit together are kept throughout. -/
theorem Fits.reachable (hfits : pair.Fits t) (h : pair.Holds stage x) {x' : Exchange}
    (hreachable : t.Reachable x x') : ∃ stage', pair.Holds stage' x' := by
  induction hreachable with
  | refl => exact ⟨stage, h⟩
  | tail _ hstep ih =>
    obtain ⟨stage', h'⟩ := ih
    exact h'.step hfits hstep

end Pair

end TrivialFtp
