import TrivialFtp.Proofs.Chronicle
import TrivialFtp.Proofs.Letters
import TrivialFtp.Proofs.Responses

/-!
# Proofs: a session's last words

A session that fails tells its peer why, in one ERROR packet and with its last breath, unless the
peer is the one who said so, cannot be understood, has said one thing too often, or says nothing any
more.  Nothing else that a session sends is an ERROR packet.  What it has written is flushed if its
loop came through, and only then.

- `Failure.Warrants`: the code and the words for every failure the peer is told of.
- `Move.plain`, `Stop.plain`: no ERROR packet goes out while a session goes on.
- `Act.run_conclude`: how a session is concluded.
- `Chronicle.Leaves`, `Chronicle.closes`: how a session comes out of its loop, and what is flushed
  then.
- `Chronicle.farewell`: the last words of every session.
-/

namespace TrivialFtp

/-! ### What the peer is told -/

namespace Failure

/-- The code and the words by which the peer is told of a failure. -/
inductive Warrants : Failure → UInt16 → String → Prop where
  | violation {cause : Violation} : Warrants (.violation cause) 4 cause.message
  | negotiation {cause : Disagreement} : Warrants (.negotiation cause) 8 cause.message
  | fileNotFound {name : String} : Warrants (.fileNotFound name) 1 "File not found"
  | permissionDenied {text : String} :
    Warrants (.io ⟨.permissionDenied, text⟩) 2 "Access violation"
  | storageFull {text : String} :
    Warrants (.io ⟨.storageFull, text⟩) 3 "Disk full or allocation exceeded"
  | alreadyExists {text : String} : Warrants (.io ⟨.alreadyExists, text⟩) 6 "File already exists"
  | io {fault : Fault}
      (hkind : fault.kind ∉ [FaultKind.permissionDenied, .storageFull, .alreadyExists]) :
    Warrants (.io fault) 0 fault.text

/-- The peer is told nothing of a failure. -/
def IsSilent : Failure → Prop
  | malformed _ | reported .. | tooManyDuplicates _ | timedOut _ => True
  | violation _ | negotiation _ | fileNotFound _ | io _ => False

/-- A notice is what its failure warrants. -/
theorem warrants_of_notice {f : Failure} {code : ErrorCode} {message : String}
    (h : f.notice = some (code, message)) : f.Warrants code.code message := by
  cases f with
  | violation => cases h; exact .violation
  | negotiation => cases h; exact .negotiation
  | fileNotFound => cases h; exact .fileNotFound
  | io fault =>
    obtain ⟨kind, text⟩ := fault
    cases kind with
    | permissionDenied => cases h; exact .permissionDenied
    | storageFull => cases h; exact .storageFull
    | alreadyExists => cases h; exact .alreadyExists
    | notFound | other => cases h; exact .io (by simp)
  | malformed | reported | tooManyDuplicates | timedOut => cases h

/-- A failure without a notice is one to be silent about. -/
theorem isSilent_of_notice {f : Failure} (h : f.notice = none) : f.IsSilent := by
  obtain ⟨_, rfl⟩ | ⟨_, _, rfl⟩ | ⟨_, rfl⟩ | ⟨_, rfl⟩ := (notice_eq_none_iff f).1 h <;> trivial

end Failure

/-! ### No ERROR packet before the end -/

/-- A packet of another kind is not taken for a report. -/
theorem Datagram.not_isReport {d : Datagram} {packet : Packet} (hbytes : d.bytes = packet.encode)
    (hkind : packet.opcode ≠ .error) : ¬ d.IsReport := by
  rintro ⟨code, message, hreport⟩
  have hwords : Word.toBytes packet.opcode.code = Word.toBytes Opcode.error.code :=
    congrArg (List.take 2) (hbytes.symm.trans hreport)
  revert hwords hkind
  cases packet.opcode <;> decide

namespace World

/-- None of the datagrams that were to go out is a report. -/
def Plain (deeds : List Deed) : Prop := ∀ d ∈ tried deeds, ¬ d.IsReport

variable {deeds deeds' : List Deed}

theorem plain_nil : Plain [] := fun _ hd => absurd hd List.not_mem_nil

/-- Two records without an ERROR packet have none together. -/
theorem Plain.append (h : Plain deeds) (h' : Plain deeds') : Plain (deeds ++ deeds') := by
  intro d hd
  rw [tried_append] at hd
  exact (List.mem_append.1 hd).elim (h d) (h' d)

/-- Deeds that put nothing on the wire put no ERROR packet there. -/
theorem Plain.hushed (h : Plain deeds) (hhushed : Hushed deeds deeds') : Plain deeds' := by
  obtain ⟨more, rfl, hmore⟩ := hhushed
  exact h.append fun d hd => by simp [hmore] at hd

/-- To flush a file sends no ERROR packet. -/
theorem Plain.flushing {scene : Scene} (h : Plain scene.deeds) : Plain scene.flushing.deeds :=
  h.hushed scene.hushed_flushing

/-- Another packet is not one. -/
theorem Plain.letter (h : Plain deeds) {d : Datagram} {deed : Deed} {packet : Packet}
    (hletter : deed.letter? = some d) (hbytes : d.bytes = packet.encode)
    (hkind : packet.opcode ≠ .error) : Plain (deeds ++ [deed]) := by
  refine h.append fun d' hd' => ?_
  rw [tried, List.filterMap_cons_some hletter, List.filterMap_nil, List.mem_singleton] at hd'
  rw [hd']
  exact Datagram.not_isReport hbytes hkind

end World

section Plain

open World

variable {scene scene' : Scene} {arrival : Arrival} {halt : Halt} {opening : Opening}

/-- No session is charged for an ERROR packet. -/
theorem Session.Charges.opcode {s : Session} {packet : Packet} {tally : Tally}
    (h : s.Charges packet tally) : packet.opcode ≠ .error := by
  cases h with
  | given | taken | oldBlock => exact nofun
  | other _ hreport => exact hreport

/-- No turn sends an ERROR packet. -/
theorem Speech.plain (h : Speech scene scene') (hplain : Plain scene.deeds) :
    Plain scene'.deeds := by
  cases h with
  | nothing _ _ hhushed => exact hplain.hushed hhushed
  | packet hcharges _ hbytes hhushed hdeeds =>
    rw [hdeeds]
    exact (hplain.hushed hhushed).letter rfl hbytes hcharges.opcode

/-- Nor is one sent, or tried, by a session that stops over a packet, before its last words. -/
theorem Stumble.plain (h : Stumble scene halt scene') (hplain : Plain scene.deeds) :
    Plain scene'.deeds := by
  cases h with
  | quiet _ _ hhushed | tooMany _ _ hhushed => exact hplain.hushed hhushed
  | unsent hcharges hbytes hhushed hdeeds =>
    rw [hdeeds]
    exact (hplain.hushed hhushed).letter rfl hbytes hcharges.opcode

/-- The packet that a session would send again is no report. -/
def Session.Sober (s : Session) : Prop :=
  ∀ packet, s.lastSent = some packet → packet.opcode ≠ .error

theorem Drop.sober {source : Endpoint} {bytes : Bytes} (h : Drop source bytes scene scene')
    (hsober : scene.session.Sober) : scene'.session.Sober := by
  cases h <;> exact hsober

/-- What goes out again was no ERROR packet, so it is none now. -/
theorem Repeat.plain (h : Repeat scene scene') (hsober : scene.session.Sober)
    (hplain : Plain scene.deeds) : Plain scene'.deeds := by
  cases h with
  | nothing => exact hplain
  | again _ hlast => exact hplain.letter rfl rfl (hsober _ hlast)

theorem Falter.plain (h : Falter scene halt scene') (hsober : scene.session.Sober)
    (hplain : Plain scene.deeds) : Plain scene'.deeds := by
  cases h with
  | impatient => exact hplain
  | tooMany _ _ _ hdeeds => exact hdeeds ▸ hplain
  | unsent hlast _ _ hdeeds =>
    rw [hdeeds]
    exact hplain.letter rfl rfl (hsober _ hlast)

/-- **No session sends an ERROR packet while it goes on.** -/
theorem Move.plain (h : Move arrival scene scene') (hsober : scene.session.Sober)
    (hplain : Plain scene.deeds) : Plain scene'.deeds := by
  cases h with
  | handled _ _ hturn => exact hturn.speech_heard.plain hplain
  | dropped hdrop => exact hdrop.deeds ▸ hplain
  | impatient hdrop _ hrepeat => exact hrepeat.plain (hdrop.sober hsober) (hdrop.deeds ▸ hplain)
  | silent hrepeat => exact hrepeat.plain hsober hplain

/-- None is sent either until a session that stops has stopped. -/
theorem Stop.plain (h : Stop arrival scene halt scene') (hsober : scene.session.Sober)
    (hplain : Plain scene.deeds) : Plain scene'.deeds := by
  cases h with
  | stumble _ _ hstumble => exact hstumble.plain hplain
  | malformed | fault => exact hplain
  | impatient hdrop hfalter => exact hfalter.plain (hdrop.sober hsober) (hdrop.deeds ▸ hplain)
  | silent hfalter => exact hfalter.plain hsober hplain

/-- A session that stands would send no ERROR packet again. -/
theorem Session.Standing.sober {session s : Session} (h : s.Standing opening)
    (hbegins : Begins session opening) : s.Sober := by
  obtain ⟨packet, hlast, hresends⟩ := h.resends
  rintro packet' hlast'
  obtain rfl := Option.some.inj (hlast.symm.trans hlast')
  unfold Resends at hresends
  split at hresends
  · subst hresends
    exact hbegins.request_opcode.2
  · obtain ⟨⟨granted, rfl⟩, -⟩ := hresends
    exact nofun
  · obtain ⟨payload, rfl, -⟩ := hresends
    exact nofun
  · obtain rfl | ⟨-, ⟨granted, rfl⟩, -⟩ := hresends <;> exact nofun
  all_goals exact hresends.elim

end Plain

/-! ### Last words -/

namespace Run

/-- How a run parts with its peer: nothing that a session sends is a report while it goes on; in
the end it makes the one its failure warrants, and none if that is a silent one or it did not
fail. -/
def Parts (deeds : List Deed) : Run → Prop
  | waiting _ => World.Plain deeds
  | ended ending => ∃ before last, World.tried deeds = before ++ last ∧
      (∀ d ∈ before, ¬ d.IsReport) ∧
      ((∃ f code message d, (ended ending).failure? = some f ∧ f.Warrants code message ∧
          last = [d] ∧ d.bytes = (Packet.error code message).encode) ∨
        (∀ f, (ended ending).failure? = some f → f.IsSilent) ∧ last = [])

variable {run : Run} {deeds : List Deed} {scene : Scene}

/-- What was done before does not matter if it was no report. -/
theorem Parts.after {before : List Deed} (h : run.Parts deeds) (hplain : World.Plain before) :
    run.Parts (before ++ deeds) := by
  cases run with
  | waiting s => exact hplain.append h
  | ended ending =>
    obtain ⟨middle, last, htried, hmiddle, hlast⟩ := h
    refine ⟨World.tried before ++ middle, last, ?_, fun d hd => ?_, hlast⟩
    · rw [World.tried_append, htried, List.append_assoc]
    · exact (List.mem_append.1 hd).elim (hplain d) (hmiddle d)

/-- A session that ends without a reason to be given parts in silence. -/
theorem parts_quiet {ending : Ending} (hplain : World.Plain deeds)
    (hsilent : ∀ f, (ended ending).failure? = some f → f.IsSilent) : (ended ending).Parts deeds :=
  ⟨World.tried deeds, [], (List.append_nil _).symm, hplain, .inr ⟨hsilent, rfl⟩⟩

/-- A session that fails parts with the notice of its failure. -/
theorem parts_notified (hplain : World.Plain scene.deeds) (f : Failure) (tally : Tally) :
    (ended (.failed f tally)).Parts (notified f scene).deeds := by
  unfold notified
  cases hnotice : f.notice with
  | none =>
    refine parts_quiet hplain fun f' hf => ?_
    obtain rfl := Option.some.inj hf
    exact Failure.isSilent_of_notice hnotice
  | some notice =>
    obtain ⟨code, message⟩ := notice
    refine ⟨World.tried scene.deeds, [scene.session.letter (.report code message)], ?_, hplain,
      .inl ⟨f, code.code, message, _, rfl, Failure.warrants_of_notice hnotice, rfl, rfl⟩⟩
    rw [World.tried_append]
    -- The host may refuse to send it: it has been tried all the same.
    split <;> rfl

end Run

/-- A turn that ends a session without an ERROR packet before is one that parts as it should. -/
theorem Upshot.parts {done : Scene → Prop} {stopped : Halt → Scene → Prop} {run : Run}
    {deeds : List Deed} (h : Upshot done stopped run deeds)
    (hdone : ∀ scene, done scene → World.Plain scene.deeds)
    (hstopped : ∀ halt scene, stopped halt scene → World.Plain scene.deeds) : run.Parts deeds := by
  cases h with
  | waits h => exact hdone _ h
  | completes h => exact Run.parts_quiet (hdone _ h).flushing nofun
  | unclosed h => exact Run.parts_notified (hdone _ h).flushing _ _
  | fails h => exact Run.parts_notified (hstopped _ _ h) _ _
  | crashes h => exact Run.parts_quiet (hstopped _ _ h) nofun

/-- A session that has ended has marked the time. -/
theorem Upshot.finished {done : Scene → Prop} {stopped : Halt → Scene → Prop} {run : Run}
    {deeds : List Deed} (h : Upshot done stopped run deeds) (hended : run.isEnded = true)
    {tally : Tally} (htally : run.tally? = some tally) : tally.isFinished = true := by
  cases h with
  | waits => exact nomatch hended
  | completes | unclosed | fails =>
    obtain rfl := Option.some.inj htally
    rfl
  | crashes => exact nomatch htally

/-! ### What is flushed -/

/-- The stream that was flushed, if the deed was to flush one. -/
def Deed.flushed? : Deed → Option Target
  | .flushed target => some target
  | _ => none

/-- Where a stream writes to, if it writes. -/
def Stream.target? : Stream → Option Target
  | writing target => some target
  | closed | reading .. => none

/-- The streams that were flushed, in order. -/
def World.flushed (deeds : List Deed) : List Target := deeds.filterMap Deed.flushed?

/-- What is flushed in two records is flushed in the one and then in the other. -/
@[simp] theorem World.flushed_append (deeds deeds' : List Deed) :
    flushed (deeds ++ deeds') = flushed deeds ++ flushed deeds' := List.filterMap_append

/-- What a session writes to is flushed after whatever was flushed before. -/
theorem Scene.flushed_flushing (scene : Scene) :
    World.flushed scene.flushing.deeds =
      World.flushed scene.deeds ++ scene.session.stream.target?.toList := by
  rw [Scene.flushing, World.flushed_append]
  cases scene.session.stream <;> rfl

/-- To tell the peer of a failure is not to flush anything. -/
theorem Run.flushed_notified (f : Failure) (scene : Scene) :
    World.flushed (notified f scene).deeds = World.flushed scene.deeds := by
  unfold notified
  split
  · rfl
  · rw [World.flushed_append]
    split <;> exact List.append_nil _

/-- What is flushed when a session is concluded: the stream of one that came through. -/
def Stream.concluded (stream : Stream) : Option Failure → List Target
  | none => stream.target?.toList
  | some _ => []

/-- **How a session is concluded.**  The stream is closed and the tally finished.  A failure stays
the failure it was, whatever becomes of the attempt to report it and whatever would have come of
closing the stream, which is not flushed; a session that came through flushes its stream, and fails
only over that or over closing it. -/
theorem Act.run_conclude (outcome : Option Failure) (scene : Scene) :
    ∃ scene', (conclude outcome).run scene =
        .ok (match outcome with
          | some f => .failed f (scene.session.tally.finish (scene.host.clock + 1))
          | none => .closing (scene.session.stream.closeFault scene.host)
              (scene.session.tally.finish (scene.host.clock + 1))) scene' ∧
      scene'.session.stream = .closed ∧
      World.flushed scene'.deeds =
        World.flushed scene.deeds ++ scene.session.stream.concluded outcome := by
  unfold conclude
  cases outcome with
  | some f =>
    simp only [EStateM.run_bind, EStateM.run_pure, Run.run_notify, run_update, run_now, run_count,
      run_session, Run.notified_session, Run.notified_clock]
    exact ⟨_, rfl, rfl, (Run.flushed_notified f scene).trans (List.append_nil _).symm⟩
  | none =>
    cases hfault : scene.session.stream.closeFault scene.host with
    | none =>
      simp only [EStateM.run_bind, run_closeStream, hfault, Option.map_none]
      exact ⟨_, rfl, rfl, scene.flushed_flushing⟩
    | some fault =>
      simp only [EStateM.run_bind, EStateM.run_pure, run_closeStream, hfault, Option.map_some,
        Run.run_notify, run_update, run_now, run_count, run_session, Run.notified_session,
        Run.notified_clock]
      exact ⟨_, rfl, rfl, (Run.flushed_notified (.io fault) _).trans scene.flushed_flushing⟩

/-- A session that finishes flushes what the outcome lets it, and nothing else is flushed. -/
theorem Run.flushed_finish (outcome : Option Failure) (scene : Scene) :
    World.flushed (finish outcome scene).2.2 =
      World.flushed scene.deeds ++ scene.session.stream.concluded outcome := by
  obtain ⟨scene', hrun, -, hflushed⟩ := Act.run_conclude outcome scene
  rw [finish, hrun]
  exact hflushed

/-- A session that was concluded has not crashed. -/
theorem Run.finish_ne_crashed (outcome : Option Failure) (scene : Scene) :
    (finish outcome scene).1 ≠ .ended .crashed := by
  obtain ⟨scene', hrun, -⟩ := Act.run_conclude outcome scene
  rw [finish, hrun]
  cases outcome with
  | some f => exact nofun
  | none => cases scene.session.stream.closeFault scene.host <;> exact nofun

/-- How the loop of a session comes to its end with an act: in a phase that is the last one, or over
a failure. -/
inductive Act.Leads (act : Act Unit) (scene : Scene) : Option Failure → Scene → Prop where
  | through {scene' : Scene} (hrun : act.run scene = .ok () scene')
      (hphase : scene'.session.phase.isTerminal = true) : Leads act scene none scene'
  | fails {f : Failure} {scene' : Scene} (hrun : act.run scene = .error (.failure f) scene') :
    Leads act scene (some f) scene'

/-- A session that only asks for files has flushed nothing at its turn. -/
theorem World.flushed_of_aims {session : Session} {host : Host} {port : Option UInt16}
    {scene : Scene}
    (h : (⟨session, host, []⟩ : Scene).Aims (fun d => d.flushed? = none) port scene) :
    flushed scene.deeds = [] := by
  refine List.filterMap_eq_nil_iff.2 fun d hd => ?_
  have hheeds := Run.heeds_of_aims h d hd
  cases d with
  | flushed => exact hheeds
  | sent | unsent | observed | touched | consulted => rfl

/-- What a turn comes to: the session waits or has crashed, and nothing was flushed, or its loop has
come to its end. -/
theorem Run.settle_leads {act : Act Unit} {session : Session} {host : Host} {port : Option UInt16}
    (h : act.AimsAt (fun d => d.flushed? = none) ⟨session, host, []⟩ port) :
    (((settle act session host).1.isEnded = false ∨
        (settle act session host).1 = .ended .crashed) ∧
      World.flushed (settle act session host).2.2 = []) ∨
    ∃ outcome scene, act.Leads ⟨session, host, []⟩ outcome scene ∧
      settle act session host = finish outcome scene ∧ World.flushed scene.deeds = [] := by
  unfold settle
  cases hrun : act.run ⟨session, host, []⟩ with
  | ok a scene =>
    have hflushed := World.flushed_of_aims (h.ok hrun)
    dsimp only
    split
    · next hphase => exact .inr ⟨none, scene, .through hrun hphase, rfl, hflushed⟩
    · exact .inl ⟨.inl rfl, hflushed⟩
  | error halt scene =>
    have hflushed := World.flushed_of_aims (h.error hrun)
    cases halt with
    | failure f => exact .inr ⟨some f, scene, .fails hrun, rfl, hflushed⟩
    | crash => exact .inl ⟨.inr rfl, hflushed⟩

/-! ### The peer's last words -/

section Reported

variable {session : Session} {source : Endpoint} {code : UInt16} {message : String}

/-- A session that fails because its peer said so says nothing in return. -/
theorem Run.finish_reported (code : UInt16) (message : String) {scene : Scene}
    (hquiet : World.tried scene.deeds = []) :
    ∃ tally host deeds, finish (some (.reported code message)) scene =
      (.ended (.failed (.reported code message) tally), host, deeds) ∧
        World.tried deeds = [] :=
  ⟨_, _, _, finish_some _ scene, hquiet⟩

/-- What is shown to those who watch is not tried to be sent. -/
theorem Scene.tried_showing (scene : Scene) (packet : Packet) :
    World.tried (scene.showing packet).deeds = World.tried scene.deeds := by
  obtain ⟨more, hdeeds, hmore⟩ := (scene.quiet_showing packet).hushed
  rw [hdeeds, World.tried_append, hmore, List.append_nil]

/-- An ERROR packet of the peer ends a session that waits, and nothing goes out. -/
theorem Run.step_reported {s : Session} {bytes : Bytes} (hown : s.isForeign source = false)
    (hread : Packet.decode (bytes.take Act.longestPacket) = .ok (.error code message))
    (host : Host) :
    ∃ tally host' deeds, (waiting s).step (.datagram source bytes) host =
      (.ended (.failed (.reported code message) tally), host', deeds) ∧
        World.tried deeds = [] := by
  rw [step_failed hown hread rfl]
  exact finish_reported code message (Scene.tried_showing _ _)

/-- So does one that a server was sent for a request. -/
theorem Run.start_reported (host : Host) :
    ∃ tally host' deeds, start session (.answer (.error code message) source) host =
      (.ended (.failed (.reported code message) tally), host', deeds) ∧
        World.tried deeds = [] := by
  rw [start_failed rfl]
  exact finish_reported code message (Scene.tried_showing _ _)

end Reported

/-! ### Whole sessions -/

namespace Chronicle

variable {session : Session} {opening : Opening} {run : Run} {deeds : List Deed} {dropped : Nat}

/-- Along a whole run nothing is sent that is an ERROR packet but the last words. -/
theorem parts (hbegins : Begins session opening)
    (h : Chronicle session opening run deeds dropped) : run.Parts deeds := by
  refine h.rule (P := fun run deeds _ => run.Parts deeds) (fun host => ?_) ?_
  · exact (Run.start_stops hbegins _).upshot.parts
      (fun _ hopened => (hopened.speech hbegins).plain World.plain_nil)
      fun _ _ hstumble => hstumble.plain World.plain_nil
  · intro s deeds dropped arrival host hrecord hplain
    -- What goes out again is the last packet, which is no report while the session stands.
    have hsober := (hrecord.reaches.standing hbegins s rfl).sober hbegins
    refine Run.Parts.after ?_ hplain
    exact (Run.step_stops _ _ _).upshot.parts (fun _ hmove => hmove.plain hsober World.plain_nil)
      fun _ _ hstop => hstop.plain hsober World.plain_nil

/-- A run that has ended has marked its end. -/
theorem finished (hbegins : Begins session opening)
    (h : Chronicle session opening run deeds dropped) (hended : run.isEnded = true)
    {tally : Tally} (htally : run.tally? = some tally) : tally.isFinished = true := by
  revert hended htally
  refine h.rule (P := fun run _ _ => run.isEnded = true → run.tally? = some tally →
    tally.isFinished = true) (fun host => ?_) fun s _ _ arrival host _ _ => ?_
  · exact fun hended htally => (Run.start_stops hbegins _).upshot.finished hended htally
  · exact fun hended htally => (Run.step_stops _ _ _).upshot.finished hended htally

/-- How a session came out of its loop: with which outcome, after what at earlier turns, and the
scene that it was concluded in. -/
inductive Leaves (session : Session) (opening : Opening) :
    Option Failure → List Deed → Scene → Prop where
  | start {outcome : Option Failure} {scene : Scene} (host : Host)
      (h : (Act.start opening).Leads ⟨session, host, []⟩ outcome scene) :
    Leaves session opening outcome [] scene
  | step {s : Session} {deeds : List Deed} {dropped : Nat} {outcome : Option Failure}
      {scene : Scene} (hrecord : Chronicle session opening (.waiting s) deeds dropped)
      (arrival : Arrival) (host : Host)
      (h : (Act.step arrival).Leads ⟨s, host, []⟩ outcome scene) :
    Leaves session opening outcome deeds scene

/-- What a session has flushed: nothing while it waits and if it has crashed; otherwise it came out
of its loop, and all that it ever flushed is its stream, if it came through. -/
def Closes (session : Session) (opening : Opening) (run : Run) (deeds : List Deed) : Prop :=
  ((run.isEnded = false ∨ run = .ended .crashed) ∧ World.flushed deeds = []) ∨
    ∃ outcome before scene, Leaves session opening outcome before scene ∧
      run = (Run.finish outcome scene).1 ∧ deeds = before ++ (Run.finish outcome scene).2.2 ∧
      World.flushed deeds = scene.session.stream.concluded outcome

/-- **Flushed at the end and never before.**  A run that goes on has flushed nothing, and neither
has one that crashed; one that has ended has flushed what its outcome lets it. -/
theorem closes (hbegins : Begins session opening)
    (h : Chronicle session opening run deeds dropped) : Closes session opening run deeds := by
  refine h.rule (P := fun run deeds _ => Closes session opening run deeds) (fun host => ?_) ?_
  · have haims : (Act.start opening).AimsAt (fun d => d.flushed? = none) ⟨session, host, []⟩ _ :=
      Act.aims_start hbegins fun _ _ _ _ _ d hd => by cases hd <;> rfl
    refine (Run.settle_leads haims).imp id ?_
    rintro ⟨outcome, scene, hleads, hfinish, hflushed⟩
    refine ⟨outcome, [], scene, .start host hleads, congrArg Prod.fst hfinish,
      congrArg (fun result => result.2.2) hfinish, ?_⟩
    change World.flushed (Run.settle _ _ _).2.2 = _
    rw [hfinish, Run.flushed_finish, hflushed, List.nil_append]
  · intro s deeds dropped arrival host hrecord hbefore
    -- A session that waits has flushed nothing so far.
    obtain ⟨-, hbefore⟩ | ⟨outcome, before, scene, -, hrun, -⟩ := hbefore
    · have hstanding := hrecord.reaches.standing hbegins s rfl
      have haims : (Act.step arrival).AimsAt (fun d => d.flushed? = none) ⟨s, host, []⟩ _ :=
        Act.aims_step arrival hstanding.placed (Standing.ne_idle hstanding)
      refine (Run.settle_leads haims).imp (And.imp_right fun hflushed => ?_) ?_
      · rw [World.flushed_append, hbefore]
        exact hflushed
      · rintro ⟨outcome, scene, hleads, hfinish, hflushed⟩
        refine ⟨outcome, deeds, scene, .step hrecord arrival host hleads,
          congrArg Prod.fst hfinish, congrArg (fun result => deeds ++ result.2.2) hfinish, ?_⟩
        rw [World.flushed_append, hbefore]
        change [] ++ World.flushed (Run.settle _ _ _).2.2 = _
        rw [hfinish, Run.flushed_finish, hflushed, List.nil_append, List.nil_append]
    · have hended := Run.isEnded_finish outcome scene
      rw [← hrun] at hended
      exact nomatch hended

/-- **A session's last words.**  While a session goes on, nothing that it tries to send is an ERROR
packet.  When it has ended, the last thing that it tried to send was the one ERROR packet that its
failure warrants; if it did not fail, or of a failure that the peer is told nothing of, there was
none.  An ERROR packet of the peer ends the session and is not answered.  However a session is
concluded, its stream is closed and its tally finished; a failure is what it was, whatever becomes
of the attempt to report it and whatever closing the stream would have come to.  A session that
waits has flushed nothing, and neither has one that crashed; any other was concluded when it came
out of its loop, and has flushed the stream that it wrote to if it came through, and nothing if a
failure stopped it. -/
theorem farewell (hbegins : Begins session opening)
    (h : Chronicle session opening run deeds dropped) :
    (∀ s, run = .waiting s → ∀ d ∈ World.tried deeds, ¬ d.IsReport) ∧
    (run.isEnded = true → ∃ before last, World.tried deeds = before ++ last ∧
      (∀ d ∈ before, ¬ d.IsReport) ∧
      ((∃ f code message d, run.failure? = some f ∧ f.Warrants code message ∧ last = [d] ∧
          d.bytes = (Packet.error code message).encode) ∨
        (∀ f, run.failure? = some f → f.IsSilent) ∧ last = [])) ∧
    (run.isEnded = true → ∀ tally, run.tally? = some tally → tally.isFinished = true) ∧
    (∀ s source bytes code message host, run = .waiting s → s.isForeign source = false →
      Packet.decode (bytes.take Act.longestPacket) = .ok (.error code message) →
      ∃ tally host' more, run.step (.datagram source bytes) host =
        (.ended (.failed (.reported code message) tally), host', more) ∧
          World.tried more = []) ∧
    (∀ code message source host, opening = .answer (.error code message) source →
      ∃ tally host' more, Run.start session opening host =
        (.ended (.failed (.reported code message) tally), host', more) ∧
          World.tried more = []) ∧
    (∀ (outcome : Option Failure) (scene : Scene),
      ∃ scene', (Act.conclude outcome).run scene =
          .ok (match outcome with
            | some f => .failed f (scene.session.tally.finish (scene.host.clock + 1))
            | none => .closing (scene.session.stream.closeFault scene.host)
                (scene.session.tally.finish (scene.host.clock + 1))) scene' ∧
        scene'.session.stream = .closed ∧
        World.flushed scene'.deeds =
          World.flushed scene.deeds ++ scene.session.stream.concluded outcome) ∧
    (run.isEnded = false ∨ run = .ended .crashed → World.flushed deeds = []) ∧
    (run.isEnded = true → run ≠ .ended .crashed →
      ∃ outcome before scene, Leaves session opening outcome before scene ∧
        run = (Run.finish outcome scene).1 ∧ deeds = before ++ (Run.finish outcome scene).2.2 ∧
        World.flushed deeds = scene.session.stream.concluded outcome) := by
  have hparts := h.parts hbegins
  have hcloses := h.closes hbegins
  refine ⟨fun s hrun => ?_, fun hended => ?_,
    fun hended tally htally => h.finished hbegins hended htally,
    fun s source bytes code message host hrun hown hread => ?_,
    fun code message source host hopening => ?_, Act.run_conclude, fun hrun => ?_,
    fun hended hcrash => ?_⟩
  · subst hrun
    exact hparts
  · cases run with
    | waiting s => exact nomatch hended
    | ended ending => exact hparts
  · subst hrun
    exact Run.step_reported hown hread host
  · subst hopening
    exact Run.start_reported host
  · obtain ⟨-, hflushed⟩ | ⟨outcome, before, scene, -, rfl, -⟩ := hcloses
    · exact hflushed
    · have hended := Run.isEnded_finish outcome scene
      refine (hrun.elim (fun hrun => ?_) (Run.finish_ne_crashed outcome scene)).elim
      exact nomatch hended.symm.trans hrun
  · refine hcloses.resolve_left fun ⟨hrun, _⟩ => ?_
    exact hrun.elim (fun hrun => nomatch hended.symm.trans hrun) hcrash

/-- A server that does not have the file says so in its last packet. -/
theorem farewell_missing :
    ∃ client run deeds, Chronicle (.server { root := "/srv" } 40001 client {} 1)
        (.answer (.octetRequest .read "f" ∅) client) run deeds 0 ∧
      ∃ before d, World.tried deeds = before ++ [d] ∧
        d.bytes = (Packet.error 1 "File not found").encode := by
  have hrecord : ∃ run deeds,
      Chronicle (.server { root := "/srv" } 40001 ⟨.v4 127 0 0 1, 5000, 0⟩ {} 1)
        (.answer (.octetRequest .read "f" ∅) ⟨.v4 127 0 0 1, 5000, 0⟩) run deeds 0 ∧
        run.isEnded = true ∧ run.failure? = some (.fileNotFound "f") :=
    ⟨_, _, .start {}, rfl, rfl⟩
  obtain ⟨run, deeds, hrecord, hended, hfailed⟩ := hrecord
  obtain ⟨-, hlast, -⟩ := farewell .serve hrecord
  obtain ⟨before, last, htried, -, ⟨f, code, message, d, hf, hwarrants, rfl, hbytes⟩ |
    ⟨hsilent, -⟩⟩ := hlast hended
  · obtain rfl := Option.some.inj (hfailed.symm.trans hf)
    cases hwarrants
    exact ⟨_, run, deeds, hrecord, before, d, htried, hbytes⟩
  · exact (hsilent _ hfailed).elim

/-- A download that comes through with its first block flushes what it has written. -/
example : ∃ run deeds, Chronicle
      (.client .download 40001 ⟨.v4 127 0 0 1, 69, 0⟩ (.writing .output) ∅ {} false 1)
      (.request (.octetRequest .read "f" ∅)) run deeds 0 ∧
    run.isEnded = true ∧ World.flushed deeds = [.output] :=
  ⟨_, _, .step (.start {})
    (.datagram ⟨.v4 127 0 0 1, 5000, 0⟩ (Packet.data 1 [7, 8, 9]).encode) {}, rfl, rfl⟩

end Chronicle

end TrivialFtp
