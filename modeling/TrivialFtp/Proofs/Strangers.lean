import TrivialFtp.Proofs.Destinations
import TrivialFtp.Proofs.Ties

/-!
# Proofs: strangers make no difference

A session that is sent datagrams by strangers, at times when its peer has not been silent for too
long, does what it would have done without them: it counts them and nothing else.  The run with
the strangers is tied to the run without them, step by step.

- `Run.course`: a run that takes in arrivals at their times.
- `Intruded`: strangers' datagrams among the arrivals.
- `Run.step_dropping`: a step of a session that has dropped more datagrams.
- `Run.life_intruded`: what the strangers change.
-/

namespace TrivialFtp

namespace Run

/-- What becomes of a run that takes in arrivals, each at a time in nanoseconds, and all that it
does meanwhile. -/
def course (run : Run) (host : Host) : List (Nat × Arrival) → Run × Host × List Deed
  | [] => (run, host, [])
  | (time, arrival) :: rest =>
    let (run, host, deeds) := run.step arrival { host with clock := time }
    let (run, host, more) := run.course host rest
    (run, host, deeds ++ more)

/-- A session from its opening on. -/
def life (session : Session) (opening : Opening) (host : Host) (events : List (Nat × Arrival)) :
    Run × Host × List Deed :=
  let (run, host, deeds) := start session opening host
  let (run, host, more) := run.course host events
  (run, host, deeds ++ more)

end Run

/-- Arrivals of a run, and the same arrivals with strangers' datagrams put in at times when the
session would not have asked again.  A stranger is of another host than the peer, or at another port
than the one known to be the peer's.  As many of the datagrams as are given reach the session before
it has ended. -/
inductive Intruded :
    Run → Host → List (Nat × Arrival) → List (Nat × Arrival) → Nat → Prop where
  | nil (run : Run) (host : Host) : Intruded run host [] [] 0
  | arrival {run : Run} {host : Host} {events events' : List (Nat × Arrival)} {n : Nat} (time : Nat)
      (arrival : Arrival)
      (hrest : Intruded (run.step arrival { host with clock := time }).1
        (run.step arrival { host with clock := time }).2.1 events events' n) :
    Intruded run host ((time, arrival) :: events) ((time, arrival) :: events') n
  | stranger {s : Session} {host : Host} {events events' : List (Nat × Arrival)} {n : Nat}
      (time : Nat) (source : Endpoint) (bytes : Bytes)
      (hforeign : source.ip ≠ s.remote.ip ∨ ∃ tid, s.tid = some tid ∧ source.port ≠ tid)
      (hpatient : s.overdue (time + 1) = false)
      (hrest : Intruded (.waiting s) host events events' n) :
    Intruded (.waiting s) host events ((time, .datagram source bytes) :: events') (n + 1)
  | late {ending : Ending} {host : Host} {events events' : List (Nat × Arrival)} {n : Nat}
      (time : Nat) (arrival : Arrival) (hrest : Intruded (.ended ending) host events events' n) :
    Intruded (.ended ending) host events ((time, arrival) :: events') n

namespace Run

/-! ### Steps -/

/-- **One step.**  How many datagrams were dropped makes no difference to what is done. -/
theorem step_dropping (run : Run) (n : Nat) (arrival : Arrival) (host : Host) :
    (run.dropping n).step arrival host =
      ((run.step arrival host).1.dropping n, (run.step arrival host).2.1,
        (run.step arrival host).2.2) := by
  cases run with
  | ended ending => rfl
  | waiting s =>
    have hpairs : (Tie.beside .same s.role s.port n).Pairs ⟨s, host, []⟩
        ⟨s.guised s.port n, host, []⟩ :=
      Tie.pairs_beside s n ⟨rfl, trivial⟩ fun _ _ => trivial
    obtain ⟨store, ⟨rfl, -⟩, heq⟩ :=
      (step_tied hpairs (.of_allowed (fun _ => trivial) s) arrival).beside
    exact heq

/-- How a run waits: with the timeout of its session, which has not come to its end. -/
def Rests (run : Run) (host : Host) : Prop :=
  ∀ s, run = .waiting s → s.phase.isTerminal = false ∧ host.lastWait = some s.timing.timeout

theorem settle_rests (act : Act Unit) (s : Session) (host : Host) :
    (settle act s host).1.Rests (settle act s host).2.1 := by
  have hfinish : ∀ outcome scene s', (finish outcome scene).1 ≠ .waiting s' := by
    intro outcome scene s' hrun
    obtain ⟨ending, hended, -⟩ := (finish_closing outcome scene).ended
    exact nomatch hended.symm.trans hrun
  unfold settle
  cases act.run ⟨s, host, []⟩ with
  | ok a scene =>
    dsimp only
    split
    · exact fun s' hrun => absurd hrun (hfinish _ _ s')
    · next hphase =>
      rintro s' ⟨⟩
      exact ⟨Bool.eq_false_iff.2 hphase, rfl⟩
  | error halt scene =>
    cases halt with
    | failure f => exact fun s' hrun => absurd hrun (hfinish _ _ s')
    | crash => exact fun _ hrun => nomatch hrun

theorem step_rests {run : Run} {host : Host} (h : run.Rests host) (arrival : Arrival) (time : Nat) :
    (run.step arrival { host with clock := time }).1.Rests
      (run.step arrival { host with clock := time }).2.1 := by
  cases run with
  | ended ending => exact h
  | waiting s => exact settle_rests (Act.step arrival) s _

/-- A stranger's datagram is counted. -/
theorem step_stranger {s : Session} {source : Endpoint} {host : Host} {time : Nat}
    (hforeign : s.isForeign source = true) (hpatient : s.overdue (time + 1) = false)
    (hrests : (waiting s).Rests host) (bytes : Bytes) :
    (waiting s).step (.datagram source bytes) { host with clock := time } =
      ((waiting s).dropping 1, { host with clock := time + 1 }, []) := by
  obtain ⟨hphase, hwait⟩ := hrests s rfl
  have hrun : Act.overlook.run ⟨s, { host with clock := time }, []⟩ =
      .ok () (Scene.dropping ⟨s, { host with clock := time }, []⟩).tick := by
    change EStateM.run (ite (s.overdue (time + 1) = true) Act.retry (pure ()))
      (Scene.dropping ⟨s, { host with clock := time }, []⟩).tick = _
    rw [hpatient]
    rfl
  refine (step_foreign hforeign bytes _).trans ((settle_of hrun).trans ((if_neg ?_).trans ?_))
  · exact Bool.eq_false_iff.1 hphase
  · change (waiting { s with tally := { s.tally with discarded := s.tally.discarded + 1 } },
      { host with clock := time + 1, lastWait := some s.timing.timeout }, ([] : List Deed)) = _
    rw [Nat.add_comm, ← hwait]
    rfl

/-! ### Whole runs -/

theorem dropping_dropping (run : Run) (m n : Nat) :
    (run.dropping n).dropping m = run.dropping (m + n) := by
  cases run with
  | waiting s => simp [dropping, Nat.add_assoc]
  | ended ending => cases ending <;> simp [dropping, Ending.guised, Nat.add_assoc]

/-- The two runs, of which the second has dropped `k` datagrams more to begin with, and at another
time. -/
theorem course_intruded {run : Run} {host : Host} {events events' : List (Nat × Arrival)} {n : Nat}
    (h : Intruded run host events events' n) (hrests : run.Rests host) (k clock : Nat) :
    ∃ clock', (run.dropping k).course { host with clock } events' =
      ((run.course host events).1.dropping (n + k),
        { (run.course host events).2.1 with clock := clock' }, (run.course host events).2.2) := by
  induction h generalizing k clock with
  | nil run host => exact ⟨clock, by rw [Nat.zero_add]; rfl⟩
  | @arrival run host events events' n time arrival hrest ih =>
    obtain ⟨clock', hcourse⟩ := ih (step_rests hrests arrival time) k
      (run.step arrival { host with clock := time }).2.1.clock
    refine ⟨clock', ?_⟩
    rw [course, course]
    dsimp only
    rw [step_dropping run k arrival { host with clock := time }]
    dsimp only
    rw [hcourse]
  | @stranger s host events events' n time source bytes hforeign hpatient hrest ih =>
    obtain ⟨clock', hcourse⟩ := ih hrests (1 + k) (time + 1)
    refine ⟨clock', ?_⟩
    have hstep := step_stranger (Session.isForeign_iff.2 hforeign) hpatient hrests bytes
    have hcount : n + 1 + k = n + (1 + k) := by omega
    rw [course]
    dsimp only
    rw [step_dropping (waiting s) k (.datagram source bytes) { host with clock := time }, hstep,
      dropping_dropping, Nat.add_comm k 1, hcourse, hcount]
    rfl
  | @late ending host events events' n time arrival hrest ih =>
    obtain ⟨clock', hcourse⟩ := ih hrests k time
    exact ⟨clock', by rw [← hcourse]; rfl⟩

/-- **Strangers make no difference.**  However a session opens, whatever arrives afterwards and
however many datagrams of strangers are put in between, none of them at a time when the session
would ask again: it sends the same datagrams in the same order and sees the same packets, its host
is the same but for the time, and it waits in the same state or ends in the same way.  Only the
datagrams dropped are as many more as there were of the strangers'. -/
theorem life_intruded (session : Session) (opening : Opening) (host : Host)
    {events events' : List (Nat × Arrival)} {n : Nat}
    (h : Intruded (start session opening host).1 (start session opening host).2.1 events events'
      n) :
    (life session opening host events').1 = (life session opening host events).1.dropping n ∧
      (life session opening host events').2.2 = (life session opening host events).2.2 ∧
      ∃ clock, (life session opening host events').2.1 =
        { (life session opening host events).2.1 with clock } := by
  have hrests : (start session opening host).1.Rests (start session opening host).2.1 :=
    settle_rests (Act.start opening) session host
  obtain ⟨clock, hcourse⟩ := course_intruded h hrests 0 (start session opening host).2.1.clock
  rw [dropping_zero] at hcourse
  have hcalm : (start session opening host).1.course (start session opening host).2.1 events' = _ :=
    hcourse
  unfold life
  dsimp only
  rw [hcalm]
  exact ⟨rfl, rfl, clock, rfl⟩

end Run

open Destinations in
/-- A datagram of another host before the answer, and one from another port after it. -/
theorem Run.life_intruded_asking :
    let stray : Arrival := .datagram ⟨.v4 10 0 0 9, 5000, 0⟩ (Packet.ack 0).encode
    let late : Arrival := .datagram ⟨.v4 127 0 0 1, 5001, 0⟩ (Packet.ack 1).encode
    Intruded (Run.start asking request {}).1 (Run.start asking request {}).2.1 [(5, answer)]
        [(3, stray), (5, answer), (7, late)] 2 ∧
      (Run.life asking request {} [(3, stray), (5, answer), (7, late)]).1 =
        (Run.life asking request {} [(5, answer)]).1.dropping 2 := by
  intro stray late
  have h : Intruded (Run.start asking request {}).1 (Run.start asking request {}).2.1
      [(5, answer)] [(3, stray), (5, answer), (7, late)] 2 := by
    refine .stranger 3 _ _ (.inl (by decide)) (by decide) (.arrival 5 answer ?_)
    exact .stranger 7 _ _ (.inr ⟨5000, rfl, by decide⟩) (by decide) (.nil _ _)
  exact ⟨h, (Run.life_intruded asking request {} h).1⟩

end TrivialFtp
