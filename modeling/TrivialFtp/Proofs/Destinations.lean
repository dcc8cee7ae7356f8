import TrivialFtp.Proofs.Letters

/-!
# Proofs: whom a session writes to in its whole life

A server's session writes to the host and port that asked it; a client's to the port it was given
until its host answers, and from that answer on to the port that the answer came from.

- `Lives`: the lives of a session, on hosts that may be others at every turn.
- `Lives.destinations`: whom it writes to, and whom it hears.
-/

namespace TrivialFtp

/-- The lives of a session: what it has taken in so far, what has become of it, and what it did at
its last turn.  At every turn its host may be another. -/
inductive Lives (session : Session) (opening : Opening) :
    List Arrival → Run → List Deed → Prop where
  | start (host : Host) :
    Lives session opening [] (Run.start session opening host).1
      (Run.start session opening host).2.2
  | step {arrivals : List Arrival} {run : Run} {deeds : List Deed}
      (hlives : Lives session opening arrivals run deeds) (arrival : Arrival) (host : Host) :
    Lives session opening (arrivals ++ [arrival]) (run.step arrival host).1
      (run.step arrival host).2.2

/-- Where a datagram was to go, if the deed was about one. -/
def Deed.target? : Deed → Option Endpoint
  | .sent d _ | .unsent d _ => some d.target
  | _ => none

theorem Deed.Heeds.target {files : Deed → Prop} {peer target : Endpoint} {d : Deed}
    (h : d.Heeds files peer) (htarget : target ∈ d.target?) : target = peer := by
  cases d with
  | sent d again | unsent d fault => exact (Option.some.inj htarget).symm.trans h
  | observed | touched | consulted | flushed => exact nomatch htarget

/-- The port of the peer once some arrivals were taken in. -/
def Session.portOver (session : Session) (arrivals : List Arrival) : Option UInt16 :=
  session.tid.or (arrivals.findSome? (Arrival.reply? session.remote.ip))

namespace Lives

variable {session : Session} {opening : Opening} {arrivals : List Arrival} {run : Run}
  {deeds : List Deed}

theorem reaches (h : Lives session opening arrivals run deeds) :
    Reaches (fun _ => True) (fun _ => True) session opening run := by
  induction h with
  | start host => exact .start trivial
  | step _ arrival host ih => exact .step ih trivial trivial

/-- **All turns.**  At every turn a session writes to the port that is known by then. -/
theorem addresses (hbegins : Begins session opening) (h : Lives session opening arrivals run deeds)
    (host : Host) :
    Run.Addresses (fun _ => True) session.remote (session.portOver arrivals)
      (run, host, deeds) := by
  induction h with
  | start host =>
    have haddresses := Run.start_addresses hbegins host fun _ _ _ _ _ _ _ => trivial
    rw [Session.portOver, List.findSome?_nil, Option.or_none]
    exact ⟨haddresses.deeds, haddresses.waiting⟩
  | @step arrivals run deeds hlives arrival host ih =>
    cases run with
    | ended ending => exact ⟨fun _ hd => absurd hd List.not_mem_nil, fun _ hrun => nomatch hrun⟩
    | waiting s =>
      have hstanding := hlives.reaches.standing hbegins s rfl
      have haddresses : Run.Addresses (fun _ => True) s.remote (s.portOn arrival) _ :=
        Run.step_addresses hstanding arrival host
      obtain ⟨hremote, htid⟩ := ih.waiting s rfl
      have hport : s.portOn arrival = session.portOver (arrivals ++ [arrival]) := by
        rw [Session.portOn, hremote, htid, Session.portOver, Session.portOver, Option.or_assoc,
          List.findSome?_append, List.findSome?_cons, List.findSome?_nil]
        cases arrival.reply? session.remote.ip <;> rfl
      rw [hremote, hport] at haddresses
      exact ⟨haddresses.deeds, haddresses.waiting⟩

theorem targets (hbegins : Begins session opening) (h : Lives session opening arrivals run deeds)
    {d : Deed} (hd : d ∈ deeds) {target : Endpoint} (htarget : target ∈ d.target?) :
    target = ⟨session.remote.ip, (session.portOver arrivals).getD session.remote.port, 0⟩ := by
  rcases (h.addresses hbegins {}).deeds d hd with hheeds | ⟨stream, rfl⟩
  · exact hheeds.target htarget
  · exact nomatch htarget

theorem waiting_tid (hbegins : Begins session opening)
    (h : Lives session opening arrivals run deeds) {s : Session} (hrun : run = .waiting s) :
    s.tid = session.portOver arrivals :=
  ((h.addresses hbegins {}).waiting s hrun).2

/-- What was known of the peer stays known. -/
theorem portOver_append {tid : UInt16} (h : session.portOver arrivals = some tid)
    (more : List Arrival) : session.portOver (arrivals ++ more) = some tid := by
  rw [Session.portOver, List.findSome?_append, ← Option.or_assoc, ← Session.portOver, h,
    Option.some_or]

/-- **Whom a session writes to, and whom it hears.**  Whatever arrives and whatever its hosts do,
every datagram of a session is for its peer's host.  A server's session writes to the port that the
request came from.  A client writes to the port that its request went to until it takes in the
first packet of that host that is no error, and from that turn on, whatever it sends or says last,
to the port that packet came from.  A port once known stays, and a datagram from any other port is
dropped unread. -/
theorem destinations (hbegins : Begins session opening)
    (h : Lives session opening arrivals run deeds) :
    (∀ d ∈ deeds, ∀ target ∈ d.target?, target.ip = session.remote.ip) ∧
    (∀ packet client, opening = .answer packet client →
      ∀ d ∈ deeds, ∀ target ∈ d.target?, target = { client with scope := 0 }) ∧
    (∀ packet, opening = .request packet →
      (∀ d ∈ deeds, ∀ target ∈ d.target?,
        target.port = (arrivals.findSome? (Arrival.reply? session.remote.ip)).getD
          session.remote.port) ∧
      ∀ s, run = .waiting s → s.tid = arrivals.findSome? (Arrival.reply? session.remote.ip)) ∧
    ∀ s tid, run = .waiting s → s.tid = some tid →
      (∀ more s' deeds', Lives session opening (arrivals ++ more) (.waiting s') deeds' →
        s'.tid = some tid) ∧
      ∀ source bytes host, source.port ≠ tid →
        (Run.waiting s).step (.datagram source bytes) host = Run.settle Act.overlook s host := by
  refine ⟨fun d hd target htarget => ?_, fun packet client hopening d hd target htarget => ?_,
    fun packet hopening => ⟨fun d hd target htarget => ?_, fun s hrun => ?_⟩,
    fun s tid hrun htid => ⟨fun more s' deeds' hmore => ?_, fun source bytes host hport => ?_⟩⟩
  · rw [h.targets hbegins hd htarget]
  · rw [h.targets hbegins hd htarget]
    subst hopening
    cases hbegins
    rfl
  · rw [h.targets hbegins hd htarget]
    subst hopening
    cases hbegins <;> rfl
  · rw [h.waiting_tid hbegins hrun]
    subst hopening
    cases hbegins <;> rfl
  · have hknown := (h.waiting_tid hbegins hrun).symm.trans htid
    rw [hmore.waiting_tid hbegins rfl, portOver_append hknown]
  · exact Run.step_foreign (Session.isForeign_iff.2 (.inr ⟨tid, htid, hport⟩)) bytes host

end Lives

namespace Destinations

/-- An upload of three bytes to a host that is asked at port 69. -/
def asking : Session :=
  .client .upload 40001 ⟨.v4 127 0 0 1, 69, 0⟩ (.reading .held { content := [1, 2, 3] }) ∅ {}
    false 1

def request : Opening := .request (.octetRequest .write "file" ∅)

/-- The host has it begin, from port 5000. -/
def answer : Arrival := .datagram ⟨.v4 127 0 0 1, 5000, 0⟩ (Packet.ack 0).encode

/-- The first block goes to the port of the answer, and a datagram from the port that was asked
is dropped from then on. -/
theorem destinations_asking :
    ∃ s d, Lives asking request [answer] (.waiting s) [.sent d false] ∧ d.target.port = 5000 ∧
      ∀ bytes host, (Run.waiting s).step (.datagram asking.remote bytes) host =
        Run.settle Act.overlook s host := by
  have hlives : ∃ s d, Lives asking request [answer] (.waiting s) [.sent d false] :=
    ⟨_, _, @Lives.step asking request [] _ _ (.start {}) answer {}⟩
  obtain ⟨s, d, hlives⟩ := hlives
  obtain ⟨-, -, hclient, hknown⟩ := Lives.destinations .upload hlives
  obtain ⟨hport, htid⟩ := hclient _ rfl
  have hdrops := (hknown s 5000 rfl (htid s rfl)).2 asking.remote
  exact ⟨s, d, hlives, hport _ (.head _) _ rfl, fun bytes host => hdrops bytes host (by decide)⟩

/-- A host that is reached over the second link only. -/
def linkLocal : Endpoint := ⟨.v6 #v[0xfe80, 0, 0, 0, 0, 0, 0, 1], 5000, 2⟩

/-- A server's answer is for the host that asked it, but not for the link that it was asked over. -/
theorem destinations_linkLocal :
    ∃ session packet d, Begins session (.answer packet linkLocal) ∧
      d ∈ (Run.start session (.answer packet linkLocal) {}).2.2 ∧
      ∃ target ∈ d.target?, target ≠ linkLocal := by
  refine ⟨.server { root := "/srv" } 40001 linkLocal {} 1, .octetRequest .read "f" ∅, _, .serve,
    List.mem_cons_of_mem _ (.head _), _, rfl, ?_⟩
  decide

end Destinations

end TrivialFtp
