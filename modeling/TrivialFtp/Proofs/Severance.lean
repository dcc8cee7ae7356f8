import TrivialFtp.Proofs.Shutdown

/-!
# Proofs: a fault at the listening port

A server that has been told to end does not heed its listening port any more, and a fault there
makes no difference to its transfers.  One that has not been told ends with the fault.  It does not
wait for its transfers then: they are cut off, at whatever stage they are.

- `Serving.through_of_isEnded`: nothing passes at a server that has ended.
- `Serving.Runs.severs`: what a fault makes of a server and its transfers.
-/

namespace TrivialFtp

theorem Host.sameFiles_release (host : Host) (port : UInt16) : host.SameFiles (host.release port) :=
  ⟨rfl, rfl⟩

theorem Listening.sameFiles_releaseAll (l : Listening) (host : Host) :
    host.SameFiles (l.releaseAll host) := by
  have hfold : ∀ (sessions : List Session) (host : Host),
      host.SameFiles (sessions.foldl (fun host s => host.release s.port) host) := by
    intro sessions
    induction sessions with
    | nil => exact .refl
    | cons s rest ih => exact fun host => (host.sameFiles_release s.port).trans (ih _)
  exact (host.sameFiles_release l.port).trans (hfold _ _)

namespace Serving

variable {serving : Serving} {l : Listening}

/-- Nothing passes at a server that has ended. -/
theorem through_of_isEnded (h : serving.isEnded) (past : List (Event × Host)) :
    serving.through past = serving ∧ serving.passages past = [] := by
  induction past with
  | nil => exact ⟨rfl, rfl⟩
  | cons e rest ih =>
    obtain ⟨event, host⟩ := e
    have hnone : serving.passage? event host = none := by
      cases serving with
      | listening => exact nomatch h
      | stopped | failed => rfl
    rw [through, passages, step_of_isEnded h, hnone]
    exact ih

/-- A server that is to end has its transfers to keep, and none to take up. -/
theorem keeps_stopping (h : l.Settled) (hbusy : l.Busy) (hstopping : l.stopping) :
    (listening l).Keeps true l.nextTicket l.port l.transfers [] :=
  .listening ⟨h, rfl, (List.append_nil _).symm, h.sound.2, List.forall_mem_nil _,
    Nat.le_refl _, fun _ => ⟨hstopping, rfl⟩⟩ hbusy

/-- **A fault at the listening port.**  A server that has been told to end goes on as without it:
whatever happens, its transfers make of it what they make of it if no such fault is met, and it ends
when each of them has ended.  A server that has not been told fails at once.  It does nothing more
for its transfers, which are left where they are, with the files as they are then; without the fault
each of them would have gone on by itself. -/
theorem Runs.severs (h : Runs (listening l)) (fault : Fault) (host : Host) :
    let struck := (listening l).step (.arrival l.port (.fault fault)) host
    (l.stopping = true → struck = (listening l, host, []) ∧
      ∀ past, (listening l).passages past =
          (listening l).passages (past.filter fun e => ¬ e.1.isFaultAt l.port) ∧
        (∀ f, (listening l).through past ≠ .failed f) ∧
        ((listening l).through past = .stopped ↔ ∀ t ∈ l.transfers,
          ∃ p ∈ (listening l).passages past, p.ticket = t.ticket ∧ p.ending?.isSome)) ∧
    (l.stopping = false → struck.1 = .failed (.receive fault) ∧ struck.2.2 = [] ∧
      host.SameFiles struck.2.1 ∧
      ∀ past, (struck.1.through past = .failed (.receive fault) ∧ struck.1.passages past = []) ∧
        ((∀ e ∈ past, ¬ e.1.isFaultAt l.port) →
          ((listening l).passages past).filter (fun p => p.ticket < l.nextTicket) =
            Listening.passages l.port l.transfers past)) := by
  intro struck
  obtain ⟨hsettled, hbusy⟩ := h.settled
  constructor
  · intro hstopping
    have hkeeps := keeps_stopping hsettled hbusy hstopping
    refine ⟨(hkeeps.idle host).1 _, fun past => ?_⟩
    obtain ⟨hthrough, hpassages⟩ := hkeeps.through_told past
    obtain ⟨hfails, hstops⟩ := hthrough.eq_stopped_iff
    refine ⟨?_, hfails, hstops.trans ?_⟩
    · rw [hpassages, (hkeeps.through_told _).2,
        Listening.passages_filter past fun _ => Event.isAt_of_isFaultAt]
    · rw [Listening.carried_eq_nil_iff, List.forall_mem_map, hpassages]
  · intro hgoing
    have hstruck : struck = (.failed (.receive fault), l.releaseAll host, []) := by
      change (listening l).receive l.port (.fault fault) host = _
      unfold Serving.receive
      simp only [ne_eq, not_true_eq_false, if_false, hgoing, Bool.false_eq_true]
    rw [hstruck]
    refine ⟨rfl, rfl, l.sameFiles_releaseAll host, fun past => ⟨?_, fun hcalm => ?_⟩⟩
    · exact through_of_isEnded rfl past
    · exact (keeps_own hsettled hbusy).through past (.inr hcalm)

/-- The last packet of the client, for which `lending` waits. -/
def lastAck : List (Event × Host) :=
  [(.arrival 40001 (.datagram Listening.caller (Packet.ack 1).encode), oneFileHost)]

/-- A fault that its listening port may meet. -/
def portFault : Fault := ⟨.other, "boom"⟩

/-- The server fails before that packet comes, which reaches nobody then. -/
theorem severs_lending :
    let struck := (listening lending).step (.arrival lending.port (.fault portFault)) oneFileHost
    Runs (listening lending) ∧ lending.stopping = false ∧
      struck.1.through lastAck = .failed (.receive portFault) ∧ struck.1.passages lastAck = [] := by
  have hgoing : lending.stopping = false := by decide +kernel
  obtain ⟨-, -, -, hpast⟩ := (runs_lending.severs portFault oneFileHost).2 hgoing
  exact ⟨runs_lending, hgoing, (hpast lastAck).1⟩

/-- Without the fault that packet brings the one transfer to its end, and with the fault nothing
does. -/
theorem cut_lending :
    lending.transfers.map Transfer.ticket = [0] ∧
      ((listening lending).passages lastAck).map (fun p => (p.ticket, p.ending?.isSome)) =
        [(0, true)] ∧
      ((listening lending).step (.arrival lending.port (.fault portFault))
        oneFileHost).1.passages lastAck = [] := by
  refine ⟨by decide +kernel, by decide +kernel, ?_⟩
  have hended : ((listening lending).step (.arrival lending.port (.fault portFault))
      oneFileHost).1.isEnded := by
    decide +kernel
  exact (through_of_isEnded hended lastAck).2

end Serving

end TrivialFtp
