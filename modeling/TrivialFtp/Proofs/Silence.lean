import TrivialFtp.Proofs.Rollover

/-!
# Proofs: silence

A session that hears nothing any more comes to its end.  It says its last packet again as long as it
has patience left and the packet's block has room for another duplicate; then it fails, and tells
nobody.

- `Tally.Bearable`, `Reaches.bearable`: no block has been noted too often while a session waits.
- `Run.silences`: what a run does when silence follows on silence.
- `Reaches.silenced`: how often a session speaks into the silence, and how it ends.
-/

namespace TrivialFtp

/-! ### Blocks noted -/

/-- No block has been noted too often. -/
def Tally.Bearable (t : Tally) : Prop := ∀ block, t.count block ≤ mostDuplicates

theorem Tally.bearable_new (started : Nat) : Bearable { started } := fun _ => Nat.zero_le _

/-- A note that is not too much leaves a tally bearable. -/
theorem Tally.Bearable.note {t : Tally} {block : UInt16} (h : t.Bearable)
    (hfew : (t.note block).exceeds block = false) : (t.note block).Bearable := by
  intro other
  rw [exceeds_note] at hfew
  have hroom := of_decide_eq_false hfew
  rw [count_note]
  split
  · next heq =>
    subst heq
    omega
  · exact h other

section Step

variable {source : Endpoint} {packet : Packet} {phase phase' : Phase} {opening : Opening}
  {scene scene' : Scene}

/-- A turn is taken only with a bearable tally, since a duplicate too many stops the session. -/
theorem Turn.bearable (h : Turn source scene phase packet phase' scene')
    (ht : scene.session.tally.Bearable) : scene'.session.tally.Bearable := by
  cases h with
  | oldBlock _ _ hfew | oldAck _ _ hfew => exact ht.note hfew
  | block htake | firstBlock _ htake =>
    cases htake
    exact ht
  | ack _ _ hgive | grantedWrite _ _ hgive | firstAck _ hgive | served _ _ _ hgive =>
    cases hgive
    exact ht
  | lastAck | grantedRead | strayAck | offered | created => exact ht

theorem Drop.bearable {bytes : Bytes} (h : Drop source bytes scene scene')
    (ht : scene.session.tally.Bearable) : scene'.session.tally.Bearable := by
  cases h <;> exact ht

theorem Repeat.bearable (h : Repeat scene scene') (ht : scene.session.tally.Bearable) :
    scene'.session.tally.Bearable := by
  cases h with
  | nothing => exact ht
  | again _ _ hfew => exact ht.note hfew

/-- Every move leaves the tally bearable. -/
theorem Move.bearable {arrival : Arrival} (h : Move arrival scene scene')
    (ht : scene.session.tally.Bearable) : scene'.session.tally.Bearable := by
  cases h with
  | handled _ _ hturn => exact hturn.bearable (by rwa [Scene.showing_session])
  | dropped hdrop => exact hdrop.bearable ht
  | impatient hdrop _ hrepeat => exact hrepeat.bearable (hdrop.bearable ht)
  | silent hrepeat => exact hrepeat.bearable ht

theorem Opened.bearable (h : Opened opening scene scene') (ht : scene.session.tally.Bearable) :
    scene'.session.tally.Bearable := by
  cases h with
  | asked => exact ht
  | answered hturn => exact hturn.bearable (by rwa [Scene.showing_session])

end Step

theorem Begins.bearable {session : Session} {opening : Opening} (h : Begins session opening) :
    session.tally.Bearable := by
  cases h <;> exact Tally.bearable_new _

/-- **No block is noted too often** while a session waits, whatever has happened to it. -/
theorem Reaches.bearable {session s : Session} {opening : Opening} {hosts : Host → Prop}
    {arrivals : Arrival → Prop} (hbegins : Begins session opening)
    (h : Reaches hosts arrivals session opening (.waiting s)) : s.tally.Bearable := by
  generalize hrun : Run.waiting s = run at h
  induction h generalizing s with
  | start hhost =>
    obtain ⟨scene, hopened, -, rfl⟩ := (Run.start_outcome _ _ _).waiting hrun.symm
    exact hopened.bearable hbegins.bearable
  | @step run arrival host _ _ _ ih =>
    cases run with
    | ended => exact nomatch hrun
    | waiting before =>
      obtain ⟨scene, hmove, -, rfl⟩ := (Run.step_outcome _ _ _).waiting hrun.symm
      exact hmove.bearable (ih rfl)

/-! ### One silence -/

/-- A session that has sent its last packet once more. -/
def Session.repeated (s : Session) (p : Packet) (now : Nat) : Session :=
  { s with
    retries := s.retries + 1
    tally := { s.tally.note p.block with
      resentBytes := s.tally.resentBytes + p.encode.length }
    heardAt := now }

namespace Act

variable {scene : Scene} {p : Packet}

/-- A session without patience gives up. -/
theorem run_retry_impatient (h : scene.session.timing.retries ≤ scene.session.retries) :
    retry.run scene = .error (.failure (.timedOut scene.session.retries)) scene := by
  unfold retry
  refine (run_bind_of (run_session scene)).trans ?_
  rw [if_pos h]
  exact run_bind_error (run_fail scene _)

/-- What follows in a session that has patience. -/
theorem run_retry_resend (hpatient : scene.session.retries < scene.session.timing.retries)
    (hlast : scene.session.lastSent = some p) :
    retry.run scene =
      (do
        noteDuplicate p.block
        transmit p.encode true
        let time ← now
        update fun s => { s with heardAt := time } : Act Unit).run
      (scene.become { scene.session with
        retries := scene.session.retries + 1
        tally := { scene.session.tally with
          resentBytes := scene.session.tally.resentBytes + p.encode.length } }) := by
  unfold retry
  refine (run_bind_of (run_session scene)).trans ?_
  rw [if_neg (Nat.not_le_of_lt hpatient)]
  refine (run_bind_of (run_update scene _)).trans ((run_bind_of (run_session _)).trans ?_)
  dsimp only
  rw [hlast]
  rfl

/-- A session gives up when the block of its last packet has no room for another duplicate. -/
theorem run_retry_full (hpatient : scene.session.retries < scene.session.timing.retries)
    (hlast : scene.session.lastSent = some p)
    (hfull : Tally.mostDuplicates ≤ scene.session.tally.count p.block) :
    ∃ scene', retry.run scene = .error (.failure (.tooManyDuplicates p.block)) scene' ∧
      scene'.deeds = scene.deeds := by
  have hmany : (scene.session.tally.note p.block).exceeds p.block = true := by
    rw [Tally.exceeds_note]
    exact decide_eq_true hfull
  rw [run_retry_resend hpatient hlast]
  refine ⟨_, run_bind_error ((run_noteDuplicate _ _).trans (if_pos hmany)), rfl⟩

/-- Otherwise the packet goes out again. -/
theorem run_retry_again (hpatient : scene.session.retries < scene.session.timing.retries)
    (hlast : scene.session.lastSent = some p)
    (hroom : scene.session.tally.count p.block < Tally.mostDuplicates)
    (hsend : scene.CanSend p) :
    retry.run scene = .ok ()
      { session := scene.session.repeated p (scene.host.clock + 1)
        host := { scene.host with sends := scene.host.sends + 1, clock := scene.host.clock + 1 }
        deeds := scene.deeds ++ [.sent (scene.session.letter p) true] } := by
  have hfew : (scene.session.tally.note p.block).exceeds p.block = false := by
    rw [Tally.exceeds_note]
    exact decide_eq_false (Nat.not_le_of_lt hroom)
  rw [run_retry_resend hpatient hlast]
  refine (run_bind_of (run_note ?_)).trans ?_
  · exact hfew
  refine (run_bind_of (run_transmit ?_)).trans ?_
  · exact hsend
  exact (run_bind_of (run_now _)).trans rfl

end Act

namespace Run

variable {s : Session} {p : Packet} {host : Host}

/-- Silence is answered by another try, and a session that fails in it fails with no more deeds than
the try has left. -/
theorem step_silence_failed {f : Failure} {scene : Scene} (hnotice : f.notice = none)
    (h : Act.retry.run ⟨s, host, []⟩ = .error (.failure f) scene) (hdeeds : scene.deeds = []) :
    ∃ tally host', (waiting s).step .silence host = (.ended (.failed f tally), host', []) := by
  have hstep : (waiting s).step .silence host = finish (some f) scene := by
    change settle (Act.step .silence) s host = _
    unfold settle
    rw [show (Act.step .silence).run ⟨s, host, []⟩ = Act.retry.run ⟨s, host, []⟩ from rfl, h]
  rw [hstep, finish_some]
  refine ⟨_, _, congrArg (Prod.mk _) (congrArg (Prod.mk _) ?_)⟩
  unfold notified
  rwa [hnotice]

/-- A silence after the last of the retries ends the session as timed out, and nothing is sent. -/
theorem step_silence_impatient (h : s.timing.retries ≤ s.retries) :
    ∃ tally host', (waiting s).step .silence host =
      (.ended (.failed (.timedOut s.retries) tally), host', []) :=
  step_silence_failed rfl (Act.run_retry_impatient h) rfl

/-- A silence when the block has been noted as often as it may ends the session over that. -/
theorem step_silence_full (hpatient : s.retries < s.timing.retries) (hlast : s.lastSent = some p)
    (hfull : Tally.mostDuplicates ≤ s.tally.count p.block) :
    ∃ tally host', (waiting s).step .silence host =
      (.ended (.failed (.tooManyDuplicates p.block) tally), host', []) := by
  obtain ⟨scene, hrun, hdeeds⟩ := @Act.run_retry_full ⟨s, host, []⟩ p hpatient hlast hfull
  exact step_silence_failed rfl hrun hdeeds

/-- Any other silence has the last packet sent again, as it was. -/
theorem step_silence_again (hpatient : s.retries < s.timing.retries) (hlast : s.lastSent = some p)
    (hroom : s.tally.count p.block < Tally.mostDuplicates)
    (hwaits : s.phase.isTerminal = false) (hsend : (host.transmit (s.letter p)).1 = none) :
    ∃ host', (waiting s).step .silence host =
      (.waiting (s.repeated p (host.clock + 1)), host', [.sent (s.letter p) true]) := by
  have hrun := @Act.run_retry_again ⟨s, host, []⟩ p hpatient hlast hroom hsend
  refine ⟨_, (settle_of hrun).trans (if_neg ?_)⟩
  change ¬ s.phase.isTerminal = true
  rw [hwaits]
  exact Bool.false_ne_true

/-! ### Silence upon silence -/

/-- What becomes of a run that hears nothing on one host after the other, and what it does
meanwhile. -/
def silences (run : Run) : List Host → Run × List Deed
  | [] => (run, [])
  | host :: rest =>
    let (run, _, deeds) := run.step .silence host
    let (last, more) := run.silences rest
    (last, deeds ++ more)

/-- The first silence and then the rest. -/
theorem silences_cons {run run' : Run} {host host' : Host} {deeds : List Deed}
    (h : run.step .silence host = (run', host', deeds)) (rest : List Host) :
    run.silences (host :: rest) = ((run'.silences rest).1, deeds ++ (run'.silences rest).2) := by
  rw [silences, h]

/-- A run that has ended is silent itself. -/
theorem silences_ended (ending : Ending) (hosts : List Host) :
    (ended ending).silences hosts = (.ended ending, []) := by
  induction hosts with
  | nil => rfl
  | cons host rest ih =>
    have hstep : (ended ending).step .silence host = (.ended ending, host, []) := rfl
    rw [silences_cons hstep, ih]
    rfl

end Run

namespace Session

/-- How often a session is still ready to say its last packet again. -/
def patience (s : Session) : Nat := s.timing.retries - s.retries

/-- How many more duplicates of a block a session puts up with. -/
def room (s : Session) (block : UInt16) : Nat := Tally.mostDuplicates - s.tally.count block

/-- What a session fails with that hears nothing any more, if its last packet was of a block. -/
def exhaustion (s : Session) (block : UInt16) : Failure :=
  if s.patience ≤ s.room block then .timedOut s.timing.retries else .tooManyDuplicates block

variable {s : Session} {p : Packet} {now : Nat}

/-- Each silence takes one from the patience. -/
theorem patience_repeated : (s.repeated p now).patience = s.patience - 1 := by
  change s.timing.retries - (s.retries + 1) = s.timing.retries - s.retries - 1
  omega

/-- It takes one from the room for duplicates of the block. -/
theorem room_repeated : (s.repeated p now).room p.block = s.room p.block - 1 := by
  have hcount := Tally.count_note s.tally p.block p.block
  rw [if_pos rfl] at hcount
  change Tally.mostDuplicates - (s.tally.note p.block).count p.block = _
  rw [hcount, room]
  omega

/-- A session that speaks once more will fail with the same. -/
theorem exhaustion_repeated (hpatience : 0 < s.patience) (hroom : 0 < s.room p.block) :
    (s.repeated p now).exhaustion p.block = s.exhaustion p.block := by
  have hiff : s.patience - 1 ≤ s.room p.block - 1 ↔ s.patience ≤ s.room p.block := by omega
  rw [exhaustion, patience_repeated, room_repeated, exhaustion]
  simp only [hiff]
  rfl

end Session

/-- A session that has neither patience nor room fails over the next silence. -/
theorem Run.step_silence_exhausted {s : Session} {p : Packet} {host : Host}
    (hlast : s.lastSent = some p) (hpatient : s.retries ≤ s.timing.retries)
    (hspent : s.patience = 0 ∨ s.room p.block = 0) :
    ∃ tally host', (waiting s).step .silence host =
      (.ended (.failed (s.exhaustion p.block) tally), host', []) := by
  unfold Session.exhaustion
  by_cases hretries : s.retries < s.timing.retries
  · have hpatience : 0 < s.patience := Nat.sub_pos_of_lt hretries
    have hroom := hspent.resolve_left (Nat.pos_iff_ne_zero.1 hpatience)
    rw [hroom, if_neg (Nat.not_le_of_lt hpatience)]
    exact step_silence_full hretries hlast (Nat.sub_eq_zero_iff_le.1 hroom)
  · have heq : s.timing.retries = s.retries :=
      Nat.le_antisymm (Nat.le_of_not_lt hretries) hpatient
    have hpatience : s.patience = 0 := Nat.sub_eq_zero_of_le (Nat.le_of_eq heq)
    rw [hpatience, if_pos (Nat.zero_le _), heq]
    exact step_silence_impatient (Nat.le_of_eq heq)

/-- **Silence that lasts.**  The session speaks at every silence until its patience or the room for
its packet's block is used up, and fails at the one after that. -/
theorem Run.silences_waiting {s : Session} {p : Packet} (hlast : s.lastSent = some p)
    (hpatient : s.retries ≤ s.timing.retries) (hwaits : s.phase.isTerminal = false)
    (hosts : List Host) (hsend : ∀ host ∈ hosts, (host.transmit (s.letter p)).1 = none) :
    ((waiting s).silences hosts).2 =
        List.replicate (min hosts.length (min s.patience (s.room p.block)))
          (.sent (s.letter p) true) ∧
      (hosts.length ≤ min s.patience (s.room p.block) →
        ∃ s', ((waiting s).silences hosts).1 = .waiting s') ∧
      (min s.patience (s.room p.block) < hosts.length →
        ∃ tally, ((waiting s).silences hosts).1 =
          .ended (.failed (s.exhaustion p.block) tally)) := by
  induction hosts generalizing s with
  | nil => exact ⟨by simp [silences], fun _ => ⟨s, rfl⟩, fun h => absurd h (Nat.not_lt_zero _)⟩
  | cons host rest ih =>
    obtain ⟨hsend₀, hsend⟩ := List.forall_mem_cons.1 hsend
    rw [List.length_cons]
    by_cases hspent : s.patience = 0 ∨ s.room p.block = 0
    · obtain ⟨tally, host', hstep⟩ := @step_silence_exhausted s p host hlast hpatient hspent
      have hspoken : min s.patience (s.room p.block) = 0 := by omega
      rw [silences_cons hstep, silences_ended, hspoken]
      exact ⟨by simp, fun h => absurd h (Nat.not_succ_le_zero _), fun _ => ⟨tally, rfl⟩⟩
    · obtain ⟨hpatience, hroom⟩ := not_or.1 hspent
      have hpatience := Nat.pos_of_ne_zero hpatience
      have hroom := Nat.pos_of_ne_zero hroom
      have hretries : s.retries < s.timing.retries := Nat.lt_of_sub_pos hpatience
      obtain ⟨host', hstep⟩ := step_silence_again hretries hlast (Nat.lt_of_sub_pos hroom) hwaits
        hsend₀
      obtain ⟨hdeeds, hwaiting, hended⟩ := ih (s := s.repeated p (host.clock + 1)) hlast hretries
        hwaits hsend
      rw [Session.patience_repeated, Session.room_repeated] at hdeeds hwaiting hended
      rw [Session.exhaustion_repeated hpatience hroom] at hended
      have hspoken : min (s.patience - 1) (s.room p.block - 1) + 1 =
          min s.patience (s.room p.block) := by omega
      rw [silences_cons hstep, hdeeds, ← hspoken, Nat.add_min_add_right]
      exact ⟨rfl, fun h => hwaiting (Nat.le_of_succ_le_succ h),
        fun h => hended (Nat.lt_of_succ_lt_succ h)⟩

/-- **A silent peer ends every session.**  A session that waits, whatever has happened to it before,
has patience left for no more than the retries it was given, and room for no more duplicates than
are allowed.  If it hears nothing from then on and can send, it says its last packet again, byte for
byte, as often as both last, and does nothing else; at the silence after that it fails for lack of
an answer if its patience was the shorter, and for too many duplicates otherwise. -/
theorem Reaches.silenced {session s : Session} {opening : Opening}
    (hbegins : Begins session opening)
    (h : Reaches (fun _ => True) (fun _ => True) session opening (.waiting s)) :
    ∃ p, s.lastSent = some p ∧ s.retries ≤ s.timing.retries ∧
      s.tally.count p.block ≤ Tally.mostDuplicates ∧
      ∀ hosts : List Host, (∀ host ∈ hosts, (host.transmit (s.letter p)).1 = none) →
        let patience := s.timing.retries - s.retries
        let room := Tally.mostDuplicates - s.tally.count p.block
        let spoken := min patience room
        ((Run.waiting s).silences hosts).2 =
            List.replicate (min hosts.length spoken) (.sent (s.letter p) true) ∧
          (hosts.length ≤ spoken → ∃ s', ((Run.waiting s).silences hosts).1 = .waiting s') ∧
          (spoken < hosts.length → ∃ tally, ((Run.waiting s).silences hosts).1 =
            .ended (.failed (if patience ≤ room then .timedOut s.timing.retries
              else .tooManyDuplicates p.block) tally)) := by
  have hstanding := h.standing hbegins s rfl
  obtain ⟨p, hlast, hresends⟩ := hstanding.resends
  have hwaits : s.phase.isTerminal = false := by
    unfold Session.Resends at hresends
    cases hphase : s.phase with
    | done | failed =>
      rw [hphase] at hresends
      exact hresends.elim
    | idle | requested | awaitingAck | awaitingData | offering => rfl
  exact ⟨p, hlast, hstanding.patient, h.bearable hbegins p.block,
    Run.silences_waiting hlast hstanding.patient hwaits⟩

/-- A download that may ask thirty times more, and its request. -/
def persistent : Session :=
  .client .download 40001 ⟨.v4 127 0 0 1, 69, 0⟩ (.writing .output) ∅ { retries := 30 } false 1

def persistentRequest : Packet := .octetRequest .read "file" ∅

/-- It asks twenty times more and fails at the twenty-first silence. -/
theorem silenced_persistent :
    ∃ s, (Run.start persistent (.request persistentRequest) {}).1 = .waiting s ∧
      ((Run.waiting s).silences (List.replicate 21 {})).2 =
        List.replicate 20 (.sent (s.letter persistentRequest) true) ∧
      ∃ tally, ((Run.waiting s).silences (List.replicate 21 {})).1 =
        .ended (.failed (.tooManyDuplicates 0) tally) := by
  have hreaches := @Reaches.start (fun _ => True) (fun _ => True) persistent
    (.request persistentRequest) {} trivial
  obtain ⟨p, hlast, -, -, hsilenced⟩ := Reaches.silenced .download hreaches
  obtain rfl : persistentRequest = p := Option.some.inj hlast
  obtain ⟨hdeeds, -, hended⟩ := hsilenced (List.replicate 21 {}) fun host hhost => by
    obtain rfl := List.eq_of_mem_replicate hhost
    decide
  exact ⟨_, rfl, hdeeds, hended (by decide)⟩

end TrivialFtp
