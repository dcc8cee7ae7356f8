import TrivialFtp.Proofs.Mirrors

/-!
# Proofs: sessions do not interfere

A server may serve any number of clients at once.  As long as no other client has a file made that
a client uses, and there is a port for every session, the client notices nothing of the others: the
server sends it the same datagrams, and its sessions end in the same way and leave the same files,
as if nothing had happened to the server but what concerns this client.  Only the ports may be
others.

- `Serving.course`, `Serving.replay`: what happens to a server, by events and by incidents.
- `Serving.exists_course_eq_replay`: a replay is a course.
- `Moment.share`: what a client has of a moment.
- `Serving.Beside`: a server, and the same server with one client, for as long as they run.
- `Serving.isolated`: the client's share is the same.
-/

namespace TrivialFtp

/-- Something that happens to a server. -/
structure Moment where
  serving : Serving
  host : Host
  incident : Incident
  /-- What the server does then. -/
  deeds : List Deed

/-- How a run has ended, if it has. -/
def Run.ending? : Run → Option Ending
  | ended ending => some ending
  | waiting _ => none

namespace Moment

/-- The path of the file that a session is begun for. -/
def used? (m : Moment) : Option String := m.serving.listening?.bind fun l => l.used? m.incident

/-- The path at which a file is made. -/
def made? (m : Moment) : Option String :=
  m.serving.listening?.bind fun l => l.made? m.incident m.host

/-- There is no port for the session that should begin. -/
def Unbound (m : Moment) : Prop := ∃ l ∈ m.serving.listening?, l.Unbound m.incident m.host

instance (m : Moment) : Decidable m.Unbound := inferInstanceAs (Decidable (∃ l ∈ _, _))

/-- The datagrams that are sent, without the ports that they are sent from. -/
def sent (m : Moment) : List (Endpoint × Bytes) :=
  (World.sent m.deeds).map fun d => (d.target, d.bytes)

/-- How the session ends that the moment is about, if it does. -/
def ending? (m : Moment) : Option Ending :=
  (m.serving.listening?.bind fun l => l.run? m.incident m.host).bind fun result =>
    result.1.ending?

/-- What the client whose moment it is has of it. -/
def share (m : Moment) : Incident × List (Endpoint × Bytes) × Option Ending :=
  (m.incident, m.sent, m.ending?)

/-- What a client has of some moments. -/
def shares (client : Endpoint) (moments : List Moment) :
    List (Incident × List (Endpoint × Bytes) × Option Ending) :=
  (moments.filter fun m => m.incident.client? = some client).map share

/-- What happens in some moments to a client or to the server as a whole, and when. -/
def concerning (client : Endpoint) (moments : List Moment) : List (Nat × Incident) :=
  (moments.filter fun m => m.incident.concerns client).map fun m => (m.host.clock, m.incident)

theorem shares_cons (client : Endpoint) (m : Moment) (rest : List Moment) :
    shares client (m :: rest) =
      if m.incident.client? = some client then m.share :: shares client rest
      else shares client rest := by
  unfold shares
  rw [List.filter_cons]
  by_cases hclient : m.incident.client? = some client <;> simp [hclient]

theorem concerning_cons (client : Endpoint) (m : Moment) (rest : List Moment) :
    concerning client (m :: rest) =
      if m.incident.concerns client then (m.host.clock, m.incident) :: concerning client rest
      else concerning client rest := by
  unfold concerning
  rw [List.filter_cons]
  by_cases hconcerns : m.incident.concerns client <;> simp [hconcerns]

end Moment

namespace Serving

/-- What an event is to a server, and what the server does. -/
def moment (serving : Serving) (host : Host) (event : Event) : Moment :=
  ⟨serving, host, serving.incident event, (serving.step event host).2.2⟩

/-- What happens to a server when events come at given times, and the host as it is then. -/
def course (serving : Serving) (host : Host) : List (Nat × Event) → List Moment × Host
  | [] => ([], host)
  | (time, event) :: rest =>
    let host := { host with clock := time }
    let after := serving.step event host
    let (moments, last) := after.1.course after.2.1 rest
    (serving.moment host event :: moments, last)

/-- The same for incidents. -/
def replay (serving : Serving) (host : Host) : List (Nat × Incident) → List Moment × Host
  | [] => ([], host)
  | (time, incident) :: rest =>
    let host := { host with clock := time }
    let after := serving.meet incident host
    let (moments, last) := after.1.replay after.2.1 rest
    (⟨serving, host, incident, after.2.2⟩ :: moments, last)

/-- An incident is some event to a server, if only one that nothing comes of. -/
theorem exists_step_eq_meet (serving : Serving) (incident : Incident) :
    ∃ event, ∀ host, serving.step event host = serving.meet incident host := by
  unfold meet
  cases serving.event? incident with
  | some event => exact ⟨event, fun _ => rfl⟩
  | none =>
    cases serving with
    | listening l =>
      refine ⟨.arrival l.port .silence, fun host => ?_⟩
      simp only [step, receive, ne_eq, not_true_eq_false, if_false, ite_self]
    | stopped | failed => exact ⟨.stop, fun _ => rfl⟩

/-- What incidents do to a server, events at the same times do. -/
theorem exists_course_eq_replay (serving : Serving) (host : Host)
    (incidents : List (Nat × Incident)) :
    ∃ events : List (Nat × Event), events.map Prod.fst = incidents.map Prod.fst ∧
      (serving.course host events).1.map Moment.deeds =
        (serving.replay host incidents).1.map Moment.deeds ∧
      (serving.course host events).2 = (serving.replay host incidents).2 := by
  induction incidents generalizing serving host with
  | nil => exact ⟨[], rfl, rfl, rfl⟩
  | cons head rest ih =>
    obtain ⟨time, incident⟩ := head
    obtain ⟨event, hevent⟩ := serving.exists_step_eq_meet incident
    obtain ⟨events, htimes, hdeeds, hlast⟩ := ih
      (serving.meet incident { host with clock := time }).1
      (serving.meet incident { host with clock := time }).2.1
    refine ⟨(time, event) :: events, congrArg (time :: ·) htimes, ?_, ?_⟩
    · rw [course, replay, hevent]
      exact congrArg₂ List.cons (congrArg (·.2.2) (hevent _)) hdeeds
    · rw [course, replay, hevent]
      exact hlast

variable {client : Endpoint} {P : String → Prop} {base : List UInt16} {l l' : Listening}
  {serving serving' : Serving} {host host' : Host}

/-- A server on a host, and the same server with one client alone on another host: both listen, or
the one is only about to end the sessions of others, or both have ended. -/
inductive Beside (client : Endpoint) (P : String → Prop) (base : List UInt16) :
    Serving → Host → Serving → Host → Prop where
  | both {l l' : Listening} {host host' : Host}
      (h : Listening.Mirrors client P base l host l' host') (hbusy : l'.Busy) :
    Beside client P base (listening l) host (listening l') host'
  | outlives {l : Listening} {host host' : Host} (h : l.Tidy base host) (hbusy : l.Busy)
      (hothers : l.OthersSpare client P) (hstopping : l.stopping)
      (hnone : l.session? client = none) (hhosts : host.Shadows P base host') :
    Beside client P base (listening l) host stopped host'
  | ended {serving serving' : Serving} {host host' : Host} (h : serving.isEnded)
      (h' : serving'.isEnded)
      (hstore : ∀ path, P path → host'.store.find? path = host.store.find? path) :
    Beside client P base serving host serving' host'

end Serving

/-! ### What the two servers do alike -/

/-- Deeds that are alike but for the port send the same to the same endpoints. -/
theorem sent_of_unplaced {deeds deeds' : List Deed}
    (h : deeds'.map Deed.unplaced = deeds.map Deed.unplaced) :
    (World.sent deeds').map (fun d => (d.target, d.bytes)) =
      (World.sent deeds).map fun d => (d.target, d.bytes) := by
  have hunplaced : ∀ deeds : List Deed, (World.sent deeds).map (fun d => (d.target, d.bytes)) =
      (World.sent (deeds.map Deed.unplaced)).map fun d => (d.target, d.bytes) := by
    intro deeds
    induction deeds with
    | nil => rfl
    | cons d rest ih =>
      cases d with
      | sent d again => exact congrArg (_ :: ·) ih
      | unsent | observed | touched | consulted | flushed => exact ih
  rw [hunplaced, hunplaced deeds, h]

theorem Run.Twins.deeds {P : String → Prop} {base : List UInt16}
    {result result' : Run × Host × List Deed} (h : Run.Twins P base result result') :
    result'.2.2.map Deed.unplaced = result.2.2.map Deed.unplaced := by
  obtain ⟨-, -, hlevel⟩ := h
  cases hlevel with
  | waiting _ h | ended _ h => exact h.deeds

theorem Run.Twins.ending? {P : String → Prop} {base : List UInt16}
    {result result' : Run × Host × List Deed} (h : Run.Twins P base result result') :
    result'.1.ending? = result.1.ending? := by
  obtain ⟨-, -, hlevel⟩ := h
  cases hlevel with
  | waiting | ended => rfl

namespace Listening

variable {client : Endpoint} {P : String → Prop} {base : List UInt16} {incident : Incident}
  {l l' : Listening} {host host' : Host}

namespace Mirrors

theorem beside (h : Mirrors client P base l host l' host') :
    Serving.Beside client P base (Serving.rest l host).1 (Serving.rest l host).2
      (Serving.rest l' host').1 (Serving.rest l' host').2 := by
  rcases rest_cases l' host' with ⟨hbusy', heq'⟩ | ⟨hstopping', hempty', heq'⟩
  · rw [heq', rest_of_busy (h.busy hbusy')]
    exact .both h hbusy'
  · have hnone : l.session? client = none :=
      h.session?_eq_none_iff.1 (h.alone.isEmpty_iff.1 hempty' client)
    rw [heq']
    rcases rest_cases l host with ⟨hbusy, heq⟩ | ⟨-, -, heq⟩
    · rw [heq]
      exact .outlives h.tidy hbusy h.others (h.alike.stopping.symm.trans hstopping') hnone
        { h.hosts with }
    · rw [heq]
      exact .ended rfl rfl h.hosts.store

/-- The client has the same of its incident on both hosts. -/
theorem meet_own (h : Mirrors client P base l host l' host') (hbusy' : l'.Busy)
    (hclock : host'.clock = host.clock) (hclient : incident.client? = some client)
    (hbound : ¬ l.Unbound incident host) (hused : ∀ path, l.used? incident = some path → P path) :
    let one := (Serving.listening l).meet incident host
    let two := (Serving.listening l').meet incident host'
    Serving.Beside client P base one.1 one.2.1 two.1 two.2.1 ∧
      Moment.share ⟨.listening l', host', incident, two.2.2⟩ =
        Moment.share ⟨.listening l, host, incident, one.2.2⟩ := by
  dsimp only
  rcases h.run_twins hclock hclient hbound hused with ⟨hrun, hrun', hbound'⟩ |
    ⟨result, result', hrun, hrun', htwins⟩
  · rw [h.tidy.meet_none (h.busy hbusy') hclient hrun hbound,
      h.alone.meet_none hbusy' hclient hrun' hbound']
    refine ⟨.both h hbusy', ?_⟩
    simp [Moment.share, Moment.sent, Moment.ending?, Serving.listening?, hrun, hrun']
  · obtain ⟨m, hm, hmeet⟩ := h.tidy.meet_some hclient hrun
    obtain ⟨m', hm', hmeet'⟩ := h.alone.meet_some hclient hrun'
    rw [hmeet, hmeet']
    refine ⟨(h.follow hclient hrun hrun' htwins hm hm').beside, ?_⟩
    simp [Moment.share, Moment.sent, Moment.ending?, Serving.listening?, hrun, hrun',
      htwins.ending?, sent_of_unplaced htwins.deeds]

end Mirrors

end Listening

namespace Serving

variable {client other : Endpoint} {P : String → Prop} {base : List UInt16} {incident : Incident}
  {serving serving' : Serving} {l l' : Listening} {host host' : Host}

namespace Beside

theorem order (h : Beside client P base serving host serving' host') (cause : Shutdown) :
    Beside client P base (serving.order cause host).1 (serving.order cause host).2
      (serving'.order cause host').1 (serving'.order cause host').2 := by
  cases h with
  | both h hbusy =>
    rw [order_listening h.tidy, order_listening h.alone, h.alike.shutdown]
    split
    · exact (h.told rfl rfl).beside
    · exact .both h hbusy
  | @outlives l host host' h hbusy hothers hstopping hnone hhosts =>
    rw [order_listening h]
    have hsame : { l with stopping := true } = l := by rw [← hstopping]
    split
    · rw [hsame, Listening.rest_of_busy hbusy]
      exact .outlives h hbusy hothers hstopping hnone hhosts
    · exact .outlives h hbusy hothers hstopping hnone hhosts
  | ended hended hended' hstore =>
    rw [order_of_isEnded hended, order_of_isEnded hended']
    exact .ended hended hended' hstore

theorem deafen (h : Beside client P base serving host serving' host') :
    Beside client P base serving.deafen host serving'.deafen host' := by
  cases h with
  | both h hbusy =>
    simp only [Serving.deafen, h.alike.shutdown]
    split
    · exact .both (h.told rfl h.alike.stopping) hbusy
    · exact .both h hbusy
  | @outlives l host host' h hbusy hothers hstopping hnone hhosts =>
    simp only [Serving.deafen]
    split
    · exact .outlives (h.told .never l.stopping) hbusy hothers hstopping hnone hhosts
    · exact .outlives h hbusy hothers hstopping hnone hhosts
  | ended hended hended' hstore =>
    cases serving with
    | listening => exact nomatch hended
    | stopped | failed =>
      cases serving' with
      | listening => exact nomatch hended'
      | stopped | failed => exact .ended rfl rfl hstore

/-- A fault at the listening port ends both servers, unless they do not heed that port. -/
theorem fault (h : Beside client P base serving host serving' host') (f : Fault) :
    Beside client P base (serving.meet (.fault f) host).1 (serving.meet (.fault f) host).2.1
      (serving'.meet (.fault f) host').1 (serving'.meet (.fault f) host').2.1 := by
  have hlistening : ∀ (l : Listening) (host : Host), (listening l).meet (.fault f) host =
      if l.stopping then (listening l, host, [])
      else (.failed (.receive f), l.releaseAll host, []) := by
    intro l host
    change (ite (l.port ≠ l.port) _ _ : Serving × Host × List Deed) = _
    exact if_neg fun hne => hne rfl
  cases h with
  | both h hbusy =>
    rw [hlistening, hlistening, h.alike.stopping]
    split
    · exact .both h hbusy
    · refine .ended rfl rfl fun path hpath => ?_
      rw [store_releaseAll, store_releaseAll]
      exact h.hosts.store path hpath
  | outlives h hbusy hothers hstopping hnone hhosts =>
    rw [hlistening, if_pos hstopping, meet_of_isEnded rfl]
    exact .outlives h hbusy hothers hstopping hnone hhosts
  | ended hended hended' hstore =>
    rw [meet_of_isEnded hended, meet_of_isEnded hended']
    exact .ended hended hended' hstore

/-- What concerns nobody in particular happens to both servers. -/
theorem meet_common (h : Beside client P base serving host serving' host')
    (hclient : incident.client? = none) :
    Beside client P base (serving.meet incident host).1 (serving.meet incident host).2.1
      (serving'.meet incident host').1 (serving'.meet incident host').2.1 := by
  cases incident with
  | request | arrival => exact nomatch hclient
  | fault f => exact h.fault f
  | stop => exact h.order .order
  | interrupt => exact h.order .interrupt
  | deaf => exact h.deafen
  | stray => exact h

/-- What is another client's happens to the first server alone. -/
theorem meet_other (h : Beside client P base serving host serving' host')
    (hclient : incident.client? = some other) (hother : other ≠ client)
    (hbound : ∀ l, serving = .listening l → ¬ l.Unbound incident host)
    (hmade : ∀ l path, serving = .listening l → l.made? incident host = some path → ¬ P path) :
    Beside client P base (serving.meet incident host).1 (serving.meet incident host).2.1 serving'
      host' := by
  cases h with
  | @both l l' host host' h hbusy =>
    obtain ⟨m, left, deeds, hm, hmeet⟩ := h.tidy.undisturbed (h.busy hbusy) h.others hother
      hclient (hbound l rfl) fun path => hmade l path rfl
    have hmirrors : Listening.Mirrors client P base m left l' host' := by
      refine ⟨hm.tidy, h.alone, hm.alike.symm.trans h.alike, hm.others, ?_, ?_, h.ports,
        hm.hosts host' h.hosts⟩
      · rw [hm.session]
        exact h.own
      · rw [hm.session]
        exact h.session
    rw [hmeet, Listening.rest_of_busy (hmirrors.busy hbusy)]
    exact .both hmirrors hbusy
  | @outlives l host host' h hbusy hothers hstopping hnone hhosts =>
    obtain ⟨m, left, deeds, hm, hmeet⟩ := h.undisturbed hbusy hothers hother hclient (hbound l rfl)
      fun path => hmade l path rfl
    rw [hmeet]
    rcases Listening.rest_cases m left with ⟨hbusy', heq⟩ | ⟨-, -, heq⟩
    · rw [heq]
      exact .outlives hm.tidy hbusy' hm.others (hm.alike.stopping.trans hstopping)
        (hm.session.trans hnone) (hm.hosts host' hhosts)
    · rw [heq]
      exact .ended rfl rfl (hm.hosts host' hhosts).store
  | ended hended hended' hstore =>
    rw [meet_of_isEnded hended]
    exact .ended hended hended' hstore

/-- What is the client's happens to both servers, and the client has the same of it. -/
theorem meet_own (h : Beside client P base serving host serving' host')
    (hclock : host'.clock = host.clock) (hclient : incident.client? = some client)
    (hbound : ∀ l, serving = .listening l → ¬ l.Unbound incident host)
    (hused : ∀ l path, serving = .listening l → l.used? incident = some path → P path) :
    Beside client P base (serving.meet incident host).1 (serving.meet incident host).2.1
        (serving'.meet incident host').1 (serving'.meet incident host').2.1 ∧
      Moment.share ⟨serving', host', incident, (serving'.meet incident host').2.2⟩ =
        Moment.share ⟨serving, host, incident, (serving.meet incident host).2.2⟩ := by
  cases h with
  | @both l l' host host' h hbusy =>
    exact h.meet_own hbusy hclock hclient (hbound l rfl) fun path => hused l path rfl
  | @outlives l host host' h hbusy hothers hstopping hnone hhosts =>
    have hrun : l.run? incident host = none := by
      cases incident with
      | request => rw [Listening.run?, Listening.taken?, if_pos (.inl hstopping)]; rfl
      | arrival other arrival =>
        obtain rfl := Option.some.inj hclient
        rw [Listening.run?, hnone]
        rfl
      | fault | stop | interrupt | deaf | stray => cases hclient
    rw [h.meet_none hbusy hclient hrun (hbound l rfl), meet_of_isEnded rfl]
    refine ⟨.outlives h hbusy hothers hstopping hnone hhosts, ?_⟩
    simp [Moment.share, Moment.sent, Moment.ending?, Serving.listening?, hrun]
  | ended hended hended' hstore =>
    rw [meet_of_isEnded hended, meet_of_isEnded hended']
    refine ⟨.ended hended hended' hstore, ?_⟩
    have hnone : ∀ {serving : Serving}, serving.isEnded → serving.listening? = none := by
      intro serving h
      cases serving with
      | listening => cases h
      | stopped | failed => rfl
    simp [Moment.share, Moment.sent, Moment.ending?, hnone hended, hnone hended']

theorem store (h : Beside client P base serving host serving' host') :
    ∀ path, P path → host'.store.find? path = host.store.find? path := by
  cases h with
  | both h => exact h.hosts.store
  | outlives _ _ _ _ _ hhosts => exact hhosts.store
  | ended _ _ hstore => exact hstore

/-- Time passes on the two hosts. -/
theorem clock (h : Beside client P base serving host serving' host') (time time' : Nat) :
    Beside client P base serving { host with clock := time } serving'
      { host' with clock := time' } := by
  cases h with
  | both h hbusy => exact .both (h.clock time time') hbusy
  | outlives h hbusy hothers hstopping hnone hhosts =>
    exact .outlives (h.clock time) hbusy hothers hstopping hnone (hhosts.clock time time')
  | ended hended hended' hstore => exact .ended hended hended' hstore

/-- What an event is to the first server is what happens to it. -/
theorem meet_incident (h : Beside client P base serving host serving' host') (event : Event) :
    serving.meet (serving.incident event) host = serving.step event host := by
  cases h with
  | both h hbusy => exact h.tidy.meet_incident (h.busy hbusy) event
  | outlives h hbusy => exact h.meet_incident hbusy event
  | ended hended => rw [meet_of_isEnded hended, step_of_isEnded hended]

end Beside

/-- What concerns the client is the same to both servers. -/
theorem Beside.step (h : Beside client P base serving host serving' host')
    (hclock : host'.clock = host.clock) (event : Event)
    (hconcerns : (serving.incident event).concerns client)
    (hbound : ¬ (serving.moment host event).Unbound)
    (hused : (serving.incident event).client? = some client →
      ∀ path, (serving.moment host event).used? = some path → P path) :
    let incident := serving.incident event
    Beside client P base (serving.step event host).1 (serving.step event host).2.1
        (serving'.meet incident host').1 (serving'.meet incident host').2.1 ∧
      (incident.client? = some client →
        Moment.share ⟨serving', host', incident, (serving'.meet incident host').2.2⟩ =
          (serving.moment host event).share) := by
  rw [moment, ← h.meet_incident event]
  rcases Incident.client?_of_concerns hconcerns with hclient | hclient
  · have hbound : ∀ l, serving = .listening l → ¬ l.Unbound (serving.incident event) host :=
      fun l hl hunbound => hbound ⟨l, listening?_eq_some hl, hunbound⟩
    obtain ⟨hbeside, hshare⟩ := h.meet_own hclock hclient hbound fun l path hl hpath =>
      hused hclient path (by subst hl; exact hpath)
    exact ⟨hbeside, fun _ => hshare⟩
  · exact ⟨h.meet_common hclient, fun hown => nomatch hclient.symm.trans hown⟩

/-- Anything else leaves the server that has the client alone as it is. -/
theorem Beside.step_apart (h : Beside client P base serving host serving' host') (event : Event)
    (hconcerns : (serving.incident event).concerns client = false)
    (hbound : ¬ (serving.moment host event).Unbound)
    (hmade : (serving.incident event).client? ≠ some client →
      ∀ path, (serving.moment host event).made? = some path → ¬ P path) :
    Beside client P base (serving.step event host).1 (serving.step event host).2.1 serving' host' ∧
      (serving.incident event).client? ≠ some client := by
  rw [← h.meet_incident event]
  rcases Incident.client?_of_not_concerns hconcerns with ⟨other, hclient, hother⟩ | hstray
  · have hne : (serving.incident event).client? ≠ some client :=
      fun hown => hother (Option.some.inj (hclient.symm.trans hown))
    have hbound : ∀ l, serving = .listening l → ¬ l.Unbound (serving.incident event) host :=
      fun l hl hunbound => hbound ⟨l, listening?_eq_some hl, hunbound⟩
    refine ⟨h.meet_other hclient hother hbound fun l path hl hpath => ?_, hne⟩
    exact hmade hne path (by subst hl; exact hpath)
  · rw [hstray]
    exact ⟨h, nofun⟩

/-- **The two runs.**  Beside each other, the server that meets with all that happens and the one
that meets with what concerns the client give the client the same. -/
theorem Beside.course (h : Beside client P base serving host serving' host')
    (events : List (Nat × Event))
    (hbound : ∀ m ∈ (serving.course host events).1, ¬ m.Unbound)
    (hmade : ∀ m ∈ (serving.course host events).1, m.incident.client? ≠ some client →
      ∀ path, m.made? = some path → ¬ P path)
    (hused : ∀ m ∈ (serving.course host events).1, m.incident.client? = some client →
      ∀ path, m.used? = some path → P path) :
    let full := serving.course host events
    let alone := serving'.replay host' (Moment.concerning client full.1)
    Moment.shares client alone.1 = Moment.shares client full.1 ∧
      ∀ path, P path → alone.2.store.find? path = full.2.store.find? path := by
  dsimp only
  induction events generalizing serving host serving' host' with
  | nil => exact ⟨rfl, h.store⟩
  | cons e rest ih =>
    obtain ⟨time, event⟩ := e
    rw [Serving.course] at hbound hmade hused ⊢
    obtain ⟨hbound₀, hbound⟩ := List.forall_mem_cons.1 hbound
    obtain ⟨hmade₀, hmade⟩ := List.forall_mem_cons.1 hmade
    obtain ⟨hused₀, hused⟩ := List.forall_mem_cons.1 hused
    dsimp only
    rw [Moment.concerning_cons, Moment.shares_cons]
    by_cases hconcerns : (serving.incident event).concerns client
    · obtain ⟨hnext, hshare⟩ := (h.clock time time).step rfl event hconcerns hbound₀ hused₀
      obtain ⟨hshares, hstore⟩ := ih hnext hbound hmade hused
      rw [if_pos (by exact hconcerns), replay]
      refine ⟨?_, hstore⟩
      dsimp only
      rw [Moment.shares_cons]
      by_cases hclient : (serving.incident event).client? = some client
      · refine (if_pos hclient).trans (.trans ?_ (if_pos hclient).symm)
        exact congrArg₂ List.cons (hshare hclient) hshares
      · exact (if_neg hclient).trans (hshares.trans (if_neg hclient).symm)
    · -- Nothing happens to the server that has the client alone, so its host stays as it is.
      obtain ⟨hnext, hclient⟩ := (h.clock time host'.clock).step_apart event
        (Bool.eq_false_iff.2 hconcerns) hbound₀ hmade₀
      rw [if_neg (by exact hconcerns), if_neg (by exact hclient)]
      exact ih hnext hbound hmade hused

/-! ### From the start on -/

/-- The port that a server listens at is in use, and taking it keeps no datagram from being
sent. -/
theorem bind_ok {server : Server} {port : UInt16} (h : bind server host = (.ok port, host')) :
    port ∈ host'.ports ∧ host'.sendFault = host.sendFault := by
  unfold bind at h
  split at h
  · next e _ =>
    have hchoose : (host.choosePort e.port).2.sendFault = host.sendFault := by
      unfold Host.choosePort
      split <;> rfl
    unfold Host.bind at h
    split at h
    · exact nomatch h
    · generalize host.choosePort e.port = choice at h hchoose
      dsimp only at h
      split at h
      · exact nomatch h
      · obtain ⟨⟨⟩, rfl⟩ := Prod.mk.inj h
        exact ⟨List.mem_cons_self, hchoose⟩
  · exact nomatch h

/-- A server that has started is beside itself. -/
theorem beside_start (client : Endpoint) (P : String → Prop) (server : Server)
    (hcalm : host.Calm) :
    Beside client P (start server host).2.ports (start server host).1 (start server host).2
      (start server host).1 (start server host).2 := by
  unfold start
  split
  · next port host' hbind =>
    obtain ⟨hport, hsend⟩ := bind_ok hbind
    have hcalm : host'.Calm := by
      intro n
      rw [hsend]
      exact hcalm n
    exact .both (.of_nil rfl rfl hport hcalm) fun hstopping => nomatch hstopping
  · exact .ended rfl rfl fun _ _ => rfl

/-- **Sessions do not interfere.**  Whatever happens to a server, if there is a port for every
session and no other client has a file made that one of the client's sessions is about, the client
has the same of it as when nothing happens to the server but what concerns the client: it is sent
the same bytes to the same endpoints, its sessions end in the same way, and the files that they
are about are the same.  What happens to the server then is a course of events of its own, at the
same times. -/
theorem isolated (server : Server) (host : Host) (client : Endpoint) (events : List (Nat × Event))
    (hcalm : host.Calm) :
    let started := start server host
    let full := started.1.course started.2 events
    let alone := started.1.replay started.2 (Moment.concerning client full.1)
    (∀ m ∈ full.1, ¬ m.Unbound) →
    (∀ m ∈ full.1, m.incident.client? = some client →
      ∀ m' ∈ full.1, m'.incident.client? ≠ some client → ∀ path ∈ m.used?, path ∉ m'.made?) →
    Moment.shares client alone.1 = Moment.shares client full.1 ∧
    (∀ m ∈ full.1, m.incident.client? = some client →
        ∀ path ∈ m.used?, alone.2.store.find? path = full.2.store.find? path) ∧
    ∃ events' : List (Nat × Event),
      events'.map Prod.fst = (Moment.concerning client full.1).map Prod.fst ∧
      (started.1.course started.2 events').1.map Moment.deeds = alone.1.map Moment.deeds ∧
      (started.1.course started.2 events').2 = alone.2 := by
  intro started full alone hbound hapart
  let P : String → Prop := fun path =>
    ∀ m ∈ full.1, m.incident.client? ≠ some client → m.made? ≠ some path
  have hused : ∀ m ∈ full.1, m.incident.client? = some client →
      ∀ path, m.used? = some path → P path :=
    fun m hm hown path hpath m' hm' hother => hapart m hm hown m' hm' hother path hpath
  obtain ⟨hshares, hstore⟩ := (beside_start client P server hcalm).course events hbound
    (fun m hm hother path hpath hP => hP m hm hother hpath) hused
  exact ⟨hshares, fun m hm hown path hpath => hstore path (hused m hm hown path hpath),
    started.1.exists_course_eq_replay started.2 _⟩

/-- A server of the files in a directory, and a host with one file there. -/
def library : Server := { address := "0.0.0.0:69", service := { root := "r" } }

def oneFileHost : Host := { store := ⟨[("r/a", { content := [1, 2, 3] })]⟩ }

/-- One client reads the file while another one writes a second file. -/
def readAndWrite : List (Nat × Event) :=
  [(0, .arrival 69 (.datagram Listening.caller (Packet.octetRequest .read "a" ∅).encode)),
    (5, .arrival 69 (.datagram Listening.neighbour (Packet.octetRequest .write "b" ∅).encode)),
    (7, .arrival 40002 (.datagram Listening.neighbour (Packet.data 1 [9]).encode)),
    (9, .arrival 40001 (.datagram Listening.caller (Packet.ack 1).encode))]

/-- The writer makes no difference to the reader. -/
theorem isolated_readAndWrite :
    let started := start library oneFileHost
    let full := started.1.course started.2 readAndWrite
    let alone := started.1.replay started.2 (Moment.concerning Listening.caller full.1)
    (∀ m ∈ full.1, ¬ m.Unbound) ∧ full.1.length = 4 ∧ alone.1.length = 2 ∧
      Moment.shares Listening.caller alone.1 = Moment.shares Listening.caller full.1 := by
  have hbound : ∀ m ∈ ((start library oneFileHost).1.course (start library oneFileHost).2
      readAndWrite).1, ¬ m.Unbound := by decide +kernel
  refine ⟨hbound, by decide +kernel, by decide +kernel, ?_⟩
  exact (isolated library oneFileHost Listening.caller readAndWrite (fun _ => rfl) hbound
    (by decide +kernel)).1

end Serving

end TrivialFtp
