import TrivialFtp.Proofs.Incidents

/-!
# Proofs: one session at a time

Whatever happens to a server, at most one of its sessions does anything: one that opens with a
client's packet, or one under way that takes in an arrival.  All else that a server does is to keep
its list of transfers and its ports, and it never looks at a file.

- `Chore`, `Chore.run`: what that session does.
- `Chore.Due`: the sessions that may have to do something.
- `Serving.Explained`: what the server makes of it, whatever files there are.
- `Serving.explained`: that is all a server does.
-/

namespace TrivialFtp

/-- What a session has to do when something happens to its server. -/
inductive Chore where
  /-- No session has anything to do. -/
  | idle
  /-- A session opens with a client's packet. -/
  | opening (s : Session) (packet : Packet) (client : Endpoint)
  /-- A session under way takes in an arrival. -/
  | taking (s : Session) (arrival : Arrival)

/-- The session after its chore, unless it has ended, and what it did. -/
def Chore.run (chore : Chore) (host : Host) : Option Session × Host × List Deed :=
  match chore with
  | idle => (none, host, [])
  | opening s packet client =>
    let (run, host, deeds) := Run.start s (.answer packet client) host
    (Listening.sessionOf run, host, deeds)
  | taking s arrival =>
    let (run, host, deeds) := (Run.waiting s).step arrival host
    (Listening.sessionOf run, host, deeds)

/-- The packet that comes to the listening port. -/
def Incident.packet? : Incident → Option Packet
  | request _ bytes => (Packet.decode (bytes.take Listening.longestRequest)).toOption
  | arrival _ _ | fault _ | stop | interrupt | deaf | stray => none

/-- The chores that may come of an incident: a session of the service opens with the packet that
comes, or a session of some kind goes on, and no packet comes. -/
inductive Chore.Due (service : Service) (kind : Session → Prop) (incident : Incident) :
    Chore → Prop where
  | idle : Due service kind incident .idle
  | opening {packet : Packet} (port : UInt16) (client : Endpoint) (timing : Timing) (now : Nat)
      (hpacket : incident.packet? = some packet) :
    Due service kind incident (.opening (.server service port client timing now) packet client)
  | taking {s : Session} (arrival : Arrival) (hs : kind s) (hpacket : incident.packet? = none) :
    Due service kind incident (.taking s arrival)

/-- A server of a service, whose sessions are of some kind. -/
structure Listening.Hosts (service : Service) (kind : Session → Prop) (l : Listening) : Prop where
  service : l.service = service
  sessions : ∀ t ∈ l.transfers, ∀ s ∈ t.session, kind s

/-- What a server does at an event is what a session does on its chore, whatever files there are:
the session finds the host as `found`; then the server is `after`, and its ports are `leave`. -/
inductive Serving.Explained (service : Service) (kind : Session → Prop) (serving : Serving)
    (event : Event) (host : Host) : Prop where
  | intro (chore : Chore) (found : Host) (after : Option Session → Serving)
    (leave : Option Session → List UInt16 → List UInt16)
    (hdue : chore.Due service kind (serving.incident event))
    (hafter : ∀ session, (∀ s ∈ session, kind s) →
      (after session).While (Listening.Hosts service kind))
    (hstep : ∀ store, serving.step event { host with store } =
      let (session, left, deeds) := chore.run { found with store }
      (after session, { left with ports := leave session left.ports }, deeds))

variable {service : Service} {kind : Session → Prop} {l : Listening} {host : Host}

/-- A port is free or not, whatever files there are. -/
theorem Host.bind_store (host : Host) (ip : Ip) (port : UInt16) (store : Store) :
    ({ host with store } : Host).bind ip port =
      ((host.bind ip port).1, { (host.bind ip port).2 with store }) := by
  have hchoose : ({ host with store } : Host).choosePort port =
      ((host.choosePort port).1, { (host.choosePort port).2 with store }) := by
    unfold choosePort
    split <;> rfl
  unfold bind
  dsimp only
  rw [hchoose]
  cases host.bindFault ip with
  | some f => rfl
  | none =>
    dsimp only
    split <;> rfl

namespace Listening

theorem Hosts.sweep (h : l.Hosts service kind) : l.sweep.Hosts service kind := by
  refine ⟨l.sweep_alike.service.trans h.service, fun t ht => h.sessions t ?_⟩
  exact (foldl_strike_subset (l.transfers.filter fun t => t.session.isNone) l).1 ht

/-- A server that is sent a packet finds a port for the session, or it does not. -/
theorem begin_cases (l : Listening) (packet : Packet) (client : Endpoint) (host : Host) :
    (∃ found : Host, ∀ store, l.begin packet client { host with store } =
        (none, { found with store }, [])) ∨
      ∃ (port : UInt16) (now : Nat) (found : Host), ∀ store,
        l.begin packet client { host with store } =
          (Chore.opening (.server l.service port client l.timing now) packet client).run
            { found with store } := by
  have hbind := host.bind_store (l.timing.localIp.getD client.ip.unspecified) 0
  unfold begin Host.bindFor
  generalize host.bind (l.timing.localIp.getD client.ip.unspecified) 0 = result at hbind
  obtain ⟨result, bound⟩ := result
  cases result with
  | error f => exact .inl ⟨bound, fun store => by rw [hbind]⟩
  | ok port =>
    refine .inr ⟨port, bound.clock + 1, { bound with clock := bound.clock + 1 }, fun store => ?_⟩
    rw [hbind]
    rfl

end Listening

namespace Serving

variable {serving : Serving} {event : Event}

/-- Whether a server ends is no question of its host, and it gives back its port at most. -/
theorem settle_eq (l : Listening) (host : Host) :
    settle l host =
      ((settle l {}).1, { host with ports := (settle l { ports := host.ports }).2.ports }) := by
  unfold settle
  dsimp only
  by_cases hends : l.sweep.stopping ∧ l.sweep.transfers.isEmpty
  · simp only [if_pos hends]
    rfl
  · simp only [if_neg hends]

theorem hosts_settle (h : l.Hosts service kind) (host : Host) :
    (settle l host).1.While (Listening.Hosts service kind) := by
  unfold settle
  dsimp only
  split
  · trivial
  · exact h.sweep

/-- Nothing is done by any session. -/
theorem explained_idle (serving' : Serving) (found : Host)
    (h : serving'.While (Listening.Hosts service kind))
    (hstep : ∀ store, serving.step event { host with store } =
      (serving', { found with store }, [])) : serving.Explained service kind event host :=
  ⟨.idle, found, fun _ => serving', fun _ ports => ports, .idle, fun _ _ => h, hstep⟩

/-- A session has done its chore, and transfers that have ended are struck off. -/
theorem explained_settle {chore : Chore} (found : Host) (after : Option Session → Listening)
    (hdue : chore.Due service kind (serving.incident event))
    (hafter : ∀ session, (∀ s ∈ session, kind s) → (after session).Hosts service kind)
    (hstep : ∀ store, serving.step event { host with store } =
      let (session, left, deeds) := chore.run { found with store }
      ((settle (after session) left).1, (settle (after session) left).2, deeds)) :
    serving.Explained service kind event host := by
  refine ⟨chore, found, fun session => (settle (after session) {}).1,
    fun session ports => (settle (after session) { ports }).2.ports, hdue,
    fun session hsession => hosts_settle (hafter session hsession) {}, fun store => ?_⟩
  rw [hstep]
  dsimp only
  rw [settle_eq (after (chore.run { found with store }).1)]

/-- A server that is told to end goes through its transfers, or it does not heed this. -/
theorem explained_order (h : l.Hosts service kind) (cause : Shutdown)
    (hstep : ∀ host, (listening l).step event host =
      (((listening l).order cause host).1, ((listening l).order cause host).2, [])) :
    (listening l).Explained service kind event host := by
  unfold order at hstep
  dsimp only at hstep
  split at hstep
  · refine explained_settle host (fun _ => { l with stopping := true }) .idle
      (fun _ _ => ⟨h.service, h.sessions⟩) fun store => ?_
    rw [hstep]
    rfl
  · exact explained_idle (listening l) host h fun _ => hstep _

/-- What comes to the port of a session is for it; elsewhere nobody heeds it. -/
theorem explained_forward (h : l.Hosts service kind) {port : UInt16} (arrival : Arrival)
    (hport : port ≠ l.port) :
    (listening l).Explained service kind (.arrival port arrival) host := by
  have hpacket : ((listening l).incident (.arrival port arrival)).packet? = none := by
    simp only [incident, if_neg hport]
    cases l.client? port <;> rfl
  have hstep : ∀ host, (listening l).step (.arrival port arrival) host =
      let reached := Listening.forward port arrival host l.transfers
      ((settle { l with transfers := reached.1 } reached.2.1).1,
        (settle { l with transfers := reached.1 } reached.2.1).2, reached.2.2) :=
    fun _ => if_pos hport
  rcases Listening.forward_cases port arrival l.transfers with ⟨heq, -⟩ |
    ⟨before, t, after, s, htransfers, hsession, -, -, heq⟩
  · refine explained_settle host (fun _ => l) .idle (fun _ _ => h) fun store => ?_
    rw [hstep, heq]
    rfl
  · -- The other transfers are as they were, and this one has what the chore leaves of its session.
    have ht : t ∈ l.transfers := htransfers ▸ List.mem_append_right _ List.mem_cons_self
    refine explained_settle host
      (fun session => { l with transfers := before ++ { t with session } :: after })
      (.taking arrival (h.sessions t ht s hsession) hpacket) (fun session hkind => ?_)
      fun store => ?_
    · refine ⟨h.service, fun t' ht' => ?_⟩
      rcases List.mem_append.1 ht' with hbefore | hrest
      · exact h.sessions t' (htransfers ▸ List.mem_append_left _ hbefore)
      · rcases List.mem_cons.1 hrest with rfl | hafter
        · exact hkind
        · exact h.sessions t'
            (htransfers ▸ List.mem_append_right _ (List.mem_cons_of_mem t hafter))
    · rw [hstep, heq]
      rfl

/-- A packet at the listening port opens a session if there is a port for it. -/
theorem explained_begin (h : l.Hosts service kind) (client : Endpoint) {packet : Packet}
    (hpacket : ((listening l).incident event).packet? = some packet)
    (hstep : ∀ host, (listening l).step event host =
      let (session, left, deeds) := l.begin packet client host
      let m : Listening := { l with
        transfers := l.transfers ++ [⟨l.nextTicket, client, session⟩]
        roster := l.roster.enrol client l.nextTicket
        nextTicket := l.nextTicket + 1 }
      ((settle m left).1, (settle m left).2, deeds)) :
    (listening l).Explained service kind event host := by
  obtain rfl := h.service
  let after := fun session => ({ l with
    transfers := l.transfers ++ [⟨l.nextTicket, client, session⟩]
    roster := l.roster.enrol client l.nextTicket
    nextTicket := l.nextTicket + 1 } : Listening)
  have hafter : ∀ session, (∀ s ∈ session, kind s) → (after session).Hosts l.service kind := by
    intro session hkind
    refine ⟨rfl, fun t ht => ?_⟩
    rcases List.mem_append.1 ht with ht | ht
    · exact h.sessions t ht
    · obtain rfl := List.mem_singleton.1 ht
      exact hkind
  -- Without a port the client has a transfer all the same, but one without a session.
  rcases l.begin_cases packet client host with ⟨found, hbegin⟩ | ⟨port, now, found, hbegin⟩
  · refine explained_settle found after .idle hafter fun store => ?_
    rw [hstep, hbegin]
    rfl
  · refine explained_settle found after (.opening port client l.timing now hpacket) hafter
      fun store => ?_
    rw [hstep, hbegin]

/-- A datagram at the listening port is for nobody unless it opens a session. -/
theorem explained_accept (h : l.Hosts service kind) (hstopping : ¬ l.stopping)
    (client : Endpoint) (bytes : Bytes) :
    (listening l).Explained service kind (.arrival l.port (.datagram client bytes)) host := by
  have hincident : (listening l).incident (.arrival l.port (.datagram client bytes)) =
      .request client bytes := if_pos rfl
  have hstep : ∀ host, (listening l).step (.arrival l.port (.datagram client bytes)) host =
      ((settle (l.accept client bytes host).1 (l.accept client bytes host).2.1).1,
        (settle (l.accept client bytes host).1 (l.accept client bytes host).2.1).2,
        (l.accept client bytes host).2.2) := fun host =>
    (Listening.meet_of_request l client bytes host).trans (if_neg hstopping)
  have hturnsAway : (∀ host, l.accept client bytes host = (l, host, [])) →
      (listening l).Explained service kind (.arrival l.port (.datagram client bytes)) host := by
    intro haccept
    refine explained_settle host (fun _ => l) .idle (fun _ _ => h) fun store => ?_
    rw [hstep, haccept]
    rfl
  cases hcontains : l.roster.contains client with
  | true => exact hturnsAway fun _ => Listening.accept_of_contains hcontains
  | false =>
    cases hread : Packet.decode (bytes.take Listening.longestRequest) with
    | error m => exact hturnsAway fun _ => Listening.accept_of_malformed hread
    | ok packet =>
      have hpacket : ((listening l).incident (.arrival l.port (.datagram client bytes))).packet? =
          some packet := by
        rw [hincident, Incident.packet?, hread]
        rfl
      refine explained_begin h client hpacket fun host => ?_
      rw [hstep, Listening.accept_of_decode hcontains hread]

/-- **One session at a time.**  Whatever happens to a server, what it does is what one of its
sessions does, whatever files there are. -/
theorem explained (h : serving.While (Listening.Hosts service kind)) (event : Event)
    (host : Host) : serving.Explained service kind event host := by
  cases serving with
  | stopped | failed => exact explained_idle _ host h fun _ => step_of_isEnded rfl event _
  | listening l =>
    have hquiet : ∀ event, (∀ host, (listening l).step event host = (listening l, host, [])) →
        (listening l).Explained service kind event host :=
      fun event hstep => explained_idle (listening l) host h fun _ => hstep _
    cases event with
    | stop => exact explained_order h .order fun _ => rfl
    | interrupt => exact explained_order h .interrupt fun _ => rfl
    | deaf =>
      refine explained_idle (listening l).deafen host ?_ fun _ => rfl
      unfold deafen
      dsimp only
      split
      · exact ⟨h.service, h.sessions⟩
      · exact h
    | arrival port arrival =>
      by_cases hport : port = l.port
      · subst hport
        by_cases hstopping : l.stopping
        · refine hquiet _ fun host => ?_
          simp [step, receive, hstopping]
        · cases arrival with
          | datagram client bytes => exact explained_accept h hstopping client bytes
          | silence => exact hquiet _ fun host => l.receive_silence host
          | fault f =>
            refine explained_idle (.failed (.receive f)) (l.releaseAll host) trivial fun store => ?_
            rw [← l.releaseAll_store]
            simp [step, receive, hstopping]
      · exact explained_forward h arrival hport

end Serving

end TrivialFtp
