import Mathlib.Logic.Function.Basic
import TrivialFtp.Proofs.Admission
import TrivialFtp.Proofs.Parallel
import TrivialFtp.Proofs.Standing
import TrivialFtp.World

/-!
# Proofs: incidents

What happens to a server, told by the client that it concerns.  A port is no name for a transfer,
since another port may be given to it in another run; its client is one, since a client has at
most one transfer.

- `Incident`, `Serving.incident`: what an event is to a server.
- `Listening.Tidy`: the sessions of a server are at ports of their own.
- `Serving.meet`, `Listening.Tidy.meet_incident`: the event of an incident, at whatever port the
  server has the transfer.
- `Listening.Tidy.meet_none`, `Listening.Tidy.meet_some`: what becomes of the sessions.
-/

namespace TrivialFtp

/-- What happens to a server. -/
inductive Incident where
  /-- A datagram comes to the listening port. -/
  | request (client : Endpoint) (bytes : Bytes)
  /-- Something reaches the port of a client's transfer. -/
  | arrival (client : Endpoint) (arrival : Arrival)
  /-- A fault is met at the listening port. -/
  | fault (f : Fault)
  /-- The server is told to end. -/
  | stop
  | interrupt
  | deaf
  /-- Something that concerns neither a transfer nor the server. -/
  | stray
  deriving DecidableEq, Repr

/-- The client whose transfer an incident may begin or go on with. -/
def Incident.client? : Incident → Option Endpoint
  | request client _ | arrival client _ => some client
  | fault _ | stop | interrupt | deaf | stray => none

/-- The incident is one of the client's, or one of the server as a whole. -/
def Incident.concerns (client : Endpoint) : Incident → Bool
  | request other _ | arrival other _ => other = client
  | fault _ | stop | interrupt | deaf => true
  | stray => false

theorem Incident.client?_of_concerns {incident : Incident} {client : Endpoint}
    (h : incident.concerns client = true) :
    incident.client? = some client ∨ incident.client? = none := by
  cases incident with
  | request other | arrival other => exact .inl (congrArg some (of_decide_eq_true h))
  | fault | stop | interrupt | deaf => exact .inr rfl
  | stray => exact nomatch h

theorem Incident.client?_of_not_concerns {incident : Incident} {client : Endpoint}
    (h : incident.concerns client = false) :
    (∃ other, incident.client? = some other ∧ other ≠ client) ∨ incident = .stray := by
  cases incident with
  | request other | arrival other => exact .inl ⟨other, rfl, of_decide_eq_false h⟩
  | fault | stop | interrupt | deaf => exact nomatch h
  | stray => exact .inr rfl

namespace Listening

/-- The session that a client has with the server. -/
def session? (l : Listening) (client : Endpoint) : Option Session :=
  (l.transfers.find? fun t => t.client = client).bind Transfer.session

/-- The client that has a session at a port. -/
def client? (l : Listening) (port : UInt16) : Option Endpoint :=
  (l.transfers.find? fun t => t.session.any fun s => s.port = port).map Transfer.client

/-- The packet that a server takes up. -/
def taken? (l : Listening) : Incident → Option Packet
  | .request client bytes =>
    if l.stopping ∨ l.roster.contains client then none
    else (Packet.decode (bytes.take longestRequest)).toOption
  | _ => none

/-- A session for a client from its first packet on, if there is a port for it. -/
def open? (l : Listening) (packet : Packet) (client : Endpoint) (host : Host) :
    Option (Run × Host × List Deed) :=
  match host.bindFor client.ip l.timing with
  | (.error _, _) => none
  | (.ok port, host) =>
    let (now, host) := host.readClock
    some (Run.start (.server l.service port client l.timing now) (.answer packet client) host)

/-- What comes of the session that is begun or goes on. -/
def run? (l : Listening) (incident : Incident) (host : Host) : Option (Run × Host × List Deed) :=
  match incident with
  | .request client _ => (l.taken? incident).bind fun packet => l.open? packet client host
  | .arrival client arrival =>
    (l.session? client).map fun s => (Run.waiting s).step arrival host
  | _ => none

/-- The path of the file that a session is begun for. -/
def used? (l : Listening) (incident : Incident) : Option String :=
  (l.taken? incident).bind l.service.path?

/-- The path at which a file is made when a session is begun. -/
def made? (l : Listening) (incident : Incident) (host : Host) : Option String :=
  ((l.taken? incident).bind l.service.target?).filter fun path => (host.store.create path).isOk

/-- A packet is taken up and there is no port for it. -/
def Unbound (l : Listening) (incident : Incident) (host : Host) : Prop :=
  (l.taken? incident).isSome ∧ l.run? incident host = none

instance (l : Listening) (incident : Incident) (host : Host) :
    Decidable (l.Unbound incident host) :=
  inferInstanceAs (Decidable (_ ∧ _))

/-- Two servers that serve in the same way. -/
structure Alike (l l' : Listening) : Prop where
  port : l'.port = l.port
  service : l'.service = l.service
  timing : l'.timing = l.timing
  shutdown : l'.shutdown = l.shutdown
  stopping : l'.stopping = l.stopping

end Listening

namespace Serving

/-- A server that listens. -/
def listening? : Serving → Option Listening
  | listening l => some l
  | stopped | failed _ => none

/-- What a server makes of an event. -/
def step (serving : Serving) (event : Event) (host : Host) : Serving × Host × List Deed :=
  match event with
  | .arrival port arrival => serving.receive port arrival host
  | .stop => ((serving.order .order host).1, (serving.order .order host).2, [])
  | .interrupt => ((serving.order .interrupt host).1, (serving.order .interrupt host).2, [])
  | .deaf => (serving.deafen, host, [])

/-- What an event is to a server. -/
def incident (serving : Serving) : Event → Incident
  | .arrival port arrival =>
    match serving with
    | listening l =>
      if port = l.port then
        match arrival with
        | .datagram client bytes => .request client bytes
        | .fault f => .fault f
        | .silence => .stray
      else
        match l.client? port with
        | some client => .arrival client arrival
        | none => .stray
    | stopped | failed _ => .stray
  | .stop => .stop
  | .interrupt => .interrupt
  | .deaf => .deaf

/-- The event that an incident is to a server, if it can happen to it. -/
def event? (serving : Serving) : Incident → Option Event
  | .request client bytes =>
    serving.listening?.map fun l => .arrival l.port (.datagram client bytes)
  | .arrival client arrival => do
    let l ← serving.listening?
    let s ← l.session? client
    return .arrival s.port arrival
  | .fault f => serving.listening?.map fun l => .arrival l.port (.fault f)
  | .stop => some .stop
  | .interrupt => some .interrupt
  | .deaf => some .deaf
  | .stray => none

/-- What a server makes of an incident. -/
def meet (serving : Serving) (incident : Incident) (host : Host) : Serving × Host × List Deed :=
  match serving.event? incident with
  | some event => serving.step event host
  | none => (serving, host, [])

end Serving

/-- The host as a session finds it that takes the next port. -/
def Host.berth (host : Host) : Host :=
  { host with
    ports := .ofNat host.nextPort :: host.ports
    nextPort := host.nextPort + 1
    clock := host.clock + 1 }

/-- A server that is stopping ends with the last of its transfers. -/
def Serving.rest (l : Listening) (host : Host) : Serving × Host :=
  if l.stopping ∧ l.transfers.isEmpty then (.stopped, host.release l.port) else (.listening l, host)

namespace Listening

variable {l l' : Listening} {client : Endpoint} {s : Session} {host : Host}

theorem Alike.refl (l : Listening) : l.Alike l := ⟨rfl, rfl, rfl, rfl, rfl⟩

theorem Alike.trans {l₁ : Listening} (h : l.Alike l₁) (h' : l₁.Alike l') : l.Alike l' :=
  ⟨h'.port.trans h.port, h'.service.trans h.service, h'.timing.trans h.timing,
    h'.shutdown.trans h.shutdown, h'.stopping.trans h.stopping⟩

theorem Alike.symm (h : l.Alike l') : l'.Alike l :=
  ⟨h.port.symm, h.service.symm, h.timing.symm, h.shutdown.symm, h.stopping.symm⟩

/-! ### Sessions -/

theorem session?_eq_some (h : l.clients.Nodup) :
    l.session? client = some s ↔ ∃ t ∈ l.transfers, t.client = client ∧ t.session = some s := by
  unfold session?
  rw [Option.bind_eq_some_iff]
  constructor
  · rintro ⟨t, hfind, hsession⟩
    exact ⟨t, List.mem_of_find?_eq_some hfind, by simpa using List.find?_some hfind, hsession⟩
  · rintro ⟨t, ht, rfl, hsession⟩
    cases hfind : l.transfers.find? fun t' => t'.client = t.client with
    | none =>
      rw [List.find?_eq_none] at hfind
      exact absurd (decide_eq_true rfl) (hfind t ht)
    | some t' =>
      have hclient : t'.client = t.client := by simpa using List.find?_some hfind
      obtain rfl := List.inj_on_of_nodup_map h (List.mem_of_find?_eq_some hfind) ht hclient
      exact ⟨t', rfl, hsession⟩

/-- A transfer's session is its client's. -/
theorem session?_of_mem (h : l.clients.Nodup) {t : Transfer} (ht : t ∈ l.transfers) :
    l.session? t.client = t.session := by
  refine Option.ext fun s => ?_
  rw [session?_eq_some h]
  constructor
  · rintro ⟨t', ht', hclient, hs⟩
    obtain rfl := List.inj_on_of_nodup_map h ht' ht hclient
    exact hs
  · exact fun hs => ⟨t, ht, rfl, hs⟩

/-- The sessions of two servers are the same if their transfers under way are. -/
theorem session?_congr (h : l.clients.Nodup) (h' : l'.clients.Nodup)
    (hmem : ∀ t : Transfer, t.session.isSome → t.client = client →
      (t ∈ l'.transfers ↔ t ∈ l.transfers)) : l'.session? client = l.session? client := by
  refine Option.ext fun s => ?_
  rw [session?_eq_some h, session?_eq_some h']
  constructor
  · rintro ⟨t, ht, hclient, hsession⟩
    exact ⟨t, (hmem t (by rw [hsession]; rfl) hclient).1 ht, hclient, hsession⟩
  · rintro ⟨t, ht, hclient, hsession⟩
    exact ⟨t, (hmem t (by rw [hsession]; rfl) hclient).2 ht, hclient, hsession⟩

/-- All but one client's transfers are the same. -/
theorem session?_update (h : l.clients.Nodup) (h' : l'.clients.Nodup)
    (hmem : ∀ t : Transfer, t.client ≠ client → (t ∈ l'.transfers ↔ t ∈ l.transfers)) :
    l'.session? = Function.update l.session? client (l'.session? client) := by
  funext other
  by_cases hother : other = client
  · rw [hother, Function.update_self]
  · rw [Function.update_of_ne hother]
    exact session?_congr h h' fun t _ hclient => hmem t (hclient ▸ hother)

/-! ### Striking off -/

theorem foldl_strike_alike (ended : List Transfer) (l : Listening) :
    l.Alike (ended.foldl (fun l t => l.strike t.ticket) l) := by
  induction ended generalizing l with
  | nil => exact .refl l
  | cons t rest ih =>
    have hstrike : l.Alike (l.strike t.ticket) := ⟨rfl, rfl, rfl, rfl, rfl⟩
    exact hstrike.trans (ih (l.strike t.ticket))

theorem mem_foldl_strike (ended : List Transfer) (l : Listening) (t : Transfer) :
    t ∈ (ended.foldl (fun l t => l.strike t.ticket) l).transfers ↔
      t ∈ l.transfers ∧ ∀ t' ∈ ended, t.ticket ≠ t'.ticket := by
  induction ended generalizing l with
  | nil => simp
  | cons t' rest ih =>
    rw [List.foldl_cons, ih, List.forall_mem_cons, strike, List.mem_filter, decide_eq_true_eq]
    exact and_assoc

theorem Enrolled.mem_sweep (h : l.Enrolled) (t : Transfer) :
    t ∈ l.sweep.transfers ↔ t ∈ l.transfers ∧ t.session.isSome := by
  unfold sweep
  rw [mem_foldl_strike]
  refine and_congr_right fun ht => ?_
  simp only [List.mem_filter, and_imp, Option.isNone_iff_eq_none]
  constructor
  · intro hdiffers
    cases hsession : t.session with
    | some s => rfl
    | none => exact absurd rfl (hdiffers t ht hsession)
  · rintro hsome t' ht' hnone heq
    obtain rfl := List.inj_on_of_nodup_map h.tickets ht ht' heq
    rw [hnone] at hsome
    exact nomatch hsome

theorem sweep_alike (l : Listening) : l.Alike l.sweep := foldl_strike_alike _ l

/-- There is nothing to strike off as long as no transfer has ended. -/
theorem sweep_of_live (h : ∀ t ∈ l.transfers, t.session.isSome) : l.sweep = l := by
  have hnone : (l.transfers.filter fun t => t.session.isNone) = [] := by
    rw [List.filter_eq_nil_iff]
    intro t ht hended
    rw [Option.isNone_iff_eq_none] at hended
    have hsome := h t ht
    rw [hended] at hsome
    exact nomatch hsome
  rw [sweep, hnone, List.foldl_nil]

/-! ### Ports -/

/-- Sessions are at ports in use, each at one of its own and none at one that was in use before
all of them. -/
structure Berths (base : List UInt16) (sessions : Endpoint → Option Session)
    (ports : List UInt16) : Prop where
  apart : ∀ {client other s t}, sessions client = some s → sessions other = some t →
    s.port = t.port → client = other
  held : ∀ {client s}, sessions client = some s → s.port ∈ ports ∧ s.port ∉ base
  base : base ⊆ ports

namespace Berths

variable {base ports ports' : List UInt16} {sessions : Endpoint → Option Session} {s' : Session}

/-- One client's session may be another, or none any more, if it is in no other's way. -/
theorem update (h : Berths base sessions ports) {session : Option Session}
    (hown : ∀ s ∈ session, s.port ∈ ports' ∧ s.port ∉ base ∧
      ∀ other t, other ≠ client → sessions other = some t → t.port ≠ s.port)
    (hothers : ∀ other t, other ≠ client → sessions other = some t → t.port ∈ ports')
    (hbase : base ⊆ ports') : Berths base (Function.update sessions client session) ports' := by
  constructor
  · intro c d s t hs ht hport
    rw [Function.update_apply] at hs ht
    split at hs
    · next hc =>
      split at ht
      · next hd => exact hc.trans hd.symm
      · next hd => exact absurd hport.symm ((hown s hs).2.2 d t hd ht)
    · next hc =>
      split at ht
      · exact absurd hport ((hown t ht).2.2 c s hc hs)
      · exact h.apart hs ht hport
  · intro c s hs
    rw [Function.update_apply] at hs
    split at hs
    · exact ⟨(hown s hs).1, (hown s hs).2.1⟩
    · next hc => exact ⟨hothers c s hc hs, (h.held hs).2⟩
  · exact hbase

/-- A session may be at a port that was free. -/
theorem enter (h : Berths base sessions ports) (hfree : s.port ∉ ports) :
    Berths base (Function.update sessions client (some s)) (s.port :: ports) := by
  refine h.update ?_ ?_ ?_
  · rintro _ ⟨⟩
    refine ⟨List.mem_cons_self, fun hbase => hfree (h.base hbase), ?_⟩
    exact fun other t _ ht heq => hfree (heq ▸ (h.held ht).1)
  · exact fun other t _ ht => List.mem_cons_of_mem _ (h.held ht).1
  · exact fun port hport => List.mem_cons_of_mem _ (h.base hport)

/-- A session stays at its port. -/
theorem stay (h : Berths base sessions ports) (hs : sessions client = some s)
    (hport : s'.port = s.port) : Berths base (Function.update sessions client (some s')) ports := by
  refine h.update ?_ (fun other t _ ht => (h.held ht).1) h.base
  rintro _ ⟨⟩
  rw [hport]
  exact ⟨(h.held hs).1, (h.held hs).2, fun other t hother ht heq => hother (h.apart ht hs heq)⟩

/-- A session that ends leaves its port. -/
theorem leave (h : Berths base sessions ports) (hs : sessions client = some s) :
    Berths base (Function.update sessions client none) (ports.erase s.port) := by
  refine h.update (fun _ hnone => nomatch hnone) ?_ ?_
  · intro other t hother ht
    exact (List.mem_erase_of_ne fun heq => hother (h.apart ht hs heq)).2 (h.held ht).1
  · intro port hport
    refine (List.mem_erase_of_ne ?_).2 (h.base hport)
    rintro rfl
    exact (h.held hs).2 hport

end Berths

/-! ### What becomes of the sessions -/

/-- A server with its sessions at ports of their own, of which none can begin again. -/
structure Tidy (base : List UInt16) (l : Listening) (host : Host) : Prop where
  sound : Serving.Sound l
  live : ∀ t ∈ l.transfers, t.session.isSome
  standing : ∀ {client s}, l.session? client = some s → ∃ opening, s.Standing opening
  berths : Berths base l.session? host.ports
  listens : l.port ∈ base
  calm : host.Calm

/-- A server that is stopping waits for some transfer. -/
def Busy (l : Listening) : Prop := l.stopping → l.transfers.isEmpty = false

/-- The server as it is when one client's session has changed. -/
structure Follows (l : Listening) (client : Endpoint) (session : Option Session)
    (l' : Listening) : Prop where
  alike : l.Alike l'
  sound : Serving.Sound l'
  live : ∀ t ∈ l'.transfers, t.session.isSome
  session? : l'.session? = Function.update l.session? client session

theorem Follows.sweep {session : Option Session} (halike : l.Alike l') (hsound : Serving.Sound l')
    (hsession : l'.session? = Function.update l.session? client session) :
    l.Follows client session l'.sweep := by
  have hl := hsound.1.enrolled
  refine ⟨halike.trans l'.sweep_alike, hsound.sweep, ?_, ?_⟩
  · exact fun t ht => ((hl.mem_sweep t).1 ht).2
  · rw [← hsession]
    funext other
    refine session?_congr hl.clients hsound.1.sweep.enrolled.clients fun t hsome _ => ?_
    rw [hl.mem_sweep]
    exact and_iff_left hsome

theorem rest_of_busy (h : l.Busy) (host : Host) : Serving.rest l host = (.listening l, host) := by
  refine if_neg fun hends => ?_
  rw [h hends.1] at hends
  exact nomatch hends.2

theorem rest_cases (l : Listening) (host : Host) :
    (l.Busy ∧ Serving.rest l host = (.listening l, host)) ∨
      (l.stopping ∧ l.transfers.isEmpty ∧
        Serving.rest l host = (.stopped, host.release l.port)) := by
  by_cases hends : l.stopping ∧ l.transfers.isEmpty
  · exact .inr ⟨hends.1, hends.2, if_pos hends⟩
  · refine .inl ⟨fun hstopping => ?_, if_neg hends⟩
    rw [← Bool.not_eq_true]
    exact fun hempty => hends ⟨hstopping, hempty⟩

theorem settle_of_busy (hlive : ∀ t ∈ l.transfers, t.session.isSome) (h : l.Busy) (host : Host) :
    Serving.settle l host = (.listening l, host) := by
  change Serving.rest l.sweep host = _
  rw [sweep_of_live hlive, rest_of_busy h]

/-- A server begins just the session that it may open. -/
theorem begin_of_open? {packet : Packet} {result : Run × Host × List Deed}
    (h : l.open? packet client host = some result) :
    l.begin packet client host = (sessionOf result.1, result.2) := by
  rw [open?] at h
  split at h
  · exact nomatch h
  · next hbind =>
    rw [begin, hbind, ← Option.some.inj h]
    rfl

/-- The session is at the next port, if it can be had. -/
theorem open?_eq (l : Listening) (packet : Packet) (client : Endpoint) (host : Host) :
    l.open? packet client host =
      if host.bindFault (l.timing.localIp.getD client.ip.unspecified) = none ∧
          UInt16.ofNat host.nextPort ∉ host.ports then
        some (Run.start
          (.server l.service (.ofNat host.nextPort) client l.timing (host.clock + 1))
          (.answer packet client) host.berth)
      else none := by
  unfold open? Host.bindFor Host.bind
  cases host.bindFault (l.timing.localIp.getD client.ip.unspecified) with
  | some f => rfl
  | none =>
    by_cases hport : UInt16.ofNat host.nextPort ∈ host.ports
    · simp [Host.choosePort, hport]
    · simp [Host.choosePort, hport, Host.readClock, Host.berth]

/-- What is a client's reaches it at its port. -/
theorem meet_of_session? (hs : l.session? client = some s) (arrival : Arrival) (host : Host) :
    (Serving.listening l).meet (.arrival client arrival) host =
      (Serving.listening l).receive s.port arrival host := by
  simp only [Serving.meet, Serving.event?, Serving.listening?, hs, Option.bind_eq_bind,
    Option.bind_some, Option.pure_def]
  rfl

/-- A request reaches the server at its listening port. -/
theorem meet_of_request (l : Listening) (client : Endpoint) (bytes : Bytes) (host : Host) :
    (Serving.listening l).meet (.request client bytes) host =
      if l.stopping then (.listening l, host, [])
      else
        let (m, left, deeds) := l.accept client bytes host
        ((Serving.settle m left).1, (Serving.settle m left).2, deeds) := by
  change (Serving.listening l).receive l.port (.datagram client bytes) host = _
  unfold Serving.receive
  exact if_neg fun hne => hne rfl

theorem taken?_eq_some {bytes : Bytes} {packet : Packet} :
    l.taken? (.request client bytes) = some packet ↔
      ¬ l.stopping ∧ l.roster.contains client = false ∧
        Packet.decode (bytes.take longestRequest) = .ok packet := by
  rw [taken?, ← Bool.not_eq_true (l.roster.contains client), ← and_assoc, ← not_or]
  split
  · next hrefused => exact iff_of_false nofun fun h => h.1 hrefused
  · next hadmits =>
    rw [and_iff_right hadmits]
    cases Packet.decode (bytes.take longestRequest) with
    | error m => exact iff_of_false nofun nofun
    | ok packet' => exact ⟨fun h => congrArg _ (Option.some.inj h), fun h => by cases h; rfl⟩

/-- What is not taken up makes no difference. -/
theorem accept_of_taken?_eq_none {bytes : Bytes} (htaken : l.taken? (.request client bytes) = none)
    (hstopping : ¬ l.stopping) : l.accept client bytes host = (l, host, []) := by
  cases hcontains : l.roster.contains client with
  | true => exact accept_of_contains hcontains
  | false =>
    cases hread : Packet.decode (bytes.take longestRequest) with
    | error m => exact accept_of_malformed hread
    | ok packet =>
      exact nomatch htaken.symm.trans (taken?_eq_some.2 ⟨hstopping, hcontains, hread⟩)

/-- Silence at the listening port is not heeded. -/
theorem receive_silence (l : Listening) (host : Host) :
    (Serving.listening l).receive l.port .silence host = (.listening l, host, []) := by
  unfold Serving.receive
  simp

/-- The ports are given back, whatever files there are. -/
theorem releaseAll_store (l : Listening) (host : Host) (store : Store) :
    l.releaseAll { host with store } = { l.releaseAll host with store } := by
  have hfold : ∀ (sessions : List Session) (host : Host),
      sessions.foldl (fun host s => host.release s.port) { host with store } =
        { sessions.foldl (fun host s => host.release s.port) host with store } := by
    intro sessions
    induction sessions with
    | nil => exact fun _ => rfl
    | cons s rest ih => exact fun host => ih (host.release s.port)
  exact hfold _ (host.release l.port)

namespace Tidy

variable {base : List UInt16} {incident : Incident} {result : Run × Host × List Deed}

theorem enrolled (h : l.Tidy base host) : l.Enrolled := h.sound.1.enrolled

/-- A server is tidy before its first request. -/
theorem of_nil (htransfers : l.transfers = []) (hroster : l.roster = {})
    (hport : l.port ∈ host.ports) (hcalm : host.Calm) : l.Tidy host.ports host := by
  have hnone : ∀ client, l.session? client = none := by
    intro client
    rw [session?, htransfers]
    rfl
  have hnever : ∀ {client s}, l.session? client ≠ some s := by
    intro client s hs
    rw [hnone] at hs
    exact nomatch hs
  refine ⟨⟨.idle htransfers hroster, ?_⟩, ?_, fun hs => absurd hs hnever, ?_, hport, hcalm⟩
  · rw [Ticketed, htransfers]
    exact fun t ht => absurd ht List.not_mem_nil
  · rw [htransfers]
    exact fun t ht => absurd ht List.not_mem_nil
  · exact ⟨fun hs => absurd hs hnever, fun hs => absurd hs hnever, fun _ hport => hport⟩

/-- What a server is told does not matter to its sessions. -/
theorem told (h : l.Tidy base host) (shutdown : Shutdown) (stopping : Bool) :
    ({ l with shutdown, stopping } : Listening).Tidy base host :=
  ⟨⟨h.sound.1.step (.told shutdown stopping), h.sound.2⟩, h.live, h.standing, h.berths, h.listens,
    h.calm⟩

/-- Nor does the time. -/
theorem clock (h : l.Tidy base host) (time : Nat) : l.Tidy base { host with clock := time } :=
  ⟨h.sound, h.live, h.standing, h.berths, h.listens, h.calm⟩

/-- Whoever has a session is on the roster. -/
theorem contains_eq (h : l.Tidy base host) (client : Endpoint) :
    l.roster.contains client = (l.session? client).isSome := by
  rw [Bool.eq_iff_iff, h.enrolled.contains_iff, Option.isSome_iff_exists]
  constructor
  · intro hclient
    obtain ⟨t, ht, rfl⟩ := List.mem_map.1 hclient
    rw [session?_of_mem h.enrolled.clients ht]
    exact Option.isSome_iff_exists.1 (h.live t ht)
  · rintro ⟨s, hs⟩
    obtain ⟨t, ht, hclient, -⟩ := (session?_eq_some h.enrolled.clients).1 hs
    exact List.mem_map.2 ⟨t, ht, hclient⟩

/-- A server without transfers has no session. -/
theorem isEmpty_iff (h : l.Tidy base host) :
    l.transfers.isEmpty = true ↔ ∀ client, l.session? client = none := by
  rw [List.isEmpty_iff]
  constructor
  · intro hnil client
    rw [session?, hnil]
    rfl
  · intro hnone
    refine List.eq_nil_iff_forall_not_mem.2 fun t ht => ?_
    have hlive := h.live t ht
    rw [← session?_of_mem h.enrolled.clients ht, hnone] at hlive
    exact nomatch hlive

/-- No session is at the listening port. -/
theorem port_ne (h : l.Tidy base host) (hs : l.session? client = some s) : s.port ≠ l.port := by
  intro heq
  exact (h.berths.held hs).2 (heq ▸ h.listens)

/-- The session at a port is found. -/
theorem client?_eq_some (h : l.Tidy base host) {port : UInt16}
    (hclient : l.client? port = some client) :
    ∃ s, l.session? client = some s ∧ s.port = port := by
  rw [client?, Option.map_eq_some_iff] at hclient
  obtain ⟨t, hfind, rfl⟩ := hclient
  have hport := List.find?_some hfind
  rw [Option.any_eq_true] at hport
  obtain ⟨s, hs, hport⟩ := hport
  have ht := session?_of_mem h.enrolled.clients (List.mem_of_find?_eq_some hfind)
  exact ⟨s, ht.trans hs, of_decide_eq_true hport⟩

/-- What reaches a port of nobody's is let pass. -/
theorem receive_of_client?_eq_none (h : l.Tidy base host) (hbusy : l.Busy) {port : UInt16}
    (hlistening : port ≠ l.port) (hclient : l.client? port = none) (arrival : Arrival) :
    (Serving.listening l).receive port arrival host = (.listening l, host, []) := by
  rw [client?, Option.map_eq_none_iff, List.find?_eq_none] at hclient
  unfold Serving.receive
  dsimp only
  rw [if_pos hlistening]
  rcases forward_cases port arrival l.transfers with ⟨heq, -⟩ |
    ⟨before, t, after, s, htransfers, hsession, hport, -, -⟩
  · rw [heq]
    change ((Serving.settle l host).1, (Serving.settle l host).2, []) = _
    rw [settle_of_busy h.live hbusy]
  · refine absurd ?_ (hclient t (htransfers ▸ List.mem_append_right _ List.mem_cons_self))
    rw [hsession]
    exact decide_eq_true hport

/-- **Incidents for events.**  A server makes of an incident what it makes of the event. -/
theorem meet_incident (h : l.Tidy base host) (hbusy : l.Busy) (event : Event) :
    (Serving.listening l).meet ((Serving.listening l).incident event) host =
      (Serving.listening l).step event host := by
  cases event with
  | stop | interrupt | deaf => rfl
  | arrival port arrival =>
    unfold Serving.incident
    dsimp only
    split
    · next hlistening =>
      rw [hlistening]
      cases arrival with
      | datagram | fault => rfl
      | silence => exact (receive_silence l host).symm
    · next hlistening =>
      cases hclient : l.client? port with
      | none => exact (h.receive_of_client?_eq_none hbusy hlistening hclient arrival).symm
      | some client =>
        obtain ⟨s, hs, rfl⟩ := h.client?_eq_some hclient
        exact meet_of_session? hs arrival host

/-- If no session comes of an incident, nothing does. -/
theorem meet_none (h : l.Tidy base host) (hbusy : l.Busy) (hclient : incident.client? = some client)
    (hrun : l.run? incident host = none) (hbound : ¬ l.Unbound incident host) :
    (Serving.listening l).meet incident host = (.listening l, host, []) := by
  have htaken : l.taken? incident = none := by
    rw [← Option.not_isSome_iff_eq_none]
    exact fun hsome => hbound ⟨hsome, hrun⟩
  cases incident with
  | request other bytes =>
    rw [meet_of_request]
    split
    · rfl
    · next hstopping =>
      rw [accept_of_taken?_eq_none htaken hstopping]
      dsimp only
      rw [settle_of_busy h.live hbusy]
  | arrival other arrival =>
    rw [run?, Option.map_eq_none_iff] at hrun
    simp only [Serving.meet, Serving.event?, Serving.listening?, hrun, Option.bind_eq_bind,
      Option.bind_some, Option.bind_none]
  | fault | stop | interrupt | deaf | stray => exact nomatch hclient

/-- A request that is taken up begins its client's session. -/
theorem meet_request (h : l.Tidy base host) {bytes : Bytes}
    (hrun : l.run? (.request client bytes) host = some result) :
    ∃ l', l.Follows client (sessionOf result.1) l' ∧
      (Serving.listening l).meet (.request client bytes) host =
        ((Serving.rest l' result.2.1).1, (Serving.rest l' result.2.1).2, result.2.2) := by
  rw [run?, Option.bind_eq_some_iff] at hrun
  obtain ⟨packet, htaken, hopen⟩ := hrun
  obtain ⟨hstopping, hcontains, hread⟩ := taken?_eq_some.1 htaken
  have haccept : l.accept client bytes host = _ := accept_of_decode hcontains hread
  rw [begin_of_open? hopen] at haccept
  have hclient : client ∉ l.clients := by
    rw [← h.enrolled.contains_iff, hcontains]
    exact Bool.false_ne_true
  have hsound := h.sound.accept client bytes host
  refine ⟨(l.accept client bytes host).1.sweep, .sweep ?_ hsound ?_, ?_⟩
  · rw [haccept]
    exact ⟨rfl, rfl, rfl, rfl, rfl⟩
  · have hclients := hsound.1.enrolled.clients
    rw [haccept] at hclients ⊢
    rw [session?_update h.enrolled.clients hclients]
    · congr 1
      exact session?_of_mem hclients (List.mem_append_right _ List.mem_cons_self)
    · intro t hother
      rw [List.mem_append, List.mem_singleton]
      refine or_iff_left ?_
      rintro rfl
      exact hother rfl
  · rw [meet_of_request, if_neg hstopping, haccept]
    rfl

/-- What reaches the port of a session goes on with it. -/
theorem meet_arrival (h : l.Tidy base host) {arrival : Arrival}
    (hs : l.session? client = some s) (hresult : (Run.waiting s).step arrival host = result) :
    ∃ l', l.Follows client (sessionOf result.1) l' ∧
      (Serving.listening l).meet (.arrival client arrival) host =
        ((Serving.rest l' result.2.1).1, (Serving.rest l' result.2.1).2, result.2.2) := by
  rw [meet_of_session? hs]
  unfold Serving.receive
  dsimp only
  rw [if_pos (h.port_ne hs)]
  rcases forward_cases s.port arrival l.transfers with ⟨-, hnobody⟩ |
    ⟨before, t, after, session, htransfers, hsession, hport, -, heq⟩
  · obtain ⟨t, ht, -, hsession⟩ := (session?_eq_some h.enrolled.clients).1 hs
    exact absurd rfl (hnobody t ht s hsession)
  · have ht : t ∈ l.transfers := htransfers ▸ List.mem_append_right _ List.mem_cons_self
    have hown := (session?_of_mem h.enrolled.clients ht).trans hsession
    obtain rfl : t.client = client := h.berths.apart hown hs hport
    obtain rfl : session = s := Option.some.inj (hown.symm.trans hs)
    rw [heq, hresult]
    let l₁ := { l with transfers := before ++ { t with session := sessionOf result.1 } :: after }
    have hsound : Serving.Sound l₁ := h.sound.moves htransfers (by simp [hsession]) _
    have hclients := hsound.1.enrolled.clients
    refine ⟨l₁.sweep, .sweep ⟨rfl, rfl, rfl, rfl, rfl⟩ hsound ?_, rfl⟩
    rw [session?_update h.enrolled.clients hclients]
    · congr 1
      exact session?_of_mem hclients (List.mem_append_right _ List.mem_cons_self)
    · intro t' hother
      simp only [l₁, htransfers, List.mem_append, List.mem_cons]
      refine or_congr_right (or_congr_left ⟨?_, ?_⟩)
      · rintro rfl
        exact absurd rfl hother
      · rintro rfl
        exact absurd rfl hother

/-- If a session comes of an incident, the server is left with that in its client's place. -/
theorem meet_some (h : l.Tidy base host) (hclient : incident.client? = some client)
    (hrun : l.run? incident host = some result) :
    ∃ l', l.Follows client (sessionOf result.1) l' ∧
      (Serving.listening l).meet incident host =
        ((Serving.rest l' result.2.1).1, (Serving.rest l' result.2.1).2, result.2.2) := by
  cases incident with
  | request other bytes =>
    obtain rfl := Option.some.inj hclient
    exact h.meet_request hrun
  | arrival other arrival =>
    obtain rfl := Option.some.inj hclient
    obtain ⟨s, hs, hresult⟩ := Option.map_eq_some_iff.1 hrun
    exact h.meet_arrival hs hresult
  | fault | stop | interrupt | deaf | stray => exact nomatch hclient

end Tidy

end Listening

namespace Serving

variable {serving : Serving} {l : Listening} {base : List UInt16} {host : Host}

theorem listening?_eq_some (h : serving = .listening l) : l ∈ serving.listening? := by
  rw [h]
  rfl

/-- Nothing becomes of a server that has ended. -/
theorem meet_of_isEnded (h : serving.isEnded) (incident : Incident) (host : Host) :
    serving.meet incident host = (serving, host, []) := by
  cases serving with
  | listening => exact nomatch h
  | stopped | failed => cases incident <;> rfl

theorem order_of_isEnded (h : serving.isEnded) (cause : Shutdown) (host : Host) :
    serving.order cause host = (serving, host) := by
  cases serving with
  | listening => exact nomatch h
  | stopped | failed => rfl

theorem step_of_isEnded (h : serving.isEnded) (event : Event) (host : Host) :
    serving.step event host = (serving, host, []) := by
  cases serving with
  | listening => exact nomatch h
  | stopped | failed => cases event <;> rfl

/-- A server that is told to end strikes nothing off. -/
theorem order_listening (hl : l.Tidy base host) (cause : Shutdown) :
    (listening l).order cause host =
      if l.shutdown = cause ∧ cause ≠ .never then rest { l with stopping := true } host
      else (listening l, host) := by
  change (ite _ (rest (Listening.sweep _) host) _ : Serving × Host) = _
  rw [Listening.sweep_of_live (l := { l with stopping := true }) hl.live]

theorem store_releaseAll (l : Listening) (host : Host) :
    (l.releaseAll host).store = host.store :=
  congrArg (·.store) (l.releaseAll_store host host.store)

end Serving

end TrivialFtp
