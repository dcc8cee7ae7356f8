import TrivialFtp.Proofs.Incidents

/-!
# Proofs: one client alone

A server with many clients, and the same server on another host with one of them.  Whatever comes
of an incident of another client on the first host, the second one mirrors it as it is; and what
comes of the client's own incident comes of it on both.

- `Run.Leaves`: what a session leaves of its host.
- `Listening.Tidy.follow`: sessions stay at ports of their own.
- `Listening.Tidy.undisturbed`: what another client's incident leaves.
- `Listening.Mirrors`, `Listening.Mirrors.run_twins`, `Listening.Mirrors.follow`: the two servers,
  and what comes of the client's incident.
-/

namespace TrivialFtp

variable {P : String → Prop} {base : List UInt16} {client other : Endpoint} {incident : Incident}

/-! ### What a session leaves for others -/

/-- The session writes no file of a kind. -/
def Session.Spares (P : String → Prop) (s : Session) : Prop :=
  ∀ path, s.stream = .writing (.file path) → ¬ P path

/-- A run beside itself, which leaves the files of a kind as they are. -/
def Bond.solo (P : String → Prop) (role : Role) (port : UInt16) (host : Host)
    (hcalm : host.Calm) : Bond where
  role
  left := host
  right := host
  leftPort := port
  rightPort := port
  calm := ⟨hcalm, hcalm⟩
  allowed path := ¬ P path
  agree store store' :=
    store' = store ∧ ∀ path, P path → store.find? path = host.store.find? path
  find? hagree _ := by rw [hagree.1]
  set node hagree hallowed := by
    refine ⟨by rw [hagree.1], fun other hother => ?_⟩
    rw [Store.find?_set, if_neg]
    · exact hagree.2 other hother
    · rintro rfl
      exact hallowed hother

namespace Run

/-- What a session at a port leaves of its host: it waits at its port or gives it back, and the
files of a kind are as they were. -/
inductive Leaves (P : String → Prop) (port : UInt16) (host : Host) :
    Run × Host × List Deed → Prop where
  | waiting {s : Session} {host' : Host} {deeds : List Deed} (timeout : Nat)
      (hport : s.port = port) (hspares : s.Spares P) (hkeeps : host.Keeps host')
      (hstore : ∀ path, P path → host'.store.find? path = host.store.find? path) :
    Leaves P port host (.waiting s, host'.wait timeout, deeds)
  | ended {host' : Host} {deeds : List Deed} (ending : Ending) (hkeeps : host.Keeps host')
      (hstore : ∀ path, P path → host'.store.find? path = host.store.find? path) :
    Leaves P port host (.ended ending, host'.release port, deeds)

variable {port : UInt16} {host : Host} {role : Role} {s : Session}

theorem leaves_of_level {hcalm : host.Calm} {result result' : Run × Host × List Deed}
    (h : Level (.solo P role port host hcalm) result result') : Leaves P port host result := by
  cases h with
  | waiting timeout h => exact .waiting timeout h.port h.writes h.left h.store.2
  | ended ending h => exact .ended ending h.left h.store.2

theorem pairs_solo (hcalm : host.Calm) (hs : s.Spares P) :
    (Bond.solo P s.role s.port host hcalm).Pairs ⟨s, host, []⟩ ⟨s, host, []⟩ :=
  ⟨rfl, rfl, rfl, hs, rfl, .refl _, .refl _, ⟨rfl, fun _ _ => rfl⟩, rfl⟩

theorem step_leaves (hcalm : host.Calm) (hs : s.Spares P) (hphase : s.phase ≠ .idle)
    (arrival : Arrival) : Leaves P s.port host ((waiting s).step arrival host) :=
  leaves_of_level (step_level (pairs_solo hcalm hs) hphase arrival)

/-- A server's session that is opened leaves a file as it is unless it makes it. -/
theorem start_leaves (hcalm : host.Calm) {service : Service} {packet : Packet} {source : Endpoint}
    (hs : s.Spares P) (hrole : s.role = .serve service)
    (hmade : ∀ path ∈ service.target? packet, (host.store.create path).isOk → ¬ P path) :
    Leaves P s.port host (start s (.answer packet source) host) := by
  refine leaves_of_level (start_level source (pairs_solo hcalm hs) ⟨?_, ?_⟩)
  · exact fun _ _ _ _ _ store store' hagree => by rw [hagree.1]
  · intro _ service' hservice path hpath store store' hagree
    obtain rfl : service = service' := by
      rw [Bond.solo, hrole] at hservice
      exact Option.some.inj hservice
    obtain ⟨rfl, hsame⟩ := hagree
    by_cases hP : P path
    · -- The file is of the kind, so that it was not to be made when the session began.
      rcases Store.create_congr (hsame path hP) with ⟨f, -, h⟩ | ⟨node, h, -⟩
      · exact .inl ⟨f, h, h⟩
      · exact absurd hP (hmade path hpath (by rw [h]; rfl))
    · exact Bond.makes_of_allowed (b := .solo P s.role s.port host hcalm) hP ⟨rfl, hsame⟩

end Run

namespace Listening

variable {l l' : Listening} {host host' : Host} {s : Session} {result : Run × Host × List Deed}

/-- No other client's session writes a file of a kind. -/
def OthersSpare (client : Endpoint) (P : String → Prop) (l : Listening) : Prop :=
  ∀ other s, other ≠ client → l.session? other = some s → s.Spares P

/-- The session that an incident goes on with or begins, and the host that it finds. -/
inductive Begun (l : Listening) (client : Endpoint) (host : Host) : Session → Host → Prop where
  | on {s : Session} (hs : l.session? client = some s) : Begun l client host s host
  | new (hfree : UInt16.ofNat host.nextPort ∉ host.ports) :
    Begun l client host
      (.server l.service (.ofNat host.nextPort) client l.timing (host.clock + 1)) host.berth

theorem Begun.berths (h : l.Begun client host s host') (hl : Berths base l.session? host.ports) :
    Berths base (Function.update l.session? client (some s)) host'.ports := by
  cases h with
  | on hs =>
    rw [← hs, Function.update_eq_self]
    exact hl
  | new hfree =>
    exact hl.enter (s := .server l.service (.ofNat host.nextPort) client l.timing (host.clock + 1))
      hfree

namespace Tidy

/-- What comes of an incident is what comes of a session that is in standing or just begun. -/
theorem begun (h : l.Tidy base host) (hclient : incident.client? = some client)
    (hrun : l.run? incident host = some result)
    (hspares : ∀ s, l.session? client = some s → s.Spares P)
    (hmade : ∀ path, l.made? incident host = some path → ¬ P path) :
    ∃ s host', l.Begun client host s host' ∧ Run.Leaves P s.port host' result ∧
      ∀ s', result.1 = .waiting s' → ∃ opening, s'.Standing opening := by
  cases incident with
  | request other bytes =>
    obtain rfl := Option.some.inj hclient
    obtain ⟨packet, htaken, hopen⟩ := Option.bind_eq_some_iff.1 hrun
    rw [open?_eq] at hopen
    split at hopen
    · next hfree =>
      obtain rfl := Option.some.inj hopen
      have hcalm : host.berth.Calm := h.calm
      refine ⟨_, _, .new hfree.2, Run.start_leaves hcalm ?_ rfl ?_, ?_⟩
      · exact fun _ hclosed => nomatch hclosed
      · intro path hpath hcreate
        refine hmade path ?_
        rw [made?, htaken, Option.bind_some, hpath, Option.filter_some]
        exact if_pos hcreate
      · intro s' hwaiting
        obtain ⟨scene, hopened, hphase, rfl⟩ := (Run.start_outcome _ _ _).waiting hwaiting
        exact ⟨_, hopened.standing .serve hphase⟩
    · exact nomatch hopen
  | arrival other arrival =>
    obtain rfl := Option.some.inj hclient
    obtain ⟨s, hs, rfl⟩ := Option.map_eq_some_iff.1 hrun
    obtain ⟨opening, hstanding⟩ := h.standing hs
    have hleaves := Run.step_leaves h.calm (hspares s hs) (Standing.ne_idle hstanding) arrival
    refine ⟨s, host, .on hs, hleaves, fun s' hwaiting => ?_⟩
    obtain ⟨scene, hmove, hphase, rfl⟩ := (Run.step_outcome _ _ _).waiting hwaiting
    exact ⟨opening, hmove.standing hstanding hphase⟩
  | fault | stop | interrupt | deaf | stray => exact nomatch hclient

/-- What comes of an incident leaves the sessions at ports of their own. -/
theorem follow (h : l.Tidy base host) (hclient : incident.client? = some client)
    (hrun : l.run? incident host = some result)
    (hfollows : l.Follows client (sessionOf result.1) l') : l'.Tidy base result.2.1 := by
  have hnone : ∀ s, l.session? client = some s → s.Spares fun _ => False :=
    fun _ _ _ _ hfalse => hfalse
  obtain ⟨s, host', hbegun, hleaves, hstanding⟩ :=
    h.begun hclient hrun hnone fun _ _ hfalse => hfalse
  have hberths := hbegun.berths h.berths
  have hself : Function.update l.session? client (some s) client = some s :=
    Function.update_self ..
  have hcalm : host'.Calm := by
    cases hbegun with
    | on | new => exact h.calm
  refine ⟨hfollows.sound, hfollows.live, ?_, ?_, ?_, ?_⟩
  · intro other t ht
    rw [hfollows.session?, Function.update_apply] at ht
    split at ht
    · refine hstanding t ?_
      cases hrun : result.1 with
      | waiting s' => rw [hrun] at ht; rw [Option.some.inj ht]
      | ended => rw [hrun] at ht; exact nomatch ht
    · exact h.standing ht
  · rw [hfollows.session?]
    cases hleaves with
    | waiting timeout hport _ hkeeps _ =>
      have hstay := hberths.stay hself hport
      rwa [Function.update_idem, ← hkeeps.ports] at hstay
    | ended ending hkeeps _ =>
      have hleave := hberths.leave hself
      rwa [Function.update_idem, ← hkeeps.ports] at hleave
  · rw [hfollows.alike.port]
    exact h.listens
  · cases hleaves with
    | waiting timeout _ _ hkeeps _ =>
      exact fun n => (congrFun hkeeps.sendFault n).trans (hcalm n)
    | ended ending hkeeps _ => exact fun n => (congrFun hkeeps.sendFault n).trans (hcalm n)

end Tidy

end Listening

/-! ### Two hosts -/

/-- A host on which a server serves many clients, and one on which it serves one of them: files of
a kind are the same, and every port that was given out on the first is free on the second. -/
structure Host.Shadows (P : String → Prop) (base : List UInt16) (host host' : Host) : Prop where
  calm : host.Calm ∧ host'.Calm
  bindFault : host'.bindFault = host.bindFault
  next : host'.nextPort ≤ host.nextPort
  free : ∀ n, host'.nextPort ≤ n → n < host.nextPort → UInt16.ofNat n ∉ base
  store : ∀ path, P path → host'.store.find? path = host.store.find? path

namespace Host.Shadows

variable {host host' left right : Host}

/-- Sessions act on both hosts. -/
theorem keeps (h : host.Shadows P base host') (hleft : host.Keeps left) (hright : host'.Keeps right)
    (hstore : ∀ path, P path → right.store.find? path = left.store.find? path) :
    left.Shadows P base right where
  calm := ⟨fun n => (congrFun hleft.sendFault n).trans (h.calm.1 n),
    fun n => (congrFun hright.sendFault n).trans (h.calm.2 n)⟩
  bindFault := by rw [hright.bindFault, hleft.bindFault, h.bindFault]
  next := by rw [hright.nextPort, hleft.nextPort]; exact h.next
  free := by rw [hright.nextPort, hleft.nextPort]; exact h.free
  store := hstore

/-- A port is taken on the first host. -/
theorem berth_left (h : host.Shadows P base host') (hfree : UInt16.ofNat host.nextPort ∉ base) :
    host.berth.Shadows P base host' where
  calm := h.calm
  bindFault := h.bindFault
  next := Nat.le_succ_of_le h.next
  free n hle hlt := by
    rcases Nat.lt_succ_iff_lt_or_eq.1 hlt with hlt | rfl
    · exact h.free n hle hlt
    · exact hfree
  store := h.store

/-- A port is taken on each host. -/
theorem berth (h : host.Shadows P base host') (hfree : UInt16.ofNat host.nextPort ∉ base) :
    host.berth.Shadows P base host'.berth where
  calm := h.calm
  bindFault := h.bindFault
  next := Nat.succ_le_succ h.next
  free n hle hlt := (h.berth_left hfree).free n (Nat.le_of_succ_le hle) hlt
  store := h.store

/-- Time passes on the two hosts. -/
theorem clock (h : host.Shadows P base host') (time time' : Nat) :
    ({ host with clock := time } : Host).Shadows P base { host' with clock := time' } :=
  { h with }

end Host.Shadows

/-- A session on two hosts with the same files of a kind. -/
def Bond.between (P : String → Prop) (role : Role) (host host' : Host) (port port' : UInt16)
    (hcalm : host.Calm ∧ host'.Calm) : Bond where
  role
  left := host
  right := host'
  leftPort := port
  rightPort := port'
  calm := hcalm
  allowed := P
  agree store store' := ∀ path, P path → store'.find? path = store.find? path
  find? hagree hpath := hagree _ hpath
  set node hagree _ := by
    intro other hother
    rw [Store.find?_set, Store.find?_set, hagree other hother]

theorem Bond.pairs_between {host host' : Host} (hcalm : host.Calm ∧ host'.Calm) {s : Session}
    (hs : ∀ path, s.stream = .writing (.file path) → P path) (port' : UInt16)
    (hclock : host'.clock = host.clock)
    (hstore : ∀ path, P path → host'.store.find? path = host.store.find? path) :
    (Bond.between P s.role host host' s.port port' hcalm).Pairs ⟨s, host, []⟩
      ⟨s.moved port', host', []⟩ :=
  ⟨rfl, rfl, rfl, hs, hclock, .refl _, .refl _, hstore, rfl⟩

/-- One session comes of an incident on both hosts, and on the second there is no other. -/
inductive Run.Twins (P : String → Prop) (base : List UInt16) :
    Run × Host × List Deed → Run × Host × List Deed → Prop where
  | intro {role : Role} {left right : Host} {port port' : UInt16}
      {hcalm : left.Calm ∧ right.Calm} {result result' : Run × Host × List Deed}
      (hshadows : left.Shadows P base right) (hports : right.ports = port' :: base)
      (hlevel : Run.Level (.between P role left right port port' hcalm) result result') :
    Twins P base result result'

namespace Listening

/-- A server on a host, and the same server on another host with one client alone. -/
structure Mirrors (client : Endpoint) (P : String → Prop) (base : List UInt16) (l : Listening)
    (host : Host) (l' : Listening) (host' : Host) : Prop where
  tidy : l.Tidy base host
  alone : l'.Tidy base host'
  alike : l.Alike l'
  others : l.OthersSpare client P
  own : ∀ s path, l.session? client = some s → s.stream = .writing (.file path) → P path
  session : ∃ port, l'.session? =
    Function.update (fun _ => none) client ((l.session? client).map (·.moved port))
  ports : host'.ports = ((l'.session? client).map Session.port).toList ++ base
  hosts : host.Shadows P base host'

namespace Mirrors

variable {l l' m m' : Listening} {host host' : Host}

/-- Before the first request a server mirrors itself. -/
theorem of_nil (htransfers : l.transfers = []) (hroster : l.roster = {})
    (hport : l.port ∈ host.ports) (hcalm : host.Calm) :
    Mirrors client P host.ports l host l host := by
  have htidy : l.Tidy host.ports host := .of_nil htransfers hroster hport hcalm
  have hnone : l.session? = fun _ => none := by
    funext other
    rw [session?, htransfers]
    rfl
  refine ⟨htidy, htidy, .refl l, ?_, ?_, ⟨0, ?_⟩, ?_, ⟨⟨hcalm, hcalm⟩, rfl, Nat.le_refl _, ?_, ?_⟩⟩
  · rw [OthersSpare, hnone]
    rintro _ _ _ ⟨⟩
  · rw [hnone]
    rintro _ _ ⟨⟩
  · rw [hnone]
    exact (Function.update_eq_self client _).symm
  · rw [hnone]
    rfl
  · exact fun n hle hlt => absurd hle (Nat.not_le.2 hlt)
  · exact fun _ _ => rfl

/-- Both servers are told the same. -/
theorem told (h : Mirrors client P base l host l' host') {shutdown shutdown' : Shutdown}
    {stopping stopping' : Bool} (hshutdown : shutdown' = shutdown)
    (hstopping : stopping' = stopping) :
    Mirrors client P base { l with shutdown, stopping } host
      { l' with shutdown := shutdown', stopping := stopping' } host' :=
  ⟨h.tidy.told shutdown stopping, h.alone.told shutdown' stopping',
    ⟨h.alike.port, h.alike.service, h.alike.timing, hshutdown, hstopping⟩, h.others, h.own,
    h.session, h.ports, h.hosts⟩

/-- Time passes on the two hosts. -/
theorem clock (h : Mirrors client P base l host l' host') (time time' : Nat) :
    Mirrors client P base l { host with clock := time } l' { host' with clock := time' } :=
  ⟨h.tidy.clock time, h.alone.clock time', h.alike, h.others, h.own, h.session, h.ports,
    h.hosts.clock time time'⟩

/-- The two servers have a session with the client or they have not. -/
theorem isSome_session? (h : Mirrors client P base l host l' host') :
    (l'.session? client).isSome = (l.session? client).isSome := by
  obtain ⟨port, hsession⟩ := h.session
  rw [hsession, Function.update_self, Option.isSome_map]

theorem session?_eq_none_iff (h : Mirrors client P base l host l' host') :
    l'.session? client = none ↔ l.session? client = none := by
  rw [← Option.not_isSome_iff_eq_none, ← Option.not_isSome_iff_eq_none, h.isSome_session?]

/-- As long as the client alone keeps its server from ending, so it does among others. -/
theorem busy (h : Mirrors client P base l host l' host') (hbusy : l'.Busy) : l.Busy := by
  intro hstopping
  have hsome := hbusy (h.alike.stopping.trans hstopping)
  rw [← Bool.not_eq_true, h.alone.isEmpty_iff] at hsome
  rw [← Bool.not_eq_true, h.tidy.isEmpty_iff]
  refine fun hnone => hsome fun other => ?_
  obtain ⟨port, hsession⟩ := h.session
  rw [hsession, hnone, Function.update_apply]
  split <;> rfl

theorem taken?_eq (h : Mirrors client P base l host l' host')
    (hclient : incident.client? = some client) : l'.taken? incident = l.taken? incident := by
  cases incident with
  | request other bytes =>
    obtain rfl := Option.some.inj hclient
    rw [taken?, taken?, h.alike.stopping, h.alone.contains_eq, h.tidy.contains_eq,
      h.isSome_session?]
  | arrival | fault | stop | interrupt | deaf | stray => rfl

/-- A client without a session takes up no port on the host that it has to itself. -/
theorem ports_of_taken (h : Mirrors client P base l host l' host') {bytes : Bytes}
    {packet : Packet} (htaken : l.taken? (.request client bytes) = some packet) :
    host'.ports = base := by
  have hnone : l'.session? client = none := by
    rw [h.session?_eq_none_iff, ← Option.not_isSome_iff_eq_none, ← h.tidy.contains_eq,
      Bool.not_eq_true]
    exact (taken?_eq_some.1 htaken).2.1
  rw [h.ports, hnone]
  rfl

/-- A session that begins with the client's request begins on both hosts. -/
theorem open_twins (h : Mirrors client P base l host l' host') (hclock : host'.clock = host.clock)
    {bytes : Bytes} {packet : Packet} (htaken : l.taken? (.request client bytes) = some packet)
    (hP : ∀ path ∈ l.service.path? packet, P path) {result : Run × Host × List Deed}
    (hopen : l.open? packet client host = some result) :
    ∃ result', l'.open? packet client host' = some result' ∧ Run.Twins P base result result' := by
  rw [open?_eq] at hopen ⊢
  split at hopen
  case isFalse => exact nomatch hopen
  case isTrue hfree =>
    obtain rfl := Option.some.inj hopen
    have hports := h.ports_of_taken htaken
    -- The one host has given away no more ports than the other, so its next one is free too.
    have hfree' : UInt16.ofNat host'.nextPort ∉ base := by
      rcases Nat.lt_or_eq_of_le h.hosts.next with hlt | heq
      · exact h.hosts.free _ (Nat.le_refl _) hlt
      · exact fun hbase => hfree.2 (h.tidy.berths.base (heq ▸ hbase))
    rw [h.alike.timing, h.alike.service, h.hosts.bindFault, hports, hclock,
      if_pos ⟨hfree.1, hfree'⟩]
    have hshadows := h.hosts.berth fun hbase => hfree.2 (h.tidy.berths.base hbase)
    have hpairs := Bond.pairs_between hshadows.calm
      (s := .server l.service (.ofNat host.nextPort) client l.timing (host.clock + 1))
      (fun _ hclosed => nomatch hclosed) (.ofNat host'.nextPort) (congrArg (· + 1) hclock)
      hshadows.store
    refine ⟨_, rfl, .intro hshadows (congrArg (_ :: ·) hports)
      (Run.start_level client hpairs ⟨?_, ?_⟩)⟩
    · rintro - _ ⟨⟩ path hpath
      exact Bond.reads_of_allowed (hP path hpath)
    · rintro - _ ⟨⟩ path hpath
      exact Bond.makes_of_allowed (hP path (Service.path?_of_target? hpath))

/-- The client's session goes on in the same way on both hosts. -/
theorem step_twins (h : Mirrors client P base l host l' host') (hclock : host'.clock = host.clock)
    {s : Session} (hs : l.session? client = some s) (arrival : Arrival) :
    ∃ s', l'.session? client = some s' ∧
      Run.Twins P base ((Run.waiting s).step arrival host)
        ((Run.waiting s').step arrival host') := by
  obtain ⟨port', hsession⟩ := h.session
  have hown := congrFun hsession client
  rw [Function.update_self, hs] at hown
  obtain ⟨opening, hstanding⟩ := h.tidy.standing hs
  have hpairs := Bond.pairs_between h.hosts.calm (fun path => h.own s path hs) port' hclock
    h.hosts.store
  refine ⟨_, hown, .intro h.hosts ?_ (Run.step_level hpairs (Standing.ne_idle hstanding) arrival)⟩
  rw [h.ports, hown]
  rfl

/-- One session comes of the client's incident on both hosts, or none on either. -/
theorem run_twins (h : Mirrors client P base l host l' host') (hclock : host'.clock = host.clock)
    (hclient : incident.client? = some client) (hbound : ¬ l.Unbound incident host)
    (hused : ∀ path, l.used? incident = some path → P path) :
    (l.run? incident host = none ∧ l'.run? incident host' = none ∧
        ¬ l'.Unbound incident host') ∨
      ∃ result result', l.run? incident host = some result ∧
        l'.run? incident host' = some result' ∧ Run.Twins P base result result' := by
  have htaken' := h.taken?_eq hclient
  cases incident with
  | request other bytes =>
    obtain rfl := Option.some.inj hclient
    rw [Unbound, run?] at hbound ⊢
    rw [run?, htaken']
    cases htaken : l.taken? (.request other bytes) with
    | none =>
      refine .inl ⟨rfl, rfl, ?_⟩
      rintro ⟨⟨⟩, -⟩
    | some packet =>
      rw [htaken] at hbound
      obtain ⟨result, hopen⟩ := Option.ne_none_iff_exists'.1 fun hnone => hbound ⟨rfl, hnone⟩
      obtain ⟨result', hopen', htwins⟩ := h.open_twins hclock htaken
        (fun path hpath => hused path (by rw [used?, htaken]; exact hpath)) hopen
      exact .inr ⟨result, result', hopen, hopen', htwins⟩
  | arrival other arrival =>
    obtain rfl := Option.some.inj hclient
    cases hs : l.session? other with
    | none =>
      have hnone := h.session?_eq_none_iff.2 hs
      refine .inl ⟨by rw [run?, hs]; rfl, by rw [run?, hnone]; rfl, ?_⟩
      rintro ⟨⟨⟩, -⟩
    | some s =>
      obtain ⟨s', hs', htwins⟩ := h.step_twins hclock hs arrival
      exact .inr ⟨_, _, by rw [run?, hs]; rfl, by rw [run?, hs']; rfl, htwins⟩
  | fault | stop | interrupt | deaf | stray => cases hclient

/-- Whatever comes of the client's incident, the one server mirrors the other. -/
theorem follow (h : Mirrors client P base l host l' host')
    {result result' : Run × Host × List Deed} (hclient : incident.client? = some client)
    (hrun : l.run? incident host = some result) (hrun' : l'.run? incident host' = some result')
    (htwins : Run.Twins P base result result') (hm : l.Follows client (sessionOf result.1) m)
    (hm' : l'.Follows client (sessionOf result'.1) m') :
    Mirrors client P base m result.2.1 m' result'.2.1 := by
  have hown : m.session? client = sessionOf result.1 := by rw [hm.session?, Function.update_self]
  have hown' : m'.session? client = sessionOf result'.1 := by
    rw [hm'.session?, Function.update_self]
  have hsession : m'.session? =
      Function.update (fun _ => none) client (sessionOf result'.1) := by
    obtain ⟨port, hsession⟩ := h.session
    rw [hm'.session?, hsession, Function.update_idem]
  have halike := (hm.alike.symm.trans h.alike).trans hm'.alike
  have hothers : m.OthersSpare client P := by
    intro other s hother hs
    rw [hm.session?, Function.update_of_ne hother] at hs
    exact h.others other s hother hs
  have htidy := h.tidy.follow hclient hrun hm
  have halone := h.alone.follow hclient hrun' hm'
  obtain @⟨_, left, right, _, port', _, _, _, hshadows, hports, hlevel⟩ := htwins
  cases hlevel with
  | waiting timeout hpairs =>
    have hhosts := hshadows.keeps hpairs.left hpairs.right hpairs.store
    refine ⟨htidy, halone, halike, hothers, ?_, ⟨port', ?_⟩, ?_, ?_⟩
    · rw [hown]
      rintro s path ⟨⟩
      exact hpairs.writes path
    · rw [hown, hsession, hpairs.session]
      rfl
    · rw [hown', hpairs.session]
      exact hpairs.right.ports.trans hports
    · exact { hhosts with }
  | ended ending hpairs =>
    have hhosts := hshadows.keeps hpairs.left hpairs.right hpairs.store
    refine ⟨htidy, halone, halike, hothers, ?_, ⟨port', ?_⟩, ?_, ?_⟩
    · rw [hown]
      exact fun _ _ hnone => nomatch hnone
    · rw [hown, hsession]
      rfl
    · rw [hown']
      have hrelease := congrArg (·.erase port') (hpairs.right.ports.trans hports)
      exact hrelease.trans (List.erase_cons_head ..)
    · exact { hhosts with }

end Mirrors

/-- What another client's incident leaves of a server and its host. -/
structure Undisturbed (client : Endpoint) (P : String → Prop) (base : List UInt16) (l : Listening)
    (host : Host) (l' : Listening) (host' : Host) : Prop where
  tidy : l'.Tidy base host'
  alike : l.Alike l'
  others : l'.OthersSpare client P
  session : l'.session? client = l.session? client
  hosts : ∀ alone, host.Shadows P base alone → host'.Shadows P base alone

namespace Tidy

/-- **What another client's incident leaves.**  Whatever comes of it, the client's session is as it
was, and so are the files of a kind unless the other client makes one. -/
theorem undisturbed (h : l.Tidy base host) (hbusy : l.Busy) (hothers : l.OthersSpare client P)
    (hother : other ≠ client) (hclient : incident.client? = some other)
    (hbound : ¬ l.Unbound incident host)
    (hmade : ∀ path, l.made? incident host = some path → ¬ P path) :
    ∃ l' left deeds, Undisturbed client P base l host l' left ∧
      (Serving.listening l).meet incident host =
        ((Serving.rest l' left).1, (Serving.rest l' left).2, deeds) := by
  cases hrun : l.run? incident host with
  | none =>
    refine ⟨l, host, [], ⟨h, .refl l, hothers, rfl, fun _ hshadows => hshadows⟩, ?_⟩
    rw [h.meet_none hbusy hclient hrun hbound, rest_of_busy hbusy]
  | some result =>
    obtain ⟨l', hfollows, hmeet⟩ := h.meet_some hclient hrun
    obtain ⟨s, begun, hbegun, hleaves, -⟩ :=
      h.begun hclient hrun (fun s => hothers other s hother) hmade
    have htidy := h.follow hclient hrun hfollows
    refine ⟨l', _, _, ⟨htidy, hfollows.alike, ?_, ?_, ?_⟩, hmeet⟩
    · intro another t hanother ht
      rw [hfollows.session?, Function.update_apply] at ht
      split at ht
      · cases hleaves with
        | waiting _ _ hspares => exact Option.some.inj ht ▸ hspares
        | ended => exact nomatch ht
      · exact hothers another t hanother ht
    · rw [hfollows.session?, Function.update_of_ne hother.symm]
    · intro alone hshadows
      have hbegin : begun.Shadows P base alone := by
        cases hbegun with
        | on => exact hshadows
        | new hfree => exact hshadows.berth_left fun hbase => hfree (h.berths.base hbase)
      cases hleaves with
      | waiting _ _ _ hkeeps hstore =>
        have hhosts := hbegin.keeps hkeeps (.refl alone) fun path hpath =>
          (hbegin.store path hpath).trans (hstore path hpath).symm
        exact { hhosts with }
      | ended _ hkeeps hstore =>
        have hhosts := hbegin.keeps hkeeps (.refl alone) fun path hpath =>
          (hbegin.store path hpath).trans (hstore path hpath).symm
        exact { hhosts with }

end Tidy

end Listening

end TrivialFtp
