import TrivialFtp.Proofs.Chores
import TrivialFtp.Proofs.Isolation
import TrivialFtp.Proofs.Letters

/-!
# Proofs: nothing but what is in the root

Whatever is sent to a server, it asks after, opens and makes no files but those directly in its
root, and each only for a client that names it.  What the other files hold makes no difference to
it, and it leaves them as they are.

- `Path.Child`, `Path.child_join`: the files directly in a directory.
- `Incident.Asks`, `Incident.Refused`: requests that are served and requests that are not.
- `Chore.run_alike`, `Serving.step_alike`, `Serving.course_alike`: a server on two hosts with files
  that are in accord.
- `Chore.run_deeds`, `Serving.course_deeds`: the deeds that are about files.
- `Accord.within`, `Accord.since`: what makes no difference, and what is not changed.
- `Server.confined`: the server keeps to its root.
-/

namespace TrivialFtp

/-! ### Paths -/

namespace Path

/-- The parts of a path that are not empty. -/
def components (path : String) : List (List Char) := (parts path).filter fun p => p ≠ []

/-- A slash ends a part. -/
theorem parts_go_append (begun cs rest : List Char) :
    parts.go begun (cs ++ '/' :: rest) = parts.go begun cs ++ parts.go [] rest := by
  fun_induction parts.go begun cs with
  | case1 begun => rfl
  | case2 begun cs ih => exact congrArg _ ih
  | case3 begun c cs hc ih => rw [List.cons_append, parts.go, ih]; exact hc

/-- A text without a slash is one part. -/
theorem parts_go_of_not_mem {begun cs : List Char} (h : '/' ∉ cs) :
    parts.go begun cs = [begun.reverse ++ cs] := by
  fun_induction parts.go begun cs with
  | case1 begun => rw [List.append_nil]
  | case2 begun cs ih => exact absurd List.mem_cons_self h
  | case3 begun c cs hc ih =>
    rw [ih fun hmem => h (List.mem_cons_of_mem c hmem), List.reverse_cons, List.append_assoc]
    rfl

/-- A name without a slash is one part more than the directory has, but for an empty last one. -/
theorem parts_join (directory : String) {name : String} (h : '/' ∉ name.toList) :
    ∃ begun, components directory = begun.filter (fun p => p ≠ []) ∧
      parts (join directory name) = begun ++ [name.toList] := by
  have hname : parts.go [] name.toList = [name.toList] := parts_go_of_not_mem h
  have hrelative : name.toList.head? ≠ some '/' := fun hhead => h (List.mem_of_mem_head? hhead)
  unfold components parts join
  rw [if_neg hrelative]
  split
  · next hends =>
    rw [String.toList_append]
    rcases hends with hempty | hslash
    · rw [String.isEmpty_iff.1 hempty]
      exact ⟨[], rfl, hname⟩
    · obtain ⟨begun, hbegun⟩ := List.getLast?_eq_some_iff.1 hslash
      refine ⟨parts.go [] begun, ?_, ?_⟩
      · rw [hbegun, parts_go_append, List.filter_append]
        exact List.append_nil _
      · rw [hbegun, List.append_assoc, List.singleton_append, parts_go_append, hname]
  · refine ⟨parts.go [] directory.toList, rfl, ?_⟩
    rw [String.toList_append, String.toList_append, List.append_assoc]
    exact (parts_go_append _ _ _).trans (congrArg _ hname)

/-- A file with a plain name is one component below its directory. -/
theorem components_join (directory : String) {name : String} (h : isPlain name) :
    components (join directory name) = components directory ++ [name.toList] := by
  obtain ⟨hempty, -, -, hslash, -⟩ := (isPlain_iff name).1 h
  obtain ⟨begun, hbegun, hparts⟩ := parts_join directory hslash
  have hname : name.toList ≠ [] := fun hnil => hempty (String.toList_eq_nil_iff.1 hnil)
  rw [components, hparts, List.filter_append, hbegun]
  simp [hname]

/-- The path leads to a file directly in a directory: it is the directory's with one component more,
which is a name and not a way to another place. -/
structure Child (directory name path : String) : Prop where
  joined : path = join directory name
  below : components path = components directory ++ [name.toList]
  named : name ≠ "" ∧ name ≠ "." ∧ name ≠ ".."
  unbroken : '/' ∉ name.toList ∧ '\\' ∉ name.toList

theorem child_join (directory : String) {name : String} (h : isPlain name) :
    Child directory name (join directory name) := by
  obtain ⟨hempty, hhere, habove, hslash, hbackslash⟩ := (isPlain_iff name).1 h
  exact ⟨rfl, components_join directory h, ⟨hempty, hhere, habove⟩, hslash, hbackslash⟩

end Path

/-! ### Requests -/

theorem isPlain_of_requestViolation? {name mode : String}
    (h : requestViolation? name mode = none) : isPlain name := by
  unfold requestViolation? at h
  split at h
  · split at h
    · assumption
    · exact nomatch h
  · exact nomatch h

/-- A datagram comes to the listening port that asks for a file, under a name and in a mode that
are served. -/
def Incident.Asks (incident : Incident) (direction : Direction) (name : String) : Prop :=
  ∃ mode options, incident.packet? = some (.request direction name mode options) ∧
    requestViolation? name mode = none

/-- A datagram comes to the listening port that asks for a file, under a name or in a mode that is
not served. -/
def Incident.Refused (incident : Incident) : Prop :=
  ∃ direction name mode options, incident.packet? = some (.request direction name mode options) ∧
    requestViolation? name mode ≠ none

/-- The deed asks for a file. -/
def Deed.IsAboutFile : Deed → Prop
  | touched _ | consulted _ => True
  | sent _ _ | unsent _ _ | observed _ | flushed _ => False

variable {service : Service} {packet : Packet} {incident : Incident} {path name : String}

/-- The file that a request is about is in the root, and the request asks for it. -/
theorem Service.asks_of_path? (h : path ∈ service.path? packet)
    (hpacket : incident.packet? = some packet) :
    ∃ direction name, incident.Asks direction name ∧ Path.Child service.root name path := by
  cases packet with
  | request direction name mode options =>
    simp only [path?] at h
    split at h
    · next hserved =>
      obtain rfl := Option.some.inj h
      exact ⟨direction, name, ⟨mode, options, hpacket, hserved⟩,
        Path.child_join service.root (isPlain_of_requestViolation? hserved)⟩
    · exact nomatch h
  | data | ack | error | optionAck => exact nomatch h

theorem Service.asks_of_target? (h : path ∈ service.target? packet)
    (hpacket : incident.packet? = some packet) :
    ∃ name, incident.Asks .write name ∧ Path.Child service.root name path := by
  have hpath := path?_of_target? h
  unfold target? at h
  split at h
  · obtain ⟨direction, name, ⟨mode, options, hasked, hserved⟩, hchild⟩ :=
      asks_of_path? hpath hpacket
    cases hpacket.symm.trans hasked
    exact ⟨_, ⟨_, _, hpacket, hserved⟩, hchild⟩
  · exact nomatch h

/-! ### Two hosts -/

/-- A session of a server's that is under way and writes, if it does, a file of a kind. -/
structure Session.KeepsTo (service : Service) (allowed : String → Prop) (s : Session) : Prop where
  role : s.role = .serve service
  standing : ∃ opening, s.Standing opening
  writes : ∀ path, s.stream = .writing (.file path) → allowed path

variable {a : Accord} {allowed : String → Prop} {chore : Chore} {host : Host} {store : Store}
  {serving : Serving}

/-- Two runs that are tied leave a session that keeps to files of a kind, or none, and files that
are in accord. -/
theorem Run.Tied.sessions {port : UInt16} {result result' : Run × Host × List Deed}
    (h : Tied (.beside a (.serve service) port 0) result result')
    (hstanding : ∀ s, result.1 = .waiting s → ∃ opening, s.Standing opening) :
    (∀ s ∈ Listening.sessionOf result.1, s.KeepsTo service a.allowed) ∧
      ∃ left, a.agree result.2.1.store left ∧
        (Listening.sessionOf result'.1, result'.2) =
          (Listening.sessionOf result.1, { result.2.1 with store := left }, result.2.2) := by
  constructor
  · intro s hs
    have hwaiting : result.1 = .waiting s := by
      cases hrun : result.1 with
      | waiting s' =>
        rw [hrun] at hs
        exact congrArg _ (Option.some.inj hs)
      | ended => exact nomatch hrun ▸ hs
    obtain ⟨hrole, hwrites⟩ := h.beside_waiting hwaiting
    exact ⟨hrole, hstanding s hwaiting, hwrites⟩
  · obtain ⟨left, hleft, rfl⟩ := h.beside
    exact ⟨left, hleft, by rw [dropping_zero]⟩

/-- **One chore.**  On hosts with files that are in accord a session does the same things. -/
theorem Chore.run_alike (hdue : chore.Due service (Session.KeepsTo service a.allowed) incident)
    (hlets : ∀ packet ∈ incident.packet?, a.Lets service packet)
    (hagree : a.agree host.store store) :
    (∀ s ∈ (chore.run host).1, s.KeepsTo service a.allowed) ∧
      ∃ left, a.agree (chore.run host).2.1.store left ∧
        chore.run { host with store } =
          ((chore.run host).1, { (chore.run host).2.1 with store := left },
            (chore.run host).2.2) := by
  cases hdue with
  | idle => exact ⟨fun s hs => absurd hs (Option.not_mem_none s), store, hagree, rfl⟩
  | @opening packet port client timing now hpacket =>
    let s := Session.server service port client timing now
    have hclosed : s.stream = .closed := rfl
    have hpairs := Tie.pairs_beside s 0 hagree fun _ hwriting => nomatch hclosed.symm.trans hwriting
    rw [Session.guised_self] at hpairs
    have htied := Run.start_tied client hpairs ((hlets packet hpacket).beside s port 0)
    refine htied.sessions fun s' hwaiting => ?_
    obtain ⟨scene, hopened, hphase, rfl⟩ := (Run.start_outcome _ _ _).waiting hwaiting
    exact ⟨_, hopened.standing .serve hphase⟩
  | @taking s arrival hs hpacket =>
    obtain ⟨hrole, ⟨opening, hstanding⟩, hwrites⟩ := hs
    -- A session under way takes up no request, so it opens no file.
    have hpairs := Tie.pairs_beside s 0 hagree hwrites
    rw [Session.guised_self, hrole] at hpairs
    have htied := Run.step_tied hpairs (fun _ => .of_ne_idle (Standing.ne_idle hstanding))
      arrival
    refine htied.sessions fun s' hwaiting => ?_
    obtain ⟨scene, hmove, hphase, rfl⟩ := (Run.step_outcome _ _ _).waiting hwaiting
    exact ⟨_, hmove.standing hstanding hphase⟩

/-- What there is of a moment to be seen, without the host. -/
def Moment.sight (m : Moment) : Serving × Incident × List Deed := (m.serving, m.incident, m.deeds)

namespace Serving

/-- A server whose sessions keep to files of a kind, for as long as it listens. -/
def KeepsTo (service : Service) (allowed : String → Prop) : Serving → Prop :=
  While (Listening.Hosts service (Session.KeepsTo service allowed))

/-- **One event.**  On hosts with files that are in accord a server does the same things. -/
theorem step_alike (h : serving.KeepsTo service a.allowed) (event : Event)
    (hlets : ∀ packet ∈ (serving.incident event).packet?, a.Lets service packet)
    (hagree : a.agree host.store store) :
    (serving.step event host).1.KeepsTo service a.allowed ∧
      ∃ left, a.agree (serving.step event host).2.1.store left ∧
        serving.step event { host with store } =
          ((serving.step event host).1, { (serving.step event host).2.1 with store := left },
            (serving.step event host).2.2) := by
  obtain ⟨chore, found, after, leave, hdue, hafter, hstep⟩ := explained h event host
  -- What is found on the host does not depend on its files, so either step is one of the chore.
  have hone : serving.step event host = _ := hstep host.store
  have hfound : a.agree ({ found with store := host.store } : Host).store store := hagree
  obtain ⟨hsessions, left, hleft, hrun⟩ := chore.run_alike hdue hlets hfound
  have hother : chore.run { found with store } = _ := hrun
  rw [hone]
  refine ⟨hafter _ hsessions, left, hleft, ?_⟩
  rw [hstep store, hother]

/-- **All events.**  On hosts with files that are in accord to begin with, a server does the same
things all along. -/
theorem course_alike (h : serving.KeepsTo service a.allowed) (events : List (Nat × Event))
    (hlets : ∀ m ∈ (serving.course host events).1, ∀ packet ∈ m.incident.packet?,
      a.Lets service packet)
    (hagree : a.agree host.store store) :
    ∃ left, a.agree (serving.course host events).2.store left ∧
      (serving.course { host with store } events).2 =
        { (serving.course host events).2 with store := left } ∧
      (serving.course { host with store } events).1.map Moment.sight =
        (serving.course host events).1.map Moment.sight := by
  induction events generalizing serving host store with
  | nil => exact ⟨store, hagree, rfl, rfl⟩
  | cons e rest ih =>
    obtain ⟨time, event⟩ := e
    rw [course] at hlets ⊢
    obtain ⟨hlets₀, hlets⟩ := List.forall_mem_cons.1 hlets
    have hagree : a.agree ({ host with clock := time } : Host).store store := hagree
    obtain ⟨hnext, left, hleft, hstep⟩ := step_alike h event hlets₀ hagree
    obtain ⟨last, hlast, hhost, hsights⟩ := ih hnext hlets hleft
    have hsight : (serving.moment { host with clock := time, store } event).sight =
        (serving.moment { host with clock := time } event).sight := by
      unfold moment Moment.sight
      rw [hstep]
    refine ⟨last, hlast, ?_, ?_⟩
    · rw [course]
      dsimp only
      rw [hstep]
      exact hhost
    · rw [course]
      dsimp only
      rw [hstep]
      exact congrArg₂ List.cons hsight hsights

end Serving

/-! ### Deeds -/

/-- What a session does about files it does when it opens, at the request of its client. -/
theorem Chore.run_deeds (hdue : chore.Due service (Session.KeepsTo service allowed) incident)
    (host : Host) {d : Deed} (hd : d ∈ (chore.run host).2.2) (habout : d.IsAboutFile) :
    ∃ packet, incident.packet? = some packet ∧ service.Concerns packet d := by
  have hfiles : ∀ {files : Deed → Prop} {peer : Endpoint},
      d.Heeds files peer ∨ (∃ target, d = .flushed target) → files d := by
    intro files peer hheeds
    cases d with
    | touched | consulted => exact hheeds.resolve_right nofun
    | sent | unsent | observed | flushed => exact habout.elim
  cases hdue with
  | idle => exact absurd hd List.not_mem_nil
  | @opening packet port client timing now hpacket =>
    have hconcerns : ∀ service' packet' source,
        (Session.server service port client timing now).role = .serve service' →
          Opening.answer packet client = .answer packet' source →
            ∀ d, service'.Concerns packet' d → service.Concerns packet d := by
      rintro _ _ _ ⟨⟩ ⟨⟩ d hd
      exact hd
    have haddresses := Run.start_addresses .serve host hconcerns
    exact ⟨packet, hpacket, hfiles (haddresses.deeds d hd)⟩
  | @taking s arrival hs hpacket =>
    obtain ⟨opening, hstanding⟩ := hs.standing
    have haddresses : Run.Addresses (fun _ => False) _ _ ((Run.waiting s).step arrival host) :=
      Run.step_addresses hstanding arrival host
    exact (hfiles (haddresses.deeds d hd)).elim

/-- Where a packet comes, a session under way has nothing to do, whatever its kind. -/
theorem Chore.Due.of_packet {kind kind' : Session → Prop} (h : chore.Due service kind incident)
    (hpacket : incident.packet? = some packet) : chore.Due service kind' incident := by
  cases h with
  | idle => exact .idle
  | opening port client timing now hopening => exact .opening port client timing now hopening
  | taking arrival hs hnone => exact nomatch hnone.symm.trans hpacket

/-- A request that is not served concerns no file. -/
theorem Service.not_concerns {mode : String} (h : requestViolation? name mode ≠ none)
    (service : Service) (direction : Direction) (options : Options) :
    (∀ path, path ∉ service.path? (.request direction name mode options)) ∧
      ∀ d, ¬ service.Concerns (.request direction name mode options) d := by
  constructor
  · intro path hpath
    simp only [path?, if_neg h] at hpath
    exact nomatch hpath
  · intro d hd
    cases hd with
    | file hplain | name hplain => exact h hplain

namespace Serving

theorem step_deeds (h : serving.KeepsTo service allowed) (event : Event) (host : Host) {d : Deed}
    (hd : d ∈ (serving.step event host).2.2) (habout : d.IsAboutFile) :
    ∃ packet, (serving.incident event).packet? = some packet ∧ service.Concerns packet d := by
  obtain ⟨chore, found, after, leave, hdue, -, hstep⟩ := explained h event host
  have hone : serving.step event host = _ := hstep host.store
  rw [hone] at hd
  exact chore.run_deeds hdue { found with store := host.store } hd habout

/-- Whatever a server does about files, it does at the request of a client. -/
theorem course_deeds (h : serving.KeepsTo service Accord.same.allowed)
    (events : List (Nat × Event)) :
    ∀ m ∈ (serving.course host events).1, ∀ d ∈ m.deeds, d.IsAboutFile →
      ∃ packet, m.incident.packet? = some packet ∧ service.Concerns packet d := by
  induction events generalizing serving host with
  | nil => exact fun _ hm => absurd hm List.not_mem_nil
  | cons e rest ih =>
    obtain ⟨time, event⟩ := e
    have hagree : Accord.same.agree ({ host with clock := time } : Host).store host.store :=
      ⟨rfl, trivial⟩
    have hnext := step_alike h event (fun _ _ => Accord.alone_lets fun _ _ => trivial) hagree
    rw [course]
    exact List.forall_mem_cons.2 ⟨fun d => step_deeds h event { host with clock := time },
      ih hnext.1⟩

/-- A request under a name or in a mode that is not served leaves every file as it is, and nothing
is done about any. -/
theorem step_refused {event : Event} (h : (serving.incident event).Refused) (host : Host) :
    (serving.step event host).2.1.store = host.store ∧
      ∀ d ∈ (serving.step event host).2.2, ¬ d.IsAboutFile := by
  obtain ⟨direction, name, mode, options, hpacket, hrefused⟩ := h
  -- Of the sessions under way nothing need be known, since none of them has anything to do.
  obtain ⟨service, hserving⟩ : ∃ service,
      serving.While (Listening.Hosts service fun _ => True) := by
    cases serving with
    | listening l => exact ⟨l.service, rfl, fun _ _ _ _ => trivial⟩
    | stopped | failed => exact ⟨{ root := "" }, trivial⟩
  obtain ⟨chore, found, after, leave, hdue, -, hstep⟩ := explained hserving event host
  have hone : serving.step event host = _ := hstep host.store
  let a : Accord := .alone (fun _ => False) (· = host.store) fun _ _ _ _ hnever => hnever.elim
  have hdue : chore.Due service (Session.KeepsTo service a.allowed) (serving.incident event) :=
    hdue.of_packet hpacket
  obtain ⟨hpath, hconcerns⟩ := service.not_concerns hrefused direction options
  have hlets : ∀ packet ∈ (serving.incident event).packet?, a.Lets service packet := by
    rintro packet hmem
    obtain rfl := Option.some.inj (hpacket.symm.trans hmem)
    exact Accord.alone_lets fun path htarget => hpath path (Service.path?_of_target? htarget)
  have hfound : a.agree ({ found with store := host.store } : Host).store host.store := ⟨rfl, rfl⟩
  obtain ⟨-, left, ⟨-, hleft⟩, -⟩ := chore.run_alike hdue hlets hfound
  rw [hone]
  refine ⟨hleft, fun d hd habout => ?_⟩
  obtain ⟨packet, hmem, hd⟩ := chore.run_deeds hdue _ hd habout
  obtain rfl := Option.some.inj (hpacket.symm.trans hmem)
  exact hconcerns d hd

end Serving

/-! ### From the start on -/

/-- What happens to a server from its start on, and the host as it is then. -/
def Server.course (server : Server) (host : Host) (events : List (Nat × Event)) :
    List Moment × Host :=
  let (serving, host) := Serving.start server host
  serving.course host events

/-- A server takes its port, whatever files there are. -/
theorem Serving.start_store (server : Server) (host : Host) (store : Store) :
    start server { host with store } =
      ((start server host).1, { (start server host).2 with store }) := by
  unfold start bind
  cases Endpoint.read? server.address with
  | none => rfl
  | some e =>
    dsimp only
    rw [host.bind_store]
    generalize host.bind e.ip e.port = result
    obtain ⟨result, bound⟩ := result
    cases result <;> rfl

/-- Taking a port leaves the files as they are. -/
theorem Serving.store_start (server : Server) (host : Host) :
    (start server host).2.store = host.store :=
  congrArg (·.2.store) (start_store server host host.store)

theorem Serving.keepsTo_start (server : Server) (host : Host) (allowed : String → Prop) :
    (start server host).1.KeepsTo server.service allowed := by
  unfold start
  split
  · exact ⟨rfl, fun t ht => absurd ht List.not_mem_nil⟩
  · trivial

/-- Stores that have the same files directly in a directory. -/
def Accord.within (directory : String) : Accord where
  allowed path := ∃ name, Path.Child directory name path
  agree store store' := ∀ path name, Path.Child directory name path →
    store'.find? path = store.find? path
  find? hagree hpath := hagree _ _ hpath.choose_spec
  set node hagree _ other name hother := by
    rw [Store.find?_set, Store.find?_set, hagree other name hother]

/-- A store beside itself that differs from an earlier one in some files at most. -/
def Accord.since (base : Store) (allowed : String → Prop) : Accord :=
  .alone allowed (fun store => ∀ path, ¬ allowed path → store.find? path = base.find? path)
    fun store path node hstore hallowed other hother => by
      rw [Store.find?_set, if_neg, hstore other hother]
      rintro rfl
      exact hother hallowed

namespace Server

variable {server : Server} {events : List (Nat × Event)}

/-- A file that is changed in the course of events was asked for by someone who was to write it. -/
theorem course_changed
    (hchanged : (server.course host events).2.store.find? path ≠ host.store.find? path) :
    ∃ m ∈ (server.course host events).1, ∃ name,
      m.incident.Asks .write name ∧ Path.Child server.service.root name path := by
  let asked : String → Prop := fun path => ∃ m ∈ (server.course host events).1, ∃ name,
    m.incident.Asks .write name ∧ Path.Child server.service.root name path
  have hlets : ∀ m ∈ (server.course host events).1, ∀ packet ∈ m.incident.packet?,
      (Accord.since host.store asked).Lets server.service packet :=
    fun m hm packet hpacket => Accord.alone_lets fun path htarget =>
      ⟨m, hm, Service.asks_of_target? htarget hpacket⟩
  -- The run is compared with itself; what is kept is that no other file differs from the beginning.
  have hagree : (Accord.since host.store asked).agree (Serving.start server host).2.store
      (Serving.start server host).2.store :=
    ⟨rfl, fun path _ => by rw [Serving.store_start]⟩
  obtain ⟨left, ⟨-, hleft⟩, -⟩ :=
    Serving.course_alike (Serving.keepsTo_start server host asked) events hlets hagree
  exact Classical.byContradiction fun hnot => hchanged (hleft path hnot)

/-- Files that are not in the root make no difference. -/
theorem course_within
    (hstore : ∀ path name, Path.Child server.service.root name path →
      store.find? path = host.store.find? path) :
    (server.course { host with store } events).1.map Moment.sight =
        (server.course host events).1.map Moment.sight ∧
      ∀ path name, Path.Child server.service.root name path →
        (server.course { host with store } events).2.store.find? path =
          (server.course host events).2.store.find? path := by
  have hlets : ∀ m ∈ (server.course host events).1, ∀ packet ∈ m.incident.packet?,
      (Accord.within server.service.root).Lets server.service packet := by
    intro m hm packet hpacket
    refine ⟨fun path hpath store store' hagree => ?_, fun path htarget => ?_⟩
    · obtain ⟨direction, name, -, hchild⟩ := Service.asks_of_path? hpath hpacket
      exact hagree path name hchild
    · obtain ⟨name, -, hchild⟩ := Service.asks_of_target? htarget hpacket
      exact ⟨name, hchild⟩
  have hagree : (Accord.within server.service.root).agree
      (Serving.start server host).2.store store := by
    rw [Serving.store_start]
    exact hstore
  obtain ⟨left, hleft, hhost, hsights⟩ :=
    Serving.course_alike (Serving.keepsTo_start server host _) events hlets hagree
  have hcourse : server.course { host with store } events =
      (Serving.start server host).1.course { (Serving.start server host).2 with store } events := by
    unfold course
    rw [Serving.start_store]
  rw [hcourse]
  refine ⟨hsights, fun path name hchild => ?_⟩
  exact (congrArg (·.store.find? path) hhost).trans (hleft path name hchild)

/-- **Nothing but what is in the root.**  Whatever happens to a server from its start on:
every path that it asks after, opens or makes is that of a file directly in its root, under a name
that the datagram asks for which comes then, and it asks the resolver for no other name;
no other file is ever changed, and a file of the root only if it was asked to write it;
what the other files hold makes no difference, neither to what the server does nor to the files of
the root;
and a request under a name or in a mode that is not served, whatever state the server is in, leaves
every file as it is and has it do nothing about any. -/
theorem confined (server : Server) (host : Host) (events : List (Nat × Event)) :
    let root := server.service.root
    let full := server.course host events
    (∀ m ∈ full.1, ∀ path, .touched path ∈ m.deeds →
      ∃ direction name, m.incident.Asks direction name ∧ Path.Child root name path) ∧
    (∀ m ∈ full.1, ∀ name, .consulted name ∈ m.deeds → m.incident.Asks .read name) ∧
    (∀ path, full.2.store.find? path ≠ host.store.find? path →
      ∃ m ∈ full.1, ∃ name, m.incident.Asks .write name ∧ Path.Child root name path) ∧
    (∀ store : Store,
      (∀ path name, Path.Child root name path → store.find? path = host.store.find? path) →
        let other := server.course { host with store } events
        other.1.map Moment.sight = full.1.map Moment.sight ∧
          ∀ path name, Path.Child root name path →
            other.2.store.find? path = full.2.store.find? path) ∧
    ∀ (serving : Serving) (host : Host) (event : Event), (serving.incident event).Refused →
      (serving.step event host).2.1.store = host.store ∧
        ∀ d ∈ (serving.step event host).2.2, ¬ d.IsAboutFile := by
  intro root full
  have hdeeds : ∀ m ∈ full.1, ∀ d ∈ m.deeds, d.IsAboutFile →
      ∃ packet, m.incident.packet? = some packet ∧ server.service.Concerns packet d :=
    Serving.course_deeds (Serving.keepsTo_start server host _) events
  refine ⟨?touched, ?consulted, fun _ => course_changed, fun _ => course_within,
    fun _ host _ h => Serving.step_refused h host⟩
  case touched =>
    intro m hm path hpath
    obtain ⟨packet, hpacket, hconcerns⟩ := hdeeds m hm _ hpath trivial
    cases hconcerns with
    | @file direction name mode options hplain =>
      exact ⟨direction, name, ⟨mode, options, hpacket, hplain⟩,
        Path.child_join root (isPlain_of_requestViolation? hplain)⟩
  case consulted =>
    intro m hm name hname
    obtain ⟨packet, hpacket, hconcerns⟩ := hdeeds m hm _ hname trivial
    cases hconcerns with
    | @name name mode options hplain => exact ⟨mode, options, hpacket, hplain⟩

/-- One client reads a file of the root, and another one would write a file beside the root. -/
def readAndEscape : List (Nat × Event) :=
  [(0, .arrival 69 (.datagram Listening.caller (Packet.octetRequest .read "a" ∅).encode)),
    (5, .arrival 69 (.datagram Listening.neighbour (Packet.octetRequest .write "../b" ∅).encode))]

/-- The one file is opened, and nothing comes of the other. -/
theorem confined_readAndEscape :
    let full := Serving.library.course Serving.oneFileHost readAndEscape
    (∃ m ∈ full.1, .touched "r/a" ∈ m.deeds ∧
        ∃ direction name, m.incident.Asks direction name ∧ Path.Child "r" name "r/a") ∧
      ∃ m ∈ full.1, m.incident.Refused ∧ m.deeds.length = 1 ∧
        (m.serving.step (.arrival 69 (.datagram Listening.neighbour
          (Packet.octetRequest .write "../b" ∅).encode)) m.host).2.1.store = m.host.store := by
  intro full
  obtain ⟨htouched, -, -, -, hrefused⟩ := confined Serving.library Serving.oneFileHost readAndEscape
  have hread : ∃ m ∈ full.1, .touched "r/a" ∈ m.deeds := by decide +kernel
  have hescape : ∃ m ∈ full.1, (m.incident.packet? =
      some (.request .write "../b" "octet" ∅) ∧ m.deeds.length = 1) ∧
        m.serving.incident (.arrival 69 (.datagram Listening.neighbour
          (Packet.octetRequest .write "../b" ∅).encode)) = m.incident := by decide +kernel
  obtain ⟨m, hm, hpath⟩ := hread
  obtain ⟨m', hm', ⟨hpacket, hanswer⟩, hincident⟩ := hescape
  have hfails : m'.incident.Refused := ⟨_, _, _, _, hpacket, by decide⟩
  refine ⟨⟨m, hm, hpath, htouched m hm _ hpath⟩, m', hm', hfails, hanswer, ?_⟩
  exact (hrefused _ _ _ (hincident ▸ hfails)).1

end Server

end TrivialFtp
