import TrivialFtp.Proofs.Moves

/-!
# Proofs: two runs that differ in what no act looks at

One session run twice, with another count of dropped datagrams, at another port or on another host,
does the same things both times as long as the hosts agree on what it asks of them.  What ties the
two runs together is kept by every act, so that a whole step of the session keeps it.

- `Accord`, `Accord.Lets`: what two stores agree on, and the packets that they may take up.
- `Tie`: the two runs, and what their hosts agree on.
- `Tie.Pairs`, `Tie.Ends`: two scenes, and two ends of an act, that are tied.
- `Act.Blind`: acts that keep every pair of scenes tied.
- `Run.start_tied`, `Run.step_tied`: how a session opens and what it does after that.
-/

namespace TrivialFtp

/-- A session at another port that has dropped so many datagrams more. -/
def Session.guised (s : Session) (port : UInt16) (extra : Nat) : Session :=
  { s with port, tally := { s.tally with discarded := extra + s.tally.discarded } }

@[simp] theorem Session.guised_self (s : Session) : s.guised s.port 0 = s := by simp [guised]

/-- What two stores agree on, and the files that can be read and written so that they still do. -/
structure Accord where
  allowed : String → Prop
  agree : Store → Store → Prop
  find? : ∀ {store store' : Store} {path : String}, agree store store' → allowed path →
    store'.find? path = store.find? path
  set : ∀ {store store' : Store} {path : String} (node : Node), agree store store' →
    allowed path → agree (store.set path node) (store'.set path node)

/-- A store beside itself, of which something is known that the files of a kind do not matter to. -/
def Accord.alone (allowed : String → Prop) (known : Store → Prop)
    (hset : ∀ store path node, known store → allowed path → known (store.set path node)) :
    Accord where
  allowed
  agree store store' := store' = store ∧ known store
  find? h _ := by rw [h.1]
  set node h hpath := ⟨by rw [h.1], hset _ _ node h.2 hpath⟩

/-- Two hosts have the same files. -/
def Accord.same : Accord := .alone (fun _ => True) (fun _ => True) fun _ _ _ _ _ => trivial

/-- What ties two runs of one session together: its role, the ports of the two, how many datagrams
more the second has dropped, what their deeds have in common, the files that the session may use,
and what the two hosts agree on. -/
structure Tie where
  role : Role
  left : UInt16
  right : UInt16
  extra : Nat
  shown : Deed → Deed
  allowed : String → Prop
  hosts : Host → Host → Prop
  sent : ∀ (target : Endpoint) (bytes : Bytes) (again : Bool),
    shown (.sent ⟨right, target, bytes⟩ again) = shown (.sent ⟨left, target, bytes⟩ again)
  unsent : ∀ (target : Endpoint) (bytes : Bytes) (fault : Fault),
    shown (.unsent ⟨right, target, bytes⟩ fault) = shown (.unsent ⟨left, target, bytes⟩ fault)
  clock : ∀ {host host' : Host}, hosts host host' → host'.clock = host.clock
  tick : ∀ {host host' : Host}, hosts host host' →
    hosts { host with clock := host.clock + 1 } { host' with clock := host'.clock + 1 }
  transmit : ∀ {host host' : Host} (target : Endpoint) (bytes : Bytes), hosts host host' →
    (host'.transmit ⟨right, target, bytes⟩).1 = (host.transmit ⟨left, target, bytes⟩).1
  sends : ∀ {host host' : Host}, hosts host host' →
    hosts { host with sends := host.sends + 1 } { host' with sends := host'.sends + 1 }
  output : ∀ {host host' : Host} (bytes : Bytes), hosts host host' →
    hosts { host with output := host.output ++ bytes }
      { host' with output := host'.output ++ bytes }
  find? : ∀ {host host' : Host} {path : String}, hosts host host' → allowed path →
    host'.store.find? path = host.store.find? path
  set : ∀ {host host' : Host} {path : String} (node : Node), hosts host host' → allowed path →
    hosts { host with store := host.store.set path node }
      { host' with store := host'.store.set path node }

namespace Tie

/-- Two scenes of the two runs, tied. -/
structure Pairs (t : Tie) (x y : Scene) : Prop where
  session : y.session = x.session.guised t.right t.extra
  port : x.session.port = t.left
  role : x.session.role = t.role
  writes : ∀ path, x.session.stream = .writing (.file path) → t.allowed path
  hosts : t.hosts x.host y.host
  deeds : y.deeds.map t.shown = x.deeds.map t.shown

/-- The session may change as long as it stays at its port and writes to no other file. -/
theorem Pairs.become {t : Tie} {x y : Scene} (h : t.Pairs x y) {s : Session}
    (hport : s.port = t.left) (hrole : s.role = t.role)
    (hwrites : ∀ path, s.stream = .writing (.file path) → t.allowed path) :
    t.Pairs (x.become s) (y.become (s.guised t.right t.extra)) :=
  ⟨rfl, hport, hrole, hwrites, h.hosts, h.deeds⟩

/-- The session may take up any stream that writes no file or one that it may use. -/
theorem Pairs.stream {t : Tie} {x y : Scene} (h : t.Pairs x y) {stream : Stream}
    (hwrites : ∀ path, stream = .writing (.file path) → t.allowed path) :
    t.Pairs (x.become { x.session with stream }) (y.become { y.session with stream }) := by
  rw [h.session]
  exact h.become h.port h.role hwrites

/-- The hosts may change in what they agree on, and deeds may be put on record. -/
theorem Pairs.work {t : Tie} {x y : Scene} (h : t.Pairs x y) {host host' : Host}
    {before after : List Deed} (hhosts : t.hosts host host')
    (hdeeds : after.map t.shown = before.map t.shown) :
    t.Pairs ⟨x.session, host, before⟩ ⟨y.session, host', after⟩ :=
  ⟨h.session, h.port, h.role, h.writes, hhosts, hdeeds⟩

/-- Paired sessions have the same stream. -/
theorem Pairs.same_stream {t : Tie} {x y : Scene} (h : t.Pairs x y) :
    y.session.stream = x.session.stream := by
  rw [h.session]
  rfl

/-- The two runs flush the same stream. -/
theorem Pairs.flushing {t : Tie} {x y : Scene} (h : t.Pairs x y) :
    t.Pairs x.flushing y.flushing := by
  refine h.work h.hosts ?_
  rw [h.same_stream, List.map_append, List.map_append, h.deeds]

/-- Two ends of one act that are tied. -/
inductive Ends (t : Tie) {α : Type} :
    EStateM.Result Halt Scene α → EStateM.Result Halt Scene α → Prop where
  | ok (a : α) {x y : Scene} (h : t.Pairs x y) : Ends t (.ok a x) (.ok a y)
  | error (halt : Halt) {x y : Scene} (h : t.Pairs x y) : Ends t (.error halt x) (.error halt y)

end Tie

/-- The act ends alike in scenes that are tied. -/
def Act.Blind (t : Tie) {α : Type} (act : Act α) : Prop :=
  ∀ x y, t.Pairs x y → t.Ends (act.run x) (act.run y)

/-! ### Stores that agree on a path -/

namespace Store

variable {store store' : Store} {path : String}

/-- What is seen at a path depends on what is there. -/
theorem look_congr (h : store'.find? path = store.find? path) :
    store'.look path = store.look path := by
  rw [look, look, h]

theorem openNode_congr (h : store'.find? path = store.find? path) :
    store'.openNode path = store.openNode path := by
  rw [openNode, openNode, look_congr h]

/-- Whether a file can be made, and what it is then, goes by what its path stands for. -/
theorem create_congr (h : store'.find? path = store.find? path) :
    (∃ f, store.create path = .error f ∧ store'.create path = .error f) ∨
      ∃ node, store.create path = .ok (store.set path node) ∧
        store'.create path = .ok (store'.set path node) := by
  unfold create
  rw [h, openNode_congr h]
  cases Path.fault? path with
  | some f => exact .inl ⟨f, rfl, rfl⟩
  | none =>
    cases store.find? path with
    | none => exact .inr ⟨_, rfl, rfl⟩
    | some node =>
      cases store.openNode path with
      | error f => exact .inl ⟨f, rfl, rfl⟩
      | ok node =>
        by_cases hdirectory : node.isDirectory
        · exact .inl ⟨.isDirectory, if_pos hdirectory, if_pos hdirectory⟩
        · exact .inr ⟨_, if_neg hdirectory, if_neg hdirectory⟩

end Store

namespace Tie

variable {t : Tie} {host host' : Host} {path : String}

/-- The two hosts say the same of a path. -/
def Reads (t : Tie) (path : String) : Prop :=
  ∀ ⦃host host'⦄, t.hosts host host' → host'.store.find? path = host.store.find? path

/-- A file is made at a path on both hosts or on neither, and only if the session may use it. -/
def Makes (t : Tie) (path : String) : Prop :=
  ∀ ⦃host host'⦄, t.hosts host host' →
    (∃ f, host.store.create path = .error f ∧ host'.store.create path = .error f) ∨
      ∃ made made', host.store.create path = .ok made ∧ host'.store.create path = .ok made' ∧
        t.hosts { host with store := made } { host' with store := made' } ∧ t.allowed path

/-- A path that is allowed is read alike. -/
theorem reads_of_allowed (hpath : t.allowed path) : t.Reads path :=
  fun _ _ hhosts => t.find? hhosts hpath

theorem makes_of_allowed (hpath : t.allowed path) : t.Makes path := by
  intro host host' hhosts
  rcases Store.create_congr (t.find? hhosts hpath) with ⟨f, h, h'⟩ | ⟨node, h, h'⟩
  · exact .inl ⟨f, h, h'⟩
  · exact .inr ⟨_, _, h, h', t.set node hhosts hpath, hpath⟩

/-- Bytes written on one host are written on the other. -/
theorem append (hhosts : t.hosts host host') (hpath : t.allowed path) (bytes : Bytes) :
    (host'.store.append path bytes).1 = (host.store.append path bytes).1 ∧
      t.hosts { host with store := (host.store.append path bytes).2 }
        { host' with store := (host'.store.append path bytes).2 } := by
  unfold Store.append
  rw [t.find? hhosts hpath]
  exact ⟨rfl, t.set _ hhosts hpath⟩

end Tie

/-- The path of the file that a request is about, if the request can be taken up. -/
def Service.path? (service : Service) : Packet → Option String
  | .request _ filename mode _ =>
    if requestViolation? filename mode = none then some (Path.join service.root filename) else none
  | _ => none

/-- The path of the file that a request is to write, if the request can be taken up. -/
def Service.target? (service : Service) (packet : Packet) : Option String :=
  match packet with
  | .request .write .. => service.path? packet
  | _ => none

/-- The file that a request has made is the one that it names. -/
theorem Service.path?_of_target? {service : Service} {packet : Packet} {path : String}
    (h : path ∈ service.target? packet) : path ∈ service.path? packet := by
  unfold Service.target? at h
  split at h
  · exact h
  · exact nomatch h

namespace Tie

/-- If a packet opens the session, the file it is about may be read or made. -/
structure Lets (t : Tie) (s : Session) (packet : Packet) : Prop where
  reads : s.phase = .idle → ∀ service, t.role.service? = some service →
    ∀ path ∈ service.path? packet, t.Reads path
  makes : s.phase = .idle → ∀ service, t.role.service? = some service →
    ∀ path ∈ service.target? packet, t.Makes path

/-- Once a session has its file no packet names another. -/
theorem Lets.of_ne_idle {t : Tie} {s : Session} {packet : Packet} (h : s.phase ≠ .idle) :
    t.Lets s packet :=
  ⟨fun hidle => absurd hidle h, fun hidle => absurd hidle h⟩

/-- A session that may use every file is let do anything. -/
theorem Lets.of_allowed {t : Tie} (h : ∀ path, t.allowed path) (s : Session) (packet : Packet) :
    t.Lets s packet :=
  ⟨fun _ _ _ path _ => reads_of_allowed (h path), fun _ _ _ path _ => makes_of_allowed (h path)⟩

/-- Two runs at one port, on hosts that differ in their files at most. -/
def beside (a : Accord) (role : Role) (port : UInt16) (extra : Nat) : Tie where
  role
  left := port
  right := port
  extra
  shown d := d
  allowed := a.allowed
  hosts host host' := host' = { host with store := host'.store } ∧ a.agree host.store host'.store
  sent _ _ _ := rfl
  unsent _ _ _ := rfl
  clock h := by rw [h.1]
  tick h := ⟨by rw [h.1], h.2⟩
  transmit _ _ h := by rw [h.1]; rfl
  sends h := ⟨by rw [h.1], h.2⟩
  output _ h := ⟨by rw [h.1], h.2⟩
  find? h hpath := a.find? h.2 hpath
  set node h hpath := ⟨by rw [h.1], a.set node h.2 hpath⟩

/-- A session beside itself, on hosts with files that are in accord. -/
theorem pairs_beside {a : Accord} {host : Host} {store : Store} (s : Session) (extra : Nat)
    (hagree : a.agree host.store store)
    (hwrites : ∀ path, s.stream = .writing (.file path) → a.allowed path) :
    (beside a s.role s.port extra).Pairs ⟨s, host, []⟩
      ⟨s.guised s.port extra, { host with store }, []⟩ :=
  ⟨rfl, rfl, rfl, hwrites, ⟨rfl, hagree⟩, rfl⟩

end Tie

/-- Stores in accord stay so when a packet is taken up: they say the same of the file that it is
about, and it may be made if that is asked for. -/
structure Accord.Lets (a : Accord) (service : Service) (packet : Packet) : Prop where
  reads : ∀ path ∈ service.path? packet, ∀ {store store' : Store}, a.agree store store' →
    store'.find? path = store.find? path
  makes : ∀ path ∈ service.target? packet, a.allowed path

/-- What is let through between stores is let through between the sessions at them. -/
theorem Accord.Lets.beside {a : Accord} {service : Service} {packet : Packet}
    (h : a.Lets service packet) (s : Session) (port : UInt16) (extra : Nat) :
    (Tie.beside a (.serve service) port extra).Lets s packet := by
  refine ⟨fun _ other hother path hpath host host' hhosts => ?_,
    fun _ other hother path hpath => ?_⟩
  all_goals obtain rfl : service = other := Option.some.inj hother
  · exact h.reads path hpath hhosts.2
  · exact Tie.makes_of_allowed (t := .beside a (.serve service) port extra) (h.makes path hpath)

/-- A store beside itself says one thing of every file. -/
theorem Accord.alone_lets {allowed : String → Prop} {known : Store → Prop}
    {hset : ∀ store path node, known store → allowed path → known (store.set path node)}
    {service : Service} {packet : Packet} (h : ∀ path ∈ service.target? packet, allowed path) :
    (alone allowed known hset).Lets service packet :=
  ⟨fun _ _ _ _ hagree => by rw [hagree.1], h⟩

/-! ### Acts -/

namespace Act

variable {t : Tie} {α β : Type} {x y : Scene}

/-- What follows an act may go by how the act came out. -/
theorem alike_bind {act : Act α} {k : α → Act β} (h : t.Ends (act.run x) (act.run y))
    (hk : ∀ a x' y', act.run x = .ok a x' → t.Pairs x' y' →
      t.Ends ((k a).run x') ((k a).run y')) :
    t.Ends ((act >>= k).run x) ((act >>= k).run y) := by
  rw [EStateM.run_bind, EStateM.run_bind]
  cases hrun : act.run x with
  | ok a x' =>
    rw [hrun] at h
    generalize act.run y = r at h
    cases h with
    | ok _ h => exact hk a x' _ hrun h
  | error halt x' =>
    rw [hrun] at h
    generalize act.run y = r at h
    cases h with
    | error _ h => exact .error halt h

/-- After an act that ends alike, one that is blind ends alike. -/
theorem alike_then {act : Act α} {k : α → Act β} (h : t.Ends (act.run x) (act.run y))
    (hk : ∀ a, (k a).Blind t) : t.Ends ((act >>= k).run x) ((act >>= k).run y) :=
  alike_bind h fun a x' y' _ h => hk a x' y' h

/-- Only what the first act can come to has to be looked at for the second. -/
theorem Blind.bind_of {act : Act α} {k : α → Act β} (h : act.Blind t)
    (hk : ∀ x y a x', t.Pairs x y → act.run x = .ok a x' → (k a).Blind t) :
    (act >>= k).Blind t :=
  fun x y hxy => alike_bind (h x y hxy) fun a x' y' hrun h => hk x y a x' hxy hrun x' y' h

/-- One blind act after the other is blind. -/
theorem Blind.bind {act : Act α} {k : α → Act β} (h : act.Blind t)
    (hk : ∀ a, (k a).Blind t) : (act >>= k).Blind t :=
  h.bind_of fun _ _ a _ _ _ => hk a

theorem blind_pure (a : α) : (pure a : Act α).Blind t := fun _ _ h => .ok a h

theorem blind_fail (f : Failure) : (fail f : Act α).Blind t := fun _ _ h => .error _ h

theorem blind_crash : (throw .crash : Act α).Blind t := fun _ _ h => .error _ h

/-- A fault that is the same on both sides stops both. -/
theorem blind_check (fault : Option Fault) : (check fault).Blind t := by
  cases fault with
  | none => exact blind_pure ()
  | some f => exact blind_fail (.io f)

/-- An act may go by anything about its session that the two runs have in common. -/
theorem alike_session {k : Session → Act α} (hxy : t.Pairs x y)
    (hsame : ∀ s port extra, k (s.guised port extra) = k s)
    (hk : t.Ends ((k x.session).run x) ((k x.session).run y)) :
    t.Ends ((session >>= k).run x) ((session >>= k).run y) := by
  have hsame : k y.session = k x.session := by rw [hxy.session, hsame]
  change t.Ends ((k x.session).run x) ((k y.session).run y)
  rwa [hsame]

/-- An act may look at its session, as long as the guise makes no difference to it. -/
theorem blind_session {k : Session → Act α} (hk : ∀ s, (k s).Blind t)
    (hsame : ∀ s port extra, k (s.guised port extra) = k s) : (session >>= k).Blind t :=
  fun x y hxy => alike_session hxy hsame (hk x.session x y hxy)

/-- The session may be changed in anything but its role, its port and its stream. -/
theorem blind_update {f : Session → Session}
    (hf : ∀ s port extra, f (s.guised port extra) = (f s).guised port extra ∧
      (f s).port = s.port ∧ (f s).role = s.role ∧ (f s).stream = s.stream) :
    (update f).Blind t := by
  intro x y hxy
  obtain ⟨hguised, hport, hrole, hstream⟩ := hf x.session t.right t.extra
  rw [run_update, run_update, hxy.session, hguised]
  exact .ok () (hxy.become (hport.trans hxy.port) (hrole.trans hxy.role) fun path h =>
    hxy.writes path (hstream.symm.trans h))

/-- Anything may be counted in a way that does not go by the datagrams dropped. -/
theorem blind_count {f : Tally → Tally}
    (hf : ∀ tally extra, f { tally with discarded := extra + tally.discarded } =
      { f tally with discarded := extra + (f tally).discarded }) : (count f).Blind t := by
  refine blind_update fun s port extra => ⟨?_, rfl, rfl, rfl⟩
  rw [Session.guised, Session.guised, hf]

/-- A stream that writes no file may be anything. -/
theorem blind_stream {stream : Stream} (h : ∀ path, stream ≠ .writing (.file path)) :
    (update fun s => { s with stream }).Blind t :=
  fun _ _ hxy => .ok () (hxy.stream fun path hpath => absurd hpath (h path))

/-- Deeds are done on both sides. -/
theorem blind_record (d : Deed) : (record d).Blind t := by
  intro x y hxy
  rw [run_record, run_record]
  refine .ok () (hxy.work hxy.hosts ?_)
  rw [List.map_append, List.map_append, hxy.deeds]

/-- The clocks go on by one on both sides. -/
theorem blind_now : now.Blind t := by
  intro x y hxy
  rw [run_now, run_now, t.clock hxy.hosts]
  have hticks := t.tick hxy.hosts
  rw [t.clock hxy.hosts] at hticks
  exact .ok _ (hxy.work hticks hxy.deeds)

/-- Both hosts send a datagram or neither does, and with the same fault. -/
theorem blind_attempt (bytes : Bytes) (again : Bool) : (attempt bytes again).Blind t := by
  intro x y hxy
  have hpeer : y.session.peer = x.session.peer := by rw [hxy.session]; rfl
  have hport : y.session.port = t.right := by rw [hxy.session]; rfl
  rw [run_attempt, run_attempt, hpeer, hport, hxy.port, t.transmit _ _ hxy.hosts]
  refine .ok _ (hxy.work (t.sends hxy.hosts) ?_)
  rw [List.map_append, List.map_append, hxy.deeds]
  cases (x.host.transmit ⟨t.left, x.session.peer, bytes⟩).1 with
  | none => exact congrArg (x.deeds.map t.shown ++ [·]) (t.sent _ _ _)
  | some f => exact congrArg (x.deeds.map t.shown ++ [·]) (t.unsent _ _ _)

theorem blind_transmit (bytes : Bytes) (again : Bool) : (transmit bytes again).Blind t :=
  (blind_attempt bytes again).bind blind_check

theorem blind_send (p : Packet) : (send p).Blind t :=
  (blind_transmit _ _).bind fun _ => blind_update fun _ _ _ => ⟨rfl, rfl, rfl, rfl⟩

/-- A read is of the stream, and nothing else of a scene has a part in it. -/
theorem run_readBlock_eq (size : Nat) (scene : Scene) :
    (readBlock size).run scene =
      match (scene.session.stream.read size).1 with
      | .ok bytes => .ok bytes
        (scene.become { scene.session with stream := (scene.session.stream.read size).2 })
      | .error m => .error (halt m)
        (scene.become { scene.session with stream := (scene.session.stream.read size).2 }) := by
  unfold readBlock
  rw [EStateM.run_bind, EStateM.run_get]
  dsimp only
  cases scene.session.stream.read size with
  | mk result stream =>
    cases result with
    | ok bytes => rfl
    | error m => cases m <;> rfl

/-- Reading makes no stream write. -/
theorem writing_of_read {stream : Stream} {path : String} (size : Nat)
    (h : (stream.read size).2 = .writing (.file path)) : stream = .writing (.file path) := by
  cases stream with
  | closed | writing => exact h
  | reading => exact nomatch h

/-- The same streams give the same bytes. -/
theorem blind_readBlock (size : Nat) : (readBlock size).Blind t := by
  intro x y hxy
  have hread := hxy.stream fun path h => hxy.writes path (writing_of_read size h)
  rw [run_readBlock_eq, run_readBlock_eq, hxy.same_stream]
  cases (x.session.stream.read size).1 with
  | ok bytes => exact .ok bytes hread
  | error m => exact .error (halt m) hread

/-- A write is a change of the host, and then a check of what came of it. -/
theorem run_writeBlock_eq (bytes : Bytes) (scene : Scene) :
    (writeBlock bytes).run scene =
      (check (scene.session.stream.write scene.host bytes).1).run
        { scene with host := (scene.session.stream.write scene.host bytes).2 } := rfl

/-- The same bytes are written to the same file, and fail alike. -/
theorem blind_writeBlock (bytes : Bytes) : (writeBlock bytes).Blind t := by
  intro x y hxy
  rw [run_writeBlock_eq, run_writeBlock_eq, hxy.same_stream]
  cases hwriting : x.session.stream with
  | closed | reading => exact blind_check _ x y hxy
  | writing target =>
    cases target with
    | output => exact .ok () (hxy.work (t.output bytes hxy.hosts) hxy.deeds)
    | file path =>
      obtain ⟨hfault, hhosts⟩ := t.append hxy.hosts (hxy.writes path hwriting) bytes
      change t.Ends ((check (x.host.store.append path bytes).1).run _)
        ((check (y.host.store.append path bytes).1).run _)
      rw [hfault]
      exact blind_check _ _ _ (hxy.work hhosts hxy.deeds)

/-- The counts go up together, and become too much together. -/
theorem blind_noteDuplicate (block : UInt16) : (noteDuplicate block).Blind t := by
  refine (blind_count fun _ _ => rfl).bind fun _ => blind_session (fun s => ?_) fun _ _ _ => rfl
  split
  · exact blind_fail _
  · exact blind_pure ()

theorem blind_receiveData (block : UInt16) (payload : Bytes) :
    (receiveData block payload).Blind t := by
  refine blind_session (fun s => ?_) fun _ _ _ => rfl
  change Blind t (ite (block = s.nextBlock) _ _)
  split
  · refine (blind_writeBlock payload).bind fun _ => (blind_count fun _ _ => rfl).bind fun _ => ?_
    refine (blind_send _).bind fun _ => ?_
    refine .bind (blind_update fun _ _ _ => ⟨rfl, rfl, rfl, rfl⟩) fun _ => ?_
    exact blind_session (fun _ => blind_pure _) fun _ _ _ => rfl
  · split
    · change Blind t (ite (block = 0) (fail _ >>= _) (noteDuplicate block >>= _))
      split
      · exact (blind_fail _).bind fun _ => blind_noteDuplicate block |>.bind fun _ =>
          (blind_transmit _ _).bind fun _ => blind_pure _
      · refine (blind_noteDuplicate block).bind fun _ => ?_
        exact (blind_transmit _ _).bind fun _ => blind_pure _
    · exact blind_fail _

theorem blind_sendBlock : sendBlock.Blind t := by
  have hsend : sendData.Blind t := by
    refine blind_session (fun s => ?_) fun _ _ _ => rfl
    refine (blind_readBlock s.blockSize).bind fun payload => ?_
    refine (blind_count fun _ _ => rfl).bind fun _ => blind_session (fun _ => ?_) fun _ _ _ => rfl
    exact (blind_send _).bind fun _ => blind_pure _
  refine hsend.bind fun final => ?_
  exact .bind (blind_update fun _ _ _ => ⟨rfl, rfl, rfl, rfl⟩) fun _ => blind_pure _

theorem blind_receiveAck (block : UInt16) : (receiveAck block).Blind t := by
  refine blind_session (fun s => ?_) fun _ _ _ => rfl
  split
  · split
    · exact blind_pure _
    · exact .bind (blind_update fun _ _ _ => ⟨rfl, rfl, rfl, rfl⟩) fun _ => blind_sendBlock
  · split
    · exact (blind_noteDuplicate block).bind fun _ => blind_pure _
    · exact blind_fail _

theorem blind_sendFirst : sendFirst.Blind t :=
  .bind (blind_update fun _ _ _ => ⟨rfl, rfl, rfl, rfl⟩) fun _ => blind_sendBlock

/-! ### Requests -/

/-- What is granted depends on the request and the size of the file alone. -/
theorem blind_grant (requested : Options) (sizeReply : Option Nat) :
    (grant requested sizeReply).Blind t :=
  .bind (blind_update fun _ _ _ => ⟨rfl, rfl, rfl, rfl⟩) fun _ => blind_pure _

/-- Only a session that serves goes on, and only for a request that can be taken up. -/
theorem blind_vet {filename mode : String} {k : Service → Act α}
    (hk : ∀ service, requestViolation? filename mode = none → t.role.service? = some service →
      (k service).Blind t) : (vet filename mode >>= k).Blind t := by
  have hvet : (vet filename mode).Blind t := by
    unfold vet
    cases requestViolation? filename mode with
    | some v => exact fun _ _ hxy => .error _ hxy
    | none =>
      refine blind_session (fun s => ?_) fun _ _ _ => rfl
      cases s.role.service? with
      | none => exact blind_fail _
      | some service => exact blind_pure service
  refine hvet.bind_of fun x y service x' hxy hrun => ?_
  have hadmits : (vet filename mode).Ends x
      (fun service _ => Admits x.session filename mode service) fun _ _ => True :=
    ends_vet (fun _ h => h) fun _ => trivial
  have hadmits := hadmits.ok hrun
  exact hk service hadmits.plain (hxy.role ▸ hadmits.serving)

/-- A resolver is asked by name and answers without the files. -/
theorem blind_resolve (service : Service) (filename : String) :
    (openServed.resolve service filename).Blind t := by
  unfold openServed.resolve
  cases service.resolver with
  | none => exact blind_fail _
  | some resolver =>
    refine (blind_record _).bind fun _ => ?_
    cases resolver filename with
    | none => exact blind_fail _
    | some resolution =>
      cases resolution with
      | content node => exact blind_pure _
      | crash => exact blind_crash

/-- An act may go by whatever the two scenes have in common. -/
theorem blind_get {k : Scene → Act α}
    (hk : ∀ x y, t.Pairs x y → k y = k x ∧ (k x).Blind t) : (get >>= k).Blind t := by
  intro x y hxy
  obtain ⟨hsame, hparallel⟩ := hk x y hxy
  change t.Ends ((k x).run x) ((k y).run y)
  rw [hsame]
  exact hparallel x y hxy

/-- A file that is read alike is found on both sides or on neither. -/
theorem blind_openServed {service : Service} {filename : String}
    (hpath : t.Reads (Path.join service.root filename)) :
    (openServed service filename).Blind t := by
  refine (blind_record _).bind fun _ => blind_get fun x y hxy => ?_
  have hfind := hpath hxy.hosts
  dsimp only
  refine ⟨by rw [Store.look_congr hfind, Store.openNode_congr hfind], ?_⟩
  have hresolve := @blind_resolve t service filename
  cases x.host.store.look (Path.join service.root filename) with
  | error f =>
    change Blind t (ite (f.kind = .notFound) _ _)
    split
    · exact hresolve
    · exact blind_fail _
  | ok node =>
    change Blind t (ite (node.isFile = true) _ _)
    split
    · cases x.host.store.openNode (Path.join service.root filename) with
      | ok node => exact blind_pure _
      | error f => exact blind_fail _
    · exact hresolve

theorem blind_createServed {service : Service} {filename : String}
    (hpath : t.Makes (Path.join service.root filename)) :
    (createServed service filename).Blind t := by
  refine (blind_record _).bind fun _ x y hxy => ?_
  rw [EStateM.run_bind, EStateM.run_bind, EStateM.run_get, EStateM.run_get]
  dsimp only
  unfold Stream.create
  rcases hpath hxy.hosts with ⟨f, hx, hy⟩ | ⟨store, store', hx, hy, hagree, hallowed⟩
  · rw [hx, hy]
    exact .error _ hxy
  · rw [hx, hy]
    have hmade : t.Pairs ⟨x.session, { x.host with store }, x.deeds⟩
        ⟨y.session, { y.host with store := store' }, y.deeds⟩ :=
      hxy.work hagree hxy.deeds
    refine .ok () (hmade.stream ?_)
    rintro path ⟨⟩
    exact hallowed

/-- What is served is read and never written. -/
theorem served_of_openServed {service : Service} {filename : String} {scene scene' : Scene}
    {served : Stream × Option Nat}
    (h : (openServed service filename).run scene = .ok served scene') :
    ∃ node, served.1 = .ofNode node := by
  have hends : (openServed service filename).Ends (scene.become scene.session)
      (fun served _ => ∃ node, served.1 = .ofNode node)
      (Setback scene (.request .read filename "" ∅)) :=
    openServed_ends fun node _ _ _ => ⟨node, rfl⟩
  exact hends.ok h

/-- A request to read is met alike, if the file that it names is read alike. -/
theorem blind_serveRead {filename mode : String} (requested : Options) (source : Endpoint)
    (hpath : ∀ service, requestViolation? filename mode = none →
      t.role.service? = some service → t.Reads (Path.join service.root filename)) :
    (serveRead filename mode requested source).Blind t := by
  refine .bind (blind_update fun _ _ _ => ⟨rfl, rfl, rfl, rfl⟩) fun _ => ?_
  refine blind_vet fun service hplain hservice => ?_
  refine (blind_openServed (hpath service hplain hservice)).bind_of
    fun x y (stream, size) x' hxy hrun => ?_
  obtain ⟨node, rfl⟩ := served_of_openServed hrun
  refine (blind_stream fun _ => Stream.noConfusion).bind fun _ => ?_
  refine (blind_grant _ _).bind fun granted => ?_
  split
  · exact blind_sendFirst
  · refine (blind_send _).bind fun _ => ?_
    exact .bind (blind_update fun _ _ _ => ⟨rfl, rfl, rfl, rfl⟩) fun _ => blind_pure _

theorem blind_serveWrite {filename mode : String} (requested : Options) (source : Endpoint)
    (hpath : ∀ service, requestViolation? filename mode = none →
      t.role.service? = some service → t.Makes (Path.join service.root filename)) :
    (serveWrite filename mode requested source).Blind t := by
  refine .bind (blind_update fun _ _ _ => ⟨rfl, rfl, rfl, rfl⟩) fun _ => ?_
  refine blind_vet fun service hplain hservice => ?_
  refine (blind_createServed (hpath service hplain hservice)).bind fun _ => ?_
  refine (blind_grant _ _).bind fun granted => ?_
  change Blind t (ite (granted.isEmpty = true) (sendAck 0 >>= _) (send _ >>= _))
  split
  all_goals
    refine (blind_send _).bind fun _ => ?_
    exact .bind (blind_update fun _ _ _ => ⟨rfl, rfl, rfl, rfl⟩) fun _ => blind_pure _

/-- A packet that opens a server's session may be handled if its file may be read or made. -/
theorem blind_takeUp {packet : Packet} (source : Endpoint)
    (hreads : ∀ service, t.role.service? = some service → ∀ path ∈ service.path? packet,
      t.Reads path)
    (hmakes : ∀ service, t.role.service? = some service → ∀ path ∈ service.target? packet,
      t.Makes path) : (takeUp packet source).Blind t := by
  cases packet with
  | request direction filename mode options =>
    cases direction with
    | read =>
      exact blind_serveRead options source fun service hplain hservice =>
        hreads service hservice _ (if_pos hplain)
    | write =>
      exact blind_serveWrite options source fun service hplain hservice =>
        hmakes service hservice _ (if_pos hplain)
  | data | ack | error | optionAck => exact blind_fail _

/-! ### Replies -/

/-- Terms are taken up or refused on both sides. -/
theorem blind_adopt (granted : Options) : (adopt granted).Blind t := by
  refine blind_session (fun s => ?_) fun _ _ _ => rfl
  cases Terms.agree s.requested granted with
  | ok terms => exact blind_update fun _ _ _ => ⟨rfl, rfl, rfl, rfl⟩
  | error d => exact blind_fail _

/-- A download answers alike what it hears first. -/
theorem blind_replyToRead (packet : Packet) (source : Endpoint) :
    (replyToRead packet source).Blind t := by
  refine .bind (blind_update fun _ _ _ => ⟨rfl, rfl, rfl, rfl⟩) fun _ => ?_
  cases packet with
  | optionAck granted =>
    refine (blind_adopt granted).bind fun _ => (blind_send _).bind fun _ => ?_
    exact .bind (blind_update fun _ _ _ => ⟨rfl, rfl, rfl, rfl⟩) fun _ => blind_pure _
  | data block payload =>
    refine .bind (blind_update fun _ _ _ => ⟨rfl, rfl, rfl, rfl⟩) fun _ => ?_
    refine .bind (blind_update fun _ _ _ => ⟨rfl, rfl, rfl, rfl⟩) fun _ => ?_
    exact blind_receiveData block payload
  | ack | error | request => exact blind_fail _

theorem blind_replyToWrite (packet : Packet) (source : Endpoint) :
    (replyToWrite packet source).Blind t := by
  refine .bind (blind_update fun _ _ _ => ⟨rfl, rfl, rfl, rfl⟩) fun _ => ?_
  cases packet with
  | optionAck granted => exact (blind_adopt granted).bind fun _ => blind_sendFirst
  | ack block =>
    change Blind t (ite (block = 0) (update _ >>= fun _ => sendFirst) _)
    split
    · exact .bind (blind_update fun _ _ _ => ⟨rfl, rfl, rfl, rfl⟩) fun _ => blind_sendFirst
    · exact blind_pure _
  | data | error | request => exact blind_fail _

/-! ### Packets and silence -/

/-- **A packet is met alike.**  Only one that opens a session looks at files that are not open yet,
and these have to be let through. -/
theorem alike_handle {packet : Packet} (source : Endpoint) (hxy : t.Pairs x y)
    (hlets : t.Lets x.session packet) :
    t.Ends ((handle packet source).run x) ((handle packet source).run y) := by
  refine alike_session hxy (fun _ _ _ => rfl) ?_
  split
  · exact .error _ hxy
  · cases hphase : x.session.phase with
    | idle => exact blind_takeUp source (hlets.reads hphase) (hlets.makes hphase) x y hxy
    | requested =>
      cases x.session.role with
      | download => exact blind_replyToRead packet source x y hxy
      | upload => exact blind_replyToWrite packet source x y hxy
      | serve => exact .error _ hxy
    | awaitingData =>
      cases packet with
      | data block payload => exact blind_receiveData block payload x y hxy
      | ack | error | request | optionAck => exact .error _ hxy
    | awaitingAck | offering =>
      cases packet with
      | ack block => exact blind_receiveAck block x y hxy
      | data | error | request | optionAck => exact .error _ hxy
    | done | failed => exact .error _ hxy

/-- Those who watch are shown it on both sides. -/
theorem alike_dispatch {packet : Packet} (source : Endpoint) (hxy : t.Pairs x y)
    (hlets : t.Lets x.session packet) :
    t.Ends ((dispatch packet source).run x) ((dispatch packet source).run y) := by
  have hrest : ∀ {x y : Scene}, t.Pairs x y → t.Lets x.session packet →
      t.Ends ((handle packet source >>= fun phase =>
          update fun s => { s with phase, retries := 0 }).run x)
        ((handle packet source >>= fun phase =>
          update fun s => { s with phase, retries := 0 }).run y) := by
    intro x y hxy hlets
    refine alike_then (alike_handle source hxy hlets) fun phase => ?_
    exact blind_update fun _ _ _ => ⟨rfl, rfl, rfl, rfl⟩
  refine alike_session hxy (fun _ _ _ => rfl) ?_
  change t.Ends (EStateM.run (ite (x.session.watched = true) _ _) x)
    (EStateM.run (ite (x.session.watched = true) _ _) y)
  split
  · refine alike_bind (blind_record _ x y hxy) fun _ x' y' hrun h => hrest h ?_
    rw [run_record] at hrun
    cases hrun
    exact hlets
  · exact hrest hxy hlets

/-- What goes out again does so on both sides. -/
theorem blind_resend : resend.Blind t := by
  refine blind_session (fun s => ?_) fun _ _ _ => rfl
  cases s.lastSent with
  | none => exact blind_pure ()
  | some p =>
    refine (blind_count fun _ _ => rfl).bind fun _ => (blind_noteDuplicate _).bind fun _ => ?_
    refine (blind_transmit _ _).bind fun _ => blind_now.bind fun _ => ?_
    exact blind_update fun _ _ _ => ⟨rfl, rfl, rfl, rfl⟩

/-- Both sides are out of patience together. -/
theorem blind_retry : retry.Blind t := by
  refine blind_session (fun s => ?_) fun _ _ _ => rfl
  have hresend : (update (fun s => { s with retries := s.retries + 1 }) >>= fun _ =>
      resend).Blind t :=
    .bind (blind_update fun _ _ _ => ⟨rfl, rfl, rfl, rfl⟩) fun _ => blind_resend
  split
  · exact (blind_fail _).bind fun _ => hresend
  · exact hresend

/-- A waiting session takes in an arrival. -/
theorem alike_hear (arrival : Arrival) (hxy : t.Pairs x y)
    (hlets : ∀ packet, t.Lets x.session packet) :
    t.Ends ((hear arrival).run x) ((hear arrival).run y) := by
  cases arrival with
  | silence => exact .ok _ hxy
  | fault f => exact .error _ hxy
  | datagram source bytes =>
    refine alike_session hxy (fun _ _ _ => rfl) ?_
    split
    · exact alike_then (blind_count (fun _ _ => rfl) x y hxy) fun _ => blind_pure _
    · refine alike_bind (blind_now x y hxy) fun time x₁ y₁ hrun h => ?_
      rw [run_now] at hrun
      cases hrun
      have hupdate : (update fun s => { s with heardAt := x.host.clock + 1 }).Blind t :=
        blind_update fun _ _ _ => ⟨rfl, rfl, rfl, rfl⟩
      refine alike_bind (hupdate _ y₁ h) fun _ x₂ y₂ hrun h => ?_
      rw [run_update] at hrun
      cases hrun
      cases Packet.decode (bytes.take longestPacket) with
      | ok packet =>
        have hlets : t.Lets { x.session with heardAt := x.host.clock + 1 } packet :=
          ⟨(hlets packet).reads, (hlets packet).makes⟩
        refine alike_then (alike_dispatch source h hlets) fun _ => ?_
        exact blind_pure _
      | error m =>
        refine alike_session h (fun _ _ _ => rfl) ?_
        split
        · exact .error _ h
        · exact alike_then (blind_count (fun _ _ => rfl) _ y₂ h) fun _ => blind_pure _

/-- An arrival is met alike. -/
theorem alike_step (arrival : Arrival) (hxy : t.Pairs x y)
    (hlets : ∀ packet, t.Lets x.session packet) :
    t.Ends ((step arrival).run x) ((step arrival).run y) := by
  refine alike_bind (alike_hear arrival hxy hlets) fun heard x' y' _ h => ?_
  cases heard with
  | processed => exact .ok () h
  | timedOut => exact blind_retry x' y' h
  | discarded =>
    refine alike_session h (fun _ _ _ => rfl) ?_
    refine alike_then (blind_now x' y' h) fun time => ?_
    split
    · exact blind_retry
    · exact blind_pure ()

/-- The last words are the same, and so is what comes of sending them. -/
theorem blind_notify (f : Failure) : (notify f).Blind t := by
  unfold notify
  cases f.notice with
  | none => exact blind_pure ()
  | some notice => exact (blind_attempt _ _).bind fun _ => blind_pure ()

end Act

/-! ### Runs -/

/-- An ending with so many more datagrams dropped. -/
def Ending.guised (extra : Nat) : Ending → Ending
  | completed tally => completed { tally with discarded := extra + tally.discarded }
  | failed f tally => failed f { tally with discarded := extra + tally.discarded }
  | crashed => crashed

@[simp] theorem Ending.guised_zero (ending : Ending) : ending.guised 0 = ending := by
  cases ending <;> simp [guised]

namespace Run

/-- A run that has dropped so many datagrams more. -/
def dropping (n : Nat) : Run → Run
  | waiting s => waiting { s with tally := { s.tally with discarded := n + s.tally.discarded } }
  | ended ending => ended (ending.guised n)

@[simp] theorem dropping_zero (run : Run) : run.dropping 0 = run := by
  cases run <;> simp [dropping]

/-- Two runs after the same step: both wait, or both have ended in the same way. -/
inductive Tied (t : Tie) : Run × Host × List Deed → Run × Host × List Deed → Prop where
  | waiting {x y : Scene} (timeout : Nat) (h : t.Pairs x y) :
    Tied t (.waiting x.session, x.host.wait timeout, x.deeds)
      (.waiting y.session, y.host.wait timeout, y.deeds)
  | ended {x y : Scene} (ending : Ending) (h : t.Pairs x y) :
    Tied t (.ended ending, x.host.release t.left, x.deeds)
      (.ended (ending.guised t.extra), y.host.release t.right, y.deeds)

variable {t : Tie} {x y : Scene}

/-- Runs that end on paired scenes are tied. -/
theorem tied_ended (ending : Ending) (h : t.Pairs x y) :
    Tied t (.ended ending, x.host.release x.session.port, x.deeds)
      (.ended (ending.guised t.extra), y.host.release y.session.port, y.deeds) := by
  rw [h.session, h.port]
  exact .ended ending h

/-- The clock is read a last time, and the tallies are closed. -/
theorem tied_last {ending : Tally → Ending} (h : t.Pairs x y)
    (hending : ∀ tally, ending { tally with discarded := t.extra + tally.discarded } =
      (ending tally).guised t.extra) :
    Tied t
      (.ended (ending (x.session.tally.finish (x.host.clock + 1))),
        Host.release { x.host with clock := x.host.clock + 1 } x.session.port, x.deeds)
      (.ended (ending (y.session.tally.finish (y.host.clock + 1))),
        Host.release { y.host with clock := y.host.clock + 1 } y.session.port, y.deeds) := by
  have hticked : t.Pairs x.tick y.tick := h.work (t.tick h.hosts) h.deeds
  have htally : y.session.tally.finish (y.host.clock + 1) =
      { x.session.tally.finish (x.host.clock + 1) with
        discarded := t.extra + (x.session.tally.finish (x.host.clock + 1)).discarded } := by
    rw [h.session, t.clock h.hosts]
    rfl
  rw [htally, hending]
  exact tied_ended _ hticked

/-- Sessions that fail together end alike. -/
theorem finish_some_tied (f : Failure) (h : t.Pairs x y) :
    Tied t (finish (some f) x) (finish (some f) y) := by
  have hends := Act.blind_notify f x y h
  rw [run_notify, run_notify] at hends
  rcases hends with ⟨-, hnotified⟩
  rw [finish_some, finish_some, ← notified_clock f x, ← notified_clock f y,
    ← notified_session f x, ← notified_session f y]
  exact tied_last hnotified fun _ => rfl

/-- The files fail alike at their end. -/
theorem closeFault_tied (h : t.Pairs x y) :
    y.session.stream.closeFault y.host = x.session.stream.closeFault x.host := by
  rw [h.same_stream]
  cases hwriting : x.session.stream with
  | closed | reading => rfl
  | writing target =>
    cases target with
    | output => rfl
    | file path =>
      rw [Stream.closeFault, Stream.closeFault, t.find? h.hosts (h.writes path hwriting)]

/-- However they come out, paired sessions end alike. -/
theorem finish_tied (outcome : Option Failure) (h : t.Pairs x y) :
    Tied t (finish outcome x) (finish outcome y) := by
  match outcome with
  | some f => exact finish_some_tied f h
  | none =>
    cases hclose : x.session.stream.closeFault x.host with
    | some fault =>
      rw [finish_fault hclose, finish_fault ((closeFault_tied h).trans hclose)]
      exact finish_some_tied _ h.flushing
    | none =>
      rw [finish_none hclose, finish_none ((closeFault_tied h).trans hclose)]
      exact tied_last h.flushing fun _ => rfl

/-- Acts that end alike leave runs that are tied. -/
theorem settle_tied {act : Act Unit} {s s' : Session} {host host' : Host}
    (h : t.Ends (act.run ⟨s, host, []⟩) (act.run ⟨s', host', []⟩)) :
    Tied t (settle act s host) (settle act s' host') := by
  unfold settle
  generalize act.run ⟨s, host, []⟩ = r at h
  generalize act.run ⟨s', host', []⟩ = r' at h
  cases h with
  | @ok _ x y h =>
    have hphase : y.session.phase = x.session.phase := by rw [h.session]; rfl
    have htiming : y.session.timing = x.session.timing := by rw [h.session]; rfl
    dsimp only
    rw [hphase, htiming]
    split
    · exact finish_tied none h
    · exact .waiting _ h
  | error halt h =>
    cases halt with
    | failure f => exact finish_tied (some f) h
    | crash => exact tied_ended .crashed h

/-- **One step.**  Two sessions that are tied take the same step. -/
theorem step_tied {s s' : Session} {host host' : Host}
    (h : t.Pairs ⟨s, host, []⟩ ⟨s', host', []⟩) (hlets : ∀ packet, t.Lets s packet)
    (arrival : Arrival) :
    Tied t ((waiting s).step arrival host) ((waiting s').step arrival host') :=
  settle_tied (Act.alike_step arrival h hlets)

/-- **The opening.**  Two sessions that are tied open in the same way. -/
theorem start_tied {s s' : Session} {host host' : Host} {packet : Packet} (source : Endpoint)
    (h : t.Pairs ⟨s, host, []⟩ ⟨s', host', []⟩) (hlets : t.Lets s packet) :
    Tied t (start s (.answer packet source) host) (start s' (.answer packet source) host') :=
  settle_tied (Act.alike_dispatch source h hlets)

variable {a : Accord} {role : Role} {port : UInt16} {extra : Nat}
  {result result' : Run × Host × List Deed}

/-- What ties two runs at one port says of what they come to. -/
theorem Tied.beside (h : Tied (.beside a role port extra) result result') :
    ∃ store, a.agree result.2.1.store store ∧
      result' = (result.1.dropping extra, { result.2.1 with store }, result.2.2) := by
  cases h with
  | @waiting x y timeout h =>
    have hport : x.session.port = port := h.port
    have hsession : y.session = x.session.guised x.session.port extra := by
      rw [hport]
      exact h.session
    have hdeeds : y.deeds = x.deeds := by simpa [Tie.beside] using h.deeds
    refine ⟨y.host.store, h.hosts.2, ?_⟩
    rw [hsession, hdeeds]
    exact congrArg (fun host : Host => (_, host.wait timeout, _)) h.hosts.1
  | @ended x y ending h =>
    have hdeeds : y.deeds = x.deeds := by simpa [Tie.beside] using h.deeds
    refine ⟨y.host.store, h.hosts.2, ?_⟩
    rw [hdeeds]
    exact congrArg (fun host : Host => (_, host.release port, _)) h.hosts.1

/-- A session that waits keeps its role, and writes only to a file that is allowed. -/
theorem Tied.beside_waiting (h : Tied (.beside a role port extra) result result') {s : Session}
    (hrun : result.1 = .waiting s) :
    s.role = role ∧ ∀ path, s.stream = .writing (.file path) → a.allowed path := by
  cases h with
  | waiting timeout h =>
    cases hrun
    exact ⟨h.role, h.writes⟩
  | ended => exact nomatch hrun

end Run

end TrivialFtp
