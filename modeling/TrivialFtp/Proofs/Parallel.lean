import TrivialFtp.Proofs.Ties

/-!
# Proofs: two runs of one session

A session at two ports, on hosts that agree on the files it uses and on the time, does the same
things at both.  What ties two such runs together is a bond; every act keeps it, so that a whole
step of the session does.

- `Bond`: the two runs, the files the session may use, and what the stores agree on.
- `Bond.Pairs`, `Bond.Ends`: two scenes, and two ends of an act, that are alike.
- `Act.Parallel`: acts that keep every pair of scenes alike.
- `Run.start_level`, `Run.step_level`: how a session opens and what it does after that.
-/

namespace TrivialFtp

/-- What a session leaves of a host as it is for as long as it works. -/
structure Host.Keeps (host host' : Host) : Prop where
  ports : host'.ports = host.ports
  nextPort : host'.nextPort = host.nextPort
  bindFault : host'.bindFault = host.bindFault
  sendFault : host'.sendFault = host.sendFault

theorem Host.Keeps.refl (host : Host) : host.Keeps host := ⟨rfl, rfl, rfl, rfl⟩

theorem Host.Keeps.trans {host host₁ host₂ : Host} (h : host.Keeps host₁) (h' : host₁.Keeps host₂) :
    host.Keeps host₂ :=
  ⟨h'.ports.trans h.ports, h'.nextPort.trans h.nextPort, h'.bindFault.trans h.bindFault,
    h'.sendFault.trans h.sendFault⟩

/-- Nothing keeps a datagram from being sent. -/
def Host.Calm (host : Host) : Prop := ∀ n, host.sendFault n = none

/-- A deed without the port that it was done at. -/
def Deed.unplaced : Deed → Deed
  | .sent d again => .sent { d with source := 0 } again
  | .unsent d fault => .unsent { d with source := 0 } fault
  | .observed packet => .observed packet
  | .touched path => .touched path
  | .consulted name => .consulted name
  | .flushed target => .flushed target

/-- A session that moved to another port. -/
def Session.moved (s : Session) (port : UInt16) : Session := { s with port }

/-- What ties two runs of one session together: the host and the port that each began with, the
files that the session may use, and what the two stores agree on. -/
structure Bond where
  role : Role
  left : Host
  right : Host
  leftPort : UInt16
  rightPort : UInt16
  calm : left.Calm ∧ right.Calm
  allowed : String → Prop
  agree : Store → Store → Prop
  find? : ∀ {store store' : Store} {path : String}, agree store store' → allowed path →
    store'.find? path = store.find? path
  set : ∀ {store store' : Store} {path : String} (node : Node), agree store store' →
    allowed path → agree (store.set path node) (store'.set path node)

namespace Bond

/-- Two scenes of the two runs, alike but for the ports and for files that are not the
session's. -/
structure Pairs (b : Bond) (x y : Scene) : Prop where
  session : y.session = x.session.moved b.rightPort
  port : x.session.port = b.leftPort
  role : x.session.role = b.role
  writes : ∀ path, x.session.stream = .writing (.file path) → b.allowed path
  clock : y.host.clock = x.host.clock
  left : b.left.Keeps x.host
  right : b.right.Keeps y.host
  store : b.agree x.host.store y.host.store
  deeds : y.deeds.map Deed.unplaced = x.deeds.map Deed.unplaced

variable {b : Bond} {store store' : Store} {path : String}

/-- The two stores say the same of a path. -/
def Reads (b : Bond) (path : String) : Prop :=
  ∀ ⦃store store'⦄, b.agree store store' → store'.find? path = store.find? path

/-- A file is made at a path in both stores or in neither, and only if the session may use it. -/
def Makes (b : Bond) (path : String) : Prop :=
  ∀ ⦃store store'⦄, b.agree store store' →
    (∃ f, store.create path = .error f ∧ store'.create path = .error f) ∨
      ∃ made made', store.create path = .ok made ∧ store'.create path = .ok made' ∧
        b.agree made made' ∧ b.allowed path

/-- What is allowed is read alike on both sides. -/
theorem reads_of_allowed (hpath : b.allowed path) : b.Reads path :=
  fun _ _ hagree => b.find? hagree hpath

theorem makes_of_allowed (hpath : b.allowed path) : b.Makes path := by
  intro store store' hagree
  rcases Store.create_congr (b.find? hagree hpath) with ⟨f, h, h'⟩ | ⟨node, h, h'⟩
  · exact .inl ⟨f, h, h'⟩
  · exact .inr ⟨_, _, h, h', b.set node hagree hpath, hpath⟩

/-! ### A bond is a tie -/

/-- A change of the files keeps everything else of a host. -/
theorem keeps_store (host : Host) (store : Store) : host.Keeps { host with store } :=
  ⟨rfl, rfl, rfl, rfl⟩

/-- Whether a datagram is sent depends on its length alone. -/
theorem transmit_of_calm {host : Host} (h : host.Calm) (d : Datagram) :
    (host.transmit d).1 =
      if Host.longestDatagram < d.bytes.length then some .messageTooLong else none := by
  simp only [Host.transmit, h host.sends]

/-- A host stays calm whatever is done on it. -/
theorem calm_of_keeps {host host' : Host} (h : host.Keeps host') (hcalm : host.Calm) :
    host'.Calm :=
  fun n => (congrFun h.sendFault n).trans (hcalm n)

/-- Two hosts in the course of the two runs. -/
structure Hosts (b : Bond) (host host' : Host) : Prop where
  clock : host'.clock = host.clock
  left : b.left.Keeps host
  right : b.right.Keeps host'
  store : b.agree host.store host'.store

/-- The two runs are tied: they differ in the port, so that it is left out of their deeds. -/
def tie (b : Bond) : Tie where
  role := b.role
  left := b.leftPort
  right := b.rightPort
  extra := 0
  shown := Deed.unplaced
  allowed := b.allowed
  hosts := b.Hosts
  sent _ _ _ := rfl
  unsent _ _ _ := rfl
  clock h := h.clock
  tick h := ⟨congrArg (· + 1) h.clock, h.left.trans ⟨rfl, rfl, rfl, rfl⟩,
    h.right.trans ⟨rfl, rfl, rfl, rfl⟩, h.store⟩
  transmit target bytes h := by
    rw [transmit_of_calm (calm_of_keeps h.left b.calm.1),
      transmit_of_calm (calm_of_keeps h.right b.calm.2)]
  sends h := ⟨h.clock, h.left.trans ⟨rfl, rfl, rfl, rfl⟩, h.right.trans ⟨rfl, rfl, rfl, rfl⟩,
    h.store⟩
  output _ h := ⟨h.clock, h.left.trans ⟨rfl, rfl, rfl, rfl⟩, h.right.trans ⟨rfl, rfl, rfl, rfl⟩,
    h.store⟩
  find? h hpath := b.find? h.store hpath
  set node h hpath := ⟨h.clock, h.left.trans (keeps_store _ _), h.right.trans (keeps_store _ _),
    b.set node h.store hpath⟩

/-- Without a shift of time a session in another guise is one at another port. -/
theorem guised_zero (s : Session) (port : UInt16) : s.guised port 0 = s.moved port := by
  simp [Session.guised, Session.moved]

/-- What a bond pairs, its tie pairs. -/
theorem pairs_tie {x y : Scene} : b.tie.Pairs x y ↔ b.Pairs x y := by
  constructor
  · intro h
    exact ⟨h.session.trans (guised_zero _ _), h.port, h.role, h.writes, h.hosts.clock, h.hosts.left,
      h.hosts.right, h.hosts.store, h.deeds⟩
  · intro h
    exact ⟨h.session.trans (guised_zero _ _).symm, h.port, h.role, h.writes,
      ⟨h.clock, h.left, h.right, h.store⟩, h.deeds⟩

/-- What is read alike under a bond is read alike under its tie. -/
theorem Reads.tie (h : b.Reads path) : b.tie.Reads path := fun _ _ hhosts => h hhosts.store

theorem Makes.tie (h : b.Makes path) : b.tie.Makes path := by
  intro host host' hhosts
  rcases h hhosts.store with hfails | ⟨made, made', hmade, hmade', hagree, hallowed⟩
  · exact .inl hfails
  · exact .inr ⟨made, made', hmade, hmade', ⟨hhosts.clock, hhosts.left.trans (keeps_store _ _),
      hhosts.right.trans (keeps_store _ _), hagree⟩, hallowed⟩

end Bond

namespace Act

/-- If a packet opens the session, the file it is about may be read or made. -/
structure Lets (b : Bond) (s : Session) (packet : Packet) : Prop where
  reads : s.phase = .idle → ∀ service, b.role.service? = some service →
    ∀ path ∈ service.path? packet, b.Reads path
  makes : s.phase = .idle → ∀ service, b.role.service? = some service →
    ∀ path ∈ service.target? packet, b.Makes path

theorem Lets.tie {b : Bond} {s : Session} {packet : Packet} (h : Lets b s packet) :
    b.tie.Lets s packet where
  reads hidle service hservice path hpath := (h.reads hidle service hservice path hpath).tie
  makes hidle service hservice path hpath := (h.makes hidle service hservice path hpath).tie

end Act

namespace Run

/-- Two runs after the same step: both wait, or both have ended in the same way. -/
inductive Level (b : Bond) : Run × Host × List Deed → Run × Host × List Deed → Prop where
  | waiting {x y : Scene} (timeout : Nat) (h : b.Pairs x y) :
    Level b (.waiting x.session, x.host.wait timeout, x.deeds)
      (.waiting y.session, y.host.wait timeout, y.deeds)
  | ended {x y : Scene} (ending : Ending) (h : b.Pairs x y) :
    Level b (.ended ending, x.host.release b.leftPort, x.deeds)
      (.ended ending, y.host.release b.rightPort, y.deeds)

variable {b : Bond}

/-- Results that are tied are level. -/
theorem Tied.level {result result' : Run × Host × List Deed} (h : Tied b.tie result result') :
    Level b result result' := by
  cases h with
  | waiting timeout h => exact .waiting timeout (Bond.pairs_tie.1 h)
  | @ended x y ending h =>
    rw [show ending.guised b.tie.extra = ending from ending.guised_zero]
    exact .ended ending (Bond.pairs_tie.1 h)

/-- Two sessions that are alike take the same step. -/
theorem step_level {s t : Session} {left right : Host}
    (h : b.Pairs ⟨s, left, []⟩ ⟨t, right, []⟩) (hphase : s.phase ≠ .idle) (arrival : Arrival) :
    Level b ((waiting s).step arrival left) ((waiting t).step arrival right) :=
  (step_tied (Bond.pairs_tie.2 h) (fun _ => .of_ne_idle hphase) arrival).level

/-- Two sessions that are alike open in the same way. -/
theorem start_level {s t : Session} {left right : Host} {packet : Packet} (source : Endpoint)
    (h : b.Pairs ⟨s, left, []⟩ ⟨t, right, []⟩) (hlets : Act.Lets b s packet) :
    Level b (start s (.answer packet source) left) (start t (.answer packet source) right) :=
  (start_tied source (Bond.pairs_tie.2 h) hlets.tie).level

end Run

end TrivialFtp
