import TrivialFtp.Proofs.Moves

/-!
# Proofs: how a waiting session stands

What can be said of every session whenever it waits, whatever it was sent and whatever its host
did: which phases its role has, which way its stream goes, and which packet it would send again.

- `Session.Standing`: the invariant.
- `Begins.waiting_standing`: every session that waits is in it, so that no stream is used the wrong
  way.
-/

namespace TrivialFtp

/-- The phases in which a session of a role waits. -/
def Role.phases : Role → List Phase
  | .download => [.requested, .awaitingData]
  | .upload => [.requested, .awaitingAck]
  | .serve _ => [.offering, .awaitingAck, .awaitingData]

/-- A download waits for blocks. -/
theorem Role.awaitingData_mem {role : Role} (h : role = .download) :
    .awaitingData ∈ role.phases := by
  rw [h]
  decide

theorem Role.awaitingAck_mem {role : Role} (h : role = .upload) : .awaitingAck ∈ role.phases := by
  rw [h]
  decide

/-- A server waits for either, and for what it offers to be taken up. -/
theorem Role.serve_mem {role : Role} {service : Service} (h : role = .serve service) :
    .offering ∈ role.phases ∧ .awaitingAck ∈ role.phases ∧ .awaitingData ∈ role.phases := by
  rw [h]
  simp [phases]

namespace Stream

/-- The stream is open for writing. -/
def IsWriting (stream : Stream) : Prop := ∃ target, stream = .writing target

/-- The stream is open for reading. -/
def IsReading (stream : Stream) : Prop := ∃ origin rest, stream = .reading origin rest

/-- To read from a stream leaves it one to read from, whatever comes of it. -/
theorem IsReading.of_read {stream stream' : Stream} {size : Nat} {result : Except Mishap Bytes}
    (h : stream.IsReading) (hread : stream.read size = (result, stream')) : stream'.IsReading := by
  obtain ⟨origin, rest, rfl⟩ := h
  exact ⟨origin, (rest.fill size).2, (congrArg Prod.snd hread).symm⟩

end Stream

/-- How a session begins: a client with a stream of the direction it moves bytes in, a server with
a packet from the peer it serves. -/
inductive Begins : Session → Opening → Prop where
  | download {port : UInt16} {remote : Endpoint} {target : Target} {requested : Options}
      {timing : Timing} {watched : Bool} {now : Nat} {filename : String} :
    Begins (.client .download port remote (.writing target) requested timing watched now)
      (.request (.octetRequest .read filename requested))
  | upload {port : UInt16} {remote : Endpoint} {origin : Origin} {rest : Node}
      {requested : Options} {timing : Timing} {watched : Bool} {now : Nat} {filename : String} :
    Begins (.client .upload port remote (.reading origin rest) requested timing watched now)
      (.request (.octetRequest .write filename requested))
  | serve {service : Service} {port : UInt16} {remote : Endpoint} {timing : Timing} {now : Nat}
      {packet : Packet} :
    Begins (.server service port remote timing now) (.answer packet remote)

namespace Session

/-- A session would send the right packet again. -/
def Resends (opening : Opening) (s : Session) (packet : Packet) : Prop :=
  match s.phase with
  | .requested => opening = .request packet
  | .offering => (∃ granted, packet = .optionAck granted) ∧ s.nextBlock = 0 ∧ s.finalSent = false
  | .awaitingAck => ∃ payload, packet = .data s.nextBlock payload ∧
      s.finalSent = decide (payload.length < s.blockSize)
  | .awaitingData => packet = .ack (s.nextBlock - 1) ∨
      ((∃ service, s.role = .serve service) ∧ (∃ granted, packet = .optionAck granted) ∧
        s.nextBlock = 1)
  | .idle | .done | .failed _ => False

/-- How a session stands while it waits. -/
structure Standing (opening : Opening) (s : Session) : Prop where
  phase : s.phase ∈ s.role.phases
  writing : s.phase = .awaitingData ∨ s.role = .download → s.stream.IsWriting
  reading : s.phase = .awaitingAck ∨ s.phase = .offering ∨ s.role = .upload → s.stream.IsReading
  pinned : s.phase ≠ .requested → s.tid.isSome
  resends : ∃ packet, s.lastSent = some packet ∧ s.Resends opening packet
  patient : s.retries ≤ s.timing.retries

variable {opening : Opening}

/-- What a session counts, and when it heard its peer, does not matter to how it stands. -/
theorem Standing.congr {s s' : Session} (h : s.Standing opening) (hphase : s'.phase = s.phase)
    (hrole : s'.role = s.role) (hstream : s'.stream = s.stream)
    (htid : s.tid.isSome → s'.tid.isSome)
    (hnext : s'.nextBlock = s.nextBlock) (hlast : s'.lastSent = s.lastSent)
    (hfinal : s'.finalSent = s.finalSent) (hterms : s'.terms = s.terms)
    (hpatient : s'.retries ≤ s'.timing.retries) : s'.Standing opening := by
  obtain ⟨packet, hsent, hresends⟩ := h.resends
  refine ⟨?_, ?_, ?_, ?_, ⟨packet, hlast ▸ hsent, ?_⟩, hpatient⟩
  · rw [hphase, hrole]
    exact h.phase
  · rw [hphase, hrole, hstream]
    exact h.writing
  · rw [hphase, hrole, hstream]
    exact h.reading
  · rw [hphase]
    exact fun hpast => htid (h.pinned hpast)
  · unfold Resends blockSize at hresends ⊢
    rwa [hphase, hrole, hnext, hfinal, hterms]

/-- A session that waits for an acknowledgement reads from its stream and knows its peer. -/
theorem Standing.sender {s : Session} (h : s.Standing opening)
    (hphase : s.phase = .awaitingAck ∨ s.phase = .offering) :
    .awaitingAck ∈ s.role.phases ∧ s.stream.IsReading ∧ s.tid.isSome := by
  have hmem := h.phase
  rcases hphase with hphase | hphase
  · exact ⟨hphase ▸ hmem, h.reading (.inl hphase), h.pinned (hphase ▸ nofun)⟩
  · refine ⟨?_, h.reading (.inr (.inl hphase)), h.pinned (hphase ▸ nofun)⟩
    rw [hphase] at hmem
    cases hrole : s.role with
    | download => simp [hrole, Role.phases] at hmem
    | upload => simp [hrole, Role.phases] at hmem
    | serve service => simp [Role.phases]

end Session

/-! ### One step -/

section Step

variable {opening : Opening} {scene scene' : Scene}

/-- Block 0 is the one before the first. -/
theorem ack_zero : Packet.ack 0 = .ack (1 - 1) := by decide

/-- A block that was taken leaves a session that waits for the next one and would acknowledge this
one again. -/
theorem Take.standing {payload : Bytes} {phase : Phase} (h : Take scene payload phase scene')
    (hrole : .awaitingData ∈ scene.session.role.phases) (hstream : scene.session.stream.IsWriting)
    (htid : scene.session.tid.isSome) (hphase : phase.isTerminal = false) :
    (scene'.enter phase).session.Standing opening := by
  obtain ⟨hwrite, hsend⟩ := h
  split at hphase
  · exact nomatch hphase
  · next hfull =>
    rw [if_neg hfull]
    refine ⟨hrole, fun _ => hstream, ?_, fun _ => htid, ⟨_, rfl, .inl ?_⟩, Nat.zero_le _⟩
    · rintro (h | h | h)
      · exact nomatch h
      · exact nomatch h
      · change scene.session.role = .upload at h
        rw [h] at hrole
        exact absurd hrole (by simp [Role.phases])
    · have hnext := Session.advance_nextBlock scene.session
      change Packet.ack scene.session.nextBlock = .ack (scene.session.advance.nextBlock - 1)
      rw [hnext, UInt16.add_sub_cancel]

/-- A block that was given leaves a session that waits for its acknowledgement and would send it
again. -/
theorem Give.standing (h : Give scene scene') (hrole : .awaitingAck ∈ scene.session.role.phases)
    (hstream : scene.session.stream.IsReading) (htid : scene.session.tid.isSome) :
    (scene'.enter .awaitingAck).session.Standing opening := by
  obtain ⟨hread, hsend⟩ := h
  refine ⟨hrole, ?_, fun _ => hstream.of_read hread, fun _ => htid, ⟨_, rfl, _, rfl, rfl⟩,
    Nat.zero_le _⟩
  rintro (h | h)
  · exact nomatch h
  · change scene.session.role = .download at h
    rw [h] at hrole
    exact absurd hrole (by simp [Role.phases])

/-- **Every turn leaves a session standing.**  The cases are those of the protocol: what the session
has sent in answer to the packet is what it would send again. -/
theorem Turn.standing {source : Endpoint} {packet : Packet} {phase phase' : Phase}
    (h : Turn source scene phase packet phase' scene') (hbefore : scene.session.phase = phase)
    (hstanding : phase ≠ .idle → scene.session.Standing opening)
    (hidle : phase = .idle → ∃ service, scene.session.role = .serve service)
    (hphase : phase'.isTerminal = false) : (scene'.enter phase').session.Standing opening := by
  cases h with
  | block htake =>
    have hs := hstanding nofun
    refine htake.standing ?_ (hs.writing (.inl hbefore)) (hs.pinned ?_) hphase
    · exact hbefore ▸ hs.phase
    · exact hbefore ▸ nofun
  | oldBlock =>
    have hs := hstanding nofun
    exact hs.congr hbefore.symm rfl rfl id rfl rfl rfl rfl (Nat.zero_le _)
  | lastAck => exact nomatch hphase
  | ack hsender hfinal hgive =>
    have hs := hstanding (by rintro rfl; simp at hsender)
    obtain ⟨hrole, hstream, htid⟩ := hs.sender (hbefore ▸ hsender)
    exact hgive.standing hrole hstream htid
  | @oldAck block _ hsender hold =>
    have hs := hstanding (by rintro rfl; simp at hsender)
    rcases hsender with hsender | hsender
    · exact hs.congr (hsender.symm.trans hbefore.symm) rfl rfl id rfl rfl rfl rfl (Nat.zero_le _)
    · obtain ⟨packet, -, hresends⟩ := hs.resends
      unfold Session.Resends at hresends
      rw [hbefore, hsender] at hresends
      rw [hresends.2.1] at hold
      exact absurd hold (Nat.not_lt_zero _)
  | grantedRead hrole hagree hsend =>
    have hs := hstanding nofun
    refine ⟨Role.awaitingData_mem hrole, fun _ => hs.writing (.inr hrole), ?_, fun _ => rfl,
      ⟨_, rfl, .inl ack_zero⟩, Nat.zero_le _⟩
    rintro (h | h | h)
    · exact nomatch h
    · exact nomatch h
    · exact nomatch hrole.symm.trans h
  | firstBlock hrole htake =>
    have hs := hstanding nofun
    exact htake.standing (Role.awaitingData_mem hrole) (hs.writing (.inr hrole)) rfl hphase
  | grantedWrite hrole hagree hgive =>
    have hs := hstanding nofun
    exact hgive.standing (Role.awaitingAck_mem hrole) (hs.reading (.inr (.inr hrole))) rfl
  | firstAck hrole hgive =>
    have hs := hstanding nofun
    exact hgive.standing (Role.awaitingAck_mem hrole) (hs.reading (.inr (.inr hrole))) rfl
  | strayAck hrole hzero =>
    have hs := hstanding nofun
    exact hs.congr hbefore.symm rfl rfl (fun _ => rfl) rfl rfl rfl rfl (Nat.zero_le _)
  | offered hadmits hserved hgranted hsend =>
    obtain ⟨service, hrole⟩ := hidle rfl
    refine ⟨(Role.serve_mem hrole).1, ?_, fun _ => ⟨_, _, rfl⟩, fun _ => rfl,
      ⟨_, rfl, ⟨_, rfl⟩, rfl, rfl⟩, Nat.zero_le _⟩
    rintro (h | h)
    · exact nomatch h
    · exact nomatch hrole.symm.trans h
  | served hadmits hserved hgranted hgive =>
    obtain ⟨service, hrole⟩ := hidle rfl
    exact hgive.standing (Role.serve_mem hrole).2.1 ⟨_, _, rfl⟩ rfl
  | @created _ _ requested granter _ _ hadmits hcreate hsend =>
    obtain ⟨service, hrole⟩ := hidle rfl
    obtain ⟨rfl, -⟩ := Stream.create_host hcreate
    refine ⟨(Role.serve_mem hrole).2.2, fun _ => ⟨_, rfl⟩, ?_, fun _ => rfl,
      ⟨_, rfl, ?_⟩, Nat.zero_le _⟩
    · rintro (h | h | h)
      · exact nomatch h
      · exact nomatch h
      · exact nomatch hrole.symm.trans h
    · generalize hoffer : Terms.offer requested (granter.told requested.announced) = offer
      unfold Terms.Offer.reply
      split
      · exact .inl ack_zero
      · exact .inr ⟨⟨service, hrole⟩, ⟨_, rfl⟩, rfl⟩

/-- A datagram that is dropped changes only what does not matter for this. -/
theorem Drop.standing {source : Endpoint} {bytes : Bytes} (h : Drop source bytes scene scene')
    (hs : scene.session.Standing opening) : scene'.session.Standing opening := by
  cases h with
  | foreign => exact hs.congr rfl rfl rfl id rfl rfl rfl rfl hs.patient
  | unreadable => exact hs.congr rfl rfl rfl id rfl rfl rfl rfl hs.patient

/-- A session that has sent something again has been patient once more, but not too often. -/
theorem Repeat.standing (h : Repeat scene scene') (hs : scene.session.Standing opening) :
    scene'.session.Standing opening := by
  cases h with
  | nothing hretries => exact hs.congr rfl rfl rfl id rfl rfl rfl rfl hretries
  | again hretries => exact hs.congr rfl rfl rfl id rfl rfl rfl rfl hretries

/-- A session that stands has begun. -/
theorem Standing.ne_idle {s : Session} (h : s.Standing opening) : s.phase ≠ .idle := by
  intro hidle
  have hmem := h.phase
  rw [hidle] at hmem
  cases hrole : s.role <;> simp [hrole, Role.phases] at hmem

/-- **One step.**  A session in standing that waits on after an arrival is in standing. -/
theorem Move.standing {arrival : Arrival} (h : Move arrival scene scene')
    (hs : scene.session.Standing opening) (hphase : scene'.session.phase.isTerminal = false) :
    scene'.session.Standing opening := by
  cases h with
  | handled hown hread hturn =>
    refine hturn.standing ?_ ?_ ?_ hphase
    · rw [Scene.showing_session]
      rfl
    · intro _
      rw [Scene.showing_session]
      exact hs.congr rfl rfl rfl id rfl rfl rfl rfl hs.patient
    · exact fun hidle => absurd hidle (Standing.ne_idle hs)
  | dropped hdrop => exact hdrop.standing hs
  | impatient hdrop _ hrepeat => exact hrepeat.standing (hdrop.standing hs)
  | silent hrepeat => exact hrepeat.standing hs

/-- A session stands as soon as it is open: a client with its request, a server with its answer. -/
theorem Opened.standing {session : Session} {host : Host} (hbegins : Begins session opening)
    (h : Opened opening ⟨session, host, []⟩ scene')
    (hphase : scene'.session.phase.isTerminal = false) : scene'.session.Standing opening := by
  cases hbegins with
  | download =>
    cases h
    refine ⟨by simp [Scene.post, Role.phases, Session.client], fun _ => ⟨_, rfl⟩, ?_,
      fun h => absurd rfl h, ⟨_, rfl, rfl⟩, Nat.zero_le _⟩
    rintro (h | h | h) <;> exact nomatch h
  | upload =>
    cases h
    refine ⟨by simp [Scene.post, Role.phases, Session.client], ?_, fun _ => ⟨_, _, rfl⟩,
      fun h => absurd rfl h, ⟨_, rfl, rfl⟩, Nat.zero_le _⟩
    rintro (h | h) <;> exact nomatch h
  | serve =>
    rcases h with _ | hturn
    refine hturn.standing ?_ (fun h => absurd rfl h) ?_ hphase
    · exact congrArg Session.phase (Scene.showing_session _ _)
    · intro _
      exact ⟨_, congrArg Session.role (Scene.showing_session _ _)⟩

end Step

/-! ### Whole runs -/

/-- What becomes of a session in surroundings of a kind: at every turn the host may be another,
and anything may arrive. -/
inductive Reaches (hosts : Host → Prop) (arrivals : Arrival → Prop) (session : Session)
    (opening : Opening) : Run → Prop where
  | start {host : Host} (hhost : hosts host) :
    Reaches hosts arrivals session opening (Run.start session opening host).1
  | step {run : Run} {arrival : Arrival} {host : Host}
      (hreaches : Reaches hosts arrivals session opening run) (harrival : arrivals arrival)
      (hhost : hosts host) :
    Reaches hosts arrivals session opening (run.step arrival host).1

/-- However long a session runs, it stands whenever it waits. -/
theorem Reaches.standing {session : Session} {opening : Opening} {hosts : Host → Prop}
    {arrivals : Arrival → Prop} (hbegins : Begins session opening) {run : Run}
    (h : Reaches hosts arrivals session opening run) :
    ∀ s, run = .waiting s → s.Standing opening := by
  induction h with
  | start hhost =>
    intro s hrun
    obtain ⟨scene, hopened, hphase, rfl⟩ := (Run.start_outcome _ _ _).waiting hrun
    exact hopened.standing hbegins hphase
  | @step run arrival host hreaches harrival hhost ih =>
    intro s hrun
    cases run with
    | ended ending => exact nomatch hrun
    | waiting before =>
      obtain ⟨scene, hmove, hphase, rfl⟩ := (Run.step_outcome _ _ _).waiting hrun
      exact hmove.standing (ih before rfl) hphase

/-! ### Where faults come from -/

/-- The faults that every host knows of. -/
def Fault.common : List Fault :=
  [.messageTooLong, .noSuchFile, .nulInName, .nameTooLong, .isDirectory]

/-- A node does not know of a fault. -/
structure Node.Lacks (f : Fault) (node : Node) : Prop where
  fault : node.fault ≠ some f
  openFault : node.openFault ≠ some f
  readFault : ∀ distance, node.readFault ≠ some (distance, f)
  capacity : ∀ most, node.capacity ≠ some (most, f)
  flushFault : node.flushFault ≠ some f
  closeFault : node.closeFault ≠ some f

/-- A host does not know of a fault. -/
structure Host.Lacks (f : Fault) (host : Host) : Prop where
  sendFault : ∀ sends, host.sendFault sends ≠ some f
  nodes : ∀ path node, host.store.find? path = some node → node.Lacks f

/-- Neither the stream of a session nor anything it may serve knows of a fault. -/
structure Session.Lacks (f : Fault) (s : Session) : Prop where
  stream : ∀ origin rest, s.stream = .reading origin rest → rest.Lacks f
  resolver : ∀ service resolver name node, s.role = .serve service →
    service.resolver = some resolver → resolver name = some (.content node) → node.Lacks f

/-- Nothing in a scene knows of a fault. -/
structure Scene.Lacks (f : Fault) (scene : Scene) : Prop where
  host : scene.host.Lacks f
  session : scene.session.Lacks f

section Lacks

variable {f : Fault}

theorem Node.lacks_default : ({} : Node).Lacks f := by
  constructor <;> intros <;> exact nofun

/-- What is left of a node brings in no fault that the whole does not. -/
theorem Node.Lacks.drop {node : Node} (h : node.Lacks f) (n : Nat) : (node.drop n).Lacks f := by
  refine ⟨h.fault, h.openFault, fun distance hfault => ?_, h.capacity, h.flushFault, h.closeFault⟩
  unfold Node.drop at hfault
  cases hread : node.readFault with
  | none => simp [hread] at hfault
  | some e =>
    simp only [hread, Option.map_some, Option.some.injEq, Prod.mk.injEq] at hfault
    exact h.readFault e.1 (hfault.2 ▸ hread)

/-- A read fails only with a fault of its node. -/
theorem Node.Lacks.read {node : Node} (h : node.Lacks f) (most : Nat) :
    node.read most ≠ .error (.fault f) := by
  unfold Node.read
  split
  · next g hfault =>
    intro he
    obtain rfl := Mishap.fault.inj (Except.error.inj he)
    exact h.readFault 0 hfault
  · exact nofun
  · exact nofun

theorem Node.Lacks.go {node : Node} (h : node.Lacks f) (reads most : Nat) :
    (Node.fill.go reads node most).1 ≠ .error (.fault f) ∧
      (Node.fill.go reads node most).2.Lacks f := by
  induction reads generalizing node most with
  | zero => exact ⟨nofun, h⟩
  | succ reads ih =>
    cases most with
    | zero => exact ⟨nofun, h⟩
    | succ most =>
      unfold Node.fill.go
      split
      · next m hread => exact ⟨fun he => h.read _ (hread.trans he), h⟩
      · exact ⟨nofun, h⟩
      · next bytes _ hread =>
        obtain ⟨hresult, hrest⟩ := ih (h.drop bytes.length) (most + 1 - bytes.length)
        refine ⟨fun he => hresult ?_, hrest⟩
        change (Node.fill.go reads (node.drop bytes.length) (most + 1 - bytes.length)).1.map _ = _
          at he
        cases hmore : (Node.fill.go reads (node.drop bytes.length) (most + 1 - bytes.length)).1 with
        | ok more => exact nomatch hmore ▸ he
        | error m =>
          rw [hmore] at he
          exact congrArg Except.error (Except.error.inj he)

/-- What a node is given at its end fails only with a fault of the node. -/
theorem Node.Lacks.append {node : Node} (h : node.Lacks f) (bytes : Bytes) :
    (node.append bytes).1 ≠ some f ∧ (node.append bytes).2.Lacks f := by
  unfold Node.append
  split
  · next most g hcapacity =>
    simp only
    split
    · exact ⟨nofun, h.fault, h.openFault, h.readFault, h.capacity, h.flushFault, h.closeFault⟩
    · refine ⟨fun he => h.capacity most (Option.some.inj he ▸ hcapacity), ?_⟩
      exact ⟨h.fault, h.openFault, h.readFault, h.capacity, h.flushFault, h.closeFault⟩
  · exact ⟨nofun, h.fault, h.openFault, h.readFault, h.capacity, h.flushFault, h.closeFault⟩

/-- A node that is made new brings in no fault. -/
theorem Host.Lacks.getD {host : Host} (h : host.Lacks f) (path : String) :
    ((host.store.find? path).getD {}).Lacks f := by
  cases hnode : host.store.find? path with
  | none => exact Node.lacks_default
  | some node => exact h.nodes path node hnode

/-- A host has the faults of its nodes, of its output and of its sending, and no others. -/
theorem Host.Lacks.set {host host' : Host} (h : host.Lacks f) {path : String} {node : Node}
    (hnode : node.Lacks f) (hstore : host'.store = host.store.set path node)
    (hsend : host'.sendFault = host.sendFault) : host'.Lacks f := by
  refine ⟨hsend ▸ h.sendFault, fun other found hfound => ?_⟩
  rw [hstore, Store.find?_set] at hfound
  split at hfound
  · exact Option.some.inj hfound ▸ hnode
  · exact h.nodes other found hfound

/-- A block that is written fails only with a fault of the host. -/
theorem Host.Lacks.write {host host' : Host} (h : host.Lacks f) {stream : Stream}
    (hstream : stream.IsWriting) {bytes : Bytes} {fault : Option Fault}
    (hwrite : stream.write host bytes = (fault, host')) : fault ≠ some f ∧ host'.Lacks f := by
  obtain ⟨rfl, rfl⟩ := Prod.mk.inj hwrite
  obtain ⟨target, rfl⟩ := hstream
  cases target with
  | output => exact ⟨nofun, h.sendFault, h.nodes⟩
  | file path =>
    obtain ⟨hfault, hnode⟩ := (h.getD path).append bytes
    exact ⟨hfault, h.set hnode rfl rfl⟩

/-- A datagram fails only with a fault of the host, or because it is too long. -/
theorem Host.Lacks.transmit {host : Host} (h : host.Lacks f)
    (hf : f ∉ Fault.common) (d : Datagram) : (host.transmit d).1 ≠ some f := by
  unfold Host.transmit
  simp only
  split
  · next g hfault => exact fun he => h.sendFault host.sends (Option.some.inj he ▸ hfault)
  · split
    · exact fun he => hf (Option.some.inj he ▸ by simp [Fault.common])
    · exact nofun

/-- What is wrong with a path is a common fault. -/
theorem Path.fault_mem_common {path : String} (h : Path.fault? path = some f) :
    f ∈ Fault.common := by
  unfold Path.fault? at h
  split at h
  · exact Option.some.inj h ▸ by simp [Fault.common]
  · split at h
    · exact Option.some.inj h ▸ by simp [Fault.common]
    · exact nomatch h

/-- Looking for a node fails only with a common fault or one of the node. -/
theorem Host.Lacks.look {host : Host} (h : host.Lacks f) (hf : f ∉ Fault.common) (path : String) :
    host.store.look path ≠ .error f ∧
      ∀ node, host.store.look path = .ok node → node.Lacks f := by
  have hcommon : ∀ g ∈ Fault.common, (.error g : Except Fault Node) ≠ .error f := fun g hg he =>
    hf (Except.error.inj he ▸ hg)
  unfold Store.look
  split
  · next g hg => exact ⟨hcommon g (Path.fault_mem_common hg), fun _ h => nomatch h⟩
  · split
    · exact ⟨hcommon _ (by simp [Fault.common]), fun _ h => nomatch h⟩
    · next node hnode =>
      have hnode := h.nodes path node hnode
      split
      · next g hg => exact ⟨fun he => hnode.fault (Except.error.inj he ▸ hg), fun _ h => nomatch h⟩
      · exact ⟨nofun, fun found hfound => Except.ok.inj hfound ▸ hnode⟩

theorem Host.Lacks.openNode {host : Host} (h : host.Lacks f) (hf : f ∉ Fault.common)
    (path : String) :
    host.store.openNode path ≠ .error f ∧
      ∀ node, host.store.openNode path = .ok node → node.Lacks f := by
  obtain ⟨herror, hok⟩ := h.look hf path
  unfold Store.openNode
  cases hlook : host.store.look path with
  | error g =>
    exact ⟨fun he => herror (hlook.trans (congrArg _ (Except.error.inj he))),
      fun _ h => nomatch h⟩
  | ok node =>
    have hnode := hok node hlook
    simp only [Bind.bind, Except.bind]
    split
    · next g hg =>
      exact ⟨fun he => hnode.openFault (Except.error.inj he ▸ hg), fun _ h => nomatch h⟩
    · exact ⟨nofun, fun found hfound => Except.ok.inj hfound ▸ hnode⟩

/-- Making a file fails only with a common fault or one of the host. -/
theorem Host.Lacks.create {host : Host} (h : host.Lacks f) (hf : f ∉ Fault.common)
    (path : String) :
    host.store.create path ≠ .error f ∧
      ∀ store, host.store.create path = .ok store → Host.Lacks f { host with store } := by
  obtain ⟨herror, hok⟩ := h.openNode hf path
  unfold Store.create
  split
  · next g hg =>
    exact ⟨fun he => hf (Except.error.inj he ▸ Path.fault_mem_common hg), fun _ h => nomatch h⟩
  · split
    · refine ⟨nofun, fun store hstore => ?_⟩
      obtain rfl := Except.ok.inj hstore
      exact h.set Node.lacks_default rfl rfl
    · cases hopen : host.store.openNode path with
      | error g =>
        exact ⟨fun he => herror (hopen.trans (congrArg _ (Except.error.inj he))),
          fun _ h => nomatch h⟩
      | ok node =>
        have hnode := hok node hopen
        simp only [Bind.bind, Except.bind]
        split
        · exact ⟨fun he => hf (Except.error.inj he ▸ by simp [Fault.common]), fun _ h => nomatch h⟩
        · refine ⟨nofun, fun store hstore => ?_⟩
          obtain rfl := Except.ok.inj hstore
          refine h.set ?_ rfl rfl
          exact ⟨hnode.fault, hnode.openFault, hnode.readFault, hnode.capacity, hnode.flushFault,
            hnode.closeFault⟩

/-- A session that reads from its stream fails only with a fault of what it reads from; one whose
stream goes the other way is told so, which is a fault of its own. -/
theorem Session.Lacks.read {s : Session} (h : s.Lacks f) {stream : Stream} {size : Nat}
    {result : Except Mishap Bytes} (hread : s.stream.read size = (result, stream)) :
    (s.stream.IsReading → result ≠ .error (.fault f)) ∧
      ∀ origin rest, stream = .reading origin rest → rest.Lacks f := by
  obtain ⟨rfl, rfl⟩ := Prod.mk.inj hread
  cases hstream : s.stream with
  | reading origin rest =>
    obtain ⟨hresult, hrest⟩ := (h.stream origin rest hstream).go size size
    exact ⟨fun _ => hresult, fun _ _ he => (Stream.reading.inj he).2 ▸ hrest⟩
  | writing target => exact ⟨(fun ⟨_, _, he⟩ => nomatch he), fun _ _ he => nomatch he⟩
  | closed => exact ⟨(fun ⟨_, _, he⟩ => nomatch he), fun _ _ he => nomatch he⟩

/-- Only a server has a service. -/
theorem Role.eq_serve {role : Role} {service : Service} (h : role.service? = some service) :
    role = .serve service := by
  cases role with
  | serve service' => exact congrArg serve (Option.some.inj h)
  | download => exact nomatch h
  | upload => exact nomatch h

/-- A file that is served was on the host or came from the resolver of the service. -/
theorem Served.lacks {service : Service} {filename : String} {scene scene' : Scene} {node : Node}
    {size : Option Nat} (h : Served service filename scene node size scene')
    (hf : f ∉ Fault.common) (hhost : scene.host.Lacks f) {s : Session} (hs : s.Lacks f)
    (hrole : s.role.service? = some service) : node.Lacks f := by
  cases h with
  | file hopen => exact (hhost.openNode hf _).2 _ hopen
  | resolved _ hresolver hcontent =>
    exact hs.resolver _ _ _ _ (Role.eq_serve hrole) hresolver hcontent

variable {scene scene' : Scene}

/-- Taking a block brings in no fault. -/
theorem Take.lacks {payload : Bytes} {phase : Phase} (h : Take scene payload phase scene')
    (hs : scene.Lacks f) (hstream : scene.session.stream.IsWriting) : scene'.Lacks f := by
  obtain ⟨hwrite, hsend⟩ := h
  have hhost := (hs.host.write hstream hwrite).2
  exact ⟨⟨hhost.sendFault, hhost.nodes⟩, ⟨hs.session.stream, hs.session.resolver⟩⟩

theorem Give.lacks (h : Give scene scene') (hs : scene.Lacks f) : scene'.Lacks f := by
  obtain ⟨hread, hsend⟩ := h
  exact ⟨⟨hs.host.sendFault, hs.host.nodes⟩, ⟨(hs.session.read hread).2, hs.session.resolver⟩⟩

/-- A scene with the same streams, roles and files. -/
theorem Scene.Lacks.congr (h : scene.Lacks f)
    (hstream : scene'.session.stream = scene.session.stream)
    (hrole : scene'.session.role = scene.session.role)
    (hstore : scene'.host.store = scene.host.store)
    (hsend : scene'.host.sendFault = scene.host.sendFault) : scene'.Lacks f :=
  ⟨⟨hsend ▸ h.host.sendFault, hstore ▸ h.host.nodes⟩,
    ⟨hstream ▸ h.session.stream, hrole ▸ h.session.resolver⟩⟩

/-- No turn brings in a fault, as long as a session that expects blocks writes. -/
theorem Turn.lacks {source : Endpoint} {packet : Packet} {phase phase' : Phase}
    (h : Turn source scene phase packet phase' scene') (hbefore : scene.session.phase = phase)
    (hf : f ∉ Fault.common) (hs : scene.Lacks f)
    (hwriting : ∀ block, scene.session.Expects block → scene.session.stream.IsWriting) :
    scene'.Lacks f := by
  cases h with
  | block htake => exact htake.lacks hs (hwriting _ (.inl ⟨hbefore, rfl⟩))
  | oldBlock => exact hs.congr rfl rfl rfl rfl
  | lastAck => exact hs
  | ack _ _ hgive => exact hgive.lacks (hs.congr rfl rfl rfl rfl)
  | oldAck => exact hs.congr rfl rfl rfl rfl
  | grantedRead => exact hs.congr rfl rfl rfl rfl
  | firstBlock hrole htake =>
    exact htake.lacks (hs.congr rfl rfl rfl rfl) (hwriting _ (.inr ⟨hbefore, hrole, rfl⟩))
  | grantedWrite _ _ hgive => exact hgive.lacks (hs.congr rfl rfl rfl rfl)
  | firstAck _ hgive => exact hgive.lacks (hs.congr rfl rfl rfl rfl)
  | strayAck => exact hs.congr rfl rfl rfl rfl
  | offered hadmits hserved =>
    have hnode := hserved.lacks hf hs.host hs.session hadmits.serving
    obtain ⟨deeds, rfl, -⟩ := Act.served_host hserved
    refine ⟨⟨hs.host.sendFault, hs.host.nodes⟩, ⟨?_, hs.session.resolver⟩⟩
    exact fun _ _ he => (Stream.reading.inj he).2 ▸ hnode
  | served hadmits hserved _ hgive =>
    have hnode := hserved.lacks hf hs.host hs.session hadmits.serving
    obtain ⟨deeds, rfl, -⟩ := Act.served_host hserved
    refine hgive.lacks ⟨⟨hs.host.sendFault, hs.host.nodes⟩, ⟨?_, hs.session.resolver⟩⟩
    exact fun _ _ he => (Stream.reading.inj he).2 ▸ hnode
  | created hadmits hcreate =>
    obtain ⟨rfl, store, hstore, rfl⟩ := Stream.create_host hcreate
    have hhost := (hs.host.create hf _).2 store hstore
    refine ⟨⟨hhost.sendFault, hhost.nodes⟩, ⟨?_, hs.session.resolver⟩⟩
    exact fun _ _ he => nomatch he

/-- A packet stops a session with a fault only if the session or its host has it, as long as blocks
are expected by sessions that write and sent by sessions that read. -/
theorem Setback.lacks {packet : Packet} {halt : Halt} (h : Setback scene packet halt scene')
    (hf : f ∉ Fault.common) (hs : scene.Lacks f)
    (hwriting : ∀ block, scene.session.Expects block → scene.session.stream.IsWriting)
    (hreading : scene.session.Sends → scene.session.stream.IsReading) :
    halt ≠ .failure (.io f) := by
  have hmishap : ∀ m, m ≠ .fault f → Act.halt m ≠ .failure (.io f) := by
    intro m hm he
    cases m with
    | crash => exact nomatch he
    | fault g => exact hm (congrArg Mishap.fault (Failure.io.inj (Halt.failure.inj he)))
  cases h.cause with
  | refused hrefused => exact fun he => hrefused f (Halt.failure.inj he)
  | unread hsends hread =>
    refine hmishap _ fun he => ?_
    exact (hs.session.read rfl).1 (hreading hsends) (hread.trans (congrArg Except.error he))
  | unwritten hexpects hwrite =>
    intro he
    refine (hs.host.write (hwriting _ hexpects) rfl).1 (hwrite.trans (congrArg some ?_))
    exact Failure.io.inj (Halt.failure.inj he)
  | unsent hsend =>
    intro he
    exact hs.host.transmit hf _ (hsend.trans (congrArg some (Failure.io.inj (Halt.failure.inj he))))
  | unopened hopen =>
    intro he
    obtain rfl := Failure.io.inj (Halt.failure.inj he)
    rcases hopen with hlook | hopen | hcreate
    · exact (hs.host.look hf _).1 hlook
    · exact (hs.host.openNode hf _).1 hopen
    · exact (hs.host.create hf _).1 hcreate
  | @unserved _ _ _ _ _ _ _ _ size m hadmits hserved hread =>
    have hnode := hserved.lacks hf hs.host hs.session hadmits.serving
    exact hmishap m fun he => (hnode.go size size).1 (hread.trans (congrArg Except.error he))
  | unresolved => exact nofun

/-- A session that stands writes whenever it expects a block. -/
theorem Session.Standing.writing_of_expects {opening : Opening} {s : Session}
    (h : s.Standing opening) (block : UInt16) (hexpects : s.Expects block) :
    s.stream.IsWriting := by
  rcases hexpects with ⟨hphase, -⟩ | ⟨-, hrole, -⟩
  · exact h.writing (.inl hphase)
  · exact h.writing (.inr hrole)

/-- It reads whenever it is ready to send one. -/
theorem Session.Standing.reading_of_sends {opening : Opening} {s : Session}
    (h : s.Standing opening) (hsends : s.Sends) : s.stream.IsReading := by
  rcases hsends with hphase | hphase | ⟨-, hrole⟩
  · exact h.reading (.inl hphase)
  · exact h.reading (.inr (.inl hphase))
  · exact h.reading (.inr (.inr hrole))

theorem Drop.lacks {source : Endpoint} {bytes : Bytes} (h : Drop source bytes scene scene')
    (hs : scene.Lacks f) : scene'.tick.Lacks f := by
  cases h with
  | foreign => exact hs.congr rfl rfl rfl rfl
  | unreadable => exact hs.congr rfl rfl rfl rfl

theorem Repeat.lacks (h : Repeat scene scene') (hs : scene.Lacks f) : scene'.Lacks f := by
  cases h with
  | nothing => exact hs.congr rfl rfl rfl rfl
  | again => exact hs.congr rfl rfl rfl rfl

/-- A session that stops without a packet stops with a fault of its host, if with any. -/
theorem Bare.lacks {halt : Halt} (h : Bare scene halt scene') (hf : f ∉ Fault.common)
    (hs : scene.Lacks f) : halt ≠ .failure (.io f) := by
  rcases h.cause with ⟨g, rfl, hg⟩ | ⟨d, fault, hsend, rfl⟩
  · exact fun he => hg f (Halt.failure.inj he)
  · exact fun he => hs.host.transmit hf d
      (hsend.trans (congrArg some (Failure.io.inj (Halt.failure.inj he))))

variable {opening : Opening} {arrival : Arrival}

theorem Scene.Lacks.showing (h : scene.Lacks f) (packet : Packet) :
    (scene.showing packet).Lacks f := by
  refine h.congr ?_ ?_ ?_ ?_
  all_goals simp only [Scene.showing_session, Scene.showing_host]

/-- To hear from the peer brings in no fault. -/
theorem Scene.Lacks.heard (h : scene.Lacks f) : scene.heard.Lacks f := h.congr rfl rfl rfl rfl

/-- No move of a session that stands brings in a fault. -/
theorem Move.lacks (h : Move arrival scene scene') (hf : f ∉ Fault.common) (hs : scene.Lacks f)
    (hstanding : scene.session.Standing opening) : scene'.Lacks f := by
  cases h with
  | handled hown hread hturn =>
    refine (hturn.lacks ?_ hf (hs.heard.showing _) ?_).congr rfl rfl rfl rfl
    · rw [Scene.showing_session]
      rfl
    · intro block hexpects
      rw [Scene.showing_session] at hexpects ⊢
      exact hstanding.writing_of_expects block hexpects
  | dropped hdrop => exact hdrop.lacks hs
  | impatient hdrop _ hrepeat => exact hrepeat.lacks (hdrop.lacks hs)
  | silent hrepeat => exact hrepeat.lacks hs

/-- A session that stands halts with a fault only if it, its host or what arrived has it. -/
theorem Halting.lacks {halt : Halt} (h : Halting arrival scene halt scene') (hf : f ∉ Fault.common)
    (hs : scene.Lacks f) (hstanding : scene.session.Standing opening)
    (harrival : arrival ≠ .fault f) : halt ≠ .failure (.io f) := by
  cases h with
  | setback hown hread hsetback =>
    refine hsetback.lacks hf (hs.heard.showing _) ?_ ?_
    all_goals rw [Scene.showing_session]
    · exact hstanding.writing_of_expects
    · exact hstanding.reading_of_sends
  | fault =>
    exact fun he => harrival (congrArg Arrival.fault (Failure.io.inj (Halt.failure.inj he)))
  | bare hbare => exact hbare.lacks hf hs

/-- No fault of a kind is to be seen of a run. -/
def Run.Lacks (f : Fault) : Run → Prop
  | .waiting s => s.Lacks f
  | .ended ending => ∀ tally, ending ≠ .failed (.io f) tally

/-- A file fails at its end only with a fault of the host. -/
theorem Host.Lacks.closeFault {host : Host} (h : host.Lacks f) (stream : Stream) :
    stream.closeFault host ≠ some f := by
  unfold Stream.closeFault
  split
  · next path =>
    have hnode := h.getD path
    simp only
    cases hflush : ((host.store.find? path).getD {}).flushFault with
    | none => exact hnode.closeFault
    | some g => exact fun he => hnode.flushFault (Option.some.inj he ▸ hflush)
  · exact nofun

/-- A session that fails for another reason ends without the fault. -/
theorem Run.finish_some_lacks {failure : Failure} (hfailure : failure ≠ .io f) :
    (Run.finish (some failure) scene).1.Lacks f := by
  rw [Run.finish_some]
  intro tally he
  obtain ⟨rfl, -⟩ := Ending.failed.inj he
  exact hfailure rfl

/-- A session that has come through ends without it, if its host does not have it. -/
theorem Run.finish_none_lacks (hs : scene.host.Lacks f) : (Run.finish none scene).1.Lacks f := by
  cases hclose : scene.session.stream.closeFault scene.host with
  | none =>
    rw [Run.finish_none hclose]
    exact fun _ => nofun
  | some g =>
    rw [Run.finish_fault hclose]
    refine finish_some_lacks fun he => ?_
    exact hs.closeFault _ (hclose.trans (congrArg some (Failure.io.inj he)))

/-- The fault is not brought in by a turn if it is not by what the turn comes to. -/
theorem Outcome.lacks {done : Scene → Prop} {stopped : Halt → Scene → Prop}
    {result : Run × Host × List Deed} (h : Outcome done stopped result)
    (hdone : ∀ scene, done scene → scene.Lacks f)
    (hstopped : ∀ halt scene, stopped halt scene → halt ≠ .failure (.io f)) :
    result.1.Lacks f := by
  cases h with
  | waits hwaits => exact (hdone _ hwaits).session
  | concludes hconcludes => exact Run.finish_none_lacks (hdone _ hconcludes).host
  | fails hfails => exact Run.finish_some_lacks fun he => hstopped _ _ hfails (congrArg _ he)
  | crashes => exact fun _ => nofun

/-- A server that has a request before it expects no block yet and is ready to send none. -/
theorem Begins.idle {session : Session} {packet : Packet} {source : Endpoint}
    (h : Begins session (.answer packet source)) :
    session.phase = .idle ∧ (∀ block, ¬ session.Expects block) ∧ ¬ session.Sends := by
  cases h with
  | serve =>
    refine ⟨rfl, ?_, ?_⟩
    · rintro block (⟨h, -⟩ | ⟨h, -⟩) <;> exact nomatch h
    · rintro (h | h | ⟨h, -⟩) <;> exact nomatch h

/-- A session opens without bringing in a fault. -/
theorem Opened.lacks {session : Session} {host : Host} (hbegins : Begins session opening)
    (h : Opened opening ⟨session, host, []⟩ scene') (hf : f ∉ Fault.common)
    (hs : Scene.Lacks f ⟨session, host, []⟩) : scene'.Lacks f := by
  cases h with
  | asked => exact hs.congr rfl rfl rfl rfl
  | answered hturn =>
    obtain ⟨-, hexpects, -⟩ := hbegins.idle
    refine (hturn.lacks ?_ hf (hs.showing _) fun block h => ?_).congr rfl rfl rfl rfl
    all_goals rw [Scene.showing_session] at *
    exact absurd h (hexpects block)

/-- A session is refused with a fault only if it or its host has it. -/
theorem Refused.lacks {session : Session} {host : Host} {halt : Halt}
    (hbegins : Begins session opening) (h : Refused opening ⟨session, host, []⟩ halt scene')
    (hf : f ∉ Fault.common) (hs : Scene.Lacks f ⟨session, host, []⟩) :
    halt ≠ .failure (.io f) := by
  cases h with
  | unasked hbare => exact hbare.lacks hf hs
  | unanswered hsetback =>
    obtain ⟨-, hexpects, hsends⟩ := hbegins.idle
    refine hsetback.lacks hf (hs.showing _) ?_ ?_
    all_goals rw [Scene.showing_session]
    · exact fun block h => absurd h (hexpects block)
    · exact fun h => absurd h hsends

/-- Along a whole run the fault stays away: it would have to be in a host, in a file or in an
arrival. -/
theorem Reaches.lacks {session : Session} (hbegins : Begins session opening)
    (hf : f ∉ Fault.common) (hs : session.Lacks f) {run : Run}
    (h : Reaches (Host.Lacks f) (· ≠ .fault f) session opening run) : run.Lacks f := by
  induction h with
  | @start host hhost =>
    exact (Run.start_outcome session opening host).lacks
      (fun scene hopened => hopened.lacks hbegins hf ⟨hhost, hs⟩)
      (fun halt scene hrefused => hrefused.lacks hbegins hf ⟨hhost, hs⟩)
  | @step run arrival host hreaches harrival hhost ih =>
    cases run with
    | ended ending => exact ih
    | waiting s =>
      have hstanding := hreaches.standing hbegins s rfl
      exact (Run.step_outcome s arrival host).lacks
        (fun scene hmove => hmove.lacks hf ⟨hhost, ih⟩ hstanding)
        (fun halt scene hhalting => hhalting.lacks hf ⟨hhost, ih⟩ hstanding harrival)

end Lacks

/-- **How a session stands.**  Whenever a session waits, whatever it was sent and whatever its hosts
did, it is in a phase of its role, its stream goes the way of that phase, it knows its peer unless
it has just asked, and it would send the right packet again and not too often.  So no stream is
used the wrong way: a session only ends with a fault for that if some host, file or arrival brought
that fault in. -/
theorem Begins.waiting_standing {session : Session} {opening : Opening}
    (hbegins : Begins session opening) :
    (∀ s, Reaches (fun _ => True) (fun _ => True) session opening (.waiting s) →
      s.Standing opening) ∧
    ∀ f, f = .notWriting ∨ f = .notReading → session.Lacks f → ∀ tally,
      ¬ Reaches (Host.Lacks f) (· ≠ .fault f) session opening (.ended (.failed (.io f) tally)) := by
  refine ⟨fun s hreaches => hreaches.standing hbegins s rfl, fun f hf hs tally hreaches => ?_⟩
  have hcommon : f ∉ Fault.common := by
    rcases hf with rfl | rfl <;> decide
  exact hreaches.lacks hbegins hcommon hs tally rfl

/-- A host with a file of nine bytes, and the request for it in blocks of eight. -/
def lender : Host where
  store := ⟨[("/srv/f", { content := [1, 2, 3, 4, 5, 6, 7, 8, 9] })]⟩

def borrowing : Opening :=
  .answer (.octetRequest .read "f" (.ofList [("blksize", "8")])) ⟨.v4 127 0 0 1, 5000, 0⟩

/-- The server has offered the block size, sent the first block when that was acknowledged, and sent
it again after a silence: it waits for block 1 to be acknowledged, and has been patient once. -/
theorem waiting_standing_lending :
    ∃ s : Session, s.phase = .awaitingAck ∧ s.tid = some 5000 ∧ s.retries = 1 ∧
      s.finalSent = false ∧ s.lastSent = some (.data 1 [1, 2, 3, 4, 5, 6, 7, 8]) ∧
      s.Standing borrowing := by
  have hreaches : ∃ s : Session, Reaches (fun _ => True) (fun _ => True)
      (.server { root := "/srv" } 40001 ⟨.v4 127 0 0 1, 5000, 0⟩ {} 1) borrowing (.waiting s) ∧
      s.phase = .awaitingAck ∧ s.tid = some 5000 ∧ s.retries = 1 ∧ s.finalSent = false ∧
      s.lastSent = some (.data 1 [1, 2, 3, 4, 5, 6, 7, 8]) := by
    have hoffers := @Reaches.start (fun _ => True) (fun _ => True)
      (.server { root := "/srv" } 40001 ⟨.v4 127 0 0 1, 5000, 0⟩ {} 1) borrowing lender trivial
    have hsends := @Reaches.step _ _ _ _ _
      (.datagram ⟨.v4 127 0 0 1, 5000, 0⟩ (Packet.ack 0).encode) lender hoffers trivial trivial
    have hrepeats := @Reaches.step _ _ _ _ _ .silence lender hsends trivial trivial
    exact ⟨_, hrepeats, by decide, by decide, by decide, by decide, by decide⟩
  obtain ⟨s, hreaches, hphase, htid, hretries, hfinal, hlast⟩ := hreaches
  exact ⟨s, hphase, htid, hretries, hfinal, hlast, (Begins.waiting_standing .serve).1 s hreaches⟩

end TrivialFtp
