import TrivialFtp.Proofs.Farewells
import TrivialFtp.Proofs.Negotiation

/-!
# Proofs: how a server greets

What a server makes of the packet that opens a session, as one table: what it looks at, and in which
order; what it decides; and the one packet with which it answers.

- `Greets`: what the server looks at and decides, for every packet, resolver and store.
- `Opens`: the packet that is answered and where that leaves the session.
- `Run.start_greets`: exactly one line of the table applies, and the session does what it says.
-/

namespace TrivialFtp

/-- What a server decides on the packet that opens a session. -/
inductive Welcome where
  /-- The session fails. -/
  | declines (f : Failure)
  /-- A reader is lent what a node holds.  Only of a file is the size known. -/
  | lends (requested : Options) (node : Node) (size : Option Nat)
  /-- A writer is given an empty file. -/
  | takes (requested : Options) (path : String) (made : Store)
  /-- The resolver comes to its end instead of giving an answer. -/
  | crashes

/-- The files once the server has decided. -/
def Welcome.store (store : Store) : Welcome → Store
  | .takes _ _ made => made
  | _ => store

/-- A request that a server takes up: an octet transfer of something directly under its root. -/
structure Proper (filename mode : String) : Prop where
  octet : Letters.Same mode "octet"
  plain : isPlain filename = true

/-- What a server looks at when it gets a packet, and what it decides.  The mode comes before the
name and both before the file, the resolver is asked only where there is no file, and a file is
there for the writer before anything is answered. -/
inductive Greets (service : Service) (store : Store) : Packet → List Deed → Welcome → Prop where
  | reported {code : UInt16} {message : String} :
    Greets service store (.error code message) [] (.declines (.reported code message))
  | noRequest {packet : Packet} (herror : ∀ code message, packet ≠ .error code message)
      (hrequest : ∀ direction filename mode requested,
        packet ≠ .request direction filename mode requested) :
    Greets service store packet [] (.declines (.violation (.noRequest packet.opcode)))
  | modeRefused {direction : Direction} {filename mode : String} {requested : Options}
      (hmode : ¬ Letters.Same mode "octet") :
    Greets service store (.request direction filename mode requested) []
      (.declines (.violation (.modeRefused mode)))
  | nameRefused {direction : Direction} {filename mode : String} {requested : Options}
      (hmode : Letters.Same mode "octet") (hname : isPlain filename = false) :
    Greets service store (.request direction filename mode requested) []
      (.declines (.violation (.nameRefused filename)))
  /-- A reader asks for a file. -/
  | file {filename mode : String} {requested : Options} {node : Node}
      (hproper : Proper filename mode)
      (hlook : store.look (Path.join service.root filename) = .ok node)
      (hfile : node.isFile = true) (hopen : node.openFault = none) :
    Greets service store (.request .read filename mode requested)
      [.touched (Path.join service.root filename)]
      (.lends requested node (some node.content.length))
  | unopened {filename mode : String} {requested : Options} {node : Node} {fault : Fault}
      (hproper : Proper filename mode)
      (hlook : store.look (Path.join service.root filename) = .ok node)
      (hfile : node.isFile = true) (hopen : node.openFault = some fault) :
    Greets service store (.request .read filename mode requested)
      [.touched (Path.join service.root filename)] (.declines (.io fault))
  | unseen {filename mode : String} {requested : Options} {fault : Fault}
      (hproper : Proper filename mode)
      (hlook : store.look (Path.join service.root filename) = .error fault)
      (hkind : fault.kind ≠ .notFound) :
    Greets service store (.request .read filename mode requested)
      [.touched (Path.join service.root filename)] (.declines (.io fault))
  /-- A reader asks for something that only the resolver has. -/
  | resolved {filename mode : String} {requested : Options} {node : Node}
      {resolver : String → Option Resolution} (hproper : Proper filename mode)
      (hmissing : NoFile store (Path.join service.root filename))
      (hresolver : service.resolver = some resolver)
      (hanswer : resolver filename = some (.content node)) :
    Greets service store (.request .read filename mode requested)
      [.touched (Path.join service.root filename), .consulted filename]
      (.lends requested node none)
  | unresolved {filename mode : String} {requested : Options}
      {resolver : String → Option Resolution} (hproper : Proper filename mode)
      (hmissing : NoFile store (Path.join service.root filename))
      (hresolver : service.resolver = some resolver) (hanswer : resolver filename = none) :
    Greets service store (.request .read filename mode requested)
      [.touched (Path.join service.root filename), .consulted filename]
      (.declines (.fileNotFound filename))
  | crashed {filename mode : String} {requested : Options}
      {resolver : String → Option Resolution} (hproper : Proper filename mode)
      (hmissing : NoFile store (Path.join service.root filename))
      (hresolver : service.resolver = some resolver) (hanswer : resolver filename = some .crash) :
    Greets service store (.request .read filename mode requested)
      [.touched (Path.join service.root filename), .consulted filename] .crashes
  /-- There is no resolver to ask. -/
  | missing {filename mode : String} {requested : Options} (hproper : Proper filename mode)
      (hmissing : NoFile store (Path.join service.root filename))
      (hresolver : service.resolver = none) :
    Greets service store (.request .read filename mode requested)
      [.touched (Path.join service.root filename)] (.declines (.fileNotFound filename))
  | made {filename mode : String} {requested : Options} {made : Store}
      (hproper : Proper filename mode)
      (hcreate : store.create (Path.join service.root filename) = .ok made) :
    Greets service store (.request .write filename mode requested)
      [.touched (Path.join service.root filename)]
      (.takes requested (Path.join service.root filename) made)
  | unmade {filename mode : String} {requested : Options} {fault : Fault}
      (hproper : Proper filename mode)
      (hcreate : store.create (Path.join service.root filename) = .error fault) :
    Greets service store (.request .write filename mode requested)
      [.touched (Path.join service.root filename)] (.declines (.io fault))

/-! ### One line of the table for every packet -/

theorem requestViolation?_mode (filename : String) {mode : String}
    (hmode : ¬ Letters.Same mode "octet") :
    requestViolation? filename mode = some (.modeRefused mode) := by
  have hfold : Letters.fold mode ≠ "octet" := fun h => hmode (h.trans (by decide))
  unfold requestViolation? Mode.ofText?
  rw [if_neg hfold]
  by_cases hascii : Letters.fold mode = "netascii"
  · rw [if_pos hascii]
    rfl
  · rw [if_neg hascii]
    rfl

theorem requestViolation?_octet (filename : String) {mode : String}
    (hmode : Letters.Same mode "octet") : requestViolation? filename mode =
      if isPlain filename then none else some (.nameRefused filename) := by
  have hfold : Letters.fold mode = "octet" := Eq.trans hmode (by decide)
  unfold requestViolation? Mode.ofText?
  rw [if_pos hfold]
  rfl

theorem Proper.admits {filename mode : String} (h : Proper filename mode) :
    requestViolation? filename mode = none := by
  rw [requestViolation?_octet filename h.octet, if_pos h.plain]

/-- The lines for what only the resolver may have, computed. -/
def Service.consult (service : Service) (filename : String) (requested : Options) :
    List Deed × Welcome :=
  match service.resolver with
  | none => ([], .declines (.fileNotFound filename))
  | some resolver =>
    match resolver filename with
    | none => ([.consulted filename], .declines (.fileNotFound filename))
    | some (.content node) => ([.consulted filename], .lends requested node none)
    | some .crash => ([.consulted filename], .crashes)

/-- The lines for a reader, computed. -/
def Service.lend (service : Service) (store : Store) (filename : String) (requested : Options) :
    List Deed × Welcome :=
  match store.look (Path.join service.root filename) with
  | .ok node =>
    if node.isFile then
      match node.openFault with
      | none => ([], .lends requested node (some node.content.length))
      | some fault => ([], .declines (.io fault))
    else service.consult filename requested
  | .error fault =>
    if fault.kind = .notFound then service.consult filename requested
    else ([], .declines (.io fault))

/-- The whole table, computed. -/
def Service.greet (service : Service) (store : Store) : Packet → List Deed × Welcome
  | .error code message => ([], .declines (.reported code message))
  | .request direction filename mode requested =>
    match requestViolation? filename mode with
    | some v => ([], .declines (.violation v))
    | none =>
      let path := Path.join service.root filename
      let seen : List Deed × Welcome :=
        match direction with
        | .read => service.lend store filename requested
        | .write =>
          match store.create path with
          | .ok made => ([], .takes requested path made)
          | .error fault => ([], .declines (.io fault))
      (.touched path :: seen.1, seen.2)
  | packet => ([], .declines (.violation (.noRequest packet.opcode)))

theorem Service.lend_of_noFile {service : Service} {store : Store} {filename : String}
    (h : NoFile store (Path.join service.root filename)) (requested : Options) :
    service.lend store filename requested = service.consult filename requested := by
  rcases h with ⟨node, hlook, hfile⟩ | ⟨fault, hlook, hkind⟩
  · simp [lend, hlook, hfile]
  · simp [lend, hlook, hkind]

namespace Greets

variable {service : Service} {store : Store} {packet : Packet} {looks looks' : List Deed}
  {welcome welcome' : Welcome}

/-- A reader meets with one of the lines, whatever is at the path. -/
theorem exists_read {filename mode : String} (requested : Options)
    (hproper : Proper filename mode) : ∃ looks welcome,
      Greets service store (.request .read filename mode requested) looks welcome := by
  have habsent : NoFile store (Path.join service.root filename) → ∃ looks welcome,
      Greets service store (.request .read filename mode requested) looks welcome := by
    intro hmissing
    cases hresolver : service.resolver with
    | none => exact ⟨_, _, .missing hproper hmissing hresolver⟩
    | some resolver =>
      cases hanswer : resolver filename with
      | none => exact ⟨_, _, .unresolved hproper hmissing hresolver hanswer⟩
      | some resolution =>
        cases resolution with
        | content node => exact ⟨_, _, .resolved hproper hmissing hresolver hanswer⟩
        | crash => exact ⟨_, _, .crashed hproper hmissing hresolver hanswer⟩
  cases hlook : store.look (Path.join service.root filename) with
  | error fault =>
    by_cases hkind : fault.kind = .notFound
    · exact habsent (.inr ⟨fault, hlook, hkind⟩)
    · exact ⟨_, _, .unseen hproper hlook hkind⟩
  | ok node =>
    cases hfile : node.isFile with
    | false => exact habsent (.inl ⟨node, hlook, hfile⟩)
    | true =>
      cases hopen : node.openFault with
      | none => exact ⟨_, _, .file hproper hlook hfile hopen⟩
      | some fault => exact ⟨_, _, .unopened hproper hlook hfile hopen⟩

/-- Every packet meets with one of the lines. -/
theorem exists_line (service : Service) (store : Store) (packet : Packet) :
    ∃ looks welcome, Greets service store packet looks welcome := by
  cases packet with
  | error code message => exact ⟨_, _, .reported⟩
  | data block payload => exact ⟨_, _, .noRequest nofun nofun⟩
  | ack block => exact ⟨_, _, .noRequest nofun nofun⟩
  | optionAck granted => exact ⟨_, _, .noRequest nofun nofun⟩
  | request direction filename mode requested =>
    by_cases hmode : Letters.Same mode "octet"
    · cases hname : isPlain filename with
      | false => exact ⟨_, _, .nameRefused hmode hname⟩
      | true =>
        cases direction with
        | read => exact exists_read requested ⟨hmode, hname⟩
        | write =>
          cases hcreate : store.create (Path.join service.root filename) with
          | ok made => exact ⟨_, _, .made ⟨hmode, hname⟩ hcreate⟩
          | error fault => exact ⟨_, _, .unmade ⟨hmode, hname⟩ hcreate⟩
    · exact ⟨_, _, .modeRefused hmode⟩

/-- The line that a packet meets with is the one that is computed for it. -/
theorem eq_greet (h : Greets service store packet looks welcome) :
    service.greet store packet = (looks, welcome) := by
  cases h with
  | reported => rfl
  | noRequest herror hrequest =>
    cases packet with
    | error => exact absurd rfl (herror _ _)
    | request => exact absurd rfl (hrequest _ _ _ _)
    | data | ack | optionAck => rfl
  | modeRefused hmode => simp [Service.greet, requestViolation?_mode _ hmode]
  | nameRefused hmode hname => simp [Service.greet, requestViolation?_octet _ hmode, hname]
  | file hproper hlook hfile hopen | unopened hproper hlook hfile hopen =>
    simp [Service.greet, Service.lend, hproper.admits, hlook, hfile, hopen]
  | unseen hproper hlook hkind =>
    simp [Service.greet, Service.lend, hproper.admits, hlook, hkind]
  | resolved hproper hmissing hresolver hanswer | unresolved hproper hmissing hresolver hanswer
    | crashed hproper hmissing hresolver hanswer =>
    simp [Service.greet, Service.lend_of_noFile hmissing, Service.consult, hproper.admits,
      hresolver, hanswer]
  | missing hproper hmissing hresolver =>
    simp [Service.greet, Service.lend_of_noFile hmissing, Service.consult, hproper.admits,
      hresolver]
  | made hproper hcreate | unmade hproper hcreate =>
    simp [Service.greet, hproper.admits, hcreate]

/-- So it meets with no more than one of them. -/
theorem unique (h : Greets service store packet looks welcome)
    (h' : Greets service store packet looks' welcome') : looks' = looks ∧ welcome' = welcome :=
  Prod.mk.inj (h'.eq_greet.symm.trans h.eq_greet)

end Greets

/-! ### What stops the session -/

section Opening

variable {store : Store} {path : String} {node : Node}

theorem Store.openNode_of_look (hlook : store.look path = .ok node)
    (hopen : node.openFault = none) : store.openNode path = .ok node := by
  unfold openNode
  rw [hlook]
  dsimp only [bind, Except.bind]
  rw [hopen]

theorem Store.openNode_of_openFault {fault : Fault} (hlook : store.look path = .ok node)
    (hopen : node.openFault = some fault) : store.openNode path = .error fault := by
  unfold openNode
  rw [hlook]
  dsimp only [bind, Except.bind]
  rw [hopen]

end Opening

/-- What halts a session that does not go along with a packet. -/
def Welcome.halt? : Welcome → Option Halt
  | .declines f => some (.failure f)
  | .crashes => some .crash
  | .lends .. | .takes .. => none

namespace Act

variable {scene : Scene} {service : Service} {filename mode : String} {requested : Options}
  {looks : List Deed} {welcome : Welcome} {halt : Halt} {source : Endpoint} {packet : Packet}

theorem run_vet_refused {v : Violation} (h : requestViolation? filename mode = some v) :
    (vet filename mode).run scene = .error (.failure (.violation v)) scene := by
  unfold vet
  rw [h]
  exact run_bind_error (run_fail scene _)

/-- The fault that is met stops the session before it has asked the resolver. -/
theorem run_openServed_fault {fault : Fault}
    (h : (∃ node, scene.host.store.look (Path.join service.root filename) = .ok node ∧
        node.isFile = true ∧ node.openFault = some fault) ∨
      (scene.host.store.look (Path.join service.root filename) = .error fault ∧
        fault.kind ≠ .notFound)) :
    (openServed service filename).run scene = .error (.failure (.io fault))
      { scene with deeds := scene.deeds ++ [.touched (Path.join service.root filename)] } := by
  unfold openServed
  refine (run_bind_of (run_record scene _)).trans ((run_bind_of (EStateM.run_get _)).trans ?_)
  dsimp only
  rcases h with ⟨node, hlook, hfile, hopen⟩ | ⟨hlook, hkind⟩
  · rw [hlook]
    dsimp only
    rw [if_pos hfile, Store.openNode_of_openFault hlook hopen]
    rfl
  · rw [hlook]
    dsimp only
    rw [if_neg hkind]
    rfl

/-- A reader who cannot be served is served nothing. -/
theorem run_openServed_halted (hproper : Proper filename mode)
    (h : Greets service scene.host.store (.request .read filename mode requested) looks welcome)
    (hhalt : welcome.halt? = some halt) :
    (openServed service filename).run scene =
      .error halt { scene with deeds := scene.deeds ++ looks } := by
  cases h with
  | noRequest _ hrequest => exact absurd rfl (hrequest _ _ _ _)
  | modeRefused hmode => exact absurd hproper.octet hmode
  | nameRefused _ hname => exact absurd hproper.plain (Bool.eq_false_iff.1 hname)
  | unopened _ hlook hfile hopen =>
    obtain rfl := Option.some.inj hhalt
    exact run_openServed_fault (.inl ⟨_, hlook, hfile, hopen⟩)
  | unseen _ hlook hkind =>
    obtain rfl := Option.some.inj hhalt
    exact run_openServed_fault (.inr ⟨hlook, hkind⟩)
  | unresolved _ hmissing hresolver hanswer | crashed _ hmissing hresolver hanswer =>
    obtain rfl := Option.some.inj hhalt
    rw [run_openServed_missing hmissing]
    unfold openServed.resolve
    rw [hresolver]
    refine (run_bind_of (run_record _ _)).trans ?_
    rw [hanswer, List.append_assoc]
    rfl
  | missing _ hmissing hresolver =>
    obtain rfl := Option.some.inj hhalt
    rw [run_openServed_missing hmissing]
    unfold openServed.resolve
    rw [hresolver]
    rfl
  | file | resolved => cases hhalt

theorem run_createServed_fault {fault : Fault}
    (h : scene.host.store.create (Path.join service.root filename) = .error fault) :
    (createServed service filename).run scene = .error (.failure (.io fault))
      { scene with deeds := scene.deeds ++ [.touched (Path.join service.root filename)] } := by
  have hcreate : Stream.create scene.host (Path.join service.root filename) = .error fault := by
    unfold Stream.create
    rw [h]
    rfl
  unfold createServed
  refine (run_bind_of (run_record scene _)).trans ((run_bind_of (EStateM.run_get _)).trans ?_)
  dsimp only
  rw [hcreate]
  rfl

/-- A request that is refused stops the session before it has looked at anything. -/
theorem run_takeUp_refused {direction : Direction} {v : Violation}
    (hpinned : scene.session.pin source.port = scene.session)
    (h : requestViolation? filename mode = some v) :
    (takeUp (.request direction filename mode requested) source).run scene =
      .error (.failure (.violation v)) scene := by
  have hpin : (update fun s => s.pin source.port).run scene = .ok () scene := by
    rw [run_update, hpinned]
  cases direction with
  | read =>
    unfold takeUp serveRead
    exact (run_bind_of hpin).trans (run_bind_error (run_vet_refused h))
  | write =>
    unfold takeUp serveWrite
    exact (run_bind_of hpin).trans (run_bind_error (run_vet_refused h))

/-- A server's session that does not go along with a packet has done no more than to look. -/
theorem run_handle_halted (hphase : scene.session.phase = .idle)
    (hservice : scene.session.role.service? = some service)
    (hpinned : scene.session.pin source.port = scene.session)
    (h : Greets service scene.host.store packet looks welcome)
    (hhalt : welcome.halt? = some halt) :
    (handle packet source).run scene =
      .error halt { scene with deeds := scene.deeds ++ looks } := by
  have hpin : (update fun s => s.pin source.port).run scene = .ok () scene := by
    rw [run_update, hpinned]
  have hsame : { scene with deeds := scene.deeds ++ [] } = scene := by rw [List.append_nil]
  have htaken : (∀ code message, packet ≠ .error code message) →
      (handle packet source).run scene = (takeUp packet source).run scene := by
    intro herror
    unfold handle
    refine (run_bind_of (run_session scene)).trans ?_
    split
    · exact absurd rfl (herror _ _)
    · rw [hphase]
  have hline := h
  cases h with
  | reported =>
    obtain rfl := Option.some.inj hhalt
    rw [hsame]
    rfl
  | noRequest herror hrequest =>
    obtain rfl := Option.some.inj hhalt
    rw [hsame, htaken herror]
    unfold takeUp
    split
    · exact absurd rfl (hrequest _ _ _ _)
    · exact absurd rfl (hrequest _ _ _ _)
    · rfl
  | modeRefused hmode =>
    obtain rfl := Option.some.inj hhalt
    rw [hsame, htaken nofun]
    exact run_takeUp_refused hpinned (requestViolation?_mode _ hmode)
  | nameRefused hmode hname =>
    obtain rfl := Option.some.inj hhalt
    rw [hsame, htaken nofun]
    refine run_takeUp_refused hpinned ?_
    rw [requestViolation?_octet _ hmode, hname, if_neg Bool.false_ne_true]
  | unopened hproper _ _ _ | unseen hproper _ _ | unresolved hproper _ _ _ | crashed hproper _ _ _
    | missing hproper _ _ =>
    rw [htaken nofun]
    unfold takeUp serveRead
    refine (run_bind_of hpin).trans ((run_bind_of (run_vet ⟨hproper.admits, hservice⟩)).trans ?_)
    exact run_bind_error (run_openServed_halted hproper hline hhalt)
  | unmade hproper hcreate =>
    obtain rfl := Option.some.inj hhalt
    rw [htaken nofun]
    unfold takeUp serveWrite
    refine (run_bind_of hpin).trans ((run_bind_of (run_vet ⟨hproper.admits, hservice⟩)).trans ?_)
    exact run_bind_error (run_createServed_fault hcreate)
  | file | resolved | made => cases hhalt

end Act

/-! ### The answer -/

/-- The packet with which a session answers, and where that leaves it. -/
inductive Opens (s : Session) (service : Service) (now : Nat) : Welcome → Packet → Run → Prop where
  /-- The peer is told of the failure. -/
  | declined {f : Failure} {code : UInt16} {message : String}
      (hwarrants : f.Warrants code message) :
    Opens s service now (.declines f) (.error code message)
      (.ended (.failed f (s.tally.finish (now + 1))))
  /-- A reader is told which of its options are granted. -/
  | offered {requested : Options} {node : Node} {size : Option Nat}
      (hgranted : (Terms.offer requested (service.told size)).options.isEmpty = false) :
    Opens s service now (.lends requested node size)
      (.optionAck (Terms.offer requested (service.told size)).options)
      (.waiting { s with
        phase := .offering
        terms := (Terms.offer requested (service.told size)).terms
        stream := .ofNode node
        nextBlock := 0
        lastSent := some (.optionAck (Terms.offer requested (service.told size)).options)
        finalSent := false })
  /-- None is granted, and the reader has its first block, as much of it as a block holds. -/
  | block {requested : Options} {node : Node} {size : Option Nat} {payload : Bytes} {rest : Stream}
      (hgranted : (Terms.offer requested (service.told size)).options.isEmpty = true)
      (hread : (Stream.ofNode node).read 512 = (.ok payload, rest)) (hlength : payload.length ≤ 512)
      (hcontent : node.chunk ≠ some 0 → payload = node.content.take 512) :
    Opens s service now (.lends requested node size) (.data 1 payload)
      (.waiting { s with
        phase := .awaitingAck
        stream := rest
        nextBlock := 1
        lastSent := some (.data 1 payload)
        finalSent := payload.length < 512
        tally := { s.tally with bytes := s.tally.bytes + payload.length } })
  /-- A writer may begin, and is told which of its options are granted if any is. -/
  | taken {requested : Options} {path : String} {made : Store} :
    Opens s service now (.takes requested path made)
      (Terms.offer requested (service.told requested.announced)).reply
      (.waiting { s with
        phase := .awaitingData
        terms := (Terms.offer requested (service.told requested.announced)).terms
        stream := .writing (.file path)
        nextBlock := 1
        lastSent := some (Terms.offer requested (service.told requested.announced)).reply })

/-- A block that is to be sent at once can be read. -/
def Welcome.Readable (service : Service) : Welcome → Prop
  | .lends requested node size =>
    (Terms.offer requested (service.told size)).options.isEmpty = true →
      ∃ payload rest, (Stream.ofNode node).read 512 = (.ok payload, rest)
  | _ => True

theorem Failure.notice_io (fault : Fault) : (Failure.io fault).notice ≠ none := by
  obtain ⟨kind, text⟩ := fault
  cases kind <;> exact Option.some_ne_none _

theorem Failure.notice_of_warrants {f : Failure} {code : UInt16} {message : String}
    (h : f.Warrants code message) :
    ∃ c : ErrorCode, f.notice = some (c, message) ∧ c.code = code := by
  cases h with
  | violation | negotiation | fileNotFound | permissionDenied | storageFull | alreadyExists =>
    exact ⟨_, rfl, rfl⟩
  | @io fault hkind =>
    obtain ⟨kind, text⟩ := fault
    cases kind with
    | notFound | other => exact ⟨_, rfl, rfl⟩
    | permissionDenied | storageFull | alreadyExists => exact absurd (by simp) hkind

namespace Run

variable {service : Service} {port : UInt16} {client : Endpoint} {timing : Timing} {now : Nat}
  {host : Host} {packet : Packet} {looks : List Deed} {welcome : Welcome}

theorem start_declined {f : Failure} (h : Greets service host.store packet looks (.declines f)) :
    start (.server service port client timing now) (.answer packet client) host =
      finish (some f) ⟨.server service port client timing now, host, looks⟩ :=
  start_failed (Act.run_handle_halted rfl rfl rfl h rfl)

theorem start_crashed (h : Greets service host.store packet looks .crashes) :
    start (.server service port client timing now) (.answer packet client) host =
      (.ended .crashed, host.release port, looks) := by
  have hhalted : (Act.dispatch packet client).run
      ⟨.server service port client timing now, host, []⟩ =
        .error .crash ⟨.server service port client timing now, host, looks⟩ :=
    Act.run_dispatch_halted (Act.run_handle_halted rfl rfl rfl h rfl)
  change settle (Act.dispatch _ _) _ _ = _
  unfold settle
  rw [hhalted]
  rfl

/-- What a failed session tells its peer, if it can be sent. -/
theorem finish_told {f : Failure} {code : UInt16} {message : String} {scene : Scene}
    (hwarrants : f.Warrants code message) (hsend : scene.CanSend (.error code message)) :
    ∃ host, finish (some f) scene =
        (.ended (.failed f (scene.session.tally.finish (scene.host.clock + 1))), host,
          scene.deeds ++ [.sent (scene.session.letter (.error code message)) false]) ∧
      host.store = scene.host.store := by
  obtain ⟨c, hnotice, rfl⟩ := Failure.notice_of_warrants hwarrants
  have hdeeds : (notified f scene).deeds =
      scene.deeds ++ [.sent (scene.session.letter (.error c.code message)) false] := by
    unfold Scene.CanSend at hsend
    unfold notified
    rw [hnotice]
    change scene.deeds ++ [_] = _
    rw [Packet.report, hsend]
  rw [finish_some, hdeeds]
  exact ⟨_, rfl, (notified_files f scene).store⟩

/-- A reader is served what the table says. -/
theorem served_of_lends (port : UInt16) (client : Endpoint) (timing : Timing) (now : Nat)
    {requested : Options} {node : Node} {size : Option Nat}
    (h : Greets service host.store packet looks (.lends requested node size)) :
    ∃ filename mode, packet = .request .read filename mode requested ∧
      Admits (Session.server service port client timing now) filename mode service ∧
      Served service filename ⟨.server service port client timing now, host, []⟩ node size
        ⟨.server service port client timing now, host, looks⟩ := by
  cases h with
  | file hproper hlook hfile hopen =>
    exact ⟨_, _, rfl, ⟨hproper.admits, rfl⟩, .file (Store.openNode_of_look hlook hopen) hfile⟩
  | resolved hproper hmissing hresolver hanswer =>
    exact ⟨_, _, rfl, ⟨hproper.admits, rfl⟩, .resolved hmissing hresolver hanswer⟩

/-- A session that can send its answer does. -/
theorem start_opens {letter : Packet} {run : Run}
    (h : Greets service host.store packet looks welcome)
    (hopens : Opens (.server service port client timing now) service host.clock welcome letter run)
    (hsend : (Scene.mk (.server service port client timing now) host []).CanSend letter) :
    ∃ host', start (.server service port client timing now) (.answer packet client) host =
        (run, host',
          looks ++ [.sent ((Session.server service port client timing now).letter letter) false]) ∧
      host'.store = welcome.store host.store := by
  cases hopens with
  | declined hwarrants =>
    rw [start_declined h]
    exact finish_told hwarrants hsend
  | @offered requested node size hgranted =>
    obtain ⟨filename, mode, rfl, hadmits, hserved⟩ :=
      served_of_lends port client timing now h
    have hturn : Turn client ((Scene.mk (.server service port client timing now) host []).showing
        (.request .read filename mode requested)) .idle _ _ _ :=
      .offered hadmits hserved hgranted hsend
    exact ⟨_, start_answered hturn, rfl⟩
  | @block requested node size payload rest hgranted hread =>
    obtain ⟨filename, mode, rfl, hadmits, hserved⟩ :=
      served_of_lends port client timing now h
    have hterms := Terms.offer_terms_of_isEmpty hgranted
    have hgive : Give (Scene.become ⟨.server service port client timing now, host, looks⟩
        { (Session.server service port client timing now).settled client.port {} with
          stream := .ofNode node }) _ := .mk hread hsend
    have hturn : Turn client ((Scene.mk (.server service port client timing now) host []).showing
        (.request .read filename mode requested)) .idle _ _ _ :=
      .served hadmits hserved hgranted (by rw [hterms]; exact hgive)
    exact ⟨_, start_answered hturn, rfl⟩
  | @taken requested path made =>
    cases h with
    | @made filename mode _ _ hproper hcreate =>
      have hmade : Stream.create host (Path.join service.root filename) = .ok
          (.writing (.file (Path.join service.root filename)), { host with store := made }) := by
        unfold Stream.create
        rw [hcreate]
        rfl
      have hturn : Turn client ((Scene.mk (.server service port client timing now) host []).showing
          (.request .write filename mode requested)) .idle _ _ _ :=
        .created ⟨hproper.admits, rfl⟩ hmade hsend
      exact ⟨_, start_answered hturn, rfl⟩

/-- There is an answer to everything but an ERROR packet. -/
theorem exists_answer (s : Session) (h : Greets service host.store packet looks welcome)
    (herror : ∀ code message, packet ≠ .error code message) (hcrash : welcome ≠ .crashes)
    (hreadable : welcome.Readable service) :
    ∃ letter run, Opens s service host.clock welcome letter run := by
  cases welcome with
  | crashes => exact absurd rfl hcrash
  | takes requested path made => exact ⟨_, _, .taken⟩
  | lends requested node size =>
    cases hgranted : (Terms.offer requested (service.told size)).options.isEmpty with
    | false => exact ⟨_, _, .offered hgranted⟩
    | true =>
      obtain ⟨payload, rest, hread⟩ := hreadable hgranted
      refine ⟨_, _, .block hgranted hread (Stream.length_le_of_read hread) fun hchunk => ?_⟩
      obtain ⟨hresult, rfl⟩ := Prod.mk.inj hread
      exact (Node.go_eq_take hchunk (Nat.le_refl 512) (Prod.ext hresult rfl)).1
  | declines f =>
    have hnotice : f.notice ≠ none := by
      cases h with
      | reported => exact absurd rfl (herror _ _)
      | unopened | unseen | unmade => exact Failure.notice_io _
      | _ => exact nofun
    obtain ⟨⟨code, message⟩, hnotice⟩ := Option.ne_none_iff_exists'.1 hnotice
    exact ⟨_, _, .declined (Failure.warrants_of_notice hnotice)⟩

/-- **How a session opens.**  Whatever the packet, the files and the resolver, exactly one line of
the table says what the server looks at and decides.  An ERROR packet ends the session and is not
answered.  Any other packet is answered by the one packet that goes with the decision, once the
server has looked, and the session then stands where the table says; only a resolver that comes to
its end takes the session with it.  A file made for a writer is empty, and no other file has
changed.  Who asks for the size of the file is told it if the server tells sizes and knows it, and
else 1. -/
theorem start_greets (service : Service) (port : UInt16) (client : Endpoint) (timing : Timing)
    (now : Nat) (packet : Packet) (host : Host) :
    let s := Session.server service port client timing now
    let result := start s (.answer packet client) host
    ∃ looks welcome, Greets service host.store packet looks welcome ∧
      (∀ looks' welcome', Greets service host.store packet looks' welcome' →
        looks' = looks ∧ welcome' = welcome) ∧
      (∀ code message, packet = .error code message →
        (∃ tally, result.1 = .ended (.failed (.reported code message) tally)) ∧
          result.2.2 = [] ∧ result.2.1.store = host.store) ∧
      (welcome = .crashes → result.1 = .ended .crashed ∧
        result.2.2 = looks ∧ result.2.1.store = host.store) ∧
      ((∀ code message, packet ≠ .error code message) → welcome ≠ .crashes →
        welcome.Readable service →
        ∃ letter run, Opens s service host.clock welcome letter run ∧
          ((Scene.mk s host []).CanSend letter → result.1 = run ∧
            result.2.2 = looks ++ [.sent (s.letter letter) false] ∧
            result.2.1.store = welcome.store host.store)) ∧
      (∀ requested path made, welcome = .takes requested path made →
        (∃ file, made.find? path = some file ∧ file.content = []) ∧
          ∀ other, other ≠ path → made.find? other = host.store.find? other) ∧
      ∀ requested size,
        (Terms.offer requested (service.told size)).options.get? Terms.transferSizeName =
          if requested.contains Terms.transferSizeName then
            some (if service.reportSize then (size.map Numeral.write).getD "1" else "1")
          else none := by
  intro s result
  obtain ⟨looks, welcome, h⟩ := Greets.exists_line service host.store packet
  refine ⟨looks, welcome, h, fun _ _ h' => h.unique h', fun code message herror => ?_,
    fun hcrash => ?_, fun herror hcrash hreadable => ?_, fun requested path made htakes => ?_,
    fun requested size => ?_⟩
  · subst herror
    obtain ⟨rfl, rfl⟩ := h.unique .reported
    have hstart : result = _ := start_declined h
    rw [hstart, finish_some]
    exact ⟨⟨_, rfl⟩, rfl, rfl⟩
  · subst hcrash
    have hstart : result = _ := start_crashed h
    rw [hstart]
    exact ⟨rfl, rfl, rfl⟩
  · obtain ⟨letter, run, hopens⟩ := exists_answer s h herror hcrash hreadable
    refine ⟨letter, run, hopens, fun hsend => ?_⟩
    obtain ⟨host', hstart, hstore⟩ := start_opens h hopens hsend
    have hresult : result = _ := hstart
    rw [hresult]
    exact ⟨rfl, rfl, hstore⟩
  · subst htakes
    cases h with
    | made _ hcreate =>
      rw [Store.create_ok hcreate]
      refine ⟨⟨_, (Store.find?_set ..).trans (if_pos rfl), rfl⟩, fun other hother => ?_⟩
      exact (Store.find?_set ..).trans (if_neg hother)
  · rw [Terms.get?_transferSize_offer, Terms.sizeText, Service.told]
    split
    · split <;> rfl
    · rfl

/-- A reader who asks for the size of a file is told it. -/
theorem start_greets_file :
    let file : Node := { content := [1, 2, 3] }
    let service : Service := { root := "/srv", reportSize := true }
    let client : Endpoint := ⟨.v4 127 0 0 1, 5000, 0⟩
    let s := Session.server service 40001 client {} 1
    (start s (.answer (.request .read "f" "OCTET" (.ofList [("TSIZE", "0")])) client)
      { store := ⟨[("/srv/f", file)]⟩ }).2.2 =
        [.touched "/srv/f", .sent (s.letter (.optionAck (.ofList [("tsize", "3")]))) false] := by
  intro file service client s
  obtain ⟨looks, welcome, -, hunique, -, -, hanswer, -⟩ := start_greets service 40001 client {} 1
    (.request .read "f" "OCTET" (.ofList [("TSIZE", "0")])) { store := ⟨[("/srv/f", file)]⟩ }
  have hproper : Proper "f" "OCTET" := ⟨by decide, by decide⟩
  have hlook : (Store.mk [("/srv/f", file)]).look (Path.join service.root "f") = .ok file := by
    decide
  obtain ⟨rfl, rfl⟩ := hunique _ _ (.file hproper hlook rfl rfl)
  have hgranted : (Terms.offer (.ofList [("TSIZE", "0")]) (service.told (some 3))).options =
      .ofList [("tsize", "3")] := by
    decide
  have hreadable : Welcome.Readable service
      (.lends (.ofList [("TSIZE", "0")]) file (some file.content.length)) := by
    intro hempty
    exact absurd hempty (by decide)
  obtain ⟨letter, run, hopens, hsent⟩ := hanswer nofun nofun hreadable
  cases hopens with
  | offered =>
    have hpath : Path.join service.root "f" = "/srv/f" := by decide
    have hdeeds := (hsent (by unfold Scene.CanSend; decide)).2.1
    rw [hpath] at hdeeds
    rw [← hgranted]
    exact hdeeds
  | block hempty => exact absurd hempty (by decide)

end Run

end TrivialFtp
