import TrivialFtp.Proofs.Files
import TrivialFtp.World

/-!
# Proofs: what a session does at its turn

Every way in which a session can deal with a packet, said once.  A turn either succeeds, and then
it is one of the cases of `Turn`, or it stops the session, and then it is one of `Setback`; what
holds of whole runs is proved from these cases and not from the programs.

- `Act.handle_ends`: handling a packet is a `Turn` or a `Setback`.
-/

namespace TrivialFtp

/-- A datagram from a session to its peer. -/
def Session.letter (s : Session) (p : Packet) : Datagram := ⟨s.port, s.peer, p.encode⟩

/-- A host counts what it is given to send, sent or not. -/
theorem Host.transmit_snd (host : Host) (d : Datagram) :
    (host.transmit d).2 = { host with sends := host.sends + 1 } := rfl

namespace World

@[simp] theorem sent_nil : sent [] = [] := rfl

@[simp] theorem sent_append (l l' : List Deed) : sent (l ++ l') = sent l ++ sent l' :=
  List.filterMap_append

/-- A deed that sends nothing adds nothing to what is sent. -/
theorem sent_append_silent (l : List Deed) {d : Deed} (h : sent [d] = []) :
    sent (l ++ [d]) = sent l :=
  (sent_append l [d]).trans (by rw [h, List.append_nil])

/-- Who has sent one datagram has sent no other. -/
theorem eq_of_mem_sent {l : List Deed} {d letter : Datagram} {again : Bool} (hsilent : sent l = [])
    (h : letter ∈ sent (l ++ [.sent d again])) : letter = d := by
  rw [sent_append, hsilent] at h
  exact List.mem_singleton.1 h

end World

namespace Act

/-- An act ends in one of two ways, each with a description. -/
def Ends {α : Type} (act : Act α) (scene : Scene) (done : α → Scene → Prop)
    (stopped : Halt → Scene → Prop) : Prop :=
  match act.run scene with
  | .ok a scene' => done a scene'
  | .error h scene' => stopped h scene'

section Ends

variable {α β : Type} {act : Act α} {scene : Scene} {done : α → Scene → Prop}
  {stopped : Halt → Scene → Prop}

/-- What an act is shown to end in, it ends in when it is done. -/
theorem Ends.ok (h : act.Ends scene done stopped) {a : α} {scene' : Scene}
    (hrun : act.run scene = .ok a scene') : done a scene' := by
  rwa [Ends, hrun] at h

theorem Ends.error (h : act.Ends scene done stopped) {halt : Halt} {scene' : Scene}
    (hrun : act.run scene = .error halt scene') : stopped halt scene' := by
  rwa [Ends, hrun] at h

theorem ends_pure {a : α} (h : done a scene) : (pure a : Act α).Ends scene done stopped := h

theorem ends_fail {f : Failure} (h : stopped (.failure f) scene) :
    (fail f : Act α).Ends scene done stopped := h

/-- An act is followed by the next one unless it stops.  The stops of both are stops of the whole,
so what is asked of a stop stays the same from one act to the next. -/
theorem Ends.bind {k : α → Act β} {done' : β → Scene → Prop}
    (h : act.Ends scene (fun a scene' => (k a).Ends scene' done' stopped) stopped) :
    (act >>= k).Ends scene done' stopped := by
  unfold Ends at h ⊢
  rw [EStateM.run_bind]
  cases hrun : act.run scene with
  | ok a scene' => rwa [hrun] at h
  | error halt scene' => rwa [hrun] at h

theorem ends_session {k : Session → Act β} {done : β → Scene → Prop}
    (h : (k scene.session).Ends scene done stopped) : (session >>= k).Ends scene done stopped := h

/-- An act that changes the session ends as its rest does, with the session changed. -/
theorem ends_update {f : Session → Session} {k : Unit → Act β} {done : β → Scene → Prop}
    (h : (k ()).Ends { scene with session := f scene.session } done stopped) :
    (update f >>= k).Ends scene done stopped := h

/-- To count is to change the session and nothing else. -/
theorem ends_count {f : Tally → Tally} {k : Unit → Act β} {done : β → Scene → Prop}
    (h : (k ()).Ends
      { scene with session := { scene.session with tally := f scene.session.tally } }
      done stopped) :
    (count f >>= k).Ends scene done stopped := h

/-- A deed is put after those that were done before it. -/
theorem ends_record {d : Deed} {k : Unit → Act β} {done : β → Scene → Prop}
    (h : (k ()).Ends { scene with deeds := scene.deeds ++ [d] } done stopped) :
    (record d >>= k).Ends scene done stopped := h

theorem ends_get {k : Scene → Act β} {done : β → Scene → Prop}
    (h : (k scene).Ends scene done stopped) : (get >>= k).Ends scene done stopped := h

/-- Each look at the clock takes one unit of time. -/
theorem ends_now {k : Nat → Act β} {done : β → Scene → Prop}
    (h : (k (scene.host.clock + 1)).Ends
      { scene with host := { scene.host with clock := scene.host.clock + 1 } } done stopped) :
    (now >>= k).Ends scene done stopped := h

/-- An act that ends in something ends in anything that follows from it. -/
theorem Ends.mono (h : act.Ends scene done stopped) {done' : α → Scene → Prop}
    {stopped' : Halt → Scene → Prop} (hdone : ∀ a scene', done a scene' → done' a scene')
    (hstopped : ∀ halt scene', stopped halt scene' → stopped' halt scene') :
    act.Ends scene done' stopped' := by
  unfold Ends at h ⊢
  cases hrun : act.run scene with
  | ok a scene' =>
    rw [hrun] at h
    exact hdone a scene' h
  | error halt scene' =>
    rw [hrun] at h
    exact hstopped halt scene' h

end Ends

/-! ### Sending, reading and writing -/

section Steps

variable {scene : Scene} {stopped : Halt → Scene → Prop}

/-- A packet goes to the peer, or the act stops with the fault of the host.  Sent or not, it is one
of those that the host was given. -/
theorem ends_transmit {p : Packet} {again : Bool} {done : Unit → Scene → Prop}
    (hsent : (scene.host.transmit (scene.session.letter p)).1 = none →
      done () { scene with
        host := { scene.host with sends := scene.host.sends + 1 }
        deeds := scene.deeds ++ [.sent (scene.session.letter p) again] })
    (hunsent : ∀ f, (scene.host.transmit (scene.session.letter p)).1 = some f →
      stopped (.failure (.io f)) { scene with
        host := { scene.host with sends := scene.host.sends + 1 }
        deeds := scene.deeds ++ [.unsent (scene.session.letter p) f] }) :
    (transmit p.encode again).Ends scene done stopped := by
  unfold Session.letter at hsent hunsent
  cases h : (scene.host.transmit ⟨scene.session.port, scene.session.peer, p.encode⟩).1 with
  | none =>
    simpa only [Ends, transmit, EStateM.run_bind, run_attempt, run_check, h, Host.transmit_snd]
      using hsent h
  | some f =>
    simpa only [Ends, transmit, EStateM.run_bind, run_attempt, run_check, h, Host.transmit_snd]
      using hunsent f h

/-- A packet that is to be repeated is remembered once it is sent, and not before. -/
theorem ends_send {p : Packet} {done : Unit → Scene → Prop}
    (hsent : (scene.host.transmit (scene.session.letter p)).1 = none →
      done () {
        session := { scene.session with lastSent := some p }
        host := { scene.host with sends := scene.host.sends + 1 }
        deeds := scene.deeds ++ [.sent (scene.session.letter p) false] })
    (hunsent : ∀ f, (scene.host.transmit (scene.session.letter p)).1 = some f →
      stopped (.failure (.io f)) { scene with
        host := { scene.host with sends := scene.host.sends + 1 }
        deeds := scene.deeds ++ [.unsent (scene.session.letter p) f] }) :
    (send p).Ends scene done stopped :=
  Ends.bind (ends_transmit hsent hunsent)

/-- What could not be written stops the act, with whatever the host has taken of it. -/
theorem ends_writeBlock {payload : Bytes} {done : Unit → Scene → Prop}
    (hwritten : ∀ host, scene.session.stream.write scene.host payload = (none, host) →
      done () { scene with host })
    (hunwritten : ∀ f host, scene.session.stream.write scene.host payload = (some f, host) →
      stopped (.failure (.io f)) { scene with host }) :
    (writeBlock payload).Ends scene done stopped := by
  cases h : scene.session.stream.write scene.host payload with
  | mk fault host =>
    change (check (scene.session.stream.write scene.host payload).1).Ends
      { scene with host := (scene.session.stream.write scene.host payload).2 } done stopped
    rw [h]
    cases fault with
    | none => exact hwritten host h
    | some f => exact hunwritten f host h

/-- What a mishap with a stream makes of an act. -/
def halt : Mishap → Halt
  | .fault f => .failure (.io f)
  | .crash => .crash

/-- A block is read, and the stream is left at what follows; or the act stops as the mishap says. -/
theorem ends_readBlock {size : Nat} {done : Bytes → Scene → Prop}
    (hread : ∀ payload stream, scene.session.stream.read size = (.ok payload, stream) →
      done payload { scene with session := { scene.session with stream } })
    (hunread : ∀ m stream, scene.session.stream.read size = (.error m, stream) →
      stopped (halt m) { scene with session := { scene.session with stream } }) :
    (readBlock size).Ends scene done stopped := by
  cases h : scene.session.stream.read size with
  | mk result stream =>
    have hrun : (readBlock size).run scene =
        match result with
        | .ok payload => .ok payload { scene with session := { scene.session with stream } }
        | .error m => .error (halt m) { scene with session := { scene.session with stream } } := by
      unfold readBlock
      simp only [EStateM.run_bind, EStateM.run_get, h]
      cases result with
      | ok payload => rfl
      | error m => cases m <;> rfl
    rw [Ends, hrun]
    cases result with
    | ok payload => exact hread payload stream h
    | error m => exact hunread m stream h

end Steps

end Act

/-! ### Turns -/

namespace Session

/-- A session that wrote a payload and acknowledged its block. -/
def took (s : Session) (payload : Bytes) : Session :=
  { s.advance with
    tally := { s.tally with bytes := s.tally.bytes + payload.length }
    lastSent := some (.ack s.nextBlock) }

/-- A session that sent the payload of the next block and has the rest of its stream left. -/
def gave (s : Session) (payload : Bytes) (stream : Stream) : Session :=
  { s with
    stream
    tally := { s.tally with bytes := s.tally.bytes + payload.length }
    lastSent := some (.data s.nextBlock payload)
    finalSent := payload.length < s.blockSize }

/-- A session that noted a duplicate. -/
def noted (s : Session) (block : UInt16) : Session := { s with tally := s.tally.note block }

/-- A session about to move block 1 on terms settled with the peer at a port. -/
def settled (s : Session) (port : UInt16) (terms : Terms) : Session :=
  { (s.pin port).setNextBlock 1 with terms }

end Session

namespace Service

/-- The size told to the peer, if any is. -/
def told (service : Service) (size : Option Nat) : Option Nat :=
  if service.reportSize then size else none

end Service

/-- The size of the file as the writer announces it. -/
def Options.announced (requested : Options) : Option Nat :=
  (requested.get? Terms.transferSizeName).bind (Numeral.readTrimmed? Numeral.word64)

/-- What tells a writer of an offer. -/
def Terms.Offer.reply (offer : Terms.Offer) : Packet :=
  if offer.options.isEmpty then .ack 0 else .optionAck offer.options

namespace Scene

/-- The scene with another session. -/
def become (scene : Scene) (session : Session) : Scene := { scene with session }

/-- The scene after a packet went out and the session became another. -/
def post (scene : Scene) (p : Packet) (session : Session) : Scene where
  session
  host := { scene.host with sends := scene.host.sends + 1 }
  deeds := scene.deeds ++ [.sent (scene.session.letter p) false]

/-- The next datagram will be sent. -/
def CanSend (scene : Scene) (p : Packet) : Prop :=
  (scene.host.transmit (scene.session.letter p)).1 = none

end Scene

/-- The block that is next is written and acknowledged. -/
inductive Take (scene : Scene) (payload : Bytes) : Phase → Scene → Prop where
  | mk {host : Host}
      (hwrite : scene.session.stream.write scene.host payload = (none, host))
      (hsend : scene.CanSend (.ack scene.session.nextBlock)) :
    Take scene payload (if payload.length < scene.session.blockSize then .done else .awaitingData)
      (Scene.post { scene with host } (.ack scene.session.nextBlock) (scene.session.took payload))

/-- The block that is next is read and sent. -/
inductive Give (scene : Scene) : Scene → Prop where
  | mk {payload : Bytes} {stream : Stream}
      (hread : scene.session.stream.read scene.session.blockSize = (.ok payload, stream))
      (hsend : scene.CanSend (.data scene.session.nextBlock payload)) :
    Give scene
      (scene.post (.data scene.session.nextBlock payload) (scene.session.gave payload stream))

/-- A session has leave to serve a request. -/
structure Admits (session : Session) (filename mode : String) (service : Service) : Prop where
  plain : requestViolation? filename mode = none
  serving : session.role.service? = some service

/-- There is no file at a path: nothing at all, or something else. -/
def NoFile (store : Store) (path : String) : Prop :=
  (∃ node, store.look path = .ok node ∧ node.isFile = false) ∨
    ∃ f, store.look path = .error f ∧ f.kind = .notFound

/-- What a reader is served under a name: the file if there is one, otherwise what the resolver
has for it. -/
inductive Served (service : Service) (filename : String) (scene : Scene) :
    Node → Option Nat → Scene → Prop where
  | file {node : Node}
      (hopen : scene.host.store.openNode (Path.join service.root filename) = .ok node)
      (hfile : node.isFile) :
    Served service filename scene node (some node.content.length)
      { scene with deeds := scene.deeds ++ [.touched (Path.join service.root filename)] }
  | resolved {node : Node} {resolver : String → Option Resolution}
      (hmissing : NoFile scene.host.store (Path.join service.root filename))
      (hresolver : service.resolver = some resolver)
      (hcontent : resolver filename = some (.content node)) :
    Served service filename scene node none
      { scene with
        deeds := scene.deeds ++ [.touched (Path.join service.root filename)] ++
          [.consulted filename] }

/-- What a session can do with a packet: the phase it was in, the packet, the phase that follows
and the scene after it. -/
inductive Turn (source : Endpoint) (scene : Scene) : Phase → Packet → Phase → Scene → Prop where
  /-- A receiver gets the block it waits for. -/
  | block {payload : Bytes} {phase : Phase} {scene' : Scene}
      (htake : Take scene payload phase scene') :
    Turn source scene .awaitingData (.data scene.session.nextBlock payload) phase scene'
  /-- A receiver gets a block once more. -/
  | oldBlock {block : UInt16} {payload : Bytes} (hzero : block ≠ 0)
      (hold : block < scene.session.nextBlock)
      (hfew : (scene.session.tally.note block).exceeds block = false)
      (hsend : scene.CanSend (.ack block)) :
    Turn source scene .awaitingData (.data block payload) .awaitingData
      (scene.post (.ack block) (scene.session.noted block))
  /-- A sender is told that its last block arrived. -/
  | lastAck {phase : Phase} (hphase : phase = .awaitingAck ∨ phase = .offering)
      (hfinal : scene.session.finalSent = true) :
    Turn source scene phase (.ack scene.session.nextBlock) .done scene
  /-- A sender is told that its block arrived, and sends the one after it. -/
  | ack {phase : Phase} {scene' : Scene} (hphase : phase = .awaitingAck ∨ phase = .offering)
      (hfinal : scene.session.finalSent = false)
      (hgive : Give (scene.become scene.session.advance) scene') :
    Turn source scene phase (.ack scene.session.nextBlock) .awaitingAck scene'
  /-- A sender gets an acknowledgement once more. -/
  | oldAck {phase : Phase} {block : UInt16} (hphase : phase = .awaitingAck ∨ phase = .offering)
      (hold : block < scene.session.nextBlock)
      (hfew : (scene.session.tally.note block).exceeds block = false) :
    Turn source scene phase (.ack block) .awaitingAck (scene.become (scene.session.noted block))
  /-- A download is granted options. -/
  | grantedRead {granted : Options} {terms : Terms} (hrole : scene.session.role = .download)
      (hagree : Terms.agree scene.session.requested granted = .ok terms)
      (hsend : (scene.become (scene.session.pin source.port)).CanSend (.ack 0)) :
    Turn source scene .requested (.optionAck granted) .awaitingData
      ((scene.become (scene.session.pin source.port)).post (.ack 0)
        { scene.session.settled source.port terms with lastSent := some (.ack 0) })
  /-- A download gets block 1 at once. -/
  | firstBlock {payload : Bytes} {phase : Phase} {scene' : Scene}
      (hrole : scene.session.role = .download)
      (htake : Take (scene.become (scene.session.settled source.port {})) payload phase scene') :
    Turn source scene .requested (.data 1 payload) phase scene'
  /-- An upload is granted options. -/
  | grantedWrite {granted : Options} {terms : Terms} {scene' : Scene}
      (hrole : scene.session.role = .upload)
      (hagree : Terms.agree scene.session.requested granted = .ok terms)
      (hgive : Give (scene.become (scene.session.settled source.port terms)) scene') :
    Turn source scene .requested (.optionAck granted) .awaitingAck scene'
  /-- An upload may begin at once. -/
  | firstAck {scene' : Scene} (hrole : scene.session.role = .upload)
      (hgive : Give (scene.become (scene.session.settled source.port {})) scene') :
    Turn source scene .requested (.ack 0) .awaitingAck scene'
  /-- An upload passes over the acknowledgement of a block it did not send. -/
  | strayAck {block : UInt16} (hrole : scene.session.role = .upload) (hzero : block ≠ 0) :
    Turn source scene .requested (.ack block) .requested
      (scene.become (scene.session.pin source.port))
  /-- A server grants options to a reader. -/
  | offered {filename mode : String} {requested : Options} {service : Service} {node : Node}
      {size : Option Nat} {scene₁ : Scene} (hadmits : Admits scene.session filename mode service)
      (hserved : Served service filename (scene.become (scene.session.pin source.port)) node size
        scene₁)
      (hgranted : (Terms.offer requested (service.told size)).options.isEmpty = false)
      (hsend : scene₁.CanSend
        (.optionAck (Terms.offer requested (service.told size)).options)) :
    Turn source scene .idle (.request .read filename mode requested) .offering
      (scene₁.post (.optionAck (Terms.offer requested (service.told size)).options)
        { scene.session.settled source.port (Terms.offer requested (service.told size)).terms with
          stream := .ofNode node
          lastSent := some (.optionAck (Terms.offer requested (service.told size)).options)
          nextBlock := 0
          finalSent := false })
  /-- A server sends a reader block 1 at once. -/
  | served {filename mode : String} {requested : Options} {service : Service} {node : Node}
      {size : Option Nat} {scene₁ scene' : Scene}
      (hadmits : Admits scene.session filename mode service)
      (hserved : Served service filename (scene.become (scene.session.pin source.port)) node size
        scene₁)
      (hgranted : (Terms.offer requested (service.told size)).options.isEmpty = true)
      (hgive : Give (scene₁.become
        { scene.session.settled source.port (Terms.offer requested (service.told size)).terms with
          stream := .ofNode node }) scene') :
    Turn source scene .idle (.request .read filename mode requested) .awaitingAck scene'
  /-- A server makes a file for a writer. -/
  | created {filename mode : String} {requested : Options} {service : Service} {stream : Stream}
      {host : Host} (hadmits : Admits scene.session filename mode service)
      (hcreate : Stream.create scene.host (Path.join service.root filename) = .ok (stream, host))
      (hsend : (scene.become (scene.session.pin source.port)).CanSend
        (Terms.offer requested (service.told requested.announced)).reply) :
    Turn source scene .idle (.request .write filename mode requested) .awaitingData
      (Scene.post
        { session := scene.session.pin source.port
          host
          deeds := scene.deeds ++ [.touched (Path.join service.root filename)] }
        (Terms.offer requested (service.told requested.announced)).reply
        { scene.session.settled source.port
            (Terms.offer requested (service.told requested.announced)).terms with
          stream
          lastSent := some (Terms.offer requested (service.told requested.announced)).reply })

/-- A turn of a phase is a turn of the phase that a session is in. -/
theorem Turn.of_phase {source : Endpoint} {scene scene' : Scene} {now phase phase' : Phase}
    {packet : Packet} (h : now = phase) (hturn : Turn source scene phase packet phase' scene') :
    Turn source scene now packet phase' scene' := by
  rwa [h]

/-- A session whose phase is final has no turn. -/
theorem Turn.waits {source : Endpoint} {scene scene' : Scene} {now phase : Phase} {packet : Packet}
    (h : Turn source scene now packet phase scene') : now.isTerminal = false := by
  cases h with
  | lastAck hphase | ack hphase | oldAck hphase => rcases hphase with rfl | rfl <;> rfl
  | _ => rfl

/-! ### Setbacks -/

/-- The block that a session is ready to write. -/
def Session.Expects (s : Session) (block : UInt16) : Prop :=
  (s.phase = .awaitingData ∧ block = s.nextBlock) ∨
    (s.phase = .requested ∧ s.role = .download ∧ block = 1)

/-- A session is ready to send a block. -/
def Session.Sends (s : Session) : Prop :=
  s.phase = .awaitingAck ∨ s.phase = .offering ∨ (s.phase = .requested ∧ s.role = .upload)

/-- Why a session stops over a packet. -/
inductive Cause (scene : Scene) : Packet → Halt → Prop where
  /-- The packet is refused. -/
  | refused {packet : Packet} {f : Failure} (hf : ∀ fault, f ≠ .io fault) :
    Cause scene packet (.failure f)
  | unread {packet : Packet} {size : Nat} {m : Mishap} (hsends : scene.session.Sends)
      (hread : (scene.session.stream.read size).1 = .error m) : Cause scene packet (Act.halt m)
  | unwritten {block : UInt16} {payload : Bytes} {fault : Fault}
      (hexpects : scene.session.Expects block)
      (hwrite : (scene.session.stream.write scene.host payload).1 = some fault) :
    Cause scene (.data block payload) (.failure (.io fault))
  | unsent {packet : Packet} {d : Datagram} {fault : Fault}
      (hsend : (scene.host.transmit d).1 = some fault) :
    Cause scene packet (.failure (.io fault))
  /-- The file of a request cannot be opened or made. -/
  | unopened {direction : Direction} {filename mode : String} {requested : Options}
      {path : String} {fault : Fault}
      (hopen : scene.host.store.look path = .error fault ∨
        scene.host.store.openNode path = .error fault ∨
        scene.host.store.create path = .error fault) :
    Cause scene (.request direction filename mode requested) (.failure (.io fault))
  /-- The content that a reader is served cannot be read. -/
  | unserved {filename mode : String} {requested : Options} {service : Service} {session : Session}
      {node : Node} {told : Option Nat} {scene₁ : Scene} {size : Nat} {m : Mishap}
      (hadmits : Admits scene.session filename mode service)
      (hserved : Served service filename (scene.become session) node told scene₁)
      (hread : ((Stream.ofNode node).read size).1 = .error m) :
    Cause scene (.request .read filename mode requested) (Act.halt m)
  /-- The resolver comes to its end. -/
  | unresolved {filename mode : String} {requested : Options} :
    Cause scene (.request .read filename mode requested) .crash

/-- What has become of the files when a session stops over a packet. -/
inductive Filed (scene : Scene) : Packet → Host → Prop where
  | untouched {packet : Packet} {host : Host} (hfiles : scene.host.SameFiles host) :
    Filed scene packet host
  | written {block : UInt16} {payload : Bytes} {host : Host}
      (hexpects : scene.session.Expects block)
      (hfiles : (scene.session.stream.write scene.host payload).2.SameFiles host) :
    Filed scene (.data block payload) host
  | created {filename mode : String} {requested : Options} {service : Service} {store : Store}
      {host : Host} (hphase : scene.session.phase = .idle)
      (hadmits : Admits scene.session filename mode service)
      (hcreate : scene.host.store.create (Path.join service.root filename) = .ok store)
      (hfiles : Host.SameFiles { scene.host with store } host) :
    Filed scene (.request .write filename mode requested) host

/-- A packet stops a session, and nothing goes out. -/
structure Setback (scene : Scene) (packet : Packet) (halt : Halt) (scene' : Scene) : Prop where
  cause : Cause scene packet halt
  files : Filed scene packet scene'.host
  silent : World.sent scene'.deeds = World.sent scene.deeds

/-- A server has looked for a file under its root and with its resolver, and has done nothing
else. -/
structure Scene.Looks (service : Service) (filename : String) (scene scene' : Scene) : Prop where
  session : scene'.session = scene.session
  deeds : ∃ more, scene'.deeds = scene.deeds ++ more ∧
    ∀ d ∈ more, d = .touched (Path.join service.root filename) ∨ d = .consulted filename

theorem Scene.looks_touched (service : Service) (filename : String) (scene : Scene) :
    scene.Looks service filename
      { scene with deeds := scene.deeds ++ [.touched (Path.join service.root filename)] } :=
  ⟨rfl, _, rfl, fun _ hd => .inl (List.mem_singleton.1 hd)⟩

theorem Scene.Looks.consults {service : Service} {filename : String} {scene scene' : Scene}
    (h : scene.Looks service filename scene') :
    scene.Looks service filename
      { scene' with deeds := scene'.deeds ++ [.consulted filename] } := by
  obtain ⟨more, hdeeds, hmore⟩ := h.deeds
  refine ⟨h.session, more ++ [.consulted filename], ?_, fun d hd => ?_⟩
  · rw [hdeeds, List.append_assoc]
  · exact (List.mem_append.1 hd).elim (hmore d) fun hd => .inr (List.mem_singleton.1 hd)

namespace Act

/-- A duplicate is noted.  One of them too many stops the act, noted all the same. -/
theorem ends_noteDuplicate {scene : Scene} {block : UInt16} {done : Unit → Scene → Prop}
    {stopped : Halt → Scene → Prop}
    (hfew : (scene.session.tally.note block).exceeds block = false →
      done () (scene.become (scene.session.noted block)))
    (hmany : (scene.session.tally.note block).exceeds block = true →
      stopped (.failure (.tooManyDuplicates block))
        (scene.become (scene.session.noted block))) :
    (noteDuplicate block).Ends scene done stopped := by
  rw [Ends, run_noteDuplicate]
  cases h : (scene.session.tally.note block).exceeds block with
  | true =>
    simp only [h, if_true]
    exact hmany h
  | false =>
    simp only [h, if_false, Bool.false_eq_true]
    exact hfew h

/-- A packet that is refused for what it says leaves the files alone. -/
theorem setback_refused {scene : Scene} {packet : Packet} {f : Failure} {session : Session}
    (hf : ∀ fault, f ≠ .io fault) :
    Setback scene packet (.failure f) (scene.become session) :=
  ⟨.refused hf, .untouched (.refl _), rfl⟩

/-- Receiving a block, in a session whose stream is that of the session the packet found. -/
theorem receiveData_ends {base : Scene} {session : Session}
    (hstream : session.stream = base.session.stream) {block : UInt16} {payload : Bytes}
    (hexpects : block = session.nextBlock → base.session.Expects block)
    {done : Phase → Scene → Prop}
    (hnext : block = session.nextBlock → ∀ phase scene',
      Take (base.become session) payload phase scene' → done phase scene')
    (hold : block ≠ 0 → block < session.nextBlock →
      (session.tally.note block).exceeds block = false →
      (base.become session).CanSend (.ack block) →
      done .awaitingData ((base.become session).post (.ack block) (session.noted block))) :
    (receiveData block payload).Ends (base.become session) done
      (Setback base (.data block payload)) := by
  refine Ends.bind ?_
  change Ends (ite (block = session.nextBlock) _ _) _ _ _
  split
  · next h =>
    refine Ends.bind (ends_writeBlock (fun host hwrite => ?_) (fun f host hwrite => ?_))
    all_goals
      change session.stream.write base.host payload = _ at hwrite
      have hhost := Stream.write_host hwrite
      have hfiled : Filed base (.data block payload) host :=
        .written (hexpects h) (by rw [← hstream, hwrite]; exact .refl host)
    · refine Ends.bind (Ends.bind (ends_send (fun hsend => ?_) (fun f hsend => ?_)))
      all_goals
        rw [hhost] at hsend
      · subst h
        exact hnext rfl _ _ (.mk hwrite hsend)
      · refine ⟨.unsent hsend, ?_, World.sent_append_silent _ rfl⟩
        exact .written (hexpects h) (by rw [← hstream, hwrite]; exact ⟨rfl, rfl⟩)
    · exact ⟨.unwritten (hexpects h) (by rw [← hstream, hwrite]), hfiled, rfl⟩
  · next hne =>
    split
    · next hlt =>
      change Ends (ite (block = 0) (fail _ >>= _) (noteDuplicate block >>= _)) _ _ _
      split
      · exact Ends.bind (ends_fail (setback_refused fun _ => Failure.noConfusion))
      · next hzero =>
        refine Ends.bind (ends_noteDuplicate ?_ ?_)
        · intro hfew
          refine Ends.bind (ends_transmit ?_ ?_)
          · intro hsend
            exact hold hzero hlt hfew hsend
          · intro f hsend
            exact ⟨.unsent hsend, .untouched ⟨rfl, rfl⟩, World.sent_append_silent _ rfl⟩
        · intro _
          exact setback_refused fun _ => Failure.noConfusion
    · exact ends_fail (setback_refused fun _ => Failure.noConfusion)

/-- Sending the next block, in the host that the packet found. -/
theorem sendBlock_ends {base : Scene} {packet : Packet} {session : Session} {deeds : List Deed}
    (hcause : ∀ m, (session.stream.read session.blockSize).1 = .error m →
      Cause base packet (halt m))
    (hsilent : World.sent deeds = World.sent base.deeds) {done : Phase → Scene → Prop}
    (hgive : ∀ scene', Give ⟨session, base.host, deeds⟩ scene' → done .awaitingAck scene') :
    sendBlock.Ends ⟨session, base.host, deeds⟩ done (Setback base packet) := by
  refine Ends.bind (ends_session (Ends.bind (ends_readBlock ?_ ?_)))
  · intro payload stream hread
    refine ends_count (ends_session (Ends.bind (ends_send ?_ ?_)))
    · intro hsend
      exact hgive _ (.mk hread hsend)
    · intro f hsend
      exact ⟨.unsent hsend, .untouched ⟨rfl, rfl⟩, (World.sent_append_silent _ rfl).trans hsilent⟩
  · intro m stream hread
    exact ⟨hcause m (congrArg Prod.fst hread), .untouched (.refl _), hsilent⟩

/-- An acknowledgement is of the last block, of the one that was sent or of one before; any other is
a setback. -/
theorem receiveAck_ends {scene : Scene} (source : Endpoint) (block : UInt16)
    (hphase : scene.session.phase = .awaitingAck ∨ scene.session.phase = .offering) :
    (receiveAck block).Ends scene (Turn source scene scene.session.phase (.ack block))
      (Setback scene (.ack block)) := by
  refine ends_session ?_
  by_cases h : block = scene.session.nextBlock
  · subst h
    rw [if_pos rfl]
    cases hfinal : scene.session.finalSent with
    | true => exact ends_pure (.lastAck hphase hfinal)
    | false =>
      refine ends_update (sendBlock_ends ?_ rfl ?_)
      · intro m hread
        exact .unread (hphase.elim .inl fun h => .inr (.inl h)) hread
      · intro scene' hgive
        exact .ack hphase hfinal hgive
  · rw [if_neg h]
    split
    · next hlt =>
      refine Ends.bind (ends_noteDuplicate ?_ ?_)
      · intro hfew
        exact .oldAck hphase hlt hfew
      · intro _
        exact setback_refused fun _ => Failure.noConfusion
    · exact ends_fail (setback_refused fun _ => Failure.noConfusion)

/-- Terms that agree with the request are adopted, and others stop the act. -/
theorem ends_adopt {scene : Scene} {granted : Options} {done : Unit → Scene → Prop}
    {stopped : Halt → Scene → Prop}
    (hagree : ∀ terms, Terms.agree scene.session.requested granted = .ok terms →
      done () (scene.become { scene.session with terms }))
    (hdisagree : ∀ d, stopped (.failure (.negotiation d)) scene) :
    (adopt granted).Ends scene done stopped := by
  refine ends_session ?_
  cases h : Terms.agree scene.session.requested granted with
  | ok terms => exact hagree terms h
  | error d => exact hdisagree d

/-- The first that a download hears is a grant, block 1 or a setback. -/
theorem replyToRead_ends {scene : Scene} (packet : Packet) (source : Endpoint)
    (hphase : scene.session.phase = .requested) (hrole : scene.session.role = .download) :
    (replyToRead packet source).Ends scene (Turn source scene .requested packet)
      (Setback scene packet) := by
  refine ends_update ?_
  match packet with
  | .optionAck granted =>
    refine Ends.bind (ends_adopt ?_ ?_)
    · intro terms hagree
      refine Ends.bind (ends_send ?_ ?_)
      · intro hsend
        exact .grantedRead hrole hagree hsend
      · intro f hsend
        exact ⟨.unsent hsend, .untouched ⟨rfl, rfl⟩, World.sent_append_silent _ rfl⟩
    · intro d
      exact setback_refused fun _ => Failure.noConfusion
  | .data block payload =>
    change (receiveData block payload).Ends
      (scene.become (scene.session.settled source.port {})) _ _
    refine receiveData_ends ?_ ?_ ?_ ?_
    · rfl
    · exact fun h => .inr ⟨hphase, hrole, h⟩
    · rintro rfl phase scene' htake
      exact .firstBlock hrole htake
    · exact fun hzero hlt => absurd (UInt16.toNat_inj.1 (Nat.lt_one_iff.1 hlt) : block = 0) hzero
  | .ack block => exact ends_fail (setback_refused fun _ => Failure.noConfusion)
  | .request _ _ _ _ => exact ends_fail (setback_refused fun _ => Failure.noConfusion)
  | .error _ _ => exact ends_fail (setback_refused fun _ => Failure.noConfusion)

/-- The first that an upload hears is a grant, acknowledgement 0, an acknowledgement that says
nothing yet, or a setback. -/
theorem replyToWrite_ends {scene : Scene} (packet : Packet) (source : Endpoint)
    (hphase : scene.session.phase = .requested) (hrole : scene.session.role = .upload) :
    (replyToWrite packet source).Ends scene (Turn source scene .requested packet)
      (Setback scene packet) := by
  refine ends_update ?_
  match packet with
  | .optionAck granted =>
    refine Ends.bind (ends_adopt ?_ ?_)
    · intro terms hagree
      change sendBlock.Ends
        ⟨scene.session.settled source.port terms, scene.host, scene.deeds⟩ _ _
      refine sendBlock_ends ?_ rfl ?_
      · intro m hread
        exact .unread (.inr (.inr ⟨hphase, hrole⟩)) hread
      · intro scene' hgive
        exact .grantedWrite hrole hagree hgive
    · intro d
      exact setback_refused fun _ => Failure.noConfusion
  | .ack block =>
    by_cases hzero : block = 0
    · subst hzero
      change sendBlock.Ends ⟨scene.session.settled source.port {}, scene.host, scene.deeds⟩ _ _
      refine sendBlock_ends ?_ rfl ?_
      · intro m hread
        exact .unread (.inr (.inr ⟨hphase, hrole⟩)) hread
      · intro scene' hgive
        exact .firstAck hrole hgive
    · change Ends (ite (block = 0) _ _) _ _ _
      rw [if_neg hzero]
      exact ends_pure (.strayAck hrole hzero)
  | .data _ _ => exact ends_fail (setback_refused fun _ => Failure.noConfusion)
  | .request _ _ _ _ => exact ends_fail (setback_refused fun _ => Failure.noConfusion)
  | .error _ _ => exact ends_fail (setback_refused fun _ => Failure.noConfusion)

/-- A request is admitted as a whole or refused for one thing that is wrong with it. -/
theorem ends_vet {scene : Scene} {filename mode : String} {done : Service → Scene → Prop}
    {stopped : Halt → Scene → Prop}
    (hadmits : ∀ service, Admits scene.session filename mode service → done service scene)
    (hrefused : ∀ v, stopped (.failure (.violation v)) scene) :
    (vet filename mode).Ends scene done stopped := by
  unfold vet
  cases hplain : requestViolation? filename mode with
  | some v => exact Ends.bind (ends_fail (hrefused v))
  | none =>
    refine ends_session ?_
    cases hserving : scene.session.role.service? with
    | none => exact ends_fail (hrefused _)
    | some service => exact ends_pure (hadmits service ⟨hplain, hserving⟩)

/-- A file is found under the root, or else by the resolver, or the request is refused and nothing
is sent. -/
theorem openServed_ends {base : Scene} {session : Session} {service : Service}
    {filename mode : String} {requested : Options} {done : Stream × Option Nat → Scene → Prop}
    (hserved : ∀ node size scene', Served service filename (base.become session) node size scene' →
      done (.ofNode node, size) scene') :
    (openServed service filename).Ends (base.become session) done
      (Setback base (.request .read filename mode requested)) := by
  have hresolve : NoFile base.host.store (Path.join service.root filename) →
      (openServed.resolve service filename).Ends
        ⟨session, base.host, base.deeds ++ [.touched (Path.join service.root filename)]⟩ done
        (Setback base (.request .read filename mode requested)) := by
    intro hmissing
    unfold openServed.resolve
    cases hresolver : service.resolver with
    | none =>
      exact ends_fail ⟨.refused fun _ => Failure.noConfusion, .untouched (.refl _),
        World.sent_append_silent _ rfl⟩
    | some resolver =>
      refine ends_record ?_
      match hcontent : resolver filename with
      | some (.content node) =>
        exact ends_pure (hserved node none _ (.resolved hmissing hresolver hcontent))
      | some .crash =>
        exact ⟨.unresolved, .untouched (.refl _),
          (World.sent_append_silent _ rfl).trans (World.sent_append_silent _ rfl)⟩
      | none =>
        exact ends_fail ⟨.refused fun _ => Failure.noConfusion, .untouched (.refl _),
          (World.sent_append_silent _ rfl).trans (World.sent_append_silent _ rfl)⟩
  refine ends_record (ends_get ?_)
  dsimp only [Scene.become]
  cases hlook : base.host.store.look (Path.join service.root filename) with
  | error f =>
    change Ends (ite (f.kind = .notFound) _ _) _ _ _
    split
    · next hkind => exact hresolve (.inr ⟨f, hlook, hkind⟩)
    · exact ends_fail ⟨.unopened (.inl hlook), .untouched (.refl _),
        World.sent_append_silent _ rfl⟩
  | ok node =>
    change Ends (ite (node.isFile = true) _ _) _ _ _
    split
    · next hfile =>
      cases hopen : base.host.store.openNode (Path.join service.root filename) with
      | error f =>
        exact ends_fail ⟨.unopened (.inr (.inl hopen)), .untouched (.refl _),
          World.sent_append_silent _ rfl⟩
      | ok opened =>
        have hsame := Store.openNode_ok hlook hopen
        exact ends_pure (hserved opened _ _ (.file hopen (hsame ▸ hfile)))
    · next hfile => exact hresolve (.inl ⟨node, hlook, Bool.eq_false_iff.2 hfile⟩)

/-- Whatever comes of it, to look for a file to serve is all that is done, and a duplicate too many
is not what stops it. -/
theorem openServed_looks (service : Service) (filename : String) (scene : Scene) :
    (openServed service filename).Ends scene (fun _ => scene.Looks service filename)
      fun halt scene' => scene.Looks service filename scene' ∧
        ∀ block, halt ≠ .failure (.tooManyDuplicates block) := by
  have hresolve : ∀ scene₁, scene.Looks service filename scene₁ →
      (openServed.resolve service filename).Ends scene₁ (fun _ => scene.Looks service filename)
        fun halt scene' => scene.Looks service filename scene' ∧
          ∀ block, halt ≠ .failure (.tooManyDuplicates block) := by
    intro scene₁ hlooks
    unfold openServed.resolve
    split
    · exact ends_fail ⟨hlooks, fun _ => nofun⟩
    · refine ends_record ?_
      split
      · exact ends_pure hlooks.consults
      · exact ⟨hlooks.consults, fun _ => nofun⟩
      · exact ends_fail ⟨hlooks.consults, fun _ => nofun⟩
  have htouched := Scene.looks_touched service filename scene
  refine ends_record (ends_get ?_)
  dsimp only
  split
  · split
    · split
      · exact ends_pure htouched
      · exact ends_fail ⟨htouched, fun _ => nofun⟩
    · exact hresolve _ htouched
  · split
    · exact hresolve _ htouched
    · exact ends_fail ⟨htouched, fun _ => nofun⟩

/-- The port of the peer is of no consequence for what is admitted. -/
theorem admits_of_pin {s : Session} {port : UInt16} {filename mode : String} {service : Service}
    (h : Admits (s.pin port) filename mode service) : Admits s filename mode service :=
  ⟨h.plain, h.serving⟩

/-- To find a file changes nothing of the host and of the session, and sends nothing. -/
theorem served_host {service : Service} {filename : String} {scene scene' : Scene} {node : Node}
    {size : Option Nat} (h : Served service filename scene node size scene') :
    ∃ deeds, scene' = { scene with deeds } ∧ World.sent deeds = World.sent scene.deeds := by
  cases h with
  | file => exact ⟨_, rfl, World.sent_append_silent _ rfl⟩
  | resolved =>
    exact ⟨_, rfl, (World.sent_append_silent _ rfl).trans (World.sent_append_silent _ rfl)⟩

/-- A request to read is answered with a grant or with block 1, or it is a setback. -/
theorem serveRead_ends {scene : Scene} (filename mode : String) (requested : Options)
    (source : Endpoint) :
    (serveRead filename mode requested source).Ends scene
      (Turn source scene .idle (.request .read filename mode requested))
      (Setback scene (.request .read filename mode requested)) := by
  refine ends_update (Ends.bind (ends_vet ?_ ?_))
  · intro service hadmits
    refine Ends.bind (openServed_ends fun node size scene₁ hserved => ?_)
    obtain ⟨deeds, rfl, hsilent⟩ := served_host hserved
    change World.sent deeds = World.sent scene.deeds at hsilent
    have hadmits := admits_of_pin hadmits
    change Ends (ite ((Terms.offer requested (service.told size)).options.isEmpty = true) sendFirst
      (send (.optionAck (Terms.offer requested (service.told size)).options) >>= _))
      ⟨{ scene.session.pin source.port with
          stream := .ofNode node
          terms := (Terms.offer requested (service.told size)).terms }, scene.host, deeds⟩ _ _
    split
    · next hgranted =>
      change sendBlock.Ends ⟨{ scene.session.settled source.port
        (Terms.offer requested (service.told size)).terms with stream := .ofNode node },
        scene.host, deeds⟩ _ _
      refine sendBlock_ends ?_ hsilent ?_
      · intro m hread
        exact .unserved hadmits hserved hread
      · intro scene' hgive
        exact .served hadmits hserved hgranted hgive
    · next hgranted =>
      refine Ends.bind (ends_send ?_ ?_)
      · intro hsend
        have hturn := Turn.offered hadmits hserved (Bool.eq_false_iff.2 hgranted) hsend
        exact hturn
      · intro f hsend
        exact ⟨.unsent hsend, .untouched ⟨rfl, rfl⟩,
          (World.sent_append_silent _ rfl).trans hsilent⟩
  · intro v
    exact setback_refused fun _ => Failure.noConfusion

/-- A file is made under the root, or the request is refused as the fault says. -/
theorem createServed_ends {scene : Scene} {service : Service} {filename : String}
    {done : Unit → Scene → Prop} {stopped : Halt → Scene → Prop}
    (hcreate : ∀ stream host,
      Stream.create scene.host (Path.join service.root filename) = .ok (stream, host) →
        done () {
          session := { scene.session with stream }
          host
          deeds := scene.deeds ++ [.touched (Path.join service.root filename)] })
    (hfault : ∀ f, scene.host.store.create (Path.join service.root filename) = .error f →
      stopped (.failure (.io f))
        { scene with deeds := scene.deeds ++ [.touched (Path.join service.root filename)] }) :
    (createServed service filename).Ends scene done stopped := by
  refine ends_record (ends_get ?_)
  dsimp only
  cases h : Stream.create scene.host (Path.join service.root filename) with
  | ok opened => exact hcreate opened.1 opened.2 h
  | error f => exact hfault f (Stream.create_error h)

/-- A server that grants nothing acknowledges block 0 where another one grants. -/
theorem ends_send_reply (offer : Terms.Offer) {scene : Scene} {α : Type} {k : Unit → Act α}
    {done : α → Scene → Prop} {stopped : Halt → Scene → Prop}
    (h : (send offer.reply >>= k).Ends scene done stopped) :
    (if offer.options.isEmpty = true then sendAck 0 >>= k
      else send (.optionAck offer.options) >>= k).Ends scene done stopped := by
  unfold Terms.Offer.reply at h
  split
  · next hempty => rwa [if_pos hempty] at h
  · next hsome => rwa [if_neg hsome] at h

/-- A request to write is answered once its file is made, or it is a setback. -/
theorem serveWrite_ends {scene : Scene} (filename mode : String) (requested : Options)
    (source : Endpoint) (hphase : scene.session.phase = .idle) :
    (serveWrite filename mode requested source).Ends scene
      (Turn source scene .idle (.request .write filename mode requested))
      (Setback scene (.request .write filename mode requested)) := by
  refine ends_update (Ends.bind (ends_vet ?_ ?_))
  · intro service hadmits
    refine Ends.bind (createServed_ends ?_ ?_)
    · intro stream host hcreate
      obtain ⟨rfl, store, hstore, rfl⟩ := Stream.create_host hcreate
      have hadmits := admits_of_pin hadmits
      refine ends_send_reply (Terms.offer requested (service.told requested.announced)) ?_
      refine Ends.bind (ends_send (fun hsend => ?_) (fun f hsend => ?_))
      · exact .created hadmits hcreate hsend
      · exact ⟨.unsent hsend, .created hphase hadmits hstore ⟨rfl, rfl⟩,
          (World.sent_append_silent _ rfl).trans (World.sent_append_silent _ rfl)⟩
    · intro f hfault
      exact ⟨.unopened (.inr (.inr hfault)), .untouched (.refl _),
        World.sent_append_silent _ rfl⟩
  · intro v
    exact setback_refused fun _ => Failure.noConfusion

/-- **What handling a packet comes to.**  It is one of the turns of the phase, or it stops the
session. -/
theorem handle_ends (scene : Scene) (packet : Packet) (source : Endpoint) :
    (handle packet source).Ends scene (Turn source scene scene.session.phase packet)
      (Setback scene packet) := by
  have hunexpected : ∀ phase phase' : Phase,
      (unexpected packet phase').Ends scene (Turn source scene phase packet)
        (Setback scene packet) :=
    fun _ _ => ends_fail (setback_refused fun _ => Failure.noConfusion)
  unfold handle
  refine ends_session ?_
  -- An error packet stops a session in every phase.
  split
  · exact ends_fail (setback_refused fun _ => Failure.noConfusion)
  split
  · next hphase =>
    rw [hphase]
    unfold takeUp
    split
    · exact serveRead_ends _ _ _ source
    · exact serveWrite_ends _ _ _ source hphase
    · exact ends_fail (setback_refused fun _ => Failure.noConfusion)
  · next hphase =>
    rw [hphase]
    split
    · next hrole => exact replyToRead_ends packet source hphase hrole
    · next hrole => exact replyToWrite_ends packet source hphase hrole
    · exact hunexpected _ _
  · next hphase =>
    rw [hphase]
    split
    · next block payload _ =>
      refine receiveData_ends rfl (fun h => .inl ⟨hphase, h⟩) ?_ ?_
      · rintro rfl phase scene' htake
        exact .block htake
      · exact fun hzero hold hfew hsend => .oldBlock hzero hold hfew hsend
    · exact hunexpected _ _
  · next hphase =>
    split
    · exact receiveAck_ends source _ (.inl hphase)
    · exact hunexpected _ _
  · next hphase =>
    split
    · exact receiveAck_ends source _ (.inr hphase)
    · exact hunexpected _ _
  · exact hunexpected _ _
  · exact hunexpected _ _

end Act

end TrivialFtp
