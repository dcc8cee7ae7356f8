import TrivialFtp.Proofs.Delivery
import TrivialFtp.Proofs.Progress

/-!
# Proofs: the course of an orderly transfer

In an orderly network there is never more than one datagram on its way, so that one thing happens
after the other, block by block and however many blocks there are.

- `Setting.only_turn`: the session that a datagram reaches takes the turn that is open for it.
- `Setting.Coming.step`, `Setting.Confirmed.step`: a block is taken, and the next one given.
- `Setting.Coming.settles`: from block 1 on there is one way to go, and everything is written.
-/

namespace TrivialFtp

namespace Exchange

/-- A side has acted. -/
def turn (x : Exchange) : Party → Run × Host × List Deed → Exchange
  | .client => x.clientTurn
  | .server => x.serverTurn

variable (x : Exchange) (party : Party) (result : Run × Host × List Deed)

@[simp] theorem run_turn : (x.turn party result).run party = some result.1 := by
  cases party <;> rfl

@[simp] theorem run_turn_other : (x.turn party result).run party.other = x.run party.other := by
  cases party <;> rfl

@[simp] theorem host_turn : (x.turn party result).host party = result.2.1 := by
  cases party <;> rfl

@[simp] theorem host_turn_other : (x.turn party result).host party.other = x.host party.other := by
  cases party <;> rfl

@[simp] theorem run_turn_of_other : (x.turn party.other result).run party = x.run party := by
  cases party <;> rfl

@[simp] theorem host_turn_of_other : (x.turn party.other result).host party = x.host party := by
  cases party <;> rfl

@[simp] theorem flight_turn :
    (x.turn party result).flight = x.flight ++ (World.sent result.2.2).map (Parcel.mk party) := by
  cases party <;> rfl

@[simp] theorem sent_turn :
    (x.turn party result).sent = x.sent ++ (World.sent result.2.2).map (Parcel.mk party) := by
  cases party <;> rfl

end Exchange

@[simp] theorem Party.other_other (party : Party) : party.other.other = party := by
  cases party <;> rfl

/-! ### Blocks given and taken -/

/-- Nothing keeps a host from sending. -/
def Host.Steady (host : Host) : Prop := ∀ n, host.sendFault n = none

/-- So many bytes were moved, and nothing twice. -/
structure Tally.Clean (t : Tally) (bytes : Nat) : Prop where
  bytes : t.bytes = bytes
  duplicates : t.duplicates = []
  resentBytes : t.resentBytes = 0

/-- Two sessions with the same ends. -/
structure Session.SameEnds (s s' : Session) : Prop where
  port : s'.port = s.port
  remote : s'.remote = s.remote
  tid : s'.tid = s.tid

/-- Sessions with the same ends send a packet to the same place. -/
theorem Session.SameEnds.letter {s s' : Session} (h : s.SameEnds s') (p : Packet) :
    s'.letter p = s.letter p := by
  simp only [Session.letter, Session.peer, h.port, h.remote, h.tid]

/-- What was sent is a letter of the session as well when it has entered a phase. -/
theorem Session.SameEnds.sent_entered {s s' : Session} (h : s.SameEnds s') {deeds : List Deed}
    {p : Packet} (phase : Phase) (hsent : World.sent deeds = [s.letter p]) :
    World.sent deeds = [Session.letter { s' with phase, retries := 0 } p] := by
  rw [hsent]
  exact congrArg (fun letter => [letter]) (h.letter p).symm

/-- A host that never fails sends whatever is short enough. -/
theorem Host.Steady.canSend {scene : Scene} (h : scene.host.Steady) {p : Packet}
    (hshort : p.encode.length ≤ Act.longestPacket) : scene.CanSend p := by
  have hshort : ¬ longestDatagram < (scene.session.letter p).bytes.length :=
    Nat.not_lt_of_le (Nat.le_trans hshort (by decide))
  have hsteady : scene.host.sendFault scene.host.sends = none := h _
  unfold Scene.CanSend Host.transmit
  simp only [hsteady, if_neg hshort]

/-- A session hears a packet, and that is all that has happened. -/
theorem Scene.heard_showing (s : Session) (host : Host) (p : Packet) :
    ∃ deeds, World.sent deeds = [] ∧ (Scene.mk s host []).heard.showing p =
      ⟨{ s with heardAt := host.clock + 1 }, { host with clock := host.clock + 1 }, deeds⟩ := by
  unfold Scene.showing
  split
  · exact ⟨_, rfl, rfl⟩
  · exact ⟨_, rfl, rfl⟩

namespace Run

/-- What becomes of a session that hears a packet, by the turns that are open for it then. -/
theorem step_heard {s : Session} {source : Endpoint} {bytes : Bytes} {packet : Packet}
    (hown : s.isForeign source = false)
    (hread : Packet.decode (bytes.take Act.longestPacket) = .ok packet) (host : Host) :
    ∃ deeds, World.sent deeds = [] ∧ ∀ phase scene,
      Turn source ⟨{ s with heardAt := host.clock + 1 }, { host with clock := host.clock + 1 },
        deeds⟩ s.phase packet phase scene →
      (waiting s).step (.datagram source bytes) host = rest (scene.enter phase) := by
  obtain ⟨deeds, hsilent, hscene⟩ := Scene.heard_showing s host packet
  exact ⟨deeds, hsilent, fun phase scene hturn => step_handled hown hread (hscene ▸ hturn)⟩

/-- A session that is left before its end waits, and its patience is new. -/
theorem rest_waiting {scene : Scene} {phase : Phase} (h : phase.isTerminal = false) :
    rest (scene.enter phase) = (.waiting { scene.session with phase, retries := 0 },
      scene.host.wait scene.session.timing.timeout, scene.deeds) :=
  if_neg (Bool.eq_false_iff.1 h)

/-- A session that is done ends well if its file can be closed. -/
theorem rest_done {scene : Scene} (h : scene.session.stream.closeFault scene.host = none) :
    rest (scene.enter .done) =
      (.ended (.completed (scene.session.tally.finish (scene.host.clock + 1))),
      Host.release { scene.host with clock := scene.host.clock + 1 } scene.session.port,
      scene.flushing.deeds) :=
  finish_none h

end Run

namespace Delivery

variable (d : Delivery)

/-- How many bytes the first blocks hold. -/
def progress (i : Nat) : Nat := (d.content.take (i * d.size)).length

/-- The first blocks.  After number 65535 they are numbered from 0 again. -/
def blocks (i : Nat) : List (UInt16 × Bytes) :=
  (List.range i).map fun j => (.ofNat (j + 1), d.block j)

/-- A sender has given so many blocks, on the terms of the server. -/
structure Given (i : Nat) (s : Session) : Prop where
  left : s.stream.HasLeft d.content (i * d.size)
  sound : s.stream.IsSound
  terms : s.terms = d.offer.terms
  clean : s.tally.Clean (d.progress i)

/-- A sender waits for the acknowledgement of the last block that it gave. -/
structure Gave (i : Nat) (s : Session) : Prop extends d.Given i s where
  next : s.nextBlock = .ofNat i
  final : s.finalSent = decide (i = d.count)

/-- A receiver has taken so many blocks, and is ready for the next. -/
structure Wants (target : Target) (i : Nat) (s : Session) : Prop where
  stream : s.stream = .writing target
  terms : s.terms = d.offer.terms
  next : s.nextBlock = .ofNat (i + 1)
  clean : s.tally.Clean (d.progress i)

/-- The receiver's host holds so many blocks, and will take the others. -/
structure Sink (target : Target) (base : Bytes) (i : Nat) (host : Host) : Prop where
  filled : d.Filled target base (i + 1) host
  closes : (Stream.writing target).closeFault host = none
  steady : host.Steady

variable {d} {target : Target} {base : Bytes} {i : Nat} {scene : Scene}

/-- A block more is its payload more. -/
theorem progress_succ : d.progress (i + 1) = d.progress i + (d.block i).length := by
  rw [progress, ← take_append_blockAt, List.length_append]
  rfl

/-- The blocks up to the next one are those before it and that one. -/
theorem blocks_succ : d.blocks (i + 1) = d.blocks i ++ [(.ofNat (i + 1), d.block i)] := by
  rw [blocks, List.range_succ, List.map_append]
  rfl

/-- The blocks make up the content. -/
theorem progress_count : d.progress d.count = d.content.length := by
  rw [progress, count, take_blockCount size_pos]

/-- The last block is the only short one. -/
theorem length_block_lt_iff (hi : i < d.count) : (d.block i).length < d.size ↔ i + 1 = d.count :=
  length_blockAt_lt_iff size_pos hi

/-- How much has been given is seen by the stream, the terms and the counts. -/
theorem Given.congr {s s' : Session} (h : d.Given i s) (hstream : s'.stream = s.stream)
    (hterms : s'.terms = s.terms) (htally : s'.tally = s.tally) : d.Given i s' :=
  ⟨hstream ▸ h.left, hstream ▸ h.sound, hterms.trans h.terms, htally ▸ h.clean⟩

/-- What is wanted next is seen by these and by the next block. -/
theorem Wants.congr {s s' : Session} (h : d.Wants target i s) (hstream : s'.stream = s.stream)
    (hterms : s'.terms = s.terms) (hnext : s'.nextBlock = s.nextBlock)
    (htally : s'.tally = s.tally) : d.Wants target i s' :=
  ⟨hstream.trans h.stream, hterms.trans h.terms, hnext.trans h.next, htally ▸ h.clean⟩

/-- What a file holds does not depend on the rest of the host. -/
theorem Sink.congr {host host' : Host} (h : d.Sink target base i host)
    (hsame : host.SameFiles host') (hsendFault : host'.sendFault = host.sendFault) :
    d.Sink target base i host' := by
  refine ⟨h.filled.congr hsame, ?_, fun n => hsendFault ▸ h.steady n⟩
  rw [← h.closes]
  unfold Stream.closeFault
  rw [hsame.store]

/-- The next block can be given. -/
theorem Given.give (h : d.Given i scene.session) (hi : i < d.count)
    (hnext : scene.session.nextBlock = .ofNat (i + 1)) (hsteady : scene.host.Steady) :
    ∃ scene', Give scene scene' ∧ d.Gave (i + 1) scene'.session ∧
      scene.session.SameEnds scene'.session ∧ scene'.host.Steady ∧
      World.sent scene'.deeds = World.sent scene.deeds ++
        [scene.session.letter (.data (.ofNat (i + 1)) (d.block i))] := by
  have hsize : scene.session.blockSize = d.size :=
    congrArg (fun terms => terms.blockSize.size) h.terms
  obtain ⟨payload, stream, hread, hsound⟩ := h.sound.read d.size
  obtain ⟨rfl, hleft⟩ := h.left.read hread
  -- What is left of the stream begins with the next block.
  have hread : scene.session.stream.read scene.session.blockSize = (.ok (d.block i), stream) := by
    rw [hsize]
    exact hread
  refine ⟨_, .mk hread (hsteady.canSend (passes_block _ i).short), ?_, ⟨rfl, rfl, rfl⟩,
    hsteady, ?_⟩
  · refine ⟨⟨hleft, hsound, h.terms, ?_, h.clean.duplicates, h.clean.resentBytes⟩, hnext, ?_⟩
    · exact (congrArg (· + _) h.clean.bytes).trans progress_succ.symm
    · refine decide_eq_decide.2 ?_
      rw [hsize]
      exact length_block_lt_iff hi
  · rw [← hnext]
    exact World.sent_append _ _

/-- The next block can be taken. -/
theorem Wants.take (h : d.Wants target i scene.session) (hi : i < d.count)
    (hsink : d.Sink target base i scene.host) :
    ∃ scene', Take scene (d.block i)
        (if i + 1 = d.count then .done else .awaitingData) scene' ∧
      d.Wants target (i + 1) scene'.session ∧ scene.session.SameEnds scene'.session ∧
      d.Sink target base (i + 1) scene'.host ∧
      World.sent scene'.deeds = World.sent scene.deeds ++
        [scene.session.letter (.ack (.ofNat (i + 1)))] := by
  have hsize : scene.session.blockSize = d.size :=
    congrArg (fun terms => terms.blockSize.size) h.terms
  obtain ⟨hnone, -, -⟩ := hsink.filled.roomy.write (d.block i)
  have hwrite : scene.session.stream.write scene.host (d.block i) =
      (none, ((Stream.writing target).write scene.host (d.block i)).2) := by
    rw [h.stream]
    exact Prod.ext hnone rfl
  have hhost := Stream.write_host hwrite
  have htake := Take.mk hwrite (hsink.steady.canSend (Packet.passes_ack _).short)
  rw [hsize, if_congr (length_block_lt_iff hi) rfl rfl] at htake
  refine ⟨_, htake, ?_, ⟨rfl, rfl, rfl⟩, ?_, ?_⟩
  · refine ⟨h.stream, h.terms, ?_, ?_, h.clean.duplicates, h.clean.resentBytes⟩
    · refine (Session.advance_nextBlock scene.session).trans ?_
      rw [h.next, ← UInt16.ofNat_one, ← UInt16.ofNat_add]
    · exact (congrArg (· + _) h.clean.bytes).trans progress_succ.symm
  · refine ⟨(hsink.filled.write hi rfl).congr ⟨rfl, rfl⟩, ?_, ?_⟩
    · exact (Target.closeFault_write _).trans hsink.closes
    · rw [hhost]
      exact hsink.steady
  · rw [← h.next]
    exact World.sent_append _ _

/-- A receiver that has taken a block waits for the next one, or is done. -/
theorem Wants.rest (h : d.Wants target i scene.session) (hsink : d.Sink target base i scene.host) :
    ∃ run host deeds, Run.rest (scene.enter (if i = d.count then .done else .awaitingData)) =
        (run, host, deeds) ∧ World.sent deeds = World.sent scene.deeds ∧
      d.Sink target base i host ∧
      if i = d.count then ∃ tally, run = .ended (.completed tally) ∧ tally.Clean d.content.length
      else run = .waiting { scene.session with phase := .awaitingData, retries := 0 } := by
  by_cases hlast : i = d.count
  · have hcloses : scene.session.stream.closeFault scene.host = none := h.stream ▸ hsink.closes
    simp only [if_pos hlast, Run.rest_done hcloses]
    refine ⟨_, _, _, rfl, scene.sent_flushing, hsink.congr ⟨rfl, rfl⟩ rfl, _, rfl, ?_,
      h.clean.duplicates, h.clean.resentBytes⟩
    rw [← progress_count, ← hlast]
    exact h.clean.bytes
  · simp only [if_neg hlast]
    rw [Run.rest_waiting rfl]
    exact ⟨_, _, _, rfl, rfl, hsink.congr ⟨rfl, rfl⟩ rfl, rfl⟩

end Delivery

/-- The block that a packet carries, and its number. -/
def Packet.block? : Packet → Option (UInt16 × Bytes)
  | .data number payload => some (number, payload)
  | _ => none

/-- An answer to a request is no block. -/
theorem Terms.Offer.block?_reply (offer : Terms.Offer) : offer.reply.block? = none := by
  unfold reply
  split <;> rfl

/-- The block that is read of a datagram. -/
def Parcel.block? (parcel : Parcel) : Option (UInt16 × Bytes) :=
  match Packet.decode parcel.datagram.bytes with
  | .ok p => p.block?
  | .error _ => none

/-- A letter adds the block that it carries to those that were sent. -/
theorem Parcel.blocks_letter {party : Party} {s : Session} {p : Packet} (sent : List Parcel)
    (h : Packet.decode p.encode = .ok p) :
    (sent ++ [mk party (s.letter p)]).filterMap block? =
      sent.filterMap block? ++ p.block?.toList := by
  have hblock : block? (mk party (s.letter p)) = p.block? := by
    unfold Parcel.block? Session.letter
    simp only [h]
  rw [List.filterMap_append, List.filterMap_cons, hblock]
  cases p.block? <;> rfl

/-- There are two sides. -/
theorem Party.eq_or_eq_other (q party : Party) : q = party ∨ q = party.other := by
  cases q <;> cases party <;> decide

namespace Setting

variable {t : Setting} {x y final : Exchange}

/-! ### One thing after the other -/

/-- Nothing can happen but one thing. -/
structure Only (t : Setting) (x y : Exchange) : Prop where
  step : t.Orderly x y
  only : ∀ z, t.Orderly x z → z = y

/-- Whatever happens leads to one end, and on the way there things are as they should be. -/
structure Settles (t : Setting) (P : Exchange → Prop) (x final : Exchange) : Prop where
  leads : ∀ y, t.Orderable x y → t.Orderable y final ∧ P y
  /-- There is no way on which things go on forever. -/
  ends : Acc (fun z y => t.Orderly y z) x
  still : ∀ z, ¬ t.Orderly final z

/-- If one datagram is on its way, nothing but its arrival happens next. -/
theorem only_arrive {parcel : Parcel} (h : x.flight = [parcel]) :
    t.Only x (t.arrive { x with flight := [] } parcel) where
  step := by
    have hflight : x.flight = [] ++ parcel :: [] := h
    exact .deliver hflight fun _ hearlier => nomatch hearlier
  only := by
    rintro z ⟨hflight, -⟩
    rw [h] at hflight
    rcases List.cons_eq_append_iff.1 hflight with ⟨rfl, hflight⟩ | ⟨rest, -, hrest⟩
    · obtain ⟨rfl, rfl⟩ := List.cons.inj hflight
      rfl
    · exact nomatch (List.append_eq_nil_iff.1 hrest.symm).2

variable {P : Exchange → Prop}

/-- An exchange with nothing on its way has settled. -/
theorem Settles.of_still (hflight : x.flight = []) (hP : P x) : t.Settles P x x := by
  have hstill : ∀ z, ¬ t.Orderly x z := by
    rintro z ⟨h, -⟩
    -- Nothing is on its way that could arrive.
    rw [hflight] at h
    exact nomatch (List.append_eq_nil_iff.1 h.symm).2
  refine ⟨fun y hy => ?_, .intro x fun z hz => absurd hz (hstill z), hstill⟩
  rcases Relation.ReflTransGen.cases_head hy with rfl | ⟨z, hz, -⟩
  · exact ⟨.refl, hP⟩
  · exact absurd hz (hstill z)

/-- What settles after the only step settles. -/
theorem Only.settles (h : t.Only x y) (hP : P x) (hsettles : t.Settles P y final) :
    t.Settles P x final := by
  refine ⟨fun z hz => ?_, .intro x fun z hz => h.only z hz ▸ hsettles.ends, hsettles.still⟩
  rcases Relation.ReflTransGen.cases_head hz with rfl | ⟨z', hz', hrest⟩
  · exact ⟨.head h.step (hsettles.leads y .refl).1, hP⟩
  · exact hsettles.leads z (h.only z' hz' ▸ hrest)

/-! ### What reaches whom -/

/-- The address at which a side is seen by the other. -/
def ip (t : Setting) : Party → Ip
  | .client => t.clientIp
  | .server => t.serverIp

/-- Where a datagram comes from. -/
def origin (t : Setting) (party : Party) (s : Session) : Endpoint := ⟨t.ip party, s.port, 0⟩

/-- The session of a side knows its peer. -/
structure Faces (t : Setting) (party : Party) (s peer : Session) : Prop where
  remote : s.remote.ip = t.ip party.other
  tid : s.tid = some peer.port
  /-- A server's session has a port of its own. -/
  own : party = .server → s.port ≠ t.client.port

variable {party : Party} {s peer : Session}

/-- Two sessions that face each other are no strangers. -/
theorem Faces.isForeign (h : t.Faces party s peer) :
    s.isForeign (t.origin party.other peer) = false := by
  simp [Session.isForeign, origin, h.remote, h.tid]

/-- Who faces whom is a matter of the ports and addresses. -/
theorem Faces.congr {s' peer' : Session} (h : t.Faces party s peer) (hremote : s'.remote = s.remote)
    (htid : s'.tid = s.tid) (hport : s'.port = s.port) (hpeer : peer'.port = peer.port) :
    t.Faces party s' peer' :=
  ⟨hremote ▸ h.remote, htid.trans (hpeer ▸ h.tid), hport ▸ h.own⟩

/-- A letter reaches the session that it is meant for. -/
theorem arrive_letter {p : Packet} (hrun : x.run party = some (.waiting s))
    (hown : party = .server → s.port ≠ t.client.port) (hpeer : peer.tid = some s.port) :
    t.arrive x ⟨party.other, peer.letter p⟩ =
      x.turn party ((Run.waiting s).step (.datagram (t.origin party.other peer) p.encode)
        (x.host party)) := by
  have hport : (peer.letter p).target.port = s.port := by
    change peer.tid.getD peer.remote.port = s.port
    rw [hpeer]
    rfl
  cases party with
  | client =>
    have hclient : x.client = .waiting s := Option.some.inj hrun
    change x.clientTurn (x.client.receive (peer.letter p).target.port _ x.clientHost) = _
    rw [hclient, hport]
    exact congrArg x.clientTurn (if_pos rfl)
  | server =>
    -- The session's port is not the one where the server listens.
    have hserver : x.server = some (.waiting s) := hrun
    unfold arrive
    simp only [Party.other, hport, if_neg (hown rfl), hserver]
    exact congrArg x.serverTurn (if_pos rfl)

/-- **One step of an orderly transfer.**  The only letter on its way is dealt with by a turn that is
open for it. -/
theorem only_turn {p : Packet} {phase : Phase} {scene : Scene}
    (hflight : x.flight = [⟨party.other, peer.letter p⟩])
    (hrun : x.run party = some (.waiting s)) (hown : party = .server → s.port ≠ t.client.port)
    (hpeer : peer.tid = some s.port) (hforeign : s.isForeign (t.origin party.other peer) = false)
    (hpasses : p.Passes)
    (hturn : Turn (t.origin party.other peer) ((Scene.mk s (x.host party) []).heard.showing p)
      s.phase p phase scene) :
    t.Only x ({ x with flight := [] }.turn party (Run.rest (scene.enter phase))) := by
  have honly := t.only_arrive hflight
  have hstep : (Run.waiting s).step (.datagram (t.origin party.other peer) p.encode)
      (x.host party) = Run.rest (scene.enter phase) :=
    Run.step_handled hforeign hpasses.decode_take hturn
  rw [arrive_letter (x := { x with flight := [] }) hrun hown hpeer] at honly
  exact hstep ▸ honly

/-- A receiver is ready for the next block: it has been waiting for it, or it has asked a server
that grants nothing and will be waiting for block 1 when it hears from it. -/
inductive Ready (t : Setting) (party : Party) (peer : Session) : Session → Session → Prop where
  | waiting {s : Session} (hphase : s.phase = .awaitingData) (hfaces : t.Faces party s peer) :
    Ready t party peer s s
  | asking {s : Session} (hparty : party = .client) (hphase : s.phase = .requested)
      (hrole : s.role = .download) (hremote : s.remote.ip = t.ip party.other)
      (htid : s.tid = none) :
    Ready t party peer s (s.settled peer.port {})

variable {s' : Session}

/-- A receiver that is ready faces the sender. -/
theorem Ready.faces (h : t.Ready party peer s s') : t.Faces party s' peer := by
  cases h with
  | waiting _ hfaces => exact hfaces
  | asking hparty _ _ hremote htid =>
    refine ⟨hremote, ?_, fun hserver => nomatch hparty.symm.trans hserver⟩
    exact congrArg (fun tid => some (tid.getD peer.port)) htid

theorem Ready.port (h : t.Ready party peer s s') : s'.port = s.port := by
  cases h <;> rfl

/-- A server answers from a port other than the one where it listens. -/
theorem Ready.own (h : t.Ready party peer s s') : party = .server → s.port ≠ t.client.port :=
  h.port ▸ h.faces.own

/-- A receiver that is ready does not take the sender for a stranger. -/
theorem Ready.isForeign (h : t.Ready party peer s s') :
    s.isForeign (t.origin party.other peer) = false := by
  cases h with
  | waiting _ hfaces => exact hfaces.isForeign
  | asking _ _ _ hremote htid => simp [Session.isForeign, origin, hremote, htid]

/-- A block that was taken is a turn of the phase that the receiver was in. -/
theorem Ready.turn (h : t.Ready party peer s s') {time : Nat} {host : Host} {deeds : List Deed}
    {payload : Bytes} {phase : Phase} {scene : Scene}
    (htake : Take ⟨{ s' with heardAt := time }, host, deeds⟩ payload phase scene) :
    Turn (t.origin party.other peer) ⟨{ s with heardAt := time }, host, deeds⟩ s.phase
      (.data s'.nextBlock payload) phase scene := by
  cases h with
  | waiting hphase => exact .of_phase hphase (.block htake)
  | asking _ hphase hrole => exact .of_phase hphase (.firstBlock hrole htake)

/-! ### Block by block -/

section Blocks

variable (t : Setting) (d : Delivery) (target : Target) (base : Bytes) (party : Party)

/-- All who wait keep the terms of the server, but for a client that has just asked. -/
def Agreed (x : Exchange) : Prop :=
  ∀ q s, x.run q = some (.waiting s) → s.phase = .requested ∨ s.terms = d.offer.terms

/-- A block is on its way to the receiver `r`, who will take it as `r'`. -/
structure Coming (i : Nat) (x : Exchange) (r r' s : Session) : Prop where
  receiver : x.run party = some (.waiting r)
  ready : t.Ready party s r r'
  wants : d.Wants target i r'
  sink : d.Sink target base i (x.host party)
  sender : x.run party.other = some (.waiting s)
  phase : s.phase = .awaitingAck
  faces : t.Faces party.other s r
  gave : d.Gave (i + 1) s
  steady : (x.host party.other).Steady
  flight : x.flight = [⟨party.other, s.letter (.data (.ofNat (i + 1)) (d.block i))⟩]
  sent : x.sent.filterMap Parcel.block? = d.blocks (i + 1)
  lt : i < d.count

/-- The acknowledgement of a block is on its way from the receiver `r`, who waits for the next one
or is done. -/
structure Confirmed (i : Nat) (x : Exchange) (r s : Session) : Prop where
  receiver : if i = d.count then
      ∃ tally, x.run party = some (.ended (.completed tally)) ∧ tally.Clean d.content.length
    else x.run party = some (.waiting r) ∧ r.phase = .awaitingData
  wants : d.Wants target i r
  facing : t.Faces party r s
  sink : d.Sink target base i (x.host party)
  sender : x.run party.other = some (.waiting s)
  phase : s.phase = .awaitingAck ∨ s.phase = .offering
  faces : t.Faces party.other s r
  gave : d.Gave i s
  steady : (x.host party.other).Steady
  flight : x.flight = [⟨party, r.letter (.ack (.ofNat i))⟩]
  sent : x.sent.filterMap Parcel.block? = d.blocks i
  le : i ≤ d.count

/-- Both sides have come through, and everything is written. -/
structure Finished (x : Exchange) : Prop where
  runs : ∀ q, ∃ tally, x.run q = some (.ended (.completed tally)) ∧ tally.Clean d.content.length
  held : target.held (x.host party) = base ++ d.content
  flight : x.flight = []
  sent : x.sent.filterMap Parcel.block? = d.blocks d.count

end Blocks

variable {d : Delivery} {target : Target} {base : Bytes} {i : Nat} {r r' : Session}

/-- The receiver takes the block. -/
theorem Coming.step (h : t.Coming d target base party i x r r' s) :
    ∃ y r, t.Only x y ∧ t.Confirmed d target base party (i + 1) y r s := by
  obtain ⟨deeds, hsilent, hscene⟩ := Scene.heard_showing r (x.host party)
    (.data (.ofNat (i + 1)) (d.block i))
  obtain ⟨scene, htake, hwants, hends, hsink, hsent⟩ := @Delivery.Wants.take d target base i
    ⟨{ r' with heardAt := (x.host party).clock + 1 },
      { x.host party with clock := (x.host party).clock + 1 }, deeds⟩
    (h.wants.congr rfl rfl rfl rfl) h.lt (h.sink.congr ⟨rfl, rfl⟩ rfl)
  -- Whether it was waiting or had only asked, the receiver takes the block in the same way.
  have hturn := h.ready.turn htake
  rw [h.wants.next, ← hscene] at hturn
  have honly := only_turn h.flight h.receiver h.ready.own h.faces.tid h.ready.isForeign
    (Delivery.passes_block _ i) hturn
  obtain ⟨run, host, deeds', hrest, hsame, hsink', hrun⟩ := hwants.rest hsink
  rw [hrest] at honly
  have hport : r.port = r'.port := h.ready.port.symm
  rw [hsilent, List.nil_append, ← hsame] at hsent
  have hletter := hends.sent_entered .awaitingData hsent
  refine ⟨_, { scene.session with phase := .awaitingData, retries := 0 }, honly, {
    receiver := ?_
    wants := hwants.congr rfl rfl rfl rfl
    facing := h.ready.faces.congr hends.remote hends.tid hends.port rfl
    sink := ?_
    sender := ?_
    phase := .inl h.phase
    faces := h.faces.congr rfl rfl rfl (hends.port.trans hport.symm)
    gave := h.gave
    steady := ?_
    flight := ?_
    sent := ?_
    le := h.lt }⟩
  · rw [Exchange.run_turn]
    split
    · next hlast =>
      rw [if_pos hlast] at hrun
      obtain ⟨tally, rfl, hclean⟩ := hrun
      exact ⟨tally, rfl, hclean⟩
    · next hlast =>
      rw [if_neg hlast] at hrun
      exact ⟨congrArg some hrun, rfl⟩
  · rw [Exchange.host_turn]
    exact hsink'
  · rw [Exchange.run_turn_other]
    exact h.sender
  · rw [Exchange.host_turn_other]
    exact h.steady
  · rw [Exchange.flight_turn, hletter]
    rfl
  · rw [Exchange.sent_turn, hletter, List.map_singleton,
      Parcel.blocks_letter _ (Packet.passes_ack _).reads]
    change x.sent.filterMap _ ++ [] = _
    rw [List.append_nil]
    exact h.sent

/-- The sender gives the next block. -/
theorem Confirmed.step (h : t.Confirmed d target base party i x r s) (hlt : i < d.count) :
    ∃ y s, t.Only x y ∧ t.Coming d target base party i y r r s := by
  obtain ⟨deeds, hsilent, hscene⟩ := Scene.heard_showing s (x.host party.other) (.ack (.ofNat i))
  obtain ⟨scene, hgive, hgave, hends, hsteady, hsent⟩ := @Delivery.Given.give d i
    ⟨Session.advance { s with heardAt := (x.host party.other).clock + 1 },
      { x.host party.other with clock := (x.host party.other).clock + 1 }, deeds⟩
    (h.gave.toGiven.congr rfl rfl rfl) hlt
    (by rw [Session.advance_nextBlock, h.gave.next, ← UInt16.ofNat_one, ← UInt16.ofNat_add])
    h.steady
  have hfinal : s.finalSent = false := h.gave.final.trans (decide_eq_false (Nat.ne_of_lt hlt))
  have hturn : Turn (t.origin party.other.other r)
      ((Scene.mk s (x.host party.other) []).heard.showing (.ack (.ofNat i)))
      s.phase (.ack (.ofNat i)) .awaitingAck scene := by
    rw [hscene, ← h.gave.next]
    exact .ack h.phase hfinal hgive
  have honly := only_turn (by rw [Party.other_other]; exact h.flight) h.sender h.faces.own
    h.facing.tid h.faces.isForeign (Packet.passes_ack _) hturn
  rw [Run.rest_waiting rfl] at honly
  rw [hsilent, List.nil_append] at hsent
  have hletter := hends.sent_entered .awaitingAck hsent
  -- As there is a block left, the receiver is not done.
  obtain ⟨hreceiver, hwaits⟩ := (if_neg (Nat.ne_of_lt hlt)).mp h.receiver
  refine ⟨_, { scene.session with phase := .awaitingAck, retries := 0 }, honly, {
    receiver := ?_
    ready := .waiting hwaits (h.facing.congr rfl rfl rfl hends.port)
    wants := h.wants
    sink := ?_
    sender := ?_
    phase := rfl
    faces := h.faces.congr hends.remote hends.tid hends.port rfl
    gave := ⟨hgave.toGiven.congr rfl rfl rfl, hgave.next, hgave.final⟩
    steady := ?_
    flight := ?_
    sent := ?_
    lt := hlt }⟩
  · rw [Exchange.run_turn_of_other]
    exact hreceiver
  · rw [Exchange.host_turn_of_other]
    exact h.sink
  · rw [Exchange.run_turn]
  · rw [Exchange.host_turn]
    exact hsteady
  · rw [Exchange.flight_turn, hletter]
    rfl
  · rw [Exchange.sent_turn, hletter, List.map_singleton,
      Parcel.blocks_letter _ (Delivery.passes_block _ i).reads, Delivery.blocks_succ, ← h.sent]
    rfl

/-- The sender is told that everything is written. -/
theorem Confirmed.last (h : t.Confirmed d target base party d.count x r s) :
    ∃ y, t.Only x y ∧ Finished d target base party y := by
  obtain ⟨deeds, hsilent, hscene⟩ := Scene.heard_showing s (x.host party.other)
    (.ack (.ofNat d.count))
  have hturn : Turn (t.origin party.other.other r)
      ((Scene.mk s (x.host party.other) []).heard.showing (.ack (.ofNat d.count)))
      s.phase (.ack (.ofNat d.count)) .done
      ((Scene.mk s (x.host party.other) []).heard.showing (.ack (.ofNat d.count))) := by
    rw [hscene, ← h.gave.next]
    exact .lastAck h.phase (h.gave.final.trans (decide_eq_true rfl))
  have honly := only_turn (by rw [Party.other_other]; exact h.flight) h.sender h.faces.own
    h.facing.tid h.faces.isForeign (Packet.passes_ack _) hturn
  rw [hscene, Run.rest_done (h.gave.left.closeFault _)] at honly
  refine ⟨_, honly, ?_, ?_, ?_, ?_⟩
  · intro q
    rcases q.eq_or_eq_other party with rfl | rfl
    · rw [Exchange.run_turn_of_other]
      exact (if_pos rfl).mp h.receiver
    · rw [Exchange.run_turn]
      refine ⟨_, rfl, ?_, h.gave.clean.duplicates, h.gave.clean.resentBytes⟩
      exact h.gave.clean.bytes.trans Delivery.progress_count
  · rw [Exchange.host_turn_of_other]
    exact h.sink.filled.whole
  · rw [Exchange.flight_turn, Scene.sent_flushing]
    exact congrArg (List.map _) hsilent
  · rw [Exchange.sent_turn, Scene.sent_flushing]
    change (x.sent ++ (World.sent deeds).map _).filterMap _ = _
    rw [hsilent, List.map_nil, List.append_nil, h.sent]

/-- Both sides have agreed if each of them that still waits has, or has yet to hear of the other. -/
theorem agreed_of (party : Party) (hreceiver : ∀ s, x.run party = some (.waiting s) →
      s.phase = .requested ∨ s.terms = d.offer.terms)
    (hsender : ∀ s, x.run party.other = some (.waiting s) →
      s.phase = .requested ∨ s.terms = d.offer.terms) : Agreed d x := by
  intro q s hs
  rcases q.eq_or_eq_other party with rfl | rfl
  · exact hreceiver s hs
  · exact hsender s hs

/-- While a block is coming both sides have agreed. -/
theorem Coming.agreed (h : t.Coming d target base party i x r r' s) : Agreed d x := by
  refine agreed_of party ?_ ?_
  · intro s' hs
    obtain rfl := Run.waiting.inj (Option.some.inj (h.receiver.symm.trans hs))
    have hterms := h.wants.terms
    cases h.ready with
    | waiting => exact .inr hterms
    | asking _ hphase => exact .inl hphase
  · intro s' hs
    obtain rfl := Run.waiting.inj (Option.some.inj (h.sender.symm.trans hs))
    exact .inr h.gave.terms

/-- While an acknowledgement is coming they have too. -/
theorem Confirmed.agreed (h : t.Confirmed d target base party i x r s) : Agreed d x := by
  refine agreed_of party ?_ ?_
  · intro s' hs
    have hreceiver := h.receiver
    split at hreceiver
    · obtain ⟨tally, hended, -⟩ := hreceiver
      exact nomatch hended.symm.trans hs
    · obtain rfl := Run.waiting.inj (Option.some.inj (hreceiver.1.symm.trans hs))
      exact .inr h.wants.terms
  · intro s' hs
    obtain rfl := Run.waiting.inj (Option.some.inj (h.sender.symm.trans hs))
    exact .inr h.gave.terms

/-- They have when nothing waits any more. -/
theorem Finished.agreed (h : Finished d target base party x) : Agreed d x := by
  intro q s hs
  obtain ⟨tally, hended, -⟩ := h.runs q
  exact nomatch hended.symm.trans hs

/-- **However many blocks are left**, they are given and taken one after the other. -/
theorem Confirmed.settles : ∀ (left : Nat) {i : Nat} {x : Exchange} {r s : Session},
    i + left = d.count → t.Confirmed d target base party i x r s →
      ∃ final, t.Settles (Agreed d) x final ∧ Finished d target base party final
  | 0, i, x, r, s, hleft, h => by
    obtain rfl : i = d.count := hleft
    obtain ⟨final, honly, hfinished⟩ := h.last
    exact ⟨final, honly.settles h.agreed (.of_still hfinished.flight hfinished.agreed), hfinished⟩
  | left + 1, i, x, r, s, hleft, h => by
    -- One block takes two arrivals: its own, and that of its acknowledgement.
    obtain ⟨y, s', honly, hcoming⟩ := h.step (by omega)
    obtain ⟨z, r', honly', hconfirmed⟩ := hcoming.step
    obtain ⟨final, hsettles, hfinished⟩ := Confirmed.settles left (by omega) hconfirmed
    exact ⟨final, honly.settles h.agreed (honly'.settles hcoming.agreed hsettles), hfinished⟩

/-- **Block by block a transfer comes to its end.**  The induction is on the blocks that are left,
and each of them takes two steps. -/
theorem Coming.settles (h : t.Coming d target base party i x r r' s) :
    ∃ final, t.Settles (Agreed d) x final ∧ Finished d target base party final := by
  obtain ⟨y, r'', honly, hconfirmed⟩ := h.step
  obtain ⟨final, hsettles, hfinished⟩ := Confirmed.settles (d.count - (i + 1))
    (Nat.add_sub_cancel' h.lt) hconfirmed
  exact ⟨final, honly.settles h.agreed hsettles, hfinished⟩

end Setting

end TrivialFtp
