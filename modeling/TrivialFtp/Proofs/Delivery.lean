import TrivialFtp.Proofs.Conduct

/-!
# Proofs: delivering a content

The conducts of the two sides while a content is delivered block by block.  A transfer is at stage 0
until the receiver is ready for block 1, and at stage `n + 1` when it has written `n` blocks.

- `Delivery.Speech.tells`: what is read of a datagram is what was said.
- `Delivery.receiver_isKept`: a receiver writes one block after the other.
- `Delivery.sender_isKept`: a sender sends what follows the last block written.
-/

namespace TrivialFtp

theorem Session.toNat_advance {s : Session} (h : s.nextBlock.toNat < 65535) :
    s.advance.nextBlock.toNat = s.nextBlock.toNat + 1 := by
  rw [Session.advance_nextBlock, UInt16.toNat_add]
  exact Nat.mod_eq_of_lt (Nat.succ_lt_succ h)

namespace Packet

/-- A session reads a packet as it was sent. -/
structure Passes (p : Packet) : Prop where
  short : p.encode.length ≤ Act.longestPacket
  reads : decode p.encode = .ok p

theorem Passes.decode_take {p : Packet} (h : p.Passes) :
    decode (p.encode.take Act.longestPacket) = .ok p := by
  rw [List.take_of_length_le h.short, h.reads]

theorem passes_ack (block : UInt16) : (ack block).Passes where
  short := show 4 ≤ Act.longestPacket by decide
  reads := decode_encode_ack block

theorem passes_data (number : UInt16) {payload : Bytes} (h : payload.length ≤ BlockSize.most) :
    (data number payload).Passes where
  short := by
    rw [encode, List.length_append, List.length_append]
    exact Nat.le_trans (Nat.le_of_eq (Nat.add_left_comm 2 2 _))
      (by unfold Act.longestPacket; omega)
  reads := decode_encode_data number payload

end Packet

theorem Terms.passes_offer {requested : Options} {sizeReply : Option Nat}
    (hsize : ∀ n, sizeReply = some n → n < Numeral.word64) :
    (Packet.optionAck (offer requested sizeReply).options).Passes where
  short := Nat.le_trans (length_offer_le hsize) (by decide)
  reads := Packet.decode_encode offer_clean fun _ hmode => nomatch hmode

/-- A content to be delivered, and the terms of it: what the server was asked for, and the size that
it tells. -/
structure Delivery where
  /-- The request of the client. -/
  request : Packet
  asked : Options
  told : Option Nat
  content : Bytes
  told_lt : ∀ n, told = some n → n < Numeral.word64

namespace Delivery

variable (d : Delivery)

/-- What the server offers. -/
def offer : Terms.Offer := Terms.offer d.asked d.told

/-- The size of a full block. -/
def size : Nat := d.offer.terms.blockSize.size

/-- The number of blocks. -/
def count : Nat := blockCount d.content d.size

/-- A block, counted from 0. -/
def block (i : Nat) : Bytes := blockAt d.content d.size i

/-- The stage at which every block is written. -/
def last : Nat := d.count + 1

/-- What a side may say at a stage. -/
inductive Speech (stage : Nat) : Party → Packet → Prop where
  | asks {direction : Direction} {filename mode : String} {options : Options}
      (hrequest : d.request = .request direction filename mode options) :
    Speech stage .client (.request direction filename mode options)
  | reports {party : Party} {code : UInt16} {message : String} :
    Speech stage party (.error code message)
  | offers (hoffered : d.offer.options.isEmpty = false) :
    Speech stage .server (.optionAck d.offer.options)
  /-- A server that has granted options sends no block before the client has taken note. -/
  | gives {party : Party} {number : UInt16} {i : Nat} (hnumber : number.toNat = i + 1)
      (hi : i < d.count)
      (hready : party = .server → d.offer.options.isEmpty = false → 1 ≤ stage) :
    Speech stage party (.data number (d.block i))
  /-- A server that has granted options does not acknowledge block 0. -/
  | takes {party : Party} {number : UInt16} (hwritten : number.toNat + 1 ≤ stage)
      (hstage : stage ≤ d.last)
      (hzero : party = .server → number = 0 → d.offer.options.isEmpty = true) :
    Speech stage party (.ack number)

/-- What a side may be heard to say.  Of a long request a part is read. -/
inductive Heard (stage : Nat) (party : Party) : Packet → Prop where
  | said {packet : Packet} (hspeech : d.Speech stage party packet) : Heard stage party packet
  | asked {direction : Direction} {filename mode : String} {options : Options} :
    Heard stage party (.request direction filename mode options)

/-- A transfer can come from a stage to another. -/
structure Advances (stage stage' : Nat) : Prop where
  le : stage ≤ stage'
  le_last : stage ≤ d.last → stage' ≤ d.last

variable {d} {stage stage' : Nat} {party : Party} {packet : Packet}

theorem Advances.refl (stage : Nat) : d.Advances stage stage := ⟨Nat.le_refl stage, id⟩

theorem Advances.last (h : d.Advances stage stage') (hlast : stage = d.last) : stage' = d.last :=
  Nat.le_antisymm (h.le_last (Nat.le_of_eq hlast)) (hlast ▸ h.le)

theorem Speech.mono (h : d.Speech stage party packet) (hadvances : d.Advances stage stage') :
    d.Speech stage' party packet := by
  cases h with
  | asks hrequest => exact .asks hrequest
  | reports => exact .reports
  | offers hoffered => exact .offers hoffered
  | gives hnumber hi hready =>
    exact .gives hnumber hi fun hserver hoffered =>
      Nat.le_trans (hready hserver hoffered) hadvances.le
  | takes hwritten hstage hzero =>
    exact .takes (Nat.le_trans hwritten hadvances.le) (hadvances.le_last hstage) hzero

theorem size_pos : 0 < d.size := Nat.lt_of_lt_of_le (by decide) d.offer.terms.blockSize.least_le

theorem count_pos : 0 < d.count := Nat.succ_pos _

theorem one_le_last : 1 ≤ d.last := Nat.succ_pos _

/-! ### What is heard -/

theorem passes_offer : (Packet.optionAck d.offer.options).Passes := Terms.passes_offer d.told_lt

theorem passes_reply : d.offer.reply.Passes := by
  unfold Terms.Offer.reply
  split
  · exact Packet.passes_ack 0
  · exact passes_offer

theorem passes_block (number : UInt16) (i : Nat) : (Packet.data number (d.block i)).Passes :=
  Packet.passes_data number (Nat.le_trans length_blockAt_le d.offer.terms.blockSize.le_most)

/-- **What is said is heard.**  A packet is read as it was said, or as a part of the request. -/
theorem Speech.tells (h : d.Speech stage party packet) :
    Conduct.Tells (d.Heard stage party) packet.encode := by
  intro heard hread
  have hopcode := Packet.opcode_decode_take (by decide) hread
  have hwhole : packet.Passes → d.Heard stage party heard := by
    intro hpasses
    rw [hpasses.decode_take] at hread
    exact Except.ok.inj hread ▸ .said h
  cases h with
  | @asks direction filename mode options hrequest =>
    cases heard with
    | request => exact .asked
    | _ => cases direction <;> exact nomatch hopcode
  | reports =>
    cases heard with
    | error code message => exact .said .reports
    | request direction => cases direction <;> exact nomatch hopcode
    | _ => exact nomatch hopcode
  | offers => exact hwhole passes_offer
  | gives => exact hwhole (passes_block _ _)
  | takes => exact hwhole (Packet.passes_ack _)

/-! ### The receiver -/

variable (d)

/-- A client has sent its request. -/
structure Asking (party : Party) (role : Role) (s : Session) : Prop where
  client : party = .client
  phase : s.phase = .requested
  role : s.role = role

/-- A receiver waits for a block; those before it are written. -/
structure Receiving (target : Target) (stage : Nat) (s : Session) : Prop where
  phase : s.phase = .awaitingData
  stream : s.stream = .writing target
  size : s.blockSize = d.size
  next : s.nextBlock.toNat = stage
  begun : 1 ≤ stage
  left : stage ≤ d.count

/-- What a receiver's file holds at a stage, after what it held before. -/
structure Filled (target : Target) (base : Bytes) (stage : Nat) (host : Host) : Prop where
  roomy : target.Roomy host
  held : target.held host = base ++ d.content.take ((stage - 1) * d.size)
  le_last : stage ≤ d.last

/-- A session may say again what it said last. -/
def Repeats (party : Party) (stage : Nat) (s : Session) : Prop :=
  ∀ p, s.lastSent = some p → d.Speech stage party p

/-- How a receiver behaves.  A server's file is made when the session opens. -/
def receiver (party : Party) (target : Target) (base : Bytes) (start : Host) : Conduct where
  stands stage s :=
    ((Asking party .download s ∧ stage = 0 ∧ s.stream = .writing target) ∨
      d.Receiving target stage s) ∧ d.Repeats party stage s
  files stage host :=
    d.Filled target base stage host ∨ (party = .server ∧ stage = 0 ∧ start.SameFiles host)
  sends stage bytes := ∃ p, d.Speech stage party p ∧ bytes = p.encode
  hears stage := d.Heard stage party.other
  moves := d.Advances
  last := d.last

variable {d} {target : Target} {base : Bytes} {start : Host} {i : Nat} {scene scene' : Scene}

theorem Filled.congr {host host' : Host} (h : d.Filled target base stage host)
    (hsame : host.SameFiles host') : d.Filled target base stage host' :=
  ⟨h.roomy.congr hsame, (Target.held_congr hsame).trans h.held, h.le_last⟩

/-- Nothing is written before block 1. -/
theorem Filled.begin {host : Host} (hroomy : target.Roomy host) (hheld : target.held host = base)
    (hstage : stage ≤ 1) : d.Filled target base stage host := by
  refine ⟨hroomy, ?_, Nat.le_trans hstage one_le_last⟩
  rw [hheld, Nat.sub_eq_zero_of_le hstage, Nat.zero_mul, List.take_zero, List.append_nil]

/-- Nothing is written when the receiver becomes ready for block 1. -/
theorem Filled.ready {host : Host} (h : d.Filled target base 0 host) :
    d.Filled target base 1 host :=
  ⟨h.roomy, h.held, one_le_last⟩

/-- At the last stage everything is written. -/
theorem Filled.whole {host : Host} (h : d.Filled target base d.last host) :
    target.held host = base ++ d.content := by
  rw [h.held, last, Nat.add_sub_cancel, count, take_blockCount size_pos]

/-- The next block is put at the end. -/
theorem Filled.write {host host' : Host} {fault : Option Fault}
    (h : d.Filled target base (i + 1) host) (hi : i < d.count)
    (hwrite : (Stream.writing target).write host (d.block i) = (fault, host')) :
    d.Filled target base (i + 2) host' := by
  obtain ⟨-, hheld, hroomy⟩ := h.roomy.write (d.block i)
  rw [hwrite] at hheld hroomy
  refine ⟨hroomy, hheld.trans ?_, Nat.succ_le_succ hi⟩
  rw [h.held, List.append_assoc]
  exact congrArg (base ++ ·) take_append_blockAt

theorem Receiving.alike {s s' : Session} (h : d.Receiving target stage s) (halike : s.Alike s') :
    d.Receiving target stage s' := by
  rw [halike]
  exact ⟨h.phase, h.stream, h.size, h.next, h.begun, h.left⟩

/-- What a session is asking for does not depend on its counts. -/
theorem Asking.alike {role : Role} {s s' : Session} (h : Asking party role s)
    (halike : s.Alike s') : Asking party role s' := by
  rw [halike]
  exact ⟨h.client, h.phase, h.role⟩

theorem Repeats.alike {s s' : Session} (h : d.Repeats party stage s) (halike : s.Alike s') :
    d.Repeats party stage s' := by
  intro p hp
  rw [halike] at hp
  exact h p hp

theorem Repeats.mono {s : Session} (h : d.Repeats party stage s)
    (hadvances : d.Advances stage stage') : d.Repeats party stage' s :=
  fun p hp => (h p hp).mono hadvances

theorem receiver_files_same {host host' : Host}
    (h : (d.receiver party target base start).files stage host) (hsame : host.SameFiles host') :
    (d.receiver party target base start).files stage host' :=
  h.imp (·.congr hsame) fun ⟨hserver, hstage, hstart⟩ => ⟨hserver, hstage, hstart.trans hsame⟩

/-- A client's file is made before it asks. -/
theorem Asking.filled {role : Role} {s : Session} {host : Host} (h : Asking party role s)
    (hfiles : (d.receiver party target base start).files stage host) :
    d.Filled target base stage host :=
  hfiles.resolve_right fun ⟨hserver, _⟩ => nomatch h.client.symm.trans hserver

/-- The file of a receiver that waits for a block is made. -/
theorem Receiving.filled {s : Session} {host : Host} (h : d.Receiving target stage s)
    (hfiles : (d.receiver party target base start).files stage host) :
    d.Filled target base stage host :=
  hfiles.resolve_right fun ⟨_, hstage, _⟩ => absurd h.begun (hstage ▸ by decide)

/-- A session that has sent one packet has said only that. -/
theorem said_post {p : Packet} {session : Session} (hsent : World.sent scene.deeds = [])
    (hspeech : d.Speech stage party p) :
    ∀ letter ∈ World.sent (scene.post p session).deeds,
      ∃ q, d.Speech stage party q ∧ letter.bytes = q.encode := by
  intro letter hletter
  exact ⟨p, hspeech, congrArg Datagram.bytes (World.eq_of_mem_sent hsent hletter)⟩

theorem said_nothing (hsent : World.sent scene.deeds = []) :
    ∀ letter ∈ World.sent scene.deeds, ∃ q, d.Speech stage party q ∧ letter.bytes = q.encode := by
  rw [hsent]
  exact fun letter hletter => nomatch hletter

/-- A receiver that has written a block acknowledges it and is ready for the next, or done. -/
theorem good_of_take (hfew : d.count ≤ 65535) {phase : Phase}
    (htake : Take scene (d.block i) phase scene')
    (hstream : scene.session.stream = .writing target) (hsize : scene.session.blockSize = d.size)
    (hnext : scene.session.nextBlock.toNat = i + 1) (hi : i < d.count)
    (hfilled : d.Filled target base (i + 1) scene.host) (hsent : World.sent scene.deeds = []) :
    (d.receiver party target base start).Good (i + 2) (scene'.enter phase) := by
  have hspeech : d.Speech (i + 2) party (.ack scene.session.nextBlock) := by
    refine .takes (Nat.le_of_eq (congrArg (· + 1) hnext)) (Nat.succ_le_succ hi) fun _ hzero => ?_
    rw [hzero] at hnext
    exact nomatch hnext
  have hlast : (d.block i).length < scene.session.blockSize ↔ i + 1 = d.count := by
    rw [hsize]
    exact length_blockAt_lt_iff size_pos hi
  cases htake with
  | @mk host hwrite hsend =>
    rw [hstream] at hwrite
    refine ⟨.inl ((hfilled.write hi hwrite).congr ⟨rfl, rfl⟩), said_post hsent hspeech, ?_, ?_⟩
    · intro hwaits
      have hmore : ¬ (d.block i).length < scene.session.blockSize := by
        intro hshort
        change (ite _ Phase.done _ : Phase).isTerminal = false at hwaits
        rw [if_pos hshort] at hwaits
        exact nomatch hwaits
      have hleft : i + 2 ≤ d.count := by
        rw [hlast] at hmore
        omega
      refine ⟨.inr ⟨if_neg hmore, hstream, hsize, ?_, Nat.succ_pos _, hleft⟩, ?_⟩
      · refine (Session.toNat_advance (hnext ▸ ?_)).trans (congrArg (· + 1) hnext)
        exact Nat.lt_of_lt_of_le hleft hfew
      · intro p hp
        exact Option.some.inj hp ▸ hspeech
    · intro hends
      change (ite _ Phase.done _ : Phase).isTerminal = true at hends
      split at hends
      · next hshort => exact congrArg (· + 1) (hlast.1 hshort)
      · exact nomatch hends

/-- The client has heard of the server, and is ready for block 1. -/
theorem good_of_granted {source : Endpoint} {granted : Options} {terms : Terms}
    (hfilled : d.Filled target base 0 scene.host) (hstream : scene.session.stream = .writing target)
    (hheard : d.Heard 0 .server (.optionAck granted))
    (hagree : Terms.agree scene.session.requested granted = .ok terms)
    (hsent : World.sent scene.deeds = []) :
    (d.receiver .client target base start).Good 1
      (((scene.become (scene.session.pin source.port)).post (.ack 0)
        { scene.session.settled source.port terms with lastSent := some (.ack 0) }).enter
          .awaitingData) := by
  have hterms : terms = d.offer.terms := by
    cases hheard with
    | said hspeech =>
      cases hspeech with
      | offers => exact Terms.agree_offer hagree
  have hspeech : d.Speech 1 .client (.ack 0) := .takes (Nat.le_refl 1) one_le_last nofun
  refine ⟨.inl (hfilled.ready.congr ⟨rfl, rfl⟩), said_post hsent hspeech, ?_, nofun⟩
  · intro _
    refine ⟨.inr ⟨rfl, hstream, ?_, rfl, Nat.le_refl 1, count_pos⟩, ?_⟩
    · exact congrArg (fun terms => terms.blockSize.size) hterms
    · intro p hp
      exact Option.some.inj hp ▸ hspeech

/-- A block that a receiver hears is the one of its number. -/
theorem Heard.data {number : UInt16} {payload : Bytes}
    (h : d.Heard stage party (.data number payload)) :
    ∃ i, number.toNat = i + 1 ∧ i < d.count ∧ payload = d.block i ∧
      (party = .server → d.offer.options.isEmpty = false → 1 ≤ stage) := by
  cases h with
  | said hspeech =>
    cases hspeech with
    | gives hnumber hi hready => exact ⟨_, hnumber, hi, rfl, hready⟩

/-- A receiver gets a block once more, and acknowledges it once more. -/
theorem Receiving.again {number : UInt16} (h : d.Receiving target stage scene.session)
    (hfiles : (d.receiver party target base start).files stage scene.host)
    (hrepeats : d.Repeats party stage scene.session) (hzero : number ≠ 0)
    (hold : number < scene.session.nextBlock) (hsent : World.sent scene.deeds = []) :
    (d.receiver party target base start).Good stage
      ((scene.post (.ack number) (scene.session.noted number)).enter .awaitingData) := by
  have hwritten : number.toNat + 1 ≤ stage := h.next ▸ UInt16.lt_iff_toNat_lt.1 hold
  have hspeech : d.Speech stage party (.ack number) :=
    .takes hwritten (Nat.le_succ_of_le h.left) fun _ h => absurd h hzero
  refine ⟨receiver_files_same hfiles ⟨rfl, rfl⟩, said_post hsent hspeech,
    fun _ => ⟨.inr ?_, hrepeats⟩, nofun⟩
  exact ⟨rfl, h.stream, h.size, h.next, h.begun, h.left⟩

/-- The block that a client expects when it has asked is the first. -/
theorem Asking.expects {role : Role} {s : Session} {number : UInt16} (h : Asking party role s)
    (hexpects : s.Expects number) : number = 1 := by
  rcases hexpects with ⟨hphase, -⟩ | ⟨-, -, hnumber⟩
  · exact nomatch hphase.symm.trans h.phase
  · exact hnumber

/-- The block that a receiver expects is the one of its stage. -/
theorem Receiving.expects {s : Session} {number : UInt16} (h : d.Receiving target stage s)
    (hexpects : s.Expects number) : number.toNat = stage := by
  rcases hexpects with ⟨-, rfl⟩ | ⟨hphase, -, -⟩
  · exact h.next
  · exact nomatch hphase.symm.trans h.phase

/-- What a client hears first is a grant of its request or block 1. -/
theorem Asking.receives (hfew : d.count ≤ 65535) {source : Endpoint} {phase : Phase}
    (h : Asking party .download scene.session) (hstream : scene.session.stream = .writing target)
    (hfiles : (d.receiver party target base start).files 0 scene.host)
    (hheard : d.Heard 0 party.other packet) (hsent : World.sent scene.deeds = [])
    (hturn : Turn source scene scene.session.phase packet phase scene') :
    ∃ stage', d.Advances 0 stage' ∧
      (d.receiver party target base start).Good stage' (scene'.enter phase) := by
  have hfilled := h.filled hfiles
  obtain ⟨rfl, hphase, hrole⟩ := h
  rw [hphase] at hturn
  cases hturn with
  | grantedRead _ hagree =>
    exact ⟨1, ⟨Nat.zero_le 1, fun _ => one_le_last⟩,
      good_of_granted hfilled hstream hheard hagree hsent⟩
  | firstBlock _ htake =>
    -- The server has granted nothing, so the size of a block is the default on both sides.
    obtain ⟨i, hnumber, hi, rfl, hready⟩ := hheard.data
    obtain rfl : i = 0 := Nat.succ.inj hnumber.symm
    have hempty : d.offer.options.isEmpty = true :=
      Bool.not_eq_false _ ▸ fun hoffered => absurd (hready rfl hoffered) (by decide)
    have hterms : d.offer.terms = {} := Terms.offer_terms_of_isEmpty hempty
    refine ⟨2, ⟨Nat.zero_le 2, fun _ => Nat.succ_le_succ count_pos⟩,
      good_of_take hfew htake hstream ?_ rfl hi hfilled.ready hsent⟩
    exact congrArg (fun terms => terms.blockSize.size) hterms.symm
  | grantedWrite hrole' | firstAck hrole' | strayAck hrole' =>
    exact nomatch hrole.symm.trans hrole'
  | lastAck hphase' | ack hphase' | oldAck hphase' => exact nomatch hphase'

/-- What a receiver hears is the block that it waits for, or one that it has written. -/
theorem Receiving.receives (hfew : d.count ≤ 65535) {source : Endpoint} {phase : Phase}
    (h : d.Receiving target stage scene.session) (hrepeats : d.Repeats party stage scene.session)
    (hfiles : (d.receiver party target base start).files stage scene.host)
    (hheard : d.Heard stage party.other packet) (hsent : World.sent scene.deeds = [])
    (hturn : Turn source scene scene.session.phase packet phase scene') :
    ∃ stage', d.Advances stage stage' ∧
      (d.receiver party target base start).Good stage' (scene'.enter phase) := by
  rw [h.phase] at hturn
  cases hturn with
  | block htake =>
    obtain ⟨i, hnumber, hi, rfl, -⟩ := hheard.data
    obtain rfl : stage = i + 1 := h.next.symm.trans hnumber
    exact ⟨i + 2, ⟨Nat.le_succ _, fun _ => Nat.succ_le_succ hi⟩,
      good_of_take hfew htake h.stream h.size hnumber hi (h.filled hfiles) hsent⟩
  | oldBlock hzero hold => exact ⟨stage, .refl stage, h.again hfiles hrepeats hzero hold hsent⟩
  | lastAck hphase | ack hphase | oldAck hphase => exact nomatch hphase

/-- A block that was written is written whatever stopped the session then. -/
theorem Filled.stopped {host : Host} (h : d.Filled target base (i + 1) scene.host)
    (hi : i < d.count) (hle : stage ≤ i + 1) (hstream : scene.session.stream = .writing target)
    (hsame : (scene.session.stream.write scene.host (d.block i)).2.SameFiles host) :
    ∃ stage', d.Advances stage stage' ∧
      (d.receiver party target base start).files stage' host := by
  rw [hstream] at hsame
  exact ⟨i + 2, ⟨Nat.le_succ_of_le hle, fun _ => Nat.succ_le_succ hi⟩,
    .inl ((h.write hi rfl).congr hsame)⟩

/-- A receiver that stops leaves its file as it was, or with the next block written. -/
theorem receiver_setback {halt : Halt}
    (hstands : (d.receiver party target base start).stands stage scene.session)
    (hfiles : (d.receiver party target base start).files stage scene.host)
    (hheard : d.Heard stage party.other packet) (hsetback : Setback scene packet halt scene') :
    ∃ stage', d.Advances stage stage' ∧
      (d.receiver party target base start).files stage' scene'.host := by
  obtain ⟨-, hfiled, -⟩ := hsetback
  cases hfiled with
  | untouched hsame => exact ⟨stage, .refl stage, receiver_files_same hfiles hsame⟩
  | written hexpects hsame =>
    obtain ⟨i, hnumber, hi, rfl, -⟩ := hheard.data
    obtain ⟨⟨hasking, rfl, hstream⟩ | hreceiving, -⟩ := hstands
    · obtain rfl : i = 0 := Nat.succ.inj (hasking.expects hexpects ▸ hnumber).symm
      exact (hasking.filled hfiles).ready.stopped hi (Nat.zero_le 1) hstream hsame
    · obtain rfl : stage = i + 1 := (hreceiving.expects hexpects).symm.trans hnumber
      exact (hreceiving.filled hfiles).stopped hi (Nat.le_refl _) hreceiving.stream hsame
  | created hphase =>
    obtain ⟨⟨hasking, -⟩ | hreceiving, -⟩ := hstands
    · exact nomatch hphase.symm.trans hasking.phase
    · exact nomatch hphase.symm.trans hreceiving.phase

/-- **A receiver keeps its conduct.**  It writes the block after those that it has written. -/
theorem receiver_isKept (hfew : d.count ≤ 65535) :
    (d.receiver party target base start).IsKept where
  moves_refl := Advances.refl
  waits := by
    rintro stage s ⟨⟨hasking, -⟩ | hreceiving, -⟩
    · exact hasking.phase ▸ rfl
    · exact hreceiving.phase ▸ rfl
  stands_alike := by
    rintro stage s s' ⟨⟨hasking, hstage, hstream⟩ | hreceiving, hrepeats⟩ halike
    · exact ⟨.inl ⟨hasking.alike halike, hstage, halike ▸ hstream⟩, hrepeats.alike halike⟩
    · exact ⟨.inr (hreceiving.alike halike), hrepeats.alike halike⟩
  files_same := receiver_files_same
  sends_error := fun stage code message => ⟨_, .reports, rfl⟩
  sends_again := fun ⟨_, hrepeats⟩ hlast => ⟨_, hrepeats _ hlast, rfl⟩
  turn := by
    rintro stage source packet phase scene scene' ⟨⟨hasking, rfl, hstream⟩ | hreceiving, hrepeats⟩
      hfiles hheard hsent hturn
    · exact hasking.receives hfew hstream hfiles hheard hsent hturn
    · exact hreceiving.receives hfew hrepeats hfiles hheard hsent hturn
  setback := receiver_setback

/-! ### The sender -/

variable (d)

/-- A sender waits for the acknowledgement of a block, or of block 0 if it has granted options. -/
structure Sending (k : Nat) (s : Session) : Prop where
  phase : s.phase = if k = 0 then .offering else .awaitingAck
  left : s.stream.HasLeft d.content (k * d.size)
  size : s.blockSize = d.size
  next : s.nextBlock.toNat = k
  le : k ≤ d.count
  final : s.finalSent = decide (k = d.count)

/-- A server that has granted options sends no block before stage 1. -/
def Ready (party : Party) (stage : Nat) : Prop :=
  party = .server → d.offer.options.isEmpty = false → 1 ≤ stage

/-- How a sender behaves.  What it does is of no consequence for the stage. -/
def sender (party : Party) : Conduct where
  stands stage s :=
    ((Asking party .upload s ∧ s.stream.HasLeft d.content 0) ∨
      ∃ k, d.Sending k s ∧ (k ≠ 0 → d.Ready party stage)) ∧ d.Repeats party stage s
  files _ _ := True
  sends stage bytes := ∃ p, d.Speech stage party p ∧ bytes = p.encode
  hears stage := d.Heard stage party.other
  moves := Eq
  last := d.last

variable {d} {k : Nat}

theorem Sending.alike {s s' : Session} (h : d.Sending k s) (halike : s.Alike s') :
    d.Sending k s' := by
  rw [halike]
  exact ⟨h.phase, h.left, h.size, h.next, h.le, h.final⟩

theorem Sending.waits {s : Session} (h : d.Sending k s) : s.phase.isTerminal = false := by
  rw [h.phase]
  split <;> rfl

/-- A sender that has sent a block waits for its acknowledgement. -/
theorem good_of_give (hgive : Give scene scene')
    (hleft : scene.session.stream.HasLeft d.content (k * d.size))
    (hsize : scene.session.blockSize = d.size) (hnext : scene.session.nextBlock.toNat = k + 1)
    (hk : k < d.count) (hready : d.Ready party stage) (hsent : World.sent scene.deeds = []) :
    (d.sender party).Good stage (scene'.enter .awaitingAck) := by
  cases hgive with
  | @mk payload stream hread hsend =>
    rw [hsize] at hread
    obtain ⟨rfl, hleft'⟩ := hleft.read hread
    have hspeech : d.Speech stage party (.data scene.session.nextBlock (d.block k)) :=
      .gives hnext hk hready
    refine ⟨trivial, said_post hsent hspeech, fun _ => ⟨.inr ⟨k + 1, ?_, fun _ => hready⟩, ?_⟩,
      nofun⟩
    · refine ⟨rfl, hleft', hsize, hnext, hk, decide_eq_decide.2 ?_⟩
      change (d.block k).length < scene.session.blockSize ↔ _
      rw [hsize]
      exact length_blockAt_lt_iff size_pos hk
    · exact fun p hp => Option.some.inj hp ▸ hspeech

/-- An acknowledgement that a sender hears is of a block that is written. -/
theorem Heard.ack {number : UInt16} (h : d.Heard stage party (.ack number)) :
    number.toNat + 1 ≤ stage ∧ stage ≤ d.last ∧
      (party = .server → number = 0 → d.offer.options.isEmpty = true) := by
  cases h with
  | said hspeech =>
    cases hspeech with
    | takes hwritten hstage hzero => exact ⟨hwritten, hstage, hzero⟩

/-- The last block is written, and all those before it. -/
theorem Sending.lastAck (h : d.Sending k scene.session)
    (hheard : d.Heard stage party.other (.ack scene.session.nextBlock))
    (hfinal : scene.session.finalSent = true) (hsent : World.sent scene.deeds = []) :
    (d.sender party).Good stage (scene.enter .done) := by
  obtain ⟨hwritten, hstage, -⟩ := hheard.ack
  have hk : k = d.count := of_decide_eq_true (h.final.symm.trans hfinal)
  refine ⟨trivial, said_nothing hsent, nofun, fun _ => Nat.le_antisymm hstage ?_⟩
  rw [h.next, hk] at hwritten
  exact hwritten

/-- A block is written, and the next is sent. -/
theorem Sending.ack (hfew : d.count ≤ 65535) (h : d.Sending k scene.session)
    (hheard : d.Heard stage party.other (.ack scene.session.nextBlock))
    (hfinal : scene.session.finalSent = false)
    (hgive : Give (scene.become scene.session.advance) scene')
    (hsent : World.sent scene.deeds = []) :
    (d.sender party).Good stage (scene'.enter .awaitingAck) := by
  obtain ⟨hwritten, -, -⟩ := hheard.ack
  have hne : k ≠ d.count := of_decide_eq_false (h.final.symm.trans hfinal)
  have hk : k < d.count := Nat.lt_of_le_of_ne h.le hne
  refine good_of_give hgive h.left h.size ?_ hk ?_ hsent
  · refine (Session.toNat_advance ?_).trans (congrArg (· + 1) h.next)
    exact h.next ▸ Nat.lt_of_lt_of_le hk hfew
  · intro _ _
    exact Nat.le_trans (Nat.succ_pos _) hwritten

/-- What is heard once more changes nothing. -/
theorem Sending.oldAck {number : UInt16} (h : d.Sending k scene.session)
    (hready : k ≠ 0 → d.Ready party stage) (hrepeats : d.Repeats party stage scene.session)
    (hold : number < scene.session.nextBlock) (hsent : World.sent scene.deeds = []) :
    (d.sender party).Good stage
      ((scene.become (scene.session.noted number)).enter .awaitingAck) := by
  have hk : k ≠ 0 := by
    have hlt := UInt16.lt_iff_toNat_lt.1 hold
    rw [h.next] at hlt
    exact Nat.ne_zero_of_lt hlt
  refine ⟨trivial, said_nothing hsent, fun _ => ⟨.inr ⟨k, ?_, hready⟩, hrepeats⟩, nofun⟩
  exact ⟨(if_neg hk).symm, h.left, h.size, h.next, h.le, h.final⟩

/-- What a client hears first is that it may send block 1, or an acknowledgement that says
nothing. -/
theorem Asking.sends {source : Endpoint} {phase : Phase}
    (h : Asking party .upload scene.session)
    (hleft : scene.session.stream.HasLeft d.content 0)
    (hrepeats : d.Repeats party stage scene.session) (hheard : d.Heard stage party.other packet)
    (hsent : World.sent scene.deeds = [])
    (hturn : Turn source scene scene.session.phase packet phase scene') :
    (d.sender party).Good stage (scene'.enter phase) := by
  obtain ⟨rfl, hphase, hrole⟩ := h
  rw [hphase] at hturn
  have hall : scene.session.stream.HasLeft d.content (0 * d.size) := by rwa [Nat.zero_mul]
  cases hturn with
  | grantedWrite _ hagree hgive =>
    refine good_of_give hgive hall ?_ rfl count_pos nofun hsent
    cases hheard with
    | said hspeech =>
      cases hspeech with
      | offers => exact congrArg (fun terms => terms.blockSize.size) (Terms.agree_offer hagree)
  | firstAck _ hgive =>
    -- The server has granted nothing, so the size of a block is the default on both sides.
    obtain ⟨-, -, hempty⟩ := hheard.ack
    have hterms : d.offer.terms = {} := Terms.offer_terms_of_isEmpty (hempty rfl rfl)
    refine good_of_give hgive hall ?_ rfl count_pos nofun hsent
    exact congrArg (fun terms => terms.blockSize.size) hterms.symm
  | strayAck =>
    exact ⟨trivial, said_nothing hsent,
      fun _ => ⟨.inl ⟨⟨rfl, rfl, hrole⟩, hleft⟩, hrepeats⟩, nofun⟩
  | grantedRead hrole' | firstBlock hrole' => exact nomatch hrole.symm.trans hrole'
  | lastAck hphase' | ack hphase' | oldAck hphase' => exact nomatch hphase'

/-- What a sender hears is the acknowledgement of the block that it has sent, or of one before. -/
theorem Sending.sends (hfew : d.count ≤ 65535) {source : Endpoint} {phase : Phase}
    (h : d.Sending k scene.session) (hready : k ≠ 0 → d.Ready party stage)
    (hrepeats : d.Repeats party stage scene.session) (hheard : d.Heard stage party.other packet)
    (hsent : World.sent scene.deeds = [])
    (hturn : Turn source scene scene.session.phase packet phase scene') :
    (d.sender party).Good stage (scene'.enter phase) := by
  have hphase : scene.session.phase = .awaitingAck ∨ scene.session.phase = .offering := by
    rw [h.phase]
    split
    · exact .inr rfl
    · exact .inl rfl
  generalize scene.session.phase = now at hturn hphase
  cases hturn with
  | lastAck _ hfinal => exact h.lastAck hheard hfinal hsent
  | ack _ hfinal hgive => exact h.ack hfew hheard hfinal hgive hsent
  | oldAck _ hold => exact h.oldAck hready hrepeats hold hsent
  | _ => exact nomatch hphase

/-- **A sender keeps its conduct.**  It sends the block after the one that it is told of. -/
theorem sender_isKept (hfew : d.count ≤ 65535) : (d.sender party).IsKept where
  moves_refl := fun _ => rfl
  waits := by
    rintro stage s ⟨⟨hasking, -⟩ | ⟨k, hsending, -⟩, -⟩
    · exact hasking.phase ▸ rfl
    · exact hsending.waits
  stands_alike := by
    rintro stage s s' ⟨⟨hasking, hleft⟩ | ⟨k, hsending, hready⟩, hrepeats⟩ halike
    · exact ⟨.inl ⟨hasking.alike halike, halike ▸ hleft⟩, hrepeats.alike halike⟩
    · exact ⟨.inr ⟨k, hsending.alike halike, hready⟩, hrepeats.alike halike⟩
  files_same := fun _ _ => trivial
  sends_error := fun stage code message => ⟨_, .reports, rfl⟩
  sends_again := fun ⟨_, hrepeats⟩ hlast => ⟨_, hrepeats _ hlast, rfl⟩
  turn := by
    rintro stage source packet phase scene scene'
      ⟨⟨hasking, hleft⟩ | ⟨k, hsending, hready⟩, hrepeats⟩ - hheard hsent hturn
    · exact ⟨stage, rfl, hasking.sends hleft hrepeats hheard hsent hturn⟩
    · exact ⟨stage, rfl, hsending.sends hfew hready hrepeats hheard hsent hturn⟩
  setback := fun _ _ _ _ => ⟨_, rfl, trivial⟩

/-! ### The two together -/

theorem sends_mono {bytes : Bytes} (hadvances : d.Advances stage stage')
    (h : ∃ p, d.Speech stage party p ∧ bytes = p.encode) :
    ∃ p, d.Speech stage' party p ∧ bytes = p.encode := by
  obtain ⟨p, hspeech, hbytes⟩ := h
  exact ⟨p, hspeech.mono hadvances, hbytes⟩

/-- The receiver's progress does not disturb the sender. -/
theorem sender_bears (hadvances : d.Advances stage stage') :
    (d.sender party).Bears stage stage' where
  stands := by
    rintro s ⟨hasking | ⟨k, hsending, hready⟩, hrepeats⟩
    · exact ⟨.inl hasking, hrepeats.mono hadvances⟩
    · exact ⟨.inr ⟨k, hsending, fun hk hserver hoffered =>
        Nat.le_trans (hready hk hserver hoffered) hadvances.le⟩, hrepeats.mono hadvances⟩
  files := fun _ _ => trivial
  sends := fun _ => sends_mono hadvances

theorem tells {bytes : Bytes} (h : ∃ p, d.Speech stage party p ∧ bytes = p.encode) :
    Conduct.Tells (d.Heard stage party) bytes := by
  obtain ⟨p, hspeech, rfl⟩ := h
  exact hspeech.tells

end Delivery

/-! ### What a setting is about -/

namespace Setting

variable {t : Setting} {clientHost serverHost : Host} {node : Node}

/-- The sender has something that can be read, and the receiver has room for it. -/
structure Carries (t : Setting) (clientHost serverHost : Host) (node : Node) : Prop where
  source : (t.source? serverHost.store).map Prod.fst = some node
  readable : node.chunk ≠ some 0
  roomy : t.target.Roomy
    (match t.errand.receiver with
    | .client => clientHost
    | .server => serverHost)

theorem told_lt (h : (t.source? serverHost.store).map Prod.fst = some node)
    (hsize : node.content.length < Numeral.word64) :
    ∀ n, t.service.told ((t.source? serverHost.store).bind Prod.snd) = some n →
      n < Numeral.word64 := by
  intro n hn
  unfold Service.told at hn
  split at hn
  · obtain ⟨⟨node', size⟩, hsource, rfl⟩ := Option.map_eq_some_iff.1 h
    rw [hsource, Option.bind_some] at hn
    obtain rfl : size = some n := hn
    cases herrand : t.errand with
    | fetch target =>
      simp only [source?, herrand] at hsource
      rcases Service.size_of_find? hsource with hnone | hsome
      · exact nomatch hnone
      · exact Option.some.inj hsome ▸ hsize
    | deliver origin node'' =>
      simp only [source?, herrand] at hsource
      obtain ⟨text, -, htext⟩ := Option.bind_eq_some_iff.1
        (congrArg Prod.snd (Option.some.inj hsource))
      exact Numeral.lt_of_readTrimmed? htext
  · exact nomatch hn

/-- What is to be delivered in a setting. -/
def Carries.delivery (h : t.Carries clientHost serverHost node)
    (hsize : node.content.length < Numeral.word64) : Delivery where
  request := t.request
  asked := t.asked.2
  told := t.service.told ((t.source? serverHost.store).bind Prod.snd)
  content := node.content
  told_lt := told_lt h.source hsize

theorem Carries.node_eq (h : t.Carries clientHost serverHost node) {origin : Origin} {node' : Node}
    (herrand : t.errand = .deliver origin node') : node' = node := by
  have hsource := h.source
  rw [source?, herrand] at hsource
  exact Option.some.inj hsource

/-- A server that has the content for the one who asks for it makes this offer. -/
theorem Carries.offer_eq (h : t.Carries clientHost serverHost node)
    {hsize : node.content.length < Numeral.word64} {found : Node} {size : Option Nat}
    {filename : String} {options : Options}
    (hsource : t.source? serverHost.store = some (found, size))
    (hasked : t.asked = (filename, options)) :
    Terms.offer options (t.service.told size) = (h.delivery hsize).offer := by
  change _ = Terms.offer t.asked.2 (t.service.told ((t.source? serverHost.store).bind Prod.snd))
  rw [hsource, hasked]
  rfl

end Setting

end TrivialFtp
