import TrivialFtp.Proofs.Responses
import TrivialFtp.Proofs.Rollover

/-!
# Proofs: what sender and receiver do in turn

A sender says one thing after the other, first what it offers and then its blocks, and goes on when
it is told that the last of it has arrived; a receiver says so of each.  What either makes of any
arrival is said here with the block counted without end, and whatever its files do.

- `Pact.Awaits.sends`: what a sender makes of an arrival.
- `Pact.Wants.receives`: what a receiver makes of it.
- `Pact.Asks.begins`: what a client makes of it that has just asked.
-/

namespace TrivialFtp

/-! ### What is read -/

namespace Packet

/-- The number of the block that a packet names, if it names one. -/
def number? : Packet → Option UInt16
  | data number _ => some number
  | ack number => some number
  | _ => none

/-- If a packet names a block, it is this one. -/
def About (i : Nat) (p : Packet) : Prop := ∀ n, p.number? = some n → n = .ofNat i

/-- If a packet names a block, it is the one before this one. -/
def Before : Nat → Packet → Prop
  | 0, p => p.number? = none
  | i + 1, p => p.About i

/-- A packet without a number is about any block. -/
theorem About.of_none {p : Packet} {i : Nat} (h : p.number? = none) : p.About i := by
  intro n hn
  exact nomatch h.symm.trans hn

theorem Before.of_none {p : Packet} (h : p.number? = none) : ∀ {j : Nat}, p.Before j
  | 0 => h
  | _ + 1 => About.of_none h

/-- Blocks that follow each other have different numbers, also where these come round. -/
theorem ofNat_succ_ne (i : Nat) : UInt16.ofNat (i + 1) ≠ .ofNat i := by
  intro h
  have h := congrArg UInt16.toNat h
  simp only [UInt16.toNat_ofNat'] at h
  omega

/-- What names the block before is not about this one. -/
theorem Before.ne {p : Packet} {j : Nat} {n : UInt16} (h : p.Before j) (hn : p.number? = some n) :
    n ≠ .ofNat j := by
  cases j with
  | zero => exact nomatch h.symm.trans hn
  | succ i => exact h n hn ▸ (ofNat_succ_ne i).symm

end Packet

namespace Conduct

variable {P Q : Packet → Prop}

/-- What is told of a datagram tells what follows from it. -/
theorem Tells.mono {bytes : Bytes} (h : Tells P bytes) (himp : ∀ p, P p → Q p) :
    Tells Q bytes := fun p hread => himp p (h p hread)

/-- A packet that passes tells of itself. -/
theorem tells_self {p : Packet} (h : p.Passes) : Tells (· = p) p.encode := by
  intro q hread
  rw [h.decode_take] at hread
  exact (Except.ok.inj hread).symm

/-- A packet that names no block is never read as one that does. -/
theorem tells_unnumbered {p : Packet} (h : p.number? = none) :
    Tells (·.number? = none) p.encode := by
  intro q hread
  have hopcode := Packet.opcode_decode_take (by decide) hread
  cases q with
  | data | ack =>
    cases p with
    | request direction => cases direction <;> exact nomatch hopcode
    | data | ack => exact nomatch h
    | _ => exact nomatch hopcode
  | _ => rfl

/-- A report is read as a report, if it is read. -/
theorem tells_report {d : Datagram} (h : d.IsReport) :
    Tells (fun q => ∃ code message, q = .error code message) d.bytes := by
  obtain ⟨code, message, hbytes⟩ := h
  rw [hbytes]
  intro q hread
  have hopcode := Packet.opcode_decode_take (by decide) hread
  cases q with
  | error code message => exact ⟨code, message, rfl⟩
  | request direction => cases direction <;> exact nomatch hopcode
  | _ => exact nomatch hopcode

end Conduct

/-- A packet is read of an arrival. -/
def Arrival.Reads (arrival : Arrival) (packet : Packet) : Prop :=
  ∃ source bytes, arrival = .datagram source bytes ∧
    Packet.decode (bytes.take Act.longestPacket) = .ok packet

/-! ### What the two sides rely on -/

/-- Who asks for what, what the server offers, and where the bytes are put. -/
structure Pact where
  /-- The role of the client. -/
  role : Role
  request : Packet
  asked : Options
  told : Option Nat
  target : Target
  /-- What closing the target comes to. -/
  fault : Option Fault
  told_lt : ∀ n, told = some n → n < Numeral.word64
  unnumbered : request.number? = none

namespace Pact

variable (c : Pact)

/-- What the server offers. -/
def offer : Terms.Offer := Terms.offer c.asked c.told

/-- The size of a full block. -/
def size : Nat := c.offer.terms.blockSize.size

/-- What a receiver says when it is ready for block 1.  A server answers a request then. -/
def first : Packet :=
  match c.role with
  | .upload => c.offer.reply
  | _ => .ack 0

/-- What a receiver says when it has taken so many blocks. -/
def echo : Nat → Packet
  | 0 => c.first
  | i + 1 => .ack (.ofNat (i + 1))

/-- The target is closed as it should be expected. -/
def Closes (host : Host) : Prop := (Stream.writing c.target).closeFault host = c.fault

/-- What a sender says, by the number of it, and whether it is the last.  An offer counts as
number 0. -/
inductive Said : Nat → Packet → Bool → Prop where
  | offers (hoffered : c.offer.options.isEmpty = false) :
    Said 0 (.optionAck c.offer.options) false
  | gives {i : Nat} {payload : Bytes} (hle : payload.length ≤ c.size) :
    Said (i + 1) (.data (.ofNat (i + 1)) payload) (decide (payload.length < c.size))

/-- A client has sent its request. -/
structure Asks (s : Session) : Prop where
  phase : s.phase = .requested
  role : s.role = c.role
  next : s.nextBlock = 0
  lastSent : s.lastSent = some c.request
  stream : c.role = .download → s.stream = .writing c.target

/-- A sender has said something, and waits to be told that it has arrived. -/
structure Awaits (j : Nat) (p : Packet) (final : Bool) (s : Session) : Prop where
  phase : s.phase = .awaitingAck ∨ s.phase = .offering
  next : s.nextBlock = .ofNat j
  terms : s.terms = c.offer.terms
  lastSent : s.lastSent = some p
  final_eq : s.finalSent = final
  said : c.Said j p final

/-- A receiver has taken so many blocks, has said so, and waits for the next. -/
structure Wants (i : Nat) (s : Session) : Prop where
  phase : s.phase = .awaitingData
  next : s.nextBlock = .ofNat (i + 1)
  terms : s.terms = c.offer.terms
  stream : s.stream = .writing c.target
  lastSent : s.lastSent = some (c.echo i)

/-- How a receiver is left that has taken everything up to a block, which may be the last.  It may
have failed only if there is something left. -/
inductive Level (j : Nat) : Bool → Run → Host → Prop where
  | closed {tally : Tally} {host : Host} : Level j true (.ended (.closing c.fault tally)) host
  | ended {ending : Ending} {host : Host} : Level j false (.ended ending) host
  | wants {r : Session} {host : Host} (hwants : c.Wants j r) (hcloses : c.Closes host) :
    Level j false (.waiting r) host

/-- A receiver has taken a block. -/
structure Taken (j : Nat) (payload : Bytes) (result : Run × Host × List Deed) : Prop where
  level : c.Level j (decide (payload.length < c.size)) result.1 result.2.1
  sent : ∀ letter ∈ World.sent result.2.2,
    letter.bytes = (Packet.ack (.ofNat j)).encode ∨ letter.IsReport

variable {c} {i j : Nat} {p : Packet} {final : Bool} {s s' : Session} {host host' : Host}
  {scene scene' : Scene} {arrival : Arrival} {result : Run × Host × List Deed}

/-- Everything that is said is read as it was said. -/
theorem Said.passes (h : c.Said j p final) : p.Passes := by
  cases h with
  | offers => exact Terms.passes_offer c.told_lt
  | gives hle => exact Packet.passes_data _ (Nat.le_trans hle c.offer.terms.blockSize.le_most)

/-- What is said at a block is about that block. -/
theorem Said.about (h : c.Said j p final) : p.About j := by
  cases h with
  | offers => exact .of_none rfl
  | gives => exact fun n hn => (Option.some.inj hn).symm

theorem passes_reply : c.offer.reply.Passes := by
  unfold Terms.Offer.reply
  split
  · exact Packet.passes_ack 0
  · exact Terms.passes_offer c.told_lt

theorem about_ack (i : Nat) : (Packet.ack (.ofNat i)).About i :=
  fun _ hn => (Option.some.inj hn).symm

theorem about_reply : c.offer.reply.About 0 := by
  unfold Terms.Offer.reply
  split
  · exact about_ack 0
  · exact .of_none rfl

/-- An upload is answered with what the server offers. -/
theorem first_of_upload (h : c.role = .upload) : c.first = c.offer.reply := by
  unfold first
  rw [h]

/-- What is said first is the offer, or the acknowledgement of block 0. -/
theorem first_eq : c.first = c.offer.reply ∨ c.first = .ack (.ofNat 0) := by
  unfold first
  split
  · exact .inl rfl
  · exact .inr rfl

/-- What is said in answer to a block passes, and is about that block. -/
theorem echo_passes : ∀ i, (c.echo i).Passes ∧ (c.echo i).About i
  | 0 => by
    unfold echo
    rcases c.first_eq with hfirst | hfirst
    · exact hfirst ▸ ⟨passes_reply, about_reply⟩
    · exact hfirst ▸ ⟨Packet.passes_ack _, about_ack 0⟩
  | i + 1 => ⟨Packet.passes_ack _, about_ack (i + 1)⟩

/-- How a file will be closed depends on the files alone. -/
theorem Closes.congr (h : c.Closes host) (hsame : host.SameFiles host') : c.Closes host' := by
  refine Eq.trans ?_ h
  unfold Stream.closeFault
  rw [hsame.store]

/-- That a client has asked does not depend on its counts. -/
theorem Asks.alike (h : c.Asks s) (halike : s.Alike s') : c.Asks s' := by
  rw [halike]
  exact ⟨h.phase, h.role, h.next, h.lastSent, h.stream⟩

theorem Awaits.alike (h : c.Awaits j p final s) (halike : s.Alike s') : c.Awaits j p final s' := by
  rw [halike]
  exact ⟨h.phase, h.next, h.terms, h.lastSent, h.final_eq, h.said⟩

theorem Wants.alike (h : c.Wants i s) (halike : s.Alike s') : c.Wants i s' := by
  rw [halike]
  exact ⟨h.phase, h.next, h.terms, h.stream, h.lastSent⟩

theorem Awaits.waits (h : c.Awaits j p final s) : s.phase.isTerminal = false := by
  rcases h.phase with hphase | hphase <;> rw [hphase] <;> rfl

/-- A session that has given a block waits to be told that it has arrived. -/
theorem awaits_of_give (hgive : Give scene scene') (hterms : scene.session.terms = c.offer.terms)
    (hnext : scene.session.nextBlock = .ofNat (i + 1)) (hsilent : World.sent scene.deeds = []) :
    ∃ p final s' host' deeds, Run.rest (scene'.enter .awaitingAck) = (.waiting s', host', deeds) ∧
      c.Awaits (i + 1) p final s' ∧ ∀ letter ∈ World.sent deeds, letter.bytes = p.encode := by
  rw [Run.rest_waiting rfl]
  cases hgive with
  | @mk payload stream hread hsend =>
    have hsize : scene.session.blockSize = c.size :=
      congrArg (fun terms => terms.blockSize.size) hterms
    rw [hsize] at hread
    refine ⟨.data (.ofNat (i + 1)) payload, decide (payload.length < c.size), _, _, _, rfl, ?_, ?_⟩
    · refine ⟨.inl rfl, hnext, hterms, ?_, ?_, .gives (Stream.length_le_of_read hread)⟩
      · exact congrArg (fun n => some (Packet.data n payload)) hnext
      · exact congrArg (fun n => decide (payload.length < n)) hsize
    · intro letter hletter
      rw [← hnext]
      exact congrArg Datagram.bytes (World.eq_of_mem_sent hsilent hletter)

/-- A session that takes a block is ready for the next, or is done. -/
theorem taken_of_take {payload : Bytes} {phase : Phase} (htake : Take scene payload phase scene')
    (hterms : scene.session.terms = c.offer.terms)
    (hnext : scene.session.nextBlock = .ofNat (i + 1))
    (hstream : scene.session.stream = .writing c.target) (hcloses : c.Closes scene.host)
    (hsilent : World.sent scene.deeds = []) :
    c.Taken (i + 1) payload (Run.rest (scene'.enter phase)) := by
  cases htake with
  | @mk host hwrite hsend =>
    have hsize : scene.session.blockSize = c.size :=
      congrArg (fun terms => terms.blockSize.size) hterms
    -- Whatever was written, closing the target comes to what it came to before.
    have hcloses' : c.Closes host := by
      have hwritten := @Target.closeFault_write scene.host c.target payload
      rw [← hstream, hwrite, hstream] at hwritten
      exact hwritten.trans hcloses
    have hsent : ∀ letter ∈ World.sent (Scene.post { scene with host }
        (.ack scene.session.nextBlock) (scene.session.took payload)).deeds,
        letter.bytes = (Packet.ack (.ofNat (i + 1))).encode := by
      intro letter hletter
      rw [← hnext]
      exact congrArg Datagram.bytes (World.eq_of_mem_sent hsilent hletter)
    rw [hsize]
    by_cases hshort : payload.length < c.size
    · rw [if_pos hshort]
      obtain ⟨⟨tally, hended⟩, hreports⟩ := Run.rest_done_ends (Scene.post { scene with host }
        (.ack scene.session.nextBlock) (scene.session.took payload))
      refine ⟨?_, fun letter hletter => (hreports letter hletter).imp_left (hsent letter)⟩
      rw [hended, decide_eq_true hshort]
      have hfault : (scene.session.took payload).stream.closeFault
          { host with sends := host.sends + 1 } = c.fault := by
        change scene.session.stream.closeFault _ = _
        rw [hstream]
        exact hcloses'.congr ⟨rfl, rfl⟩
      change c.Level (i + 1) true (.ended (.closing ((scene.session.took payload).stream.closeFault
        { host with sends := host.sends + 1 }) tally)) _
      rw [hfault]
      exact .closed
    · rw [if_neg hshort, Run.rest_waiting rfl]
      refine ⟨?_, fun letter hletter => .inl (hsent letter hletter)⟩
      rw [decide_eq_false hshort]
      refine .wants ⟨rfl, Session.advance_ofNat hnext, hterms, hstream, ?_⟩
        (hcloses'.congr ⟨rfl, rfl⟩)
      exact congrArg (fun n => some (Packet.ack n)) hnext

/-! ### The sender -/

variable (c) in
/-- What a sender makes of an arrival. -/
inductive Sends (j : Nat) (p : Packet) (final : Bool) (arrival : Arrival) :
    Run × Host × List Deed → Prop where
  | stays {s : Session} {host : Host} {deeds : List Deed} (hawaits : c.Awaits j p final s)
      (hsent : ∀ letter ∈ World.sent deeds, letter.bytes = p.encode) :
    Sends j p final arrival (.waiting s, host, deeds)
  | fails {result : Run × Host × List Deed} (hfails : Run.Fails result) :
    Sends j p final arrival result
  | ends {result : Run × Host × List Deed} (hread : arrival.Reads (.ack (.ofNat j)))
      (hfinal : final = true) (hended : ∃ ending, result.1 = .ended ending) :
    Sends j p final arrival result
  | gives {p' : Packet} {final' : Bool} {s : Session} {host : Host} {deeds : List Deed}
      (hread : arrival.Reads (.ack (.ofNat j))) (hfinal : final = false)
      (hawaits : c.Awaits (j + 1) p' final' s)
      (hsent : ∀ letter ∈ World.sent deeds, letter.bytes = p'.encode) :
    Sends j p final arrival (.waiting s, host, deeds)

/-- **A sender.**  It goes on when it is told that what it said has arrived, and only then. -/
theorem Awaits.sends (h : c.Awaits j p final s) (arrival : Arrival) (host : Host) :
    c.Sends j p final arrival ((Run.waiting s).step arrival host) := by
  have hresponds := Run.responds h.waits arrival host
  generalize (Run.waiting s).step arrival host = result at hresponds
  cases hresponds with
  | rests halike _ hsent =>
    exact .stays (h.alike halike) (Session.said_again h.lastSent hsent)
  | fails hfails => exact .fails hfails
  | @handles source bytes packet phase deeds scene hread hsilent hturn =>
    have hphase := h.phase
    have hsender : ∀ {now : Phase}, s.phase = now → now = .awaitingAck ∨ now = .offering := by
      rintro now rfl
      exact hphase
    generalize hnow : s.phase = now at hturn
    have hsender := hsender hnow
    cases hturn with
    | lastAck _ hfinal =>
      obtain ⟨⟨tally, hended⟩, -⟩ := Run.rest_done_ends ⟨{ s with heardAt := host.clock + 1 },
        { host with clock := host.clock + 1 }, deeds⟩
      exact .ends ⟨source, bytes, rfl, h.next ▸ hread⟩ (h.final_eq.symm.trans hfinal) ⟨_, hended⟩
    | ack _ hfinal hgive =>
      obtain ⟨p', final', s', host', deeds', hrest, hawaits, hsent⟩ :=
        c.awaits_of_give hgive h.terms (Session.advance_ofNat h.next) hsilent
      rw [hrest]
      exact .gives ⟨source, bytes, rfl, h.next ▸ hread⟩ (h.final_eq.symm.trans hfinal) hawaits hsent
    | oldAck _ _ _ =>
      rw [Run.rest_waiting rfl]
      refine .stays ⟨.inl rfl, h.next, h.terms, h.lastSent, h.final_eq, h.said⟩ ?_
      exact fun letter hletter => nomatch hsilent ▸ hletter
    | _ => rcases hsender with he | he <;> exact nomatch he

/-! ### The receiver -/

variable (c) in
/-- What a receiver makes of an arrival. -/
inductive Receives (i : Nat) (arrival : Arrival) : Run × Host × List Deed → Prop where
  | stays {s : Session} {host : Host} {deeds : List Deed} (hwants : c.Wants i s)
      (hcloses : c.Closes host)
      (hsent : ∀ letter ∈ World.sent deeds, letter.bytes = (c.echo i).encode ∨
        ∃ n payload, arrival.Reads (.data n payload) ∧ n ≠ .ofNat (i + 1) ∧
          letter.bytes = (Packet.ack n).encode) :
    Receives i arrival (.waiting s, host, deeds)
  | fails {result : Run × Host × List Deed} (hfails : Run.Fails result) :
    Receives i arrival result
  | takes {payload : Bytes} {result : Run × Host × List Deed}
      (hread : arrival.Reads (.data (.ofNat (i + 1)) payload))
      (htaken : c.Taken (i + 1) payload result) :
    Receives i arrival result

/-- **A receiver.**  It takes the block that it waits for, and otherwise says nothing new. -/
theorem Wants.receives (h : c.Wants i s) (hcloses : c.Closes host) (arrival : Arrival) :
    c.Receives i arrival ((Run.waiting s).step arrival host) := by
  have hresponds := Run.responds (by rw [h.phase]; rfl) arrival host
  generalize (Run.waiting s).step arrival host = result at hresponds
  cases hresponds with
  | rests halike hfiles hsent =>
    have hagain := Session.said_again h.lastSent hsent
    exact .stays (h.alike halike) (hcloses.congr hfiles) fun letter hletter =>
      .inl (hagain letter hletter)
  | fails hfails => exact .fails hfails
  | @handles source bytes packet phase deeds scene hread hsilent hturn =>
    rw [h.phase] at hturn
    cases hturn with
    | block htake =>
      refine .takes ⟨source, bytes, rfl, h.next ▸ hread⟩ ?_
      exact taken_of_take htake h.terms h.next h.stream (hcloses.congr ⟨rfl, rfl⟩) hsilent
    | @oldBlock n payload hzero hold =>
      rw [Run.rest_waiting rfl]
      refine .stays ⟨rfl, h.next, h.terms, h.stream, h.lastSent⟩ (hcloses.congr ⟨rfl, rfl⟩)
        fun letter hletter => .inr ⟨n, payload, ⟨source, bytes, rfl, hread⟩, ?_, ?_⟩
      · exact h.next ▸ UInt16.ne_of_lt hold
      · exact congrArg Datagram.bytes (World.eq_of_mem_sent hsilent hletter)
    | lastAck he | ack he | oldAck he => exact nomatch he

/-! ### The client -/

variable (c) in
/-- What a client hears, when the server is the one who answers: nothing is offered but the offer,
and of blocks nothing is heard at first if there is one. -/
structure Fair (arrival : Arrival) : Prop where
  offers : ∀ {granted : Options}, arrival.Reads (.optionAck granted) → granted = c.offer.options
  plain : ∀ {p : Packet}, arrival.Reads p → p.number? ≠ none → c.offer.options.isEmpty = true

variable (c) in
/-- What a client makes of an arrival when it has just asked. -/
inductive Answers (arrival : Arrival) : Run × Host × List Deed → Prop where
  | stays {s : Session} {host : Host} {deeds : List Deed} (hasks : c.Asks s)
      (hcloses : c.role = .download → c.Closes host)
      (hsent : ∀ letter ∈ World.sent deeds, letter.bytes = c.request.encode) :
    Answers arrival (.waiting s, host, deeds)
  | fails {result : Run × Host × List Deed} (hfails : Run.Fails result) : Answers arrival result
  | granted {s : Session} {host : Host} {deeds : List Deed} (hrole : c.role = .download)
      (hread : arrival.Reads (.optionAck c.offer.options)) (hwants : c.Wants 0 s)
      (hcloses : c.Closes host)
      (hsent : ∀ letter ∈ World.sent deeds, letter.bytes = (Packet.ack 0).encode) :
    Answers arrival (.waiting s, host, deeds)
  | takes {payload : Bytes} {result : Run × Host × List Deed} (hrole : c.role = .download)
      (hread : arrival.Reads (.data 1 payload)) (htaken : c.Taken 1 payload result) :
    Answers arrival result
  | gives {p : Packet} {final : Bool} {s : Session} {host : Host} {deeds : List Deed}
      (hrole : c.role = .upload) (hawaits : c.Awaits 1 p final s)
      (hsent : ∀ letter ∈ World.sent deeds, letter.bytes = p.encode) :
    Answers arrival (.waiting s, host, deeds)

/-- **A client that has asked.**  It settles for what the server offers, and is then a receiver
that is ready for block 1, or a sender that has given it. -/
theorem Asks.begins (h : c.Asks s) (hcloses : c.role = .download → c.Closes host)
    (hfair : c.Fair arrival) : c.Answers arrival ((Run.waiting s).step arrival host) := by
  have hresponds := Run.responds (by rw [h.phase]; rfl) arrival host
  generalize (Run.waiting s).step arrival host = result at hresponds
  cases hresponds with
  | rests halike hfiles hsent =>
    exact .stays (h.alike halike) (fun hrole => (hcloses hrole).congr hfiles)
      (Session.said_again h.lastSent hsent)
  | fails hfails => exact .fails hfails
  | @handles source bytes packet phase deeds scene hread hsilent hturn =>
    have hreads : Arrival.Reads (.datagram source bytes) packet := ⟨source, bytes, rfl, hread⟩
    -- Who offers nothing keeps to the terms that go without saying.
    have hplain : packet.number? ≠ none → ({} : Terms) = c.offer.terms := fun hnumber =>
      (Terms.offer_terms_of_isEmpty (hfair.plain hreads hnumber)).symm
    rw [h.phase] at hturn
    cases hturn with
    | grantedRead hrole hagree hsend =>
      have hrole : c.role = .download := h.role.symm.trans hrole
      obtain rfl := hfair.offers hreads
      rw [Run.rest_waiting rfl]
      refine .granted hrole hreads ⟨rfl, rfl, Terms.agree_offer hagree, h.stream hrole, ?_⟩
        ((hcloses hrole).congr ⟨rfl, rfl⟩) fun letter hletter => ?_
      · rw [echo, first, hrole]
        rfl
      · exact congrArg Datagram.bytes (World.eq_of_mem_sent hsilent hletter)
    | firstBlock hrole htake =>
      have hrole : c.role = .download := h.role.symm.trans hrole
      refine .takes hrole hreads ?_
      exact taken_of_take htake (hplain nofun) rfl (h.stream hrole)
        ((hcloses hrole).congr ⟨rfl, rfl⟩) hsilent
    | grantedWrite hrole hagree hgive =>
      obtain rfl := hfair.offers hreads
      obtain ⟨p, final, s', host', deeds', hrest, hawaits, hsent⟩ :=
        c.awaits_of_give hgive (Terms.agree_offer hagree) rfl hsilent
      rw [hrest]
      exact .gives (h.role.symm.trans hrole) hawaits hsent
    | firstAck hrole hgive =>
      obtain ⟨p, final, s', host', deeds', hrest, hawaits, hsent⟩ :=
        c.awaits_of_give hgive (hplain nofun) rfl hsilent
      rw [hrest]
      exact .gives (h.role.symm.trans hrole) hawaits hsent
    | strayAck hrole hzero =>
      rw [Run.rest_waiting rfl]
      refine .stays ⟨rfl, h.role, h.next, h.lastSent, h.stream⟩
        (fun hrole => (hcloses hrole).congr ⟨rfl, rfl⟩) fun letter hletter => ?_
      exact nomatch hsilent ▸ hletter
    | lastAck he | ack he | oldAck he => rcases he with he | he <;> exact nomatch he

end Pact

end TrivialFtp
