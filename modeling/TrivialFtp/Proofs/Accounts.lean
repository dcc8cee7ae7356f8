import TrivialFtp.Proofs.Chronicle
import TrivialFtp.Proofs.Rollover
import Mathlib.Algebra.Ring.Nat

/-!
# Proofs: what a tally tells

A session counts what it sends before it sends it.  As long as it goes on, and when it comes
through, its tally tells what went out; when it fails, the tally may tell of the one packet that it
failed over as if that had gone out too.

- `World.pages`, `World.resent`: the blocks and the repetitions that went out.
- `Paged`, `Turn.paged`: the blocks of a file go out in order, each of them once for the first time.
- `Books`: the tally of a session that waits is that of its record.
- `Surplus`, `Chronicle.accounts`: what every tally tells.
-/

namespace TrivialFtp

/-! ### What went out -/

namespace Deed

/-- The block that went out for the first time, with its payload. -/
def page? : Deed → Option (UInt16 × Bytes)
  | .sent d false =>
    match Packet.decode d.bytes with
    | .ok (.data block payload) => some (block, payload)
    | _ => none
  | _ => none

/-- The datagram that went out again. -/
def again? : Deed → Option Datagram
  | .sent d true => some d
  | _ => none

variable {d : Deed}

/-- A deed that puts nothing on the wire puts no block there. -/
theorem page?_of_letter (h : d.letter? = none) : d.page? = none := by
  cases d <;> first | rfl | exact nomatch h

theorem again?_of_letter (h : d.letter? = none) : d.again? = none := by
  cases d <;> first | rfl | exact nomatch h

end Deed

/-- A packet that is read keeps its kind. -/
theorem Packet.opcode_decode {p packet : Packet} (h : decode p.encode = .ok packet) :
    packet.opcode = p.opcode := by
  refine opcode_decode_take (Nat.le_add_left 2 p.encode.length) ?_
  rwa [List.take_of_length_le (Nat.le_add_right _ 2)]

/-- A block that goes out is read off its datagram as it was put there. -/
theorem Deed.page?_data {d : Datagram} {block : UInt16} {payload : Bytes}
    (hbytes : d.bytes = (Packet.data block payload).encode) :
    (Deed.sent d false).page? = some (block, payload) := by
  rw [page?, hbytes, Packet.decode_encode_data]

/-- A packet of another kind is no block. -/
theorem Deed.page?_other {d : Datagram} {packet : Packet} (hbytes : d.bytes = packet.encode)
    (hkind : packet.opcode ≠ .data) : (Deed.sent d false).page? = none := by
  rw [page?, hbytes]
  split
  · next hread => exact absurd (Packet.opcode_decode hread).symm hkind
  · rfl

namespace World

/-- The blocks that went out for the first time, with their payloads, in order. -/
def pages (deeds : List Deed) : List (UInt16 × Bytes) := deeds.filterMap Deed.page?

/-- The datagrams that went out again, in order. -/
def again (deeds : List Deed) : List Datagram := deeds.filterMap Deed.again?

/-- How many bytes of payload went out, if repetitions are left aside. -/
def given (deeds : List Deed) : Nat := ((pages deeds).map fun page => page.2.length).sum

/-- How many bytes went out again. -/
def resent (deeds : List Deed) : Nat := ((again deeds).map fun d => d.bytes.length).sum

/-- The blocks went out one after the other, from block 1 on. -/
def InOrder (deeds : List Deed) : Prop :=
  (pages deeds).map Prod.fst = (List.range (pages deeds).length).map fun i => .ofNat (i + 1)

/-- What went out again had gone out before. -/
def Repeats (deeds : List Deed) : Prop :=
  ∀ d ∈ again deeds, ∃ d', .sent d' false ∈ deeds ∧ d'.bytes = d.bytes

section

variable {deeds deeds' : List Deed}

/-- The blocks of two records are those of the one and then those of the other. -/
theorem pages_append (deeds deeds' : List Deed) :
    pages (deeds ++ deeds') = pages deeds ++ pages deeds' := List.filterMap_append

/-- A deed that is no block adds none. -/
theorem pages_silent (deeds : List Deed) {d : Deed} (hd : d.page? = none) :
    pages (deeds ++ [d]) = pages deeds := by
  rw [pages_append, pages, pages, List.filterMap_cons_none hd, List.filterMap_nil, List.append_nil]

theorem again_append (deeds deeds' : List Deed) :
    again (deeds ++ deeds') = again deeds ++ again deeds' := List.filterMap_append

/-- The two records tell of the same blocks and the same repetitions, and one goes on from the
other. -/
structure Same (deeds deeds' : List Deed) : Prop where
  pages : World.pages deeds' = World.pages deeds
  again : World.again deeds' = World.again deeds
  mem : ∀ d, d ∈ deeds → d ∈ deeds'

theorem Same.refl (deeds : List Deed) : Same deeds deeds := ⟨rfl, rfl, fun _ => id⟩

theorem Same.trans {deeds'' : List Deed} (h : Same deeds deeds') (h' : Same deeds' deeds'') :
    Same deeds deeds'' :=
  ⟨h'.pages.trans h.pages, h'.again.trans h.again, fun d hd => h'.mem d (h.mem d hd)⟩

/-- Deeds that put neither a block nor a repetition on the wire leave the accounts as they are. -/
theorem same_append (hpages : World.pages deeds' = []) (hagain : World.again deeds' = []) :
    Same deeds (deeds ++ deeds') where
  pages := by rw [pages_append, hpages, List.append_nil]
  again := by rw [again_append, hagain, List.append_nil]
  mem _ := List.mem_append_left _

/-- So do deeds that put nothing on the wire. -/
theorem Hushed.same (h : Hushed deeds deeds') : Same deeds deeds' := by
  obtain ⟨more, rfl, hmore⟩ := h
  have hletters := List.filterMap_eq_nil_iff.1 hmore
  exact same_append
    (List.filterMap_eq_nil_iff.2 fun d hd => Deed.page?_of_letter (hletters d hd))
    (List.filterMap_eq_nil_iff.2 fun d hd => Deed.again?_of_letter (hletters d hd))

/-- A deed that is neither a block nor a repetition. -/
theorem same_deed {d : Deed} (hpage : d.page? = none) (hagain : d.again? = none) :
    Same deeds (deeds ++ [d]) := by
  refine same_append ?_ ?_
  · rw [pages, List.filterMap_cons_none hpage, List.filterMap_nil]
  · rw [again, List.filterMap_cons_none hagain, List.filterMap_nil]

/-- Records with the same accounts have given the same number of bytes. -/
theorem Same.given (h : Same deeds deeds') : World.given deeds' = World.given deeds := by
  rw [World.given, h.pages, World.given]

theorem Same.resent (h : Same deeds deeds') : World.resent deeds' = World.resent deeds := by
  rw [World.resent, h.again, World.resent]

/-- Whether the blocks are in order is seen by the blocks alone. -/
theorem InOrder.of_pages (hin : InOrder deeds) (hpages : pages deeds' = pages deeds) :
    InOrder deeds' := by
  unfold InOrder
  rwa [hpages]

/-- Nor do the accounts change what has gone out before. -/
theorem Repeats.same (hrepeats : Repeats deeds) (h : Same deeds deeds') : Repeats deeds' := by
  intro d hd
  rw [h.again] at hd
  obtain ⟨d', hd', hbytes⟩ := hrepeats d hd
  exact ⟨d', h.mem _ hd', hbytes⟩

/-- Deeds that put nothing on the wire put nothing there after others. -/
theorem Hushed.after (h : Hushed deeds deeds') (before : List Deed) :
    Hushed (before ++ deeds) (before ++ deeds') := by
  obtain ⟨more, rfl, hmore⟩ := h
  exact ⟨more, (List.append_assoc ..).symm, hmore⟩

end

end World

/-! ### The blocks of a file -/

/-- A session that gives a file has put the blocks up to the next one on the wire. -/
structure Session.Paged (s : Session) (deeds : List Deed) : Prop where
  gives : ¬ s.Takes
  inOrder : World.InOrder deeds
  next : s.nextBlock = .ofNat (World.pages deeds).length
  fresh : s.phase = .requested ∨ s.phase = .idle → World.pages deeds = []

section Paged

open World

variable {source : Endpoint} {scene scene' : Scene} {before : List Deed}

/-- A block that goes out is the last one of the record. -/
theorem World.pages_page {deeds : List Deed} {d : Datagram} {block : UInt16} {payload : Bytes}
    (hbytes : d.bytes = (Packet.data block payload).encode) :
    pages (deeds ++ [.sent d false]) = pages deeds ++ [(block, payload)] := by
  rw [pages_append, pages, pages, List.filterMap_cons_some (Deed.page?_data hbytes),
    List.filterMap_nil]

/-- A block with the number after those of the record goes on in order. -/
theorem World.inOrder_page {deeds : List Deed} {d : Datagram} {block : UInt16} {payload : Bytes}
    (hin : InOrder deeds) (hbytes : d.bytes = (Packet.data block payload).encode)
    (hblock : block = .ofNat ((pages deeds).length + 1)) :
    InOrder (deeds ++ [.sent d false]) := by
  unfold InOrder at hin ⊢
  rw [pages_page hbytes, List.map_append, hin, List.length_append, List.length_singleton,
    List.range_succ, List.map_append, hblock]
  rfl

/-- A session that has put no block on the wire, expects none and counts on from where it was has
the same blocks to its name. -/
theorem Session.Paged.congr {s s' : Session} {deeds deeds' : List Deed} (h : s.Paged deeds)
    (hpages : pages deeds' = pages deeds) (hgives : ¬ s'.Takes) (hnext : s'.nextBlock = s.nextBlock)
    (hfresh : s'.phase = .requested ∨ s'.phase = .idle → s.phase = .requested ∨ s.phase = .idle) :
    s'.Paged deeds' where
  gives := hgives
  inOrder := h.inOrder.of_pages hpages
  next := by rw [hnext, h.next, hpages]
  fresh hphase := hpages.trans (h.fresh (hfresh hphase))

/-- A block is given under the number after those that were. -/
theorem Give.paged (h : Give scene scene') (hrole : scene.session.role ≠ .download)
    (hin : InOrder (before ++ scene.deeds))
    (hnext : scene.session.nextBlock = .ofNat ((pages (before ++ scene.deeds)).length + 1)) :
    (scene'.enter .awaitingAck).session.Paged (before ++ scene'.deeds) := by
  obtain ⟨-, -⟩ := h
  change Session.Paged _ (before ++ (scene.deeds ++ [_]))
  rw [← List.append_assoc]
  refine ⟨fun h => h.elim nofun hrole, inOrder_page hin rfl hnext, ?_, fun h => h.elim nofun nofun⟩
  rw [pages_page rfl, List.length_append]
  exact hnext

/-- **A turn gives at most one block, and that in order.**  A request for a file opens the record; a
request to write one begins no record of blocks at all, so it is left out. -/
theorem Turn.paged {phase phase' : Phase} {packet : Packet}
    (h : Turn source scene phase packet phase' scene') (hphase : scene.session.phase = phase)
    (hread : ∀ filename mode requested, phase = .idle →
      packet ≠ .request .write filename mode requested)
    (hpaged : scene.session.Paged (before ++ scene.deeds)) :
    (scene'.enter phase').session.Paged (before ++ scene'.deeds) := by
  have hrole : scene.session.role ≠ .download := fun h => hpaged.gives (.inr h)
  -- A transfer that begins has put nothing on the wire yet.
  have hbegun : ∀ {deeds}, pages deeds = [] → (1 : UInt16) = .ofNat ((pages deeds).length + 1) := by
    intro deeds hfresh
    rw [hfresh]
    rfl
  cases h with
  | block | oldBlock => exact absurd (.inl hphase) hpaged.gives
  | lastAck =>
    exact hpaged.congr rfl (fun h => h.elim nofun hrole) rfl (fun h => h.elim nofun nofun)
  | ack hsender _ hgive =>
    exact hgive.paged hrole hpaged.inOrder (Session.advance_ofNat hpaged.next)
  | oldAck =>
    exact hpaged.congr rfl (fun h => h.elim nofun hrole) rfl (fun h => h.elim nofun nofun)
  | grantedRead hdownload | firstBlock hdownload => exact absurd hdownload hrole
  | grantedWrite _ _ hgive | firstAck _ hgive =>
    exact hgive.paged hrole hpaged.inOrder (hbegun (hpaged.fresh (.inl hphase)))
  | strayAck => exact hpaged.congr rfl (fun h => h.elim nofun hrole) rfl (fun _ => .inl hphase)
  | offered _ hserved =>
    have hsame := (hserved.hushed.after before).same
    have hfresh := hpaged.fresh (.inr hphase)
    change Session.Paged _ (before ++ (_ ++ [_]))
    rw [← List.append_assoc]
    refine hpaged.congr ?_ (fun h => h.elim nofun hrole) ?_ fun h => h.elim nofun nofun
    · refine (pages_silent _ (Deed.page?_other rfl ?_)).trans hsame.pages
      exact nofun
    · rw [hpaged.next, hfresh]
      rfl
  | served _ hserved _ hgive =>
    have hsame := (hserved.hushed.after before).same
    refine hgive.paged hrole (hpaged.inOrder.of_pages hsame.pages) ?_
    exact hbegun (hsame.pages.trans (hpaged.fresh (.inr hphase)))
  | created => exact absurd rfl (hread _ _ _ rfl)

end Paged

/-! ### The books of a session -/

/-- The payload of a block, and nothing for other packets. -/
def Packet.load : Packet → Nat
  | data _ payload => payload.length
  | _ => 0

/-- The tally of a session that waits is that of its record: what it repeated had gone out before,
as has what it would repeat next, and its counts are those of what went out. -/
structure Session.Books (sending : Prop) (deeds : List Deed) (s : Session) : Prop where
  repeats : World.Repeats deeds
  last : ∀ p, s.lastSent = some p → ∃ d, .sent d false ∈ deeds ∧ d.bytes = p.encode
  resent : s.tally.resentBytes = World.resent deeds
  given : sending → s.tally.bytes = World.given deeds

section Books

open World

variable {sending : Prop} {scene scene' : Scene} {before : List Deed} {arrival : Arrival}

namespace Session.Charges

variable {s : Session} {packet : Packet} {tally : Tally}

/-- What a packet is charged with is not sent again. -/
theorem resentBytes (h : s.Charges packet tally) : tally.resentBytes = s.tally.resentBytes := by
  cases h <;> rfl

/-- A sender is charged with the payload of every block that it sends. -/
theorem bytes (h : s.Charges packet tally) (hgives : ¬ s.Takes) :
    tally.bytes = s.tally.bytes + packet.load := by
  cases h with
  | given | oldBlock => rfl
  | taken htakes => exact absurd htakes hgives
  | other hblock =>
    cases packet with
    | data => exact absurd rfl hblock
    | _ => rfl

end Session.Charges

/-- What a packet has given is its payload if it is a block, and nothing if it is not. -/
theorem World.given_packet {deeds : List Deed} {d : Datagram} {packet : Packet}
    (hbytes : d.bytes = packet.encode) :
    given (deeds ++ [.sent d false]) = given deeds + packet.load := by
  have hother : packet.opcode ≠ .data → given (deeds ++ [.sent d false]) = given deeds :=
    fun hkind => (same_deed (Deed.page?_other hbytes hkind) rfl).given
  cases packet with
  | data block payload =>
    rw [given, pages_page hbytes, List.map_append, List.sum_append]
    rfl
  | request direction => exact hother (by cases direction <;> exact nofun)
  | ack | error | optionAck => exact hother nofun

/-- Books are kept by the accounts, by what was sent last and by two of the counts. -/
theorem Session.Books.same {s s' : Session} {deeds deeds' : List Deed} (h : s.Books sending deeds)
    (hsame : Same deeds deeds') (hlast : s'.lastSent = s.lastSent)
    (hresent : s'.tally.resentBytes = s.tally.resentBytes)
    (hbytes : s'.tally.bytes = s.tally.bytes) :
    s'.Books sending deeds' where
  repeats := h.repeats.same hsame
  last p hp := (h.last p (hlast ▸ hp)).imp fun d hd => ⟨hsame.mem _ hd.1, hd.2⟩
  resent := by rw [hresent, h.resent, hsame.resent]
  given hsending := by rw [hbytes, h.given hsending, hsame.given]

/-- **Books are kept.**  What a turn puts on the wire is in the counts. -/
theorem Speech.books (h : Speech scene scene') (hgives : sending → ¬ scene.session.Takes)
    (hbooks : scene.session.Books sending (before ++ scene.deeds)) :
    scene'.session.Books sending (before ++ scene'.deeds) := by
  cases h with
  | nothing htally hlast hhushed =>
    refine hbooks.same (hhushed.after before).same hlast ?_ ?_ <;>
      rcases htally with htally | ⟨block, htally⟩ <;> rw [htally] <;> rfl
  | @packet packet d deeds hcharges hlast hbytes hhushed hdeeds =>
    have hsame := (hhushed.after before).same
    have hagain : again (before ++ deeds ++ [.sent d false]) = again (before ++ deeds) := by
      rw [again_append]
      exact List.append_nil _
    rw [hdeeds, ← List.append_assoc]
    refine ⟨fun d' hd' => ?_, fun p hp => ?_, ?_, fun hsending => ?_⟩
    · rw [hagain] at hd'
      obtain ⟨d'', hd'', heq⟩ := hbooks.repeats.same hsame d' hd'
      exact ⟨d'', List.mem_append_left _ hd'', heq⟩
    · rcases hlast with hlast | hlast
      · obtain ⟨d', hd', heq⟩ := hbooks.last p (hlast ▸ hp)
        exact ⟨d', List.mem_append_left _ (hsame.mem _ hd'), heq⟩
      · obtain rfl := Option.some.inj (hlast.symm.trans hp)
        exact ⟨d, List.mem_append_right _ (.head _), hbytes⟩
    · rw [hcharges.resentBytes, hbooks.resent, World.resent, World.resent, hagain, hsame.again]
    · rw [hcharges.bytes (hgives hsending), hbooks.given hsending, given_packet hbytes, hsame.given]

theorem Drop.books {source : Endpoint} {bytes : Bytes} (h : Drop source bytes scene scene')
    (hbooks : scene.session.Books sending (before ++ scene.deeds)) :
    scene'.session.Books sending (before ++ scene'.deeds) := by
  rw [h.deeds]
  cases h <;> exact hbooks.same (.refl _) rfl rfl rfl

/-- A datagram that goes out again adds its length to what was. -/
theorem World.resent_again (deeds : List Deed) (d : Datagram) :
    resent (deeds ++ [.sent d true]) = resent deeds + d.bytes.length := by
  rw [resent, again_append, List.map_append, List.sum_append]
  rfl

theorem World.given_again (deeds : List Deed) (d : Datagram) :
    given (deeds ++ [.sent d true]) = given deeds := by
  rw [given, pages_silent deeds rfl, given]

/-- What goes out again is put down as such. -/
theorem World.repeats_again {deeds : List Deed} {d d' : Datagram} (h : Repeats deeds)
    (hd' : .sent d' false ∈ deeds) (hbytes : d'.bytes = d.bytes) :
    Repeats (deeds ++ [.sent d true]) := by
  intro e he
  rw [again_append, List.mem_append] at he
  rcases he with he | he
  · obtain ⟨e', he', heq⟩ := h e he
    exact ⟨e', List.mem_append_left _ he', heq⟩
  · obtain rfl := List.mem_singleton.1 he
    exact ⟨d', List.mem_append_left _ hd', hbytes⟩

/-- What goes out again is counted, byte for byte. -/
theorem Repeat.books (h : Repeat scene scene')
    (hbooks : scene.session.Books sending (before ++ scene.deeds)) :
    scene'.session.Books sending (before ++ scene'.deeds) := by
  cases h with
  | nothing => exact hbooks.same (.refl _) rfl rfl rfl
  | @again p _ hlast =>
    obtain ⟨d, hd, hbytes⟩ := hbooks.last p hlast
    dsimp only
    rw [← List.append_assoc]
    refine ⟨repeats_again hbooks.repeats hd hbytes, fun q hq => ?_, ?_, fun hsending => ?_⟩
    · obtain ⟨d', hd', heq⟩ := hbooks.last q hq
      exact ⟨d', List.mem_append_left _ hd', heq⟩
    · rw [resent_again, ← hbooks.resent]
      rfl
    · rw [given_again]
      exact hbooks.given hsending

theorem Drop.paged {source : Endpoint} {bytes : Bytes} (h : Drop source bytes scene scene')
    (hpaged : scene.session.Paged (before ++ scene.deeds)) :
    scene'.session.Paged (before ++ scene'.deeds) := by
  rw [h.deeds]
  cases h <;> exact hpaged.congr rfl hpaged.gives rfl id

/-- A packet that goes out again gives no new block. -/
theorem Repeat.paged (h : Repeat scene scene')
    (hpaged : scene.session.Paged (before ++ scene.deeds)) :
    scene'.session.Paged (before ++ scene'.deeds) := by
  cases h with
  | nothing => exact hpaged.congr rfl hpaged.gives rfl id
  | again =>
    refine hpaged.congr ?_ hpaged.gives rfl id
    dsimp only
    rw [← List.append_assoc, pages_silent _ rfl]

/-- The record of a session that waits, with the blocks that went out if it gives a file. -/
structure Session.Recorded (sending : Prop) (deeds : List Deed) (s : Session) : Prop where
  books : s.Books sending deeds
  paged : sending → s.Paged deeds

theorem Drop.recorded {source : Endpoint} {bytes : Bytes} (h : Drop source bytes scene scene')
    (hrecorded : scene.session.Recorded sending (before ++ scene.deeds)) :
    scene'.session.Recorded sending (before ++ scene'.deeds) :=
  ⟨h.books hrecorded.books, fun hsending => h.paged (hrecorded.paged hsending)⟩

theorem Repeat.recorded (h : Repeat scene scene')
    (hrecorded : scene.session.Recorded sending (before ++ scene.deeds)) :
    scene'.session.Recorded sending (before ++ scene'.deeds) :=
  ⟨h.books hrecorded.books, fun hsending => h.paged (hrecorded.paged hsending)⟩

/-- What is shown to those who watch is in no record of this kind. -/
theorem Session.Recorded.shown {packet : Packet}
    (h : scene.session.Recorded sending (before ++ scene.deeds)) :
    (scene.showing packet).session.Recorded sending (before ++ (scene.showing packet).deeds) := by
  have hsame := ((scene.quiet_showing packet).hushed.after before).same
  rw [Scene.showing_session]
  exact ⟨h.books.same hsame rfl rfl rfl,
    fun hsending => (h.paged hsending).congr hsame.pages (h.paged hsending).gives rfl id⟩

/-- **At every move** of a session the record is kept. -/
theorem Move.recorded (h : Move arrival scene scene') (hbegun : scene.session.phase ≠ .idle)
    (hrecorded : scene.session.Recorded sending (before ++ scene.deeds)) :
    scene'.session.Recorded sending (before ++ scene'.deeds) := by
  cases h with
  | @handled source bytes packet phase _ scene' hown hread hturn =>
    have hheard : scene.heard.session.Recorded sending (before ++ scene.heard.deeds) :=
      ⟨hrecorded.books.same (.refl _) rfl rfl rfl, fun hsending =>
        (hrecorded.paged hsending).congr rfl (hrecorded.paged hsending).gives rfl id⟩
    refine ⟨hturn.speech_heard.books (fun hsending => (hrecorded.paged hsending).gives)
      hrecorded.books, fun hsending => ?_⟩
    refine hturn.paged ?_ (fun _ _ _ hidle => absurd hidle hbegun) (hheard.shown.paged hsending)
    rw [Scene.showing_session]
    rfl
  | dropped hdrop => exact hdrop.recorded hrecorded
  | impatient hdrop _ hrepeat => exact hrepeat.recorded (hdrop.recorded hrecorded)
  | silent hrepeat => exact hrepeat.recorded hrecorded

/-! ### At a stop -/

/-- What a session that failed has counted too much of, in bytes sent again and in bytes of
payload. -/
inductive Surplus (f : Failure) (deeds : List Deed) : Nat → Nat → Prop where
  /-- The packet that went out before and was to go out again: its block had been noted too often,
  or it could not be sent. -/
  | again {packet : Packet} {d : Datagram} (hsent : .sent d false ∈ deeds)
      (hbytes : d.bytes = packet.encode)
      (hover : f = .tooManyDuplicates packet.block ∨
        ∃ d' fault, .unsent d' fault ∈ deeds ∧ d'.bytes = packet.encode ∧ f = .io fault) :
    Surplus f deeds packet.encode.length 0
  /-- The next block, which could not be sent. -/
  | block {block : UInt16} {payload : Bytes} {d : Datagram} {fault : Fault}
      (hunsent : .unsent d fault ∈ deeds) (hbytes : d.bytes = (Packet.data block payload).encode)
      (hover : f = .io fault) : Surplus f deeds 0 payload.length

/-- What has been counted too much stays so when more has been done. -/
theorem Surplus.mono {f : Failure} {deeds deeds' : List Deed} {again block : Nat}
    (h : Surplus f deeds again block) (hmem : ∀ d ∈ deeds, d ∈ deeds') :
    Surplus f deeds' again block := by
  cases h with
  | again hsent hbytes hover =>
    refine .again (hmem _ hsent) hbytes (hover.imp id ?_)
    rintro ⟨d', fault, hunsent, hbytes', rfl⟩
    exact ⟨d', fault, hmem _ hunsent, hbytes', rfl⟩
  | block hunsent hbytes hover => exact .block (hmem _ hunsent) hbytes hover

/-- A tally tells what went out, and of no more than the packet that the session failed over. -/
structure Tally.Tells (sending : Prop) (f? : Option Failure) (deeds : List Deed) (t : Tally) :
    Prop where
  repeats : World.Repeats deeds
  inOrder : sending → World.InOrder deeds
  counts : ∃ again block,
    (again = 0 ∧ block = 0 ∨ ∃ f, f? = some f ∧ Surplus f deeds again block) ∧
      t.resentBytes = World.resent deeds + again ∧
      (sending → t.bytes = World.given deeds + block)

/-- The failure that halts a session. -/
def Halt.failure? : Halt → Option Failure
  | failure f => some f
  | crash => none

/-- What a tally tells depends on the accounts alone. -/
theorem Tally.Tells.same {f? : Option Failure} {deeds deeds' : List Deed} {t : Tally}
    (h : t.Tells sending f? deeds) (hsame : Same deeds deeds') : t.Tells sending f? deeds' := by
  obtain ⟨again, block, hsurplus, hresent, hgiven⟩ := h.counts
  refine ⟨h.repeats.same hsame, fun hsending => (h.inOrder hsending).of_pages hsame.pages,
    again, block, hsurplus.imp id ?_, hsame.resent ▸ hresent, hsame.given ▸ hgiven⟩
  exact fun ⟨f, hf, hsurplus⟩ => ⟨f, hf, hsurplus.mono hsame.mem⟩

namespace Session.Recorded

variable {s : Session} {deeds deeds' : List Deed} {tally : Tally} {f : Failure}

/-- A tally that has stayed as it was. -/
theorem tells (h : s.Recorded sending deeds) (hsame : Same deeds deeds') {f? : Option Failure}
    (hresent : tally.resentBytes = s.tally.resentBytes)
    (hbytes : sending → tally.bytes = s.tally.bytes) : tally.Tells sending f? deeds' where
  repeats := h.books.repeats.same hsame
  inOrder hsending := (h.paged hsending).inOrder.of_pages hsame.pages
  counts := ⟨0, 0, .inl ⟨rfl, rfl⟩, by rw [hresent, h.books.resent, hsame.resent]; rfl,
    fun hsending => by rw [hbytes hsending, h.books.given hsending, hsame.given]; rfl⟩

/-- A tally that tells of one packet too much. -/
theorem tells_surplus (h : s.Recorded sending deeds) (hsame : Same deeds deeds') {again block : Nat}
    (hsurplus : Surplus f deeds' again block)
    (hresent : tally.resentBytes = s.tally.resentBytes + again)
    (hbytes : sending → tally.bytes = s.tally.bytes + block) :
    tally.Tells sending (some f) deeds' where
  repeats := h.books.repeats.same hsame
  inOrder hsending := (h.paged hsending).inOrder.of_pages hsame.pages
  counts := ⟨again, block, .inr ⟨f, rfl, hsurplus⟩, by rw [hresent, h.books.resent, hsame.resent],
    fun hsending => by rw [hbytes hsending, h.books.given hsending, hsame.given]⟩

end Session.Recorded

/-- A datagram that could not be sent is in no account. -/
theorem World.same_unsent {deeds deeds' : List Deed} (h : Same deeds deeds') (d : Datagram)
    (fault : Fault) : Same deeds (deeds' ++ [.unsent d fault]) :=
  h.trans (same_deed rfl rfl)

/-- A session that stops over a block has counted at most that block too much. -/
theorem Stumble.tells {halt : Halt} (h : Stumble scene halt scene')
    (hrecorded : scene.session.Recorded sending (before ++ scene.deeds)) :
    scene'.session.tally.Tells sending halt.failure? (before ++ scene'.deeds) := by
  cases h with
  | quiet _ htally hhushed | tooMany _ htally hhushed =>
    rw [htally]
    exact hrecorded.tells (hhushed.after before).same rfl fun _ => rfl
  | @unsent packet d fault deeds scene' hcharges hbytes hhushed hdeeds =>
    have hsame := same_unsent (hhushed.after before).same d fault
    have hgiven : sending → scene'.session.tally.bytes = scene.session.tally.bytes + packet.load :=
      fun hsending => hcharges.bytes (hrecorded.paged hsending).gives
    rw [hdeeds, ← List.append_assoc]
    cases packet with
    | data block payload =>
      have hunsent : .unsent d fault ∈ before ++ deeds ++ [.unsent d fault] :=
        List.mem_append_right _ (.head _)
      exact hrecorded.tells_surplus hsame (.block hunsent hbytes rfl) hcharges.resentBytes hgiven
    | _ => exact hrecorded.tells hsame hcharges.resentBytes hgiven

/-- A session that stops while it sends something again has counted at most that too much. -/
theorem Falter.tells {halt : Halt} (h : Falter scene halt scene')
    (hrecorded : scene.session.Recorded sending (before ++ scene.deeds)) :
    scene'.session.tally.Tells sending halt.failure? (before ++ scene'.deeds) := by
  cases h with
  | impatient => exact hrecorded.tells (.refl _) rfl fun _ => rfl
  | @tooMany packet scene' _ htally hlast hdeeds =>
    obtain ⟨d, hd, hbytes⟩ := hrecorded.books.last packet hlast
    rw [htally, hdeeds]
    exact hrecorded.tells_surplus (.refl _) (.again hd hbytes (.inl rfl)) rfl fun _ => rfl
  | @unsent packet fault scene' hlast _ htally hdeeds =>
    obtain ⟨d, hd, hbytes⟩ := hrecorded.books.last packet hlast
    rw [htally, hdeeds, ← List.append_assoc]
    refine hrecorded.tells_surplus (same_unsent (.refl _) _ fault)
      (.again (List.mem_append_left _ hd) hbytes (.inr
        ⟨scene.session.letter packet, fault, ?_, rfl, rfl⟩)) rfl fun _ => rfl
    exact List.mem_append_right _ (.head _)

/-- **What a session that stops has counted.**  Everything it did, and at most one packet more. -/
theorem Stop.tells {halt : Halt} (h : Stop arrival scene halt scene')
    (hrecorded : scene.session.Recorded sending (before ++ scene.deeds)) :
    scene'.session.tally.Tells sending halt.failure? (before ++ scene'.deeds) := by
  cases h with
  | stumble _ _ hstumble => exact hstumble.tells hrecorded
  | malformed | fault => exact hrecorded.tells (.refl _) rfl fun _ => rfl
  | impatient hdrop hfalter => exact hfalter.tells (hdrop.recorded hrecorded)
  | silent hfalter => exact hfalter.tells hrecorded

end Books

/-! ### Datagrams dropped -/

section Discarded

variable {scene scene' : Scene} {arrival : Arrival} {halt : Halt}

/-- No packet that is charged is a dropped one. -/
theorem Session.Charges.discarded {s : Session} {packet : Packet} {tally : Tally}
    (h : s.Charges packet tally) : tally.discarded = s.tally.discarded := by
  cases h <;> rfl

/-- A turn drops nothing. -/
theorem Speech.discarded (h : Speech scene scene') :
    scene'.session.tally.discarded = scene.session.tally.discarded := by
  cases h with
  | nothing htally =>
    rcases htally with htally | ⟨block, htally⟩ <;> exact (congrArg Tally.discarded htally :)
  | packet hcharges => exact hcharges.discarded

theorem Repeat.discarded (h : Repeat scene scene') :
    scene'.session.tally.discarded = scene.session.tally.discarded := by
  cases h <;> rfl

/-- A datagram that is dropped is counted, if it is one that the session drops. -/
theorem Drop.discarded {source : Endpoint} {bytes : Bytes} (h : Drop source bytes scene scene') :
    scene'.session.tally.discarded =
      scene.session.tally.discarded + (scene.session.drops (.datagram source bytes)).toNat := by
  rw [h.drops]
  cases h <;> rfl

/-- A move counts its arrival as dropped just when the session drops it. -/
theorem Move.discarded (h : Move arrival scene scene') :
    scene'.session.tally.discarded =
      scene.session.tally.discarded + (scene.session.drops arrival).toNat := by
  cases h with
  | handled hown hread hturn =>
    rw [hturn.speech_heard.discarded,
      Session.not_drops hown (.inr (congrArg Except.isOk hread))]
    rfl
  | dropped hdrop => exact hdrop.discarded
  | impatient hdrop _ hrepeat => exact hrepeat.discarded.trans hdrop.discarded
  | silent hrepeat => exact hrepeat.discarded

theorem Stumble.discarded (h : Stumble scene halt scene') :
    scene'.session.tally.discarded = scene.session.tally.discarded := by
  cases h with
  | quiet _ htally | tooMany _ htally => exact (congrArg Tally.discarded htally :)
  | unsent hcharges => exact hcharges.discarded

theorem Falter.discarded (h : Falter scene halt scene') :
    scene'.session.tally.discarded = scene.session.tally.discarded := by
  cases h with
  | impatient => rfl
  | tooMany _ htally | unsent _ _ htally => exact (congrArg Tally.discarded htally :)

theorem Stop.discarded (h : Stop arrival scene halt scene') :
    scene'.session.tally.discarded =
      scene.session.tally.discarded + (scene.session.drops arrival).toNat := by
  cases h with
  | stumble hown hread hstumble =>
    rw [hstumble.discarded, Session.not_drops hown (.inr (congrArg Except.isOk hread))]
    rfl
  | malformed hown _ htid =>
    rw [Session.not_drops hown (.inl htid)]
    rfl
  | impatient hdrop hfalter => exact hfalter.discarded.trans hdrop.discarded
  | silent hfalter => exact hfalter.discarded
  | fault => rfl

end Discarded

/-! ### Whole sessions -/

/-- A session that gives a file: an upload, or a server that was asked for one. -/
def Sending (session : Session) (opening : Opening) : Prop :=
  session.role = .upload ∨
    ∃ filename mode requested source,
      opening = .answer (.request .read filename mode requested) source

section Whole

variable {session : Session} {opening : Opening} {run : Run} {deeds : List Deed} {dropped : Nat}

/-- A session begins with empty books. -/
theorem Begins.recorded (h : Begins session opening) :
    session.Recorded (Sending session opening) [] := by
  have hgives : Sending session opening → ¬ session.Takes := by
    rintro hsending (hphase | hrole)
    · cases h <;> exact nomatch hphase
    · cases h with
      | download => exact hsending.elim nofun nofun
      | upload | serve => exact nomatch hrole
  refine ⟨⟨fun _ hd => absurd hd List.not_mem_nil, fun p hp => ?_, ?_, fun _ => ?_⟩, fun hsending =>
    ⟨hgives hsending, rfl, ?_, fun _ => rfl⟩⟩ <;> cases h <;> first | rfl | exact nomatch hp

/-- A server that gives a file was asked for it. -/
theorem Sending.reads {packet : Packet} {source : Endpoint}
    (hbegins : Begins session (.answer packet source))
    (hsending : Sending session (.answer packet source)) (filename mode : String)
    (requested : Options) : packet ≠ .request .write filename mode requested := by
  rcases hsending with hrole | ⟨_, _, _, _, hopening⟩
  · cases hbegins
    exact nomatch hrole
  · cases hopening
    exact nofun

/-- A session that has opened has counted what it opened with. -/
theorem Opened.recorded {host : Host} {scene' : Scene} (hbegins : Begins session opening)
    (h : Opened opening ⟨session, host, []⟩ scene') :
    scene'.session.Recorded (Sending session opening) scene'.deeds := by
  have hrecorded : (Scene.mk session host []).session.Recorded (Sending session opening)
      ([] ++ (Scene.mk session host []).deeds) := hbegins.recorded
  refine ⟨(h.speech hbegins).books (fun hsending => (hrecorded.paged hsending).gives)
    hrecorded.books, fun hsending => ?_⟩
  have hpaged := hrecorded.paged hsending
  cases h with
  | asked =>
    refine hpaged.congr
      (World.pages_silent [] (Deed.page?_other rfl hbegins.request_opcode.1)) ?_ rfl
      fun _ => .inl ?_
    · exact fun htakes => htakes.elim nofun fun hrole => hpaged.gives (.inr hrole)
    · cases hbegins <;> rfl
  | @answered packet source phase _ scene' hturn =>
    refine hturn.paged ?_ (fun filename mode requested _ => ?_) (hrecorded.shown.paged hsending)
    · exact congrArg Session.phase (Scene.showing_session _ packet)
    · exact Sending.reads hbegins hsending filename mode requested

namespace Run

/-- The record of a run, with what it has dropped. -/
def Accounted (sending : Prop) (deeds : List Deed) (dropped : Nat) : Run → Prop
  | waiting s => s.Recorded sending deeds ∧ s.tally.discarded = dropped
  | ended ending => ∀ tally, (ended ending).tally? = some tally →
      tally.Tells sending (ended ending).failure? deeds ∧ tally.discarded = dropped

/-- Last words do not count. -/
theorem same_notified (f : Failure) (scene : Scene) :
    World.Same scene.deeds (notified f scene).deeds := by
  unfold notified
  cases f.notice with
  | none => exact .refl _
  | some notice =>
    dsimp only
    split
    · exact World.same_deed (Deed.page?_other rfl nofun) rfl
    · exact World.same_deed rfl rfl

end Run

/-- Records with the same accounts have them after whatever came before. -/
theorem World.Same.after {deeds deeds' : List Deed} (h : Same deeds deeds') (before : List Deed) :
    Same (before ++ deeds) (before ++ deeds') := by
  refine ⟨by rw [pages_append, pages_append, h.pages], by rw [again_append, again_append, h.again],
    fun d hd => ?_⟩
  exact List.mem_append.2 ((List.mem_append.1 hd).imp id (h.mem d))

/-- **A turn is accounted for.**  However it is left, the tally tells of what was done before it and
of what was done in it. -/
theorem Upshot.accounted {done : Scene → Prop} {stopped : Halt → Scene → Prop} {sending : Prop}
    {before : List Deed} (h : Upshot done stopped run deeds)
    (hdone : ∀ scene, done scene → scene.session.Recorded sending (before ++ scene.deeds) ∧
      scene.session.tally.discarded = dropped)
    (hstopped : ∀ halt scene, stopped halt scene →
      scene.session.tally.Tells sending halt.failure? (before ++ scene.deeds) ∧
        scene.session.tally.discarded = dropped) :
    run.Accounted sending (before ++ deeds) dropped := by
  cases h with
  | waits h => exact hdone _ h
  | @completes scene now h =>
    intro tally htally
    obtain rfl := Option.some.inj htally
    refine (hdone _ h).imp (fun h => ?_) id
    exact h.tells (scene.hushed_flushing.after before).same rfl fun _ => rfl
  | @unclosed fault scene now h =>
    -- It fails with the books of a session that came through: there is nothing too much in them.
    intro tally htally
    obtain rfl := Option.some.inj htally
    refine (hdone _ h).imp (fun h => ?_) id
    have hsame := scene.hushed_flushing.same.trans (Run.same_notified (.io fault) scene.flushing)
    exact h.tells (hsame.after before) rfl fun _ => rfl
  | @fails f scene now h =>
    intro tally htally
    obtain rfl := Option.some.inj htally
    refine (hstopped _ _ h).imp (fun h => ?_) id
    have htells := h.same ((Run.same_notified f scene).after before)
    exact ⟨htells.repeats, htells.inOrder, htells.counts⟩
  | crashes => exact fun tally htally => nomatch htally

namespace Chronicle

/-- A whole record is accounted for, by the turns that it is made of. -/
theorem accounted (hbegins : Begins session opening)
    (h : Chronicle session opening run deeds dropped) :
    run.Accounted (Sending session opening) deeds dropped := by
  have hrecorded : ∀ host : Host, (Scene.mk session host []).session.Recorded
      (Sending session opening) ([] ++ (Scene.mk session host []).deeds) :=
    fun _ => hbegins.recorded
  have hnone : session.tally.discarded = 0 := by cases hbegins <;> rfl
  refine h.rule (P := fun run deeds dropped => run.Accounted _ deeds dropped) (fun host => ?_) ?_
  · change Run.Accounted _ ([] ++ (Run.start session opening host).2.2) _ _
    refine (Run.start_stops hbegins host).upshot.accounted (fun scene hopened => ?_)
      fun halt scene hstumble => ?_
    · exact ⟨hopened.recorded hbegins, (hopened.speech hbegins).discarded.trans hnone⟩
    · exact ⟨hstumble.tells (hrecorded host), hstumble.discarded.trans hnone⟩
  · rintro s deeds dropped arrival host hrecord ⟨hbooks, rfl⟩
    have hbegun := Standing.ne_idle (hrecord.reaches.standing hbegins s rfl)
    have hscene : (Scene.mk s host []).session.Recorded (Sending session opening)
        (deeds ++ (Scene.mk s host []).deeds) := by rwa [List.append_nil]
    exact (Run.step_stops s arrival host).upshot.accounted
      (fun scene hmove => ⟨hmove.recorded hbegun hscene, hmove.discarded⟩)
      fun halt scene hstop => ⟨hstop.tells hscene, hstop.discarded⟩

/-- **What a tally tells.**  It has counted every datagram that was dropped, which is every one that
a session hears only to discard it.  A session that goes on or has come through has counted, byte
for byte, what it put on the wire again, and one that gives a file the payload of every block that
it put on the wire, each of them once; the blocks went out in order, and what went out again had
gone out before.  A session that failed has counted the same, and at most one packet more: the one
that it failed over, which was to go out again although its block had been noted too often, or
which could not be sent. -/
theorem accounts (hbegins : Begins session opening)
    (h : Chronicle session opening run deeds dropped) {tally : Tally}
    (htally : run.tally? = some tally) :
    tally.discarded = dropped ∧
    (∀ (s : Session) arrival host, s.drops arrival = true ↔
      ∃ scene, (Act.hear arrival).run ⟨s, host, []⟩ = .ok .discarded scene) ∧
    World.Repeats deeds ∧ (Sending session opening → World.InOrder deeds) ∧
    ∃ again block,
      (again = 0 ∧ block = 0 ∨ ∃ f, run.failure? = some f ∧ Surplus f deeds again block) ∧
      tally.resentBytes = World.resent deeds + again ∧
      (Sending session opening → tally.bytes = World.given deeds + block) := by
  have haccounted := h.accounted hbegins
  cases run with
  | waiting s =>
    obtain ⟨hrecorded, hdropped⟩ := haccounted
    obtain rfl := Option.some.inj htally
    have htells : s.tally.Tells (Sending session opening) none deeds :=
      hrecorded.tells (.refl _) rfl fun _ => rfl
    exact ⟨hdropped, Session.drops_iff, htells.repeats, htells.inOrder, htells.counts⟩
  | ended ending =>
    obtain ⟨htells, hdropped⟩ := haccounted tally htally
    exact ⟨hdropped, Session.drops_iff, htells.repeats, htells.inOrder, htells.counts⟩

/-- An upload of three bytes to port 69, and its request. -/
def uploader : Session :=
  .client .upload 40001 ⟨.v4 127 0 0 1, 69, 0⟩ (.reading .held { content := [1, 2, 3] }) ∅ {}
    false 1

def offer : Opening := .request (.octetRequest .write "f" ∅)

/-- It asks again after a silence, sends its one block when the server is ready, and sends it again
after another silence; a stranger's datagram is dropped.  Three bytes of the file went out, and
seventeen bytes went out again. -/
theorem accounts_uploader :
    ∃ s deeds, Chronicle uploader offer (.waiting s) deeds 1 ∧ s.tally.bytes = 3 ∧
      s.tally.resentBytes = 17 ∧ s.tally.discarded = 1 := by
  obtain ⟨s, deeds, hrecord, hgiven, hagain⟩ : ∃ s deeds,
      Chronicle uploader offer (.waiting s) deeds 1 ∧ World.given deeds = 3 ∧
        World.resent deeds = 17 := by
    have hrepeats : Chronicle uploader offer _ _ _ := (start {}).step .silence {}
    have hgives := hrepeats.step (.datagram ⟨.v4 127 0 0 1, 5000, 0⟩ (Packet.ack 0).encode) {}
    have hdrops := (hgives.step .silence {}).step (.datagram ⟨.v4 127 0 0 2, 5000, 0⟩ []) {}
    exact ⟨_, _, hdrops, rfl, rfl⟩
  obtain ⟨hdropped, -, -, -, again, block, hsurplus, hresent, hbytes⟩ :=
    accounts .upload hrecord rfl
  obtain ⟨rfl, rfl⟩ | ⟨f, hfailed, -⟩ := hsurplus
  · exact ⟨s, deeds, hrecord, (hbytes (.inl rfl)).trans hgiven, hresent.trans hagain, hdropped⟩
  · exact nomatch hfailed

/-- A download from port 69, and its request. -/
def caller : Session :=
  .client .download 40001 ⟨.v4 127 0 0 1, 69, 0⟩ (.writing .output) ∅ {} false 1

def call : Opening := .request (.octetRequest .read "f" ∅)

/-- A host that cannot send the second datagram it is given. -/
def unsentSecond : Host where
  sends := 1
  sendFault n := if n = 1 then some ⟨.other, "boom"⟩ else none

/-- A download that cannot ask again has counted the request as sent again, though nothing was. -/
theorem overstated_caller :
    ∃ run deeds tally, Begins caller call ∧ Chronicle caller call run deeds 0 ∧
      run.failure? = some (.io ⟨.other, "boom"⟩) ∧ run.tally? = some tally ∧
      World.again deeds = [] ∧ tally.resentBytes = 10 ∧ tally.resentBytes ≠ World.resent deeds :=
  ⟨_, _, _, .download, .step (.start {}) .silence unsentSecond, rfl, rfl, rfl, rfl, by decide⟩

end Chronicle

end Whole

end TrivialFtp
