import TrivialFtp.Proofs.Normal
import TrivialFtp.Proofs.Receivers
import Mathlib.Algebra.Order.BigOperators.Group.List
import Mathlib.Algebra.Order.Ring.Nat

/-!
# Proofs: how long the blocks are

A receiver looks at the size of a block only to tell whether it is the last one.  Before the last
one no block is shorter than the size in force, but a peer may send longer ones: all that keeps a
payload short is how much of a datagram is read.

- `Packet.length_payload`: what is read of a datagram carries no more than a full block of the
  largest size.
- `Taking.fills_blocks`: how much was written after so many blocks.
-/

namespace TrivialFtp

theorem Packet.length_data {b payload : Bytes} {block : UInt16}
    (h : decode b = .ok (.data block payload)) : b.length = payload.length + 4 := by
  obtain ⟨body, rfl, hbody⟩ := decode_ok h
  obtain ⟨word, rest, rfl, hdata⟩ := withWord_ok hbody
  obtain ⟨-, rfl⟩ := Packet.data.inj hdata
  rw [List.length_append, List.length_append]
  change 2 + (2 + payload.length) = _
  omega

/-- Of a datagram no more is read than a full block of the largest size. -/
theorem Packet.length_payload {b payload : Bytes} {block : UInt16}
    (h : decode (b.take Act.longestPacket) = .ok (.data block payload)) :
    payload.length ≤ BlockSize.most := by
  have hlength := length_data h
  have hread : (b.take Act.longestPacket).length ≤ BlockSize.most + 4 := List.length_take_le ..
  omega

theorem Session.length_block {s : Session} {arrival : Arrival} {block : UInt16} {payload : Bytes}
    (h : s.block? arrival = some (block, payload)) : payload.length ≤ BlockSize.most := by
  obtain ⟨⟨source, bytes, -, -, hread⟩, -⟩ := block?_eq_some_iff.1 h
  exact Packet.length_payload hread

section Contents

variable {blocks : List (UInt16 × Bytes)} {size : Nat}

theorem length_contentOf :
    (contentOf blocks).length = (blocks.map fun b => b.2.length).sum := List.length_flatMap

theorem le_length_contentOf (h : ∀ b ∈ blocks, size ≤ b.2.length) :
    blocks.length * size ≤ (contentOf blocks).length := by
  have hsum := List.card_nsmul_le_sum (blocks.map fun b => b.2.length) size
    (List.forall_mem_map.2 h)
  rwa [List.length_map, Nat.nsmul_eq_mul, ← length_contentOf] at hsum

/-- Blocks that are long enough make up no more than they must if none is longer. -/
theorem length_contentOf_eq_iff (h : ∀ b ∈ blocks, size ≤ b.2.length) :
    (contentOf blocks).length = blocks.length * size ↔ ∀ b ∈ blocks, b.2.length = size := by
  constructor
  · intro hlength b hb
    by_contra hne
    have hlt := List.sum_lt_sum (fun _ => size) (fun b : UInt16 × Bytes => b.2.length) h
      ⟨b, hb, Nat.lt_of_le_of_ne (h b hb) (Ne.symm hne)⟩
    rw [List.map_const', List.sum_replicate, Nat.nsmul_eq_mul, ← length_contentOf, hlength] at hlt
    exact Nat.lt_irrefl _ hlt
  · intro hfull
    have hsum := List.sum_eq_card_nsmul (blocks.map fun b => b.2.length) size
      (List.forall_mem_map.2 hfull)
    rw [length_contentOf, hsum, List.length_map, Nat.nsmul_eq_mul]

end Contents

section Runs

variable {target : Target} {base : Bytes} {blocks : List (UInt16 × Bytes)} {session : Session}
  {opening : Opening} {first host : Host} {run : Run} {deeds : List Deed}

theorem Taking.length_le (h : Taking session opening target first run host blocks deeds) :
    ∀ b ∈ blocks, b.2.length ≤ BlockSize.most := by
  induction h with
  | start => exact fun _ hb => nomatch hb
  | @step run _ _ blocks _ _ arrival _ _ ih =>
    intro b hb
    rcases List.mem_append.1 hb with hbefore | hnew
    · exact ih b hbefore
    · cases run with
      | waiting s => exact Session.length_block (Option.mem_toList.1 hnew)
      | ended => exact nomatch hnew

/-- A block that is not short is written in full, and its receiver waits for the next one. -/
theorem Run.Took.goes_on {s : Session} {arrival : Arrival} {host' : Host} {block : UInt16}
    {payload : Bytes} (h : Run.Took target base blocks (.waiting s, host, deeds))
    (hheld : target.held host' = target.held host)
    (hblock : s.block? arrival = some (block, payload))
    (hwrite : (s.stream.write host' payload).1 = none)
    (hsend : host'.sendFault host'.sends = none) (hlong : s.sizeInForce ≤ payload.length) :
    ∃ s', ((Run.waiting s).step arrival host').1 = .waiting s' ∧
      target.held ((Run.waiting s).step arrival host').2.1 = target.held host ++ payload ∧
      s'.tally.bytes = s.tally.bytes + payload.length := by
  have hwrites : (Run.waiting s).Writes arrival host' := by
    intro block' payload' hblock'
    obtain ⟨-, rfl⟩ := Prod.mk.inj (Option.some.inj (hblock.symm.trans hblock'))
    exact hwrite
  have hnext := h.step hheld hwrites
  rw [hblock, Option.toList_some] at hnext
  have hwaits : ∃ s', ((Run.waiting s).step arrival host').1 = .waiting s' := by
    have houtcome := Run.settle_outcome ((h.receives s rfl).step_block (hheld.trans h.held)
      (h.bytes _ rfl) hblock)
    change ∃ s', (Run.settle (Act.step arrival) s host').1 = .waiting s'
    generalize Run.settle (Act.step arrival) s host' = result at houtcome ⊢
    cases houtcome with
    | waits => exact ⟨_, rfl⟩
    | concludes hdone hphase =>
      rw [hdone.2.2, if_neg (Nat.not_lt.2 hlong)] at hphase
      exact nomatch hphase
    | fails hstopped | crashes hstopped =>
      obtain ⟨fault, -, ⟨hunwritten, -⟩ | ⟨-, hunsent⟩⟩ := hstopped
      · exact nomatch hwrite.symm.trans hunwritten
      · exact nomatch hsend.symm.trans hunsent
  obtain ⟨s', hrun⟩ := hwaits
  refine ⟨s', hrun, ?_, ?_⟩
  · rw [hnext.held, contentOf_append_singleton, ← List.append_assoc, ← h.held]
  · rw [hnext.bytes s'.tally (hrun ▸ rfl), contentOf_append_singleton, List.length_append,
      ← h.bytes s.tally rfl]

/-- **How full the blocks are.**  As long as a receiver waits for more, no block that it accepted is
shorter than the size in force, so that at least so many times that size were written, and exactly
so many if no block was longer.  Nothing keeps a peer from sending longer ones: up to the most that
is read of a datagram they are written like any other, and the receiver waits on. -/
theorem Taking.fills_blocks (hbegins : Begins session opening)
    (hfills : session.Fills first opening target base)
    (h : Taking session opening target first run host blocks deeds) :
    (∀ b ∈ blocks, b.2.length ≤ BlockSize.most) ∧
      ∀ s, run = .waiting s →
        (∀ b ∈ blocks, s.blockSize ≤ b.2.length) ∧
          blocks.length * s.blockSize ≤ (contentOf blocks).length ∧
          ((contentOf blocks).length = blocks.length * s.blockSize ↔
            ∀ b ∈ blocks, b.2.length = s.blockSize) ∧
          ∀ arrival host' block payload, target.held host' = target.held host →
            s.block? arrival = some (block, payload) →
            (s.stream.write host' payload).1 = none → host'.sendFault host'.sends = none →
            s.sizeInForce < payload.length →
            ∃ s', ((Run.waiting s).step arrival host').1 = .waiting s' ∧
              target.held ((Run.waiting s).step arrival host').2.1 =
                target.held host ++ payload ∧
              s'.tally.bytes = s.tally.bytes + payload.length := by
  refine ⟨h.length_le, ?_⟩
  rintro s rfl
  have htook := (h.took hbegins hfills).2.resolve_right fun h => nomatch h.2.1
  have hfull := (htook.receives s rfl).full
  refine ⟨hfull, le_length_contentOf hfull, length_contentOf_eq_iff hfull, ?_⟩
  intro arrival host' block payload hheld hblock hwrite hsend hlonger
  exact htook.goes_on hheld hblock hwrite hsend (Nat.le_of_lt hlonger)

end Runs

namespace Taking

/-- A download that asks for blocks of eight bytes, and the server that grants them. -/
def inEights : Session :=
  .client .download 40001 ⟨.v4 10 0 0 2, 69, 0⟩ (.writing .output) (.ofList [("blksize", "8")]) {}
    false 1

def askForEights : Opening := .request (.octetRequest .read "f" (.ofList [("blksize", "8")]))

def grantOfEights : Arrival :=
  .datagram server (Packet.optionAck (.ofList [("blksize", "8")])).encode

/-- Ten bytes in one block. -/
def tenBytes : Bytes := [1, 2, 3, 4, 5, 6, 7, 8, 9, 16]

def blockOfTen : Arrival := .datagram server (Packet.data 1 tenBytes).encode

/-- The download when it has asked. -/
def askedForEights : Run × Host × List Deed := Run.start inEights askForEights {}

theorem writes_grantOfEights : askedForEights.1.Writes grantOfEights askedForEights.2.1 :=
  fun _ _ hblock => nomatch hblock

/-- Ten bytes are written where blocks of eight were granted, and the download waits on. -/
theorem fills_blocks_tenBytes : ∃ s host deeds s',
    Taking inEights askForEights .output {} (.waiting s) host [] deeds ∧
      s.sizeInForce < tenBytes.length ∧
      ((Run.waiting s).step blockOfTen host).1 = .waiting s' ∧
      ((Run.waiting s).step blockOfTen host).2.1.output = tenBytes := by
  obtain ⟨s, host, deeds, htaking, hsize, hstream, hnone, hsend, hblock⟩ :
      ∃ s host deeds, Taking inEights askForEights .output {} (.waiting s) host [] deeds ∧
        s.sizeInForce = 8 ∧ s.stream = .writing .output ∧ host.output = [] ∧
        host.sendFault host.sends = none ∧ s.block? blockOfTen = some (1, tenBytes) :=
    ⟨_, _, _, .step .start grantOfEights rfl writes_grantOfEights, rfl, rfl, rfl, rfl, rfl⟩
  obtain ⟨-, hfills⟩ := fills_blocks .download (.download rfl rfl) htaking
  obtain ⟨-, -, -, hlonger⟩ := hfills s rfl
  have hlong : s.sizeInForce < tenBytes.length := hsize ▸ by decide
  obtain ⟨s', hrun, hheld, -⟩ :=
    hlonger blockOfTen host 1 tenBytes rfl hblock (hstream ▸ rfl) hsend hlong
  refine ⟨s, host, deeds, s', htaking, hlong, hrun, hheld.trans ?_⟩
  exact congrArg (· ++ tenBytes) hnone

/-- The one block that was accepted is longer than the size in force. -/
theorem overfull_tenBytes : ∃ s host deeds,
    Taking inEights askForEights .output {} (.waiting s) host [(1, tenBytes)] deeds ∧
      host.output.length = 10 ∧ s.blockSize = 8 := by
  have hwrites : (askedForEights.1.step grantOfEights askedForEights.2.1).1.Writes blockOfTen
      (askedForEights.1.step grantOfEights askedForEights.2.1).2.1 := fun _ _ _ => rfl
  have hgranted : Taking inEights askForEights .output {} _ _ _ _ :=
    .step .start grantOfEights rfl writes_grantOfEights
  exact ⟨_, _, _, .step hgranted blockOfTen rfl hwrites, rfl, rfl⟩

end Taking

end TrivialFtp
