import TrivialFtp.Bytes
import TrivialFtp.Fault

/-!
# Nodes

What a path, the standard input or a generated file stands for: bytes, and the faults one meets
when handling them.

- `read_length_le`: one read gives no more bytes than it was asked for.
- `read_append_drop`: what one read gives is the beginning of the node, and the rest is left.
-/

namespace TrivialFtp

/-- What can go wrong while a program handles bytes: a fault it is told of, or its own end. -/
inductive Mishap where
  | fault (f : Fault)
  | crash
  deriving DecidableEq, Repr

/-- A file or a directory. -/
structure Node where
  content : Bytes := []
  isDirectory : Bool := false
  /-- Met by whoever asks after the node, opens it or creates it anew. -/
  fault : Option Fault := none
  /-- Met by whoever opens the node or creates it anew. -/
  openFault : Option Fault := none
  /-- The most bytes that one read gives. -/
  chunk : Option Nat := none
  /-- The most bytes that each of the next reads gives, one after the other, in place of a chunk. -/
  pieces : List {n : Nat // 0 < n} := []
  /-- A fault met by the read that starts so many bytes further on; no read goes beyond it. -/
  readFault : Option (Nat × Fault) := none
  /-- How many bytes further on reading ends the program; no read goes beyond that. -/
  readCrash : Option Nat := none
  /-- The most bytes the node holds, and the fault met by a write that needs more room. -/
  capacity : Option (Nat × Fault) := none
  /-- Met when what was written is flushed. -/
  flushFault : Option Fault := none
  /-- Met when the node is closed after it was written and flushed. -/
  closeFault : Option Fault := none
  deriving DecidableEq, Repr

namespace Node

/-- The node has bytes of its own and no files in it. -/
def isFile (node : Node) : Bool := !node.isDirectory

/-- What is left of a node when one read has given its first `n` bytes. -/
def drop (node : Node) (n : Nat) : Node :=
  { node with
    content := node.content.drop n
    pieces := node.pieces.tail
    readFault := node.readFault.map fun (distance, f) => (distance - n, f)
    readCrash := node.readCrash.map (· - n) }

/-- The most bytes that the next read gives: a piece if there is one, and a chunk otherwise. -/
def limit (node : Node) : Option Nat := (node.pieces.head?.map Subtype.val).or node.chunk

/-- The most bytes that one read of up to `most` bytes gives: no more than the limit, and none from
beyond a fault or a crash. -/
def span (node : Node) (most : Nat) : Nat :=
  within node.limit (within (node.readFault.map Prod.fst) (within node.readCrash most))
where
  /-- A number brought down to a limit. -/
  within (limit : Option Nat) (n : Nat) : Nat := limit.elim n (min n)

/-- One read of up to `most` bytes.  No bytes are given at the end only, unless the node gives
none at all.  Where a fault and a crash stand at one place, the fault is met. -/
def read (node : Node) (most : Nat) : Except Mishap Bytes :=
  match node.readFault, node.readCrash with
  | some (0, f), _ => .error (.fault f)
  | _, some 0 => .error .crash
  | _, _ => .ok (node.content.take (node.span most))

/-- Read on until `most` bytes are there or a read gives none, and return also what is left.
Bytes read before a failure are gone. -/
def fill (node : Node) (most : Nat) : Except Mishap Bytes × Node := go most node most
where
  /-- At most so many reads, which is enough when each but the last gives a byte. -/
  go : (reads : Nat) → (node : Node) → (most : Nat) → Except Mishap Bytes × Node
  | 0, node, _ | _, node, 0 => (.ok [], node)
  | reads + 1, node, most@(_ + 1) =>
    match node.read most with
    | .error m => (.error m, node)
    | .ok [] => (.ok [], node)
    | .ok bytes =>
      let (more, rest) := go reads (node.drop bytes.length) (most - bytes.length)
      (more.map (bytes ++ ·), rest)

/-- Write at the end.  A write that needs more room than there is stores what fits. -/
def append (node : Node) (bytes : Bytes) : Option Fault × Node :=
  match node.capacity with
  | some (most, f) =>
    let room := most - node.content.length
    if bytes.length ≤ room then (none, { node with content := node.content ++ bytes })
    else (some f, { node with content := node.content ++ bytes.take room })
  | none => (none, { node with content := node.content ++ bytes })

theorem within_le (limit : Option Nat) (n : Nat) : span.within limit n ≤ n := by
  cases limit with
  | none => exact Nat.le_refl n
  | some l => exact Nat.min_le_left n l

theorem span_le (node : Node) (most : Nat) : node.span most ≤ most :=
  Nat.le_trans (within_le _ _) (Nat.le_trans (within_le _ _) (within_le _ _))

theorem read_eq_take {node : Node} {most : Nat} {bytes : Bytes} (h : node.read most = .ok bytes) :
    bytes = node.content.take (node.span most) := by
  unfold read at h
  split at h
  · exact nomatch h
  · exact nomatch h
  · exact (Except.ok.inj h).symm

theorem read_length_le {node : Node} {most : Nat} {bytes : Bytes}
    (h : node.read most = .ok bytes) : bytes.length ≤ most := by
  have := node.span_le most
  rw [read_eq_take h, List.length_take]
  omega

theorem read_append_drop {node : Node} {most : Nat} {bytes : Bytes}
    (h : node.read most = .ok bytes) :
    bytes ++ (node.drop bytes.length).content = node.content := by
  have := List.take_append_drop bytes.length node.content
  rwa [show node.content.take bytes.length = bytes by
    rw [read_eq_take h, List.length_take, ← List.take_eq_take_min]] at this

end Node

end TrivialFtp
