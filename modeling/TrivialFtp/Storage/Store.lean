import TrivialFtp.Storage.Node
import TrivialFtp.Storage.Path

/-!
# Stores

Files by their paths.

- `find?_set`: setting a path changes what is found there and nowhere else.
-/

namespace TrivialFtp

/-- Files and directories by their paths. -/
structure Store where
  nodes : List (String × Node) := []
  deriving DecidableEq, Repr

namespace Store

/-- The node paired with a path. -/
def findIn (path : String) : List (String × Node) → Option Node
  | [] => none
  | e :: rest => if path = e.1 then some e.2 else findIn path rest

/-- What a path stands for. -/
def find? (store : Store) (path : String) : Option Node := findIn path store.nodes

/-- Put a node at a path, in place of the one that is there. -/
def setIn (path : String) (node : Node) : List (String × Node) → List (String × Node)
  | [] => [(path, node)]
  | e :: rest => if path = e.1 then (path, node) :: rest else e :: setIn path node rest

/-- The store in which a path stands for a node. -/
def set (store : Store) (path : String) (node : Node) : Store := ⟨setIn path node store.nodes⟩

/-- The node at a path, for someone who asks after it. -/
def look (store : Store) (path : String) : Except Fault Node :=
  match Path.fault? path with
  | some f => .error f
  | none =>
    match store.find? path with
    | none => .error .noSuchFile
    | some node =>
      match node.fault with
      | some f => .error f
      | none => .ok node

/-- The node at a path, for someone who opens it to read. -/
def openNode (store : Store) (path : String) : Except Fault Node := do
  let node ← store.look path
  match node.openFault with
  | some f => .error f
  | none => .ok node

/-- Make a path an empty file.  What is known of a file that was there stays, but for its bytes. -/
def create (store : Store) (path : String) : Except Fault Store :=
  match Path.fault? path with
  | some f => .error f
  | none =>
    match store.find? path with
    | none => .ok (store.set path {})
    | some _ => do
      let node ← store.openNode path
      if node.isDirectory then .error .isDirectory
      else .ok (store.set path { node with content := [] })

/-- Write at the end of the file at a path. -/
def append (store : Store) (path : String) (bytes : Bytes) : Option Fault × Store :=
  let (f, node) := ((store.find? path).getD {}).append bytes
  (f, store.set path node)

theorem findIn_setIn (path other : String) (node : Node) (nodes : List (String × Node)) :
    findIn other (setIn path node nodes) =
      if other = path then some node else findIn other nodes := by
  induction nodes with
  | nil => simp [setIn, findIn]
  | cons e rest ih =>
    by_cases he : path = e.1
    · by_cases h : other = path <;> simp_all [setIn, findIn]
    · by_cases h : other = e.1
      · have : ¬ e.1 = path := fun k => he k.symm
        simp [setIn, findIn, he, h, this]
      · simp [setIn, findIn, he, h, ih]

theorem find?_set (store : Store) (path other : String) (node : Node) :
    (store.set path node).find? other = if other = path then some node else store.find? other :=
  findIn_setIn path other node store.nodes

end Store

end TrivialFtp
