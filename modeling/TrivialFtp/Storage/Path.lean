import TrivialFtp.Fault
import TrivialFtp.Text.Utf8

/-!
# Paths

Names of files.  Parts are separated by `/`, and two paths are the same only if their texts are.
-/

namespace TrivialFtp.Path

/-- The parts between the slashes of a path. -/
def parts (path : String) : List (List Char) := go [] path.toList
where
  /-- The parts of a path of which `begun`, last character first, is already read. -/
  go (begun : List Char) : List Char → List (List Char)
    | [] => [begun.reverse]
    | '/' :: rest => begun.reverse :: go [] rest
    | c :: rest => go (c :: begun) rest

/-- The longest part a path may have, in bytes. -/
def longestPart : Nat := 255

/-- What keeps a path from naming any file. -/
def fault? (path : String) : Option Fault :=
  if path.toList.contains '\x00' then some .nulInName
  else if (parts path).any fun p => longestPart < (Utf8.encode (.ofList p)).length then
    some .nameTooLong
  else none

/-- The path of a name taken from a directory; a name that starts at the root stays as it is. -/
def join (directory name : String) : String :=
  if name.toList.head? = some '/' then name
  else if directory.isEmpty ∨ directory.toList.getLast? = some '/' then directory ++ name
  else directory ++ "/" ++ name

/-- The last part of a path, if it names a file there: empty parts and `.` are passed over, and
`..` names none. -/
def fileName? (path : String) : Option String :=
  match ((parts path).filter fun p => p ≠ [] ∧ p ≠ ['.']).getLast? with
  | some ['.', '.'] => none
  | last => last.map .ofList

end TrivialFtp.Path
