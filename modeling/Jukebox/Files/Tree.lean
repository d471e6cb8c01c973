import Jukebox.Files.Basic

/-!
# A tree of files

A file system held in memory: the files and directories by their absolute paths. Looking a path up
walks from directory to directory, so every one on the way has to be there, also in front of `..`.
-/

namespace Jukebox.Files

/-- What is at a path. -/
inductive Node
  | directory
  | file (bytes : List UInt8)
  deriving Repr, DecidableEq

/-- The name of a file or directory within its directory. -/
abbrev Name := List UInt8

/-- An absolute path: the names from the root on. -/
abbrev Place := List Name

/-- The name of a directory inside itself. -/
def dot : Name := [0x2e]

/-- The files and directories below the root, and the directory that relative paths start from. -/
structure Tree where
  nodes : List (Place × Node) := []
  current : Place := []
  deriving Repr

/-- The names in a path, without the empty ones. One that ends in a slash ends in a dot here, as
only a directory can be there. -/
def names (path : Path) : List Name :=
  let parts := path.bytes.splitOnP (· = Path.slash)
  let ending := if 1 < parts.length ∧ parts.getLast? = some [] then [dot] else []
  (parts.filter (!·.isEmpty)) ++ ending

namespace Tree

/-- What is at an absolute path. -/
def node? (t : Tree) (place : Place) : Option Node :=
  if place.isEmpty then some .directory else t.nodes.lookup place

/-- Puts something at an absolute path, with the directories on the way. -/
def insert (t : Tree) (place : Place) (node : Node) : Tree :=
  let parents := (List.range place.length).map fun n => (place.take n, Node.directory)
  { t with nodes := t.nodes ++ (parents.filter fun p => (t.node? p.1).isNone) ++ [(place, node)] }

/-- Follows names from a place. -/
def walk (t : Tree) : List Name → Place → Except FileError (Place × Node)
  | [], place =>
    match t.node? place with
    | some node => .ok (place, node)
    | none => .error (.system .noSuchFile)
  | name :: rest, place =>
    match t.node? place with
    | none => .error (.system .noSuchFile)
    | some (.file _) => .error (.system .notADirectory)
    | some .directory =>
      if name = dot then walk t rest place
      else if name = dot ++ dot then walk t rest place.dropLast
      else if 255 < name.length then .error (.system .nameTooLong)
      else walk t rest (place ++ [name])

/-- What a path leads to. -/
def find (t : Tree) (path : Path) : Except FileError Node :=
  if path.bytes.contains 0 then .error .nulByte
  else if path.bytes.isEmpty then .error (.system .noSuchFile)
  else if 4095 < path.bytes.length then .error (.system .nameTooLong)
  else
    let start := if path.bytes.head? = some Path.slash then [] else t.current
    (t.walk (names path) start).map Prod.snd

/-- The file system of a tree. -/
def toFiles (t : Tree) : Files where
  present path :=
    match t.find path with
    | .ok _ => true
    | .error _ => false
  bytes path :=
    match t.find path with
    | .error e => .error e
    | .ok .directory => .error (.system .isADirectory)
    | .ok (.file bytes) => .ok bytes

end Tree

end Jukebox.Files
