import KernelLink.Bytes
import KernelLink.Failure

namespace KernelLink

/-- A path as it is written. -/
abbrev Path := String

/-- A path beneath another; an absolute one replaces it. -/
def Path.join (base child : Path) : Path :=
  if child.startsWith "/" then child
  else if base = "" ∨ base.endsWith "/" then base ++ child
  else base ++ "/" ++ child

/-- What stands at a place in a file system. -/
inductive Node where
  | file (content : Bytes)
  | directory
  deriving DecidableEq, Repr

/-- What stands in the way of those who write and remove files. -/
structure Obstacles where
  /-- Why no file can be made or emptied. -/
  create : Option SystemFault
  /-- After how many octets writing breaks off, and why. -/
  write : Option (Nat × SystemFault)
  /-- Why no file can be removed. -/
  remove : Option SystemFault
  deriving DecidableEq, Repr

/-- A file system: the nodes beneath its root, each by the names that lead to it, in the order in
which they were made. -/
structure FileTree where
  nodes : List (List String × Node)
  /-- The working directory, where relative paths begin. -/
  home : List String
  obstacles : Obstacles
  deriving Repr

/-- Where writing so much breaks off, if it does. -/
def Obstacles.breakOff? (o : Obstacles) (content : Bytes) : Option (Nat × SystemFault) :=
  o.write.filter fun (room, _) => room < content.length

namespace FileTree

/-- A tree without nodes, in which everything can be done. -/
def empty : FileTree := ⟨[], [], ⟨none, none, none⟩⟩

/-- What stands at a place; the root is a directory. -/
def node? (t : FileTree) (place : List String) : Option Node :=
  if place = [] then some .directory else t.nodes.lookup place

/-- The place that some names lead to from another. All but the last have to be directories. -/
def walk (t : FileTree) (here : List String) : List String → Except SystemFault (List String)
  | [] => .ok here
  | name :: names =>
    match t.node? here with
    | none => .error .notFound
    | some (.file _) => .error .notDirectory
    | some .directory =>
      if name = "" ∨ name = "." then walk t here names
      else if name = ".." then walk t here.dropLast names
      else walk t (here ++ [name]) names

/-- The place that a path names. The empty path names none. -/
def locate (t : FileTree) (p : Path) : Except SystemFault (List String) :=
  if p = "" then .error .notFound
  else t.walk (if p.startsWith "/" then [] else t.home) (p.splitOn "/")

/-- What stands where a path leads. -/
def status (t : FileTree) (p : Path) : Except SystemFault Node := do
  let place ← t.locate p
  match t.node? place with
  | some node => .ok node
  | none => .error .notFound

def hasNode (t : FileTree) (p : Path) : Bool := (t.status p).isOk

def isFile (t : FileTree) (p : Path) : Bool :=
  match t.status p with
  | .ok (.file _) => true
  | _ => false

/-- The content of a file. -/
def read (t : FileTree) (p : Path) : Except SystemFault Bytes := do
  match ← t.status p with
  | .file content => .ok content
  | .directory => .error .isDirectory

/-- The names in a directory. -/
def list? (t : FileTree) (p : Path) : Option (List String) :=
  match t.locate p with
  | .error _ => none
  | .ok place =>
    match t.node? place with
    | some .directory => some (t.nodes.filterMap fun (other, _) =>
        if other.dropLast = place then other.getLast? else none)
    | _ => none

/-- Puts a node at a place, in the stead of one that is there. -/
def put (t : FileTree) (place : List String) (node : Node) : FileTree :=
  if (t.nodes.lookup place).isSome then
    { t with
      nodes := t.nodes.map fun (other, old) => if other = place then (other, node) else (other, old) }
  else { t with nodes := t.nodes ++ [(place, node)] }

def erase (t : FileTree) (place : List String) : FileTree :=
  { t with nodes := t.nodes.filter fun (other, _) => other ≠ place }

/-- Opens a file that is to be written anew: makes it, or empties the one that is there. The answer
is its place. -/
def create (t : FileTree) (p : Path) : Except SystemFault (List String × FileTree) := do
  let place ← t.locate p
  match t.node? place, t.obstacles.create with
  | some .directory, _ => .error .isDirectory
  | _, some fault => .error fault
  | _, none => .ok (place, t.put place (.file []))

/-- Writes to an open file behind what it holds. If that breaks off, what has been written stays. -/
def fill (t : FileTree) (place : List String) (old content : Bytes) :
    Except SystemFault Unit × FileTree :=
  match t.obstacles.breakOff? content with
  | some (room, fault) => (.error fault, t.put place (.file (old ++ content.take room)))
  | none => (.ok (), t.put place (.file (old ++ content)))

/-- Opens a file that is to be written on: finds it, or makes one. The answer is its place, and what
it holds. -/
def reopen (t : FileTree) (p : Path) : Except SystemFault (List String × Bytes × FileTree) :=
  match t.read p with
  | .ok old => (t.locate p).map fun place => (place, old, t)
  | .error .notFound => (t.create p).map fun (place, t) => (place, [], t)
  | .error fault => .error fault

/-- Adds to the end of a file, or makes one. -/
def extend (t : FileTree) (p : Path) (content : Bytes) : Except SystemFault Unit × FileTree :=
  match t.reopen p with
  | .error fault => (.error fault, t)
  | .ok (place, old, t) => t.fill place old content

/-- The tree with more at the end of a file, if all of it can be added. -/
def append (t : FileTree) (p : Path) (content : Bytes) : Except SystemFault FileTree :=
  match t.extend p content with
  | (.ok (), t) => .ok t
  | (.error fault, _) => .error fault

/-- Removes a file. -/
def remove (t : FileTree) (p : Path) : Except SystemFault FileTree := do
  let place ← t.locate p
  match t.node? place, t.obstacles.remove with
  | none, _ => .error .notFound
  | some .directory, _ => .error .isDirectory
  | some (.file _), some fault => .error fault
  | some (.file _), none => .ok (t.erase place)

/-- Makes the directories that some names lead through. -/
def makeDirectories (t : FileTree) (place : List String) : FileTree :=
  (List.range (place.length + 1)).foldl
    (fun t n => if (t.node? (place.take n)).isSome then t else t.put (place.take n) .directory) t

/-- The names along an absolute path. -/
def names (p : Path) : List String := (p.splitOn "/").filter fun name => name ≠ "" ∧ name ≠ "."

/-- The tree with one more directory, and with those above it. -/
def addDirectory (t : FileTree) (p : Path) : FileTree := t.makeDirectories (names p)

/-- The tree with one more file, and with the directories above it. -/
def addFile (t : FileTree) (p : Path) (content : Bytes) : FileTree :=
  let place := names p
  (t.makeDirectories place.dropLast).put place (.file content)

end FileTree
end KernelLink
