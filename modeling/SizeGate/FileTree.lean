import SizeGate.FileSystem

/-!
File systems kept in memory: a tree of named files, directories, links, pipes and devices.

A path is walked one name at a time from the root or the working directory. Links are followed
wherever they stand, at most forty in one walk; a name after something that is no directory is
refused, also when it is `.`, `..` or empty.
-/

namespace SizeGate

inductive Node where
  | file (bytes : Bytes)
  /-- A regular file of zero bytes only, however many. -/
  | zeros (count : Nat)
  | directory (entries : List (Bytes × Node))
  | link (target : Bytes)
  /-- A pipe that nobody writes to, so that reading it would never end. -/
  | pipe
  /-- A device that is empty when read. -/
  | device

namespace Node

def child? (node : Node) (name : Bytes) : Option Node :=
  match node with
  | .directory entries => entries.lookup name
  | _ => none

/-- Puts a node under a name of a directory, or takes the name out. -/
def setChild (node : Node) (name : Bytes) (new : Option Node) : Node :=
  match node with
  | .directory entries =>
    let others := entries.filter fun entry => entry.1 ≠ name
    .directory (match new with
      | some child => (name, child) :: others
      | none => others)
  | other => other

def at? (node : Node) : List Bytes → Option Node
  | [] => some node
  | name :: rest => (node.child? name).bind fun child => child.at? rest

def modify (node : Node) (change : Node → Node) : List Bytes → Node
  | [] => change node
  | name :: rest =>
    match node.child? name with
    | some child => node.setChild name (some (child.modify change rest))
    | none => node

end Node

/-- A file tree and a working directory in it, given by the names that lead there. -/
structure FileTree where
  root : Node
  home : List Bytes

namespace FileTree

def nameLimit : Nat := 255

/-- Paths of this many bytes and more are refused. -/
def pathLimit : Nat := 4096

/-- How many links one walk may follow. -/
def linkLimit : Nat := 40

/-- Walks `steps` from the directory that the names `place` lead to, with so many links left to
follow, and gives the names that lead to what it reaches. -/
def walk (root : Node) (links : Nat) (place : List Bytes) (steps : List Bytes) :
    Except IoError (List Bytes) :=
  match steps with
  | [] => .ok place
  | name :: rest =>
    match root.at? place with
    | some (.directory entries) =>
      if name = [] ∨ name = [Path.dot] then walk root links place rest
      else if name = [Path.dot, Path.dot] then walk root links place.dropLast rest
      else if nameLimit < name.length then .error .nameTooLong
      else match entries.lookup name with
        | none => .error .notFound
        | some (.link target) =>
          match links with
          | 0 => .error .tooManyLinks
          | left + 1 =>
            let origin := if (Path.mk target).isAbsolute then [] else place
            walk root left origin (Path.segments target ++ rest)
        | some _ => walk root links (place ++ [name]) rest
    | some _ => .error .notADirectory
    | none => .error .notFound
termination_by (links, steps.length)

def locate (tree : FileTree) (path : Path) : Except IoError (List Bytes) :=
  if 0 ∈ path.bytes then .error .nullInName
  else if path.bytes = [] then .error .notFound
  else if pathLimit ≤ path.bytes.length then .error .nameTooLong
  else walk tree.root linkLimit (if path.isAbsolute then [] else tree.home)
    (Path.segments path.bytes)

def find (tree : FileTree) (path : Path) : Except IoError Node :=
  match tree.locate path with
  | .error e => .error e
  | .ok place =>
    match tree.root.at? place with
    | some node => .ok node
    | none => .error .notFound

def statusOf : Node → FileStatus
  | .file bytes => ⟨.regular, UInt64.ofNat bytes.length⟩
  | .zeros count => ⟨.regular, UInt64.ofNat count⟩
  | .directory _ => ⟨.directory, 4096⟩
  | .link _ => ⟨.special, 0⟩
  | .pipe => ⟨.special, 0⟩
  | .device => ⟨.special, 0⟩

def contentsOf : Node → Except IoError Bytes
  | .file bytes => .ok bytes
  | .zeros count => .ok (List.replicate count 0)
  | .directory _ => .error .isADirectory
  | .link _ | .pipe | .device => .ok []

/-- The tree as a file system. Everything in it can be opened. -/
def fileSystem (tree : FileTree) : FileSystem where
  status path := (tree.find path).map statusOf
  opening path := (tree.find path).map fun _ => ()
  contents path := match tree.find path with
    | .ok node => contentsOf node
    | .error e => .error e

def absolute (place : List Bytes) : Path :=
  if place = [] then ⟨[Path.slash]⟩ else ⟨place.flatMap fun name => Path.slash :: name⟩

/-- Makes the directories that `steps` need from `place` on and gives the names that lead to the
last of them. Links on the way are followed if they lead somewhere. -/
def makeDirectories (root : Node) (place : List Bytes) : List Bytes → Node × List Bytes
  | [] => (root, place)
  | name :: rest =>
    match walk root linkLimit place [name] with
    | .ok next => makeDirectories root next rest
    | .error _ =>
      let added := root.modify (fun node => node.setChild name (some (.directory []))) place
      makeDirectories added (place ++ [name]) rest

/-- The directory a path starts from, and the steps it takes from there. -/
def route (tree : FileTree) (path : Path) : List Bytes × List Bytes :=
  (if path.isAbsolute then [] else tree.home, (Path.segments path.bytes).filter (· ≠ []))

def mkdir (tree : FileTree) (path : Path) : FileTree :=
  let (origin, steps) := tree.route path
  { tree with root := (makeDirectories tree.root origin steps).1 }

/-- Puts a node at `steps` from `place`, making the directories before it. Unless `replace` is set,
a link that stands there is followed, and what it leads to is written. -/
def putFrom (replace : Bool) (new : Option Node) (root : Node) (links : Nat)
    (place steps : List Bytes) : Node :=
  let (made, directory) := makeDirectories root place steps.dropLast
  let name := steps.getLast?.getD []
  match links, replace, (made.at? directory).bind (·.child? name) with
  | left + 1, false, some (.link target) =>
    let origin := if (Path.mk target).isAbsolute then [] else directory
    putFrom replace new made left origin ((Path.segments target).filter (· ≠ []))
  | _, _, _ => made.modify (fun node => node.setChild name new) directory

/-- The tree with a file written at the path. A link at its end is followed. -/
def write (tree : FileTree) (path : Path) (file : Node) : FileTree :=
  let (origin, steps) := tree.route path
  { tree with root := putFrom false (some file) tree.root linkLimit origin steps }

/-- The tree with a new link, pipe or device at the path itself. -/
def place (tree : FileTree) (path : Path) (node : Node) : FileTree :=
  let (origin, steps) := tree.route path
  { tree with root := putFrom true (some node) tree.root linkLimit origin steps }

def remove (tree : FileTree) (path : Path) : FileTree :=
  let (origin, steps) := tree.route path
  { tree with root := putFrom true none tree.root linkLimit origin steps }

end FileTree

end SizeGate
