import SessionKit.Bytes
import SessionKit.Files
import SessionKit.Files.Path

/-!
# File trees

Files and directories held in memory, which answer file requests as a file system does. A relative
path starts at the working directory.
-/

namespace SessionKit.Files

inductive Node where
  | directory
  | file (content : Bytes)
  deriving DecidableEq, Repr

structure Tree where
  /-- What there is besides the root, by the steps that lead there. -/
  nodes : List (List String × Node) := []
  workingDirectory : List String := []
  deriving DecidableEq, Repr

namespace Tree

def node? (t : Tree) (place : List String) : Option Node :=
  if place = [] then some .directory
  else (t.nodes.find? fun n => n.1 = place).map Prod.snd

/-- Puts a node at a place, instead of what is there. -/
def put (t : Tree) (place : List String) (node : Node) : Tree :=
  { t with nodes := t.nodes.filter (fun n => n.1 ≠ place) ++ [(place, node)] }

/-! ## Where paths lead -/

/-- The most bytes that a path may have. -/
def maxPathBytes : Nat := 4095

/-- The most bytes that a name may have. -/
def maxNameBytes : Nat := 255

/-- What is at a name in a directory. -/
def entry (t : Tree) (above : List String) (name : String) : Except Error (Option Node) :=
  if maxNameBytes < name.utf8ByteSize then .error .nameTooLong else .ok (t.node? (above ++ [name]))

/-- From a directory into the one of a name, where one dot stays and two lead up. -/
def enter (t : Tree) (place : List String) (name : String) : Except Error (List String) :=
  if name = "." then .ok place
  else if name = ".." then .ok place.dropLast
  else do
    match ← t.entry place name with
    | none => throw .notFound
    | some (.file _) => throw .notDirectory
    | some .directory => return place ++ [name]

/-- What a path leads to when every name but the last has been followed. -/
inductive Target where
  /-- A directory that is there. -/
  | directory (place : List String)
  /-- A name in a directory, with which something may be. `closed` tells that a slash follows. -/
  | named (above : List String) (name : String) (closed : Bool)
  deriving DecidableEq, Repr

/-- Follows a path up to its last name. Every name before it must be a directory's. -/
def target (t : Tree) (path : String) : Except Error Target := do
  if path.toList.contains '\x00' then throw .unusablePath
  if path.isEmpty then throw .notFound
  if maxPathBytes < path.utf8ByteSize then throw .nameTooLong
  let start := if Path.isAbsolute path then [] else t.workingDirectory
  match (Path.names path).getLast? with
  | none => return .directory start
  | some last =>
    let place ← (Path.names path).dropLast.foldlM t.enter start
    if last = "." then return .directory place
    else if last = ".." then return .directory place.dropLast
    else return .named place last (Path.endsInSlash path)

/-- A path that ends in a slash does not lead to a file. -/
def find (t : Tree) (path : String) : Except Error Node := do
  match ← t.target path with
  | .directory _ => return .directory
  | .named above name closed =>
    match ← t.entry above name with
    | none => throw .notFound
    | some (.file content) => if closed then throw .notDirectory else return .file content
    | some .directory => return .directory

/-! ## Requests -/

def isFile (t : Tree) (path : String) : Bool :=
  match t.find path with
  | .ok (.file _) => true
  | _ => false

def isDirectory (t : Tree) (path : String) : Bool :=
  match t.find path with
  | .ok .directory => true
  | _ => false

def isPresent (t : Tree) (path : String) : Bool := (t.find path).toOption.isSome

def read (t : Tree) (path : String) : Except Error String := do
  match ← t.find path with
  | .directory => throw .isDirectory
  | .file content =>
    match String.fromUTF8? ⟨content.toArray⟩ with
    | some text => return text
    | none => throw .notText

/-- Makes one directory in one that is there. -/
def makeOne (t : Tree) (path : String) : Except Error Tree := do
  match ← t.target path with
  | .directory _ => throw .alreadyExists
  | .named above name _ =>
    match ← t.entry above name with
    | some _ => throw .alreadyExists
    | none => return t.put (above ++ [name]) .directory

/-- Makes a directory; when the one above it is missing, that one first, at most `levels` times. -/
def makeDirectory (t : Tree) : (levels : Nat) → (path : String) → Except Error Unit × Tree
  | levels, path =>
    if path.isEmpty then (.ok (), t)
    else match t.makeOne path, levels, Path.parent? path with
      | .ok made, _, _ => (.ok (), made)
      | .error .notFound, levels + 1, some above =>
        match makeDirectory t levels above with
        | (.error e, made) => (.error e, made)
        | (.ok (), made) =>
          match made.makeOne path with
          | .ok all => (.ok (), all)
          | .error e => if made.isDirectory path then (.ok (), made) else (.error e, made)
      | .error e, _, _ => if t.isDirectory path then (.ok (), t) else (.error e, t)

/-- Replaces what a file holds by something that depends on it; a missing file is made. A slash
at the end of the path asks for a directory, even where there is none. -/
def change (t : Tree) (path : String) (content : Bytes → Bytes) : Except Error Tree := do
  match ← t.target path with
  | .directory _ => throw .isDirectory
  | .named above name closed =>
    if closed then throw .isDirectory
    match ← t.entry above name with
    | some .directory => throw .isDirectory
    | some (.file old) => return t.put (above ++ [name]) (.file (content old))
    | none => return t.put (above ++ [name]) (.file (content []))

def write (t : Tree) (path text : String) : Except Error Tree :=
  t.change path fun _ => Bytes.ofText text

def append (t : Tree) (path text : String) : Except Error Tree :=
  t.change path (· ++ Bytes.ofText text)

/-- The answer to a change: the tree stays as it is when the change is refused. -/
def settle (t : Tree) : Except Error Tree → Except Error Unit × Tree
  | .ok changed => (.ok (), changed)
  | .error e => (.error e, t)

/-- Answers a file request. -/
def answer : (r : Request) → Tree → Answer r × Tree
  | .isFile path, t => (t.isFile path, t)
  | .present path, t => (t.isPresent path, t)
  | .read path, t => (t.read path, t)
  | .makeDirectory path, t => t.makeDirectory path.length path
  | .write path text, t => t.settle (t.write path text)
  | .append path text, t => t.settle (t.append path text)

/-- The files, by their paths from the root. -/
def files (t : Tree) : List (List String) :=
  t.nodes.filterMap fun (place, node) =>
    match node with
    | .file _ => some place
    | .directory => none

/-- Puts a node with the directories above it. -/
def plant (t : Tree) (place : List String) (node : Node) : Tree :=
  let above := (List.range place.length).map place.take
  let grown := above.foldl (fun t p =>
    if (t.node? p).isSome then t else t.put p .directory) t
  grown.put place node

end Tree
end SessionKit.Files
