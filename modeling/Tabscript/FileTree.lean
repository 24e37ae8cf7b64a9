import Tabscript.Path
import Tabscript.Plan

/-!
Files and folders as a value. A tree says what stands at each location, which is the list of names from the root down;
the root itself is always a folder. Paths are followed from the root or from a working folder, piece by piece: a dot
stays, two dots go up, and a name goes down to what has to be there. There are no links, so every location has one
absolute path.
-/
namespace Tabscript

/-- What stands at a location. -/
inductive Node where
  | folder
  | file (content : List UInt8)
  deriving DecidableEq, Repr

/-- The names from the root down. -/
abbrev Location := List String

/-- Files and folders. -/
structure FileTree where
  nodes : List (Location × Node)
  deriving DecidableEq, Repr

namespace FileTree

def empty : FileTree :=
  ⟨[]⟩

/-- What stands at a location. -/
def get? (t : FileTree) (l : Location) : Option Node :=
  if l = [] then some .folder else t.nodes.lookup l

def isFolder (t : FileTree) (l : Location) : Bool :=
  t.get? l == some .folder

/-- The tree with a node put at a location. -/
def put (t : FileTree) (l : Location) (node : Node) : FileTree :=
  ⟨(l, node) :: t.nodes.filter fun (k, _) => k != l⟩

/-- The tree with a node at a location where nothing stands yet. -/
def add (t : FileTree) (l : Location) (node : Node) : FileTree :=
  ⟨(l, node) :: t.nodes⟩

/-- The tree without a location and all below it. -/
def prune (t : FileTree) (l : Location) : FileTree :=
  ⟨t.nodes.filter fun (k, _) => !l.isPrefixOf k⟩

/-- What is below a location, by the names from there on. -/
def below (t : FileTree) (l : Location) : List (Location × Node) :=
  t.nodes.filterMap fun (k, node) =>
    if l.isPrefixOf k && l.length < k.length then some (k.drop l.length, node) else none

/-- Whether a name is longer than a folder can hold. -/
def tooLong (name : String) : Bool :=
  255 < name.utf8ByteSize

/-- What is at and below an entry of a folder, given what is below the folder. -/
def enter (name : String) (view : List (Location × Node)) : List (Location × Node) :=
  view.filterMap fun (k, node) => match k with
    | [] => none
    | first :: rest => if first = name then some (rest, node) else none

/-- Follows pieces from a folder to something that is there; `view` is what is below the folder. -/
def walk (t : FileTree) (l : Location) (view : List (Location × Node)) : List String → Except IoFault Location
  | [] => .ok l
  | piece :: more =>
    if piece = "." then walk t l view more
    else if piece = ".." then walk t l.dropLast (t.below l.dropLast) more
    else if tooLong piece then .error .nameTooLong
    else
      let inner := enter piece view
      match inner.lookup [] with
      | none => .error .notFound
      | some .folder => walk t (l ++ [piece]) inner more
      | some (.file _) => if more.isEmpty then .ok (l ++ [piece]) else .error .notDirectory

def follow (t : FileTree) (l : Location) (ps : List String) : Except IoFault Location :=
  walk t l (t.below l) ps

/-- Follows pieces to a folder. -/
def followFolder (t : FileTree) (l : Location) (ps : List String) : Except IoFault Location :=
  follow t l (ps ++ ["."])

/-- Where a path starts. -/
def start (cwd : Location) (path : String) : Location :=
  if Path.isAbsolute path then [] else cwd

def hasNul (path : String) : Bool :=
  path.toList.contains '\x00'

/-- Whether a path is longer than a host takes. -/
def pathTooLong (path : String) : Bool :=
  4095 < path.utf8ByteSize

/-- The pieces to follow for a path; a slash at its end asks for a folder. -/
def steps (path : String) : List String :=
  if Path.endsInSlash path then Path.pieces path ++ ["."] else Path.pieces path

/-- The location of what is at a path. -/
def locate (t : FileTree) (cwd : Location) (path : String) : Except IoFault Location :=
  if hasNul path then .error .badPath
  else if path.isEmpty then .error .notFound
  else if pathTooLong path then .error .nameTooLong
  else t.follow (start cwd path) (steps path)

/-- A location as an absolute path. -/
def absolute (l : Location) : String :=
  "/" ++ String.intercalate "/" l

def resolve (t : FileTree) (cwd : Location) (path : String) : Except IoFault String :=
  match t.locate cwd path with
  | .error e => .error e
  | .ok l => if pathTooLong (absolute l) then .error .nameTooLong else .ok (absolute l)

def isPresent (t : FileTree) (cwd : Location) (path : String) : Bool :=
  match t.locate cwd path with
  | .ok _ => true
  | .error _ => false

/-- The content of the file at a path. -/
def readFile (t : FileTree) (cwd : Location) (path : String) : Except IoFault (List UInt8) :=
  match t.locate cwd path with
  | .error e => .error e
  | .ok l =>
    match t.get? l with
    | some (.file content) => .ok content
    | _ => .error .isDirectory

/-- Puts content into the file at a path, whose folder has to be there. -/
def writeFile (t : FileTree) (cwd : Location) (path : String) (content : List UInt8) :
    Except IoFault Unit × FileTree :=
  if hasNul path then (.error .badPath, t)
  else if path.isEmpty then (.error .notFound, t)
  else if pathTooLong path then (.error .nameTooLong, t)
  else
    let ps := Path.pieces path
    match ps.getLast? with
    | none => (.error .isDirectory, t)
    | some name =>
      match t.followFolder (start cwd path) ps.dropLast with
      | .error e => (.error e, t)
      | .ok l =>
        if name = "." || name = ".." then (.error .isDirectory, t)
        else if tooLong name then (.error .nameTooLong, t)
        else match t.get? (l ++ [name]), Path.endsInSlash path with
          | some .folder, _ => (.error .isDirectory, t)
          | some (.file _), true => (.error .notDirectory, t)
          | none, true => (.error .isDirectory, t)
          | _, false => (.ok (), t.put (l ++ [name]) (.file content))

/-- Makes one folder, by the pieces of its path from a folder on. -/
def makeFolder (t : FileTree) (l : Location) (ps : List String) : Except IoFault Unit × FileTree :=
  match ps.getLast? with
  | none => (.error .present, t)
  | some name =>
    match t.followFolder l ps.dropLast with
    | .error e => (.error e, t)
    | .ok up =>
      if name = "." || name = ".." then (.error .present, t)
      else if tooLong name then (.error .nameTooLong, t)
      else match t.get? (up ++ [name]) with
        | some _ => (.error .present, t)
        | none => (.ok (), t.put (up ++ [name]) .folder)

/-- Whether pieces lead to a folder. -/
def leadsToFolder (t : FileTree) (l : Location) (ps : List String) : Bool :=
  match t.followFolder l ps with
  | .ok _ => true
  | .error _ => false

/-- Makes a folder unless it is there. -/
def ensureFolder (t : FileTree) (l : Location) (ps : List String) : Except IoFault Unit × FileTree :=
  match t.makeFolder l ps with
  | (.ok _, after) => (.ok (), after)
  | (.error e, after) => if e = .present && t.leadsToFolder l ps then (.ok (), t) else (.error e, after)

/-- Makes the folders that pieces lead through, as far as they are missing; `view` is what is below the folder that
the pieces start from. -/
def descend (t : FileTree) (l : Location) (view : List (Location × Node)) :
    List String → Except IoFault Unit × FileTree
  | [] => (.ok (), t)
  | piece :: more =>
    if piece = "." then descend t l view more
    else if piece = ".." then descend t l.dropLast (t.below l.dropLast) more
    else if tooLong piece then (.error .nameTooLong, t)
    else
      let inner := enter piece view
      match inner.lookup [] with
      | none => descend (t.add (l ++ [piece]) .folder) (l ++ [piece]) inner more
      | some .folder => descend t (l ++ [piece]) inner more
      | some (.file _) => (.error .present, t)

/-- Makes the folder at a path and those above it, unless they are there. A dot at the end of the path is not a folder
of its own, so it does not help to make the one before it. -/
def makeFolders (t : FileTree) (cwd : Location) (path : String) : Except IoFault Unit × FileTree :=
  if hasNul path then (.error .badPath, t)
  else if pathTooLong path then (.error .nameTooLong, t)
  else
    let ps := Path.pieces path
    let l := start cwd path
    if ps.isEmpty then (.ok (), t)
    else match t.ensureFolder l ps with
      | (.error .notFound, _) =>
        match t.descend l (t.below l) (ps.filter (· != ".")).dropLast with
        | (.error e, after) => (.error e, after)
        | (.ok _, after) => after.ensureFolder l ps
      | result => result

/-- Removes the folder at a path with all that is in it, if there is one. -/
def removeFolder (t : FileTree) (cwd : Location) (path : String) : FileTree :=
  match t.locate cwd path with
  | .error _ => t
  | .ok l => if t.isFolder l then t.prune l else t

/-- Answers the effects of a plan, with the given working folder, input and processes. -/
def answer (cwd : Location) (input : List UInt8) (launch : Invocation → StateM FileTree Launch) :
    (effect : Effect) → StateM FileTree effect.Reply
  | .readInput => fun t => (input, t)
  | .readFile path => fun t => (t.readFile cwd path, t)
  | .writeFile path bytes => fun t => t.writeFile cwd path bytes
  | .makeFolders path => fun t => t.makeFolders cwd path
  | .resolve path => fun t => (t.resolve cwd path, t)
  | .isPresent path => fun t => (t.isPresent cwd path, t)
  | .removeFolder path => fun t => ((), t.removeFolder cwd path)
  | .launch invocation => launch invocation

end FileTree
end Tabscript
