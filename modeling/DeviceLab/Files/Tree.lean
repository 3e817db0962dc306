import DeviceLab.Files.Content
import DeviceLab.Files.Path

/-! Trees of files and directories.

An entry has its place: the names that lead to it from the top. A path leads to
a place by a walk through directories that are there; the last step may lead to
a place where nothing is yet. Operations that change a tree give the new one,
and refuse with the error that a file system would give. -/
namespace DeviceLab

/-- The names on the way from the top. -/
abbrev Place := List String

inductive Entry where
  | file (content : Content) (runnable : Bool)
  | directory
  deriving DecidableEq

structure Tree where
  entries : List (Place × Entry)

namespace Tree

def empty : Tree := ⟨[]⟩

/-- The entry at a place. The top is always a directory. -/
def get? (t : Tree) (place : Place) : Option Entry :=
  if place.isEmpty then some .directory else (t.entries.find? (·.1 == place)).map (·.2)

/-- The tree with the entry at the place, whatever was there. -/
def put (t : Tree) (place : Place) (e : Entry) : Tree :=
  ⟨(place, e) :: t.entries.filter (·.1 != place)⟩

/-- The tree without the entry at the place and without all below it. -/
def prune (t : Tree) (place : Place) : Tree :=
  ⟨t.entries.filter fun p => !place.isPrefixOf p.1⟩

/-- The names in the directory at a place, in the order of names. -/
def names (t : Tree) (place : Place) : List String :=
  let inside := t.entries.filterMap fun p =>
    if p.1.dropLast == place && p.1.length == place.length + 1 then p.1.getLast? else none
  inside.mergeSort fun a b => decide (a ≤ b)

/-! ### Walking -/

def maxName : Nat := 255
def maxPath : Nat := 4096

/-- The place the steps lead to from a place. -/
def walk (t : Tree) (here : Place) : List String → Except OsError Place
  | [] => .ok here
  | step :: rest =>
    match t.get? here with
    | none => .error .notFound
    | some (.file ..) => .error .notDirectory
    | some .directory =>
      if step == "." then t.walk here rest
      else if step == ".." then t.walk here.dropLast rest
      else if step.utf8ByteSize > maxName then .error .nameTooLong
      else t.walk (here ++ [step]) rest

/-- The place the steps of a path lead to, seen from a directory. -/
def trace (t : Tree) (cwd : Place) (path : String) : Except OsError Place :=
  if path.toList.contains '\x00' then .error .nulInPath
  else if path.isEmpty then .error .notFound
  else if path.utf8ByteSize ≥ maxPath then .error .nameTooLong
  else t.walk (if Path.isAbsolute path then [] else cwd) (Path.steps path)

/-- The place a path leads to. Only a directory may be named with a slash at the end. -/
def locate (t : Tree) (cwd : Place) (path : String) : Except OsError Place := do
  let place ← t.trace cwd path
  match t.get? place with
  | some (.file ..) => if Path.endsInSlash path then .error .notDirectory else return place
  | _ => return place

/-- The entry a path leads to. -/
def stat (t : Tree) (cwd : Place) (path : String) : Except OsError Entry := do
  match t.get? (← t.locate cwd path) with
  | some e => return e
  | none => .error .notFound

def exists? (t : Tree) (cwd : Place) (path : String) : Bool :=
  (t.stat cwd path).isOk

def isDirectory (t : Tree) (cwd : Place) (path : String) : Bool :=
  match t.stat cwd path with
  | .ok .directory => true
  | _ => false

/-! ### Files -/

def readContent (t : Tree) (cwd : Place) (path : String) : Except OsError Content := do
  match ← t.stat cwd path with
  | .file content _ => return content
  | .directory => .error .isDirectory

/-- The text of a file. -/
def readText (t : Tree) (cwd : Place) (path : String) : Except OsError String := do
  (← t.readContent cwd path).read

/-- The place of a file to be written, and what it holds so far. -/
def target (t : Tree) (cwd : Place) (path : String) :
    Except OsError (Place × Content × Bool) := do
  let place ← t.locate cwd path
  match t.get? place with
  | some (.file content runnable) => return (place, content, runnable)
  | some .directory => .error .isDirectory
  | none =>
    if Path.endsInSlash path then .error .isDirectory
    else
      match t.get? place.dropLast with
      | some .directory => return (place, .empty, false)
      | _ => .error .notFound

/-- Writes a file from scratch. -/
def write (t : Tree) (cwd : Place) (path : String) (content : Content) : Except OsError Tree := do
  let (place, _, runnable) ← t.target cwd path
  return t.put place (.file content runnable)

/-- Writes behind what a file holds. -/
def append (t : Tree) (cwd : Place) (path text : String) : Except OsError Tree := do
  let (place, content, runnable) ← t.target cwd path
  return t.put place (.file (content.append text) runnable)

/-- Lets a file be run as a program. -/
def makeRunnable (t : Tree) (cwd : Place) (path : String) : Except OsError Tree := do
  let place ← t.locate cwd path
  match t.get? place with
  | some (.file content _) => return t.put place (.file content true)
  | some .directory => return t
  | none => .error .notFound

/-! ### Directories -/

/-- Makes one directory. Whatever is in its place is in the way, with a slash behind
the path or without. -/
def makeDirectory (t : Tree) (cwd : Place) (path : String) : Except OsError Tree := do
  let place ← t.trace cwd path
  match t.get? place with
  | some _ => .error .taken
  | none =>
    match t.get? place.dropLast with
    | some .directory => return t.put place .directory
    | _ => .error .notFound

/-- Makes a directory, its parents first if they are missing. A directory that
is there already is as good as made. -/
def makeDirectoriesWithin (t : Tree) (cwd : Place) (path : String) : Nat → Except OsError Tree
  | 0 => .error .notFound
  | depth + 1 =>
    if path.isEmpty then .ok t
    else
      let again := fun (t : Tree) =>
        match t.makeDirectory cwd path with
        | .ok t => .ok t
        | .error e => if t.isDirectory cwd path then .ok t else .error e
      match t.makeDirectory cwd path with
      | .ok t => .ok t
      | .error .notFound =>
        match Path.parent path with
        | some parent => do again (← t.makeDirectoriesWithin cwd parent depth)
        | none => .error .notFound
      | .error e => if t.isDirectory cwd path then .ok t else .error e

def makeDirectories (t : Tree) (cwd : Place) (path : String) : Except OsError Tree :=
  t.makeDirectoriesWithin cwd path ((Path.steps path).length + 2)

/-- Removes a file, or a directory with all that is in it. -/
def remove (t : Tree) (cwd : Place) (path : String) : Except OsError Tree := do
  let place ← t.locate cwd path
  match t.get? place with
  | some _ => return t.prune place
  | none => .error .notFound

/-! ### Listing -/

/-- The entries below a place with their paths from there, in order. -/
def below (t : Tree) (place : Place) : List (Place × Entry) :=
  t.entries.filterMap fun p =>
    if place.isPrefixOf p.1 && p.1 != place then some (p.1.drop place.length, p.2) else none

end Tree
end DeviceLab
