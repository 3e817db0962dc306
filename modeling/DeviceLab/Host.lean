import DeviceLab.Failure
import DeviceLab.Files.Tree

/-! The machine a bench runs on, as seen by one of its processes.

The process works on the files of the machine, writes to its console and spends
time. A process with a deadline is stopped there: what it would do later changes
nothing any more. -/
namespace DeviceLab

structure Host where
  tree : Tree
  /-- The working directory. -/
  cwd : Place
  pid : Nat
  /-- The number the next process gets. -/
  nextPid : Nat
  /-- The variables that programs find set. -/
  environment : List (String × String)
  /-- The time, in nanoseconds. -/
  clock : Nat
  deadline : Option Nat
  out : String
  err : String

/-- Work on a host. What was done before a failure stays done. -/
abbrev Work := ExceptT Failure (StateM Host)

namespace Host

/-- Has the deadline not passed? -/
def alive (h : Host) : Bool :=
  match h.deadline with
  | some d => h.clock ≤ d
  | none => true

/-- The host with the files as they are after a change, if the process can still make it. -/
def withTree (h : Host) (t : Tree) : Host :=
  if h.alive then { h with tree := t } else h

/-- Makes a change to the files. -/
def change (op : Tree → Place → Except OsError Tree) (h : Host) : Except OsError Unit × Host :=
  match op h.tree h.cwd with
  | .ok t => (.ok (), h.withTree t)
  | .error e => (.error e, h)

/-- Time passes. -/
def spend (span : Nat) (h : Host) : Host :=
  { h with clock := h.clock + span }

def print (s : String) (h : Host) : Host :=
  if h.alive then { h with out := h.out ++ s } else h

def complain (s : String) (h : Host) : Host :=
  if h.alive then { h with err := h.err ++ s } else h

/-- The value of a variable, if it is set. -/
def valueOf? (h : Host) (name : String) : Option String :=
  h.environment.lookup name

/-- The host with a variable set. -/
def setting (name value : String) (h : Host) : Host :=
  { h with environment := (name, value) :: h.environment.filter (·.1 != name) }

def exists? (h : Host) (path : String) : Bool :=
  h.tree.exists? h.cwd path

def isDirectory (h : Host) (path : String) : Bool :=
  h.tree.isDirectory h.cwd path

end Host

namespace Work

/-- A refusal by the file system as a failure. -/
def ofOs {α : Type} : Except OsError α → Except Failure α
  | .ok a => .ok a
  | .error e => .error (.io e.text)

/-- Makes a change to the files. -/
def change (op : Tree → Place → Except OsError Tree) : Work Unit :=
  fun h =>
    let (r, h) := h.change op
    (ofOs r, h)

/-- Looks at the host. -/
def see {α : Type} (f : Host → α) : Work α :=
  fun h => (.ok (f h), h)

/-- Looks at the files, which may be refused. -/
def look {α : Type} (f : Tree → Place → Except OsError α) : Work α :=
  fun h => (ofOs (f h.tree h.cwd), h)

/-- Makes a change to the host. -/
def alter (f : Host → Host) : Work Unit :=
  fun h => (.ok (), f h)

/-- Does the work and gives its result, whatever it is. -/
def attempt {α : Type} (w : Work α) : Work (Except Failure α) :=
  fun h =>
    let (r, h) := w h
    (.ok r, h)

end Work
end DeviceLab
