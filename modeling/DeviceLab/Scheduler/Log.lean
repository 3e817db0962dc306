import DeviceLab.Config
import DeviceLab.Scheduler.Calendar
import DeviceLab.Scheduler.Fault

/-! The log of the scheduler.

The log is a file in the log directory, named by hand or after the time it was
begun. The file takes everything, the console what is worth telling. -/
namespace DeviceLab.Scheduler

inductive Level where
  | debug
  | info
  deriving DecidableEq

def Level.name : Level → String
  | .debug => "DEBUG"
  | .info => "INFO"

structure Log where
  dir : String
  name : Option String
  /-- What a name made from the time begins with. -/
  lead : String
  /-- The least level for the console, and for the file. -/
  console : Level
  file : Level

/-- Is a line of the level shown where the least level is given? -/
def Level.atLeast (least level : Level) : Bool :=
  least == .debug || level == .info

namespace Log

def usualLead : String := "scheduler"

def of (dir : String) : Log :=
  ⟨dir, none, usualLead, .info, .debug⟩

/-- A name made from the time, in nanoseconds. -/
def stampedName (lead : String) (clock : Nat) : String :=
  lead ++ ".log." ++ (DateTime.ofSeconds (clock / Seconds.second)).stamp

/-- The file of the log. A name of nothing but blanks is none. -/
def path (log : Log) (clock : Nat) : String :=
  let name := match (log.name.map Text.trim).filter (!·.isEmpty) with
    | some name => name
    | none => stampedName log.lead clock
  Path.join log.dir name

/-- Makes a change to the files on behalf of a path that a refusal then names. -/
def change (path : String) (op : Tree → Place → Except OsError Tree) (h : Host) :
    Except Fault Unit × Host :=
  match h.change op with
  | (.ok _, h) => (.ok (), h)
  | (.error e, h) => (.error (.logging (path ++ ": " ++ e.text)), h)

/-- Makes the directory and an empty file in it; gives the path. -/
def begin (log : Log) (h : Host) : Except Fault String × Host :=
  let path := log.path h.clock
  match change log.dir (·.makeDirectories · log.dir) h with
  | (.error e, h) => (.error e, h)
  | (.ok _, h) =>
    match change path (·.write · path .empty) h with
    | (.error e, h) => (.error e, h)
    | (.ok _, h) => (.ok path, h)

/-- A line; on the console it does not say where it comes from. -/
def line (clock : Nat) (level : Level) (origin message : String) : String :=
  let name := level.name
  (DateTime.ofSeconds (clock / Seconds.second)).logged (clock % Seconds.second / 1000) ++ " " ++
    String.ofList (List.replicate (5 - name.length) ' ') ++ name ++ " " ++ origin ++ message ++ "\n"

/-- Adds a line to the file and shows it on the console, as far as their levels ask
for it. A log that cannot be written is not complained of. -/
def add (log : Log) (path : String) (level : Level) (message : String) (h : Host) : Host :=
  let h := if log.console.atLeast level then h.complain (line h.clock level "" message) else h
  if log.file.atLeast level then
    (h.change (·.append · path (line h.clock level "scheduler: " message))).2
  else h

end Log
end DeviceLab.Scheduler
