import DeviceLab.Machine.Call
import DeviceLab.Machine.Opening
import DeviceLab.Shell.Syntax
import DeviceLab.Text.Cut

/-! What a shell knows while it runs a script. -/
namespace DeviceLab.Shell

structure Variable where
  name : String
  value : String
  /-- Programs find it set. -/
  exported : Bool

/-- Where goes what is written to a descriptor. -/
inductive Target where
  /-- Kept by the number of the channel. -/
  | channel (n : Nat)
  | file (place : Place)
  deriving Inhabited

structure State where
  host : Host
  /-- What the script is called. -/
  name : String
  args : List String
  vars : List Variable
  functions : List (String × Node)
  /-- The exit code of the last command. -/
  status : Nat
  /-- The exit code of the last script whose output was put in. -/
  substituted : Option Nat
  /-- The number of the process, which parts of it that run on their own share. -/
  pid : Nat
  line : Nat
  /-- Letters: a failing command ends the script (`e`), and so does a parameter that is
  not set (`u`); commands are shown before they run (`x`). -/
  options : List Char
  /-- How many loops are under way. -/
  loops : Nat
  /-- What is still to be done about signals that have come. -/
  pending : List String
  /-- What to do about signals, and at the end. -/
  traps : List (String × String)
  channels : Array Flow
  targets : List (Nat × Target)
  input : Flow

/-- What ends a script, or a part of it, before its last command. -/
inductive Jump where
  | exit (code : Nat)
  | back (code : Nat)
  | leave (loops : Nat)
  | again (loops : Nat)
  | killed (signal : Nat)
  /-- It does not end at all. -/
  | endless

/-- A part of the work of a shell. -/
abbrev Act := ExceptT Jump (StateM State)

namespace State

def valueOf? (s : State) (name : String) : Option String :=
  (s.vars.find? (·.name == name)).map (·.value)

/-- Sets a variable, which stays exported if it was. -/
def assign (name value : String) (s : State) : State :=
  let exported := (s.vars.find? (·.name == name)).any (·.exported)
  { s with vars := ⟨name, value, exported⟩ :: s.vars.filter (·.name != name) }

/-- Lets programs find a variable set, if it is. -/
def publish (name : String) (s : State) : State :=
  { s with vars := s.vars.map fun v =>
      if v.name == name then { v with exported := true } else v }

def has (s : State) (option : Char) : Bool :=
  s.options.contains option

def unset (name : String) (s : State) : State :=
  { s with vars := s.vars.filter (·.name != name) }

/-- The value of a parameter: of a variable, of an argument or of what has a sign. -/
def parameter? (s : State) (name : String) : Option String :=
  match name with
  | "@" | "*" => if s.args.isEmpty then none else some (Text.join " " s.args)
  | "#" => some (toString s.args.length)
  | "?" => some (toString s.status)
  | "$" => some (toString s.pid)
  | "-" => some (String.ofList s.options)
  | "!" => none
  | "0" => some s.name
  | name =>
    match name.toList.head? with
    | some c => if c.isDigit then (name.toNat?.bind fun n => s.args[n - 1]?) else s.valueOf? name
    | none => none

/-- The characters that divide words. -/
def dividers (s : State) : List Char :=
  ((s.valueOf? "IFS").getD " \t\n").toList

/-- The host as a program finds it that the shell starts. -/
def childHost (s : State) : Host :=
  { s.host with
    pid := s.host.nextPid
    nextPid := s.host.nextPid + 1
    environment := (s.vars.filter (·.exported)).map fun v => (v.name, v.value) }

/-- The state after a program that has left such a host. -/
def after (s : State) (h : Host) : State :=
  { s with
    host := { h with
      cwd := s.host.cwd
      pid := s.host.pid
      environment := s.host.environment
      deadline := s.host.deadline } }

def target? (s : State) (fd : Nat) : Option Target :=
  s.targets.lookup fd

def redirect (fd : Nat) (t : Option Target) (s : State) : State :=
  let others := s.targets.filter (·.1 != fd)
  { s with targets := match t with
      | some t => (fd, t) :: others
      | none => others }

end State

namespace Act

def status (code : Nat) : Act Unit :=
  modify ({ · with status := code })

/-- Writes to a descriptor. What does not end is written for ever. -/
def write (fd : Nat) (f : Flow) : Act Unit := do
  modify fun s =>
    match s.target? fd with
    | some (.channel n) => { s with channels := s.channels.modify n (·.append f) }
    | some (.file place) => { s with host := Machine.appending s.host place f.bytes }
    | none => s
  if f.endless then throw .endless

/-- Complains, saying where in the script. -/
def complain (message : String) : Act Unit := do
  let s ← get
  write 2 (.ofText (s.name ++ ": " ++ toString s.line ++ ": " ++ message ++ "\n"))

/-- Does something and then puts back what belongs to a part of the script only. -/
def puttingBack {α : Type} (back : State → State → State) (act : Act α) : Act α :=
  fun s =>
    let (r, s') := act s
    (r, back s s')

/-- With redirections that end with it. Input that is not redirected is used up. -/
def redirecting {α : Type} (ownInput : Bool) (act : Act α) : Act α :=
  puttingBack (fun s s' =>
    { s' with targets := s.targets, input := if ownInput then s.input else s'.input }) act

/-- A part that runs on its own: of its changes only those outside the shell last. -/
def apart (act : Act Unit) : Act Unit :=
  fun s =>
    let (r, s') := act s
    let kept := { s.after s'.host with channels := s'.channels, input := s'.input }
    match r with
    | .error (.exit code) | .error (.back code) => (.ok (), { kept with status := code })
    | .error (.killed signal) => (.error (.killed signal), kept)
    | .error .endless => (.error .endless, kept)
    | .ok _ | .error _ => (.ok (), { kept with status := s'.status })

/-- A new channel. -/
def channel : Act Nat := do
  let n := (← get).channels.size
  modify fun s => { s with channels := s.channels.push .empty }
  return n

/-- What has gone through a channel. -/
def flowOf (n : Nat) : Act Flow := do
  return ((← get).channels[n]?).getD .empty

/-- Does something that may not end; says whether it does. -/
def ends (act : Act Unit) : Act Bool :=
  fun s =>
    match act s with
    | (.error .endless, s) => (.ok false, s)
    | (.error j, s) => (.error j, s)
    | (.ok _, s) => (.ok true, s)

/-- What is written while something is done apart. -/
def captured (act : Act Unit) : Act Flow := do
  let n ← channel
  apart (do
    modify (·.redirect 1 (some (.channel n)))
    act)
  flowOf n

end Act
end DeviceLab.Shell
