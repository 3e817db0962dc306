import DeviceLab.Failure
import DeviceLab.Text.Cut

/-! Commands, and what becomes of them.

A command is its arguments, the program first, with rules on how its outcome is
treated. Times are in nanoseconds. -/
namespace DeviceLab

structure Command where
  argv : List String
  timeout : Option Nat
  /-- A status other than zero is no failure. -/
  ignoreStatus : Bool
  /-- What the command writes as complaint is appended to its output. -/
  mergeStderr : Bool
  deriving DecidableEq

namespace Command

def of (argv : List String) : Command :=
  ⟨argv, none, false, false⟩

def ignoringStatus (c : Command) : Command :=
  { c with ignoreStatus := true }

def mergingStderr (c : Command) : Command :=
  { c with mergeStderr := true }

def within (timeout : Nat) (c : Command) : Command :=
  { c with timeout := some timeout }

def program (c : Command) : String :=
  c.argv.headD ""

/-! ### The command as typed into a shell -/

/-- Arguments with these characters, and the empty one, need quotes. -/
def awkward (c : Char) : Bool :=
  Text.isBlank c || c == '"' || c == '\''

def needsQuotes (arg : List Char) : Bool :=
  arg.isEmpty || arg.any awkward

/-- A quote inside quotes ends them, stands escaped and opens them again. -/
def quoted : List Char → List Char
  | [] => ['\'']
  | c :: cs => if c = '\'' then '\'' :: '\\' :: '\'' :: '\'' :: quoted cs else c :: quoted cs

def shellArg (arg : String) : String :=
  if needsQuotes arg.toList then String.ofList ('\'' :: quoted arg.toList) else arg

/-- The arguments with blanks between them. -/
def shellLine (c : Command) : String :=
  Text.join " " (c.argv.map shellArg)

end Command

/-- The outcome of a command that has ended. -/
structure Output where
  line : String
  /-- There is no status if a signal ended the command. -/
  exit : Option Int32
  out : String
  err : String
  deriving DecidableEq, Inhabited

namespace Output

def success (o : Output) : Bool :=
  o.exit = some 0

def failure (o : Output) : Failure :=
  .command o.line o.exit o.out o.err

/-- A command fails unless it succeeded or its status does not matter. -/
def check (c : Command) (o : Output) : Except Failure Output :=
  if o.success || c.ignoreStatus then .ok o else .error o.failure

end Output
end DeviceLab
