import DeviceLab.Shell.Evaluation

/-! A shell as a process. -/
namespace DeviceLab.Shell

/-- How a shell is started: what the script is called, its arguments and its text. -/
structure Task where
  name : String
  args : List String
  /-- The letters of the options it is started with. -/
  options : List Char
  script : String

/-- The shell before the first command. -/
def Task.begin (t : Task) (input : Flow) (h : Host) : State where
  host := h
  name := t.name
  args := t.args
  vars := (h.setting "PWD" (Path.ofNames h.cwd)).environment.map fun v => ⟨v.1, v.2, true⟩
  functions := []
  status := 0
  substituted := none
  pid := h.pid
  line := 1
  options := t.options
  loops := 0
  pending := []
  traps := []
  channels := #[.empty, .empty]
  targets := [(1, .channel 0), (2, .channel 1)]
  input := input

/-- How often and how deep commands may run before a script counts as one that does not end. -/
def fuel : Nat := 100000

/-- The exit code with which a script ends by itself. -/
def exitCode (r : Except Jump Unit) (s : State) : Option Nat :=
  match r with
  | .ok _ | .error (.leave _) | .error (.again _) => some s.status
  | .error (.exit code) | .error (.back code) => some code
  | .error (.killed _) | .error .endless => none

/-- What has been asked for at the end is done there. -/
def atEnd (start : Starter) (r : Except Jump Unit) (s : State) : Except Jump Unit × State :=
  match exitCode r s, (s.traps.lookup "EXIT").or (s.traps.lookup "0") with
  | some code, some action =>
    match (runText start false action fuel).run { s with status := code, traps := [] } with
    | (.ok _, s) => (.ok (), { s with status := code })
    | r => r
  | _, _ => (r, s)

/-- Runs a script from its first command to its last. -/
def Task.run (start : Starter) (t : Task) (input : Flow) (h : Host) : Trace × Host :=
  let (r, s) := (runText start false t.script fuel).run (t.begin input h)
  let (r, s) := atEnd start r s
  let ending : Ending := match exitCode r s, r with
    | some code, _ => .exited (code % 256)
    | none, .error (.killed signal) => .killed signal
    | none, _ => .overdue
  let written (n : Nat) : Flow := (s.channels[n]?).getD .empty
  (⟨ending, written 0, written 1, s.input⟩, s.host)

end DeviceLab.Shell
