import DeviceLab.Program
import DeviceLab.Failure.Record
import DeviceLab.Trial.Runner

/-! Tests in processes of their own.

The bench starts itself again, with the test, its directory and its parameters as
arguments. The child runs the test there and, if it fails, leaves an error record
under its process number. The verdict hangs on how the child ended and on that
one record. -/
namespace DeviceLab.Child

/-- The subcommand a child is started with. -/
def subcommand : String := "__exec-test"

/-! ### The child -/

/-- Leaves a record of the failure. The exit code says that the test failed. -/
def leave (dirs : TrialDirs) (f : Failure) : Host → Nat × Host :=
  fun h => (1, (ErrorRecord.write dirs.debug h.pid f h).2)

/-- The test of a name, run in its directory. -/
def body (catalog : Catalog Host) (name : String) (dirs : TrialDirs) (params : List String) :
    Work Unit :=
  fun h =>
    match catalog.create name with
    | .error f => (.error f, h)
    | .ok test =>
      match h.tree.locate h.cwd dirs.dir with
      | .error e => (.error (.io e.text), h)
      | .ok place => test.run name ⟨dirs, params⟩ { h with cwd := place }

/-- Runs a test in this process; gives the exit code. -/
def main (catalog : Catalog Host) (name testDir : String) (params : List String)
    (h : Host) : Nat × Host :=
  match TrialDirs.reopen testDir h with
  | (.error _, h) => (1, h)
  | (.ok dirs, h) =>
    match body catalog name dirs params h with
    | (.ok _, h) => (0, h)
    | (.error f, h) => leave dirs f h

/-- Records a failure from before the test could start; gives the exit code. -/
def abort (testDir : String) (f : Failure) (h : Host) : Nat × Host :=
  match TrialDirs.reopen testDir h with
  | (.error _, h) => (1, h)
  | (.ok dirs, h) => leave dirs f h

/-! ### Its parent -/

def codeText : Ending → String
  | .exited code => toString code
  | _ => "killed"

/-- The verdict on a child. A record tells why the test failed, whatever the exit code. -/
def verdict (inv : Invocation) (timeout : Nat) (pid : Nat) (ending : Ending) : Work Unit := do
  if ending == .overdue then
    throw (.timeout ("test " ++ inv.name ++ " did not complete within " ++
      Seconds.text 1 timeout ++ "s"))
  match ← ErrorRecord.read inv.dirs.debug pid with
  | some f => throw f
  | none =>
    if ending == .exited 0 then return
    throw (.error ("test " ++ inv.name ++ " failed rc=" ++ codeText ending))

/-- The arguments of a child. -/
def arguments (config : Option String) (inv : Invocation) : List String :=
  (match config with
    | some path => ["--config", path]
    | none => []) ++
  [subcommand, "--testdir", inv.dirs.dir, "--name", inv.name, "--"] ++ inv.params

/-- How often a child with a time limit is looked at. -/
def interval : Nat := 50 * Seconds.millisecond

/-- Executes each test in a process of its own. -/
def executor {σ : Type} (program : Program) (timeout : Option Nat) (config : Option String) :
    Executor σ where
  execute inv := WorkWith.host fun h =>
    match program.spawn (arguments config inv) (timeout.map (⟨·, interval⟩)) h with
    | (.error e, h) =>
      (.error (.error ("could not start test " ++ inv.name ++ ": " ++ e.text)), h)
    | (.ok (done, pid), h) => verdict inv (timeout.getD 0) pid done.ending h

end DeviceLab.Child
