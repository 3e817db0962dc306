import DeviceLab.Catalog.Builtin
import DeviceLab.CommandLine
import DeviceLab.Job
import DeviceLab.Job.Console
import DeviceLab.Job.Control
import DeviceLab.Scheduler.Connections
import DeviceLab.Scheduler.Log
import DeviceLab.Trial.Child

/-! Doing what the command line asks for.

Everything ends with an exit code, and with a message where something could not
be done. A test that failed is no such thing: it is told on the output. -/
namespace DeviceLab.CommandLine

/-- Work that ends with a message when it cannot be done. An empty one is not shown. -/
abbrev Doing := ExceptT String (StateM Host)

namespace Doing

/-- A part of the work whose failure is told. -/
def part {α : Type} (w : Work α) : Doing α :=
  fun h =>
    let (r, h) := w h
    (r.mapError fun f => "Error: " ++ f.message, h)

/-- A part of the scheduler's work. -/
def scheduled {α : Type} (w : Host → Except Scheduler.Fault α × Host) : Doing α :=
  fun h =>
    let (r, h) := w h
    (r.mapError fun f => "Error: " ++ f.message, h)

def alter (f : Host → Host) : Doing Unit :=
  fun h => (.ok (), f h)

end Doing

/-- The exit code of a command that went well, and of one that did not. -/
def exitCode (well : Bool) : Nat :=
  if well then 0 else 1

/-- The configuration that counts. -/
def configuration (path : Option String) : Work Config :=
  fun h => (Config.load path h, h)

/-! ### Running tests -/

/-- The executor of a run. A time limit on the command line wins over the configured one. -/
def executor (catalog : Catalog Host) (self : Program) (config : Config) (path : Option String)
    (o : RunOptions) : Executor Unit :=
  if o.inProcess then Executor.inProcess catalog
  else Child.executor self ((o.timeout.map (· * Seconds.second)).or config.childTimeout) path

def resultsDir (config : Config) (o : RunOptions) : String :=
  o.resultsDir.getD config.resultsDir

/-- Work with a job. -/
def onJob {α : Type} (job : Job Unit) (w : WorkWith (Job Unit) α) :
    Work (Except Failure α × Job Unit) :=
  fun h =>
    let (r, (job, h)) := w (job, h)
    (.ok (r, job), h)

/-- Runs one test and tells its status and its directory. -/
def runTest (catalog : Catalog Host) (self : Program) (path : Option String) (test : String)
    (tag : Option String) (params : List String) (o : RunOptions) : Doing Nat := do
  let config ← Doing.part (configuration path)
  if !catalog.contains test then
    throw ("Error: test " ++ test ++ " not found in catalog")
  let job ← Doing.part (Job.begin (resultsDir config o) ())
  let work := Job.runTest (executor catalog self config path o) ⟨test, params, tag⟩
  let (r, _) ← Doing.part (onJob job work)
  let outcome ← Doing.part (ExceptT.mk (pure r))
  Doing.alter (·.print (outcome.status.line ++ "\t" ++ outcome.testDir ++ "\n"))
  return exitCode outcome.passed

/-- Runs the tests of a control file and reports as they proceed. -/
def runJob (catalog : Catalog Host) (self : Program) (path : Option String) (control : String)
    (stopOnFail verbose : Bool) (keyword : Option String) (o : RunOptions) : Doing Nat := do
  let config ← Doing.part (configuration path)
  let specs ← Doing.part fun h => (Job.Control.ofFile control h, h)
  if specs.isEmpty then throw ("Error: no tests in control file " ++ control)
  let job ← Doing.part (Job.begin (resultsDir config o) ())
  let (r, job) ← Doing.part
    (onJob job (Job.runAll (executor catalog self config path o) specs ⟨stopOnFail, keyword⟩))
  Doing.alter (·.complain ((Job.Console.mk verbose true).text job.events))
  let (summary, _) ← Doing.part (ExceptT.mk (pure r))
  return exitCode summary.success

/-! ### Everything else -/

def list (catalog : Catalog Host) : Doing Nat := do
  Doing.alter (·.print (Text.join "" (catalog.names.map (· ++ "\n"))))
  return 0

/-- Tells the status that a test has left. -/
def tellStatus (testDir : String) : Doing Nat := do
  let status ← Doing.part (Status.read testDir)
  Doing.alter (·.print (status.line ++ "\n"))
  return exitCode status.isGood

open Scheduler in
/-- Begins the log of the scheduler, connects to the database and disconnects. -/
def runScheduler (path : Option String) (logDir logName : Option String) : Doing Nat := do
  let config ← Doing.part (configuration path)
  let log := { Log.of (logDir.getD config.logDir) with name := logName }
  let file ← Doing.scheduled log.begin
  Doing.alter (log.add file .info ("scheduler logging to " ++ file))
  let (opened, m) := (Manager.of Options.usual).getConnection (Connector.ofDatabase config.database)
  let n ← Doing.scheduled fun h => (opened, h)
  let target := (m.connections[n]?.map (·.target)).getD ""
  Doing.alter (log.add file .debug ("connected to " ++ target))
  Doing.alter (log.add file .info ("[" ++ Database.sectionName ++ "] connected to " ++ target))
  return 0

/-- Runs a test for the bench that has started this one. A configuration that
cannot be used is left for it as any other failure of the test. -/
def runChild (catalog : Catalog Host) (path : Option String) (testDir name : String)
    (params : List String) : Doing Nat :=
  fun h =>
    let (code, h) := match Config.load path h with
      | .ok _ => Child.main catalog name testDir params h
      | .error f => Child.abort testDir f h
    (.ok code, h)

/-- Does what is asked for. -/
def doing (catalog : Catalog Host) (self : Program) (c : CommandLine) : Doing Nat :=
  match c.action with
  | .run test tag params o => runTest catalog self c.config test tag params o
  | .job control stopOnFail verbose keyword o =>
    runJob catalog self c.config control stopOnFail verbose keyword o
  | .list => list catalog
  | .status testDir => tellStatus testDir
  | .scheduler logDir logName => runScheduler c.config logDir logName
  | .child testDir name params => runChild catalog c.config testDir name params

/-- Does what is asked for and shows the message if it cannot be done; gives the exit code. -/
def perform (catalog : Catalog Host) (self : Program) (c : CommandLine) (h : Host) : Nat × Host :=
  match doing catalog self c h with
  | (.ok code, h) => (code, h)
  | (.error message, h) => (1, if message.isEmpty then h else h.complain (message ++ "\n"))

/-! ### The bench as a program -/

def versionLine : String := "autotest 0.1.0\n"

def usage : String :=
  "Usage: autotest [--config <FILE>] <run|job|list|status|scheduler|help> ...\n"

/-- What is told in place of doing anything, and the exit code. -/
def refuse (r : Arguments.Refusal) (h : Host) : Nat × Host :=
  match r with
  | .version => (r.exitCode, h.print versionLine)
  | .help => (r.exitCode, h.print usage)
  | _ => (r.exitCode, h.complain usage)

/-- The bench with the tests of a catalog, started with arguments. -/
def main (catalog : Catalog Host) (self : Program) (args : List String) (h : Host) : Nat × Host :=
  match CommandLine.of args with
  | .ok c => perform catalog self c h
  | .error r => refuse r h

/-- The bench as a program that a bench starts. That one starts no further one. -/
def childOf (catalog : Catalog Host) : Program :=
  fun args h =>
    let (code, h) := main catalog (fun _ h => (.error .notFound, h)) args h
    (.ok ⟨.exited code, .empty, .empty⟩, h)

/-- The bench with the tests that come with it, as it starts itself. -/
def child : Program :=
  childOf Catalog.builtin

/-- The bench as it is started by hand. -/
def bench (args : List String) (h : Host) : Nat × Host :=
  main Catalog.builtin child args h

end DeviceLab.CommandLine
