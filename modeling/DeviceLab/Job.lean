import DeviceLab.Dict
import DeviceLab.Job.Outcome
import DeviceLab.Trial.Runner

/-! Jobs: many tests into one results directory.

Each test has a directory of its own, named after its tag or name. A base that
repeats gets a number from the second time on, and names that are taken are
passed over. Every finished test adds a line to the status log. -/
namespace DeviceLab

/-- A job under way: its results directory, how far the numbers of each base have
been used up, what was reported, and the state of its executor. -/
structure Job (σ : Type) where
  resultDir : String
  used : Dict Nat
  events : List Job.Event
  executor : σ

namespace Job
variable {σ : Type}

/-- Begins a job. -/
def begin (resultDir : String) (executor : σ) : Work (Job σ) := do
  Work.change (·.makeDirectories · resultDir)
  return ⟨resultDir, .empty, [], executor⟩

/-! ### Names of directories -/

/-- The name with a number; the first has none. -/
def numbered (base : String) (n : Nat) : String :=
  if n == 1 then base else base ++ "." ++ toString n

/-- The least number from `n` on that is free, of so many that are tried. -/
def firstFree (taken : Nat → Bool) (n : Nat) : (tries : Nat) → Nat
  | 0 => n
  | tries + 1 => if taken n then firstFree taken (n + 1) tries else n

/-- How far the numbers of a base have been used up. -/
def usedUp (job : Job σ) (base : String) : Nat :=
  (job.used.get? base).getD 0

/-- The number for the next run of a base. There cannot be more names that are
taken than there are entries, so as many tries and one more are enough. -/
def nextNumber (job : Job σ) (h : Host) (base : String) : Nat :=
  firstFree (fun n => h.exists? (Path.join job.resultDir (numbered base n)))
    (job.usedUp base + 1) (h.tree.entries.length + 2)

/-- The name of the next test's directory. -/
def nextDirName (spec : Spec) : WorkWith (Job σ) String :=
  fun (job, h) =>
    let n := job.nextNumber h spec.base
    (.ok (numbered spec.base n), ({ job with used := job.used.insert spec.base n }, h))

/-! ### One test -/

/-- A test has one line in the log, however many its message has. -/
def logLine (dirName : String) (s : Status) : String :=
  s.verdict.name ++ "\t" ++ dirName ++ "\t" ++ Text.join " " (Text.lines s.message) ++ "\n"

def statusLog (resultDir : String) : String :=
  Path.join resultDir "status.log"

def appendStatus (dirName : String) (s : Status) : WorkWith (Job σ) Unit := do
  let resultDir ← WorkWith.see (·.resultDir)
  WorkWith.host (Work.change (·.append · (statusLog resultDir) (logLine dirName s)))

/-- Runs one test. A test that fails has an outcome as any other; a failure of
the work means that the job cannot proceed. -/
def runTest (e : Executor σ) (spec : Spec) : WorkWith (Job σ) Outcome := do
  let dirName ← nextDirName spec
  let resultDir ← WorkWith.see (·.resultDir)
  let dirs ← WorkWith.host (TrialDirs.create resultDir dirName)
  let start ← WorkWith.host (Work.see (·.clock))
  let result ← WorkWith.attempt
    (WorkWith.zoom (·.executor) (fun s job => { job with executor := s })
      (e.run ⟨spec.name, spec.args, dirs⟩))
  let finish ← WorkWith.host (Work.see (·.clock))
  let status := Status.ofResult result
  appendStatus dirName status
  return {
    spec
    testDir := dirs.dir
    status
    failure := match result with
      | .ok _ => none
      | .error f => some f
    span := finish - start }

/-! ### Many tests -/

structure Options where
  /-- Stop after the first test that fails. -/
  stopOnFail : Bool
  /-- Run only the tests with this keyword. -/
  filter : Option String

/-- The tests that the options leave. -/
def Options.select (o : Options) (specs : List Spec) : List Spec :=
  match o.filter with
  | some keyword => specs.filter (·.selectedBy keyword)
  | none => specs

def report (e : Event) : WorkWith (Job σ) Unit :=
  WorkWith.alter fun job => { job with events := job.events ++ [e] }

/-- Runs the tests in order and counts them; gives the counts and the outcomes. -/
def runEach (e : Executor σ) (stopOnFail : Bool) :
    List Spec → Summary → WorkWith (Job σ) (Summary × List Outcome)
  | [], summary => return (summary, [])
  | spec :: rest, summary => do
    report (.testStart spec)
    let outcome ← runTest e spec
    report (.testComplete outcome)
    let summary := summary.add outcome
    if stopOnFail && !outcome.passed then return (summary, [outcome])
    let (summary, outcomes) ← runEach e stopOnFail rest summary
    return (summary, outcome :: outcomes)

/-- Runs the tests that are selected. -/
def runAll (e : Executor σ) (specs : List Spec) (o : Options) :
    WorkWith (Job σ) (Summary × List Outcome) := do
  let start ← WorkWith.host (Work.see (·.clock))
  let selected := o.select specs
  let resultDir ← WorkWith.see (·.resultDir)
  report (.jobStart resultDir selected.length)
  let (summary, outcomes) ← runEach e o.stopOnFail selected .empty
  let finish ← WorkWith.host (Work.see (·.clock))
  let summary := { summary with span := finish - start }
  report (.jobComplete summary outcomes)
  return (summary, outcomes)

end Job
end DeviceLab
