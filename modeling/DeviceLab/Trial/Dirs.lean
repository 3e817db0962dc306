import DeviceLab.Host

/-! The directories of one test run.

A test runs in a directory of its own below the results directory, with parts
for results, profiles, debugging and temporary files. -/
namespace DeviceLab

structure TrialDirs where
  dir : String
  results : String
  profiling : String
  debug : String
  tmp : String
  deriving DecidableEq

namespace TrialDirs

/-- The parts of the directory. -/
def of (dir : String) : TrialDirs :=
  { dir
    results := Path.join dir "results"
    profiling := Path.join dir "profiling"
    debug := Path.join dir "debug"
    tmp := Path.join dir "tmp" }

/-- Makes the directory of a run and its parts. No two runs share one. -/
def create (resultDir name : String) : Work TrialDirs := do
  let dir := Path.join resultDir name
  if ← Work.see (·.exists? dir) then
    throw (.error ("test directory " ++ dir ++ " already exists"))
  Work.change (·.makeDirectories · resultDir)
  Work.change (·.makeDirectory · dir)
  let dirs := of dir
  for part in [dirs.results, dirs.profiling, dirs.debug, dirs.tmp] do
    Work.change (·.makeDirectory · part)
  return dirs

/-- The directories of a run that is there already, by absolute paths. -/
def reopen (dir : String) : Work TrialDirs := do
  if !(← Work.see (·.isDirectory dir)) then
    throw (.error ("test directory " ++ dir ++ " does not exist"))
  let place ← Work.look (·.locate · dir)
  return of (Path.ofNames place)

/-- The name of the directory. -/
def name (d : TrialDirs) : String :=
  (Path.fileName d.dir).getD ""

end TrialDirs
end DeviceLab
