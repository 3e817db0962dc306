import DeviceLab.Catalog
import DeviceLab.Trial.Status

/-! Running a test and recording how it went.

An executor turns an invocation into a pass or a failure, with a state of its
own beside the host. The runner writes the status file, whatever came of it. -/
namespace DeviceLab

/-- One test to run: which, with what parameters and where. -/
structure Invocation where
  name : String
  params : List String
  dirs : TrialDirs

/-- Work on a host with a state of its own beside it. -/
abbrev WorkWith (σ : Type) := ExceptT Failure (StateM (σ × Host))

namespace WorkWith
variable {σ τ α : Type}

/-- Work that leaves the state alone. -/
def host (w : Work α) : WorkWith σ α :=
  fun (s, h) =>
    let (r, h) := w h
    (r, (s, h))

/-- Work on a part of the state. -/
def zoom (get : σ → τ) (set : τ → σ → σ) (w : WorkWith τ α) : WorkWith σ α :=
  fun (s, h) =>
    let (r, (t, h)) := w (get s, h)
    (r, (set t s, h))

/-- Changes the state. -/
def alter (f : σ → σ) : WorkWith σ Unit :=
  fun (s, h) => (.ok (), (f s, h))

def see (f : σ → α) : WorkWith σ α :=
  fun (s, h) => (.ok (f s), (s, h))

/-- Does the work and gives its result, whatever it is. -/
def attempt (w : WorkWith σ α) : WorkWith σ (Except Failure α) :=
  fun s =>
    let (r, s) := w s
    (.ok r, s)

end WorkWith

/-- A way to execute tests. -/
structure Executor (σ : Type) where
  execute : Invocation → WorkWith σ Unit

namespace Executor
variable {σ : Type}

/-- Runs the body of the test in the process itself. -/
def inProcess (catalog : Catalog Host) : Executor σ where
  execute inv := WorkWith.host fun h =>
    match catalog.create inv.name with
    | .error f => (.error f, h)
    | .ok test => test.run inv.name ⟨inv.dirs, inv.params⟩ h

/-- What came of the test once its status is to be written: a status that cannot
be written is a failure of a test that passed. -/
def settle (result written : Except Failure Unit) : Except Failure Unit :=
  match result with
  | .ok _ => written
  | .error f => .error f

/-- Executes the test and writes its status. -/
def run (e : Executor σ) (inv : Invocation) : WorkWith σ Unit := do
  let result ← WorkWith.attempt (e.execute inv)
  let written ← WorkWith.attempt (WorkWith.host ((Status.ofResult result).write inv.dirs.dir))
  match settle result written with
  | .ok _ => return
  | .error f => throw f

end Executor
end DeviceLab
