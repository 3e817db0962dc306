import DeviceLab.Device.Session
import DeviceLab.Trial.Dirs

/-! Test bodies.

A test is given its directories and its parameters. It is prepared and executed,
and ends well, with a failure or in a panic. A test that is a procedure talks to a
device and knows its parameters only. -/
namespace DeviceLab

/-- What a test gets to work with. -/
structure Context where
  dirs : TrialDirs
  params : List String

/-- A test that works on a state of the given type. -/
abbrev TestCase (σ : Type) := Context → ExceptT Abort (StateM σ) Unit

namespace TestCase
variable {σ : Type}

/-- First the preparation, then, if that went well, the execution. -/
def inOrder (setup execute : TestCase σ) : TestCase σ := fun ctx => do
  setup ctx
  execute ctx

/-- The failure that a cut means. A panic is reported with the name of the test. -/
def failureOf (name : String) : Abort → Failure
  | .failed f => f
  | .panicked message =>
    .unhandled ("running test " ++ name ++ ": " ++ message.getD "unknown panic")

/-- Runs the body of a test under its name. -/
def run (name : String) (test : TestCase σ) (ctx : Context) : ExceptT Failure (StateM σ) Unit :=
  fun s =>
    let (r, s) := test ctx s
    (r.mapError (failureOf name), s)

end TestCase

/-! ### Parameters and results -/

/-- The parameter at an index, or a failure that says what was expected there. -/
def param (params : List String) (index : Nat) (what : String) : Except Failure String :=
  match params[index]? with
  | some p => .ok p
  | none => .error (.error ("missing parameter " ++ toString (index + 1) ++ ": " ++ what))

namespace Context

/-- The file that results are noted in. -/
def keyvalPath (ctx : Context) : String :=
  Path.join ctx.dirs.results "keyval"

/-- A line for a pair. -/
def keyvalLine (pair : String × String) : String :=
  pair.1 ++ "=" ++ pair.2 ++ "\n"

/-- Notes pairs with the results, a line for each. -/
def record (ctx : Context) (pairs : List (String × String)) : Work Unit :=
  Work.change (·.append · ctx.keyvalPath (Text.join "" (pairs.map keyvalLine)))

end Context

/-- The test a procedure is when a state answers it. -/
def TestCase.ofProcedure {σ : Type}
    (answer : Context → (r : Device.Request) → σ → r.Reply × σ)
    (p : List String → Procedure Unit) : TestCase σ :=
  fun ctx s => (ExceptT.run (p ctx.params)).run (answer ctx) s

end DeviceLab
