import DeviceLab.Decimal.Binary64
import DeviceLab.Files.Path
import DeviceLab.Text.Cut
import DeviceLab.Trial.Status

/-! What a job is to run, what became of its tests and of it, and what is reported meanwhile. -/
namespace DeviceLab.Job

/-- One test of a job. A tag stands in for the name where the test is to be told from others. -/
structure Spec where
  name : String
  args : List String
  tag : Option String
  deriving DecidableEq

namespace Spec

/-- What the directory of the test is named after. -/
def base (s : Spec) : String :=
  s.tag.getD s.name

/-- Does the keyword occur in the name or in the tag? -/
def selectedBy (keyword : String) (s : Spec) : Bool :=
  Text.contains keyword s.name || s.tag.any (Text.contains keyword)

end Spec

/-- What became of one test. -/
structure Outcome where
  spec : Spec
  testDir : String
  status : Status
  failure : Option Failure
  span : Nat

namespace Outcome

def passed (o : Outcome) : Bool :=
  o.failure.isNone

/-- The name of the test's directory. -/
def dirName (o : Outcome) : String :=
  (Path.fileName o.testDir).getD ""

end Outcome

/-- What became of a job. -/
structure Summary where
  total : Nat
  passed : Nat
  failed : Nat
  span : Nat
  deriving DecidableEq

namespace Summary

def success (s : Summary) : Bool :=
  s.failed == 0

/-- Before the first test. -/
def empty : Summary := ⟨0, 0, 0, 0⟩

/-- One more test has ended. -/
def add (s : Summary) (outcome : Outcome) : Summary :=
  let s := { s with total := s.total + 1 }
  if outcome.passed then { s with passed := s.passed + 1 }
  else { s with failed := s.failed + 1 }

end Summary

/-- What a job reports as it proceeds. -/
inductive Event where
  | jobStart (resultDir : String) (count : Nat)
  | testStart (spec : Spec)
  | testComplete (outcome : Outcome)
  | jobComplete (summary : Summary) (outcomes : List Outcome)

end DeviceLab.Job
