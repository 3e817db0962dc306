import DeviceLab.Dict
import DeviceLab.Text.Quoted
import DeviceLab.Trial.Body

/-! The catalog of tests, by name. -/
namespace DeviceLab

/-- The tests that work on a state of the given type. -/
structure Catalog (σ : Type) where
  tests : Dict (TestCase σ)

namespace Catalog
variable {σ : Type}

def empty : Catalog σ := ⟨.empty⟩

/-- Adds a test in place of any of the same name. -/
def register (c : Catalog σ) (name : String) (test : TestCase σ) : Catalog σ :=
  ⟨c.tests.insert name test⟩

def contains (c : Catalog σ) (name : String) : Bool :=
  c.tests.contains name

/-- The names of the tests, in order. -/
def names (c : Catalog σ) : List String :=
  c.tests.keys

/-- The test of a name. -/
def create (c : Catalog σ) (name : String) : Except Failure (TestCase σ) :=
  match c.tests.get? name with
  | some test => .ok test
  | none => .error (.error ("test " ++ name ++ " not found in catalog"))

/-- The catalog as it shows while debugging. -/
def debugText (c : Catalog σ) : String :=
  "Catalog \x7b tests: [" ++ Text.join ", " (c.names.map Text.quoted) ++ "] \x7d"

end Catalog
end DeviceLab
