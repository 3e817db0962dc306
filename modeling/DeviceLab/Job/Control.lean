import DeviceLab.Datum.Record
import DeviceLab.Host
import DeviceLab.Job.Outcome
import DeviceLab.Toml.Document

/-! Control files: the tests of a job as a document. -/
namespace DeviceLab.Job

def Spec.of? (d : Datum) : Option Spec := do
  let r ← Record.of? ["name", "args", "tag"] d
  let name ← r.required "name" Datum.text?
  let args ← r.withDefault "args" [] (Datum.list? Datum.text?)
  let tag ← r.nullable "tag" Datum.text?
  return ⟨name, args, tag⟩

namespace Control

def of? (d : Datum) : Option (List Spec) := do
  let r ← Record.of? ["test"] d
  r.withDefault "test" [] (Datum.list? Spec.of?)

/-- The tests a text lists. -/
def read (text : String) : Except Failure (List Spec) :=
  match (Toml.read? text).bind of? with
  | some specs => .ok specs
  | none => .error (.parse "control file" "the text lists no tests")

/-- The tests a file lists. -/
def ofFile (path : String) (h : Host) : Except Failure (List Spec) :=
  match h.tree.readText h.cwd path with
  | .ok text => read text
  | .error e => .error (.error ("cannot read control file " ++ path ++ ": " ++ e.text))

end Control
end DeviceLab.Job
