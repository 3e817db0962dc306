import DeviceLab.Command
import DeviceLab.Text.Cut

/-! Scripts: outcomes prepared for the commands of a session.

Each expectation says how the arguments of the next command have to start and
how that command ends. Expectations are used up in order, a mismatch too. -/
namespace DeviceLab

structure Expectation where
  lead : List String
  exit : Option Int32
  out : String
  err : String

structure Script where
  /-- What is still to come. -/
  expected : List Expectation
  /-- The commands so far, the latest first. -/
  ran : List Command

namespace Script

def of (expected : List Expectation) : Script :=
  ⟨expected, []⟩

/-- Have all expectations been used up? -/
def exhausted (s : Script) : Bool :=
  s.expected.isEmpty

/-- The commands so far, in order. -/
def seen (s : Script) : List Command :=
  s.ran.reverse

/-- The reply to a command for which the expectation was next. -/
def reply (c : Command) : Option Expectation → Except Failure Output
  | none => .error (.error ("unexpected command <" ++ c.shellLine ++ ">: no more scripted results"))
  | some e =>
    if e.lead.isPrefixOf c.argv then
      let result : Output := ⟨c.shellLine, e.exit, e.out, e.err⟩
      (if c.mergeStderr then { result with out := result.out ++ result.err } else result).check c
    else
      .error (.error ("unexpected command <" ++ c.shellLine ++ ">: expected <" ++
        Text.join " " e.lead ++ ">"))

/-- Runs a command against the script. -/
def run (c : Command) (s : Script) : Except Failure Output × Script :=
  (reply c s.expected.head?, ⟨s.expected.tail, c :: s.ran⟩)

end Script
end DeviceLab
