import DeviceLab.Job.Outcome

/-! The report of a job on a console.

A verbose report gives each test a line, any other a mark. The failures follow
at the end, then the counts. -/
namespace DeviceLab.Job

structure Console where
  verbose : Bool
  color : Bool

namespace Console

/-- The text in a colour, if the console has colours. -/
def paint (c : Console) (code text : String) : String :=
  if c.color then "\x1b[" ++ code ++ "m" ++ text ++ "\x1b[0m" else text

def milliseconds (span : Nat) : String :=
  " (" ++ toString (span / Seconds.millisecond) ++ "ms)"

/-- How a test went. -/
def mark (c : Console) (o : Outcome) : String :=
  match o.failure with
  | none =>
    if c.verbose then c.paint "32" "PASSED" ++ milliseconds o.span ++ "\n" else c.paint "32" "."
  | some f =>
    if c.verbose then c.paint "31" "FAILED" ++ " " ++ f.kind ++ milliseconds o.span ++ "\n"
    else c.paint "31" "F"

def failureLines (o : Outcome) : String :=
  "___________ " ++ o.dirName ++ " ___________\n    " ++ o.status.message ++ "\n"

def failures (c : Console) (outcomes : List Outcome) : String :=
  match outcomes.filter (!·.passed) with
  | [] => ""
  | failed =>
    "\n" ++ c.paint "1;31" "=================== FAILURES ===================" ++ "\n" ++
      Text.join "" (failed.map failureLines)

def counts (c : Console) (s : Summary) : String :=
  let parts :=
    (if s.passed > 0 then [c.paint "32" (toString s.passed ++ " passed")] else []) ++
    (if s.failed > 0 then [c.paint "31" (toString s.failed ++ " failed")] else [])
  if parts.isEmpty then "no tests ran" else Text.join ", " parts

/-- What the console shows for an event. -/
def shown (c : Console) : Event → String
  | .jobStart dir count =>
    c.paint "1" "=================== autotest job starts ===================" ++
      "\nresults: " ++ dir ++ "\ncollected " ++ toString count ++ " test(s)\n\n"
  | .testStart spec => if c.verbose then spec.base ++ " ... " else ""
  | .testComplete outcome => c.mark outcome
  | .jobComplete summary outcomes =>
    (if c.verbose then "" else "\n") ++ c.failures outcomes ++ "\n====== " ++ c.counts summary ++
      " in " ++ Seconds.text 2 summary.span ++ "s ======\n"

/-- What the console shows for the events of a job. -/
def text (c : Console) (events : List Event) : String :=
  Text.join "" (events.map c.shown)

end Console
end DeviceLab.Job
