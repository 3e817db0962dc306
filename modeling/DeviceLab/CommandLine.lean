import DeviceLab.Arguments

/-! The command line of the bench: what it can be asked to do, and how. -/
namespace DeviceLab

open Arguments

/-- Where and how tests are run. -/
structure RunOptions where
  resultsDir : Option String
  inProcess : Bool
  /-- Seconds after which a test is stopped. -/
  timeout : Option Nat
  deriving DecidableEq

inductive Action where
  | run (test : String) (tag : Option String) (params : List String) (options : RunOptions)
  | job (control : String) (stopOnFail verbose : Bool) (keyword : Option String)
    (options : RunOptions)
  | list
  | status (testDir : String)
  | scheduler (logDir logName : Option String)
  /-- Runs a test for the bench that has started this one. -/
  | child (testDir name : String) (params : List String)
  deriving DecidableEq

/-- What is asked of the bench, and the configuration that is named for it. -/
structure CommandLine where
  config : Option String
  action : Action
  deriving DecidableEq

namespace CommandLine

/-! ### Grammar -/

def valued (name : String) (kind : Kind) : Switch :=
  ⟨name, some name, none, .value kind⟩

def flag (name : String) (letter : Option Char) : Switch :=
  ⟨name, some name, letter, .flag⟩

/-- The switches that every grammar has. -/
def everywhere : List Switch :=
  [valued "config" .path, ⟨"help", some "help", some 'h', .help⟩]

/-- The switches of what runs tests. -/
def running : List Switch :=
  [⟨"results", some "results", some 'r', .value .path⟩, flag "in-process" none,
    valued "timeout" .count]

def required (name : String) (kind : Kind) : Position :=
  ⟨name, kind, true, false, false⟩

/-- The grammar in front of the name of a subcommand. -/
def outer : Grammar where
  switches := everywhere ++ [⟨"version", some "version", some 'V', .version⟩]
  positions := []
  subcommands := ["run", "job", "list", "status", "scheduler", "__exec-test"]

/-- The grammar behind the name of a subcommand. -/
def inner (subcommand : String) : Grammar :=
  let (switches, positions) : List Switch × List Position :=
    match subcommand with
    | "run" =>
      (running ++ [valued "tag" .text],
        [required "test" .text, ⟨"params", .text, false, true, false⟩])
    | "job" =>
      (running ++ [flag "exitfirst" (some 'x'), flag "verbose" (some 'v'),
          ⟨"keyword", none, some 'k', .value .text⟩],
        [required "control" .path])
    | "status" => ([], [required "testdir" .path])
    | "scheduler" => ([valued "log-dir" .path, valued "log-name" .text], [])
    | "__exec-test" =>
      ([valued "testdir" .path, valued "name" .text], [⟨"params", .text, false, false, true⟩])
    | _ => ([], [])
  ⟨everywhere ++ switches, positions, []⟩

/-- The switches of a subcommand that have to be there. -/
def mandatory (subcommand : String) : List String :=
  if subcommand == "__exec-test" then ["testdir", "name"] else []

/-! ### Meaning -/

def text (v : Values) (name : String) : String :=
  (v.get? name).getD ""

def optionsOf (v : Values) : RunOptions where
  resultsDir := v.get? "results"
  inProcess := v.has "in-process"
  timeout := (v.get? "timeout").bind (Reading.nat? Reading.maxWord64)

/-- What a subcommand with such values asks for. -/
def actionOf (subcommand : String) (v : Values) : Action :=
  match subcommand with
  | "run" => .run (text v "test") (v.get? "tag") (v.all "params") (optionsOf v)
  | "job" =>
    .job (text v "control") (v.has "exitfirst") (v.has "verbose") (v.get? "keyword") (optionsOf v)
  | "status" => .status (text v "testdir")
  | "scheduler" => .scheduler (v.get? "log-dir") (v.get? "log-name")
  | "__exec-test" => .child (text v "testdir") (text v "name") (v.all "params")
  | _ => .list

/-- The values behind the name of a subcommand. -/
def innerValues (subcommand : String) (args : List String) : Except Refusal Values := do
  let g := inner subcommand
  let outcome ← Progress.start.run g args
  let values ← outcome.progress.finish g
  if (mandatory subcommand).any (!values.has ·) then throw .missingArgument
  return values

/-- Reads the arguments of the bench. Of several configurations the last counts. -/
def of (args : List String) : Except Refusal CommandLine := do
  let outcome ← Progress.start.run outer args
  match outcome.subcommand with
  | none =>
    let values ← outcome.progress.finish outer
    throw (if values.isEmpty then .nothing else .missingSubcommand)
  | some (subcommand, rest) =>
    let inside ← innerValues subcommand rest
    let outside ← outcome.progress.finish outer
    return ⟨(inside.get? "config").or (outside.get? "config"), actionOf subcommand inside⟩

end CommandLine
end DeviceLab
