import DeviceLab.Datum.Record
import DeviceLab.Host
import DeviceLab.Json.Reader
import DeviceLab.Json.Writer

/-! The written form of a failure.

A failure is written as a table of its kind and its detail, the detail being a
text or, for commands and parse errors, a table of its own. It may also be read
from a list of the two. The process of a failing test leaves a record of it. -/
namespace DeviceLab.Failure

/-- The kinds whose detail is one text. -/
def plainKinds : List (String × (String → Failure)) :=
  [("TestError", .error), ("TestFail", .fail), ("TestNA", .notApplicable),
   ("Unhandled", .unhandled), ("Timeout", .timeout), ("Io", .io), ("Config", .config)]

/-- The table of a kind and its detail. -/
def tagged (kind : String) (detail : Datum) : Datum :=
  .table [("kind", .text kind), ("detail", detail)]

def exitDatum : Option Int32 → Datum
  | some code => .int code.toInt
  | none => .null

def datum : Failure → Datum
  | .error m => tagged "TestError" (.text m)
  | .fail m => tagged "TestFail" (.text m)
  | .notApplicable m => tagged "TestNA" (.text m)
  | .unhandled m => tagged "Unhandled" (.text m)
  | .command line exit out err =>
    tagged "Cmd" (.table [("command", .text line), ("exit_status", exitDatum exit),
      ("stdout", .text out), ("stderr", .text err)])
  | .timeout m => tagged "Timeout" (.text m)
  | .io m => tagged "Io" (.text m)
  | .parse what detail => tagged "Parse" (.table [("what", .text what), ("detail", .text detail)])
  | .config m => tagged "Config" (.text m)

/-! ### Reading -/

def exit? (d : Datum) : Option Int32 :=
  (d.int? Int32.minValue.toInt Int32.maxValue.toInt).map Int32.ofInt

/-- The detail of a command, a table. -/
def command? (detail : Datum) : Option Failure := do
  let .table _ := detail | none
  let r ← Record.of? ["command", "exit_status", "stdout", "stderr"] detail
  let line ← r.required "command" Datum.text?
  let exit ← r.optional "exit_status" exit?
  let out ← r.required "stdout" Datum.text?
  let err ← r.required "stderr" Datum.text?
  return .command line exit out err

/-- The detail of a parse error, a table. -/
def parse? (detail : Datum) : Option Failure := do
  let .table _ := detail | none
  let r ← Record.of? ["what", "detail"] detail
  let what ← r.required "what" Datum.text?
  let detail ← r.required "detail" Datum.text?
  return .parse what detail

/-- The name of a kind: a text, or the one name in a table that has nothing for it. -/
def kind? : Datum → Option String
  | .table [(name, .null)] => some name
  | d => d.text?

/-- The failure of the kind with the detail. -/
def ofParts? (kind detail : Datum) : Option Failure := do
  let kind ← kind? kind
  if kind == "Cmd" then command? detail
  else if kind == "Parse" then parse? detail
  else
    let make ← plainKinds.lookup kind
    detail.text?.map make

/-- The failure a datum stands for. A detail in front of its kind is kept until
the kind is known, so it has to be keepable as a part of the whole. -/
def of? (d : Datum) : Option Failure :=
  match d with
  | .table fields =>
    match fields.filter fun p => p.1 == "kind" || p.1 == "detail" with
    | [("kind", kind), ("detail", detail)] => ofParts? kind detail
    | [("detail", detail), ("kind", kind)] =>
      if detail.readable && detail.depth < Json.maxDepth then ofParts? kind detail else none
    | _ => none
  | .list [kind, detail] => ofParts? kind detail
  | _ => none

/-- The failure a text stands for. -/
def read? (s : String) : Option Failure :=
  (Json.read? s).bind of?

/-- The failure on one line. -/
def compact (f : Failure) : String :=
  Json.compact f.datum

/-- The failure over several lines, as record files hold it. -/
def pretty (f : Failure) : String :=
  Json.pretty f.datum

end DeviceLab.Failure

/-! ### Error records

The process of a failing test hands its failure on in a file of the debug directory
that is named for the process. Whoever started the process looks at that one file only. -/

namespace DeviceLab.ErrorRecord

/-- The file of a process. -/
def path (debugDir : String) (pid : Nat) : String :=
  Path.join debugDir ("error-" ++ toString pid)

def write (debugDir : String) (pid : Nat) (f : Failure) : Work Unit :=
  Work.change (·.write · (path debugDir pid) (.text f.pretty))

/-- The record of a process, if it left one. -/
def read (debugDir : String) (pid : Nat) : Work (Option Failure) := do
  let path := path debugDir pid
  if !(← Work.see (·.exists? path)) then return none
  let text ← Work.look (·.readText · path)
  match Failure.read? text with
  | some f => return some f
  | none => throw (.parse ("error record " ++ path) "the text is no record")

end DeviceLab.ErrorRecord
