import DeviceLab.Machine.Condition
import DeviceLab.Machine.Search
import DeviceLab.Machine.Utility.Files
import DeviceLab.Machine.Utility.Lines
import DeviceLab.Machine.Utility.Reading
import DeviceLab.Machine.Utility.Writing

/-! The utilities of a machine: the small programs found on every one. -/
namespace DeviceLab.Machine

def always (code : Nat) : Utility :=
  fun c h => (c.plain code "" "", h)

/-- Waits until files are safe, which they always are. -/
def sync : Utility :=
  withOptions "df" "" 1 fun c o h =>
    match o.operands.find? (!h.exists? ·) with
    | some path =>
      let message := "error opening '" ++ path ++ "': " ++ OsError.notFound.reason
      (c.plain 1 "" (c.complaint message), h)
    | none => (c.plain 0 "" "", h)

/-! ### Time -/

/-- A span such as `0.5` or `2m`, in nanoseconds. -/
def span? (s : String) : Option Nat :=
  let cs := s.toList
  let (digits, unit) : List Char × Nat := match cs.getLast? with
    | some 's' => (cs.dropLast, 1)
    | some 'm' => (cs.dropLast, 60)
    | some 'h' => (cs.dropLast, 3600)
    | some 'd' => (cs.dropLast, 86400)
    | _ => (cs, 1)
  let whole := digits.takeWhile (· != '.')
  let part := (digits.drop (whole.length + 1)).take 9
  (Reading.digits? (whole ++ part)).map fun n =>
    n * unit * Seconds.second / Nat.pow 10 part.length

def sleep : Utility :=
  withOptions "" "" 1 fun c o h =>
    if o.operands.isEmpty then (c.misused "missing operand" 1, h)
    else
      match o.operands.find? fun s => (span? s).isNone with
      | some s =>
        if s.toLower == "infinity" || s.toLower == "inf" then
          (⟨.overdue, .empty, .empty, c.input⟩, h)
        else (c.misused ("invalid time interval '" ++ s ++ "'") 1, h)
      | none =>
        (c.plain 0 "" "", h.spend ((o.operands.filterMap span?).foldl (· + ·) 0))

/-! ### Conditions -/

/-- Tests what the words say; what is wrong with them is told by `message`. -/
def testing (message : Condition.Fault → String) (c : Call) (words : List String) (h : Host) :
    Trace :=
  match Condition.holds h words with
  | .ok holds => c.plain (if holds then 0 else 1) "" ""
  | .error f => c.plain 2 "" (c.complaint (message f))

def test (message : Condition.Fault → String) : Utility :=
  fun c h => (testing message c c.args h, h)

/-- The kind of `test` that ends with a bracket. -/
def bracket (message : Condition.Fault → String) (unclosed : String) : Utility := fun c h =>
  if c.args.getLast? == some "]" then (testing message c c.args.dropLast h, h)
  else (c.plain 2 "" (c.complaint unclosed), h)

/-! ### The environment -/

/-- Tells the values of variables, or of all of them with their names. -/
def printenv : Utility := fun c h =>
  if c.args.isEmpty then
    (c.plain 0 (Text.join "" (h.environment.map fun v => v.1 ++ "=" ++ v.2 ++ "\n")) "", h)
  else
    let found := c.args.map h.valueOf?
    let out := Text.join "" ((found.filterMap id).map (· ++ "\n"))
    (c.plain (if found.all Option.isSome then 0 else 1) out "", h)

/-- Tells where programs are found. -/
def which : Utility := fun c h =>
  let found := c.args.map fun name => (find h name).toOption
  let out := Text.join "" ((found.filterMap id).map (· ++ "\n"))
  (c.plain (if found.all Option.isSome && !found.isEmpty then 0 else 1) out "", h)

/-! ### All of them -/

def utilities : List (String × Utility) :=
  [("true", always 0), ("false", always 1), ("sync", sync), ("echo", echo),
   ("printf", printf), ("yes", yes), ("seq", seq), ("cat", cat), ("head", head),
   ("tail", tail), ("wc", wc), ("tr", tr), ("tee", tee), ("sleep", sleep), 
   ("test", test Condition.Fault.message), ("[", bracket Condition.Fault.message "missing ']'"),
   ("printenv", printenv), ("which", which), ("grep", grep), ("sort", sort), ("uniq", uniq),
   ("cut", cut), ("mkdir", mkdir), ("touch", touch), ("rm", rm), ("rmdir", rmdir),
   ("cp", transfer true), ("mv", transfer false), ("ls", ls), ("pwd", pwd),
   ("basename", basename), ("dirname", dirname)]

end DeviceLab.Machine
