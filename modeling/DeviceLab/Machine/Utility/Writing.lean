import DeviceLab.Machine.Call
import DeviceLab.Machine.Condition
import DeviceLab.Machine.Format
import DeviceLab.Text.Cut

/-! Utilities that write what their arguments say. -/
namespace DeviceLab.Machine

/-- Words with blanks between them and a newline, which a first argument may forbid. -/
def echoed (c : Call) : String :=
  let (words, ending) : List String × String := match c.args with
    | "-n" :: words => (words, "")
    | words => (words, "\n")
  Text.join " " words ++ ending

/-- Switches of `echo`: for no newline, for escapes and against them. -/
def isEchoSwitch (arg : String) : Bool :=
  match arg.toList with
  | '-' :: c :: cs => (c :: cs).all "neE".toList.contains
  | _ => false

def echo : Utility := fun c h =>
  let letters := (c.args.takeWhile isEchoSwitch).flatMap (·.toList.drop 1)
  let words := Text.join " " (c.args.dropWhile isEchoSwitch)
  let (bytes, ended) :=
    if letters.reverse.find? (· != 'n') == some 'e' then Format.textOf .echo words.toList
    else (Format.bytesOf words.toList, false)
  let bytes := if letters.contains 'n' || ended then bytes else bytes ++ [Flow.newline]
  (.writing 0 (.ofBytes ⟨bytes.toArray⟩) "" c.input, h)

/-- The kind of `echo` in which words may hold escapes. -/
def echoUnescaping : Utility := fun c h =>
  let (bytes, _) := Format.textOf .echo (echoed c).toList
  (.writing 0 (.ofBytes ⟨bytes.toArray⟩) "" c.input, h)

/-- How a kind of `printf` speaks. -/
structure Printing where
  /-- Escapes may be hexadecimal. -/
  hex : Bool
  misuse : Call → Trace
  noNumber : String → String
  halfNumber : String → String
  /-- About an argument there is no place for. -/
  surplus : String → Option String

def Printing.run (p : Printing) : Utility := fun c h =>
  match (if c.args.head? == some "--" then c.args.tail else c.args) with
  | [] => (p.misuse c, h)
  | format :: args =>
    match Format.print p.hex format args with
    | .error directive =>
      (c.plain 1 "" (c.complaint (directive ++ ": invalid conversion specification")), h)
    | .ok r =>
      let wrong := r.wrong.map fun arg =>
        if arg.toList.head?.any Char.isDigit then p.halfNumber arg else p.noNumber arg
      let err := Text.join "" ((wrong ++ (r.args.head?.bind p.surplus).toList).map c.complaint)
      (.writing (if wrong.isEmpty then 0 else 1) (.ofBytes ⟨r.out.toArray⟩) err c.input, h)

def printf : Utility :=
  Printing.run {
    hex := true
    misuse := fun c => c.misused "missing operand" 1
    noNumber := fun arg => "'" ++ arg ++ "': expected a numeric value"
    halfNumber := fun arg => "'" ++ arg ++ "': value not completely converted"
    surplus := fun arg =>
      some ("warning: ignoring excess arguments, starting with '" ++ arg ++ "'") }

/-- The `printf` of a shell. -/
def printfOfShell : Utility :=
  Printing.run {
    hex := false
    misuse := fun c => c.plain 2 "" (c.complaint "usage: printf format [arg ...]")
    noNumber := fun arg => arg ++ ": expected numeric value"
    halfNumber := fun arg => arg ++ ": not completely converted"
    surplus := fun _ => none }

def yes : Utility :=
  withOptions "" "" 1 fun c o h =>
    let words := if o.operands.isEmpty then ["y"] else o.operands
    (.writing 0 ⟨.empty, .repeats (Utf8.encode (Text.join " " words ++ "\n"))⟩ "" c.input, h)

/-- Numbers from one to another by steps. -/
def numbers (from' step last : Int) : (count : Nat) → List Int
  | 0 => []
  | count + 1 =>
    if (step > 0 && from' > last) || (step < 0 && from' < last) then []
    else from' :: numbers (from' + step) step last count

def seq : Utility := fun c h =>
  let lines (first step last : Int) : Trace × Host :=
    let count := ((last - first).natAbs + 1)
    let out := Text.join "" ((numbers first step last count).map fun n => toString n ++ "\n")
    (c.plain 0 out "", h)
  match c.args.find? fun arg => (Condition.integer arg).toOption.isNone with
  | some arg => (c.misused ("invalid floating point argument: '" ++ arg ++ "'") 1, h)
  | none =>
    match c.args.filterMap fun arg => (Condition.integer arg).toOption with
    | [last] => lines 1 1 last
    | [first, last] => lines first 1 last
    | [first, step, last] => lines first step last
    | [] => (c.misused "missing operand" 1, h)
    | _ :: _ :: _ :: extra :: _ =>
      (c.misused ("extra operand '" ++ toString extra ++ "'") 1, h)

end DeviceLab.Machine
