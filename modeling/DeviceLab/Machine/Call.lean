import DeviceLab.Machine.Flow

/-! How the utilities of a machine are called, and how they read their options. -/
namespace DeviceLab.Machine

/-- How a utility is called: its name as given, its arguments and what it can read. -/
structure Call where
  name : String
  args : List String
  input : Flow

/-- What a utility does when it is called. -/
abbrev Utility := Call → Host → Trace × Host

namespace Call

/-- Ends with a code, a text on the output and another on the side. -/
def plain (c : Call) (code : Nat) (out err : String) : Trace :=
  .plain code out err c.input

/-- A line of complaint. -/
def complaint (c : Call) (message : String) : String :=
  c.name ++ ": " ++ message ++ "\n"

/-- Arguments that make no sense. -/
def misused (c : Call) (message : String) (code : Nat) : Trace :=
  c.plain code "" (c.complaint message ++ "Try '" ++ c.name ++ " --help' for more information.\n")

end Call

/-! ### Options -/

/-- Options with their values, and the other arguments. -/
structure Options where
  given : List (Char × String)
  operands : List String

namespace Options

def has (o : Options) (c : Char) : Bool :=
  o.given.any (·.1 == c)

/-- The value of an option. The last one counts. -/
def value? (o : Options) (c : Char) : Option String :=
  o.given.reverse.lookup c

/-- Where the reading of arguments stands: an option may wait for its value, and
behind two dashes there are no options any more. -/
structure Progress where
  options : Options
  waiting : Option Char
  noMore : Bool

def Progress.give (p : Progress) (c : Char) (value : String) : Progress :=
  { p with options.given := p.options.given ++ [(c, value)], waiting := none }

/-- Letters behind a dash. -/
def letters (plain valued : List Char) (p : Progress) : List Char → Except String Progress
  | [] => .ok p
  | c :: cs =>
    if plain.contains c then letters plain valued (p.give c "") cs
    else if valued.contains c then
      if cs.isEmpty then .ok { p with waiting := some c } else .ok (p.give c (String.ofList cs))
    else .error ("invalid option -- '" ++ c.toString ++ "'")

def next (plain valued : List Char) (p : Progress) (arg : String) : Except String Progress :=
  match p.waiting with
  | some c => .ok (p.give c arg)
  | none =>
    let operand := { p with options.operands := p.options.operands ++ [arg] }
    if p.noMore then .ok operand
    else
      match arg.toList with
      | ['-', '-'] => .ok { p with noMore := true }
      | '-' :: '-' :: _ => .error ("unrecognized option '" ++ arg ++ "'")
      | '-' :: c :: cs => letters plain valued p (c :: cs)
      | _ => .ok operand

/-- Reads arguments in which options may stand anywhere. -/
def read (plain valued : String) (args : List String) : Except String Options := do
  let p ← args.foldlM (next plain.toList valued.toList) ⟨⟨[], []⟩, none, false⟩
  match p.waiting with
  | some c => .error ("option requires an argument -- '" ++ c.toString ++ "'")
  | none => .ok p.options

end Options

/-- A utility with options. -/
def withOptions (plain valued : String) (bad : Nat)
    (run : Call → Options → Host → Trace × Host) : Utility :=
  fun c h =>
    match Options.read plain valued c.args with
    | .ok o => run c o h
    | .error message => (c.misused message bad, h)

end DeviceLab.Machine
