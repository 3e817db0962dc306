import DeviceLab.Decimal.Reading
import DeviceLab.Text.Cut

/-! Arguments of a command line.

A grammar lists switches, which are called by a letter or by a word, and
positions, which are filled in order. A switch that takes a value has it attached
or as the next argument. Values are checked as late as possible: when the next
switch or position is reached or the arguments end. -/
namespace DeviceLab.Arguments

/-! ### Grammars -/

/-- What a value has to be. -/
inductive Kind where
  | text
  /-- A path, which is not empty. -/
  | path
  /-- A natural number below 2^64. -/
  | count

/-- What a switch is for. -/
inductive Role where
  | value (kind : Kind)
  | flag
  | help
  | version

structure Switch where
  name : String
  word : Option String
  letter : Option Char
  role : Role

structure Position where
  name : String
  kind : Kind
  required : Bool
  /-- It takes all arguments that are left, whatever they look like. -/
  greedy : Bool
  /-- It is filled by what stands behind two dashes only. -/
  behindDashes : Bool

structure Grammar where
  switches : List Switch
  positions : List Position
  /-- The names of the grammars that may follow this one. -/
  subcommands : List String

/-- Why arguments are not accepted, or what is asked for in place of an action. -/
inductive Refusal where
  | unknownArgument
  | unknownSubcommand
  | missingSubcommand
  | missingArgument
  /-- A switch without its value, or an empty path. -/
  | missingValue
  | badValue
  | superfluousValue
  | repeated
  | help
  | version
  /-- Nothing is asked for, so help is given. -/
  | nothing
  deriving DecidableEq

/-- The exit code of a program that has got no further. -/
def Refusal.exitCode : Refusal → Nat
  | .help | .version => 0
  | _ => 2

namespace Grammar

def switchOfWord (g : Grammar) (word : List Char) : Option Switch :=
  g.switches.find? fun s => s.word == some (String.ofList word)

def switchOfLetter (g : Grammar) (c : Char) : Option Switch :=
  g.switches.find? fun s => s.letter == some c

/-- The subcommand that shows help. -/
def helpName : String := "help"

/-- Is it the name of a subcommand? -/
def isSubcommand (g : Grammar) (s : String) : Bool :=
  !g.subcommands.isEmpty && (s == helpName || g.subcommands.contains s)

end Grammar

/-! ### What has been read -/

/-- The values of each name. A flag that is set has no values. -/
abbrev Values := List (String × List String)

namespace Values

def has (v : Values) (name : String) : Bool :=
  v.any (·.1 == name)

def all (v : Values) (name : String) : List String :=
  (v.lookup name).getD []

def get? (v : Values) (name : String) : Option String :=
  (v.all name).head?

end Values

/-- A switch or a position whose values are not checked yet. -/
structure Pending where
  name : String
  kind : Kind
  values : List String

structure Progress where
  values : Values
  pending : Option Pending
  /-- The pending switch waits for its value. -/
  waiting : Bool
  /-- How many positions have been filled. -/
  filled : Nat
  /-- From here on everything is a value. -/
  onlyValues : Bool

/-- What came of the arguments: the values and, if one was called, the subcommand
with the arguments behind its name. -/
structure Outcome where
  progress : Progress
  subcommand : Option (String × List String)

namespace Progress

def start : Progress :=
  ⟨[], none, false, 0, false⟩

def check (kind : Kind) (s : String) : Except Refusal Unit :=
  match kind with
  | .text => .ok ()
  | .path => if s.isEmpty then .error .missingValue else .ok ()
  | .count =>
    if (Reading.nat? Reading.maxWord64 s).isSome then .ok () else .error .badValue

/-- Keeps the values of a name, which has none so far. -/
def keep (r : Progress) (name : String) (values : List String) : Except Refusal Progress :=
  if r.values.has name then .error .repeated
  else .ok { r with values := r.values ++ [(name, values)] }

/-- Checks what is pending. -/
def settle (r : Progress) : Except Refusal Progress :=
  match r.pending with
  | none => .ok r
  | some p => do
    if p.values.isEmpty then throw .missingValue
    let r ← keep { r with pending := none, waiting := false } p.name p.values
    p.values.forM (check p.kind)
    return r

/-! ### Switches -/

/-- What an argument that looks like a switch turns out to be. -/
inductive Step where
  | switch (r : Progress)
  | value

/-- Does the position that is next take arguments of any look? -/
def takesAny (g : Grammar) (r : Progress) : Bool :=
  g.positions[r.filled]?.any (·.greedy)

/-- A switch, with the value that is attached to it, if any. -/
def take (r : Progress) (s : Switch) (attached : Option (List Char)) : Except Refusal Progress :=
  match s.role with
  | .value kind => do
    let r ← r.settle
    match attached with
    | some value => settle { r with pending := some ⟨s.name, kind, [String.ofList value]⟩ }
    | none => return { r with pending := some ⟨s.name, kind, []⟩, waiting := true }
  | role => do
    let r ← r.settle
    match role with
    | .help => throw .help
    | .version => throw .version
    | _ => r.keep s.name []

/-- The part in front of the first equals sign and the part behind it, if there is one. -/
def cutValue (cs : List Char) : List Char × Option (List Char) :=
  match Text.cutOnce '=' cs with
  | some (name, value) => (name, some value)
  | none => (cs, none)

/-- An argument that begins with two dashes. -/
def word (g : Grammar) (r : Progress) (cs : List Char) : Except Refusal Step :=
  let (name, attached) := cutValue cs
  match g.switchOfWord name with
  | some s =>
    match s.role, attached with
    | .value _, _ | _, none => (r.take s attached).map .switch
    | _, some _ => .error .superfluousValue
  | none => if r.takesAny g then .ok .value else .error .unknownArgument

/-- Letters behind one dash. A letter whose switch takes a value is followed by it. -/
def letters (g : Grammar) (r : Progress) : List Char → Except Refusal Progress
  | [] => .ok r
  | c :: cs =>
    match g.switchOfLetter c with
    | none => .error .unknownArgument
    | some s =>
      match s.role, cs with
      | .value _, [] => r.take s none
      | .value _, '=' :: value => r.take s (some value)
      | .value _, value => r.take s (some value)
      | _, cs => (r.take s none).bind fun r => letters g r cs

/-- An argument that begins with one dash. -/
def letterGroup (g : Grammar) (r : Progress) (cs : List Char) : Except Refusal Step :=
  if r.takesAny g && cs.any fun c => (g.switchOfLetter c).isNone then .ok .value
  else (r.letters g cs).map .switch

/-- What an argument is before any dashes that end the switches. -/
def classify (g : Grammar) (r : Progress) (arg : String) : Except Refusal Step :=
  match arg.toList with
  | '-' :: '-' :: c :: cs => r.word g (c :: cs)
  | '-' :: c :: cs => if c == '-' then .ok .value else r.letterGroup g (c :: cs)
  | _ => .ok .value

/-! ### Positions -/

/-- The position that is filled next. -/
def nextPosition (g : Grammar) (r : Progress) : Option Position :=
  if r.onlyValues && g.positions.any (·.behindDashes) then g.positions.getLast?
  else g.positions[r.filled]?

/-- Puts a value at the position that is next. -/
def place (g : Grammar) (r : Progress) (arg : String) : Except Refusal Progress :=
  match r.nextPosition g with
  | none =>
    let escaped := r.onlyValues && g.isSubcommand arg
    .error (if !g.subcommands.isEmpty && !escaped then .unknownSubcommand else .unknownArgument)
  | some p =>
    if p.behindDashes && !r.onlyValues then .error .unknownArgument
    else if p.greedy || p.behindDashes then
      match r.pending with
      | some q =>
        if q.name == p.name then
          .ok { r with pending := some { q with values := q.values ++ [arg] } }
        else first p
      | none => first p
    else do
      let r ← r.settle
      return { r with pending := some ⟨p.name, p.kind, [arg]⟩, filled := r.filled + 1 }
where
  /-- The first of many values. -/
  first (p : Position) : Except Refusal Progress := do
    let r ← r.settle
    return { r with
      pending := some ⟨p.name, p.kind, [arg]⟩
      onlyValues := r.onlyValues || p.greedy }

/-- One argument. -/
def next (g : Grammar) (r : Progress) (arg : String) : Except Refusal Progress :=
  if r.onlyValues then r.place g arg
  else if arg == "--" then .ok { r with onlyValues := true }
  else do
    match ← r.classify g arg with
    | .switch r => return r
    | .value =>
      match r.waiting, r.pending with
      | true, some p =>
        return { r with pending := some { p with values := [arg] }, waiting := false }
      | _, _ => r.place g arg

/-! ### All arguments -/

/-- Asks for help on a subcommand, or on none. -/
def helpOn (g : Grammar) : List String → Refusal
  | [] => .help
  | [name] => if g.isSubcommand name then .help else .unknownSubcommand
  | _ => .unknownSubcommand

/-- Reads arguments up to the name of a subcommand. -/
def run (g : Grammar) (r : Progress) : List String → Except Refusal Outcome
  | [] => .ok ⟨r, none⟩
  | arg :: rest =>
    if !r.onlyValues && !r.waiting && g.isSubcommand arg then
      if arg == Grammar.helpName then .error (helpOn g rest) else .ok ⟨r, some (arg, rest)⟩
    else do
      let r ← r.next g arg
      run g r rest

/-- The values, once the arguments have ended; positions that have to be filled are. -/
def finish (g : Grammar) (r : Progress) : Except Refusal Values := do
  let r ← r.settle
  if (g.positions.any fun p => p.required && !r.values.has p.name) then throw .missingArgument
  return r.values

end Progress
end DeviceLab.Arguments
