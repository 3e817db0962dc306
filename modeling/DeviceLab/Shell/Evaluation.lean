import DeviceLab.Shell.Arithmetic
import DeviceLab.Shell.Builtin
import DeviceLab.Shell.Reader

/-! Running scripts.

A script runs on the state of a shell. How a program is started that the shell does
not know is a parameter. Parts of a pipeline run one after another; the clock says
that they ran at the same time, and what the first ones write is there for the next,
whether it ends or not. -/
namespace DeviceLab.Shell

/-- A way to start a program, if it can be started. -/
abbrev Starter := Machine.Call → Host → Except OsError Trace × Host

/-! ### Programs -/

/-- The exit code and the complaint about a program that cannot be started. -/
def notStarted (name : String) (e : OsError) : Act Unit := do
  match e with
  | .notFound | .notDirectory =>
    Act.complain (name ++ ": not found")
    Act.status 127
  | e =>
    Act.complain (name ++ ": " ++ e.reason)
    Act.status 126

/-- What a process has left becomes output of the shell and its own exit code. -/
def adopt (t : Trace) : Act Unit := do
  modify ({ · with input := t.rest })
  -- An output without end is written last.
  if t.out.endless then
    Act.write 2 t.err
    Act.write 1 t.out
  else
    Act.write 1 t.out
    Act.write 2 t.err
  match t.ending with
  | .exited code => Act.status code
  | .killed signal =>
    if let some remark := Signal.remark? signal then Act.write 2 (.ofText (remark ++ "\n"))
    Act.status (128 + signal)
  | .overdue => throw .endless

def external (start : Starter) (name : String) (args : List String) : Act Unit := do
  let s ← get
  match start ⟨name, args, s.input⟩ s.childHost with
  | (.error e, _) => notStarted name e
  | (.ok t, h) =>
    modify (·.after h)
    adopt t

/-- A program in place of the shell, with its number. It ends as the program does. -/
def replacing (start : Starter) (name : String) (args : List String) : Act Unit := do
  let s ← get
  match start ⟨name, args, s.input⟩ { s.childHost with pid := s.host.pid } with
  | (.error e, _) =>
    notStarted ("exec: " ++ name) e
    throw (.exit (← get).status)
  | (.ok t, h) =>
    set ({ s.after h with traps := [] })
    Act.write 2 t.err
    Act.write 1 t.out
    match t.ending with
    | .exited code => throw (.exit code)
    | .killed signal => throw (.killed signal)
    | .overdue => throw .endless

def utility (u : Machine.Utility) (name : String) (args : List String) : Act Unit := do
  let s ← get
  let called := s.name ++ ": " ++ toString s.line ++ ": " ++ name
  let (t, h) := u ⟨called, args, s.input⟩ s.host
  set { s with host := h }
  adopt t

/-- What a name means to the shell itself. -/
def meaning? (s : State) (name : String) : Option String :=
  if (s.functions.lookup name).isSome then some "a shell function"
  else if (Builtin.table.lookup name).isSome || (Builtin.utilities.lookup name).isSome ||
      ["eval", ".", "exec", "command", "type"].contains name then some "a shell builtin"
  else none

/-! ### Conditions of the way on -/

/-- After a command that has failed a careful shell goes no further, unless the
failure is looked at. -/
def checked (tested : Bool) (act : Act Unit) : Act Unit := do
  act
  let s ← get
  if s.has 'e' && !tested && s.status != 0 then throw (.exit s.status)

/-- What one round says about further ones. -/
inductive Round where
  | goOn
  | enough

/-- One round of a loop. A jump out of several loops goes on in the outer ones. -/
def round (act : Act Unit) : Act Round :=
  fun s =>
    let (r, s') := act { s with loops := s.loops + 1 }
    match r, { s' with loops := s.loops } with
    | .ok _, s => (.ok .goOn, s)
    | .error (.leave n), s => if n ≤ 1 then (.ok .enough, s) else (.error (.leave (n - 1)), s)
    | .error (.again n), s => if n ≤ 1 then (.ok .goOn, s) else (.error (.again (n - 1)), s)
    | .error j, s => (.error j, s)

/-- Goes round once for each value. -/
def rounds (name : String) (body : Act Unit) : List String → Act Unit
  | [] => return
  | value :: rest => do
    modify (·.assign name value)
    match ← round body with
    | .goOn => rounds name body rest
    | .enough => return

/-! ### Functions -/

/-- A function is called with arguments of its own. -/
def calling (args : List String) (body : Act Unit) : Act Unit :=
  fun s =>
    let (r, s') := body { s with args }
    let s' := { s' with args := s.args }
    match r with
    | .error (.back code) => (.ok (), { s' with status := code })
    | r => (r, s')

/-! ### Pipelines -/

/-- What the next part of a pipeline reads. One that writes nothing and does not end
leaves it waiting. -/
def piped (f : Flow) (ended : Bool) : Flow :=
  if ended || f.endless then f else { f with tail := .hangs }

/-- The parts of a pipeline, begun at the same time. -/
def pipeline (began : Nat) : List (Act Unit) → Act Unit
  | [] => return
  | [last] => Act.apart last
  | first :: rest => do
    let n ← Act.channel
    let ended ← Act.ends (Act.apart (do
      modify (·.redirect 1 (some (.channel n)))
      first))
    let f := piped (← Act.flowOf n) ended
    let s ← get
    set { s with input := f, host := { s.host with clock := began } }
    pipeline began rest
    modify fun s' =>
      { s' with input := s.input, host := { s'.host with clock := max s.host.clock s'.host.clock } }
    match f.tail with
    | .hangs => if !ended then throw .endless
    | _ => return

/-! ### Redirections -/

/-- The place of a descriptor that a path names as a file. -/
def standard? (path : String) : Option Nat :=
  match path with
  | "/dev/stdout" | "/dev/fd/1" => some 1
  | "/dev/stderr" | "/dev/fd/2" => some 2
  | _ => none

def openInput (path : String) : Act Bool := do
  if path == "/dev/stdin" then return true
  let s ← get
  match Machine.reading s.host path with
  | .ok f =>
    set { s with input := f }
    return true
  | .error e =>
    let why := if e == .notFound then "No such file" else e.reason
    Act.complain ("cannot open " ++ path ++ ": " ++ why)
    return false

def openOutput (fd : Nat) (path : String) (atEnd : Bool) : Act Bool := do
  let s ← get
  match standard? path with
  | some other =>
    set (s.redirect fd (s.target? other))
    return true
  | none =>
    match Machine.writing s.host path atEnd with
    | .ok (place, h) =>
      set ({ s with host := h }.redirect fd (some (.file place)))
      return true
    | .error e =>
      let why := if e == .notFound then "Directory nonexistent" else e.reason
      Act.complain ("cannot create " ++ path ++ ": " ++ why)
      return false

/-- Makes a descriptor lead where another one does. -/
def openSame (fd : Nat) (other : String) : Act Bool := do
  if other == "-" then
    modify fun s => if fd == 0 then { s with input := .empty } else s.redirect fd none
    return true
  match Reading.digits? other.toList with
  | some n =>
    if fd != 0 then modify fun s => s.redirect fd (s.target? n)
    return true
  | none =>
    Act.complain ("Syntax error: Bad fd number")
    return false

def redirectsInput : Redirection → Bool
  | .input _ | .here _ | .same 0 _ => true
  | _ => false

/-! ### Expansion and evaluation -/

/-- A text as a word, expanded by the given function; one that cannot be read is kept. -/
def readWord (mode : Token.Mode) (text : String) : Word :=
  match Token.wordOf mode text.toList with
  | .ok (w, _) => w
  | .error _ => [.quoted text]

mutual

/-- The marks of a word. -/
def expand (start : Starter) (w : Word) : (fuel : Nat) → Act (List Mark)
  | 0 => throw .endless
  | fuel + 1 =>
    match w with
    | [] => return []
    | .bare c :: rest => return .char c false :: (← expand start rest fuel)
    | .quoted s :: rest => return Mark.quoted s ++ (← expand start rest fuel)
    | .value e isQuoted :: rest => do
      let ms ← value start e isQuoted fuel
      return ms ++ (← expand start rest fuel)

/-- The marks of an expansion. -/
def value (start : Starter) (e : Expansion) (isQuoted : Bool) : (fuel : Nat) → Act (List Mark)
  | 0 => throw .endless
  | fuel + 1 => do
    -- Between quotes further ones have no meaning; outside them blanks divide.
    let other (word : String) : Act (List Mark) := do
      if isQuoted then expand start (readWord .text (Text.join "" (Text.pieces '"' word))) fuel
      else return (← expand start (readWord .inside word) fuel).map Mark.loosened
    match e with
    | .parameter name =>
      let s ← get
      if name == "@" || (name == "*" && !isQuoted) then return Mark.ofTexts isQuoted s.args
      else if name == "*" then
        let divider := String.ofList (s.dividers.take 1)
        return Mark.ofText isQuoted (Text.join divider s.args)
      else
        match s.parameter? name with
        | some v => return Mark.ofText isQuoted v
        | none =>
          if s.has 'u' then
            Act.complain (name ++ ": parameter not set")
            throw (.exit 2)
          return Mark.ofText isQuoted ""
    | .length name =>
      let s ← get
      return Mark.ofText isQuoted (toString ((s.parameter? name).getD "").length)
    | .choice name emptyCounts op word =>
      let s ← get
      let held := (s.parameter? name).filter fun v => !(emptyCounts && v.isEmpty)
      match op, held with
      | '+', some _ => other word
      | '+', none => return []
      | _, some v => return Mark.ofText isQuoted v
      | '=', none =>
        let ms ← other word
        modify (·.assign name (Mark.text ms))
        return Mark.ofText isQuoted (Mark.text ms)
      | '?', none =>
        let ms ← other word
        let why := Mark.text ms
        Act.complain (name ++ ": " ++ if why.isEmpty then "parameter not set" else why)
        throw (.exit 2)
      | _, none => other word
    | .cut name what pattern =>
      let ms ← expand start (readWord .inside pattern) fuel
      let p := Glob.of (Mark.marked ms)
      let cs := ((← get).parameter? name |>.getD "").toList
      let cs := if what.atEnd then Glob.cutEnd what.longest p cs
        else Glob.cutFront what.longest p cs
      return Mark.ofText isQuoted (String.ofList cs)
    | .output script =>
      let f ← Act.captured (runText start false script fuel)
      modify fun s => { s with substituted := some s.status }
      let text := Utf8.decode ⟨(f.bytes.toList.filter (· != 0)).toArray⟩
      return Mark.ofText isQuoted (Text.trimNewlines text)
    | .number expression =>
      let ms ← expand start (readWord .text expression) fuel
      let s ← get
      match Arithmetic.eval (fun name => (s.parameter? name).getD "") (Mark.text ms) with
      | .ok n => return Mark.ofText isQuoted (toString n)
      | .error f =>
        Act.complain ("arithmetic expression: " ++ f.message ++ ": \"" ++ Mark.text ms ++ "\"")
        throw (.exit 2)

/-- The arguments that words become. -/
def arguments (start : Starter) (words : List Word) : (fuel : Nat) → Act (List String)
  | 0 => throw .endless
  | fuel + 1 =>
    match words with
    | [] => return []
    | w :: rest => do
      let ms ← expand start w fuel
      let s ← get
      let these := (Mark.fields s.dividers none ms).flatMap (Glob.paths s.host)
      return these ++ (← arguments start rest fuel)

/-- Gives variables their values, and exports them if asked to. -/
def assign (start : Starter) (exported : Bool) (as : List (String × Word)) :
    (fuel : Nat) → Act Unit
  | 0 => throw .endless
  | fuel + 1 =>
    match as with
    | [] => return
    | (name, w) :: rest => do
      let ms ← expand start w fuel
      modify (·.assign name (Mark.text ms))
      if exported then modify (·.publish name)
      assign start exported rest fuel

/-- Carries out redirections; says whether all of them could be. -/
def redirect (start : Starter) (rs : List Redirection) : (fuel : Nat) → Act Bool
  | 0 => throw .endless
  | fuel + 1 =>
    match rs with
    | [] => return true
    | r :: rest => do
      let done ← match r with
        | .input path => do openInput (Mark.text (← expand start path fuel))
        | .output fd path atEnd => do openOutput fd (Mark.text (← expand start path fuel)) atEnd
        | .same fd other => do openSame fd (Mark.text (← expand start other fuel))
        | .here body => do
          let ms ← expand start body fuel
          modify ({ · with input := .ofText (Mark.text ms) })
          pure true
      if done then redirect start rest fuel else return false

/-- Does something under redirections. If they cannot be made, it is not done. -/
def under (start : Starter) (rs : List Redirection) (act : Act Unit) : (fuel : Nat) → Act Unit
  | 0 => throw .endless
  | fuel + 1 =>
    if rs.isEmpty then act
    else
      Act.redirecting (rs.any redirectsInput) (do
        if ← redirect start rs fuel then act else Act.status 2)

/-- Runs a text as part of the script. -/
def runText (start : Starter) (tested : Bool) (text : String) : (fuel : Nat) → Act Unit
  | 0 => throw .endless
  | fuel + 1 => do
    let script := Script.read text
    runAll start tested script.commands fuel
    match script.fault with
    | some (line, f) =>
      modify ({ · with line })
      Act.complain f.message
      throw (.exit 2)
    | none => return

/-- Runs commands one after another. -/
def runAll (start : Starter) (tested : Bool) (ns : List Node) : (fuel : Nat) → Act Unit
  | 0 => throw .endless
  | fuel + 1 =>
    match ns with
    | [] => return
    | n :: rest => do
      eval start tested n fuel
      runAll start tested rest fuel

/-- Runs the command that arguments call. -/
def call (start : Starter) (tested : Bool) (args : List String) : (fuel : Nat) → Act Unit
  | 0 => throw .endless
  | fuel + 1 =>
    match args with
    | [] => return
    | name :: args => do
      let s ← get
      match name, s.functions.lookup name, Builtin.table.lookup name,
          Builtin.utilities.lookup name with
      | _, some body, _, _ => calling args (eval start tested body fuel)
      | _, none, some act, _ => act args
      | _, none, none, some u => utility u name args
      | "eval", _, _, _ =>
        Act.status 0
        runText start tested (Text.join " " args) fuel
      | ".", _, _, _ =>
        match (args.head?.map (Machine.reading s.host)) with
        | some (.ok f) =>
          Act.status 0
          runText start tested (Utf8.decode f.bytes) fuel
        | _ =>
          Act.complain (".: cannot open " ++ args.headD "" ++ ": No such file")
          throw (.exit 2)
      | "exec", _, _, _ =>
        if args.isEmpty then Act.status 0
        else replacing start (args.headD "") args.tail
      | "command", _, _, _ =>
        match args with
        | "-v" :: wanted :: _ =>
          let found := if (meaning? s wanted).isSome then some wanted
            else (Machine.find s.host wanted).toOption
          Act.write 1 (.ofText (found.elim "" (· ++ "\n")))
          Act.status (if found.isSome then 0 else 127)
        | args => call start tested args fuel
      | "type", _, _, _ =>
        let wanted := args.headD ""
        let found := (meaning? s wanted).or (Machine.find s.host wanted).toOption
        Act.write 1 (.ofText (wanted ++ found.elim ": not found\n" (" is " ++ · ++ "\n")))
        Act.status (if found.isSome then 0 else 127)
      | name, _, _, _ => external start name args

/-- Does what is to be done about signals that have come. -/
def attend (start : Starter) (actions : List String) : (fuel : Nat) → Act Unit
  | 0 => throw .endless
  | fuel + 1 =>
    match actions with
    | [] => return
    | action :: rest => do
      let code := (← get).status
      modify ({ · with pending := [] })
      runText start true action fuel
      Act.status code
      attend start rest fuel

/-- Runs a command. The failure of one that is looked at by another is no failure
of the script. -/
def eval (start : Starter) (tested : Bool) (n : Node) : (fuel : Nat) → Act Unit
  | 0 => throw .endless
  | fuel + 1 =>
    match n with
    | .nothing => return
    | .simple line assignments words rs => checked tested (do
      modify ({ · with line, substituted := none })
      let args ← arguments start words fuel
      if args.isEmpty then
        let assigned := do
          assign start false assignments fuel
          modify fun s => { s with status := s.substituted.getD 0 }
        under start rs assigned fuel
      else if args == ["exec"] then
        if ← redirect start rs fuel then Act.status 0 else throw (.exit 2)
      else
        let before := (← get).vars
        let run := do
          assign start true assignments fuel
          call start tested args fuel
        if (← get).has 'x' then Act.write 2 (.ofText ("+ " ++ Text.join " " args ++ "\n"))
        under start rs run fuel
        if !assignments.isEmpty then modify ({ · with vars := before })
      attend start (← get).pending fuel)
    | .redirected n rs => under start rs (eval start tested n fuel) fuel
    | .pipe stages => checked tested (do
      let began := (← get).host.clock
      pipeline began (stages.map fun n => eval start tested n fuel))
    | .negated n => do
      eval start true n fuel
      modify fun s => { s with status := if s.status == 0 then 1 else 0 }
    | .both a b => do
      eval start true a fuel
      if (← get).status == 0 then eval start tested b fuel
    | .either a b => do
      eval start true a fuel
      if (← get).status != 0 then eval start tested b fuel
    | .sequence a b => do
      eval start tested a fuel
      eval start tested b fuel
    | .background n => do
      let began := (← get).host.clock
      let _ ← Act.ends (Act.apart (eval start true n fuel))
      modify fun s => { s with host := { s.host with clock := began }, status := 0 }
    | .branch condition yes no => do
      eval start true condition fuel
      if (← get).status == 0 then eval start tested yes fuel
      else
        Act.status 0
        eval start tested no fuel
    | .loop whileTrue condition body => do
      goRound start tested whileTrue condition body 0 fuel
    | .each name words body => do
      let values ← match words with
        | some words => arguments start words fuel
        | none => pure (← get).args
      Act.status 0
      rounds name (eval start tested body fuel) values
    | .select w cases => do
      let ms ← expand start w fuel
      Act.status 0
      choose start tested (Mark.text ms).toList cases fuel
    | .group body => eval start tested body fuel
    | .subshell body => checked tested (Act.apart (eval start tested body fuel))
    | .define name body => do
      modify fun s =>
        { s with functions := (name, body) :: s.functions.filter (·.1 != name), status := 0 }

/-- The rounds of a loop that has a condition; the exit code is that of the last round. -/
def goRound (start : Starter) (tested whileTrue : Bool) (condition body : Node) (code : Nat) :
    (fuel : Nat) → Act Unit
  | 0 => throw .endless
  | fuel + 1 => do
    let r ← round (do
      eval start true condition fuel
      if ((← get).status == 0) == whileTrue then eval start tested body fuel
      else
        Act.status code
        throw (.leave 1))
    match r with
    | .goOn => goRound start tested whileTrue condition body (← get).status fuel
    | .enough => return

/-- Runs the first of the cases in which a pattern matches. -/
def choose (start : Starter) (tested : Bool) (cs : List Char) (cases : List (List Word × Node)) :
    (fuel : Nat) → Act Unit
  | 0 => throw .endless
  | fuel + 1 =>
    match cases with
    | [] => return
    | (patterns, body) :: rest => do
      if ← anyFits start cs patterns fuel then eval start tested body fuel
      else choose start tested cs rest fuel

def anyFits (start : Starter) (cs : List Char) (patterns : List Word) : (fuel : Nat) → Act Bool
  | 0 => throw .endless
  | fuel + 1 =>
    match patterns with
    | [] => return false
    | w :: rest => do
      let ms ← expand start w fuel
      if Glob.fits (Glob.of (Mark.marked ms)) cs then return true
      else anyFits start cs rest fuel

end

end DeviceLab.Shell
