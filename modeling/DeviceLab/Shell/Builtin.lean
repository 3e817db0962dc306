import DeviceLab.Machine.Search
import DeviceLab.Machine.Utility
import DeviceLab.Shell.Fields
import DeviceLab.Shell.Signal

/-! The commands that a shell carries out itself. -/
namespace DeviceLab.Shell.Builtin

/-- Complains and gives the exit code of a command that was used wrongly. -/
def refuse (message : String) : Act Unit := do
  Act.complain message
  Act.status 2

/-- A count given as the first argument. -/
def count (usual : Nat) (args : List String) : Nat :=
  (args.head?.bind fun s => Reading.digits? s.toList).getD usual

/-- The exit code given as the first argument, or else the last one there was. -/
def code (name : String) (args : List String) : Act Nat := do
  match args with
  | [] => return (← get).status
  | arg :: _ =>
    match Reading.digits? arg.toList with
    | some n => return n % 256
    | none =>
      Act.complain (name ++ ": Illegal number: " ++ arg)
      throw (.exit 2)

/-! ### The shell itself -/

def changeDirectory (args : List String) : Act Unit := do
  let s ← get
  let path := args.headD ((s.valueOf? "HOME").getD "/")
  let target := s.host.tree.locate s.host.cwd path
  match target.toOption, s.host.isDirectory path with
  | some place, true =>
    set { s.assign "PWD" (Path.ofNames place) with
      host := { s.host with cwd := place }
      status := 0 }
  | _, _ => refuse ("cd: can't cd to " ++ path)

/-- Variables to be exported, given values or not. -/
def exporting (args : List String) : Act Unit := do
  for arg in args do
    match Text.splitOnce '=' arg with
    | some (name, value) => modify fun s => (s.assign name value).publish name
    | none => modify fun s =>
      (if (s.valueOf? arg).isSome then s else s.assign arg "").publish arg
  Act.status 0

/-- Variables that get values. -/
def assigning (args : List String) : Act Unit := do
  for arg in args do
    if let some (name, value) := Text.splitOnce '=' arg then modify (·.assign name value)
  Act.status 0

def unsetting (args : List String) : Act Unit := do
  for arg in args do
    modify fun s => { s.unset arg with functions := s.functions.filter (·.1 != arg) }
  Act.status 0

/-- Options of the shell, or new arguments. -/
def setting : List String → Act Unit
  | [] => Act.status 0
  | arg :: rest => do
    let letters := arg.toList.drop 1
    if arg == "--" then
      modify ({ · with args := rest, status := 0 })
    else if arg.toList.head? == some '-' && !letters.isEmpty then
      modify fun s => { s with options := s.options ++ letters.filter (!s.options.contains ·) }
      setting rest
    else if arg.toList.head? == some '+' && !letters.isEmpty then
      modify fun s => { s with options := s.options.filter (!letters.contains ·) }
      setting rest
    else modify ({ · with args := arg :: rest, status := 0 })

def shift (args : List String) : Act Unit := do
  let n := count 1 args
  let s ← get
  if n ≤ s.args.length then set { s with args := s.args.drop n, status := 0 }
  else
    Act.complain "shift: can't shift that many"
    throw (.exit 2)

/-- Jumps out of as many loops, or out of all there are. Where there is none it stays. -/
def jump (how : Nat → Jump) (count : Nat) : Act Unit := do
  let s ← get
  if s.loops > 0 then throw (how (min count s.loops))
  Act.status 0

/-! ### Reading -/

/-- A line, of which a backslash at its end leads on to the next one. -/
def readLine (raw : Bool) : (fuel : Nat) → Act (Option String)
  | 0 => return none
  | fuel + 1 => do
    let s ← get
    match s.input.line? with
    | none => if s.input.endless then throw .endless else return none
    | some (line, rest) =>
      let whole := s.input.bytes.size > (Utf8.encode line).size || s.input.endless
      set { s with input := rest, status := if whole then 0 else 1 }
      let cs := line.toList
      if raw then return some line
      else if cs.getLast? == some '\\' && whole then
        let more ← readLine raw fuel
        return some (String.ofList cs.dropLast ++ more.getD "")
      else return some (String.ofList (unescape cs))
where
  unescape : List Char → List Char
    | '\\' :: c :: cs => c :: unescape cs
    | '\\' :: [] => []
    | c :: cs => c :: unescape cs
    | [] => []

/-- Gives the names the fields of a line, the last one all that is left. -/
def distribute (dividers : List Char) (names : List String) (cs : List Char) : Act Unit := do
  let blank (c : Char) := dividers.contains c && (c == ' ' || c == '\t' || c == '\n')
  let trimmed := cs.dropWhile blank
  match names with
  | [] => return
  | [name] => modify (·.assign name (String.ofList (trimmed.reverse.dropWhile blank).reverse))
  | name :: more =>
    let field := trimmed.takeWhile fun c => !dividers.contains c
    modify (·.assign name (String.ofList field))
    let rest := trimmed.drop field.length
    -- One divider that is no blank belongs to the field in front of it.
    let rest := rest.dropWhile blank
    let rest := match rest with
      | c :: cs => if dividers.contains c && !blank c then cs else c :: cs
      | [] => []
    distribute dividers more rest

def reading (args : List String) : Act Unit := do
  let raw := args.head? == some "-r"
  let names := if raw then args.tail else args
  let names := if names.isEmpty then ["REPLY"] else names
  let s ← get
  match ← readLine raw (s.input.bytes.size + 1) with
  | some line => distribute s.dividers names line.toList
  | none =>
    distribute s.dividers names []
    Act.status 1

/-! ### Signals -/

def killUsage : String :=
  "Usage: kill [-s sigspec | -signum | -sigspec] [pid | job]... or\nkill -l [exitstatus]"

/-- The signal and the processes of a command that sends one, or what is wrong with it. -/
def sending : List String → Except String (Nat × List String)
  | [] => .error killUsage
  | "--" :: pids => .ok (15, pids)
  | arg :: rest =>
    match arg, arg.toList, rest with
    | "-s", _, signal :: pids | "-n", _, signal :: pids =>
      match Signal.of? signal with
      | some n => .ok (n, pids)
      | none => .error ("invalid signal number or name: " ++ signal)
    | _, '-' :: c :: cs, pids =>
      match Signal.of? (String.ofList (c :: cs)) with
      | some n => .ok (n, if pids.head? == some "--" then pids.tail else pids)
      | none => .error ("Illegal option -" ++ c.toString)
    | _, _, pids => .ok (15, arg :: pids)

/-- What is to be done about a signal instead of what is usual. -/
def trap? (s : State) (signal : Nat) : Option String :=
  (s.traps.find? fun t => Signal.of? t.1 == some signal && signal != 0).map (·.2)

/-- A signal comes to the shell itself. -/
def receive (signal : Nat) : Act Unit := do
  let s ← get
  match if signal == 9 || signal == 19 then none else trap? s signal with
  | some action => set { s with pending := s.pending ++ [action] }
  | none =>
    match Signal.effect signal with
    | .nothing => return
    | .stops => throw .endless
    | .ends => throw (.killed signal)

def kill (args : List String) : Act Unit := do
  match sending args with
  | .error message => refuse ("kill: " ++ message)
  | .ok (signal, pids) =>
    Act.status 0
    for pid in pids do
      if pid == toString (← get).pid then receive signal
      else
        Act.complain "kill: No such process\n"
        Act.status 1

def trapping (args : List String) : Act Unit := do
  match args.filter (· != "--") with
  | [] => Act.status 0
  | action :: names =>
    modify fun s =>
      let others := s.traps.filter fun t => !names.contains t.1
      { s with
        traps := if action == "-" then others else names.map (fun n => (n, action)) ++ others
        status := 0 }

/-! ### All of them -/

/-- The commands that need nothing but the state of the shell. -/
def table : List (String × (List String → Act Unit)) :=
  [(":", fun _ => Act.status 0),
   ("exit", fun args => do throw (.exit (← code "exit" args))),
   ("return", fun args => do throw (.back (← code "return" args))),
   ("break", fun args => jump .leave (count 1 args)),
   ("continue", fun args => jump .again (count 1 args)),
   ("cd", changeDirectory), ("export", exporting), ("readonly", assigning),
   ("local", assigning), ("unset", unsetting), ("set", setting), ("shift", shift),
   ("read", reading), ("kill", kill), ("trap", trapping),
   ("wait", fun _ => Act.status 0), ("umask", fun _ => Act.status 0),
   ("ulimit", fun _ => Act.status 0), ("hash", fun _ => Act.status 0)]

/-- The utilities that a shell has built in. -/
def utilities : List (String × Machine.Utility) :=
  [("true", Machine.always 0), ("false", Machine.always 1), ("echo", Machine.echoUnescaping),
   ("printf", Machine.printfOfShell), 
   ("test", Machine.test Machine.Condition.Fault.shellMessage),
   ("[", Machine.bracket Machine.Condition.Fault.shellMessage "missing ]"),
   ("pwd", Machine.pwd)]

end DeviceLab.Shell.Builtin
