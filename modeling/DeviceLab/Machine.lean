import DeviceLab.Command
import DeviceLab.Machine.Search
import DeviceLab.Machine.Utility
import DeviceLab.Shell

/-! The machine that is the host, with the programs on it.

It has the usual utilities, a shell, and whatever scripts lie among its files.
`Machine.run` runs a command on it, to its end or until its time is up. -/
namespace DeviceLab.Machine

/-! ### What is there -/

def shells : List String :=
  ["sh", "dash", "bash"]

/-- Runs another program with other variables. -/
def environmentChanger : String := "env"

/-- The names of the programs that come with the machine. -/
def programNames : List String :=
  environmentChanger :: shells ++ utilities.map (·.1)

def programDirs : List Place :=
  [["bin"], ["usr", "bin"]]

/-- The files of a machine on which nothing has happened. -/
def bareTree : Tree :=
  let dirs : List Place :=
    (["bin", "dev", "etc", "home", "lib", "opt", "proc", "root", "run", "sbin", "sys", "tmp", "usr",
      "var"].map fun name => [name]) ++
    (["bin", "lib", "local", "sbin", "share"].map fun name => ["usr", name])
  let program : Entry := .file (.raw [0x7F, 0x80]) true
  ⟨dirs.map (fun d => (d, .directory)) ++
    [nullDevice, zeroDevice].map (fun d => (d, .file .empty false)) ++
    programDirs.flatMap fun dir => programNames.map fun name => (dir ++ [name], program)⟩

/-! ### Starting programs -/

/-- Options of a shell that are given by name. -/
def optionNames : List (String × Char) :=
  [("errexit", 'e'), ("nounset", 'u'), ("xtrace", 'x')]

/-- What a shell does with its arguments: a task, or a complaint. -/
def shellTask (c : Call) (h : Host) : Except String Shell.Task :=
  go c.args [] (c.args.length + 1)
where
  go (args : List String) (options : List Char) : (fuel : Nat) → Except String Shell.Task
    | 0 => .error ""
    | fuel + 1 =>
      match args with
      | "--" :: rest | "-" :: rest => finish rest options
      | "-o" :: name :: rest =>
        match optionNames.lookup name with
        | some letter => go rest (options ++ [letter]) fuel
        | none => .error (c.complaint ("0: Illegal option -o " ++ name))
      | arg :: rest =>
        match arg.toList with
        | '-' :: '-' :: _ => .error (c.complaint "0: Illegal option --")
        | '-' :: letter :: letters =>
          match (letter :: letters).find? fun l => !"acefnuvxs".toList.contains l with
          | some l => .error (c.complaint ("0: Illegal option -" ++ l.toString))
          | none => go rest (options ++ letter :: letters) fuel
        | _ => finish args options
      | [] => finish [] options
  finish (args : List String) (options : List Char) : Except String Shell.Task :=
    let kept := options.filter "eux".toList.contains
    match options.contains 'c', options.contains 's', args with
    | true, _, [] => .error (c.complaint "0: -c requires an argument")
    | true, _, script :: rest => .ok ⟨rest.headD c.name, rest.tail, kept, script⟩
    | false, false, path :: rest =>
      match reading h path with
      | .ok f => .ok ⟨path, rest, kept, Utf8.decode f.bytes⟩
      | .error e =>
        .error (c.complaint ("0: cannot open " ++ path ++ ": " ++
          if e == .notFound then "No such file" else e.reason))
    | false, _, args => .ok ⟨c.name, args, kept, Utf8.decode c.input.bytes⟩

/-- What is to be changed before another program is called. -/
def changed (h : Host) : List String → Except String (Host × List String)
  | [] => .ok (h, [])
  | "-i" :: rest | "-" :: rest => changed { h with environment := [] } rest
  | "-u" :: name :: rest =>
    changed { h with environment := h.environment.filter (·.1 != name) } rest
  | "--" :: rest => .ok (h, rest)
  | arg :: rest =>
    match arg.toList with
    | '-' :: '-' :: _ => .error ("unrecognized option '" ++ arg ++ "'")
    | '-' :: c :: _ => .error ("invalid option -- '" ++ c.toString ++ "'")
    | _ =>
      match Text.splitOnce '=' arg with
      | some (name, value) =>
        let others := h.environment.filter (·.1 != name)
        changed { h with environment := others ++ [(name, value)] } rest
      | none => .ok (h, arg :: rest)

/-- Sets variables as the leading arguments say and starts what the others call. -/
def changingEnvironment (start : Shell.Starter) (c : Call) (h : Host) : Trace × Host :=
  match changed h c.args with
  | .error message => (c.misused message 125, h)
  | .ok (h, []) => printenv { c with args := [] } h
  | .ok (h, name :: args) =>
    match start ⟨name, args, c.input⟩ h with
    | (.ok t, h) => (t, h)
    | (.error e, h) =>
      let code := if e == .notFound then 127 else 126
      (c.plain code "" (c.complaint ("'" ++ name ++ "': " ++ e.reason)), h)

/-- The program that a script says it is for, with the argument for it. -/
def interpreter? (script : String) : Option (List String) :=
  match script.toList with
  | '#' :: '!' :: line =>
    let line := (line.takeWhile (· != '\n')).dropWhile (· == ' ')
    let path := line.takeWhile (· != ' ')
    let rest := Text.trim (String.ofList (line.drop path.length))
    if path.isEmpty then none
    else some (String.ofList path :: if rest.isEmpty then [] else [rest])
  | _ => none

/-- Starts a program that may start others in turn, `depth` deep. A script that does
not say what it is for is one for the shell where `lenient` says so. -/
def start (lenient : Bool) : (depth : Nat) → Shell.Starter
  | 0 => fun _ h => (.error .notFound, h)
  | depth + 1 => fun c h =>
    let shell (c : Call) : Except OsError Trace × Host :=
      match shellTask c h with
      | .error message => (.ok (c.plain 2 "" message), h)
      | .ok task =>
        let (t, h) := task.run (start true depth) c.input h
        (.ok t, h)
    let found : Except OsError (String × Place) := do
      if let some e := Program.refusedArgument (c.name :: c.args) then throw e
      let path ← find h c.name
      return (path, ← h.tree.locate h.cwd path)
    match found with
    | .error e => (.error e, h)
    | .ok (path, place) =>
      let name := if programDirs.contains place.dropLast then place.getLastD "" else ""
      if shells.contains name then shell c
      else if name == environmentChanger then
        let (t, h) := changingEnvironment (start false depth) c h
        (.ok t, h)
      else
        match utilities.lookup name, h.tree.get? place with
        | some u, _ =>
          let (t, h) := u c h
          (.ok t, h)
        | none, some (.file (.text script) _) =>
          match interpreter? script with
          | some (other :: args) => start false depth ⟨other, args ++ path :: c.args, c.input⟩ h
          | _ => if lenient then shell { c with args := path :: c.args } else (.error .badFormat, h)
        | none, _ => (.error .badFormat, h)

/-- How deep programs may start others. -/
def maxDepth : Nat := 200

/-- Any program on the machine, named by the first of the arguments. It has nothing to read. -/
def program : Program :=
  fun argv h =>
    match start false maxDepth ⟨argv.headD "", argv.tail, .empty⟩ h with
    | (.ok t, h) => (.ok t.finish, h)
    | (.error e, h) => (.error e, h)

/-! ### Commands -/

/-- How often a command with a time limit is looked at. -/
def interval : Nat := 10 * Seconds.millisecond

/-- A command that could not be started. -/
def notStarted (c : Command) (e : OsError) : Failure :=
  .command c.shellLine none "" e.text

def overdue (c : Command) (timeout : Nat) : Failure :=
  .timeout ("Command <" ++ c.shellLine ++ "> did not complete within " ++
    Seconds.text 1 timeout ++ "s")

/-- What becomes of a command, by what became of its process. -/
def reply (c : Command) : Except OsError (Finish × Nat) → Except Failure Output
  | .error e => .error (notStarted c e)
  | .ok (done, _) =>
    let err := Utf8.decode done.err
    let out := Utf8.decode done.out
    let result (exit : Option Int32) : Output :=
      ⟨c.shellLine, exit, if c.mergeStderr then out ++ err else out, err⟩
    match done.ending with
    | .exited code => (result (some (Int32.ofNat code))).check c
    | .killed _ => (result none).check c
    | .overdue => .error (overdue c (c.timeout.getD 0))

/-- How processes are started in surroundings `σ`. -/
abbrev Spawn (σ : Type) :=
  List String → Option Watch → σ → Except OsError (Finish × Nat) × σ

/-- The process of a command, to its end or until its time is up. -/
def process {σ : Type} (spawn : Spawn σ) (c : Command) (s : σ) :
    Except OsError (Finish × Nat) × σ :=
  spawn c.argv (c.timeout.map (⟨·, interval⟩)) s

/-- Runs a command in a process of its own, wherever processes are started. -/
def conduct {σ : Type} (spawn : Spawn σ) (c : Command) (s : σ) : Except Failure Output × σ :=
  let (r, s) := process spawn c s
  (reply c r, s)

/-- Runs a command on the machine. -/
def run (c : Command) (h : Host) : Except Failure Output × Host :=
  conduct program.spawn c h

end DeviceLab.Machine
