import DeviceLab.Shell.Token

/-! Reading scripts.

A script is read one complete command after another, so that what stands in front
of an error is there to be run. -/
namespace DeviceLab.Shell

/-- What a token is called when it stands in the wrong place. -/
def Token.shown : Token → String
  | .word w =>
    match w.bare? with
    | some s =>
      if reserved.contains s then "\"" ++ s ++ "\"" else "word"
    | none => "word"
  | .operator s => "\"" ++ s ++ "\""
  | .redirect .. | .here _ => "redirection"
  | .newline => "newline"
  | .fault _ => "end of file"
where
  reserved : List String :=
    ["if", "then", "else", "elif", "fi", "do", "done", "case", "esac", "while", "until", "for",
      "in", "\x7b", "\x7d", "!"]

abbrev Tokens := List (Nat × Token)

/-- Reading off the front of the tokens. -/
abbrev Reader := StateT Tokens (Except Fault)

namespace Reader

/-- The next token, which stays where it is. -/
def peek : Reader (Option Token) := do
  match ← get with
  | [] => return none
  | (_, .fault f) :: _ => throw f
  | (_, t) :: _ => return some t

def skip : Reader Unit :=
  modify List.tail

/-- The line of the next token. -/
def line : Reader Nat := do
  return ((← get).head?.map (·.1)).getD 1

/-- The next word, if nothing in it is quoted. -/
def bare? : Reader (Option String) := do
  match ← peek with
  | some (.word w) => return w.bare?
  | _ => return none

/-- Refuses what is next. -/
def unexpected {α : Type} (expected : Option String) : Reader α := do
  let what := match ← peek with
    | some t => t.shown
    | none => "end of file"
  throw (.unexpected what expected)

/-- Reads a word that has a meaning of its own here. -/
def expect (s : String) : Reader Unit := do
  if (← bare?) == some s then skip else unexpected (some s)

/-- Reads an operator if it is next. -/
def operator? (s : String) : Reader Bool := do
  match ← peek with
  | some (.operator t) =>
    if s == t then
      skip
      return true
    else return false
  | _ => return false

/-- Skips ends of lines. -/
def newlines : Reader Unit :=
  modify fun ts => ts.dropWhile fun t => match t.2 with
    | .newline => true
    | _ => false

/-- The words that end a list of commands. -/
def closers : List String :=
  ["then", "else", "elif", "fi", "do", "done", "esac", "\x7d"]

/-- Does a list of commands end here? -/
def atClose : Reader Bool := do
  match ← peek with
  | none => return true
  | some (.operator s) => return s == ")" || s == ";;"
  | some (.word w) => return w.bare?.any closers.contains
  | _ => return false

/-! ### Simple commands -/

/-- The name and the value if the word is an assignment. -/
def assignment? (w : Word) : Option (String × Word) :=
  let name := (w.takeWhile fun
    | .bare c => c != '='
    | _ => false)
  let text := (Word.bare? name).getD ""
  match w.drop name.length with
  | .bare '=' :: value => if isName text.toList then some (text, value) else none
  | _ => none

/-- The place a redirection leads to. -/
def redirection (fd : Option Nat) (s : String) : Reader Redirection := do
  skip
  match ← peek with
  | some (.word w) =>
    skip
    match s with
    | "<" | "<>" => return .input w
    | "<&" => return .same (fd.getD 0) w
    | ">&" => return .same (fd.getD 1) w
    | ">>" => return .output (fd.getD 1) w true
    | _ => return .output (fd.getD 1) w false
  | _ => unexpected none

/-- The redirections that are next. -/
def redirections : (fuel : Nat) → Reader (List Redirection)
  | 0 => return []
  | fuel + 1 => do
    match ← peek with
    | some (.redirect fd s) =>
      let r ← redirection fd s
      return r :: (← redirections fuel)
    | some (.here body) =>
      skip
      return .here body :: (← redirections fuel)
    | _ => return []

/-- The rest of a simple command. -/
def simple (line : Nat) (assignments : List (String × Word)) (words : List Word)
    (rs : List Redirection) : (fuel : Nat) → Reader Node
  | 0 => return .simple line assignments words rs
  | fuel + 1 => do
    match ← peek with
    | some (.word w) =>
      skip
      match if words.isEmpty then assignment? w else none with
      | some a => simple line (assignments ++ [a]) words rs fuel
      | none => simple line assignments (words ++ [w]) rs fuel
    | some (.redirect fd s) =>
      let r ← redirection fd s
      simple line assignments words (rs ++ [r]) fuel
    | some (.here body) =>
      skip
      simple line assignments words (rs ++ [.here body]) fuel
    | _ => return .simple line assignments words rs

/-- Words up to the end of the line or of the command. -/
def wordList : (fuel : Nat) → Reader (List Word)
  | 0 => return []
  | fuel + 1 => do
    match ← peek with
    | some (.word w) =>
      skip
      return w :: (← wordList fuel)
    | _ => return []

/-- The patterns of a case, up to the closing parenthesis. -/
def patterns : (fuel : Nat) → Reader (List Word)
  | 0 => unexpected (some ")")
  | fuel + 1 => do
    match ← peek with
    | some (.word w) =>
      skip
      if ← operator? "|" then return w :: (← patterns fuel)
      else if ← operator? ")" then return [w]
      else unexpected (some ")")
    | _ => unexpected none

/-! ### Commands -/

mutual

/-- Commands one after another, up to what closes them. -/
def commands : (fuel : Nat) → Reader Node
  | 0 => return .nothing
  | fuel + 1 => do
    newlines
    if ← atClose then return .nothing
    let first ← command fuel
    match ← peek with
    | some .newline =>
      skip
      return .sequence first (← commands fuel)
    | some (.operator ";") =>
      skip
      return .sequence first (← commands fuel)
    | some (.operator "&") =>
      skip
      return .sequence (.background first) (← commands fuel)
    | _ => if ← atClose then return first else unexpected none

/-- At least one command. -/
def body : (fuel : Nat) → Reader Node
  | 0 => return .nothing
  | fuel + 1 => do
    newlines
    if ← atClose then unexpected none
    commands fuel

/-- Pipelines with connections between them. -/
def command : (fuel : Nat) → Reader Node
  | 0 => return .nothing
  | fuel + 1 => do
    let first ← pipeline fuel
    connected first fuel

/-- The rest of connected pipelines. -/
def connected (first : Node) : (fuel : Nat) → Reader Node
  | 0 => return first
  | fuel + 1 => do
    if ← operator? "&&" then
      newlines
      let second ← pipeline fuel
      connected (.both first second) fuel
    else if ← operator? "||" then
      newlines
      let second ← pipeline fuel
      connected (.either first second) fuel
    else return first

def pipeline : (fuel : Nat) → Reader Node
  | 0 => return .nothing
  | fuel + 1 => do
    if (← bare?) == some "!" then
      skip
      return .negated (← pipeline fuel)
    let first ← stage fuel
    let more ← stages fuel
    return if more.isEmpty then first else .pipe (first :: more)

/-- The further stages of a pipeline. -/
def stages : (fuel : Nat) → Reader (List Node)
  | 0 => return []
  | fuel + 1 => do
    if ← operator? "|" then
      newlines
      let next ← stage fuel
      return next :: (← stages fuel)
    else return []

/-- One command with its redirections. -/
def stage : (fuel : Nat) → Reader Node
  | 0 => return .nothing
  | fuel + 1 => do
    let line ← line
    let compound (n : Node) : Reader Node := do
      let rs ← redirections (fuel + 1)
      return if rs.isEmpty then n else .redirected n rs
    match ← bare? with
    | some "if" =>
      skip
      compound (← branches fuel)
    | some "while" =>
      skip
      compound (← loop true fuel)
    | some "until" =>
      skip
      compound (← loop false fuel)
    | some "for" =>
      skip
      compound (← each fuel)
    | some "case" =>
      skip
      compound (← select fuel)
    | some "\x7b" =>
      skip
      let inside ← body fuel
      expect "\x7d"
      compound (.group inside)
    | word =>
      if ← operator? "(" then
        let inside ← body fuel
        if ← operator? ")" then compound (.subshell inside) else unexpected (some ")")
      else if word.any closers.contains then unexpected none
      else
        match ← peek with
        | some (.word _) | some (.redirect ..) | some (.here _) =>
          let n ← simple line [] [] [] ((← get).length + 1)
          match word, n with
          | some name, .simple _ [] [_] [] =>
            if ← operator? "(" then
              if !(← operator? ")") then unexpected (some ")")
              newlines
              return .define name (← stage fuel)
            else return n
          | _, n => return n
        | _ => unexpected none

/-- The rest of a choice, behind `if` or `elif`. -/
def branches : (fuel : Nat) → Reader Node
  | 0 => return .nothing
  | fuel + 1 => do
    let condition ← body fuel
    expect "then"
    let yes ← body fuel
    match ← bare? with
    | some "elif" =>
      skip
      return .branch condition yes (← branches fuel)
    | some "else" =>
      skip
      let no ← body fuel
      expect "fi"
      return .branch condition yes no
    | _ =>
      expect "fi"
      return .branch condition yes .nothing

def loop (whileTrue : Bool) : (fuel : Nat) → Reader Node
  | 0 => return .nothing
  | fuel + 1 => do
    let condition ← body fuel
    expect "do"
    let inside ← body fuel
    expect "done"
    return .loop whileTrue condition inside

def each : (fuel : Nat) → Reader Node
  | 0 => return .nothing
  | fuel + 1 => do
    match ← bare? with
    | some name =>
      skip
      newlines
      let words ←
        if (← bare?) == some "in" then do
          skip
          let words ← wordList ((← get).length + 1)
          pure (some words)
        else pure none
      let _ ← operator? ";"
      newlines
      expect "do"
      let inside ← body fuel
      expect "done"
      return .each name words inside
    | none => unexpected none

def select : (fuel : Nat) → Reader Node
  | 0 => return .nothing
  | fuel + 1 => do
    match ← peek with
    | some (.word w) =>
      skip
      newlines
      expect "in"
      let cases ← choices fuel
      return .select w cases
    | _ => unexpected none

/-- The cases of a selection, up to its end. -/
def choices : (fuel : Nat) → Reader (List (List Word × Node))
  | 0 => return []
  | fuel + 1 => do
    newlines
    if (← bare?) == some "esac" then
      skip
      return []
    let _ ← operator? "("
    let ps ← patterns ((← get).length + 1)
    let inside ← commands fuel
    if ← operator? ";;" then return (ps, inside) :: (← choices fuel)
    expect "esac"
    return [(ps, inside)]

end

/-! ### Scripts -/

/-- The commands of one line, or of several where one goes on. -/
def complete : (fuel : Nat) → Reader Node
  | 0 => return .nothing
  | fuel + 1 => do
    let first ← command fuel
    match ← peek with
    | none => return first
    | some .newline =>
      skip
      return first
    | some (.operator ";") =>
      skip
      rest first fuel
    | some (.operator "&") =>
      skip
      rest (.background first) fuel
    | _ => unexpected none
where
  rest (first : Node) (fuel : Nat) : Reader Node := do
    match ← peek with
    | none => return first
    | some .newline =>
      skip
      return first
    | _ => return .sequence first (← complete fuel)

end Reader

/-- A script: its commands up to the first error, and the error with its line. -/
structure Script where
  commands : List Node
  fault : Option (Nat × Fault)

/-- How deep the reader may go into that many tokens. -/
def readerFuel (tokens : Nat) : Nat :=
  16 * tokens + 16

def Script.ofTokens (ts : Tokens) : (fuel : Nat) → Script
  | 0 => ⟨[], none⟩
  | fuel + 1 =>
    let ts := (Reader.newlines.run ts).toOption.elim ts (·.2)
    if ts.isEmpty then ⟨[], none⟩
    else
      match (Reader.complete (readerFuel ts.length)).run ts with
      | .ok (n, rest) =>
        let s := ofTokens rest fuel
        { s with commands := n :: s.commands }
      | .error f => ⟨[], some ((ts.getLast?.map (·.1)).getD 1, f)⟩

def Script.read (script : String) : Script :=
  let ts := Token.ofScript script
  ofTokens ts (ts.length + 1)

end DeviceLab.Shell
