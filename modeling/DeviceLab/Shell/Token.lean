import DeviceLab.Shell.Syntax

/-! Tokens of a script: words, operators, redirections and ends of lines. -/
namespace DeviceLab.Shell

inductive Token where
  | word (w : Word)
  | operator (s : String)
  | redirect (fd : Option Nat) (s : String)
  /-- A text that stands in the script, as the input. -/
  | here (body : Word)
  | newline
  /-- The script cannot be read from here on. -/
  | fault (f : Fault)

namespace Token

/-! ### What is enclosed -/

/-- What is in front of the closing character that belongs to an opening one already
read, and what is behind it. Quotes hide both. -/
def enclosed (opening closing : Char) (depth : Nat) (quote : Option Char) :
    List Char → Option (List Char × List Char)
  | [] => none
  | '\\' :: c :: cs =>
    let taken := if quote == some '\'' && c == '\'' then none else quote
    (enclosed opening closing depth taken cs).map fun (i, r) => ('\\' :: c :: i, r)
  | c :: cs =>
    let keep (depth : Nat) (quote : Option Char) :=
      (enclosed opening closing depth quote cs).map fun (i, r) => (c :: i, r)
    match quote with
    | some q => keep depth (if c == q then none else quote)
    | none =>
      if c == '\'' || c == '"' then keep depth (some c)
      else if c == closing then
        match depth with
        | 0 => some ([], cs)
        | depth + 1 => keep depth none
      else if c == opening then keep (depth + 1) none
      else keep depth none

/-- What is in front of the closing back quote, without the backslashes that are
there for its sake or for that of double quotes around it, and what is behind it. -/
def backQuoted (between : Bool) : List Char → Option (List Char × List Char)
  | [] => none
  | '\\' :: c :: cs =>
    let free := c == '\x60' || c == '\\' || c == '$' || (between && c == '"')
    (backQuoted between cs).map fun (i, r) => (if free then c :: i else '\\' :: c :: i, r)
  | c :: cs =>
    if c == '\x60' then some ([], cs)
    else (backQuoted between cs).map fun (i, r) => (c :: i, r)

/-! ### Expansions -/

def isSpecial (c : Char) : Bool :=
  "@*#?$!-".toList.contains c

/-- The name of a parameter, and what is behind it. -/
def parameterName (braced : Bool) : List Char → Option (List Char × List Char)
  | [] => none
  | c :: cs =>
    if isNameStart c then some (c :: cs.takeWhile isNameChar, cs.dropWhile isNameChar)
    else if c.isDigit then
      if braced then some (c :: cs.takeWhile Char.isDigit, cs.dropWhile Char.isDigit)
      else some ([c], cs)
    else if isSpecial c then some ([c], cs)
    else none

/-- What stands between braces behind a dollar sign. -/
def braced (cs : List Char) : Except Fault Expansion :=
  match cs with
  | '#' :: c :: rest =>
    match parameterName true (c :: rest) with
    | some (name, []) => .ok (.length (String.ofList name))
    | _ => .error .badSubstitution
  | cs =>
    match parameterName true cs with
    | none => .error .badSubstitution
    | some (name, rest) =>
      let name := String.ofList name
      let choice (emptyCounts : Bool) (c : Char) (other : List Char) : Except Fault Expansion :=
        if "-=?+".toList.contains c then .ok (.choice name emptyCounts c (String.ofList other))
        else .error .badSubstitution
      match rest with
      | [] => .ok (.parameter name)
      | ':' :: c :: other => choice true c other
      | '%' :: '%' :: pattern => .ok (.cut name ⟨true, true⟩ (String.ofList pattern))
      | '%' :: pattern => .ok (.cut name ⟨true, false⟩ (String.ofList pattern))
      | '#' :: '#' :: pattern => .ok (.cut name ⟨false, true⟩ (String.ofList pattern))
      | '#' :: pattern => .ok (.cut name ⟨false, false⟩ (String.ofList pattern))
      | c :: other => choice false c other

/-- The expansion behind a dollar sign, if there is one, and what is behind that. -/
def dollar (cs : List Char) : Except Fault (Option (Expansion × List Char)) :=
  let unread : Fault := .unexpected "end of file" (some ")")
  match cs with
  | '(' :: '(' :: rest =>
    match enclosed '(' ')' 1 none rest with
    | some (inside, rest) =>
      if inside.getLast? == some ')' then
        .ok (some (.number (String.ofList inside.dropLast), rest))
      else .ok (some (.output (String.ofList ('(' :: inside)), rest))
    | none => .error unread
  | '(' :: rest =>
    match enclosed '(' ')' 0 none rest with
    | some (inside, rest) => .ok (some (.output (String.ofList inside), rest))
    | none => .error unread
  | '{' :: rest =>
    match enclosed '{' '}' 0 none rest with
    | some (inside, rest) => do return some (← braced inside, rest)
    | none => .error .badSubstitution
  | cs =>
    match parameterName false cs with
    | some (name, rest) => .ok (some (.parameter (String.ofList name), rest))
    | none => .ok none

/-! ### Words -/

/-- How the characters of a word are taken: as in a script up to the end of the word,
as in a script to the last one, as between double quotes up to the closing one, or as
in a text of its own. -/
inductive Mode where
  | plain
  | inside
  | between
  | text
  deriving DecidableEq

def Mode.quoted (mode : Mode) : Bool :=
  mode == .between || mode == .text

def endsWord (c : Char) : Bool :=
  " \t\n;&|()<>".toList.contains c

/-- Does a backslash take away the meaning of the character between quotes? -/
def escapable (mode : Mode) (c : Char) : Bool :=
  c == '$' || c == '\x60' || c == '\\' || (mode == .between && c == '"')

/-- Reads the parts of a word, and gives what is behind it. -/
def parts (mode : Mode) (cs : List Char) : (fuel : Nat) → Except Fault (Word × List Char)
  | 0 => .ok ([], cs)
  | fuel + 1 =>
    let quoted := mode.quoted
    let one (c : Char) : Part := if quoted then .quoted c.toString else .bare c
    let andMore (p : Part) (rest : List Char) : Except Fault (Word × List Char) := do
      let (more, rest) ← parts mode rest fuel
      return (p :: more, rest)
    match cs with
    | [] => if mode == .between then .error .unterminated else .ok ([], [])
    | '\\' :: '\n' :: rest => parts mode rest fuel
    | '\\' :: c :: rest =>
      if quoted && !escapable mode c then andMore (.quoted "\\") (c :: rest)
      else andMore (.quoted c.toString) rest
    | '$' :: rest => do
      match ← dollar rest with
      | some (e, rest) => andMore (.value e quoted) rest
      | none => andMore (one '$') rest
    | c :: rest =>
      if c == '\x60' then
        match backQuoted (mode == .between) rest with
        | some (inside, rest) => andMore (.value (.output (String.ofList inside)) quoted) rest
        | none => .error .unterminated
      else if quoted then
        if c == '"' && mode == .between then .ok ([], rest) else andMore (one c) rest
      else if c == '"' then do
        let (inside, rest) ← parts .between rest fuel
        let (more, rest) ← parts mode rest fuel
        -- Quotes make a word even of nothing, but not of arguments that are not there.
        match inside with
        | [.value (.parameter "@") _] => return (inside ++ more, rest)
        | _ => return (.quoted "" :: inside ++ more, rest)
      else if c == '\'' then
        let inside := rest.takeWhile (· != '\'')
        match rest.drop inside.length with
        | _ :: rest => andMore (.quoted (String.ofList inside)) rest
        | [] => .error .unterminated
      else if mode == .plain && endsWord c then .ok ([], c :: rest)
      else andMore (.bare c) rest

def wordOf (mode : Mode) (cs : List Char) : Except Fault (Word × List Char) :=
  parts mode cs (2 * cs.length + 2)

/-- The text of a word without its quotes, and whether there are any. -/
def unquoted : Word → String × Bool
  | [] => ("", false)
  | .bare c :: rest =>
    let (s, q) := unquoted rest
    (c.toString ++ s, q)
  | .quoted t :: rest => (t ++ (unquoted rest).1, true)
  | .value _ _ :: rest => unquoted rest

/-! ### Texts in the script -/

/-- The lines up to the one that is the delimiter, and what is behind that. -/
def hereLines (delimiter : List Char) (strip : Bool) (cs : List Char) :
    (fuel : Nat) → List Char × List Char
  | 0 => ([], cs)
  | fuel + 1 =>
    if cs.isEmpty then ([], [])
    else
      let line := cs.takeWhile (· != '\n')
      let rest := cs.drop (line.length + 1)
      let line := if strip then line.dropWhile (· == '\t') else line
      if line == delimiter then ([], rest)
      else
        let (more, rest) := hereLines delimiter strip rest fuel
        (line ++ '\n' :: more, rest)

/-- A text that begins on the line behind this one: the text, and the script without it. -/
def hereText (strip : Bool) (cs : List Char) : Except Fault (Word × List Char) := do
  let (mark, rest) ← wordOf .plain (cs.dropWhile fun c => c == ' ' || c == '\t')
  let (delimiter, quoted) := unquoted mark
  let line := rest.takeWhile (· != '\n')
  let (body, behind) :=
    hereLines delimiter.toList strip (rest.drop (line.length + 1)) (rest.length + 1)
  let script := line ++ '\n' :: behind
  if quoted then return ([.quoted (String.ofList body)], script)
  else return ((← wordOf .text body).1, script)

/-! ### Tokens -/

/-- The operators, the longer ones first. -/
def operators : List String :=
  ["&&", "||", ";;", ";", "&", "|", "(", ")"]

def redirectors : List String :=
  [">>", ">&", ">|", ">", "<&", "<>", "<"]

def first? (choices : List String) (cs : List Char) : Option (String × List Char) :=
  choices.findSome? fun s =>
    if s.toList.isPrefixOf cs then some (s, cs.drop s.length) else none

/-- The digits of a descriptor directly in front of a redirection. -/
def descriptor (cs : List Char) : Option Nat × List Char :=
  let digits := cs.takeWhile Char.isDigit
  let rest := cs.drop digits.length
  if digits.length == 1 && rest.head?.any (fun c => c == '<' || c == '>') then
    (digits.head?.map fun c => c.toNat - 48, rest)
  else (none, cs)

/-- One token, or nothing for what is skipped, and what is behind it. -/
def next (cs : List Char) : Except Fault (Option Token × List Char) :=
  match cs with
  | [] => .ok (none, [])
  | '\\' :: '\n' :: rest => .ok (none, rest)
  | c :: rest =>
    if c == ' ' || c == '\t' then .ok (none, rest)
    else if c == '\n' then .ok (some .newline, rest)
    else if c == '#' then .ok (none, rest.dropWhile (· != '\n'))
    else
      let (fd, behind) := descriptor cs
      if ['<', '<', '-'].isPrefixOf behind then do
        let (body, rest) ← hereText true (behind.drop 3)
        return (some (.here body), rest)
      else if ['<', '<'].isPrefixOf behind then do
        let (body, rest) ← hereText false (behind.drop 2)
        return (some (.here body), rest)
      else
        match first? redirectors behind with
        | some (s, rest) => .ok (some (.redirect fd s), rest)
        | none =>
          match first? operators cs with
          | some (s, rest) => .ok (some (.operator s), rest)
          | none => do
            let (w, rest) ← wordOf .plain cs
            return (some (.word w), rest)

/-- The tokens of a script with their lines. -/
def all (line : Nat) (cs : List Char) : (fuel : Nat) → List (Nat × Token)
  | 0 => []
  | fuel + 1 =>
    if cs.isEmpty then []
    else
      match next cs with
      | .error f => [(line, .fault f)]
      | .ok (token, rest) =>
        let read := cs.take (cs.length - rest.length)
        let more := all (line + read.count '\n') rest fuel
        match token with
        | some token => (line, token) :: more
        | none => more

def ofScript (script : String) : List (Nat × Token) :=
  all 1 script.toList (script.length + 1)

end Token
end DeviceLab.Shell
