/-! Scripts of a shell, as they are read.

A word is made of parts, since quotes and the sign of a dollar may stand in the
middle of one. What the parts stand for is found out when the word is used. -/
namespace DeviceLab.Shell

/-- Which end of a value is cut off, and how much of it. -/
structure Cut where
  atEnd : Bool
  longest : Bool

/-- What stands behind a dollar sign. Scripts and words inside are kept as they
were written. -/
inductive Expansion where
  | parameter (name : String)
  /-- The number of characters of a value. -/
  | length (name : String)
  /-- Another text where the parameter is not set, or is empty if that counts too:
  in its place (`-`), also kept (`=`), as a complaint (`?`), or else in place of what
  is set (`+`). -/
  | choice (name : String) (emptyCounts : Bool) (op : Char) (word : String)
  /-- The value without what a pattern matches at one of its ends. -/
  | cut (name : String) (what : Cut) (pattern : String)
  | output (script : String)
  | number (expression : String)

/-- A part of a word: a character that may have a meaning of its own, a text that
has none, or an expansion. -/
inductive Part where
  | bare (c : Char)
  | quoted (s : String)
  | value (e : Expansion) (quoted : Bool)

abbrev Word := List Part

/-- The text of a word in which nothing is quoted or expanded. -/
def Word.bare? : Word → Option String
  | [] => some ""
  | .bare c :: rest => (bare? rest).map fun s => c.toString ++ s
  | _ :: _ => none

/-- Where a descriptor is redirected. -/
inductive Redirection where
  | input (path : Word)
  | output (fd : Nat) (path : Word) (atEnd : Bool)
  /-- The same place as another descriptor, which a word names. -/
  | same (fd : Nat) (other : Word)
  /-- A text that stands in the script. -/
  | here (body : Word)

inductive Node where
  | nothing
  | simple (line : Nat) (assignments : List (String × Word)) (words : List Word)
    (redirections : List Redirection)
  | redirected (node : Node) (redirections : List Redirection)
  | pipe (stages : List Node)
  | negated (node : Node)
  | both (first second : Node)
  | either (first second : Node)
  | sequence (first second : Node)
  | background (node : Node)
  | branch (condition yes no : Node)
  /-- Goes round while the condition succeeds, or while it does not. -/
  | loop (whileTrue : Bool) (condition body : Node)
  /-- Goes round once for each word, or for each argument of the script. -/
  | each (name : String) (words : Option (List Word)) (body : Node)
  | select (word : Word) (cases : List (List Word × Node))
  | group (body : Node)
  | subshell (body : Node)
  | define (name : String) (body : Node)
  deriving Inhabited

/-- Why a script cannot be read. -/
inductive Fault where
  | unexpected (what : String) (expected : Option String)
  | unterminated
  | badSubstitution

def Fault.message : Fault → String
  | .unexpected what (some expected) =>
    "Syntax error: " ++ what ++ " unexpected (expecting \"" ++ expected ++ "\")"
  | .unexpected what none => "Syntax error: " ++ what ++ " unexpected"
  | .unterminated => "Syntax error: Unterminated quoted string"
  | .badSubstitution => "Syntax error: Bad substitution"

/-! ### Names -/

def isNameStart (c : Char) : Bool :=
  c.isAlpha || c == '_'

def isNameChar (c : Char) : Bool :=
  c.isAlphanum || c == '_'

def isName (cs : List Char) : Bool :=
  cs.head?.any isNameStart && cs.all isNameChar

end DeviceLab.Shell
