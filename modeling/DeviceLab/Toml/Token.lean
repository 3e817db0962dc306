import DeviceLab.Decimal.Reading

/-! TOML tokens.

A text is cut into tokens in one pass. Unlike in other formats blanks, comments
and newlines are tokens: where they may stand is for the grammar to say. -/
namespace DeviceLab.Toml

inductive Token where
  | newline
  /-- A run of blanks and tabs; is it a single blank? -/
  | blank (single : Bool)
  | comment
  | equals
  | period
  | comma
  | colon
  | plus
  | openBrace
  | closeBrace
  | openBracket
  | closeBracket
  /-- A run of letters, digits, dashes and underscores. -/
  | bare (s : String)
  | text (s : String) (multiline : Bool)
  deriving DecidableEq

/-! ### Characters -/

/-- A carriage return in front of a newline belongs to the newline. -/
def foldReturns : List Char → List Char
  | [] => []
  | '\r' :: '\n' :: cs => '\n' :: foldReturns cs
  | c :: cs => c :: foldReturns cs

def isBare (c : Char) : Bool :=
  c.isAlphanum || c == '-' || c == '_'

/-- May the character stand in a comment? -/
def inComment (c : Char) : Bool :=
  c == '\t' || c.toNat ≥ 0x20

/-- May the character stand in a string as it is? -/
def inText (c : Char) : Bool :=
  c == '\t' || (c.toNat ≥ 0x20 && c.toNat != 0x7F)

def mark? (c : Char) : Option Token :=
  match c with
  | '\n' => some .newline
  | '=' => some .equals
  | '.' => some .period
  | ',' => some .comma
  | ':' => some .colon
  | '+' => some .plus
  | '{' => some .openBrace
  | '}' => some .closeBrace
  | '[' => some .openBracket
  | ']' => some .closeBracket
  | _ => none

/-! ### Strings -/

/-- A string that has been begun: its quote, whether it spans lines, and its
characters so far, latest first. Only double quotes admit escapes. -/
structure Quoted where
  quote : Char
  multiline : Bool
  read : List Char

def Quoted.push (q : Quoted) (c : Char) : Quoted :=
  { q with read := c :: q.read }

/-- The string with as many quotes at its end. -/
def Quoted.pushQuotes (q : Quoted) (n : Nat) : Quoted :=
  { q with read := List.replicate n q.quote ++ q.read }

def Quoted.token (q : Quoted) : Token :=
  .text (String.ofList q.read.reverse) q.multiline

/-- The character a one-letter escape stands for. -/
def escaped? (c : Char) : Option Char :=
  match c with
  | '"' => some '"'
  | '\\' => some '\\'
  | 'b' => some '\x08'
  | 'f' => some '\x0c'
  | 'n' => some '\n'
  | 'r' => some '\r'
  | 't' => some '\t'
  | _ => none

def hexDigit? (c : Char) : Option Nat :=
  if '0' ≤ c && c ≤ '9' then some (c.toNat - 48)
  else if 'a' ≤ c && c ≤ 'f' then some (c.toNat - 87)
  else if 'A' ≤ c && c ≤ 'F' then some (c.toNat - 55)
  else none

/-- The character of a number, if it is one. -/
def scalar? (n : Nat) : Option Char :=
  if n < 0xD800 || (0xE000 ≤ n && n < 0x110000) then some (Char.ofNat n) else none

/-! ### Cutting -/

/-- Where the scan stands. -/
inductive Mode where
  | between
  | blanks (count : Nat)
  | comment
  | bare (run : List Char)
  /-- Behind a quote, or behind two, before it is known what kind of string begins. -/
  | opened (quote : Char)
  | openedTwice (quote : Char)
  /-- Behind the three quotes that begin a string over lines. -/
  | lineStart (q : Quoted)
  | inside (q : Quoted)
  /-- Behind some quotes inside a string over lines. -/
  | closing (q : Quoted) (quotes : Nat)
  | escape (q : Quoted)
  | hex (q : Quoted) (n owed : Nat)
  /-- Behind a backslash at the end of a line: before the newline, and after it. -/
  | lineEnd (q : Quoted)
  | trimming (q : Quoted)

/-- A character between tokens. -/
def begin? (c : Char) : Option (List Token × Mode) :=
  if c == ' ' then some ([], .blanks 1)
  else if c == '\t' then some ([], .blanks 2)
  else if c == '#' then some ([], .comment)
  else if c == '"' || c == '\'' then some ([], .opened c)
  else if isBare c then some ([], .bare [c])
  else (mark? c).map fun t => ([t], .between)

/-- A character between tokens, behind a token that it has ended. -/
def endWith? (t : Token) (c : Char) : Option (List Token × Mode) :=
  (begin? c).map fun (ts, mode) => (t :: ts, mode)

/-- A character inside a string. -/
def inside? (q : Quoted) (c : Char) : Option (List Token × Mode) :=
  if c == '\n' then if q.multiline then some ([], .inside (q.push c)) else none
  else if c == q.quote then
    if q.multiline then some ([], .closing q 1) else some ([q.token], .between)
  else if c == '\\' && q.quote == '"' then some ([], .escape q)
  else if inText c then some ([], .inside (q.push c))
  else none

def escape? (q : Quoted) (c : Char) : Option (List Token × Mode) :=
  if c == 'u' then some ([], .hex q 0 3)
  else if c == 'U' then some ([], .hex q 0 7)
  else if q.multiline && c == '\n' then some ([], .trimming q)
  else if q.multiline && (c == ' ' || c == '\t') then some ([], .lineEnd q)
  else (escaped? c).map fun e => ([], .inside (q.push e))

def next? (c : Char) : Mode → Option (List Token × Mode)
  | .between => begin? c
  | .blanks count =>
    if c == ' ' || c == '\t' then some ([], .blanks (count + 1))
    else endWith? (.blank (count == 1)) c
  | .comment => if inComment c then some ([], .comment) else endWith? .comment c
  | .bare run =>
    if isBare c then some ([], .bare (c :: run))
    else endWith? (.bare (String.ofList run.reverse)) c
  | .opened quote =>
    if c == quote then some ([], .openedTwice quote) else inside? ⟨quote, false, []⟩ c
  | .openedTwice quote =>
    if c == quote then some ([], .lineStart ⟨quote, true, []⟩) else endWith? (.text "" false) c
  | .lineStart q => if c == '\n' then some ([], .inside q) else inside? q c
  | .inside q => inside? q c
  | .closing q quotes =>
    if c == q.quote then
      if quotes == 4 then some ([(q.pushQuotes 2).token], .between)
      else some ([], .closing q (quotes + 1))
    else if quotes ≥ 3 then endWith? (q.pushQuotes (quotes - 3)).token c
    else inside? (q.pushQuotes quotes) c
  | .escape q => escape? q c
  | .hex q n owed =>
    (hexDigit? c).bind fun d =>
      match owed with
      | 0 => (scalar? (16 * n + d)).map fun e => ([], .inside (q.push e))
      | owed + 1 => some ([], .hex q (16 * n + d) owed)
  | .lineEnd q =>
    if c == ' ' || c == '\t' then some ([], .lineEnd q)
    else if c == '\n' then some ([], .trimming q)
    else none
  | .trimming q =>
    if c == ' ' || c == '\t' || c == '\n' then some ([], .trimming q) else inside? q c

/-- The tokens that the end of the text leaves. -/
def close? : Mode → Option (List Token)
  | .between => some []
  | .blanks count => some [.blank (count == 1)]
  | .comment => some [.comment]
  | .bare run => some [.bare (String.ofList run.reverse)]
  | .openedTwice _ => some [.text "" false]
  | .closing q quotes => if quotes ≥ 3 then some [(q.pushQuotes (quotes - 3)).token] else none
  | _ => none

def scan? : Mode → List Char → Option (List Token)
  | mode, [] => close? mode
  | mode, c :: cs => do
    let (ts, mode) ← next? c mode
    let rest ← scan? mode cs
    return ts ++ rest

/-- The tokens of a text. A mark of the byte order in front is no part of it. -/
def tokens? (s : String) : Option (List Token) :=
  let cs := match s.toList with
    | '\uFEFF' :: cs => cs
    | cs => cs
  scan? .between (foldReturns cs)

end DeviceLab.Toml
