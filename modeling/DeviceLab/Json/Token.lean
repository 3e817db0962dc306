import DeviceLab.Json.Number

/-! JSON tokens.

A text is cut into tokens in one pass over its characters. Blanks stand between
tokens only. A string token whose escapes leave half of a surrogate pair has no
text; it can be skipped but not read. -/
namespace DeviceLab.Json

inductive Token where
  | openList
  | closeList
  | openTable
  | closeTable
  | colon
  | comma
  | text (s : Option String)
  | plain (d : Datum)

/-! ### Strings -/

/-- What has been read of a string: its characters so far, latest first, the
high half of a surrogate pair whose low half has to follow, and whether some
half has been left alone. -/
structure Quoted where
  read : List Char
  high : Option Nat
  broken : Bool

namespace Quoted

def start : Quoted := ⟨[], none, false⟩

def push (q : Quoted) (c : Char) : Quoted :=
  ⟨c :: q.read, none, q.broken || q.high.isSome⟩

/-- A code unit of sixteen bits given by a `\u` escape. -/
def unit (q : Quoted) (n : Nat) : Quoted :=
  if 0xD800 ≤ n && n < 0xDC00 then ⟨q.read, some n, q.broken || q.high.isSome⟩
  else if 0xDC00 ≤ n && n < 0xE000 then
    match q.high with
    | some h =>
      let c := Char.ofNat (0x10000 + (h - 0xD800) * 0x400 + (n - 0xDC00))
      ⟨c :: q.read, none, q.broken⟩
    | none => ⟨q.read, none, true⟩
  else q.push (Char.ofNat n)

def finish (q : Quoted) : Token :=
  .text (if q.broken || q.high.isSome then none else some (String.ofList q.read.reverse))

end Quoted

/-- The character a one-letter escape stands for. -/
def escaped? (c : Char) : Option Char :=
  match c with
  | '"' => some '"'
  | '\\' => some '\\'
  | '/' => some '/'
  | 'b' => some '\x08'
  | 'f' => some '\x0c'
  | 'n' => some '\n'
  | 'r' => some '\r'
  | 't' => some '\t'
  | _ => none

def hexDigit? (c : Char) : Option Nat :=
  if '0' ≤ c && c ≤ '9' then some (c.toNat - 48)
  else if 'a' ≤ c && c ≤ 'f' then some (c.toNat - 87)
  else if 'A' ≤ c && c ≤ 'F' then some (c.toNat - 55)
  else none

/-! ### Cutting -/

/-- Where the scan stands: between tokens, inside a string, behind a backslash,
inside the digits of a `\u` escape, or inside the run of a number or word. -/
inductive Mode where
  | between
  | quoted (q : Quoted)
  | escape (q : Quoted)
  | hex (q : Quoted) (n owed : Nat)
  | number (run : List Char)
  | word (run : List Char)

def isJsonBlank (c : Char) : Bool :=
  c == ' ' || c == '\n' || c == '\t' || c == '\r'

def isNumberChar (c : Char) : Bool :=
  Reading.isDigit c || c == '+' || c == '-' || c == '.' || c == 'e' || c == 'E'

/-- A token of one character. -/
def mark? (c : Char) : Option Token :=
  match c with
  | '[' => some .openList
  | ']' => some .closeList
  | '{' => some .openTable
  | '}' => some .closeTable
  | ':' => some .colon
  | ',' => some .comma
  | _ => none

/-- The tokens of a character between tokens, and where that leaves the scan. -/
def begin? (c : Char) : Option (List Token × Mode) :=
  if isJsonBlank c then some ([], .between)
  else if c == '"' then some ([], .quoted .start)
  else if c == '-' || Reading.isDigit c then some ([], .number [c])
  else if c.isLower then some ([], .word [c])
  else (mark? c).map fun t => ([t], .between)

/-- The token of a finished run of number characters, latest first. -/
def numberToken? (run : List Char) : Option Token :=
  (Numeral.of? run.reverse).map fun n => .plain n.value

/-- The token of a finished word, latest letter first. -/
def wordToken? (run : List Char) : Option Token :=
  match String.ofList run.reverse with
  | "null" => some (.plain .null)
  | "true" => some (.plain (.bool true))
  | "false" => some (.plain (.bool false))
  | _ => none

def next? (c : Char) : Mode → Option (List Token × Mode)
  | .between => begin? c
  | .quoted q =>
    if c == '"' then some ([q.finish], .between)
    else if c == '\\' then some ([], .escape q)
    else if c.toNat < 0x20 then none
    else some ([], .quoted (q.push c))
  | .escape q =>
    if c == 'u' then some ([], .hex q 0 3)
    else (escaped? c).map fun e => ([], .quoted (q.push e))
  | .hex q n owed =>
    (hexDigit? c).map fun d =>
      match owed with
      | 0 => ([], .quoted (q.unit (16 * n + d)))
      | owed + 1 => ([], .hex q (16 * n + d) owed)
  | .number run =>
    if isNumberChar c then some ([], .number (c :: run))
    else do
      let t ← numberToken? run
      let (ts, mode) ← begin? c
      return (t :: ts, mode)
  | .word run =>
    if c.isLower then some ([], .word (c :: run))
    else do
      let t ← wordToken? run
      let (ts, mode) ← begin? c
      return (t :: ts, mode)

/-- The tokens that the end of the text leaves. -/
def close? : Mode → Option (List Token)
  | .between => some []
  | .number run => (numberToken? run).map ([·])
  | .word run => (wordToken? run).map ([·])
  | _ => none

def scan? : Mode → List Char → Option (List Token)
  | mode, [] => close? mode
  | mode, c :: cs => do
    let (ts, mode) ← next? c mode
    let rest ← scan? mode cs
    return ts ++ rest

/-- The tokens of a text. -/
def tokens? (s : String) : Option (List Token) :=
  scan? .between s.toList

end DeviceLab.Json
