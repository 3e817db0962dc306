import DeviceLab.Datum
import DeviceLab.Decimal.Shortest

/-! Writing JSON.

Compact text has no blanks. Indented text gives each item and each field a line
of its own, two blanks deeper than what encloses it. -/
namespace DeviceLab.Json

def hexChar (n : Nat) : Char :=
  if n < 10 then Char.ofNat (48 + n) else Char.ofNat (87 + n)

/-- A character inside quotes: quote, backslash and control characters are escaped. -/
def escape (c : Char) : List Char :=
  match c with
  | '"' => ['\\', '"']
  | '\\' => ['\\', '\\']
  | '\x08' => ['\\', 'b']
  | '\x0c' => ['\\', 'f']
  | '\n' => ['\\', 'n']
  | '\r' => ['\\', 'r']
  | '\t' => ['\\', 't']
  | c =>
    if c.toNat < 0x20 then ['\\', 'u', '0', '0', hexChar (c.toNat / 16), hexChar (c.toNat % 16)]
    else [c]

/-- The text in quotes. -/
def quote (s : String) : String :=
  String.ofList ('"' :: s.toList.flatMap escape ++ ['"'])

/-- A datum without parts. -/
def plain : Datum → String
  | .bool true => "true"
  | .bool false => "false"
  | .int n => toString n
  | .float x => Shortest.text x
  | .text s | .moment s => quote s
  | _ => "null"

/-! ### Compact -/

mutual

def compact : Datum → String
  | .list items => "[" ++ compactItems items ++ "]"
  | .table fields => "\x7b" ++ compactFields fields ++ "\x7d"
  | d => plain d

def compactItems : List Datum → String
  | [] => ""
  | [d] => compact d
  | d :: rest => compact d ++ "," ++ compactItems rest

def compactFields : List (String × Datum) → String
  | [] => ""
  | [(k, d)] => quote k ++ ":" ++ compact d
  | (k, d) :: rest => quote k ++ ":" ++ compact d ++ "," ++ compactFields rest

end

/-! ### Indented -/

/-- A new line with the given indentation. -/
def newline (indent : Nat) : String :=
  String.ofList ('\n' :: List.replicate (2 * indent) ' ')

mutual

def indented (indent : Nat) : Datum → String
  | .list [] => "[]"
  | .table [] => "\x7b\x7d"
  | .list items => "[" ++ indentedItems (indent + 1) items ++ newline indent ++ "]"
  | .table fields => "\x7b" ++ indentedFields (indent + 1) fields ++ newline indent ++ "\x7d"
  | d => plain d

def indentedItems (indent : Nat) : List Datum → String
  | [] => ""
  | [d] => newline indent ++ indented indent d
  | d :: rest => newline indent ++ indented indent d ++ "," ++ indentedItems indent rest

def indentedFields (indent : Nat) : List (String × Datum) → String
  | [] => ""
  | [(k, d)] => newline indent ++ quote k ++ ": " ++ indented indent d
  | (k, d) :: rest =>
    newline indent ++ quote k ++ ": " ++ indented indent d ++ "," ++ indentedFields indent rest

end

/-- The datum over several lines. -/
def pretty (d : Datum) : String :=
  indented 0 d

end DeviceLab.Json
