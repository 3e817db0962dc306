import DeviceLab.Unicode.Property

/-! Text in quotes, for people who debug.

Quotes, backslashes and line ends are escaped by a letter. Characters that would
not show, and those that change the one in front of them, are given by number. -/
namespace DeviceLab.Text

/-- The characters that do not show: unassigned ones, controls, formats and separators. -/
def hidden : Unicode.Ranges :=
  Unicode.Category.control.ranges ++ Unicode.Category.format.ranges ++
    Unicode.Category.privateUse.ranges ++ Unicode.Category.lineSeparator.ranges ++
    Unicode.Category.paragraphSeparator.ranges ++ Unicode.Category.spaceSeparator.ranges

def assignedCharacters : Unicode.Ranges :=
  Unicode.Category.assigned.flatMap Unicode.Category.ranges

/-- Is the character given by number? -/
def byNumber (c : Char) : Bool :=
  let n := c.toNat
  if n < 0x7F then n < 0x20
  else hidden.holds n || !assignedCharacters.holds n || Unicode.graphemeExtend.holds n

def escapeChar (c : Char) : List Char :=
  match c with
  | '\x00' => ['\\', '0']
  | '\t' => ['\\', 't']
  | '\r' => ['\\', 'r']
  | '\n' => ['\\', 'n']
  | '"' => ['\\', '"']
  | '\\' => ['\\', '\\']
  | c =>
    if byNumber c then ['\\', 'u', '{'] ++ Nat.toDigits 16 c.toNat ++ ['}'] else [c]

/-- The text in quotes. -/
def quoted (s : String) : String :=
  String.ofList ('"' :: s.toList.flatMap escapeChar ++ ['"'])

end DeviceLab.Text
