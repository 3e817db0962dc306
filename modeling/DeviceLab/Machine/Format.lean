import DeviceLab.Decimal.Reading
import DeviceLab.Text.Utf8

/-! Formatted output: escapes behind a backslash, and directives behind a percent
sign that are filled in with arguments. -/
namespace DeviceLab.Machine.Format

def bytesOf (s : List Char) : List UInt8 :=
  (Utf8.encode (String.ofList s)).toList

/-! ### Escapes -/

def octal? (c : Char) : Option Nat :=
  if '0' ≤ c && c ≤ '7' then some (c.toNat - 48) else none

def hex? (c : Char) : Option Nat :=
  if c.isDigit then some (c.toNat - 48)
  else if 'a' ≤ c.toLower && c.toLower ≤ 'f' then some (c.toLower.toNat - 87)
  else none

/-- The number that at most `count` digits begin the text with, and the text behind them. -/
def leading (base : Nat) (digit? : Char → Option Nat) (acc : Nat) :
    (count : Nat) → List Char → Nat × List Char
  | count + 1, c :: cs =>
    match digit? c with
    | some d => leading base digit? (base * acc + d) count cs
    | none => (acc, c :: cs)
  | _, cs => (acc, cs)

/-- The byte a letter behind a backslash stands for. -/
def letter? : Char → Option UInt8
  | 'a' => some 7
  | 'b' => some 8
  | 't' => some 9
  | 'n' => some 10
  | 'v' => some 11
  | 'f' => some 12
  | 'r' => some 13
  | 'e' => some 27
  | '\\' => some 92
  | _ => none

/-- Which escapes there are beside the usual ones. -/
structure Dialect where
  /-- An octal number may begin with an extra zero. -/
  zero : Bool
  /-- It may do without. -/
  plain : Bool
  /-- Numbers may be hexadecimal. -/
  hex : Bool

/-- The escapes of texts to be shown, of texts set into a format, and of formats. -/
def Dialect.echo : Dialect := ⟨true, false, false⟩
def Dialect.argument : Dialect := ⟨true, true, false⟩
def Dialect.format (hex : Bool) : Dialect := ⟨false, true, hex⟩

/-- What is behind a backslash: the bytes it stands for, or the end of all output,
and the rest. -/
def escape (d : Dialect) : List Char → Option (List UInt8) × List Char
  | [] => (some [92], [])
  | c :: cs =>
    if c == 'c' then (none, [])
    else if c == '"' && !d.zero then (some [34], cs)
    else if d.hex && c == 'x' && (cs.head?.bind hex?).isSome then
      let (n, rest) := leading 16 hex? 0 2 cs
      (some [UInt8.ofNat n], rest)
    else if (octal? c).isSome && (d.plain || c == '0') then
      let (n, rest) := leading 8 octal? 0 3 (if d.zero && c == '0' then cs else c :: cs)
      (some [UInt8.ofNat n], rest)
    else
      match letter? c with
      | some b => (some [b], cs)
      | none => (some (92 :: bytesOf [c]), cs)

/-- The bytes of a text with escapes; also whether they end all output. -/
def unescaped (d : Dialect) (cs : List Char) : (fuel : Nat) → List UInt8 × Bool
  | 0 => ([], false)
  | fuel + 1 =>
    match cs with
    | [] => ([], false)
    | '\\' :: cs =>
      match escape d cs with
      | (none, _) => ([], true)
      | (some bytes, rest) =>
        let (more, ended) := unescaped d rest fuel
        (bytes ++ more, ended)
    | c :: cs =>
      let (more, ended) := unescaped d cs fuel
      (bytesOf [c] ++ more, ended)

/-- The bytes of a text with escapes, as far as they are output. -/
def textOf (d : Dialect) (cs : List Char) : List UInt8 × Bool :=
  unescaped d cs (cs.length + 1)

/-! ### Directives -/

/-- How a value is set into its place. -/
structure Shape where
  left : Bool
  zeros : Bool
  plus : Bool
  space : Bool
  alternate : Bool
  width : Nat
  precision : Option Nat

/-- The flags of a directive, and what is behind them. -/
def flags (s : Shape) : List Char → Shape × List Char
  | '-' :: cs => flags { s with left := true } cs
  | '0' :: cs => flags { s with zeros := true } cs
  | '+' :: cs => flags { s with plus := true } cs
  | ' ' :: cs => flags { s with space := true } cs
  | '#' :: cs => flags { s with alternate := true } cs
  | cs => (s, cs)

/-- Fills up to the width. -/
def padded (s : Shape) (bytes : List UInt8) : List UInt8 :=
  let blanks := List.replicate (s.width - bytes.length) (32 : UInt8)
  if s.left then bytes ++ blanks else blanks ++ bytes

/-- The digits of a number with its sign, filled up. -/
def number (s : Shape) (sign digits : List Char) : List UInt8 :=
  let least := match s.precision with
    | some p => p
    | none => if s.zeros && !s.left then s.width - sign.length else 0
  padded s (bytesOf (sign ++ List.replicate (least - digits.length) '0' ++ digits))

def signOf (s : Shape) (n : Int) : List Char :=
  if n < 0 then ['-'] else if s.plus then ['+'] else if s.space then [' '] else []

def digitsOf (base n : Nat) (upper : Bool) : List Char :=
  (Nat.toDigits base n).map fun c => if upper then c.toUpper else c

/-- The number an argument is: decimal, octal behind a zero, hexadecimal behind `0x`,
or the code of the character behind a quote. Also whether the whole argument was read. -/
def numberOf (arg : String) : Int × Bool :=
  let (negative, cs) : Bool × List Char := match arg.toList with
    | '-' :: cs => (true, cs)
    | '+' :: cs => (false, cs)
    | cs => (false, cs)
  let (n, whole) : Nat × Bool := match cs with
    | '\'' :: c :: _ | '"' :: c :: _ => (c.toNat, true)
    | '0' :: 'x' :: c :: cs | '0' :: 'X' :: c :: cs =>
      let (n, rest) := leading 16 hex? 0 (cs.length + 1) (c :: cs)
      (n, rest.isEmpty)
    | '0' :: cs =>
      let (n, rest) := leading 8 octal? 0 cs.length cs
      (n, rest.isEmpty)
    | cs =>
      let (n, rest) := leading 10 Reading.digit? 0 cs.length cs
      (n, rest.isEmpty)
  (if negative then -(n : Int) else n, whole)

/-- What has been put out, what is wrong, and the arguments that are left. -/
structure Progress where
  out : List UInt8
  wrong : List String
  args : List String
  /-- An escape has ended the output. -/
  ended : Bool

def Progress.put (p : Progress) (bytes : List UInt8) : Progress :=
  { p with out := p.out ++ bytes }

/-- The next argument, read as a number. None is zero. -/
def Progress.next (p : Progress) : Int × Progress :=
  match p.args with
  | [] => (0, p)
  | arg :: args =>
    let (n, whole) := numberOf arg
    (n, { p with args, wrong := if whole then p.wrong else p.wrong ++ [arg] })

/-- A width or a precision: digits, or an asterisk for an argument. -/
def size (p : Progress) : List Char → Option Nat × Progress × List Char
  | '*' :: cs =>
    let (n, p) := p.next
    (some n.toNat, p, cs)
  | cs =>
    let (n, rest) := leading 10 Reading.digit? 0 cs.length cs
    (if rest.length == cs.length then none else some n, p, rest)

/-- Fills in one directive. -/
def directive (s : Shape) (c : Char) (p : Progress) : Option Progress :=
  let arg := p.args.headD ""
  let cut (bytes : List UInt8) : List UInt8 := match s.precision with
    | some n => bytes.take n
    | none => bytes
  let (n, counted) := p.next
  let natural := if n < 0 then (UInt64.size + n).toNat else n.toNat
  match c with
  | 's' => some ({ p with args := p.args.tail }.put (padded s (cut (bytesOf arg.toList))))
  | 'b' =>
    let (bytes, ended) := textOf .argument arg.toList
    some ({ p with args := p.args.tail, ended }.put (padded s (cut bytes)))
  | 'c' => some ({ p with args := p.args.tail }.put (padded s ((bytesOf arg.toList).take 1)))
  | 'd' | 'i' => some (counted.put (number s (signOf s n) (digitsOf 10 n.natAbs false)))
  | 'u' => some (counted.put (number s [] (digitsOf 10 natural false)))
  | 'o' =>
    some (counted.put (number s (if s.alternate then ['0'] else []) (digitsOf 8 natural false)))
  | 'x' =>
    some (counted.put
      (number s (if s.alternate then ['0', 'x'] else []) (digitsOf 16 natural false)))
  | 'X' =>
    some (counted.put
      (number s (if s.alternate then ['0', 'X'] else []) (digitsOf 16 natural true)))
  | _ => none

/-- Puts out the format once. A directive that is none ends with its text as the error. -/
def once (hex : Bool) (cs : List Char) (p : Progress) : (fuel : Nat) → Except String Progress
  | 0 => .ok p
  | fuel + 1 =>
    match cs with
    | [] => .ok p
    | '\\' :: cs =>
      match escape (.format hex) cs with
      | (none, _) => .ok { p with ended := true }
      | (some bytes, rest) => once hex rest (p.put bytes) fuel
    | '%' :: '%' :: cs => once hex cs (p.put [37]) fuel
    | '%' :: cs =>
      let (s, rest) := flags ⟨false, false, false, false, false, 0, none⟩ cs
      let (width, p, rest) := size p rest
      let (precision, p, rest) := match rest with
        | '.' :: rest =>
          let (n, p, rest) := size p rest
          (some (n.getD 0), p, rest)
        | rest => (none, p, rest)
      match rest with
      | [] => .error (String.ofList ('%' :: cs))
      | c :: rest' =>
        match directive { s with width := width.getD 0, precision } c p with
        | some p => if p.ended then .ok p else once hex rest' p fuel
        | none => .error (String.ofList ('%' :: cs.take (cs.length - rest'.length)))
    | c :: cs => once hex cs (p.put (bytesOf [c])) fuel

/-- Puts out the format as often as there are arguments for it, once at least. -/
def again (hex : Bool) (format : List Char) (p : Progress) :
    (count : Nat) → Except String Progress
  | 0 => .ok p
  | count + 1 => do
    let q ← once hex format p (format.length + 1)
    if q.ended || q.args.isEmpty || q.args.length == p.args.length then return q
    again hex format q count

/-- Fills in the arguments. Whether escapes may be hexadecimal is said in front. -/
def print (hex : Bool) (format : String) (args : List String) : Except String Progress :=
  again hex format.toList ⟨[], [], args, false⟩ (args.length + 1)

end DeviceLab.Machine.Format
