import DeviceLab.Decimal.Binary64

/-! Reading numbers written in decimal.

`nat?` and `int?` read digits with an optional sign and refuse everything else;
`float?` reads a decimal fraction with an optional exponent, or a word for an
infinity or for no number, and rounds to the nearest representable number. -/
namespace DeviceLab.Reading

def digit? (c : Char) : Option Nat :=
  if '0' ≤ c && c ≤ '9' then some (c.toNat - 48) else none

def isDigit (c : Char) : Bool :=
  (digit? c).isSome

/-- The value of the digits, or nothing if a character is none. -/
def digitsFrom? (acc : Nat) : List Char → Option Nat
  | [] => some acc
  | c :: cs => (digit? c).bind fun d => digitsFrom? (10 * acc + d) cs

/-- One or more digits and nothing else. -/
def digits? : List Char → Option Nat
  | [] => none
  | cs => digitsFrom? 0 cs

/-- A natural number at most `max`, a plus sign allowed in front. -/
def nat? (max : Nat) (s : String) : Option Nat :=
  let cs := match s.toList with
    | '+' :: cs => cs
    | cs => cs
  (digits? cs).bind fun n => if n ≤ max then some n else none

/-- The largest values of unsigned words of 32 and 64 bits. -/
def maxWord32 : Nat := UInt32.size - 1
def maxWord64 : Nat := UInt64.size - 1

/-- The number nearest to `± d · 10 ^ e`. Far outside the range the digits no longer matter. -/
def nearest (negative : Bool) (d : Nat) (e : Int) : Float :=
  let size : Int := (Binary64.digits d).length + e
  let x : Float :=
    if d == 0 || size < -400 then 0.0
    else if size > 400 then 1.0 / 0.0
    else Float.ofScientific d (e < 0) e.natAbs
  if negative then -x else x

def lower (cs : List Char) : List Char :=
  cs.map Char.toLower

/-- The exponent behind its letter: an optional sign and digits to the end. -/
def exponent? : List Char → Option Int
  | '+' :: cs => (digits? cs).map fun n => (n : Int)
  | '-' :: cs => (digits? cs).map fun n => -(n : Int)
  | cs => (digits? cs).map fun n => (n : Int)

/-- Digits with at most one point among them and an exponent after them. -/
def unsigned? (negative : Bool) (cs : List Char) : Option Float :=
  let whole := cs.takeWhile isDigit
  let rest := cs.dropWhile isDigit
  let (part, rest) := match rest with
    | '.' :: rest => (rest.takeWhile isDigit, rest.dropWhile isDigit)
    | rest => ([], rest)
  if whole.isEmpty && part.isEmpty then none
  else
    (digits? (whole ++ part)).bind fun d =>
      match rest with
      | [] => some (nearest negative d (-(part.length : Int)))
      | c :: rest =>
        if c == 'e' || c == 'E' then
          (exponent? rest).map fun e => nearest negative d (e - part.length)
        else none

/-- A decimal fraction, `inf`, `infinity` or `nan` in any letter case, with an optional sign. -/
def float? (s : String) : Option Float :=
  let (negative, cs) := match s.toList with
    | '-' :: cs => (true, cs)
    | '+' :: cs => (false, cs)
    | cs => (false, cs)
  if lower cs == ['i', 'n', 'f'] || lower cs == ['i', 'n', 'f', 'i', 'n', 'i', 't', 'y'] then
    some (if negative then -(1.0 / 0.0) else 1.0 / 0.0)
  else if lower cs == ['n', 'a', 'n'] then some (0.0 / 0.0)
  else unsigned? negative cs

end DeviceLab.Reading
