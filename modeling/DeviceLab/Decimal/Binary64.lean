/-! Binary floating point numbers of 64 bits as exact fractions.

A finite number is `± m · 2 ^ q` with natural `m`. On `m` and `q` rounding to a
number of decimal places and the choice of the shortest digits are arithmetic
on natural numbers, with no floating point operation in between. -/
namespace DeviceLab.Binary64

/-- What the 64 bits say. -/
inductive Parts where
  | finite (negative : Bool) (m : Nat) (q : Int)
  | infinite (negative : Bool)
  | notANumber

/-- Sign, eleven exponent bits, fifty-two fraction bits. -/
def parts (x : Float) : Parts :=
  let bits : Nat := x.toBits.toNat
  let negative := bits / Nat.pow 2 63 == 1
  let exponent : Nat := bits / Nat.pow 2 52 % 2048
  let fraction : Nat := bits % Nat.pow 2 52
  if exponent == 2047 then
    if fraction == 0 then .infinite negative else .notANumber
  else if exponent == 0 then .finite negative fraction (-1074)
  else .finite negative (Nat.pow 2 52 + fraction) (Int.ofNat exponent - 1075)

def isFinite (x : Float) : Bool :=
  match parts x with
  | .finite .. => true
  | _ => false

/-- The natural number nearest to `num / den`; a tie goes to the even one. -/
def roundDiv (num den : Nat) : Nat :=
  let quotient := num / den
  let rest := 2 * (num % den)
  if rest < den then quotient
  else if rest == den && quotient % 2 == 0 then quotient
  else quotient + 1

/-- The decimal digits of a natural number, most significant first. -/
def digits (n : Nat) : List Char :=
  Nat.toDigits 10 n

/-- `m · 2 ^ q` to the nearest multiple of `10 ^ -places`, a tie to the even one,
with the point written when there are places. -/
def fixedText (m : Nat) (q : Int) (places : Nat) : String :=
  let scaled := m * Nat.pow 10 places
  let units :=
    if q ≥ 0 then scaled * Nat.pow 2 q.toNat else roundDiv scaled (Nat.pow 2 (-q).toNat)
  let text := digits units
  let text := List.replicate (places + 1 - text.length) '0' ++ text
  let whole := text.take (text.length - places)
  if places == 0 then String.ofList whole
  else String.ofList (whole ++ '.' :: text.drop (text.length - places))

/-- A number with the given count of decimal places. -/
def fixed (places : Nat) (x : Float) : String :=
  match parts x with
  | .finite negative m q => (if negative then "-" else "") ++ fixedText m q places
  | .infinite negative => if negative then "-inf" else "inf"
  | .notANumber => "NaN"

end DeviceLab.Binary64

/-! ### Spans of time

Spans are kept in nanoseconds, and written in seconds. -/

namespace DeviceLab.Seconds

def second : Nat := 1000000000
def millisecond : Nat := 1000000

/-- The longest span there is: as many whole seconds as 64 bits can count, and a part. -/
def longest : Nat := (Nat.pow 2 64 - 1) * second + (second - 1)

/-- Two spans together, unless there is no such span. -/
def sum? (a b : Nat) : Option Nat :=
  if a + b ≤ longest then some (a + b) else none

/-- The span as a floating point number of seconds. -/
def toFloat (span : Nat) : Float :=
  (UInt64.ofNat (span / second)).toFloat + (UInt64.ofNat (span % second)).toFloat / 1000000000.0

/-- The span in seconds with the given count of decimal places. -/
def text (places span : Nat) : String :=
  Binary64.fixed places (toFloat span)

end DeviceLab.Seconds
