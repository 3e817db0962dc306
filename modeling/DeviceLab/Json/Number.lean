import DeviceLab.Datum
import DeviceLab.Decimal.Reading

/-! JSON numbers.

A number without fraction and exponent is an integer as long as it fits 64 bits.
Any other is a fraction: of its digits those that fit 64 bits are kept, and the
result is scaled by a power of ten in floating point, so the last place may be
one off the nearest number. A magnitude beyond the range has no value. -/
namespace DeviceLab.Json

/-- A number as written. -/
structure Numeral where
  negative : Bool
  whole : List Nat
  fraction : Option (List Nat)
  exponent : Option (Bool × List Nat)

namespace Numeral

/-! ### The grammar -/

def digitRun : List Char → List Nat × List Char
  | [] => ([], [])
  | c :: cs =>
    match Reading.digit? c with
    | some d =>
      let (ds, rest) := digitRun cs
      (d :: ds, rest)
    | none => ([], c :: cs)

/-- A whole part does not start with a zero unless it is one. -/
def wholeOk : List Nat → Bool
  | [] => false
  | [_] => true
  | d :: _ => d != 0

/-- `e` or `E`, an optional sign and digits, or nothing at all. -/
def exponentOf : List Char → Option (Option (Bool × List Nat))
  | [] => some none
  | c :: cs =>
    if c == 'e' || c == 'E' then
      let (negative, cs) := match cs with
        | '-' :: cs => (true, cs)
        | '+' :: cs => (false, cs)
        | cs => (false, cs)
      match digitRun cs with
      | ([], _) => none
      | (ds, []) => some (some (negative, ds))
      | _ => none
    else none

/-- Reads a whole numeral. -/
def of? (cs : List Char) : Option Numeral :=
  let (negative, cs) := match cs with
    | '-' :: cs => (true, cs)
    | cs => (false, cs)
  let (whole, rest) := digitRun cs
  if wholeOk whole then
    match rest with
    | '.' :: rest =>
      match digitRun rest with
      | ([], _) => none
      | (fraction, rest) => (exponentOf rest).map fun e => ⟨negative, whole, some fraction, e⟩
    | rest => (exponentOf rest).map fun e => ⟨negative, whole, none, e⟩
  else none

/-! ### The value -/

/-- Appends digits to `n` while the result fits 64 bits; also how many were taken. -/
def take (n : Nat) : List Nat → Nat × Nat
  | [] => (n, 0)
  | d :: ds =>
    if 10 * n + d ≤ Reading.maxWord64 then
      let (n, k) := take (10 * n + d) ds
      (n, k + 1)
    else (n, 0)

def powerOfTen (k : Nat) : Float :=
  Float.ofScientific 1 false k

/-- `x · 10 ^ e` by floating point multiplication or division, in steps of at
most 308 places downwards. -/
def scale (x : Float) (e : Int) : Option Float :=
  if e.natAbs ≤ 308 then
    if e ≥ 0 then
      let y := x * powerOfTen e.natAbs
      if y.isInf then none else some y
    else some (x / powerOfTen e.natAbs)
  else if x == 0.0 then some x
  else if e ≥ 0 then none
  else scale (x / powerOfTen 308) (e + 308)
termination_by e.natAbs
decreasing_by omega

/-- Exponents from here on are out of reach. -/
def exponentLimit : Nat := 0x80000000

/-- The digits of an exponent as a number, if it is below the limit. -/
def exponentValue (ds : List Nat) : Option Nat :=
  let n := ds.foldl (fun n d => min (10 * n + d) exponentLimit) 0
  if n < exponentLimit then some n else none

/-- `± n · 10 ^ e` as a datum. -/
def scaled (negative : Bool) (n : Nat) (e : Int) : Datum :=
  match scale (UInt64.ofNat n).toFloat e with
  | some x => .float (if negative then -x else x)
  | none => .unreadable

/-- The value of a whole number that fits 64 bits without its sign. -/
def integer (negative : Bool) (n : Nat) : Datum :=
  if !negative then .int n
  else if n == 0 || n > Nat.pow 2 63 then .float (-(UInt64.ofNat n).toFloat)
  else .int (-(n : Int))

/-- The value of a numeral. -/
def value (numeral : Numeral) : Datum :=
  let (n, taken) := take 0 numeral.whole
  let dropped := numeral.whole.length - taken
  let (n, places) := match numeral.fraction with
    | none => (n, 0)
    | some ds => take n ds
  let e : Int := Int.ofNat dropped - Int.ofNat places
  match numeral.exponent with
  | none =>
    if numeral.fraction.isNone && dropped == 0 then integer numeral.negative n
    else scaled numeral.negative n e
  | some (down, ds) =>
    match exponentValue ds with
    | some k => scaled numeral.negative n (if down then e - k else e + k)
    | none =>
      if n != 0 && !down then .unreadable
      else .float (if numeral.negative then -0.0 else 0.0)

end Numeral
end DeviceLab.Json
