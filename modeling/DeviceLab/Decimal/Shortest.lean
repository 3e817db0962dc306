import DeviceLab.Decimal.Binary64

/-! The shortest decimal that reads back.

Around a positive number `m · 2 ^ q` lies the interval of reals that round to
it. For one digit, two digits and so on the two decimals of that many digits
next to the number are tested against the interval, exactly; the first count
with a hit wins, and of two hits the nearer. Seventeen digits always suffice. -/
namespace DeviceLab.Shortest

/-- The number `m · 2 ^ q` and its interval, all over one denominator. The ends
belong to the interval when `m` is even. -/
structure Interval where
  value : Nat
  low : Nat
  high : Nat
  den : Nat
  closed : Bool

/-- Below a power of two the gap to the next number is half as wide. -/
def intervalOf (m : Nat) (q : Int) : Interval :=
  let narrow := m == Nat.pow 2 52 && q > -1074
  let scale := if q ≥ 0 then Nat.pow 2 q.toNat else 1
  { value := 4 * m * scale
    low := (4 * m - if narrow then 1 else 2) * scale
    high := (4 * m + 2) * scale
    den := 4 * if q ≥ 0 then 1 else Nat.pow 2 (-q).toNat
    closed := m % 2 == 0 }

/-- Does `d · 10 ^ e` lie in the interval? -/
def Interval.holds (i : Interval) (d : Nat) (e : Int) : Bool :=
  let up := if e ≥ 0 then Nat.pow 10 e.toNat else 1
  let down := if e ≥ 0 then 1 else Nat.pow 10 (-e).toNat
  let x := d * up * i.den
  if i.closed then i.low * down ≤ x && x ≤ i.high * down
  else i.low * down < x && x < i.high * down

/-- The distance of `d · 10 ^ e` from the number, over a denominator that depends on `e` only. -/
def Interval.distance (i : Interval) (d : Nat) (e : Int) : Nat :=
  let up := if e ≥ 0 then Nat.pow 10 e.toNat else 1
  let down := if e ≥ 0 then 1 else Nat.pow 10 (-e).toNat
  let x := d * up * i.den
  let y := i.value * down
  if x ≤ y then y - x else x - y

/-- The greatest `d` with `d · 10 ^ e` at most the number. -/
def Interval.floor (i : Interval) (e : Int) : Nat :=
  if e ≥ 0 then i.value / (i.den * Nat.pow 10 e.toNat)
  else i.value * Nat.pow 10 (-e).toNat / i.den

/-- An exponent `k` with the number at most `10 ^ k` and at least `10 ^ (k - 1)`. -/
def Interval.magnitude (i : Interval) : Int :=
  if i.value ≥ i.den then (Binary64.digits (i.value / i.den)).length
  else 1 - Int.ofNat (Binary64.digits (i.den / i.value)).length

/-- The neighbour on the grid of `e` that lies in the interval, the nearer of two. -/
def Interval.onGrid (i : Interval) (e : Int) : Option (Nat × Int) :=
  let below := i.floor e
  let above := below + 1
  match i.holds below e && below != 0, i.holds above e with
  | true, true =>
    if i.distance above e < i.distance below e ||
        (i.distance above e == i.distance below e && below % 2 == 1) then some (above, e)
    else some (below, e)
  | true, false => some (below, e)
  | false, true => some (above, e)
  | false, false => none

/-- The digits `d` and the exponent `e` of the shortest decimal `d · 10 ^ e` for `m · 2 ^ q`. -/
def decimal (m : Nat) (q : Int) : Nat × Int :=
  if m == 0 then (0, 0)
  else
    let i := intervalOf m q
    let k := i.magnitude
    ((List.range 17).findSome? fun (n : Nat) => i.onGrid (k - 1 - n)).getD
      (i.floor (k - 17), k - 17)

/-- `d · 10 ^ e` without an exponent and without needless zeros. -/
def plain (d : Nat) (e : Int) : String :=
  let text := Binary64.digits d
  if e ≥ 0 then
    if d == 0 then "0" else String.ofList (text ++ List.replicate e.toNat '0')
  else
    let places := (-e).toNat
    let text := List.replicate (places + 1 - text.length) '0' ++ text
    let whole := text.take (text.length - places)
    let part := ((text.drop (text.length - places)).reverse.dropWhile (· == '0')).reverse
    if part.isEmpty then String.ofList whole else String.ofList (whole ++ '.' :: part)

/-- A number in the fewest digits that read back as it, in positional notation. -/
def text (x : Float) : String :=
  match Binary64.parts x with
  | .finite negative m q =>
    let (d, e) := decimal m q
    (if negative then "-" else "") ++ plain d e
  | .infinite negative => if negative then "-inf" else "inf"
  | .notANumber => "NaN"

end DeviceLab.Shortest
