import DeviceLab.Datum
import DeviceLab.Text.Cut
import DeviceLab.Toml.Token

/-! TOML numbers and points in time.

A number may be spread over several tokens, since the point, the plus sign and
the colon are tokens of their own. Underscores may stand between digits. -/
namespace DeviceLab.Toml

/-- The digit of a base that a character is. -/
def digit? (base : Nat) (c : Char) : Option Nat :=
  (hexDigit? c).filter (· < base)

/-- What has been read of a run of digits: their values, latest first, whether the
first one is a zero, and whether an underscore stands last. -/
structure Digits where
  read : List Nat
  zero : Bool
  trailing : Bool

/-- The digits at the start of a run, and the rest. -/
def digitsFrom (base : Nat) (zeros : Bool) (d : Digits) :
    List Char → Option (List Nat × List Char)
  | [] => if d.read.isEmpty || d.trailing then none else some (d.read.reverse, [])
  | c :: cs =>
    match digit? base c with
    | some n =>
      if d.read.isEmpty then digitsFrom base zeros ⟨[n], c == '0', false⟩ cs
      else if d.zero && !zeros then none
      else digitsFrom base zeros ⟨n :: d.read, d.zero, false⟩ cs
    | none =>
      if c == '_' && !d.read.isEmpty && !d.trailing then
        digitsFrom base zeros ⟨d.read, d.zero, true⟩ cs
      else if d.read.isEmpty || d.trailing then none
      else some (d.read.reverse, c :: cs)

/-- Digits, `zeros` in front of others if allowed, and the rest. -/
def digits? (base : Nat) (zeros : Bool) (cs : List Char) : Option (List Nat × List Char) :=
  digitsFrom base zeros ⟨[], false, false⟩ cs

/-- Digits behind an optional sign. -/
def signed? (zeros : Bool) (cs : List Char) : Option (Bool × List Nat × List Char) :=
  let (negative, cs) := match cs with
    | '-' :: cs => (true, cs)
    | '+' :: cs => (false, cs)
    | cs => (false, cs)
  (digits? 10 zeros cs).map fun (ds, rest) => (negative, ds, rest)

def valueOf (base : Nat) (ds : List Nat) : Nat :=
  ds.foldl (fun n d => base * n + d) 0

/-- An integer of 64 bits. -/
def integerOf? (negative : Bool) (n : Nat) : Option Datum :=
  let i : Int := if negative then -(n : Int) else n
  if Int64.minValue.toInt ≤ i && i ≤ Int64.maxValue.toInt then some (.int i) else none

/-- A whole number in a base given in front of it. -/
def based? (base : Nat) (cs : List Char) : Option Datum :=
  match digits? base true cs with
  | some (ds, []) => integerOf? false (valueOf base ds)
  | _ => none

/-- A whole number in decimal. -/
def decimal? (cs : List Char) : Option Datum :=
  match signed? false cs with
  | some (negative, ds, []) => integerOf? negative (valueOf 10 ds)
  | _ => none

/-- A finite fraction of the digits. -/
def fraction? (negative : Bool) (whole part : List Nat) (exponent : Int) : Option Datum :=
  let x := Reading.nearest negative (valueOf 10 (whole ++ part)) (exponent - part.length)
  if x.isFinite then some (.float x) else none

/-- An exponent of digits, at most so far that the result no longer changes. -/
def exponentOf (negative : Bool) (ds : List Nat) : Int :=
  let n := min (valueOf 10 ds) 1000000
  if negative then -(n : Int) else n

/-- What may follow the digits of a fraction: nothing, or an exponent, of which the
sign and the digits may be tokens of their own. -/
def exponent? (cs : List Char) (ts : List Token) : Option (Int × List Token) :=
  match cs with
  | [] => some (0, ts)
  | [c] =>
    if c == 'e' || c == 'E' then
      let ts := match ts with
        | .plus :: ts => ts
        | ts => ts
      match ts with
      | .bare s :: ts =>
        match digits? 10 true s.toList with
        | some (ds, []) => some (exponentOf false ds, ts)
        | _ => none
      | _ => none
    else none
  | c :: cs =>
    if c == 'e' || c == 'E' then
      match signed? true cs with
      | some (negative, ds, []) => some (exponentOf negative ds, ts)
      | _ => none
    else none

/-- A number with an exponent or a point. -/
def float? (cs : List Char) (after : Option String) (ts : List Token) :
    Option (Datum × List Token) := do
  let (negative, whole, rest) ← signed? false cs
  let (part, rest) ← match after with
    | none => some ([], rest)
    | some s => if rest.isEmpty then digits? 10 true s.toList else none
  let (e, ts) ← exponent? rest ts
  let d ← fraction? negative whole part e
  return (d, ts)

/-- A word for an infinity or for no number. -/
def special? (s : String) : Option Float :=
  match s with
  | "inf" => some (1.0 / 0.0)
  | "-inf" => some (-(1.0 / 0.0))
  | "nan" | "-nan" => some (0.0 / 0.0)
  | _ => none

/-- A number that begins with a token. -/
def number? (s : String) (ts : List Token) : Option (Datum × List Token) :=
  match s.toList with
  | '0' :: 'x' :: cs => (based? 16 cs).map (·, ts)
  | '0' :: 'o' :: cs => (based? 8 cs).map (·, ts)
  | '0' :: 'b' :: cs => (based? 2 cs).map (·, ts)
  | cs =>
    if cs.any fun c => c == 'e' || c == 'E' then float? cs none ts
    else
      match ts with
      | .period :: .bare after :: ts => float? cs (some after) ts
      | .period :: _ => none
      | ts =>
        match special? s with
        | some x => some (.float x, ts)
        | none => (decimal? cs).map (·, ts)

/-! ### Points in time -/

/-- The rest behind a run of letters and digits. -/
def run? : List Token → Option (List Token)
  | .bare _ :: ts => some ts
  | _ => none

/-- The rest behind the token and such a run, or all if the token is not there. -/
def optionalRun? (t : Token) : List Token → Option (List Token)
  | [] => some []
  | t' :: ts => if t' = t then run? ts else some (t' :: ts)

/-- The time behind the hour: minutes, seconds, a fraction and an offset. -/
def clockTime? (ts : List Token) : Option (List Token) := do
  let ts ← run? ts
  let .colon :: ts := ts | none
  let ts ← run? ts
  let ts ← optionalRun? .period ts
  let ts ← optionalRun? .plus ts
  optionalRun? .colon ts

/-- The rest behind a point in time; was the colon behind the hour read already? -/
def moment? (colon : Bool) (ts : List Token) : Option (List Token) :=
  let ts := match ts with
    | .blank true :: .bare _ :: rest => rest
    | ts => ts
  if colon then clockTime? ts
  else
    match ts with
    | .colon :: ts => clockTime? ts
    | ts => some ts

/-- Does the run of characters look like a date, rather than a number? -/
def datelike (cs : List Char) : Bool :=
  let exponent := fun c => (Text.afterFirst [c, '-'] cs).isSome
  cs.contains 'T' || cs.contains 't' ||
    ((cs.drop 1).contains '-' && !exponent 'e' && !exponent 'E')

/-- A number or a point in time that begins with a token. -/
def numberOrMoment? (s : String) (ts : List Token) : Option (Datum × List Token) :=
  if datelike s.toList then (moment? false ts).map (.moment s, ·)
  else
    match ts with
    | .colon :: ts => (moment? true ts).map (.moment s, ·)
    | ts => number? s ts

end DeviceLab.Toml
