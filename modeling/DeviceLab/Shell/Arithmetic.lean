import DeviceLab.Machine.Format

/-! Arithmetic of a shell, on integers.

Names stand for the values of variables, and for zero where these are none. -/
namespace DeviceLab.Shell.Arithmetic

/-- Why an expression has no value. -/
inductive Fault where
  | noOperand
  | surplus
  | divisionByZero

def Fault.message : Fault → String
  | .noOperand => "expecting primary"
  | .surplus => "expecting EOF"
  | .divisionByZero => "division by zero"

inductive Token where
  | number (n : Int)
  | sign (s : String)

def signs : List String :=
  ["<<", ">>", "<=", ">=", "==", "!=", "&&", "||", "+", "-", "*", "/", "%", "<", ">", "!", "~",
    "(", ")", "&", "|", "^", "?", ":"]

/-- The tokens of an expression. -/
def tokens (value : String → String) (cs : List Char) : (fuel : Nat) → Option (List Token)
  | 0 => none
  | fuel + 1 =>
    match cs with
    | [] => some []
    | c :: rest =>
      if c == ' ' || c == '\t' || c == '\n' then tokens value rest fuel
      else if c.isAlphanum || c == '_' || c == '$' then
        let word := c :: rest.takeWhile fun c => c.isAlphanum || c == '_'
        let text := String.ofList (if c == '$' then word.drop 1 else word)
        let text := if c.isDigit then text else value text
        let (n, whole) := Machine.Format.numberOf (if text.isEmpty then "0" else text)
        if whole then
          (tokens value (rest.drop (word.length - 1)) fuel).map fun ts => .number n :: ts
        else none
      else
        match signs.find? fun s => s.toList.isPrefixOf cs with
        | some s => (tokens value (cs.drop s.length) fuel).map fun ts => .sign s :: ts
        | none => none

def ofBool (b : Bool) : Int :=
  if b then 1 else 0

/-- How tightly an operation between two numbers binds, and what it does. -/
def operation? (s : String) : Option (Nat × (Int → Int → Except Fault Int)) :=
  let total (f : Int → Int → Int) : Int → Int → Except Fault Int :=
    fun a b => .ok (BitVec.ofInt 64 (f a b)).toInt
  let divided (f : Int → Int → Int) : Int → Int → Except Fault Int :=
    fun a b => if b == 0 then .error .divisionByZero else .ok (f a b)
  match s with
  | "*" => some (10, total (· * ·))
  | "/" => some (10, divided Int.tdiv)
  | "%" => some (10, divided Int.tmod)
  | "+" => some (9, total (· + ·))
  | "-" => some (9, total (· - ·))
  | "<<" => some (8, total fun a b => (BitVec.ofInt 64 a <<< (b % 64).toNat).toInt)
  | ">>" => some (8, total fun a b => ((BitVec.ofInt 64 a).sshiftRight (b % 64).toNat).toInt)
  | "<" => some (7, total fun a b => ofBool (a < b))
  | "<=" => some (7, total fun a b => ofBool (a ≤ b))
  | ">" => some (7, total fun a b => ofBool (a > b))
  | ">=" => some (7, total fun a b => ofBool (a ≥ b))
  | "==" => some (6, total fun a b => ofBool (a == b))
  | "!=" => some (6, total fun a b => ofBool (a != b))
  | "&" => some (5, total fun a b => (BitVec.ofInt 64 a &&& BitVec.ofInt 64 b).toInt)
  | "^" => some (4, total fun a b => (BitVec.ofInt 64 a ^^^ BitVec.ofInt 64 b).toInt)
  | "|" => some (3, total fun a b => (BitVec.ofInt 64 a ||| BitVec.ofInt 64 b).toInt)
  | "&&" => some (2, total fun a b => ofBool (a != 0 && b != 0))
  | "||" => some (1, total fun a b => ofBool (a != 0 || b != 0))
  | _ => none

mutual

/-- An expression whose operations bind as tightly as `least` at least. -/
def expression (least : Nat) (ts : List Token) : (fuel : Nat) → Except Fault (Int × List Token)
  | 0 => .error .noOperand
  | fuel + 1 => do
    let (a, rest) ← operand ts fuel
    further least a rest fuel

/-- The operations behind a first operand. -/
def further (least : Nat) (a : Int) (ts : List Token) :
    (fuel : Nat) → Except Fault (Int × List Token)
  | 0 => .error .noOperand
  | fuel + 1 =>
    match ts with
    | .sign "?" :: rest =>
      if least == 0 then do
        let (yes, rest) ← expression 0 rest fuel
        match rest with
        | .sign ":" :: rest =>
          let (no, rest) ← expression 0 rest fuel
          return (if a != 0 then yes else no, rest)
        | _ => .error .noOperand
      else .ok (a, ts)
    | .sign s :: rest =>
      match operation? s with
      | some (level, f) =>
        if level < least then .ok (a, ts)
        else do
          let (b, rest) ← expression (level + 1) rest fuel
          let c ← f a b
          further least c rest fuel
      | none => .ok (a, ts)
    | ts => .ok (a, ts)

def operand (ts : List Token) : (fuel : Nat) → Except Fault (Int × List Token)
  | 0 => .error .noOperand
  | fuel + 1 =>
    let changed (f : Int → Int) (rest : List Token) : Except Fault (Int × List Token) :=
      (operand rest fuel).map fun (n, rest) => (f n, rest)
    match ts with
    | .number n :: rest => .ok (n, rest)
    | .sign "-" :: rest => changed (- ·) rest
    | .sign "+" :: rest => changed id rest
    | .sign "!" :: rest => changed (fun n => ofBool (n == 0)) rest
    | .sign "~" :: rest => changed (fun n => -n - 1) rest
    | .sign "(" :: rest => do
      let (n, rest) ← expression 0 rest fuel
      match rest with
      | .sign ")" :: rest => return (n, rest)
      | _ => .error .noOperand
    | _ => .error .noOperand

end

/-- The value of an expression, if it has one. An empty one is zero. -/
def eval (value : String → String) (s : String) : Except Fault Int := do
  match tokens value s.toList (s.length + 1) with
  | none => .error .noOperand
  | some [] => return 0
  | some ts =>
    let (n, rest) ← expression 0 ts (4 * ts.length + 4)
    if rest.isEmpty then return n else .error .surplus

end DeviceLab.Shell.Arithmetic
