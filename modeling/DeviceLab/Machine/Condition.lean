import DeviceLab.Decimal.Reading
import DeviceLab.Host

/-! Conditions on texts, numbers and files, as the words of a command line. -/
namespace DeviceLab.Machine.Condition

/-- Why words are no condition. -/
inductive Fault where
  | noNumber (word : String)
  | missingAfter (word : String)
  | noOperator (word : String)
  | missingParenthesis
  | extra (word : String)

/-- What a program says about it. -/
def Fault.message : Fault → String
  | .noNumber word => "invalid integer '" ++ word ++ "'"
  | .missingAfter word => "missing argument after '" ++ word ++ "'"
  | .noOperator word => "'" ++ word ++ "': binary operator expected"
  | .missingParenthesis => "')' expected"
  | .extra word => "extra argument '" ++ word ++ "'"

/-- What a shell says about it. -/
def Fault.shellMessage : Fault → String
  | .noNumber word => "Illegal number: " ++ word
  | .missingAfter _ => "argument expected"
  | .noOperator word | .extra word => word ++ ": unexpected operator"
  | .missingParenthesis => "closing paren expected"

/-! ### Single tests -/

/-- Does an entry of that kind lie there, as a letter asks? -/
def file (h : Host) (letter : Char) (path : String) : Bool :=
  match h.tree.stat h.cwd path with
  | .error _ => false
  | .ok .directory => ['e', 'd', 'r', 'w', 'x', 's'].contains letter
  | .ok (.file content runnable) =>
    let device := (h.tree.locate h.cwd path).toOption.any (·.take 1 == ["dev"])
    match letter with
    | 'e' | 'r' | 'w' => true
    | 'f' => !device
    | 'c' => device
    | 's' => !content.shown.isEmpty
    | 'x' => runnable
    | _ => false

def unaryLetters : List Char := "bcdefghknprstuwxzGLOS".toList

/-- The letter of a test of one word. -/
def unary? (word : String) : Option Char :=
  match word.toList with
  | ['-', c] => if unaryLetters.contains c then some c else none
  | _ => none

def unary (h : Host) (letter : Char) (arg : String) : Bool :=
  match letter with
  | 'z' => arg.isEmpty
  | 'n' => !arg.isEmpty
  | 't' => false
  | letter => file h letter arg

def integer (s : String) : Except Fault Int :=
  let cs := s.toList.dropWhile (· == ' ')
  let (negative, cs) : Bool × List Char := match cs with
    | '-' :: cs => (true, cs)
    | '+' :: cs => (false, cs)
    | cs => (false, cs)
  match Reading.digits? (cs.reverse.dropWhile (· == ' ')).reverse with
  | some n => .ok (if negative then -(n : Int) else n)
  | none => .error (.noNumber s)

def compared (p : Int → Int → Bool) (a b : String) : Except Fault Bool := do
  return p (← integer a) (← integer b)

/-- A test between two words. -/
def binary? (op : String) : Option (String → String → Except Fault Bool) :=
  match op with
  | "=" | "==" => some fun a b => .ok (a == b)
  | "!=" => some fun a b => .ok (a != b)
  | "<" => some fun a b => .ok (decide (a < b))
  | ">" => some fun a b => .ok (decide (b < a))
  | "-eq" => some (compared fun a b => a == b)
  | "-ne" => some (compared fun a b => a != b)
  | "-lt" => some (compared fun a b => a < b)
  | "-le" => some (compared fun a b => a ≤ b)
  | "-gt" => some (compared fun a b => a > b)
  | "-ge" => some (compared fun a b => a ≥ b)
  | _ => none

/-! ### Connections -/

/-- Which part of a condition is read. -/
inductive Level where
  | either
  | both
  | single

/-- Reads a condition; gives its value and the words behind it. -/
def read (h : Host) (level : Level) (words : List String) :
    (fuel : Nat) → Except Fault (Bool × List String)
  | 0 => .error .missingParenthesis
  | fuel + 1 =>
    match level with
    | .either => do
      let (a, rest) ← read h .both words fuel
      match rest with
      | "-o" :: rest => do
        let (b, rest) ← read h .either rest fuel
        return (a || b, rest)
      | rest => return (a, rest)
    | .both => do
      let (a, rest) ← read h .single words fuel
      match rest with
      | "-a" :: rest => do
        let (b, rest) ← read h .both rest fuel
        return (a && b, rest)
      | rest => return (a, rest)
    | .single =>
      match words with
      | [] => .error (.missingAfter "")
      | a :: op :: b :: rest =>
        match binary? op with
        | some test => do return (← test a b, rest)
        | none =>
          if a == "!" then do
            let (v, rest) ← read h .single (op :: b :: rest) fuel
            return (!v, rest)
          else if a == "(" then do
            let (v, rest) ← read h .either (op :: b :: rest) fuel
            match rest with
            | ")" :: rest => return (v, rest)
            | _ => .error .missingParenthesis
          else
            match unary? a with
            | some letter => .ok (unary h letter op, b :: rest)
            | none => .ok (!a.isEmpty, op :: b :: rest)
      | a :: b :: [] =>
        if a == "!" then .ok (b.isEmpty, [])
        else
          match unary? a with
          | some letter => .ok (unary h letter b, [])
          | none => .ok (!a.isEmpty, [b])
      | [a] => .ok (!a.isEmpty, [])

/-- The value of a condition. No words at all are no condition that holds. -/
def holds (h : Host) (words : List String) : Except Fault Bool :=
  match words with
  | [] => .ok false
  | words => do
    let (v, rest) ← read h .either words (4 * words.length + 4)
    match rest with
    | [] => return v
    | [word] => .error (.missingAfter word)
    | word :: _ => .error (if words.length ≤ 3 then .noOperator word else .extra word)

end DeviceLab.Machine.Condition
