import DeviceLab.Pattern
import DeviceLab.Pattern.Named
import DeviceLab.Text.Blank

/-! Escapes in patterns, and the flags that say how a pattern is read. -/
namespace DeviceLab.Pattern
open Unicode

/-- How the pattern is read from here on. -/
structure Flags where
  ignoreCase : Bool
  multiLine : Bool
  dotAll : Bool
  unicode : Bool
  /-- A carriage return ends a line too. -/
  returns : Bool
  /-- Blanks and comments between the parts of the pattern do not count. -/
  spaced : Bool

def Flags.usual : Flags :=
  ⟨false, false, false, true, false, false⟩

/-! ### Blanks -/

/-- The characters without blanks and comments in front; `comment` if inside one. -/
def dropSpace (comment : Bool) : List Char → List Char
  | [] => []
  | c :: cs =>
    if comment then dropSpace (c != '\n') cs
    else if c == '#' then dropSpace true cs
    else if Text.isBlank c then dropSpace false cs
    else c :: cs

/-- Passes over blanks if they do not count. -/
def Flags.skip (f : Flags) (cs : List Char) : List Char :=
  if f.spaced then dropSpace false cs else cs

/-! ### Sets under the flags -/

/-- The set with all cases, if case does not count. -/
def Flags.withCases (f : Flags) (set : Ranges) : Ranges :=
  if !f.ignoreCase then set else if f.unicode then set.withCases else set.withAsciiCases

/-- The set with its cases, or all others if those are meant. Without Unicode
only sets of ASCII characters can be matched. -/
def Flags.finish (f : Flags) (negated : Bool) (set : Ranges) : Option Ranges :=
  let set := if negated then (f.withCases set).negate else (f.withCases set).normal
  if f.unicode || set.isAscii then some set else none

/-- The set of one character. -/
def Flags.char (f : Flags) (c : Char) : Ranges :=
  if !f.ignoreCase then [(c.toNat, c.toNat)]
  else if f.unicode then Ranges.normal ((cases c.toNat).map fun n => (n, n))
  else Ranges.normal (Ranges.withAsciiCases [(c.toNat, c.toNat)])

/-! ### What an escape stands for -/

inductive Escaped where
  /-- A character; was it given as a byte, by two digits? -/
  | char (c : Char) (byte : Bool)
  | assertion (a : Assertion)
  | set (set : Ranges)

/-- Characters with a meaning of their own in patterns. -/
def isMeta (c : Char) : Bool :=
  "\\.+*?()|[]\x7b\x7d^$#&-~".toList.contains c

/-- May the character be escaped to stand for itself? -/
def isEscapable (c : Char) : Bool :=
  isMeta c || (c.toNat < 0x80 && !c.isAlphanum && c != '<' && c != '>')

def hexDigit? (c : Char) : Option Nat :=
  if '0' ≤ c && c ≤ '9' then some (c.toNat - 48)
  else if 'a' ≤ c && c ≤ 'f' then some (c.toNat - 87)
  else if 'A' ≤ c && c ≤ 'F' then some (c.toNat - 55)
  else none

/-- The character of a number, if it is one. -/
def scalar? (n : Nat) : Option Char :=
  if n < 0xD800 || (0xE000 ≤ n && n < 0x110000) then some (Char.ofNat n) else none

/-- So many digits. -/
def hexDigits? (f : Flags) (n : Nat) : (count : Nat) → List Char → Option (Nat × List Char)
  | 0, cs => some (n, cs)
  | _ + 1, [] => none
  | count + 1, c :: cs => (hexDigit? c).bind fun d => hexDigits? f (16 * n + d) count (f.skip cs)

/-- Digits up to a brace, behind which the rest begins. -/
def hexBraced? (f : Flags) (n : Option Nat) :
    (count : Nat) → List Char → Option (Nat × List Char)
  | 0, _ => none
  | _ + 1, [] => none
  | count + 1, c :: cs =>
    if c == '}' then n.map (·, f.skip cs)
    else (hexDigit? c).bind fun d => hexBraced? f (some (16 * n.getD 0 + d)) count (f.skip cs)

/-- A character by its number, behind the letter that says how many digits it has. -/
def hex? (f : Flags) (digits : Nat) (cs : List Char) : Option (Escaped × List Char) :=
  match f.skip cs with
  | '{' :: cs => do
    let (n, rest) ← hexBraced? f none (cs.length + 1) (f.skip cs)
    let c ← scalar? n
    return (.char c false, rest)
  | cs => do
    let (n, rest) ← hexDigits? f 0 digits cs
    let c ← scalar? n
    return (.char c (digits == 2), rest)

/-- The name up to a brace. -/
def braced? (f : Flags) (name : List Char) : (count : Nat) → List Char →
    Option (String × List Char)
  | 0, _ => none
  | _ + 1, [] => none
  | count + 1, c :: cs =>
    if c == '}' then some (String.ofList name.reverse, cs)
    else braced? f (c :: name) count (f.skip cs)

/-- The set a property names, in braces or by one letter, and whether all others are meant. -/
def propertyName? (f : Flags) : List Char → Option ((Ranges × Bool) × List Char)
  | [] => none
  | '\\' :: _ => none
  | '{' :: cs => do
    let (name, rest) ← braced? f [] (cs.length + 1) (f.skip cs)
    let found ← propertyOf? name
    return (found, rest)
  | c :: cs => (namedSet? (String.singleton c)).map fun set => ((set, false), f.skip cs)

/-- A set of characters that have a property, or have it not. -/
def property? (f : Flags) (negated : Bool) (cs : List Char) : Option (Escaped × List Char) :=
  if !f.unicode then none
  else do
    let ((set, others), rest) ← propertyName? f (f.skip cs)
    let set ← f.finish (negated != others) set
    return (.set set, rest)

/-! ### Word boundaries -/

def isBoundaryChar (c : Char) : Bool :=
  c.isAlpha || c == '-'

/-- The name of a kind of word boundary up to a brace. -/
def boundaryName? (f : Flags) (name : List Char) : (count : Nat) → List Char →
    Option (String × List Char)
  | 0, _ => none
  | _ + 1, [] => none
  | count + 1, c :: cs =>
    if c == '}' then some (String.ofList name.reverse, cs)
    else if isBoundaryChar c then boundaryName? f (c :: name) count (f.skip cs)
    else none

/-- A word boundary. A brace behind it begins the name of a kind of boundary,
unless what follows cannot be one. -/
def boundary? (f : Flags) (cs : List Char) : Option (Escaped × List Char) :=
  let ascii := !f.unicode
  match cs with
  | '{' :: rest =>
    match f.skip rest with
    | [] => none
    | c :: more =>
      if isBoundaryChar c then do
        let (name, rest) ← boundaryName? f [] (more.length + 2) (c :: more)
        let a ← match name with
          | "start" => some (Assertion.wordStart ascii)
          | "end" => some (.wordEnd ascii)
          | "start-half" => some (.notBehindWord ascii)
          | "end-half" => some (.notBeforeWord ascii)
          | _ => none
        return (.assertion a, rest)
      else some (.assertion (.wordBoundary ascii), cs)
  | cs => some (.assertion (.wordBoundary ascii), cs)

/-! ### All escapes -/

/-- The characters that letters stand for. -/
def letterEscapes : List (Char × Char) :=
  [('a', '\x07'), ('f', '\x0c'), ('t', '\t'), ('n', '\n'), ('r', '\r'), ('v', '\x0b')]

/-- The escape behind a backslash. -/
def escape? (f : Flags) : List Char → Option (Escaped × List Char)
  | [] => none
  | c :: cs =>
    if c == 'x' then hex? f 2 cs
    else if c == 'u' then hex? f 4 cs
    else if c == 'U' then hex? f 8 cs
    else if c == 'p' || c == 'P' then property? f (c == 'P') cs
    else if c == 'b' then boundary? f cs
    else
      match letterClass? f.unicode c.toLower with
      | some set =>
        if c.isUpper then (if f.unicode then some (.set set.negate, cs) else none)
        else some (.set set, cs)
      | none =>
        if isEscapable c then some (.char c false, cs)
        else
          match letterEscapes.lookup c with
          | some e => some (.char e false, cs)
          | none =>
            match c with
            | 'A' => some (.assertion .textStart, cs)
            | 'z' => some (.assertion .textEnd, cs)
            | 'B' => some (.assertion (.noWordBoundary !f.unicode), cs)
            | '<' => some (.assertion (.wordStart !f.unicode), cs)
            | '>' => some (.assertion (.wordEnd !f.unicode), cs)
            | _ => none

end DeviceLab.Pattern
