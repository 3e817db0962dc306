import DeviceLab.Unicode.RangeSet
import DeviceLab.Unicode.Property

/-! Patterns and where they are found.

What a pattern matches is a relation between positions of a text: from where to
where. It is computed for many starts at a time: positions are a list of marks,
one in front of each character and one at the end, and a pattern takes the marks
of its starts to the marks of its ends. -/
namespace DeviceLab

/-- What a place between two characters may be asked to be. -/
inductive Assertion where
  | textStart
  | textEnd
  | lineStart
  | lineEnd
  /-- Lines that end with a carriage return, a newline or both. -/
  | returnLineStart
  | returnLineEnd
  | wordBoundary (ascii : Bool)
  | noWordBoundary (ascii : Bool)
  | wordStart (ascii : Bool)
  | wordEnd (ascii : Bool)
  | notBehindWord (ascii : Bool)
  | notBeforeWord (ascii : Bool)
  deriving DecidableEq

namespace Assertion

/-- Is there a character, and is it one of a word? -/
def word (ascii : Bool) (c : Option Char) : Bool :=
  c.any fun c => if ascii then c.toNat < 0x80 && Unicode.isAsciiWord c else Unicode.isWord c

/-- Does the place between two characters, or at an end, hold what is asked? -/
def holds (before after : Option Char) : Assertion → Bool
  | textStart => before.isNone
  | textEnd => after.isNone
  | lineStart => before.isNone || before == some '\n'
  | lineEnd => after.isNone || after == some '\n'
  | returnLineStart =>
    before.isNone || before == some '\n' || (before == some '\r' && after != some '\n')
  | returnLineEnd =>
    after.isNone || after == some '\r' || (after == some '\n' && before != some '\r')
  | wordBoundary ascii => word ascii before != word ascii after
  | noWordBoundary ascii => word ascii before == word ascii after
  | wordStart ascii => !word ascii before && word ascii after
  | wordEnd ascii => word ascii before && !word ascii after
  | notBehindWord ascii => !word ascii before
  | notBeforeWord ascii => !word ascii after

end Assertion

inductive Pattern where
  | empty
  /-- One character of a set. -/
  | one (set : Unicode.Ranges)
  | assertion (a : Assertion)
  | seq (p q : Pattern)
  | alt (p q : Pattern)
  /-- At least `min` times, and at most `max` if there is a limit. -/
  | times (p : Pattern) (min : Nat) (max : Option Nat)

namespace Pattern

/-- A mark for each position of a text. -/
abbrev Marks := List Bool

def Marks.none (m : Marks) : Bool :=
  m.all (!·)

def Marks.or (a b : Marks) : Marks :=
  List.zipWith (· || ·) a b

/-- The marks moved over the characters that satisfy `p`; `carry` goes to the first position. -/
def advance (p : Char → Bool) (carry : Bool) : List Char → Marks → Marks
  | _, [] => []
  | [], _ :: _ => [carry]
  | c :: cs, m :: ms => carry :: advance p (m && p c) cs ms

/-- The marks at places where the assertion holds. -/
def keep (a : Assertion) (before : Option Char) : List Char → Marks → Marks
  | _, [] => []
  | [], m :: _ => [m && a.holds before none]
  | c :: cs, m :: ms => (m && a.holds before (some c)) :: keep a (some c) cs ms

/-- Applies a step so often, or until no mark is left. -/
def iterate (step : Marks → Marks) (m : Marks) : Nat → Marks
  | 0 => m
  | n + 1 => if m.none then m else iterate step (step m) n

/-- All marks that up to so many steps reach, or as many as add a mark. -/
def reach (step : Marks → Marks) (m : Marks) : Nat → Marks
  | 0 => m
  | n + 1 =>
    let m' := m.or (step m)
    if m' = m then m else reach step m' n

/-- The ends of the matches from the marked positions. -/
def ends (text : List Char) : Pattern → Marks → Marks
  | empty, m => m
  | one set, m => advance (fun c => set.holds c.toNat) false text m
  | assertion a, m => keep a none text m
  | seq p q, m => ends text q (ends text p m)
  | alt p q, m => (ends text p m).or (ends text q m)
  | times p min max, m =>
    let more := match max with
      | some max => max - min
      | none => text.length + 1
    reach (ends text p) (iterate (ends text p) m min) more

/-- Is the pattern found somewhere in the text? -/
def foundIn (p : Pattern) (s : String) : Bool :=
  let text := s.toList
  !(p.ends text (List.replicate (text.length + 1) true)).none

/-! ### Size -/

/-- Does the pattern match nothing but empty stretches of text? -/
def onlyEmpty : Pattern → Bool
  | empty => true
  | one _ => false
  | assertion _ => true
  | seq p q => p.onlyEmpty && q.onlyEmpty
  | alt p q => p.onlyEmpty && q.onlyEmpty
  | times p _ max => p.onlyEmpty || max == some 0

/-- The repetition of a pattern. Repeating what is empty adds nothing to doing it once. -/
def repeated (p : Pattern) (min : Nat) (max : Option Nat) : Pattern :=
  if p.onlyEmpty then times p (Nat.min min 1) (some (Nat.min (max.getD 1) 1)) else times p min max

/-- The room a set takes in a compiled pattern, in bytes. -/
def setSize (set : Unicode.Ranges) : Nat :=
  if set.isAscii then 64 + 8 * set.length else 64 + 60 * set.length

/-- The room a pattern takes when it is compiled, roughly, in bytes. -/
def size : Pattern → Nat
  | empty => 32
  | one set => setSize set
  | assertion _ => 32
  | seq p q => p.size + q.size
  | alt p q => p.size + q.size + 72
  | times p min max =>
    match max with
    | some max => if max == 0 then 32 else p.size * max + 40 * (max - min)
    | none => p.size * Nat.max min 1 + 72

/-- Patterns larger than this are refused. -/
def maxSize : Nat := 10 * 1024 * 1024

end Pattern
end DeviceLab
