import DeviceLab.Pattern.Escape

/-! Sets in brackets.

Brackets nest. Inside a pair of them stand characters, ranges, escapes, named
classes and further brackets; between such lists may stand operations on sets,
which are carried out from the left. Beside its set every part has a height:
how deep it is nested. -/
namespace DeviceLab.Pattern
open Unicode

/-! ### Operations -/

inductive SetOperation where
  | intersection
  | difference
  | symmetricDifference

/-- The operation on two sets, each taken with its cases. -/
def SetOperation.apply (f : Flags) (op : SetOperation) (a b : Ranges) : Ranges :=
  let a := f.withCases a
  let b := f.withCases b
  match op with
  | intersection => a.intersect b
  | difference => a.difference b
  | symmetricDifference => a.symmetricDifference b

/-! ### An open bracket -/

/-- A set and how deep it is nested. -/
structure Nested where
  set : Ranges
  height : Nat

/-- A bracket that has been opened and what stands behind it so far. -/
structure OpenSet where
  negated : Bool
  /-- The result so far and the operation on it that waits for its other side. -/
  left : Option (Nested × SetOperation)
  members : List Nested

namespace OpenSet

def add (s : OpenSet) (n : Nested) : OpenSet :=
  { s with members := s.members ++ [n] }

/-- The members since the last operation, taken together. -/
def union (s : OpenSet) : Nested :=
  match s.members with
  | [] => ⟨[], 0⟩
  | [n] => n
  | ns => ⟨ns.flatMap (·.set), (ns.map (·.height)).foldl max 0 + 1⟩

/-- What stands in the bracket so far, with the operation that waits carried out. -/
def result (f : Flags) (s : OpenSet) : Nested :=
  match s.left with
  | none => s.union
  | some (left, op) =>
    ⟨op.apply f left.set s.union.set, max left.height s.union.height + 1⟩

/-- An operation on what stands in the bracket so far. -/
def operate (f : Flags) (op : SetOperation) (s : OpenSet) : OpenSet :=
  ⟨s.negated, some (s.result f, op), []⟩

/-- The set of the bracket. -/
def close (f : Flags) (s : OpenSet) : Option Nested :=
  let n := s.result f
  (f.finish s.negated n.set).map fun set => ⟨set, n.height + 1⟩

end OpenSet

/-! ### Members -/

/-- So many dashes stand here. -/
def leadingDashes (f : Flags) : (count : Nat) → List Char → Nat × List Char
  | count + 1, '-' :: cs =>
    let (n, cs) := leadingDashes f count (f.skip cs)
    (n + 1, cs)
  | _, cs => (0, cs)

/-- Opens a bracket. Dashes in front stand for themselves, and so does a closing
bracket that comes first. -/
def openSet (f : Flags) (cs : List Char) : OpenSet × List Char :=
  let (negated, cs) := match f.skip cs with
    | '^' :: cs => (true, f.skip cs)
    | cs => (false, cs)
  let (dashes, cs) := leadingDashes f cs.length cs
  let itself (c : Char) : Nested := ⟨[(c.toNat, c.toNat)], 0⟩
  match dashes, cs with
  | 0, ']' :: cs => (⟨negated, none, [itself ']']⟩, f.skip cs)
  | n, cs => (⟨negated, none, List.replicate n (itself '-')⟩, cs)

/-- A class by its name between colons and brackets; the first bracket is behind. -/
def asciiClass? : List Char → Option (Ranges × List Char)
  | ':' :: cs =>
    let (negated, cs) := match cs with
      | '^' :: cs => (true, cs)
      | cs => (false, cs)
    match cs.dropWhile (· != ':') with
    | ':' :: ']' :: rest =>
      (asciiClasses.lookup (String.ofList (cs.takeWhile (· != ':')))).map fun set =>
        (if negated then set.negate else set, rest)
    | _ => none
  | _ => none

/-- The next character that counts, or else the next. Of a comment it is the first that
is no blank. -/
def Flags.peek? (f : Flags) (cs : List Char) : Option Char :=
  if !f.spaced then cs.head?
  else
    let next := match cs.dropWhile Text.isBlank with
      | '#' :: more => (more.dropWhile Text.isBlank).head?
      | more => more.head?
    next.orElse fun _ => cs.head?

/-- A character or an escape. -/
def setAtom? (f : Flags) : List Char → Option (Escaped × List Char)
  | [] => none
  | '\\' :: cs => escape? f cs
  | c :: cs => some (.char c false, cs)

/-- The character that an end of a range is. Without Unicode it is an ASCII character. -/
def rangeEnd? (f : Flags) : Escaped → Option Nat
  | .char c _ => if f.unicode || c.toNat < 0x80 then some c.toNat else none
  | _ => none

/-- The set that a member stands for by itself. -/
def alone? (f : Flags) : Escaped → Option Ranges
  | .set set => some set
  | e => (rangeEnd? f e).map fun n => [(n, n)]

/-- A range, or a character or an escape by itself. A dash in front of a closing
bracket or of another dash begins no range. -/
def setItem? (f : Flags) (cs : List Char) : Option (Ranges × List Char) := do
  let (first, rest) ← setAtom? f cs
  let rest := f.skip rest
  match rest with
  | '-' :: more =>
    if f.peek? more == some ']' || f.peek? more == some '-' then
      return (← alone? f first, rest)
    else
      let (second, rest) ← setAtom? f (f.skip more)
      let lo ← rangeEnd? f first
      let hi ← rangeEnd? f second
      if lo ≤ hi then some ([(lo, hi)], rest) else none
  | rest => return (← alone? f first, rest)

/-! ### The whole set -/

/-- Reads on in an open bracket up to the one that closes the outermost. -/
def readSet? (f : Flags) : (count : Nat) → OpenSet → List OpenSet → List Char →
    Option (Nested × List Char)
  | 0, _, _, _ => none
  | count + 1, s, outer, cs =>
    match f.skip cs with
    | [] => none
    | '[' :: cs =>
      match asciiClass? cs with
      | some (set, rest) => readSet? f count (s.add ⟨set, 0⟩) outer rest
      | none =>
        let (inner, rest) := openSet f cs
        readSet? f count inner (s :: outer) rest
    | ']' :: rest => do
      let n ← s.close f
      match outer with
      | [] => some (n, rest)
      | s :: outer => readSet? f count (s.add n) outer rest
    | '&' :: '&' :: rest => readSet? f count (s.operate f .intersection) outer rest
    | '-' :: '-' :: rest => readSet? f count (s.operate f .difference) outer rest
    | '~' :: '~' :: rest => readSet? f count (s.operate f .symmetricDifference) outer rest
    | cs => do
      let (set, rest) ← setItem? f cs
      readSet? f count (s.add ⟨set, 0⟩) outer rest

/-- The set whose opening bracket is behind. -/
def set? (f : Flags) (cs : List Char) : Option (Nested × List Char) :=
  let (s, rest) := openSet f cs
  readSet? f (cs.length + 1) s [] rest

end DeviceLab.Pattern
