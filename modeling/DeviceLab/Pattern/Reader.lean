import DeviceLab.Pattern.Set

/-! Reads patterns.

The reader goes through the text once and keeps what is open: the parts of the
branch it is in, the branches before it, and the groups around them. -/
namespace DeviceLab.Pattern
open Unicode

/-! ### Parts -/

/-- A part of a pattern and how deep it is nested. -/
structure Part where
  pattern : Pattern
  height : Nat
  /-- Flags stand where a part could, but cannot be repeated. -/
  repeatable : Bool

/-- Nesting deeper than this is refused. -/
def maxHeight : Nat := 250

/-- Parts put together, each of which is followed by the next or may stand in for it. -/
def Part.together (op : Pattern → Pattern → Pattern) : List Part → Part
  | [] => ⟨.empty, 0, true⟩
  | [p] => p
  | p :: ps =>
    ⟨ps.foldl (fun a b => op a b.pattern) p.pattern,
      (ps.map (·.height)).foldl max p.height + 1, true⟩

/-- The parts of a branch, the last one first. -/
def Part.branch (parts : List Part) : Part :=
  Part.together .seq parts.reverse

/-- The branches of a group, the last one first. -/
def Part.choice (branches : List Part) : Part :=
  Part.together .alt branches.reverse

/-! ### Flags -/

/-- Sets the flag of a letter. -/
def Flags.set? (f : Flags) (on : Bool) : Char → Option Flags
  | 'i' => some { f with ignoreCase := on }
  | 'm' => some { f with multiLine := on }
  | 's' => some { f with dotAll := on }
  | 'u' => some { f with unicode := on }
  | 'R' => some { f with returns := on }
  | 'x' => some { f with spaced := on }
  | 'U' => some f
  | _ => none

/-- Reads letters of flags up to the colon or parenthesis behind them, each at most
once; those behind the one dash that may stand among them are taken away. -/
def flags? (f : Flags) (seen : List Char) : List Char → Option (Flags × List Char × List Char)
  | [] => none
  | c :: cs =>
    if c == ':' || c == ')' then
      if seen.head? == some '-' then none else some (f, seen, c :: cs)
    else if seen.contains c then none
    else if c == '-' then flags? f (c :: seen) cs
    else (f.set? (!seen.contains '-') c).bind fun f => flags? f (c :: seen) cs

/-! ### Names of groups -/

/-- The characters that write numbers. -/
def numeric : Ranges :=
  Category.decimalNumber.ranges ++ Category.letterNumber.ranges ++ Category.otherNumber.ranges

/-- May the character stand in the name of a group? -/
def isNameChar (first : Bool) (c : Char) : Bool :=
  c == '_' || alphabetic.holds c.toNat ||
    (!first && (c == '.' || c == '[' || c == ']' || numeric.holds c.toNat))

/-- The name of a group up to the angle behind it. -/
def groupName? (name : List Char) : List Char → Option (String × List Char)
  | [] => none
  | c :: cs =>
    if c == '>' then if name.isEmpty then none else some (String.ofList name.reverse, cs)
    else if isNameChar name.isEmpty c then groupName? (c :: name) cs
    else none

/-! ### Counts of repetitions -/

/-- The digits of a count. -/
def countDigits (f : Flags) : (count : Nat) → List Char → List Char × List Char
  | 0, cs => ([], cs)
  | _, [] => ([], [])
  | count + 1, c :: cs =>
    if c.isDigit then
      let (ds, cs) := countDigits f count (f.skip cs)
      (c :: ds, cs)
    else ([], c :: cs)

/-- A count with blanks around it, which must be below 2^32. -/
def count? (f : Flags) (cs : List Char) : Option (Nat × List Char) :=
  let cs := cs.dropWhile Text.isBlank
  let (ds, cs) := countDigits f cs.length cs
  let n := ds.foldl (fun n d => 10 * n + (d.toNat - 48)) 0
  if ds.isEmpty || UInt32.size ≤ n then none
  else some (n, cs.dropWhile Text.isBlank)

/-- How often a part is repeated, behind an opening brace: at least and at most. -/
def counts? (f : Flags) (cs : List Char) : Option ((Nat × Option Nat) × List Char) := do
  let (min, cs) ← count? f (f.skip cs)
  let ((max, cs) : Option Nat × List Char) ← match cs with
    | ',' :: cs =>
      match f.skip cs with
      | '}' :: cs => some (none, '}' :: cs)
      | cs => (count? f cs).map fun (max, cs) => (some max, cs)
    | cs => some (some min, cs)
  match cs with
  | '}' :: cs => if max.all (min ≤ ·) then some ((min, max), f.skip cs) else none
  | _ => none

/-! ### What is open -/

/-- A group that has been opened: what is read outside it so far, and the flags to go back to. -/
structure OpenGroup where
  flags : Flags
  branches : List Part
  parts : List Part

/-- What has been read so far. -/
structure Reading where
  flags : Flags
  names : List String
  branches : List Part
  parts : List Part
  outer : List OpenGroup

namespace Reading

def start (f : Flags) : Reading :=
  ⟨f, [], [], [], []⟩

def add (r : Reading) (p : Pattern) (height : Nat) : Reading :=
  { r with parts := ⟨p, height, true⟩ :: r.parts }

/-- Ends a branch and begins another. -/
def nextBranch (r : Reading) : Reading :=
  { r with branches := Part.branch r.parts :: r.branches, parts := [] }

/-- What the group that is open is made of. -/
def content (r : Reading) : Part :=
  Part.choice (Part.branch r.parts :: r.branches)

/-- Opens a group inside which the flags hold. -/
def openGroup (r : Reading) (inside : Flags) : Reading :=
  ⟨inside, r.names, [], [], ⟨r.flags, r.branches, r.parts⟩ :: r.outer⟩

/-- Closes the group that was opened last. -/
def closeGroup? (r : Reading) : Option Reading :=
  match r.outer with
  | [] => none
  | g :: outer =>
    let content := r.content
    let part : Part := ⟨content.pattern, content.height + 1, true⟩
    some ⟨g.flags, r.names, g.branches, part :: g.parts, outer⟩

/-- Repeats the last part. -/
def repeat? (r : Reading) (min : Nat) (max : Option Nat) : Option Reading :=
  match r.parts with
  | p :: parts =>
    if p.repeatable then
      some { r with parts := ⟨p.pattern.repeated min max, p.height + 1, true⟩ :: parts }
    else none
  | [] => none

end Reading

/-! ### Parts of a branch -/

/-- Passes over the mark of a repetition that prefers to be short. -/
def dropLazy : List Char → List Char
  | '?' :: cs => cs
  | cs => cs

/-- What begins with an opening parenthesis: a group, or flags for the rest of the one around it. -/
def group? (r : Reading) (cs : List Char) : Option (Reading × List Char) :=
  let named (cs : List Char) : Option (Reading × List Char) := do
    let (name, rest) ← groupName? [] cs
    if r.names.contains name then none
    else some ({ r with names := name :: r.names }.openGroup r.flags, rest)
  match r.flags.skip cs with
  | '?' :: '=' :: _ | '?' :: '!' :: _ | '?' :: '<' :: '=' :: _ | '?' :: '<' :: '!' :: _ => none
  | '?' :: 'P' :: '<' :: cs => named cs
  | '?' :: '<' :: cs => named cs
  | '?' :: cs =>
    match flags? r.flags [] cs with
    | some (f, _, ':' :: rest) => some (r.openGroup f, rest)
    | some (f, _ :: _, ')' :: rest) =>
      some ({ r with flags := f, parts := ⟨.empty, 0, false⟩ :: r.parts }, rest)
    | _ => none
  | cs => some (r.openGroup r.flags, cs)

/-- Any character, but for those that end a line. -/
def dot? (f : Flags) : Option Pattern :=
  if !f.unicode then none
  else if f.dotAll then some (.one [(0, Ranges.last)])
  else if f.returns then some (.one (Ranges.negate [(10, 10), (13, 13)]))
  else some (.one (Ranges.negate [(10, 10)]))

def lineStart (f : Flags) : Pattern :=
  .assertion
    (if !f.multiLine then .textStart else if f.returns then .returnLineStart else .lineStart)

def lineEnd (f : Flags) : Pattern :=
  .assertion (if !f.multiLine then .textEnd else if f.returns then .returnLineEnd else .lineEnd)

/-- The pattern of an escape. Without Unicode a byte must be one of ASCII. -/
def Escaped.pattern? (f : Flags) : Escaped → Option Pattern
  | .char c byte => if byte && !f.unicode && 0x80 ≤ c.toNat then none else some (.one (f.char c))
  | .assertion a => some (.assertion a)
  | .set members => some (.one members)

/-! ### The whole pattern -/

/-- Reads on to the end of the text. -/
def readOn? : (count : Nat) → Reading → List Char → Option Reading
  | 0, _, _ => none
  | count + 1, r, cs =>
    match r.flags.skip cs with
    | [] => some r
    | '(' :: cs => (group? r cs).bind fun (r, cs) => readOn? count r cs
    | ')' :: cs => r.closeGroup?.bind fun r => readOn? count r cs
    | '|' :: cs => readOn? count r.nextBranch cs
    | '[' :: cs =>
      (set? r.flags cs).bind fun (n, cs) => readOn? count (r.add (.one n.set) n.height) cs
    | '?' :: cs => (r.repeat? 0 (some 1)).bind fun r => readOn? count r (dropLazy cs)
    | '*' :: cs => (r.repeat? 0 none).bind fun r => readOn? count r (dropLazy cs)
    | '+' :: cs => (r.repeat? 1 none).bind fun r => readOn? count r (dropLazy cs)
    | '{' :: cs => do
      let ((min, max), cs) ← counts? r.flags cs
      readOn? count (← r.repeat? min max) (dropLazy cs)
    | '\\' :: cs => do
      let (e, cs) ← escape? r.flags cs
      readOn? count (r.add (← e.pattern? r.flags) 0) cs
    | '.' :: cs => (dot? r.flags).bind fun p => readOn? count (r.add p 0) cs
    | '^' :: cs => readOn? count (r.add (lineStart r.flags) 0) cs
    | '$' :: cs => readOn? count (r.add (lineEnd r.flags) 0) cs
    | c :: cs => readOn? count (r.add (.one (r.flags.char c)) 0) cs

/-- The pattern that a text writes, unless it writes none or one that is too large. -/
def read? (f : Flags) (s : String) : Option Pattern := do
  let r ← readOn? (s.toList.length + 1) (Reading.start f) s.toList
  let whole := r.content
  if r.outer.isEmpty && whole.height ≤ maxHeight && whole.pattern.size ≤ maxSize then
    some whole.pattern
  else none

/-- Reads a pattern in which case does not count, to look for it in texts. -/
def anyCase (s : String) : Except String (String → Bool) :=
  match read? { Flags.usual with ignoreCase := true } s with
  | some p => .ok p.foundIn
  | none => .error "the text is no pattern"

end DeviceLab.Pattern
