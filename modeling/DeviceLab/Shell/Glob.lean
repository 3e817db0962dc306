import DeviceLab.Host

/-! Patterns of a shell, which match whole texts.

A character that was quoted matches itself only. -/
namespace DeviceLab.Shell.Glob

inductive Item where
  | char (c : Char)
  | one
  | any
  | set (negated : Bool) (ranges : List (Char × Char))

/-- A character, and whether it was quoted. -/
abbrev Marked := Char × Bool

/-! ### Reading patterns -/

/-- The characters of a named class. -/
def namedClass : String → List (Char × Char)
  | "digit" => [('0', '9')]
  | "lower" => [('a', 'z')]
  | "upper" => [('A', 'Z')]
  | "alpha" => [('a', 'z'), ('A', 'Z')]
  | "alnum" => [('a', 'z'), ('A', 'Z'), ('0', '9')]
  | "space" => [(' ', ' '), ('\t', '\r')]
  | "blank" => [(' ', ' '), ('\t', '\t')]
  | "punct" => [('!', '/'), (':', '@'), ('[', '\x60'), ('\x7b', '~')]
  | "xdigit" => [('0', '9'), ('a', 'f'), ('A', 'F')]
  | _ => []

/-- The ranges of a set up to its closing bracket, and what is behind it. -/
def ranges (first : Bool) (cs : List Marked) :
    (fuel : Nat) → Option (List (Char × Char) × List Marked)
  | 0 => none
  | fuel + 1 =>
    match cs with
    | [] => none
    | ('[', false) :: (':', false) :: rest =>
      let name := rest.takeWhile (·.1 != ':')
      (ranges false (rest.drop (name.length + 2)) fuel).map fun (more, rest) =>
        (namedClass (String.ofList (name.map (·.1))) ++ more, rest)
    | (c, q) :: rest =>
      if c == ']' && !q && !first then some ([], rest)
      else
        match rest with
        | ('-', false) :: (d, dq) :: rest' =>
          if d == ']' && !dq then
            (ranges false rest fuel).map fun (more, rest) => ((c, c) :: more, rest)
          else (ranges false rest' fuel).map fun (more, rest) => ((c, d) :: more, rest)
        | rest => (ranges false rest fuel).map fun (more, rest) => ((c, c) :: more, rest)

/-- The items of a pattern. A bracket that is not closed is a character. -/
def items (cs : List Marked) : (fuel : Nat) → List Item
  | 0 => []
  | fuel + 1 =>
    match cs with
    | [] => []
    | ('*', false) :: rest => .any :: items rest fuel
    | ('?', false) :: rest => .one :: items rest fuel
    | ('[', false) :: rest =>
      let (negated, inside) : Bool × List Marked := match rest with
        | ('!', false) :: inside | ('^', false) :: inside => (true, inside)
        | inside => (false, inside)
      match ranges true inside (inside.length + 1) with
      | some (rs, rest) => .set negated rs :: items rest fuel
      | none => .char '[' :: items rest fuel
    | (c, _) :: rest => .char c :: items rest fuel

def of (cs : List Marked) : List Item :=
  items cs (cs.length + 1)

/-- Is there anything in the pattern that matches more than itself? -/
def hasMagic (cs : List Marked) : Bool :=
  (of cs).any fun
    | .char _ => false
    | _ => true

/-! ### Matching -/

/-- The text and all that is left of it when characters are taken from its front. -/
def suffixes : List Char → List (List Char)
  | [] => [[]]
  | c :: cs => (c :: cs) :: suffixes cs

def fits : List Item → List Char → Bool
  | [], cs => cs.isEmpty
  | .any :: rest, cs => (suffixes cs).any (fits rest)
  | _ :: _, [] => false
  | .char d :: rest, c :: cs => c == d && fits rest cs
  | .one :: rest, _ :: cs => fits rest cs
  | .set negated rs :: rest, c :: cs =>
    (rs.any (fun (a, b) => a ≤ c && c ≤ b) != negated) && fits rest cs

/-! ### Cutting -/

/-- The text without what the pattern matches at its front, the shortest first. -/
def cutFront (longest : Bool) (p : List Item) (cs : List Char) : List Char :=
  let fitting := (List.range (cs.length + 1)).filter fun n => fits p (cs.take n)
  match if longest then fitting.getLast? else fitting.head? with
  | some n => cs.drop n
  | none => cs

/-- The text without what the pattern matches at its end. -/
def cutEnd (longest : Bool) (p : List Item) (cs : List Char) : List Char :=
  let fitting := (List.range (cs.length + 1)).filter fun n => fits p (cs.drop n)
  match if longest then fitting.head? else fitting.getLast? with
  | some n => cs.take n
  | none => cs

/-! ### Paths -/

/-- The pieces between slashes. -/
def pieces : List Marked → List (List Marked)
  | [] => [[]]
  | (c, q) :: rest =>
    match pieces rest with
    | [] => [[(c, q)]]
    | p :: ps => if c == '/' then [] :: p :: ps else ((c, q) :: p) :: ps

/-- The paths that go on from one of the given by what a piece matches. -/
def step (h : Host) (paths : List String) (piece : List Marked) : List String :=
  let plain := String.ofList (piece.map (·.1))
  paths.flatMap fun path =>
    let goOn (name : String) : String := if path.isEmpty then name else Path.join path name
    if !hasMagic piece then
      if piece.isEmpty then [if path.isEmpty then "/" else path]
      else if h.exists? (goOn plain) then [goOn plain] else []
    else
      match h.tree.locate h.cwd (if path.isEmpty then "." else path) with
      | .error _ => []
      | .ok place =>
        let hidden := piece.head?.any (·.1 == '.')
        ((h.tree.names place).filter fun name =>
          (hidden || name.toList.head? != some '.') && fits (of piece) name.toList).map goOn

/-- The paths that a word matches, in order, or else the word itself. -/
def paths (h : Host) (word : List Marked) : List String :=
  let plain := String.ofList (word.map (·.1))
  if !hasMagic word then [plain]
  else
    match (pieces word).foldl (step h) [""] with
    | [] => [plain]
    | found => found.mergeSort fun a b => decide (a ≤ b)

end DeviceLab.Shell.Glob
