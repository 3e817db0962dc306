import DeviceLab.Machine.Utility.Reading
import DeviceLab.Pattern.Reader

/-! Utilities that work on lines: they choose, order and cut them. -/
namespace DeviceLab.Machine

/-- A utility that makes lines out of all the lines it reads. -/
def onLines (c : Call) (o : Options) (names : List String) (change : List String → List String)
    (h : Host) : Trace × Host :=
  let (flows, err) := gather c h unreadable names
  if flows.any (·.2.endless) then (⟨.overdue, .empty, .ofText err, leftOf c names⟩, h)
  else
    let lines := flows.flatMap fun f => Text.lines (Utf8.decode f.2.bytes)
    let out := Text.join "" ((change lines).map (· ++ "\n"))
    let code := if err.isEmpty then 0 else if o.has 'q' then 1 else 2
    (.writing code (.ofText out) err (leftOf c names), h)

/-! ### Choosing -/

/-- In the basic kind of pattern some signs have their meaning behind a backslash only. -/
def extended : List Char → List Char
  | '\\' :: c :: cs =>
    if "+?()|\x7b\x7d".toList.contains c then c :: extended cs else '\\' :: c :: extended cs
  | c :: cs =>
    if "+?()|\x7b\x7d".toList.contains c then '\\' :: c :: extended cs else c :: extended cs
  | [] => []

/-- A pattern that matches a text and nothing else. -/
def literal (s : String) : List Char :=
  s.toList.flatMap fun c => if Pattern.isMeta c then ['\\', c] else [c]

/-- Does a line match, as the options say? -/
def matcher? (o : Options) (pattern : String) : Option (String → Bool) :=
  let cs := if o.has 'F' then literal pattern
    else if o.has 'E' then pattern.toList else extended pattern.toList
  let cs := if o.has 'w' then "\\b(?:".toList ++ cs ++ ")\\b".toList else cs
  let cs := if o.has 'x' then "^(?:".toList ++ cs ++ ")$".toList else cs
  let flags := { Pattern.Flags.usual with ignoreCase := o.has 'i' }
  (Pattern.read? flags (String.ofList cs)).map fun p line => p.foundIn line != o.has 'v'

/-- The lines of a file that are chosen, as they are shown. -/
def chosen (o : Options) (name : String) (fits : String → Bool) (lines : List String) :
    List String :=
  let lead := if name.isEmpty then "" else name ++ ":"
  let found := (lines.zip (List.range lines.length)).filter fun l => fits l.1
  if o.has 'c' then [lead ++ toString found.length]
  else if o.has 'l' then if found.isEmpty then [] else [name]
  else found.map fun l => lead ++ (if o.has 'n' then toString (l.2 + 1) ++ ":" else "") ++ l.1

def grep : Utility :=
  withOptions "EFGivqcnlwxhs" "e" 2 fun c o h =>
    let (pattern, names) : Option String × List String := match o.value? 'e', o.operands with
      | some p, names => (some p, names)
      | none, p :: names => (some p, names)
      | none, [] => (none, [])
    match pattern, pattern.bind (matcher? o) with
    | some _, some fits =>
      let (flows, err) := gather c h unreadable names
      let err := if o.has 's' then "" else err
      let files := flows.map fun f =>
        let name := if o.has 'l' || (names.length > 1 && !o.has 'h') then f.1 else ""
        let lines := Text.lines (Utf8.decode f.2.bytes)
        (chosen o name fits lines, lines.any fits)
      let any := files.any (·.2)
      let out := if o.has 'q' then "" else Text.join "" ((files.flatMap (·.1)).map (· ++ "\n"))
      let code := if any && (err.isEmpty || o.has 'q') then 0 else if err.isEmpty then 1 else 2
      (.writing code (.ofText out) err (leftOf c names), h)
    | some _, none => (c.plain 2 "" (c.complaint "Invalid regular expression"), h)
    | none, _ =>
      (c.plain 2 "" ("Usage: " ++ c.name ++ " [OPTION]... PATTERNS [FILE]...\nTry '" ++ c.name ++
        " --help' for more information.\n"), h)

/-! ### Ordering -/

/-- The number that a line begins with. -/
def leadingNumber (line : String) : Int :=
  let cs := Text.dropBlank line.toList
  let (negative, cs) : Bool × List Char := match cs with
    | '-' :: cs => (true, cs)
    | cs => (false, cs)
  let n := (Reading.digits? (cs.takeWhile Char.isDigit)).getD 0
  if negative then -(n : Int) else n

/-- Lines of which each is unlike the one in front of it, with how often each stood there. -/
def runs : List String → List (String × Nat)
  | [] => []
  | line :: rest =>
    match runs rest with
    | (next, n) :: more =>
      if next == line then (line, n + 1) :: more else (line, 1) :: (next, n) :: more
    | [] => [(line, 1)]

def sort : Utility :=
  withOptions "nrufb" "kto" 2 fun c o h =>
    let before (a b : String) : Bool :=
      let (x, y) := (leadingNumber a, leadingNumber b)
      if o.has 'n' && x != y then (if o.has 'r' then x > y else x < y)
      else if o.has 'r' then decide (b ≤ a) else decide (a ≤ b)
    let ordered (lines : List String) := lines.mergeSort before
    onLines c o o.operands (fun lines =>
      if o.has 'u' then (runs (ordered lines)).map (·.1) else ordered lines) h

def uniq : Utility :=
  withOptions "cdu" "fsw" 1 fun c o h =>
    onLines c o o.operands (fun lines =>
      let kept := (runs lines).filter fun r =>
        (!o.has 'd' || r.2 > 1) && (!o.has 'u' || r.2 == 1)
      kept.map fun r => (if o.has 'c' then rightAligned 7 r.2 ++ " " else "") ++ r.1) h

/-! ### Cutting -/

/-- Does a list such as `1,3-5` name the number? -/
def listed (list : String) (n : Nat) : Bool :=
  (Text.pieces ',' list).any fun piece =>
    match Text.splitOnce '-' piece with
    | some (first, last) => first.toNat?.getD 1 ≤ n && (last.isEmpty || n ≤ last.toNat?.getD 0)
    | none => piece.toNat? == some n

/-- The listed ones, counted from one. -/
def picked {α : Type} (list : String) (items : List α) : List α :=
  ((items.zip (List.range items.length)).filter fun p => listed list (p.2 + 1)).map (·.1)

def cut : Utility :=
  withOptions "s" "dfcb" 1 fun c o h =>
    let divider := ((o.value? 'd').getD "\t").toList.headD '\t'
    match o.value? 'f', (o.value? 'c').or (o.value? 'b') with
    | some list, _ =>
      onLines c o o.operands (fun lines => lines.filterMap fun line =>
        if line.toList.contains divider then
          some (Text.join divider.toString (picked list (Text.pieces divider line)))
        else if o.has 's' then none else some line) h
    | none, some list =>
      onLines c o o.operands (·.map fun line => String.ofList (picked list line.toList)) h
    | none, none =>
      (c.misused "you must specify a list of bytes, characters, or fields" 1, h)

end DeviceLab.Machine
