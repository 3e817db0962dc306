import DeviceLab.Machine.Call
import DeviceLab.Machine.Format
import DeviceLab.Machine.Opening
import DeviceLab.Text.Cut

/-! Utilities that read: they show files or parts of them, count, or replace bytes. -/
namespace DeviceLab.Machine

/-! ### Reading files -/

/-- What the files hold, one behind another, and what is wrong with the others. A dash,
or no file at all, is the input. -/
def gather (c : Call) (h : Host) (wrong : String → String → String) (names : List String) :
    List (String × Flow) × String :=
  let names := if names.isEmpty then ["-"] else names
  names.foldl (fun (flows, err) name =>
    if name == "-" || name == "/dev/stdin" then (flows ++ [("-", c.input)], err)
    else
      match reading h name with
      | .ok flow => (flows ++ [(name, flow)], err)
      | .error e => (flows, err ++ c.complaint (wrong name e.reason))) ([], "")

/-- What is left of the input once the files are read. -/
def leftOf (c : Call) (names : List String) : Flow :=
  if names.isEmpty || names.contains "-" then ⟨.empty, .ends⟩ else c.input

def unreadable (name reason : String) : String :=
  name ++ ": " ++ reason

def unopened (name reason : String) : String :=
  if reason == OsError.isDirectory.reason then "error reading '" ++ name ++ "': " ++ reason
  else "cannot open '" ++ name ++ "' for reading: " ++ reason

/-- The end of a utility that has read files. -/
def ended (c : Call) (names : List String) (out : Flow) (err : String) : Trace :=
  .writing (if err.isEmpty then 0 else 1) out err (leftOf c names)

def cat : Utility :=
  withOptions "u" "" 1 fun c o h =>
    let (flows, err) := gather c h unreadable o.operands
    (ended c o.operands (flows.foldl (fun all f => all.append f.2) .empty) err, h)

/-- Files with a heading for each if there are several. -/
def headed (flows : List (String × Flow)) (part : Flow → Flow) : Flow :=
  if flows.length ≤ 1 then flows.foldl (fun all f => all.append (part f.2)) .empty
  else
    (flows.foldl (fun (all, first) (f : String × Flow) =>
      let name := if f.1 == "-" then "standard input" else f.1
      let title := (if first then "" else "\n") ++ "==> " ++ name ++ " <==\n"
      ((all.append (.ofText title)).append (part f.2), false)) (Flow.empty, true)).1

/-- A count in an option, with a sign in front that may matter. -/
def signedCount (s : String) : Option (Char × Nat) :=
  match s.toList with
  | '-' :: cs => (Reading.digits? cs).map fun n => ('-', n)
  | '+' :: cs => (Reading.digits? cs).map fun n => ('+', n)
  | cs => (Reading.digits? cs).map fun n => (' ', n)

/-- A count given as an option of its own, `-5`, as a count of lines. -/
def modern (args : List String) : List String :=
  match args with
  | arg :: rest =>
    match arg.toList with
    | '-' :: cs => if (Reading.digits? cs).isSome then "-n" :: String.ofList cs :: rest else args
    | _ => args
  | [] => []

/-- How many lines there are, the last one without its newline included. -/
def lineCount (bytes : ByteArray) : Nat :=
  Flow.count (· == Flow.newline) bytes +
    (if bytes.size == 0 || bytes[bytes.size - 1]? == some Flow.newline then 0 else 1)

/-- The part that `head` and `tail` show, with the unit, the sign and the count asked for. -/
def firstPart (bytes : Bool) (sign : Char) (n : Nat) (f : Flow) : Flow :=
  if sign == '-' then
    if f.endless then f
    else if bytes then f.take (f.bytes.size - n)
    else f.takeLines (lineCount f.bytes - n)
  else if bytes then f.take n
  else f.takeLines n

def lastPart (bytes : Bool) (sign : Char) (n : Nat) (f : Flow) : Flow :=
  if sign == '+' then
    if bytes then f.drop (n - 1) else f.drop (f.takeLines (n - 1)).bytes.size
  else if f.endless then ⟨.empty, .hangs⟩
  else if bytes then f.drop (f.bytes.size - n)
  else f.drop (f.takeLines (lineCount f.bytes - n)).bytes.size

/-- A utility that shows a part of files. -/
def showing (part : (bytes : Bool) → Char → Nat → Flow → Flow) : Utility :=
  fun c h =>
    withOptions "qv" "nc" 1 (fun c o h =>
      let (bytes, asked) : Bool × String := match o.value? 'c', o.value? 'n' with
        | some s, _ => (true, s)
        | none, some s => (false, s)
        | none, none => (false, "10")
      match signedCount asked with
      | none =>
        (c.plain 1 "" (c.complaint ("invalid number of " ++ (if bytes then "bytes" else "lines") ++
          ": '" ++ asked ++ "'")), h)
      | some (sign, n) =>
        let (flows, err) := gather c h unopened o.operands
        (ended c o.operands (headed flows (part bytes sign n)) err, h))
      { c with args := modern c.args } h

def head : Utility := showing firstPart
def tail : Utility := showing lastPart

/-! ### Counting -/

def isSpaceByte (b : UInt8) : Bool :=
  b == 32 || (9 ≤ b && b ≤ 13)

/-- How many words there are. -/
def wordCount (bytes : ByteArray) : Nat :=
  (bytes.foldl (fun (n, inside) b =>
    if isSpaceByte b then (n, false) else (if inside then n else n + 1, true)) (0, false)).1

/-- Is it a byte that begins a character? -/
def startsCharacter (b : UInt8) : Bool :=
  b < 0x80 || b ≥ 0xC0

def counts (o : Options) (bytes : ByteArray) : List Nat :=
  let all := !(o.has 'l' || o.has 'w' || o.has 'c' || o.has 'm')
  (if all || o.has 'l' then [Flow.count (· == Flow.newline) bytes] else []) ++
  (if all || o.has 'w' then [wordCount bytes] else []) ++
  (if o.has 'm' then [Flow.count startsCharacter bytes] else []) ++
  (if all || o.has 'c' then [bytes.size] else [])

def isDevice (h : Host) (path : String) : Bool :=
  (h.tree.locate h.cwd path).toOption.any (·.take 1 == ["dev"])

def rightAligned (width n : Nat) : String :=
  let digits := toString n
  String.ofList (List.replicate (width - digits.length) ' ') ++ digits

def wc : Utility :=
  withOptions "lwcm" "" 1 fun c o h =>
    let (flows, err) := gather c h unreadable o.operands
    if flows.any (·.2.endless) then (⟨.overdue, .empty, .ofText err, leftOf c o.operands⟩, h)
    else
      let rows := flows.map fun f => (f.1, counts o f.2.bytes)
      let total := flows.foldl (fun n f => n + f.2.bytes.size) 0
      let columns := (counts o .empty).length
      let width :=
        if columns ≤ 1 && o.operands.length ≤ 1 then 1
        else if flows.any fun f => f.1 == "-" || isDevice h f.1 then 7
        else (toString total).length
      let row (name : String) (ns : List Nat) :=
        Text.join " " (ns.map (rightAligned width)) ++ (if name.isEmpty then "" else " " ++ name) ++
          "\n"
      let sums := rows.foldl (fun sums r => List.zipWith (· + ·) sums r.2)
        (List.replicate columns 0)
      let shown := rows.map fun r => row (if o.operands.isEmpty then "" else r.1) r.2
      let shown := if o.operands.length > 1 then shown ++ [row "total" sums] else shown
      (ended c o.operands (.ofText (Text.join "" shown)) err, h)

/-! ### Translating -/

def classMembers (name : String) : List UInt8 :=
  let range (a b : Char) : List UInt8 :=
    (List.range (b.toNat - a.toNat + 1)).map fun i => UInt8.ofNat (a.toNat + i)
  match name with
  | "upper" => range 'A' 'Z'
  | "lower" => range 'a' 'z'
  | "digit" => range '0' '9'
  | "alpha" => range 'A' 'Z' ++ range 'a' 'z'
  | "alnum" => range '0' '9' ++ range 'A' 'Z' ++ range 'a' 'z'
  | "space" => [9, 10, 11, 12, 13, 32]
  | "blank" => [9, 32]
  | "punct" => range '!' '/' ++ range ':' '@' ++ range '[' '\x60' ++ range '\x7b' '~'
  | _ => []

/-- The bytes of a set, in order: characters, escapes, ranges and classes. -/
def setOf (cs : List Char) : (fuel : Nat) → List UInt8
  | 0 => []
  | fuel + 1 =>
    match cs with
    | [] => []
    | '[' :: ':' :: rest =>
      let name := rest.takeWhile (· != ':')
      classMembers (String.ofList name) ++ setOf (rest.drop (name.length + 2)) fuel
    | '\\' :: rest =>
      let (bytes, rest) := Format.escape (.format false) rest
      let bytes := match bytes.getD [] with
        | [92, b] => [b]
        | bytes => bytes
      bytes ++ setOf rest fuel
    | a :: '-' :: b :: rest =>
      if b == ']' && rest.isEmpty then Format.bytesOf [a] ++ setOf ('-' :: b :: rest) fuel
      else
        (List.range (b.toNat + 1 - a.toNat)).map (fun i => UInt8.ofNat (a.toNat + i)) ++
          setOf rest fuel
    | a :: rest => Format.bytesOf [a] ++ setOf rest fuel

def setOfText (s : String) : List UInt8 :=
  setOf s.toList (s.length + 1)

/-- Bytes of the set in a row, each one like the last, become one. -/
def squeeze (set : List UInt8) : List UInt8 → List UInt8
  | [] => []
  | [b] => [b]
  | a :: b :: rest =>
    if a == b && set.contains a then squeeze set (b :: rest) else a :: squeeze set (b :: rest)

def tr : Utility :=
  withOptions "cCds" "" 1 fun c o h =>
    match o.operands with
    | [] => (c.misused "missing operand" 1, h)
    | first :: more =>
      let listed := setOfText first
      let chosen (b : UInt8) := listed.contains b != (o.has 'c' || o.has 'C')
      let into := setOfText (more.headD "")
      let replace (b : UInt8) : List UInt8 :=
        if o.has 'd' then if chosen b then [] else [b]
        else if into.isEmpty || !chosen b then [b]
        else if o.has 'c' || o.has 'C' then [into.getLastD 0]
        else [(into[listed.idxOf b]?).getD (into.getLastD 0)]
      let out := c.input.map replace
      let out :=
        if o.has 's' then
          { out with bytes := ⟨(squeeze (if more.isEmpty then listed else into)
              out.bytes.toList).toArray⟩ }
        else out
      if more.isEmpty && !o.has 'd' && !o.has 's' then
        (c.misused ("missing operand after '" ++ first ++
          "'\nTwo strings must be given when translating.") 1, h)
      else if more.length > 1 then
        (c.misused ("extra operand '" ++ more[1]?.getD "" ++ "'") 1, h)
      else (.writing 0 out "" .empty, h)

end DeviceLab.Machine
