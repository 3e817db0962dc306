import DeviceLab.Toml.Number

/-! TOML values, keys and lines.

A line gives a value to a key or opens a section. The recursion into arrays and
inline tables uses up a count that starts at the number of tokens, and every
step of it takes a token at least, so the count never runs out. -/
namespace DeviceLab.Toml

/-! ### Keys with points -/

/-- A field while keys with points may still add to it. -/
inductive Item where
  | datum (d : Datum)
  | dotted (fields : List (String × Item))

/-- Adds the value under the key. A key with points adds to tables that such keys
have made, and to no other value. -/
def addDotted (d : Datum) : List String → List (String × Item) → Option (List (String × Item))
  | [], _ => none
  | [key], fields => some (fields ++ [(key, .datum d)])
  | key :: rest, fields =>
    match fields.find? (·.1 == key) with
    | some (_, .datum _) => none
    | some (_, .dotted inner) =>
      (addDotted d rest inner).map fun inner =>
        let front := fields.takeWhile (·.1 != key)
        front ++ (key, .dotted inner) :: fields.drop (front.length + 1)
    | none => (addDotted d rest []).map fun inner => fields ++ [(key, .dotted inner)]

mutual

def Item.done : Item → Datum
  | .datum d => d
  | .dotted fields => .table (doneFields fields)

def doneFields : List (String × Item) → List (String × Datum)
  | [] => []
  | (key, item) :: rest => (key, item.done) :: doneFields rest

end

/-! ### Small pieces -/

def skipBlank : List Token → List Token
  | .blank _ :: ts => ts
  | ts => ts

/-- Blanks, newlines and comments. -/
def skipLines : List Token → List Token
  | .blank _ :: ts => skipLines ts
  | .newline :: ts => skipLines ts
  | .comment :: ts => skipLines ts
  | ts => ts

def expect? (t : Token) : List Token → Option (List Token)
  | [] => none
  | t' :: ts => if t' = t then some ts else none

/-- The end of a line, behind blanks and a comment. -/
def lineEnd? (ts : List Token) : Option (List Token) :=
  match skipBlank ts with
  | [] => some []
  | .newline :: ts => some ts
  | .comment :: .newline :: ts => some ts
  | [.comment] => some []
  | _ => none

/-- One part of a key. A string over lines is none. -/
def keyPart? : List Token → Option (String × List Token)
  | .bare s :: ts => some (s, ts)
  | .text s false :: ts => some (s, ts)
  | _ => none

/-- The further parts of a key, each behind a point. -/
def keyParts? : (count : Nat) → List Token → Option (List String × List Token)
  | 0, _ => none
  | count + 1, ts =>
    match skipBlank ts with
    | .period :: ts => do
      let (part, ts) ← keyPart? (skipBlank ts)
      let (parts, ts) ← keyParts? count ts
      return (part :: parts, ts)
    | ts => some ([], ts)

/-- A key of one part or more. -/
def key? (ts : List Token) : Option (List String × List Token) := do
  let (part, ts) ← keyPart? ts
  let (parts, ts) ← keyParts? (ts.length + 1) ts
  return (part :: parts, ts)

/-! ### Values -/

/-- A word without quotes: a truth value, a number or a point in time. -/
def word? (s : String) (ts : List Token) : Option (Datum × List Token) :=
  match s.toList.head? with
  | none => none
  | some c =>
    if s == "true" then some (.bool true, ts)
    else if s == "false" then some (.bool false, ts)
    else if s == "inf" || s == "nan" || c == '-' || Reading.isDigit c then numberOrMoment? s ts
    else none

mutual

def value? : (count : Nat) → List Token → Option (Datum × List Token)
  | 0, _ => none
  | count + 1, ts =>
    match ts with
    | .text s _ :: ts => some (.text s, ts)
    | .bare s :: ts => word? s ts
    | .plus :: .bare s :: ts => number? s ts
    | .openBracket :: ts => do
      let (items, ts) ← items? count ts
      return (.list items, ts)
    | .openBrace :: ts =>
      match skipBlank ts with
      | .closeBrace :: ts => some (.table [], ts)
      | ts => do
        let (fields, ts) ← fields? count [] ts
        return (.table (doneFields fields), ts)
    | _ => none

/-- The items of an array up to its end. The last may have a comma behind it. -/
def items? : (count : Nat) → List Token → Option (List Datum × List Token)
  | 0, _ => none
  | count + 1, ts =>
    match skipLines ts with
    | .closeBracket :: ts => some ([], ts)
    | ts => do
      let (d, ts) ← value? count ts
      match skipLines ts with
      | .comma :: ts =>
        let (items, ts) ← items? count ts
        return (d :: items, ts)
      | .closeBracket :: ts => return ([d], ts)
      | _ => none

/-- The fields of an inline table up to its end, behind those before. -/
def fields? : (count : Nat) → List (String × Item) → List Token →
    Option (List (String × Item) × List Token)
  | 0, _, _ => none
  | count + 1, fields, ts => do
    let (key, ts) ← key? ts
    let ts ← expect? .equals (skipBlank ts)
    let (d, ts) ← value? count (skipBlank ts)
    let fields ← addDotted d key fields
    match skipBlank ts with
    | .closeBrace :: ts => return (fields, ts)
    | .comma :: ts => fields? count fields (skipBlank ts)
    | _ => none

end

/-! ### Sections -/

/-- A section: the names in its header, whether it adds to an array, and its fields. -/
structure Section where
  header : List String
  array : Bool
  fields : List (String × Item)

/-- The names of a header up to its end, with one bracket or two. -/
def header? (ts : List Token) : Option (List String × Bool × List Token) := do
  let (array, ts) := match ts with
    | .openBracket :: ts => (true, ts)
    | ts => (false, ts)
  let (names, ts) ← key? (skipBlank ts)
  let ts ← expect? .closeBracket (skipBlank ts)
  let ts ← if array then expect? .closeBracket ts else some ts
  let ts ← lineEnd? ts
  return (names, array, ts)

/-- The sections of a document from a line on, with the section that is open. -/
def sections? : (count : Nat) → Section → List Token → Option (List Section)
  | 0, _, _ => none
  | count + 1, sec, ts =>
    match skipLines ts with
    | [] => some [sec]
    | .openBracket :: ts => do
      let (header, array, ts) ← header? ts
      let rest ← sections? count ⟨header, array, []⟩ ts
      return sec :: rest
    | ts => do
      let (key, ts) ← key? ts
      let ts ← expect? .equals (skipBlank ts)
      let (d, ts) ← value? (ts.length + 1) (skipBlank ts)
      let fields ← addDotted d key sec.fields
      let ts ← lineEnd? ts
      sections? count { sec with fields } ts

end DeviceLab.Toml
